import CollectionQuery.Proofs.QueryCall

/-!
# Calls on one handle

A handle is for one collection and one audience.  Any number of calls are under way on it at the
same time, each in a worker of its own, and it may be cancelled at any moment.  What happens is a
list of *events*: a call starts, a call makes its next step, or the handle is cancelled.  The events
come in any order, and between two of them the store may have become any other.

A call issues at most two statements, the count and the rows.  Which of them it has issued is
recorded beside its stage; the two fit together (`Call.Progress`), and this is kept by every event.
Once the handle is cancelled the calls no longer depend on each other: each goes on by its own
steps, as if it were alone (`Handle.getElem?_run`).
-/

namespace CollectionQuery

variable {s t : Store} {a : Audience} {c : Collection} {plan : Plan} {p : CollectionPlan} {k : Bool}

/-! ## Statements -/

/-- What the failure of a statement leads to is no result. -/
theorem StatementFault.result_ne_ok {α : Type} (cause : StatementFault) (name : String) (x : α) :
    (cause.outcome name : Outcome α).result ≠ .ok x := by
  cases cause <;> exact nofun

/-- A statement that a call issues. -/
inductive Statement where
  /-- How many rows meet the condition. -/
  | count (p : CollectionPlan)
  /-- The rows of the page. -/
  | rows (p : CollectionPlan)

namespace QueryCall

/-- The statement that the next step of a call issues. -/
def issues : QueryCall → Option Statement
  | planned p => some (.count p)
  | confirmed p _ => some (.rows p)
  | _ => none

/-- Whether the next step of a call looks for a cancellation. -/
def checks : QueryCall → Bool
  | fresh => true
  | counted _ _ => true
  | _ => false

/-- How many steps a call makes at most. -/
def remaining : QueryCall → Nat
  | fresh => 4
  | planned _ => 3
  | counted _ _ => 2
  | confirmed _ _ => 1
  | ended _ => 0

theorem step_of_checks {q : QueryCall} (h : q.checks = true) :
    q.step s a c plan true = ended (.fail .cancelled) := by
  cases q with
  | fresh => rfl
  | counted p total => rfl
  | planned p => cases h
  | confirmed p total => cases h
  | ended o => cases h

theorem issues_of_checks {q : QueryCall} (h : q.checks = true) : q.issues = none := by
  cases q with
  | fresh => rfl
  | counted p total => rfl
  | planned p => cases h
  | confirmed p total => cases h
  | ended o => cases h

/-- Two statements never follow each other without a check, so that the step after a cancellation is
the last one to issue a statement. -/
theorem issues_step_cancelled (q : QueryCall) : (q.step s a c plan true).issues = none := by
  cases q with
  | fresh => rfl
  | planned p =>
      rw [step]
      split
      · rfl
      · rfl
  | counted p total => rfl
  | confirmed p total =>
      rw [step]
      split
      · rfl
      · rfl
  | ended o => rfl

theorem remaining_step (q : QueryCall) :
    (q.step s a c plan k).remaining ≤ q.remaining - 1 := by
  cases q with
  | fresh =>
      rw [step]
      split
      · exact Nat.zero_le _
      · split
        · exact Nat.le_refl _
        · exact Nat.zero_le _
  | planned p =>
      rw [step]
      split
      · exact Nat.le_refl _
      · exact Nat.zero_le _
  | counted p total =>
      rw [step]
      split
      · exact Nat.zero_le _
      · exact Nat.le_refl _
  | confirmed p total =>
      rw [step]
      split
      · exact Nat.le_refl _
      · exact Nat.le_refl _
  | ended o => exact Nat.le_refl _

theorem exists_ended {q : QueryCall} (h : q.remaining = 0) : ∃ o, q = ended o := by
  cases q with
  | ended o => exact ⟨o, rfl⟩
  | fresh => cases h
  | planned p => cases h
  | counted p total => cases h
  | confirmed p total => cases h

end QueryCall

/-! ## One call -/

/-- A call under way. -/
structure Call where
  plan : Plan
  stage : QueryCall
  /-- The statements that it has issued, oldest first. -/
  issued : List Statement

namespace Call

/-- A call at its start. -/
def start (plan : Plan) : Call := ⟨plan, .fresh, []⟩

/-- The next step of a call; `cancelled` says whether its handle is cancelled. -/
def advance (s : Store) (a : Audience) (c : Collection) (cancelled : Bool) (call : Call) : Call :=
  { call with
    stage := call.stage.step s a c call.plan cancelled
    issued := call.issued ++ call.stage.issues.toList }

/-- What a call has issued by each of its stages. -/
inductive Progress (a : Audience) (c : Collection) : Call → Prop where
  | fresh (plan : Plan) : Progress a c ⟨plan, .fresh, []⟩
  | refused (plan : Plan) (f : Failure) : Progress a c ⟨plan, .ended (.fail f), []⟩
  | planned {plan : Plan} {p : CollectionPlan} (hp : CollectionPlan.ofPlan a c plan = .ok p) :
      Progress a c ⟨plan, .planned p, []⟩
  | uncounted {plan : Plan} {p : CollectionPlan} (hp : CollectionPlan.ofPlan a c plan = .ok p)
      (cause : StatementFault) :
      Progress a c ⟨plan, .ended (cause.outcome c.name), [.count p]⟩
  | counted {plan : Plan} {p : CollectionPlan} (hp : CollectionPlan.ofPlan a c plan = .ok p)
      (total : Nat) :
      Progress a c ⟨plan, .counted p total, [.count p]⟩
  | stopped {plan : Plan} {p : CollectionPlan} (hp : CollectionPlan.ofPlan a c plan = .ok p) :
      Progress a c ⟨plan, .ended (.fail .cancelled), [.count p]⟩
  | confirmed {plan : Plan} {p : CollectionPlan} (hp : CollectionPlan.ofPlan a c plan = .ok p)
      (total : Nat) :
      Progress a c ⟨plan, .confirmed p total, [.count p]⟩
  | unread {plan : Plan} {p : CollectionPlan} (hp : CollectionPlan.ofPlan a c plan = .ok p)
      (cause : StatementFault) :
      Progress a c ⟨plan, .ended (cause.outcome c.name), [.count p, .rows p]⟩
  | returned {plan : Plan} {p : CollectionPlan} (hp : CollectionPlan.ofPlan a c plan = .ok p)
      (result : List PageRow × Int) :
      Progress a c ⟨plan, .ended (.ok result), [.count p, .rows p]⟩

variable {call : Call}

theorem advance_of_ended {o : Outcome (List PageRow × Int)} (h : call.stage = .ended o) :
    call.advance s a c k = call := by
  obtain ⟨plan, stage, issued⟩ := call
  cases h
  simp [advance, QueryCall.step, QueryCall.issues]

theorem Progress.advance (h : Progress a c call) :
    Progress a c (call.advance s a c k) := by
  cases h with
  | fresh plan =>
      dsimp only [Call.advance, QueryCall.step]
      split
      · exact .refused _ .cancelled
      · split
        · next p hp => exact .planned hp
        · next f hf => exact .refused _ f
  | planned hp =>
      dsimp only [Call.advance, QueryCall.step]
      split
      · next total hcount => exact .counted hp total
      · next cause hcount => exact .uncounted hp cause
  | counted hp total =>
      dsimp only [Call.advance, QueryCall.step]
      split
      · exact .stopped hp
      · exact .confirmed hp total
  | confirmed hp total =>
      dsimp only [Call.advance, QueryCall.step]
      split
      · next rows hrows => exact .returned hp (rows, total)
      · next cause hrows => exact .unread hp cause
  | refused plan f =>
      rw [advance_of_ended rfl]
      exact .refused _ f
  | uncounted hp cause =>
      rw [advance_of_ended rfl]
      exact .uncounted hp cause
  | stopped hp =>
      rw [advance_of_ended rfl]
      exact .stopped hp
  | unread hp cause =>
      rw [advance_of_ended rfl]
      exact .unread hp cause
  | returned hp result =>
      rw [advance_of_ended rfl]
      exact .returned hp result

/-- A call that has a result has issued both statements for one plan. -/
theorem Progress.issued_of_ok (h : Progress a c call) {o : Outcome (List PageRow × Int)}
    (hstage : call.stage = .ended o) {result : List PageRow × Int}
    (hresult : o.result = .ok result) :
    ∃ p, CollectionPlan.ofPlan a c call.plan = .ok p ∧ call.issued = [.count p, .rows p] := by
  cases h with
  | returned hp result => exact ⟨_, hp, rfl⟩
  | refused plan f =>
      cases hstage
      cases hresult
  | stopped hp =>
      cases hstage
      cases hresult
  | uncounted hp cause =>
      cases hstage
      exact absurd hresult (cause.result_ne_ok _ _)
  | unread hp cause =>
      cases hstage
      exact absurd hresult (cause.result_ne_ok _ _)
  | fresh plan => cases hstage
  | planned hp => cases hstage
  | counted hp total => cases hstage
  | confirmed hp total => cases hstage

theorem Progress.issued_of_fresh (h : Progress a c call) (hstage : call.stage = .fresh) :
    call.issued = [] := by
  cases h with
  | fresh plan => rfl
  | _ => cases hstage

theorem Progress.issued_of_counted (h : Progress a c call) {total : Nat}
    (hstage : call.stage = .counted p total) : call.issued = [.count p] := by
  cases h with
  | counted hp total =>
      cases hstage
      rfl
  | _ => cases hstage

/-! ## A call on a cancelled handle -/

/-- A call after further steps of its own on a cancelled handle, given the store at each of them. -/
def resume (a : Audience) (c : Collection) (call : Call) (stores : List Store) : Call :=
  stores.foldl (fun call s => call.advance s a c true) call

theorem resume_cons (call : Call) (s : Store) (stores : List Store) :
    call.resume a c (s :: stores) = (call.advance s a c true).resume a c stores := rfl

theorem resume_of_ended {o : Outcome (List PageRow × Int)} (h : call.stage = .ended o)
    (stores : List Store) : call.resume a c stores = call := by
  induction stores with
  | nil => rfl
  | cons s stores ih => rw [resume_cons, advance_of_ended h, ih]

/-- A call before a check is ended by it, and stays as it is. -/
theorem resume_of_checks (h : call.stage.checks = true) (s : Store) (stores : List Store) :
    call.resume a c (s :: stores) = { call with stage := .ended (.fail .cancelled) } := by
  have hnext : call.advance s a c true = { call with stage := .ended (.fail .cancelled) } := by
    rw [advance, QueryCall.step_of_checks h, QueryCall.issues_of_checks h, Option.toList_none,
      List.append_nil]
  rw [resume_cons, hnext, resume_of_ended rfl]

theorem issued_resume_of_issues (h : call.stage.issues = none) (stores : List Store) :
    (call.resume a c stores).issued = call.issued := by
  induction stores generalizing call with
  | nil => rfl
  | cons s stores ih =>
      rw [resume_cons, ih (QueryCall.issues_step_cancelled _), advance, h, Option.toList_none,
        List.append_nil]

/-- On a cancelled handle a call issues no more than the statement of its next step. -/
theorem issued_resume (call : Call) (stores : List Store) :
    ∃ more, more.length ≤ 1 ∧ (call.resume a c stores).issued = call.issued ++ more := by
  cases stores with
  | nil => exact ⟨[], Nat.zero_le _, (List.append_nil _).symm⟩
  | cons s stores =>
      refine ⟨call.stage.issues.toList, ?_, ?_⟩
      · cases call.stage.issues with
        | none => exact Nat.zero_le _
        | some statement => exact Nat.le_refl _
      · rw [resume_cons, issued_resume_of_issues (QueryCall.issues_step_cancelled _)]
        rfl

end Call

/-! ## Events on a handle -/

/-- A handle and the calls on it, in the order in which they started. -/
structure Handle where
  cancelled : Bool
  calls : List Call

namespace Handle

/-- What happens on a handle. -/
inductive Event where
  /-- A call starts. -/
  | start (plan : Plan)
  /-- The call in a position makes its next step on a store. -/
  | advance (n : Nat) (s : Store)
  /-- The handle is cancelled. -/
  | cancel

/-- A handle without calls. -/
def new : Handle := ⟨false, []⟩

/-- A handle after an event.  A call that has not started makes no step. -/
def apply (a : Audience) (c : Collection) (h : Handle) : Event → Handle
  | .start plan => { h with calls := h.calls ++ [.start plan] }
  | .advance n s => { h with calls := h.calls.modify n (Call.advance s a c h.cancelled) }
  | .cancel => { h with cancelled := true }

/-- A handle after events, one after the other. -/
def run (a : Audience) (c : Collection) (h : Handle) (events : List Event) : Handle :=
  events.foldl (apply a c) h

/-- The store at the step of the call in a position, if an event is such a step. -/
def Event.turn (n : Nat) : Event → Option Store
  | .advance m s => if m = n then some s else none
  | _ => none

/-- The stores at the steps of the call in a position. -/
def turns (n : Nat) (events : List Event) : List Store := events.filterMap (Event.turn n)

variable {h : Handle} {n : Nat} {call : Call}

theorem run_cons (h : Handle) (e : Event) (events : List Event) :
    h.run a c (e :: events) = (h.apply a c e).run a c events := rfl

theorem turns_cons (n : Nat) (e : Event) (events : List Event) :
    turns n (e :: events) = (e.turn n).toList ++ turns n events := by
  rw [turns, List.filterMap_cons]
  cases e.turn n with
  | none => rfl
  | some s => rfl

theorem getElem?_start (h : Handle) (plan : Plan) :
    (h.apply a c (.start plan)).calls[h.calls.length]? = some (.start plan) :=
  List.getElem?_concat_length

theorem run_append (h : Handle) (before after : List Event) :
    h.run a c (before ++ after) = (h.run a c before).run a c after := List.foldl_append

/-! ### Cancellation is never taken back -/

theorem cancelled_apply (e : Event) (hcancelled : h.cancelled = true) :
    (h.apply a c e).cancelled = true := by
  cases e with
  | start plan => exact hcancelled
  | advance n s => exact hcancelled
  | cancel => rfl

theorem cancelled_run (events : List Event) (hcancelled : h.cancelled = true) :
    (h.run a c events).cancelled = true := by
  induction events generalizing h with
  | nil => exact hcancelled
  | cons e events ih => exact ih (cancelled_apply e hcancelled)

theorem cancelled_of_mem {events : List Event} (hmem : .cancel ∈ events) :
    (h.run a c events).cancelled = true := by
  obtain ⟨before, after, rfl⟩ := List.append_of_mem hmem
  rw [run_append, run_cons]
  exact cancelled_run after rfl

/-! ### What the calls have done -/

/-- Every call on the handle is at one of the stages of its plan. -/
def InProgress (a : Audience) (c : Collection) (h : Handle) : Prop :=
  ∀ call ∈ h.calls, call.Progress a c

theorem InProgress.apply (e : Event) (hcalls : h.InProgress a c) :
    (h.apply a c e).InProgress a c := by
  cases e with
  | start plan =>
      intro call hmem
      rcases List.mem_append.1 hmem with hold | hnew
      · exact hcalls call hold
      · obtain rfl := List.mem_singleton.1 hnew
        exact .fresh plan
  | advance n s =>
      intro call hmem
      obtain ⟨m, hget⟩ := List.mem_iff_getElem?.1 hmem
      rw [Handle.apply, List.getElem?_modify] at hget
      obtain ⟨old, hold, heq⟩ := Option.map_eq_some_iff.1 hget
      have hprogress := hcalls old (List.mem_of_getElem? hold)
      subst heq
      split
      · exact hprogress.advance
      · exact hprogress
  | cancel => exact hcalls

theorem InProgress.run (events : List Event) (hcalls : h.InProgress a c) :
    (h.run a c events).InProgress a c := by
  induction events generalizing h with
  | nil => exact hcalls
  | cons e events ih => exact ih (hcalls.apply e)

theorem inProgress_new : new.InProgress a c := List.forall_mem_nil _

/-- What a call has issued along a run of a handle fits its stage. -/
theorem progress_of_getElem? {events : List Event}
    (hcall : (new.run a c events).calls[n]? = some call) : call.Progress a c :=
  inProgress_new.run events call (List.mem_of_getElem? hcall)

/-! ### Calls on a cancelled handle -/

theorem getElem?_apply (e : Event) (hcancelled : h.cancelled = true)
    (hcall : h.calls[n]? = some call) :
    (h.apply a c e).calls[n]? = some (call.resume a c (e.turn n).toList) := by
  cases e with
  | start plan =>
      exact (List.getElem?_append_left (List.getElem?_eq_some_iff.1 hcall).1).trans hcall
  | cancel => exact hcall
  | advance m s =>
      rw [apply, List.getElem?_modify, hcall, hcancelled, Event.turn]
      split
      · rfl
      · rfl

/-- Once the handle is cancelled, what the others do makes no difference to a call. -/
theorem getElem?_run (events : List Event) (hcancelled : h.cancelled = true)
    (hcall : h.calls[n]? = some call) :
    (h.run a c events).calls[n]? = some (call.resume a c (turns n events)) := by
  induction events generalizing h call with
  | nil => exact hcall
  | cons e events ih =>
      rw [run_cons, ih (cancelled_apply e hcancelled) (getElem?_apply e hcancelled hcall),
        turns_cons, Call.resume, Call.resume, Call.resume, List.foldl_append]

end Handle

end CollectionQuery

/-!
## Calls on a handle that is cancelled

A cancellation reaches a call at its next check.  A call that has not made its second check issues
no rows, whatever the other calls do and however the events are mixed; one that has made it still
issues the statement that is due, and ends with what that gives.

A call makes at most four steps, so that one that goes on comes to its end.
-/

namespace CollectionQuery.Handle

variable {s : Store} {a : Audience} {c : Collection} {h : Handle} {n : Nat} {call : Call}

/-! ### Calls go on -/

theorem exists_getElem?_apply (e : Event) (hcall : h.calls[n]? = some call) :
    ∃ next, (h.apply a c e).calls[n]? = some next ∧ next.plan = call.plan ∧
      next.stage.remaining ≤ call.stage.remaining - (e.turn n).toList.length := by
  cases e with
  | start plan =>
      have hn := (List.getElem?_eq_some_iff.1 hcall).1
      exact ⟨call, (List.getElem?_append_left hn).trans hcall, rfl, Nat.le_refl _⟩
  | cancel => exact ⟨call, hcall, rfl, Nat.le_refl _⟩
  | advance m s =>
      rw [apply, List.getElem?_modify, hcall, Event.turn]
      split
      · exact ⟨_, rfl, rfl, QueryCall.remaining_step _⟩
      · exact ⟨call, rfl, rfl, Nat.le_refl _⟩

/-- A call keeps its position and its plan, and comes closer to its end with each of its steps. -/
theorem exists_getElem?_run (events : List Event) (hcall : h.calls[n]? = some call) :
    ∃ later, (h.run a c events).calls[n]? = some later ∧ later.plan = call.plan ∧
      later.stage.remaining ≤ call.stage.remaining - (turns n events).length := by
  induction events generalizing h call with
  | nil => exact ⟨call, hcall, rfl, Nat.le_refl _⟩
  | cons e events ih =>
      obtain ⟨next, hnext, hplan, hle⟩ := exists_getElem?_apply (a := a) (c := c) e hcall
      obtain ⟨later, hlater, hplan', hle'⟩ := ih hnext
      refine ⟨later, hlater, hplan'.trans hplan, ?_⟩
      rw [turns_cons, List.length_append]
      omega

/-- A call that has made four steps has ended. -/
theorem exists_ended_of_turns (h : Handle) (plan : Plan) (events : List Event)
    (hn : n = h.calls.length) (hturns : 4 ≤ (turns n events).length) :
    ∃ call o, (h.run a c (.start plan :: events)).calls[n]? = some call ∧ call.plan = plan ∧
      call.stage = .ended o := by
  subst hn
  obtain ⟨call, hcall, hplan, hle⟩ :=
    exists_getElem?_run (a := a) (c := c) events (getElem?_start (a := a) (c := c) h plan)
  have hstart : (Call.start plan).stage.remaining = 4 := rfl
  obtain ⟨o, ho⟩ := QueryCall.exists_ended (q := call.stage) (by omega)
  exact ⟨call, o, hcall, hplan, ho⟩

/-! ### Calls stop -/

/-- What holds of a handle that is cancelled after some events. -/
structure Stops (a : Audience) (c : Collection) (before : List Event) : Prop where
  /-- It stays cancelled. -/
  cancelled (after : List Event) : (new.run a c (before ++ after)).cancelled = true
  /-- A call that starts from now on issues no statement, and its first step ends it. -/
  late_start (plan : Plan) (after : List Event) (n : Nat)
    (hn : n = (new.run a c before).calls.length) :
    ∃ call, (new.run a c (before ++ .start plan :: after)).calls[n]? = some call ∧
      call.plan = plan ∧ call.issued = [] ∧
      (turns n after ≠ [] → call.stage = .ended (.fail .cancelled))
  /-- A call that makes its first check from now on issues no statement, and the check ends it. -/
  first_check (n : Nat) (call : Call) (s : Store) (after : List Event)
    (hcall : (new.run a c before).calls[n]? = some call) (hstage : call.stage = .fresh) :
    (new.run a c (before ++ .advance n s :: after)).calls[n]? =
      some ⟨call.plan, .ended (.fail .cancelled), []⟩
  /-- A call that makes its second check from now on issues no rows, and the check ends it. -/
  second_check (n : Nat) (call : Call) (p : CollectionPlan) (total : Nat) (s : Store)
    (after : List Event) (hcall : (new.run a c before).calls[n]? = some call)
    (hstage : call.stage = .counted p total) :
    (new.run a c (before ++ .advance n s :: after)).calls[n]? =
      some ⟨call.plan, .ended (.fail .cancelled), [.count p]⟩
  /-- Any call issues at most one more statement. -/
  one_more (n : Nat) (call : Call) (after : List Event)
    (hcall : (new.run a c before).calls[n]? = some call) :
    ∃ later more, (new.run a c (before ++ after)).calls[n]? = some later ∧
      later.issued = call.issued ++ more ∧ more.length ≤ 1

theorem late_start_of_cancelled (plan : Plan) (events : List Event)
    (hcancelled : h.cancelled = true) (hn : n = h.calls.length) :
    ∃ call, (h.run a c (.start plan :: events)).calls[n]? = some call ∧ call.plan = plan ∧
      call.issued = [] ∧ (turns n events ≠ [] → call.stage = .ended (.fail .cancelled)) := by
  subst hn
  have hcall := getElem?_run (a := a) (c := c) events (cancelled_apply (.start plan) hcancelled)
    (getElem?_start (a := a) (c := c) h plan)
  refine ⟨_, hcall, ?_⟩
  cases turns h.calls.length events with
  | nil => exact ⟨rfl, rfl, fun hnil => absurd rfl hnil⟩
  | cons s stores =>
      rw [Call.resume_of_checks rfl]
      exact ⟨rfl, rfl, fun _ => rfl⟩

theorem check_of_cancelled (events : List Event) (hcancelled : h.cancelled = true)
    (hcall : h.calls[n]? = some call) (hchecks : call.stage.checks = true) :
    (h.run a c (.advance n s :: events)).calls[n]? =
      some { call with stage := .ended (.fail .cancelled) } := by
  have hturns : turns n (.advance n s :: events) = s :: turns n events := by
    rw [turns_cons, Event.turn, if_pos rfl, Option.toList_some, List.singleton_append]
  rw [getElem?_run _ hcancelled hcall, hturns, Call.resume_of_checks hchecks]

/-- A handle stops its calls as soon as it is cancelled. -/
theorem stops_of_cancel {before : List Event} (hcancel : .cancel ∈ before) : Stops a c before := by
  have hcancelled : (new.run a c before).cancelled = true := cancelled_of_mem hcancel
  constructor
  case cancelled =>
    intro after
    rw [run_append]
    exact cancelled_run after hcancelled
  case late_start =>
    intro plan after n hn
    rw [run_append]
    exact late_start_of_cancelled plan after hcancelled hn
  case first_check =>
    intro n call s after hcall hstage
    rw [run_append, check_of_cancelled after hcancelled hcall (hstage ▸ rfl),
      (progress_of_getElem? hcall).issued_of_fresh hstage]
  case second_check =>
    intro n call p total s after hcall hstage
    rw [run_append, check_of_cancelled after hcancelled hcall (hstage ▸ rfl),
      (progress_of_getElem? hcall).issued_of_counted hstage]
  case one_more =>
    intro n call after hcall
    obtain ⟨more, hlength, hissued⟩ := Call.issued_resume (a := a) (c := c) call (turns n after)
    rw [run_append]
    exact ⟨_, more, getElem?_run after hcancelled hcall, hissued, hlength⟩

/-! ### The protocol -/

/-- In whatever order the events of a handle come: a call that returns has issued its count and then
its rows, nothing else, both for the condition of its plan; and after a cancellation no call gets
beyond the statement that is due. -/
theorem cancellation_protocol (a : Audience) (c : Collection) :
    (∀ (events : List Event) (n : Nat) (call : Call) (o : Outcome (List PageRow × Int))
      (result : List PageRow × Int), (new.run a c events).calls[n]? = some call →
      call.stage = .ended o → o.result = .ok result →
      ∃ p, CollectionPlan.ofPlan a c call.plan = .ok p ∧
        call.plan.predicate.clause a c = .ok p.condition ∧ call.issued = [.count p, .rows p]) ∧
    ∀ before : List Event, .cancel ∈ before → Stops a c before := by
  refine ⟨fun events n call o result hcall hstage hresult => ?_, fun before => stops_of_cancel⟩
  obtain ⟨p, hp, hissued⟩ := (progress_of_getElem? hcall).issued_of_ok hstage hresult
  obtain ⟨condition, order, paths, columns, hcondition, -, -, -, rfl⟩ :=
    CollectionPlan.ofPlan_eq_ok.1 hp
  exact ⟨_, hp, hcondition, hissued⟩

/-- Two calls, one between its count and its second check and one before its count. -/
theorem cancellation_protocol_two_calls :
    let plan : Plan := ⟨"events", .always, [], none, [], 0, 20⟩
    let p : CollectionPlan := {
      collection := .events
      condition := none
      order := [⟨[], "created_at", .descending⟩]
      columns := Collection.events.columns.map (·.name)
      paths := []
      skip := 0
      take := 20 }
    let before : List Event := [.start plan, .advance 0 .empty, .start plan, .advance 1 .empty,
      .advance 0 .empty, .cancel]
    (new.run .staff .events before).calls =
      [⟨plan, .counted p 0, [.count p]⟩, ⟨plan, .planned p, []⟩] ∧
    .cancel ∈ before ∧
    ∀ s after, (new.run .staff .events (before ++ .advance 0 s :: after)).calls[0]? =
      some ⟨plan, .ended (.fail .cancelled), [.count p]⟩ := by
  intro plan p before
  have hcalls : (new.run .staff .events before).calls =
      [⟨plan, .counted p 0, [.count p]⟩, ⟨plan, .planned p, []⟩] := by
    rfl
  have hcancel : Event.cancel ∈ before := by simp [before]
  have hstops := (cancellation_protocol .staff .events).2 before hcancel
  exact ⟨hcalls, hcancel, fun s after =>
    hstops.second_check 0 _ p 0 s after (by rw [hcalls]; rfl) rfl⟩

/-! ## A call by itself -/

/-- Executing a plan is a run of a handle with a single call, in which the flags say when it is
cancelled. -/
theorem calls_run_execute (s : Store) (a : Audience) (c : Collection) (plan : Plan)
    (cancelledBefore cancelledAfterCount : Bool) :
    ((new.run a c ([.start plan] ++ (if cancelledBefore then [.cancel] else []) ++
      [.advance 0 s, .advance 0 s] ++ (if cancelledAfterCount then [.cancel] else []) ++
      [.advance 0 s, .advance 0 s])).calls.map fun call => call.stage.outcome) =
      [execute s a c plan cancelledBefore cancelledAfterCount] := by
  cases cancelledBefore <;> cases cancelledAfterCount <;> rfl

end CollectionQuery.Handle
