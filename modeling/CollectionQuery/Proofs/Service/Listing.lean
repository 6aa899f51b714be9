import CollectionQuery.Proofs.QueryCall.Alike
import CollectionQuery.Service

/-!
# Listing

A listing reads the store only through the plan that its query makes.  If there is no plan, or no
time to run it, the listing ends in the same way for all stores.  Otherwise it ends with the page of
what the plan shows.
-/

namespace CollectionQuery.Service

open CollectionPlan

variable {settings : Settings} {a : Audience} {name : String} {q : QueryParams}
  {p : CollectionPlan}

/-- Reads a query and lists the rows that it asks for. -/
def listRaw (settings : Settings) (s : Store) (a : Audience) (name : String) (raw : RawQuery) :
    Except Failure (Page Value) := do
  let q ← QueryParams.ofRaw settings raw
  (list settings s a name q).result

/-- The plan that a listing runs, read against its collection. -/
def listPlan (settings : Settings) (a : Audience) (name : String) (q : QueryParams) :
    Except Failure CollectionPlan := do
  let c ← collectionFor a name
  let plan ← (Plan.of settings (listContext a c) q).result
  CollectionPlan.ofPlan a c plan

/-- The page of what a run shows, after what the query has recorded. -/
def pageOf (log : List LogEntry) (q : QueryParams) (o : Outcome (List Value × Int)) :
    Outcome (Page Value) :=
  match o.result with
  | .ok r => ⟨log ++ o.log, (PageMeta.of q.page q.limit r.2).map fun place => ⟨r.1, place⟩⟩
  | .error f => ⟨log ++ o.log, .error f⟩

theorem collectionFor_eq_ok {c : Collection} (h : collectionFor a name = .ok c) :
    a.sees c = true := by
  obtain ⟨d, -, h⟩ := bind_eq_ok.1 h
  split at h
  · next hsees =>
      cases h
      exact hsees
  · cases h

theorem listPlan_eq_ok :
    listPlan settings a name q = .ok p ↔ ∃ c plan, collectionFor a name = .ok c ∧
      (Plan.of settings (listContext a c) q).result = .ok plan ∧
      CollectionPlan.ofPlan a c plan = .ok p := by
  rw [listPlan]
  constructor
  · intro h
    obtain ⟨c, hc, h⟩ := bind_eq_ok.1 h
    obtain ⟨plan, hplan, h⟩ := bind_eq_ok.1 h
    exact ⟨c, plan, hc, hplan, h⟩
  · rintro ⟨c, plan, hc, hplan, h⟩
    exact bind_eq_ok.2 ⟨c, hc, bind_eq_ok.2 ⟨plan, hplan, h⟩⟩

theorem fits_listPlan (h : listPlan settings a name q = .ok p) : p.Fits a := by
  obtain ⟨c, plan, -, -, hread⟩ := listPlan_eq_ok.1 h
  exact (fits_ofPlan hread).2

theorem showRows_ok {ρ α : Type} (shown : ρ → α) (rows : List ρ) :
    showRows (fun row => .ok (shown row)) rows = .ok (rows.map shown) := by
  induction rows with
  | nil => rfl
  | cons row rest ih => rw [showRows, ih]; rfl

theorem ofRows_ok {ρ α : Type} (shown : ρ → α) (rows : List ρ) (total : Int) :
    Page.ofRows q (fun row => .ok (shown row)) rows total =
      (PageMeta.of q.page q.limit total).map fun place => ⟨rows.map shown, place⟩ := by
  rw [Page.ofRows, showRows_ok]
  cases PageMeta.of q.page q.limit total <;> rfl

/-! ## How a listing ends -/

theorem list_refused {f : Failure} (hc : collectionFor a name = .error f) (s : Store) :
    list settings s a name q = .fail f := by
  rw [list, hc]
  rfl

section

variable {c : Collection} (hc : collectionFor a name = .ok c)
include hc

theorem list_eq_paginate (s : Store) :
    list settings s a name q = (paginate settings (listContext a c) none
      (fun plan => .finished (execute s a c plan false false)) (fun row => .ok row.display)
      q).outcome := by
  rw [list, hc]
  rfl

theorem list_unplanned {log : List LogEntry} {f : Failure}
    (hplan : Plan.of settings (listContext a c) q = ⟨log, .error f⟩) (s : Store) :
    list settings s a name q = ⟨log, .error f⟩ := by
  rw [list_eq_paginate hc, paginate, hplan]

variable {plan : Plan} {log : List LogEntry}
  (hplan : Plan.of settings (listContext a c) q = ⟨log, .ok plan⟩)
include hplan

theorem list_untimely (htime : leavesTime settings.timeoutSeconds = false) (s : Store) :
    list settings s a name q =
      ⟨log ++ [.timedOut c.name settings.timeoutSeconds], .error (.timedOut c.name)⟩ := by
  rw [list_eq_paginate hc, paginate, hplan]
  simp [htime, listContext]

/-- A listing whose plan was made and has time to run ends with the page of what the plan shows. -/
theorem list_of_plan (htime : leavesTime settings.timeoutSeconds = true) (s : Store) :
    list settings s a name q = pageOf log q (shown (execute s a c plan false false)) := by
  rw [list_eq_paginate hc, paginate, hplan]
  simp only [Option.getD_none, htime, Bool.not_true, Bool.false_eq_true, if_false]
  cases hexecute : execute s a c plan false false with
  | mk entries result =>
      cases result with
      | error f => simp [pageOf, shown, bind, Outcome.bind, Except.map]
      | ok r =>
          simp [pageOf, shown, bind, Outcome.bind, Except.map, Outcome.ofExcept, ofRows_ok]

end

/-- A listing whose plan has no time to run, or does not fit, fails in the same way for all
stores. -/
theorem list_of_no_plan (h : leavesTime settings.timeoutSeconds = true →
    ∀ p, listPlan settings a name q ≠ .ok p) :
    ∃ log f, ∀ s, list settings s a name q = ⟨log, .error f⟩ := by
  cases hc : collectionFor a name with
  | error f => exact ⟨[], f, list_refused hc⟩
  | ok c =>
      rcases hplan : Plan.of settings (listContext a c) q with ⟨log, f | plan⟩
      · exact ⟨log, f, list_unplanned hc hplan⟩
      · cases htime : leavesTime settings.timeoutSeconds with
        | false => exact ⟨_, _, list_untimely hc hplan htime⟩
        | true =>
            cases hread : CollectionPlan.ofPlan a c plan with
            | ok p =>
                exact absurd (listPlan_eq_ok.2 ⟨c, plan, hc, by rw [hplan], hread⟩) (h htime p)
            | error f =>
                refine ⟨log ++ [], f, fun s => ?_⟩
                rw [list_of_plan hc hplan htime, execute_of_misfit hread]
                rfl

/-- A listing whose plan fits and has time to run ends with the page of what the plan shows. -/
theorem list_of_listPlan (h : listPlan settings a name q = .ok p)
    (htime : leavesTime settings.timeoutSeconds = true) :
    ∃ log, ∀ s, list settings s a name q = pageOf log q (shown (p.run s a)) := by
  obtain ⟨c, plan, hc, hplan, hread⟩ := listPlan_eq_ok.1 h
  refine ⟨(Plan.of settings (listContext a c) q).log, fun s => ?_⟩
  rw [← execute_of_ofPlan hread]
  exact list_of_plan hc (Outcome.ext_iff.2 ⟨rfl, hplan⟩) htime s

/-- A listing with a plan that fits and time to run it, or one that fails for all stores. -/
theorem list_cases (settings : Settings) (a : Audience) (name : String) (q : QueryParams) :
    (∃ p log, listPlan settings a name q = .ok p ∧ leavesTime settings.timeoutSeconds = true ∧
      ∀ s, list settings s a name q = pageOf log q (shown (p.run s a))) ∨
    ((leavesTime settings.timeoutSeconds = true → ∀ p, listPlan settings a name q ≠ .ok p) ∧
      ∃ log f, ∀ s, list settings s a name q = ⟨log, .error f⟩) := by
  by_cases h : leavesTime settings.timeoutSeconds = true → ∀ p, listPlan settings a name q ≠ .ok p
  · exact Or.inr ⟨h, list_of_no_plan h⟩
  · push Not at h
    obtain ⟨htime, p, hp⟩ := h
    obtain ⟨log, hlist⟩ := list_of_listPlan hp htime
    exact Or.inl ⟨p, log, hp, htime, hlist⟩

theorem pageOf_eq_ok {log : List LogEntry} {o : Outcome (List Value × Int)} {page : Page Value} :
    (pageOf log q o).result = .ok page ↔ ∃ total, o.result = .ok (page.data, total) ∧
      PageMeta.of q.page q.limit total = .ok page.info := by
  obtain ⟨data, info⟩ := page
  rw [pageOf]
  cases o.result with
  | error f => simp
  | ok r =>
      obtain ⟨rows, total⟩ := r
      cases hinfo : PageMeta.of q.page q.limit total <;> simp [Except.map, hinfo]

theorem shown_eq_ok {o : Outcome (List PageRow × Int)} {data : List Value} {total : Int} :
    (shown o).result = .ok (data, total) ↔
      ∃ rows, o.result = .ok (rows, total) ∧ rows.map PageRow.display = data := by
  rw [shown, map_eq_ok]
  simp

theorem pageOf_refused_iff {log : List LogEntry} {o : Outcome (List Value × Int)} :
    (pageOf log q o).result = .error (.engine Failure.engineDetail) ↔
      o.result = .error (.engine Failure.engineDetail) := by
  rw [pageOf]
  cases o.result with
  | error f => simp
  | ok r =>
      simp only [PageMeta.of]
      cases pageCount q.limit r.2 <;> simp [Except.map]

theorem shown_refused_iff {o : Outcome (List PageRow × Int)} :
    (shown o).result = .error (.engine Failure.engineDetail) ↔
      o.result = .error (.engine Failure.engineDetail) := by
  rw [shown]
  cases o.result <;> simp [Except.map]

/-- What a listing shows is what its plan shows. -/
theorem list_eq_ok {s : Store} {page : Page Value}
    (h : (list settings s a name q).result = .ok page) :
    ∃ p rows total, listPlan settings a name q = .ok p ∧ (p.run s a).result = .ok (rows, total) ∧
      rows.map PageRow.display = page.data ∧
      PageMeta.of q.page q.limit total = .ok page.info := by
  rcases list_cases settings a name q with ⟨p, log, hp, -, hlist⟩ | ⟨-, log, f, hlist⟩
  · rw [hlist] at h
    obtain ⟨total, hshown, hinfo⟩ := pageOf_eq_ok.1 h
    obtain ⟨rows, hrun, hdata⟩ := shown_eq_ok.1 hshown
    exact ⟨p, rows, total, hp, hrun, hdata, hinfo⟩
  · rw [hlist] at h
    cases h

end CollectionQuery.Service
