import CollectionQuery.Proofs.Outcome

/-!
# How an operation may fail

An operation *fails only* in some way if every failure it may end with is of that kind.  Operations
in sequence fail only as their members do, so what is shown for every step holds of the whole.
-/

namespace CollectionQuery

variable {α β : Type} {P Q : Failure → Prop}

/-- Whether every failure that a result may be has a property. -/
def FailsOnly (P : Failure → Prop) (r : Except Failure α) : Prop := ∀ f, r = .error f → P f

namespace FailsOnly

variable {r : Except Failure α}

theorem of_ok (a : α) : FailsOnly P (.ok a) := by
  intro f h
  cases h

theorem of_error {f : Failure} (h : P f) : FailsOnly P (.error f : Except Failure α) := by
  intro g hg
  cases hg
  exact h

theorem error_iff {f : Failure} : FailsOnly P (.error f : Except Failure α) ↔ P f :=
  ⟨fun h => h f rfl, of_error⟩

theorem mono (h : FailsOnly P r) (hPQ : ∀ f, P f → Q f) : FailsOnly Q r :=
  fun f hf => hPQ f (h f hf)

/-- What comes next counts only where there is something that it comes after. -/
theorem bind {f : α → Except Failure β} (hr : FailsOnly P r)
    (hf : ∀ a, r = .ok a → FailsOnly P (f a)) : FailsOnly P (r >>= f) := by
  cases r with
  | ok a => exact hf a rfl
  | error e => exact of_error (hr e rfl)

theorem bind_iff {f : α → Except Failure β} : FailsOnly P (r >>= f) ↔
    FailsOnly P r ∧ ∀ a, r = .ok a → FailsOnly P (f a) := by
  refine ⟨fun h => ?_, fun h => h.1.bind h.2⟩
  cases r with
  | ok a =>
      refine ⟨of_ok a, fun b hb => ?_⟩
      cases hb
      exact h
  | error e => exact ⟨of_error (h e rfl), nofun⟩

theorem map (hr : FailsOnly P r) (g : α → β) : FailsOnly P (r.map g) := by
  cases r with
  | ok a => exact of_ok _
  | error e => exact of_error (hr e rfl)

theorem map_iff {g : α → β} : FailsOnly P (r.map g) ↔ FailsOnly P r := by
  cases r with
  | ok a => exact iff_of_true (of_ok _) (of_ok _)
  | error e => exact error_iff.trans error_iff.symm

theorem mapM {f : α → Except Failure β} {items : List α}
    (hf : ∀ a ∈ items, FailsOnly P (f a)) : FailsOnly P (items.mapM f) := by
  induction items with
  | nil => exact of_ok _
  | cons a rest ih =>
      obtain ⟨ha, hrest⟩ := List.forall_mem_cons.1 hf
      rw [List.mapM_cons]
      exact ha.bind fun b _ => (ih hrest).bind fun bs _ => of_ok _

/-- A result that is there unless it is refused. -/
theorem ite {p : Prop} [Decidable p] {x y : Except Failure α} (hx : p → FailsOnly P x)
    (hy : ¬ p → FailsOnly P y) : FailsOnly P (if p then x else y) := by
  split
  · next h => exact hx h
  · next h => exact hy h

/-- Operations that record fail as those do that do not. -/
theorem result_bind {o : Outcome α} {f : α → Outcome β} (ho : FailsOnly P o.result)
    (hf : ∀ a, o.result = .ok a → FailsOnly P (f a).result) : FailsOnly P (o >>= f).result := by
  rw [Outcome.result_bind]
  exact ho.bind hf

end FailsOnly

/-- Whether a failure is answered as one of the client: the request is bad, or what it names is not
there. -/
def Failure.IsClient (f : Failure) : Prop := f.status? = some 400 ∨ f.status? = some 404

/-- Whether a query was refused for a value in it. -/
def Failure.IsRejected (f : Failure) : Prop := ∃ cause, f = rejected cause

theorem Failure.isClient_rejected (cause : Rejection) : (rejected cause).IsClient := Or.inl rfl

theorem Failure.IsRejected.isClient {f : Failure} (h : f.IsRejected) : f.IsClient := by
  obtain ⟨cause, rfl⟩ := h
  exact isClient_rejected cause

theorem Refusal.status_eq (cause : Refusal) : cause.status = 400 ∨ cause.status = 404 := by
  cases cause <;> simp [Refusal.status]

theorem Failure.isClient_refused (cause : Refusal) : (refused cause).IsClient :=
  cause.status_eq.imp (congrArg some) (congrArg some)

theorem Failure.not_isClient_fault (cause : Fault) : ¬ (fault cause).IsClient := by
  rintro (h | h) <;> cases h

end CollectionQuery
