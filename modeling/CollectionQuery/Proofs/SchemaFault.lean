import CollectionQuery.Proofs.Outcome
import CollectionQuery.QueryParams

/-!
# Documents without faults

What it takes for a document to have no faults: every part of it has none, whatever place it stands
in and whatever other parts stand beside it.
-/

namespace CollectionQuery.Checked

variable {α β : Type} {a : α} {x : Checked α} {y : Checked β}

theorem within_eq_ok {name : String} : within name x = .ok a ↔ x = .ok a := by
  cases x with
  | ok b => simp [within, Except.mapError]
  | error faults => simp [within, Except.mapError]

theorem both_eq_ok {r : α × β} : both x y = .ok r ↔ x = .ok r.1 ∧ y = .ok r.2 := by
  obtain ⟨a, b⟩ := r
  cases x with
  | ok c =>
      cases y with
      | ok d => simp [both]
      | error faults => simp [both]
  | error faults =>
      cases y with
      | ok d => simp [both]
      | error more => simp [both]

theorem cons_eq_ok {items : List α} {rest : Checked (List α)} :
    cons x rest = .ok items ↔
      ∃ a others, x = .ok a ∧ rest = .ok others ∧ items = a :: others := by
  rw [cons, map_eq_ok]
  constructor
  · rintro ⟨r, hr, rfl⟩
    obtain ⟨hx, hrest⟩ := both_eq_ok.1 hr
    exact ⟨r.1, r.2, hx, hrest, rfl⟩
  · rintro ⟨a, others, hx, hrest, rfl⟩
    exact ⟨(a, others), both_eq_ok.2 ⟨hx, hrest⟩, rfl⟩

/-- A parameter has its default or is read from a value. -/
theorem parameter_eq_ok {document : List (String × Value)} {name second : String} {absent : α}
    {read : Value → Checked α} (h : parameter document name second absent read = .ok a) :
    a = absent ∨ ∃ v, read v = .ok a := by
  rw [parameter] at h
  split at h
  · next v _ => exact Or.inr ⟨v, within_eq_ok.1 h⟩
  · split at h
    · next v _ => exact Or.inr ⟨v, within_eq_ok.1 h⟩
    · cases h
      exact Or.inl rfl

/-- A positive integer is at least 1. -/
theorem one_le_of_positive {v : Value} {n : Int} (h : positive v = .ok n) : 1 ≤ n := by
  rw [positive] at h
  obtain ⟨m, -, h⟩ := bind_eq_ok.1 h
  split at h
  · next hm =>
      cases h
      exact hm
  · cases h

end CollectionQuery.Checked
