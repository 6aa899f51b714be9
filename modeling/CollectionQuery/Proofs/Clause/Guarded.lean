import CollectionQuery.Proofs.Clause.Meaning
import CollectionQuery.Proofs.Predicate.Guarded

/-!
# Guarded clauses

Every alternative of the clause of a guarded predicate begins with the clause of the guard, so a row
that does not meet the guard does not meet the clause.
-/

namespace CollectionQuery

namespace Clause

/-- Every alternative of a clause begins with another clause. -/
inductive Guarded {α : Type} (guard : Clause α) : Clause α → Prop where
  /-- The clause alone. -/
  | self : Guarded guard guard
  /-- A conjunction whose first item is guarded. -/
  | all {cl : Clause α} {rest : List (Clause α)} (first : Guarded guard cl) :
      Guarded guard (all (cl :: rest))
  /-- A disjunction whose items are guarded. -/
  | any {items : List (Clause α)} (each : ∀ cl ∈ items, Guarded guard cl) :
      Guarded guard (any items)

section

variable {α β ε : Type} {f : α → Except ε β} {cl guard : Clause α} {bound boundGuard : Clause β}

theorem Guarded.bind (h : Guarded guard cl) (hguard : guard.bind f = .ok boundGuard)
    (hbound : cl.bind f = .ok bound) : Guarded boundGuard bound := by
  induction h generalizing bound with
  | self =>
      cases hguard.symm.trans hbound
      exact .self
  | all _ ih =>
      obtain ⟨us, hus, rfl⟩ := bind_all_eq_ok.1 hbound
      cases hus with
      | cons hu _ => exact .all (ih hu)
  | any _ ih =>
      obtain ⟨us, hus, rfl⟩ := bind_any_eq_ok.1 hbound
      exact .any (hus.forall_right fun item hitem => ih item hitem)

end

variable {a : Audience} {s : Store} {x : Row} {cl guard : Clause Cell}

theorem truthAny_ne_yes {items : List (Clause Cell)}
    (h : ∀ cl ∈ items, cl.truth s a x ≠ .yes) : truthAny s a x items ≠ .yes := by
  induction items with
  | nil =>
      rw [truthAny]
      decide
  | cons cl rest ih =>
      obtain ⟨hcl, hrest⟩ := List.forall_mem_cons.1 h
      rw [truthAny, Truth.or_eq_max]
      exact fun hyes => (Truth.max_eq_yes.1 hyes).elim hcl (ih hrest)

/-- A row that does not meet the guard of a clause does not meet the clause. -/
theorem Guarded.truth_ne_yes (h : Guarded guard cl) (hguard : guard.truth s a x ≠ .yes) :
    cl.truth s a x ≠ .yes := by
  induction h with
  | self => exact hguard
  | all _ ih =>
      rw [truth, truthAll, Truth.and_eq_min]
      exact fun hyes => ih (Truth.min_eq_yes.1 hyes).1
  | any _ ih =>
      rw [truth]
      exact truthAny_ne_yes fun cl hcl => ih cl hcl

end Clause

/-! ## Guards of predicates -/

namespace Predicate

variable {a : Audience} {c : Collection} {guard : Comparison} {p : Predicate}

/-- The clause of a guarded predicate is guarded by the clause of the guard. -/
theorem Guarded.innerClause {first : Clause Operand} (hfirst : guard.clause a c = .ok first)
    (h : p.Guarded guard) (hp : p.Proper) :
    ∀ cl, p.innerClause a c = .ok (some cl) → Clause.Guarded first cl := by
  induction h with
  | leaf =>
      intro cl hcl
      rw [Predicate.innerClause, hfirst] at hcl
      cases hcl
      exact .self
  | and _ ih =>
      cases hp with
      | and _ proper =>
          intro cl hcl
          obtain ⟨cls, hcls, heq⟩ := innerClause_and_eq_ok.1 hcl
          cases joinClauses_eq_some heq.symm
          cases innerClauses_eq_ok (fun p hp => (proper p hp).innerClause_isSome) hcls with
          | cons hhead _ => exact .all (ih (proper _ List.mem_cons_self) _ hhead)
  | or _ ih =>
      cases hp with
      | or _ proper =>
          intro cl hcl
          obtain ⟨cls, hcls, heq⟩ := innerClause_or_eq_ok.1 hcl
          cases joinClauses_eq_some heq.symm
          have hitems := innerClauses_eq_ok (fun p hp => (proper p hp).innerClause_isSome) hcls
          exact .any (hitems.forall_right fun q hq => ih q hq (proper q hq) _)

theorem Guarded.clause {first : Clause Operand} (hfirst : guard.clause a c = .ok first)
    (h : p.Guarded guard) (hp : p.Proper) {cl : Clause Operand}
    (hcl : p.clause a c = .ok (some cl)) : Clause.Guarded first cl := by
  rw [Predicate.clause, hp.isAlways] at hcl
  exact h.innerClause hfirst hp cl hcl

end Predicate

end CollectionQuery
