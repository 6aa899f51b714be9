import CollectionQuery.Proofs.Predicate.Shape

/-!
# Guarded predicates

A predicate is *guarded* by a comparison if every alternative in it begins with that comparison.  A
conjunction with a guarded predicate on the left stays guarded, also where it is distributed over
disjunctions.  So what a caller demands stands in front of everything that a query asks.
-/

namespace CollectionQuery.Predicate

/-- Every alternative of a predicate begins with a comparison. -/
inductive Guarded (guard : Comparison) : Predicate → Prop where
  /-- The comparison alone. -/
  | leaf : Guarded guard (leaf guard)
  /-- A conjunction whose first member is guarded. -/
  | and {p : Predicate} {rest : List Predicate} (first : Guarded guard p) :
      Guarded guard (and (p :: rest))
  /-- A disjunction whose members are guarded. -/
  | or {items : List Predicate} (each : ∀ p ∈ items, Guarded guard p) : Guarded guard (or items)

variable {guard : Comparison} {p q : Predicate}

theorem Guarded.conjuncts (h : p.Guarded guard) :
    ∃ first rest, p.conjuncts = first :: rest ∧ first.Guarded guard := by
  cases h with
  | leaf => exact ⟨_, [], rfl, .leaf⟩
  | and first => exact ⟨_, _, rfl, first⟩
  | or each => exact ⟨_, [], rfl, .or each⟩

theorem Guarded.disjuncts (h : p.Guarded guard) : ∀ q ∈ p.disjuncts, q.Guarded guard := by
  cases h with
  | leaf => simpa [Predicate.disjuncts] using Guarded.leaf
  | and first => simpa [Predicate.disjuncts] using Guarded.and first
  | or each => exact each

/-- A conjunction is guarded if its first member is. -/
theorem Guarded.allOf (h : p.Guarded guard) (hp : p.Proper) (rest : List Predicate) :
    (Predicate.allOf (p :: rest)).Guarded guard := by
  obtain ⟨first, more, hconjuncts, hfirst⟩ := h.conjuncts
  rw [Predicate.allOf, List.filter_cons_of_pos (by simp [hp.isAlways]), List.flatMap_cons,
    hconjuncts, List.cons_append]
  cases more ++ (rest.filter fun p => !p.isAlways).flatMap Predicate.conjuncts with
  | nil => exact hfirst
  | cons second rest => exact .and hfirst

/-- A disjunction is guarded if its members are. -/
theorem guarded_anyOf {items : List Predicate} (nonempty : items ≠ [])
    (proper : ∀ p ∈ items, p.Proper) (each : ∀ p ∈ items, p.Guarded guard) :
    (anyOf items).Guarded guard := by
  have hnonempty := (proper_flatMap (fun _ => Proper.disjuncts) proper).1 nonempty
  have heach : ∀ q ∈ items.flatMap disjuncts, q.Guarded guard := by
    intro q hq
    obtain ⟨p, hp, hqp⟩ := List.mem_flatMap.1 hq
    exact (each p hp).disjuncts q hqp
  rw [anyOf, filter_proper proper]
  generalize items.flatMap disjuncts = all at hnonempty heach ⊢
  cases all with
  | nil => exact absurd rfl hnonempty
  | cons q rest =>
      cases rest with
      | nil => exact heach q List.mem_cons_self
      | cons second rest => exact .or heach

theorem Guarded.conjoinRight (h : p.Guarded guard) (hp : p.Proper) (hq : q.Proper) :
    (Predicate.conjoinRight p q).Guarded guard := by
  induction hq with
  | leaf c =>
      rw [conjoinRight_leaf hp]
      exact h.allOf hp _
  | and _ _ _ =>
      rw [conjoinRight_and hp]
      exact h.allOf hp _
  | @or branches nonempty proper ih =>
      rw [conjoinRight_or hp]
      refine guarded_anyOf (by simpa using nonempty) ?_ ?_
      · intro r hr
        obtain ⟨branch, hbranch, rfl⟩ := List.mem_map.1 hr
        exact hp.conjoinRight (proper branch hbranch)
      · intro r hr
        obtain ⟨branch, hbranch, rfl⟩ := List.mem_map.1 hr
        exact ih branch hbranch

theorem Guarded.conjoin_of_proper (h : p.Guarded guard) (hp : p.Proper) (hq : q.Proper) :
    (Predicate.conjoin p q).Guarded guard := by
  induction h with
  | leaf =>
      rw [Predicate.conjoin]
      exact Guarded.leaf.conjoinRight hp hq
  | and first _ =>
      rw [Predicate.conjoin]
      exact (Guarded.and first).conjoinRight hp hq
  | @or branches each ih =>
      cases hp with
      | or nonempty proper =>
          rw [conjoin_or hq]
          refine guarded_anyOf (by simpa using nonempty) ?_ ?_
          · intro r hr
            obtain ⟨branch, hbranch, rfl⟩ := List.mem_map.1 hr
            exact (proper branch hbranch).conjoin hq
          · intro r hr
            obtain ⟨branch, hbranch, rfl⟩ := List.mem_map.1 hr
            exact ih branch hbranch (proper branch hbranch)

/-- What guards the left side of a conjunction guards the whole. -/
theorem Guarded.conjoin (h : p.Guarded guard) (hp : p.Proper) (hq : q.Trimmed) :
    (Predicate.conjoin p q).Guarded guard := by
  rcases hq with rfl | hq
  · rwa [conjoin_always_right]
  · exact h.conjoin_of_proper hp hq

/-- One field that a caller demands guards the merger. -/
theorem guarded_merge {filter search : Predicate} (hfilter : filter.Trimmed)
    (hsearch : search.Trimmed) (field : String) (value : Value) :
    (merge filter search (.equals [(field, value)])).Guarded ⟨field, .eq, value⟩ := by
  have hleaf : (Mandatory.equals [(field, value)]).predicate = .leaf ⟨field, .eq, value⟩ := rfl
  have hproper := Proper.leaf ⟨field, .eq, value⟩
  rw [merge, hleaf]
  refine (Guarded.leaf.conjoin hproper hfilter).conjoin ?_ hsearch
  rcases hfilter with rfl | hfilter
  · rwa [conjoin_always_right]
  · exact hproper.conjoin hfilter

end CollectionQuery.Predicate
