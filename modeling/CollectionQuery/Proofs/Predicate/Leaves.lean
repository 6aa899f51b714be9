import CollectionQuery.Proofs.Predicate.Shape

/-!
# The comparisons of a predicate

Joining predicates neither makes comparisons nor loses any: those of a conjunction or a disjunction
are those of its members, one after the other.  `conjoin` repeats one side for every alternative of
the other, so there only the set of comparisons is the same.
-/

namespace CollectionQuery.Predicate

mutual

/-- The comparisons in a predicate, from the left. -/
def leaves : Predicate → List Comparison
  | always => []
  | leaf c => [c]
  | and items => leavesOf items
  | or items => leavesOf items

/-- The comparisons in several predicates. -/
def leavesOf : List Predicate → List Comparison
  | [] => []
  | p :: rest => leaves p ++ leavesOf rest

end

variable {p left right : Predicate} {items : List Predicate} {c : Comparison}

theorem leavesOf_eq (items : List Predicate) : leavesOf items = items.flatMap leaves := by
  induction items with
  | nil => rw [leavesOf, List.flatMap_nil]
  | cons p rest ih => rw [leavesOf, ih, List.flatMap_cons]

@[simp] theorem leaves_always : always.leaves = [] := by
  rw [leaves]

@[simp] theorem leaves_leaf (c : Comparison) : (leaf c).leaves = [c] := by
  rw [leaves]

@[simp] theorem leaves_and (items : List Predicate) :
    (and items).leaves = items.flatMap leaves := by
  rw [leaves, leavesOf_eq]

@[simp] theorem leaves_or (items : List Predicate) : (or items).leaves = items.flatMap leaves := by
  rw [leaves, leavesOf_eq]

/-! ## Joining -/

/-- Nothing is lost by taking predicates apart. -/
theorem flatMap_leaves_conjuncts (p : Predicate) : p.conjuncts.flatMap leaves = p.leaves := by
  cases p <;> simp [conjuncts]

theorem flatMap_leaves_disjuncts (p : Predicate) : p.disjuncts.flatMap leaves = p.leaves := by
  cases p <;> simp [disjuncts]

theorem leaves_collect {join : List Predicate → Predicate}
    (hjoin : ∀ items, (join items).leaves = items.flatMap leaves) (items : List Predicate) :
    (collect join items).leaves = items.flatMap leaves := by
  match items with
  | [] => simp [collect]
  | [p] => simp [collect]
  | p :: q :: rest => exact hjoin (p :: q :: rest)

/-- `always` has no comparisons. -/
theorem flatMap_leaves_filter (items : List Predicate) :
    (items.filter fun p => !p.isAlways).flatMap leaves = items.flatMap leaves := by
  induction items with
  | nil => rfl
  | cons p rest ih =>
      by_cases h : p.isAlways = true
      · obtain rfl := isAlways_iff.1 h
        rw [List.filter_cons_of_neg (by simp [isAlways]), ih, List.flatMap_cons, leaves_always,
          List.nil_append]
      · rw [List.filter_cons_of_pos (by simpa using h), List.flatMap_cons, ih, List.flatMap_cons]

@[simp] theorem leaves_allOf (items : List Predicate) :
    (allOf items).leaves = items.flatMap leaves := by
  rw [allOf, leaves_collect leaves_and, List.flatMap_assoc]
  simp only [flatMap_leaves_conjuncts]
  exact flatMap_leaves_filter items

@[simp] theorem leaves_anyOf (items : List Predicate) :
    (anyOf items).leaves = items.flatMap leaves := by
  rw [anyOf, leaves_collect leaves_or, List.flatMap_assoc]
  simp only [flatMap_leaves_disjuncts]
  exact flatMap_leaves_filter items

theorem leaves_join (connective : Connective) (items : List Predicate) :
    (connective.join items).leaves = items.flatMap leaves := by
  cases connective with
  | and => exact leaves_allOf items
  | or => exact leaves_anyOf items

/-! ## Conjunction -/

/-- A comparison stands in one of several predicates, or in one that is put to each of them. -/
theorem exists_mem_or {items : List Predicate} (nonempty : items ≠ []) {P : Prop} :
    (∃ q ∈ items, P ∨ c ∈ q.leaves) ↔ P ∨ ∃ q ∈ items, c ∈ q.leaves := by
  obtain ⟨q, hq⟩ := List.exists_mem_of_ne_nil items nonempty
  constructor
  · rintro ⟨r, hr, h⟩
    exact h.imp_right fun h => ⟨r, hr, h⟩
  · rintro (h | ⟨r, hr, h⟩)
    · exact ⟨q, hq, Or.inl h⟩
    · exact ⟨r, hr, Or.inr h⟩

theorem Proper.mem_leaves_conjoinRight (hleft : left.Proper) (hright : right.Proper) :
    c ∈ (Predicate.conjoinRight left right).leaves ↔ c ∈ left.leaves ∨ c ∈ right.leaves := by
  induction hright with
  | leaf d => simp [conjoinRight_leaf hleft]
  | and nonempty _ _ => simp [conjoinRight_and hleft]
  | or nonempty _ ih =>
      rw [conjoinRight_or hleft, leaves_anyOf, leaves_or, List.mem_flatMap, List.mem_flatMap,
        ← exists_mem_or nonempty]
      simp only [List.mem_map, exists_exists_and_eq_and]
      exact exists_congr fun q => and_congr_right fun hq => ih q hq

theorem Proper.mem_leaves_conjoin (hleft : left.Proper) (hright : right.Proper) :
    c ∈ (Predicate.conjoin left right).leaves ↔ c ∈ left.leaves ∨ c ∈ right.leaves := by
  induction hleft with
  | leaf d =>
      rw [Predicate.conjoin]
      exact (Proper.leaf d).mem_leaves_conjoinRight hright
  | and nonempty proper _ =>
      rw [Predicate.conjoin]
      exact (Proper.and nonempty proper).mem_leaves_conjoinRight hright
  | or nonempty _ ih =>
      rw [conjoin_or hright, leaves_anyOf, leaves_or, List.mem_flatMap, List.mem_flatMap, or_comm,
        ← exists_mem_or nonempty]
      simp only [List.mem_map, exists_exists_and_eq_and]
      exact exists_congr fun q => and_congr_right fun hq => (ih q hq).trans or_comm

/-- A conjunction compares what one of its sides compares. -/
theorem Trimmed.mem_leaves_conjoin (hleft : left.Trimmed) (hright : right.Trimmed) :
    c ∈ (Predicate.conjoin left right).leaves ↔ c ∈ left.leaves ∨ c ∈ right.leaves := by
  rcases hleft with rfl | hleft
  · simp [conjoin_always_left]
  · rcases hright with rfl | hright
    · simp [conjoin_always_right]
    · exact hleft.mem_leaves_conjoin hright

/-- The predicate of a plan compares what its filter, its search or its caller compares. -/
theorem mem_leaves_merge {filter search : Predicate} {m : Mandatory} (hfilter : filter.Trimmed)
    (hsearch : search.Trimmed) (hm : m.Trimmed) :
    c ∈ (merge filter search m).leaves ↔
      c ∈ m.predicate.leaves ∨ c ∈ filter.leaves ∨ c ∈ search.leaves := by
  rw [merge, (hm.predicate.conjoin hfilter).mem_leaves_conjoin hsearch,
    hm.predicate.mem_leaves_conjoin hfilter, or_assoc]

end CollectionQuery.Predicate
