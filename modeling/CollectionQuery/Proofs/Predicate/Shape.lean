import CollectionQuery.Filter.Predicate
import CollectionQuery.Plan
import CollectionQuery.Proofs.Outcome

/-!
# The shape of predicates

A predicate is *proper* if it asks something in each of its parts: `always` does not occur in it,
and no conjunction or disjunction in it is empty.  A predicate is *trimmed* if it is proper or
`always` alone.

Joining trimmed predicates gives a trimmed one, for conjunctions, disjunctions and `conjoin`.  So
the predicates of filters and of search terms are trimmed, and the merger of trimmed predicates is
trimmed as well.
-/

namespace CollectionQuery

namespace Predicate

/-- A predicate without `always` and without empty conjunctions or disjunctions. -/
inductive Proper : Predicate → Prop where
  /-- A comparison asks something. -/
  | leaf (c : Comparison) : Proper (leaf c)
  /-- A conjunction of at least one predicate. -/
  | and {items : List Predicate} (nonempty : items ≠ []) (items_proper : ∀ p ∈ items, Proper p) :
      Proper (and items)
  /-- A disjunction of at least one predicate. -/
  | or {items : List Predicate} (nonempty : items ≠ []) (items_proper : ∀ p ∈ items, Proper p) :
      Proper (or items)

/-- A proper predicate, or `always` alone. -/
def Trimmed (p : Predicate) : Prop := p = always ∨ p.Proper

theorem isAlways_iff {p : Predicate} : p.isAlways = true ↔ p = always := by
  cases p <;> simp [isAlways]

theorem Proper.isAlways {p : Predicate} (h : p.Proper) : p.isAlways = false := by
  cases h <;> rfl

theorem Proper.trimmed {p : Predicate} (h : p.Proper) : p.Trimmed := Or.inr h

theorem trimmed_always : always.Trimmed := Or.inl rfl

/-! ## Joining -/

theorem Proper.conjuncts {p : Predicate} (h : p.Proper) :
    p.conjuncts ≠ [] ∧ ∀ q ∈ p.conjuncts, q.Proper := by
  cases h with
  | leaf c => simpa [Predicate.conjuncts] using Proper.leaf c
  | and nonempty proper => exact ⟨nonempty, proper⟩
  | or nonempty proper => simpa [Predicate.conjuncts] using Proper.or nonempty proper

theorem Proper.disjuncts {p : Predicate} (h : p.Proper) :
    p.disjuncts ≠ [] ∧ ∀ q ∈ p.disjuncts, q.Proper := by
  cases h with
  | leaf c => simpa [Predicate.disjuncts] using Proper.leaf c
  | and nonempty proper => simpa [Predicate.disjuncts] using Proper.and nonempty proper
  | or nonempty proper => exact ⟨nonempty, proper⟩

/-- What is left of trimmed predicates without `always` is proper. -/
theorem proper_of_mem_filter {items : List Predicate} (h : ∀ p ∈ items, p.Trimmed) :
    ∀ p ∈ items.filter fun p => !p.isAlways, p.Proper := by
  intro p hp
  obtain ⟨hmem, hne⟩ := List.mem_filter.1 hp
  rcases h p hmem with rfl | hproper
  · simp [isAlways] at hne
  · exact hproper

/-- Nothing is dropped from proper predicates. -/
theorem filter_proper {items : List Predicate} (h : ∀ p ∈ items, p.Proper) :
    (items.filter fun p => !p.isAlways) = items := by
  rw [List.filter_eq_self]
  intro p hp
  simp [(h p hp).isAlways]

/-- The parts of proper predicates, taken together. -/
theorem proper_flatMap {parts : Predicate → List Predicate} {items : List Predicate}
    (hparts : ∀ p, p.Proper → parts p ≠ [] ∧ ∀ q ∈ parts p, q.Proper)
    (h : ∀ p ∈ items, p.Proper) :
    (items ≠ [] → items.flatMap parts ≠ []) ∧ ∀ q ∈ items.flatMap parts, q.Proper := by
  constructor
  · cases items with
    | nil => exact fun hne => absurd rfl hne
    | cons p rest => simp [(hparts p (h p List.mem_cons_self)).1]
  · intro q hq
    obtain ⟨p, hp, hqp⟩ := List.mem_flatMap.1 hq
    exact (hparts p (h p hp)).2 q hqp

/-- Joining proper predicates, if there are any, gives a proper one. -/
theorem Proper.collect {join : List Predicate → Predicate} {items : List Predicate}
    (hjoin : ∀ {items}, items ≠ [] → (∀ p ∈ items, p.Proper) → (join items).Proper)
    (nonempty : items ≠ []) (h : ∀ p ∈ items, p.Proper) :
    (Predicate.collect join items).Proper := by
  match items with
  | [] => exact absurd rfl nonempty
  | [p] => exact h p List.mem_cons_self
  | p :: q :: rest => exact hjoin (List.cons_ne_nil _ _) h

theorem trimmed_collect {join : List Predicate → Predicate} {items : List Predicate}
    (hjoin : ∀ {items}, items ≠ [] → (∀ p ∈ items, p.Proper) → (join items).Proper)
    (h : ∀ p ∈ items, p.Proper) : (Predicate.collect join items).Trimmed := by
  cases items with
  | nil => exact trimmed_always
  | cons p rest => exact (Proper.collect hjoin (List.cons_ne_nil _ _) h).trimmed

theorem trimmed_allOf {items : List Predicate} (h : ∀ p ∈ items, p.Trimmed) :
    (allOf items).Trimmed :=
  trimmed_collect Proper.and
    (proper_flatMap (fun _ => Proper.conjuncts) (proper_of_mem_filter h)).2

theorem trimmed_anyOf {items : List Predicate} (h : ∀ p ∈ items, p.Trimmed) :
    (anyOf items).Trimmed :=
  trimmed_collect Proper.or
    (proper_flatMap (fun _ => Proper.disjuncts) (proper_of_mem_filter h)).2

theorem proper_allOf {items : List Predicate} (nonempty : items ≠ [])
    (h : ∀ p ∈ items, p.Proper) : (allOf items).Proper := by
  have parts := proper_flatMap (fun _ => Proper.conjuncts) h
  rw [allOf, filter_proper h]
  exact Proper.collect Proper.and (parts.1 nonempty) parts.2

theorem proper_anyOf {items : List Predicate} (nonempty : items ≠ [])
    (h : ∀ p ∈ items, p.Proper) : (anyOf items).Proper := by
  have parts := proper_flatMap (fun _ => Proper.disjuncts) h
  rw [anyOf, filter_proper h]
  exact Proper.collect Proper.or (parts.1 nonempty) parts.2

theorem proper_allOf_pair {p q : Predicate} (hp : p.Proper) (hq : q.Proper) :
    (allOf [p, q]).Proper :=
  proper_allOf (List.cons_ne_nil _ _) (by simp [hp, hq])

/-! ## Conjunction -/

theorem conjoinRights_eq (left : Predicate) (branches : List Predicate) :
    conjoinRights left branches = branches.map (conjoinRight left) := by
  induction branches with
  | nil => simp [conjoinRights]
  | cons branch rest ih => simp [conjoinRights, ih]

theorem conjoinLefts_eq (branches : List Predicate) (right : Predicate) :
    conjoinLefts branches right = branches.map fun branch => conjoin branch right := by
  induction branches with
  | nil => simp [conjoinLefts]
  | cons branch rest ih => simp [conjoinLefts, ih]

section

variable {left right : Predicate}

theorem conjoinRight_leaf (h : left.Proper) (c : Comparison) :
    conjoinRight left (leaf c) = allOf [left, leaf c] := by
  simp [conjoinRight, h.isAlways]

theorem conjoinRight_and (h : left.Proper) (items : List Predicate) :
    conjoinRight left (and items) = allOf [left, and items] := by
  simp [conjoinRight, h.isAlways]

theorem conjoinRight_or (h : left.Proper) (branches : List Predicate) :
    conjoinRight left (or branches) = anyOf (branches.map (conjoinRight left)) := by
  simp [conjoinRight, h.isAlways, conjoinRights_eq]

theorem conjoinRight_always_left : conjoinRight always right = right := by
  cases right <;> simp [conjoinRight, isAlways]

theorem conjoin_always_left : conjoin always right = right := by
  simp [conjoin, conjoinRight_always_left]

theorem conjoin_always_right : conjoin left always = left := by
  cases left <;> simp [conjoin, conjoinRight, isAlways]

theorem conjoin_or (h : right.Proper) (branches : List Predicate) :
    conjoin (or branches) right = anyOf (branches.map fun branch => conjoin branch right) := by
  simp [conjoin, h.isAlways, conjoinLefts_eq]

theorem Proper.conjoinRight (hleft : left.Proper) (hright : right.Proper) :
    (Predicate.conjoinRight left right).Proper := by
  induction hright with
  | leaf c =>
      rw [conjoinRight_leaf hleft]
      exact proper_allOf_pair hleft (.leaf c)
  | and nonempty proper _ =>
      rw [conjoinRight_and hleft]
      exact proper_allOf_pair hleft (.and nonempty proper)
  | or nonempty proper ih =>
      rw [conjoinRight_or hleft]
      refine proper_anyOf (by simpa using nonempty) ?_
      intro q hq
      obtain ⟨branch, hbranch, rfl⟩ := List.mem_map.1 hq
      exact ih branch hbranch

/-- Both sides are left of a proper conjunction, so nothing in it is lost. -/
theorem Proper.conjoin (hleft : left.Proper) (hright : right.Proper) :
    (Predicate.conjoin left right).Proper := by
  induction hleft with
  | leaf c =>
      rw [Predicate.conjoin]
      exact (Proper.leaf c).conjoinRight hright
  | and nonempty proper _ =>
      rw [Predicate.conjoin]
      exact (Proper.and nonempty proper).conjoinRight hright
  | or nonempty proper ih =>
      rw [conjoin_or hright]
      refine proper_anyOf (by simpa using nonempty) ?_
      intro q hq
      obtain ⟨branch, hbranch, rfl⟩ := List.mem_map.1 hq
      exact ih branch hbranch

theorem Trimmed.conjoin (hleft : left.Trimmed) (hright : right.Trimmed) :
    (Predicate.conjoin left right).Trimmed := by
  rcases hleft with rfl | hleft
  · rwa [conjoin_always_left]
  · rcases hright with rfl | hright
    · rw [conjoin_always_right]
      exact hleft.trimmed
    · exact (hleft.conjoin hright).trimmed

end

end Predicate

/-! ## Filters -/

theorem FilterCondition.trimmed_predicate {strict : Bool} {c : FilterCondition} {p : Predicate}
    (h : (c.predicate strict).result = .ok p) : p.Trimmed := by
  rw [FilterCondition.predicate] at h
  split at h
  · cases h
    exact (Predicate.Proper.leaf _).trimmed
  · split at h
    · cases h
    · cases h
      exact Predicate.trimmed_always

theorem FilterCondition.trimmed_predicates {strict : Bool} {cs : List FilterCondition}
    {ps : List Predicate} (h : (predicates strict cs).result = .ok ps) :
    ∀ p ∈ ps, p.Trimmed := by
  induction cs generalizing ps with
  | nil =>
      cases h
      simp
  | cons c rest ih =>
      rw [predicates] at h
      obtain ⟨p, hp, h⟩ := Outcome.result_bind_eq_ok.1 h
      obtain ⟨more, hmore, h⟩ := Outcome.result_bind_eq_ok.1 h
      cases h
      rw [List.forall_mem_cons]
      exact ⟨trimmed_predicate hp, ih hmore⟩

theorem Connective.trimmed_join (connective : Connective) {ps : List Predicate}
    (h : ∀ p ∈ ps, p.Trimmed) : (connective.join ps).Trimmed := by
  cases connective with
  | and => exact Predicate.trimmed_allOf h
  | or => exact Predicate.trimmed_anyOf h

namespace FilterGroup

variable {most : Int} {strict : Bool}

-- The recursion goes through the list of subgroups, so both statements are proved together.
mutual

theorem trimmed_predicateAt : ∀ {level : Nat} (g : FilterGroup) {p : Predicate},
    (predicateAt most strict level g).result = .ok p → p.Trimmed
  | level, mk connective conditions groups, p, h => by
      rw [predicateAt] at h
      split at h
      · cases h
      · obtain ⟨front, hfront, h⟩ := Outcome.result_bind_eq_ok.1 h
        obtain ⟨back, hback, h⟩ := Outcome.result_bind_eq_ok.1 h
        cases h
        refine connective.trimmed_join fun p hp => ?_
        rcases List.mem_append.1 hp with hp | hp
        · exact FilterCondition.trimmed_predicates hfront p hp
        · exact trimmed_predicatesAt groups hback p hp

theorem trimmed_predicatesAt : ∀ {level : Nat} (gs : List FilterGroup) {ps : List Predicate},
    (predicatesAt most strict level gs).result = .ok ps → ∀ p ∈ ps, p.Trimmed
  | _, [], _, h => by
      cases h
      simp
  | level, g :: rest, _, h => by
      rw [predicatesAt] at h
      obtain ⟨p, hp, h⟩ := Outcome.result_bind_eq_ok.1 h
      obtain ⟨more, hmore, h⟩ := Outcome.result_bind_eq_ok.1 h
      cases h
      rw [List.forall_mem_cons]
      exact ⟨trimmed_predicateAt g hp, trimmed_predicatesAt rest hmore⟩

end

end FilterGroup

theorem trimmed_filterPredicate {most : Int} {strict : Bool} {g : Option FilterGroup}
    {p : Predicate} (h : (filterPredicate most strict g).result = .ok p) : p.Trimmed := by
  cases g with
  | none =>
      cases h
      exact Predicate.trimmed_always
  | some g => exact FilterGroup.trimmed_predicateAt g h

/-! ## Search terms -/

theorem trimmed_searchPredicate {term : Text.AnyText} {fields defaults : List String}
    {p : Predicate} (h : searchPredicate term fields defaults = .ok p) : p.Trimmed := by
  simp only [searchPredicate] at h
  generalize (if fields.isEmpty then defaults else fields) = searched at h
  split at h
  · cases h
    exact Predicate.trimmed_always
  · split at h
    · cases h
    · cases h
      refine Predicate.trimmed_anyOf fun p hp => ?_
      obtain ⟨field, -, rfl⟩ := List.mem_map.1 hp
      exact (Predicate.Proper.leaf _).trimmed

/-! ## Conditions of a caller -/

/-- A caller's condition that is trimmed if it is given as a predicate. -/
def Mandatory.Trimmed : Mandatory → Prop
  | given p => p.Trimmed
  | _ => True

theorem Mandatory.Trimmed.predicate {m : Mandatory} (h : m.Trimmed) : m.predicate.Trimmed := by
  cases m with
  | none => exact Predicate.trimmed_always
  | equals fields =>
      refine Predicate.trimmed_allOf fun p hp => ?_
      obtain ⟨field, -, rfl⟩ := List.mem_map.1 hp
      exact (Predicate.Proper.leaf _).trimmed
  | given p => exact h

theorem Predicate.trimmed_merge {filter search : Predicate} {m : Mandatory}
    (hfilter : filter.Trimmed) (hsearch : search.Trimmed) (hm : m.Trimmed) :
    (Predicate.merge filter search m).Trimmed :=
  (hm.predicate.conjoin hfilter).conjoin hsearch

end CollectionQuery

/-! ## Reduced predicates

A predicate is *reduced* if nothing in it can be collapsed: `always` does not occur in it, and every
conjunction and disjunction joins at least two predicates.  Joining reduced predicates, if there are
any, gives a reduced one: a single predicate stays alone, and the members of one that is flattened
are reduced themselves.
-/

namespace CollectionQuery.Predicate

/-- A predicate without `always`, in which every join has at least two members. -/
inductive Reduced : Predicate → Prop where
  /-- A comparison has no parts. -/
  | leaf (c : Comparison) : Reduced (leaf c)
  /-- A conjunction of at least two predicates. -/
  | and {items : List Predicate} (several : 2 ≤ items.length)
      (items_reduced : ∀ p ∈ items, Reduced p) : Reduced (and items)
  /-- A disjunction of at least two predicates. -/
  | or {items : List Predicate} (several : 2 ≤ items.length)
      (items_reduced : ∀ p ∈ items, Reduced p) : Reduced (or items)

variable {p : Predicate} {items : List Predicate}

theorem Reduced.proper (h : p.Reduced) : p.Proper := by
  induction h with
  | leaf c => exact .leaf c
  | and several _ ih => exact .and (List.ne_nil_of_length_pos (by omega)) ih
  | or several _ ih => exact .or (List.ne_nil_of_length_pos (by omega)) ih

theorem Reduced.conjuncts (h : p.Reduced) : ∀ q ∈ p.conjuncts, q.Reduced := by
  cases h with
  | leaf c => simpa [Predicate.conjuncts] using Reduced.leaf c
  | and several reduced => exact reduced
  | or several reduced => simpa [Predicate.conjuncts] using Reduced.or several reduced

theorem Reduced.disjuncts (h : p.Reduced) : ∀ q ∈ p.disjuncts, q.Reduced := by
  cases h with
  | leaf c => simpa [Predicate.disjuncts] using Reduced.leaf c
  | and several reduced => simpa [Predicate.disjuncts] using Reduced.and several reduced
  | or several reduced => exact reduced

/-- One reduced predicate stays as it is, and several are joined. -/
theorem reduced_collect {join : List Predicate → Predicate}
    (hjoin : ∀ {items}, 2 ≤ items.length → (∀ p ∈ items, p.Reduced) → (join items).Reduced)
    (nonempty : items ≠ []) (h : ∀ p ∈ items, p.Reduced) : (collect join items).Reduced := by
  match items with
  | [] => exact absurd rfl nonempty
  | [p] => exact h p List.mem_cons_self
  | p :: q :: rest => exact hjoin (by simp) h

theorem reduced_flatMap {parts : Predicate → List Predicate}
    (hparts : ∀ p, p.Reduced → ∀ q ∈ parts p, q.Reduced) (h : ∀ p ∈ items, p.Reduced) :
    ∀ q ∈ items.flatMap parts, q.Reduced := by
  intro q hq
  obtain ⟨p, hp, hqp⟩ := List.mem_flatMap.1 hq
  exact hparts p (h p hp) q hqp

theorem reduced_allOf (nonempty : items ≠ []) (h : ∀ p ∈ items, p.Reduced) :
    (allOf items).Reduced := by
  have hproper : ∀ p ∈ items, p.Proper := fun p hp => (h p hp).proper
  rw [allOf, filter_proper hproper]
  exact reduced_collect Reduced.and
    ((proper_flatMap (fun _ => Proper.conjuncts) hproper).1 nonempty)
    (reduced_flatMap (fun _ => Reduced.conjuncts) h)

theorem reduced_anyOf (nonempty : items ≠ []) (h : ∀ p ∈ items, p.Reduced) :
    (anyOf items).Reduced := by
  have hproper : ∀ p ∈ items, p.Proper := fun p hp => (h p hp).proper
  rw [anyOf, filter_proper hproper]
  exact reduced_collect Reduced.or
    ((proper_flatMap (fun _ => Proper.disjuncts) hproper).1 nonempty)
    (reduced_flatMap (fun _ => Reduced.disjuncts) h)

end CollectionQuery.Predicate
