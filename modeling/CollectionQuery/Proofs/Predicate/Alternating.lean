import CollectionQuery.Proofs.Predicate.Shape

/-!
# The conjunction of canonical predicates

A predicate is *alternating* if every conjunction in it joins at least two comparisons or
disjunctions, and every disjunction at least two comparisons or conjunctions.  A predicate is
*canonical* if it is alternating or `always` alone.

An alternating predicate is given by its alternatives, which are the members of a disjunction and
the predicate itself otherwise.  `conjoin` makes one alternative of each pair of alternatives, one
from either side, in lexicographic order, and each is again alternating and no disjunction
(`conjoin_eq_collect`).  No alternative is flattened any more, so the alternatives of the result can
be read off it, and that `conjoin` is associative is that lists of pairs are.
-/

namespace CollectionQuery.Predicate

/-- Whether a predicate is a conjunction. -/
def isConjunction : Predicate → Bool
  | and _ => true
  | _ => false

/-- Whether a predicate is a disjunction. -/
def isDisjunction : Predicate → Bool
  | or _ => true
  | _ => false

/-- A predicate in which conjunctions and disjunctions of at least two members alternate. -/
inductive Alternating : Predicate → Prop where
  /-- A comparison joins nothing. -/
  | leaf (c : Comparison) : Alternating (leaf c)
  /-- A conjunction of comparisons and disjunctions. -/
  | and {items : List Predicate} (several : 2 ≤ items.length)
      (turn : ∀ p ∈ items, p.isConjunction = false)
      (items_alternating : ∀ p ∈ items, Alternating p) : Alternating (and items)
  /-- A disjunction of comparisons and conjunctions. -/
  | or {items : List Predicate} (several : 2 ≤ items.length)
      (turn : ∀ p ∈ items, p.isDisjunction = false)
      (items_alternating : ∀ p ∈ items, Alternating p) : Alternating (or items)

/-- An alternating predicate, or `always` alone. -/
def Canonical (p : Predicate) : Prop := p = always ∨ p.Alternating

/-- The conjunctions of each predicate of one list with each of another, those with the first one
first. -/
def cross (xs ys : List Predicate) : List Predicate :=
  xs.flatMap fun x => ys.map fun y => allOf [x, y]

variable {p q x y z left right a b c : Predicate} {items xs ys zs : List Predicate}

theorem Alternating.reduced (h : p.Alternating) : p.Reduced := by
  induction h with
  | leaf c => exact .leaf c
  | and several _ _ ih => exact .and several ih
  | or several _ _ ih => exact .or several ih

theorem Alternating.proper (h : p.Alternating) : p.Proper := h.reduced.proper

theorem Alternating.canonical (h : p.Alternating) : p.Canonical := Or.inr h

theorem Canonical.alternating (h : p.Canonical) (hne : p ≠ always) : p.Alternating :=
  h.resolve_left hne

/-! ## Members -/

theorem disjuncts_of_not_disjunction (h : p.isDisjunction = false) : p.disjuncts = [p] := by
  cases p with
  | or items => cases h
  | _ => rfl

/-- The members of a conjunction are alternating and no conjunctions. -/
theorem Alternating.conjuncts (h : p.Alternating) :
    ∀ q ∈ p.conjuncts, q.Alternating ∧ q.isConjunction = false := by
  cases h with
  | leaf c => simpa [Predicate.conjuncts, isConjunction] using Alternating.leaf c
  | and _ turn alternating => exact fun q hq => ⟨alternating q hq, turn q hq⟩
  | or several turn alternating =>
      simpa [Predicate.conjuncts, isConjunction] using Alternating.or several turn alternating

/-- The alternatives of a predicate are alternating and no disjunctions. -/
theorem Alternating.disjuncts (h : p.Alternating) :
    ∀ q ∈ p.disjuncts, q.Alternating ∧ q.isDisjunction = false := by
  cases h with
  | leaf c => simpa [Predicate.disjuncts, isDisjunction] using Alternating.leaf c
  | and several turn alternating =>
      simpa [Predicate.disjuncts, isDisjunction] using Alternating.and several turn alternating
  | or _ turn alternating => exact fun q hq => ⟨alternating q hq, turn q hq⟩

/-! ## Joining alternatives -/

theorem flatMap_disjuncts (h : ∀ q ∈ items, q.isDisjunction = false) :
    items.flatMap disjuncts = items := by
  induction items with
  | nil => rfl
  | cons q rest ih =>
      rw [List.forall_mem_cons] at h
      rw [List.flatMap_cons, disjuncts_of_not_disjunction h.1, ih h.2, List.singleton_append]

/-- A join of alternatives has just them. -/
theorem disjuncts_collect (nonempty : items ≠ []) (h : ∀ q ∈ items, q.isDisjunction = false) :
    (collect or items).disjuncts = items := by
  match items with
  | [] => exact absurd rfl nonempty
  | [q] => exact disjuncts_of_not_disjunction (h q List.mem_cons_self)
  | q :: r :: rest => rfl

theorem alternating_collect (nonempty : items ≠ [])
    (h : ∀ q ∈ items, q.Alternating ∧ q.isDisjunction = false) :
    (collect or items).Alternating := by
  match items with
  | [] => exact absurd rfl nonempty
  | [q] => exact (h q List.mem_cons_self).1
  | q :: r :: rest => exact .or (by simp) (fun q hq => (h q hq).2) fun q hq => (h q hq).1

/-! ## Two alternatives -/

/-- The conjunction of two predicates has the members of both. -/
theorem allOf_pair (hx : x.Proper) (hy : y.Proper) :
    allOf [x, y] = and (x.conjuncts ++ y.conjuncts) := by
  have hproper : ∀ q ∈ [x, y], q.Proper := by simp [hx, hy]
  have hcollect : ∀ items : List Predicate, 2 ≤ items.length → collect and items = and items := by
    intro items several
    match items with
    | [] => simp at several
    | [_] => simp at several
    | _ :: _ :: _ => rfl
  have hfirst := List.length_pos_of_ne_nil hx.conjuncts.1
  have hsecond := List.length_pos_of_ne_nil hy.conjuncts.1
  rw [allOf, filter_proper hproper, List.flatMap_cons, List.flatMap_cons, List.flatMap_nil,
    List.append_nil]
  exact hcollect _ (by rw [List.length_append]; omega)

theorem isDisjunction_allOf (hx : x.Proper) (hy : y.Proper) :
    (allOf [x, y]).isDisjunction = false := by
  rw [allOf_pair hx hy]
  rfl

theorem Alternating.allOf (hx : x.Alternating) (hy : y.Alternating) :
    (allOf [x, y]).Alternating := by
  have hmembers : ∀ q ∈ x.conjuncts ++ y.conjuncts, q.Alternating ∧ q.isConjunction = false := by
    rw [List.forall_mem_append]
    exact ⟨hx.conjuncts, hy.conjuncts⟩
  have hfirst := List.length_pos_of_ne_nil hx.proper.conjuncts.1
  have hsecond := List.length_pos_of_ne_nil hy.proper.conjuncts.1
  rw [allOf_pair hx.proper hy.proper]
  exact .and (by rw [List.length_append]; omega) (fun q hq => (hmembers q hq).2)
    fun q hq => (hmembers q hq).1

theorem allOf_assoc (hx : x.Proper) (hy : y.Proper) (hz : z.Proper) :
    allOf [allOf [x, y], z] = allOf [x, allOf [y, z]] := by
  rw [allOf_pair (proper_allOf_pair hx hy) hz, allOf_pair hx (proper_allOf_pair hy hz),
    allOf_pair hx hy, allOf_pair hy hz]
  simp only [conjuncts, List.append_assoc]

/-! ## All pairs of alternatives -/

theorem mem_cross : q ∈ cross xs ys ↔ ∃ x ∈ xs, ∃ y ∈ ys, allOf [x, y] = q := by
  simp [cross]

theorem cross_ne_nil (hxs : xs ≠ []) (hys : ys ≠ []) : cross xs ys ≠ [] := by
  obtain ⟨x, hx⟩ := List.exists_mem_of_ne_nil xs hxs
  obtain ⟨y, hy⟩ := List.exists_mem_of_ne_nil ys hys
  exact List.ne_nil_of_mem (mem_cross.2 ⟨x, hx, y, hy, rfl⟩)

theorem isDisjunction_of_mem_cross (hxs : ∀ x ∈ xs, x.Proper) (hys : ∀ y ∈ ys, y.Proper) :
    ∀ q ∈ cross xs ys, q.isDisjunction = false := by
  intro q hq
  obtain ⟨x, hx, y, hy, rfl⟩ := mem_cross.1 hq
  exact isDisjunction_allOf (hxs x hx) (hys y hy)

theorem alternating_of_mem_cross (hxs : ∀ x ∈ xs, x.Alternating) (hys : ∀ y ∈ ys, y.Alternating) :
    ∀ q ∈ cross xs ys, q.Alternating := by
  intro q hq
  obtain ⟨x, hx, y, hy, rfl⟩ := mem_cross.1 hq
  exact (hxs x hx).allOf (hys y hy)

/-- Pairs with a third list are triples, however they are grouped. -/
theorem cross_assoc (hxs : ∀ x ∈ xs, x.Proper) (hys : ∀ y ∈ ys, y.Proper)
    (hzs : ∀ z ∈ zs, z.Proper) : cross (cross xs ys) zs = cross xs (cross ys zs) := by
  simp only [cross, List.flatMap_assoc, List.flatMap_map, List.map_flatMap, List.map_map]
  refine List.flatMap_congr fun x hx => List.flatMap_congr fun y hy => ?_
  exact List.map_congr_left fun z hz => allOf_assoc (hxs x hx) (hys y hy) (hzs z hz)

/-! ## Conjunction -/

/-- A predicate that is no disjunction is put in front of each alternative of another. -/
theorem conjoinRight_eq_collect (hleft : left.Alternating) (hright : right.Alternating) :
    conjoinRight left right = collect or (right.disjuncts.map fun y => allOf [left, y]) := by
  cases hright with
  | leaf c => exact conjoinRight_leaf hleft.proper c
  | @and items _ _ _ => exact conjoinRight_and hleft.proper items
  | @or branches several turn alternating =>
      have hbranch : ∀ y ∈ branches, conjoinRight left y = allOf [left, y] := by
        intro y hy
        cases alternating y hy with
        | leaf c => exact conjoinRight_leaf hleft.proper c
        | @and items _ _ _ => exact conjoinRight_and hleft.proper items
        | or _ _ _ => cases turn _ hy
      have hproper : ∀ q ∈ branches.map fun y => allOf [left, y], q.Proper := by
        rw [List.forall_mem_map]
        exact fun y hy => proper_allOf_pair hleft.proper (alternating y hy).proper
      have hflat : ∀ q ∈ branches.map fun y => allOf [left, y], q.isDisjunction = false := by
        rw [List.forall_mem_map]
        exact fun y hy => isDisjunction_allOf hleft.proper (alternating y hy).proper
      rw [conjoinRight_or hleft.proper, List.map_congr_left hbranch, anyOf, filter_proper hproper,
        flatMap_disjuncts hflat]
      rfl

/-- The conjunction of two predicates joins the conjunctions of their alternatives. -/
theorem conjoin_eq_collect (hleft : left.Alternating) (hright : right.Alternating) :
    conjoin left right = collect or (cross left.disjuncts right.disjuncts) := by
  have hsingle (hdisjuncts : left.disjuncts = [left])
      (hconjoin : conjoin left right = conjoinRight left right) :
      conjoin left right = collect or (cross left.disjuncts right.disjuncts) := by
    rw [hconjoin, conjoinRight_eq_collect hleft hright, hdisjuncts, cross, List.flatMap_cons,
      List.flatMap_nil, List.append_nil]
  cases hleft with
  | leaf c => exact hsingle rfl (by rw [conjoin])
  | and _ _ _ => exact hsingle rfl (by rw [conjoin])
  | @or branches several turn alternating =>
      -- The alternatives of the branches stand one after the other.  No branch is a disjunction
      -- itself, so it is put in front of each alternative on the right.
      have hbranch : ∀ x ∈ branches,
          (conjoin x right).disjuncts = right.disjuncts.map fun y => allOf [x, y] := by
        intro x hx
        have hconjoin : conjoin x right = conjoinRight x right := by
          cases x with
          | or _ => cases turn _ hx
          | _ => rw [conjoin]
        rw [hconjoin, conjoinRight_eq_collect (alternating x hx) hright]
        refine disjuncts_collect (by simpa using hright.proper.disjuncts.1) ?_
        rw [List.forall_mem_map]
        intro y hy
        exact isDisjunction_allOf (alternating x hx).proper (hright.proper.disjuncts.2 y hy)
      have hproper : ∀ q ∈ branches.map fun x => conjoin x right, q.Proper := by
        rw [List.forall_mem_map]
        exact fun x hx => (alternating x hx).proper.conjoin hright.proper
      rw [conjoin_or hright.proper, anyOf, filter_proper hproper, List.flatMap_map]
      exact congrArg _ (List.flatMap_congr hbranch)

/-- The alternatives of a conjunction are the conjunctions of the alternatives of both sides. -/
theorem disjuncts_conjoin (hleft : left.Alternating) (hright : right.Alternating) :
    (conjoin left right).disjuncts = cross left.disjuncts right.disjuncts := by
  rw [conjoin_eq_collect hleft hright]
  exact disjuncts_collect (cross_ne_nil hleft.proper.disjuncts.1 hright.proper.disjuncts.1)
    (isDisjunction_of_mem_cross hleft.proper.disjuncts.2 hright.proper.disjuncts.2)

theorem Alternating.conjoin (hleft : left.Alternating) (hright : right.Alternating) :
    (conjoin left right).Alternating := by
  rw [conjoin_eq_collect hleft hright]
  refine alternating_collect
    (cross_ne_nil hleft.proper.disjuncts.1 hright.proper.disjuncts.1) fun q hq => ⟨?_, ?_⟩
  · exact alternating_of_mem_cross (fun x hx => (hleft.disjuncts x hx).1)
      (fun y hy => (hright.disjuncts y hy).1) q hq
  · exact isDisjunction_of_mem_cross hleft.proper.disjuncts.2 hright.proper.disjuncts.2 q hq

theorem Alternating.conjoin_assoc (ha : a.Alternating) (hb : b.Alternating) (hc : c.Alternating) :
    Predicate.conjoin (Predicate.conjoin a b) c = Predicate.conjoin a (Predicate.conjoin b c) := by
  rw [conjoin_eq_collect (ha.conjoin hb) hc, conjoin_eq_collect ha (hb.conjoin hc),
    disjuncts_conjoin ha hb, disjuncts_conjoin hb hc,
    cross_assoc ha.proper.disjuncts.2 hb.proper.disjuncts.2 hc.proper.disjuncts.2]

/-! ## Canonical predicates -/

theorem Canonical.conjoin (ha : a.Canonical) (hb : b.Canonical) :
    (Predicate.conjoin a b).Canonical := by
  rcases ha with rfl | ha
  · rwa [conjoin_always_left]
  · rcases hb with rfl | hb
    · rw [conjoin_always_right]
      exact ha.canonical
    · exact (ha.conjoin hb).canonical

theorem Canonical.conjoin_assoc (ha : a.Canonical) (hb : b.Canonical) (hc : c.Canonical) :
    Predicate.conjoin (Predicate.conjoin a b) c = Predicate.conjoin a (Predicate.conjoin b c) := by
  rcases ha with rfl | ha
  · rw [conjoin_always_left, conjoin_always_left]
  · rcases hb with rfl | hb
    · rw [conjoin_always_right, conjoin_always_left]
    · rcases hc with rfl | hc
      · rw [conjoin_always_right, conjoin_always_right]
      · exact ha.conjoin_assoc hb hc

/-- The canonical predicates are a monoid under conjunction.  The alternatives of the conjunction of
two that ask something are the conjunctions of an alternative of the first with one of the second,
all pairs in lexicographic order. -/
theorem conjoin_canonical_monoid (ha : a.Canonical) (hb : b.Canonical) (hc : c.Canonical) :
    (conjoin a b).Canonical ∧
      (a ≠ always → b ≠ always → (conjoin a b).disjuncts =
        a.disjuncts.flatMap fun x => b.disjuncts.map fun y => allOf [x, y]) ∧
      conjoin (conjoin a b) c = conjoin a (conjoin b c) ∧
      conjoin always a = a ∧ conjoin a always = a := by
  refine ⟨ha.conjoin hb, fun hane hbne => ?_, ha.conjoin_assoc hb hc, ?_, ?_⟩
  · exact disjuncts_conjoin (ha.alternating hane) (hb.alternating hbne)
  · exact conjoin_always_left
  · exact conjoin_always_right

/-- A disjunction inside a conjunction stays as it is. -/
theorem conjoin_canonical_monoid_nested :
    let title : Predicate := leaf ⟨"title", .eq, .text "a"⟩
    let slug : Predicate := leaf ⟨"slug", .contains, .text "b"⟩
    let place : Predicate := leaf ⟨"location", .isNull, .null⟩
    let featured : Predicate := leaf ⟨"featured", .eq, .bool true⟩
    let a : Predicate := or [title, and [slug, or [title, place]]]
    let b : Predicate := or [place, featured]
    let c : Predicate := and [or [slug, featured], title]
    a.Canonical ∧ b.Canonical ∧ c.Canonical ∧ a ≠ always ∧ b ≠ always ∧
      conjoin a b = or [and [title, place], and [title, featured],
        and [slug, or [title, place], place], and [slug, or [title, place], featured]] ∧
      (conjoin a b).Canonical ∧
      (a ≠ always → b ≠ always → (conjoin a b).disjuncts =
        a.disjuncts.flatMap fun x => b.disjuncts.map fun y => allOf [x, y]) ∧
      conjoin (conjoin a b) c = conjoin a (conjoin b c) ∧
      conjoin always a = a ∧ conjoin a always = a := by
  intro title slug place featured a b c
  have hpair {p q : Predicate} (hp : p.isDisjunction = false) (hq : q.isDisjunction = false)
      (hpalt : p.Alternating) (hqalt : q.Alternating) : (or [p, q]).Alternating :=
    .or (by simp) (by simp [hp, hq]) (by simp [hpalt, hqalt])
  have ha : a.Alternating := by
    have hinner : (or [title, place]).Alternating := hpair rfl rfl (.leaf _) (.leaf _)
    have hsecond : (and [slug, or [title, place]]).Alternating :=
      .and (by simp) (by simp [slug, isConjunction])
        (List.forall_mem_cons.2 ⟨.leaf _, List.forall_mem_singleton.2 hinner⟩)
    exact hpair rfl rfl (.leaf _) hsecond
  have hb : b.Alternating := hpair rfl rfl (.leaf _) (.leaf _)
  have hc : c.Alternating := by
    have hinner : (or [slug, featured]).Alternating := hpair rfl rfl (.leaf _) (.leaf _)
    exact .and (by simp) (by simp [title, isConjunction])
      (List.forall_mem_cons.2 ⟨hinner, List.forall_mem_singleton.2 (.leaf _)⟩)
  exact ⟨ha.canonical, hb.canonical, hc.canonical, nofun, nofun, rfl,
    conjoin_canonical_monoid ha.canonical hb.canonical hc.canonical⟩

end CollectionQuery.Predicate
