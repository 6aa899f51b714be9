import CollectionQuery.Proofs.Lists
import CollectionQuery.Proofs.Operator
import CollectionQuery.Proofs.Predicate.Meaning
import CollectionQuery.Proofs.Predicate.Shape
import CollectionQuery.Proofs.Predicate.Tests
import Mathlib.Data.List.ReduceOption

/-!
# The meaning of a filter

A *meaning* gives a truth value for every assignment of truth values to comparisons.  A condition
means its comparison if its operator exists and its value has the shape that the operator takes, and
nothing else.  A group means the conjunction or the disjunction of those of its members that mean
something, and nothing if none of them does.  So a member without a meaning is left out of either
join: it neither fails a conjunction nor meets a disjunction.

A predicate *expresses* a meaning if it is reduced and has its truth values, and it expresses the
lack of one if it is `always`.  Joining predicates that express the meanings of members gives one
that expresses the meaning of the group, so the predicate of a filter that is not read strictly
expresses what the filter means.
-/

namespace CollectionQuery

/-- A truth value for every assignment of truth values to comparisons. -/
abbrev Meaning := (Comparison → Truth) → Truth

/-- The comparison that a condition stands for, if it is well-formed. -/
def FilterCondition.leaf? (c : FilterCondition) : Option Comparison := do
  let op ← Operator.ofText? c.operator
  let v ← op.canonical? c.value
  pure ⟨c.field, op, v⟩

/-- What a condition means. -/
def FilterCondition.meaning (c : FilterCondition) : Option Meaning :=
  c.leaf?.map fun cmp truth => truth cmp

/-- The truth value of members that are joined. -/
def Connective.truth : Connective → List Truth → Truth
  | .and => Truth.all
  | .or => Truth.any

/-- What members mean together, if there are any. -/
def Connective.meaning (connective : Connective) : List Meaning → Option Meaning
  | [] => none
  | members => some fun truth => connective.truth (members.map fun m => m truth)

namespace FilterGroup

mutual

/-- What a group means. -/
def meaning : FilterGroup → Option Meaning
  | mk connective conditions groups =>
    connective.meaning
      ((conditions.map FilterCondition.meaning ++ meanings groups).reduceOption)

/-- What each of several groups means. -/
def meanings : List FilterGroup → List (Option Meaning)
  | [] => []
  | g :: rest => meaning g :: meanings rest

end

end FilterGroup

/-! ## Predicates that express a meaning -/

namespace Predicate

/-- A predicate without superfluous parts that has the truth values of a meaning. -/
structure Denotes (p : Predicate) (m : Meaning) : Prop where
  /-- Nothing in the predicate can be collapsed. -/
  reduced : p.Reduced
  eval_eq : ∀ truth, p.eval truth = m truth

/-- A predicate that denotes a meaning; `always` stands for the lack of one. -/
def Expresses (p : Predicate) : Option Meaning → Prop
  | none => p = always
  | some m => p.Denotes m

variable {p : Predicate} {ps : List Predicate} {m : Option Meaning} {ms : List (Option Meaning)}

theorem Expresses.trimmed (h : p.Expresses m) : p.Trimmed := by
  cases m with
  | none => exact Or.inl h
  | some m => exact h.reduced.proper.trimmed

theorem Expresses.eq_always_iff (h : p.Expresses m) : p = always ↔ m = none := by
  cases m with
  | none => exact iff_of_true h rfl
  | some m =>
      refine iff_of_false ?_ (Option.some_ne_none m)
      rintro rfl
      cases h.reduced

/-- What is left without `always` expresses the meanings that are there. -/
theorem forall₂_reduceOption (h : List.Forall₂ Expresses ps ms) :
    List.Forall₂ Denotes (ps.filter fun p => !p.isAlways) ms.reduceOption := by
  induction h with
  | nil => exact .nil
  | @cons p m ps ms hp _ ih =>
      cases m with
      | none =>
          obtain rfl : p = always := hp
          exact ih
      | some m =>
          have hdenotes : p.Denotes m := hp
          rw [List.filter_cons_of_pos (by simp [hdenotes.reduced.proper.isAlways]),
            List.reduceOption_cons_of_some]
          exact .cons hdenotes ih

theorem allOf_filter (ps : List Predicate) : allOf (ps.filter fun p => !p.isAlways) = allOf ps := by
  rw [allOf, List.filter_filter, allOf]
  simp only [Bool.and_self]

theorem anyOf_filter (ps : List Predicate) : anyOf (ps.filter fun p => !p.isAlways) = anyOf ps := by
  rw [anyOf, List.filter_filter, anyOf]
  simp only [Bool.and_self]

theorem join_filter (connective : Connective) (ps : List Predicate) :
    connective.join (ps.filter fun p => !p.isAlways) = connective.join ps := by
  cases connective with
  | and => exact allOf_filter ps
  | or => exact anyOf_filter ps

theorem evalAll_eq_all {truth : Comparison → Truth} (ps : List Predicate) :
    evalAll truth ps = Truth.all (ps.map (eval truth)) := by
  induction ps with
  | nil => rw [evalAll]; rfl
  | cons p rest ih => rw [evalAll, ih, List.map_cons]; rfl

theorem evalAny_eq_any {truth : Comparison → Truth} (ps : List Predicate) :
    evalAny truth ps = Truth.any (ps.map (eval truth)) := by
  induction ps with
  | nil => rw [evalAny]; rfl
  | cons p rest ih => rw [evalAny, ih, List.map_cons]; rfl

/-- A join of reduced predicates is reduced and has the truth value of its members together. -/
theorem join_reduced (connective : Connective) (nonempty : ps ≠ []) (h : ∀ p ∈ ps, p.Reduced) :
    (connective.join ps).Reduced ∧
      ∀ truth, (connective.join ps).eval truth = connective.truth (ps.map (eval truth)) := by
  cases connective with
  | and =>
      refine ⟨reduced_allOf nonempty h, fun truth => ?_⟩
      rw [Connective.join, eval_allOf, evalAll_eq_all]
      rfl
  | or =>
      refine ⟨reduced_anyOf nonempty h, fun truth => ?_⟩
      rw [Connective.join, eval_anyOf nonempty fun p hp => (h p hp).proper, evalAny_eq_any]
      rfl

/-- A join expresses what the members mean together. -/
theorem expresses_join (connective : Connective) (h : List.Forall₂ Expresses ps ms) :
    (connective.join ps).Expresses (connective.meaning ms.reduceOption) := by
  have hkept := forall₂_reduceOption h
  rw [← join_filter]
  generalize (ps.filter fun p => !p.isAlways) = kept at hkept ⊢
  generalize ms.reduceOption = there at hkept ⊢
  cases hkept with
  | nil => cases connective <;> rfl
  | @cons p m kept ms hp hrest =>
      have hall := List.Forall₂.cons hp hrest
      have hreduced : ∀ q ∈ p :: kept, q.Reduced := by
        intro q hq
        obtain ⟨n, -, hn⟩ := hall.exists_of_mem_left q hq
        exact hn.reduced
      obtain ⟨hjoin, heval⟩ := join_reduced connective (List.cons_ne_nil p kept) hreduced
      refine ⟨hjoin, fun truth => ?_⟩
      rw [heval, hall.map_eq_map fun q n hn => hn.eval_eq truth]

end Predicate

/-! ## Conditions -/

theorem FilterCondition.toOption_comparison (c : FilterCondition) :
    c.comparison.toOption = c.leaf? := by
  rw [comparison, leaf?]
  cases Operator.ofText? c.operator with
  | none => rfl
  | some op =>
      simp only [Option.bind_eq_bind, Option.bind_some, ← Operator.normalize_toOption]
      cases op.normalize c.value <;> rfl

/-- A condition that is not read strictly expresses what it means. -/
theorem FilterCondition.expresses_predicate (c : FilterCondition) :
    ∃ p, (c.predicate false).result = .ok p ∧ p.Expresses c.meaning := by
  rw [predicate, meaning, ← toOption_comparison]
  cases c.comparison with
  | ok cmp => exact ⟨.leaf cmp, rfl, ⟨.leaf cmp, fun truth => Predicate.eval_leaf cmp⟩⟩
  | error cause => exact ⟨.always, rfl, rfl⟩

theorem FilterCondition.expresses_predicates (cs : List FilterCondition) :
    ∃ ps, (predicates false cs).result = .ok ps ∧
      List.Forall₂ Predicate.Expresses ps (cs.map meaning) := by
  induction cs with
  | nil => exact ⟨[], rfl, .nil⟩
  | cons c rest ih =>
      obtain ⟨p, hp, hexpresses⟩ := c.expresses_predicate
      obtain ⟨ps, hps, hrest⟩ := ih
      refine ⟨p :: ps, ?_, .cons hexpresses hrest⟩
      rw [predicates]
      exact Outcome.result_bind_eq_ok.2
        ⟨p, hp, Outcome.result_bind_eq_ok.2 ⟨ps, hps, rfl⟩⟩

/-! ## Groups -/

namespace FilterGroup

variable {most : Int}

-- The induction is on the tree.  What a group has below it is one level shallower, so the limit is
-- never met at `level` as long as no branch is longer than what is left of it.
mutual

theorem expresses_predicateAt : ∀ (level : Nat) (g : FilterGroup),
    (level : Int) + g.depth ≤ most + 1 →
    ∃ p, (predicateAt most false level g).result = .ok p ∧ p.Expresses g.meaning
  | level, mk connective conditions groups, hdepth => by
      rw [depth] at hdepth
      obtain ⟨front, hfront, hconditions⟩ := FilterCondition.expresses_predicates conditions
      obtain ⟨back, hback, hgroups⟩ := expresses_predicatesAt (level + 1) groups (by omega)
      refine ⟨connective.join (front ++ back), ?_, ?_⟩
      · rw [predicateAt, if_neg (by omega)]
        exact Outcome.result_bind_eq_ok.2
          ⟨front, hfront, Outcome.result_bind_eq_ok.2 ⟨back, hback, rfl⟩⟩
      · rw [meaning]
        exact Predicate.expresses_join connective (List.rel_append hconditions hgroups)

theorem expresses_predicatesAt : ∀ (level : Nat) (gs : List FilterGroup),
    (level : Int) + depthOfGroups gs ≤ most + 1 →
    ∃ ps, (predicatesAt most false level gs).result = .ok ps ∧
      List.Forall₂ Predicate.Expresses ps (meanings gs)
  | _, [], _ => ⟨[], rfl, by rw [meanings]; exact .nil⟩
  | level, g :: rest, hdepth => by
      rw [depthOfGroups] at hdepth
      obtain ⟨p, hp, hexpresses⟩ := expresses_predicateAt level g (by omega)
      obtain ⟨ps, hps, hrest⟩ := expresses_predicatesAt level rest (by omega)
      refine ⟨p :: ps, ?_, ?_⟩
      · rw [predicatesAt]
        exact Outcome.result_bind_eq_ok.2
          ⟨p, hp, Outcome.result_bind_eq_ok.2 ⟨ps, hps, rfl⟩⟩
      · rw [meanings]
        exact .cons hexpresses hrest

end

end FilterGroup

/-- A filter that is not too deep and not read strictly becomes `always` if it means nothing, and
otherwise a predicate without superfluous parts that has the truth values of what it means.  No
collection refuses the predicate as one that it does not support. -/
theorem filter_predicate_expresses_meaning {most : Int} {g : FilterGroup}
    (hdepth : (g.depth : Int) ≤ most) :
    ∃ p, (filterPredicate most false (some g)).result = .ok p ∧
      (p = .always ↔ g.meaning = none) ∧
      (∀ m, g.meaning = some m → p.Reduced ∧ ∀ truth, p.eval truth = m truth) ∧
      ∀ (a : Audience) (c : Collection), p.clause a c ≠ .error (.misfit .nestedAlways) := by
  have hroom : ((1 : Nat) : Int) + g.depth ≤ most + 1 := by omega
  obtain ⟨p, hp, hexpresses⟩ := FilterGroup.expresses_predicateAt 1 g hroom
  refine ⟨p, hp, hexpresses.eq_always_iff, ?_, fun a c => hexpresses.trimmed.supported_clause⟩
  intro m hm
  rw [hm] at hexpresses
  have hdenotes : p.Denotes m := hexpresses
  exact ⟨hdenotes.reduced, hdenotes.eval_eq⟩

/-- A disjunction on the last level that is allowed: a pair of one bound, an operator that does not
exist and a group of nothing are left out of it, and what is left is a conjunction of two members
around another of two. -/
theorem filter_predicate_expresses_meaning_last_level :
    let inner : FilterGroup := .mk .and
      [⟨"featured", "eq", .bool true⟩, ⟨"location", "null", .int 1⟩,
        ⟨"age", "between", .list [.int 1]⟩]
      []
    let g : FilterGroup := .mk .or [⟨"title", "sounds", .text "a"⟩]
      [.mk .or [] [], .mk .and [⟨"slug", "in", .text "b"⟩] [inner]]
    let meaning : Meaning := fun truth =>
      Truth.any [Truth.all [truth ⟨"slug", .oneOf, .tuple [.text "b"]⟩,
        Truth.all [truth ⟨"featured", .eq, .bool true⟩, truth ⟨"location", .isNull, .null⟩]]]
    (g.depth : Int) ≤ 3 ∧ g.meaning = some meaning ∧
      ∃ p, (filterPredicate 3 false (some g)).result = .ok p ∧
        (p = .always ↔ g.meaning = none) ∧
        (∀ m, g.meaning = some m → p.Reduced ∧ ∀ truth, p.eval truth = m truth) ∧
        ∀ (a : Audience) (c : Collection), p.clause a c ≠ .error (.misfit .nestedAlways) := by
  intro inner g meaning
  have hdepth : (g.depth : Int) ≤ 3 := by decide
  exact ⟨hdepth, rfl, filter_predicate_expresses_meaning hdepth⟩

end CollectionQuery
