import CollectionQuery.Proofs.Predicate.Alike
import CollectionQuery.Proofs.Plan

/-!
# Filters with alike conditions

Two filters of one shape correspond condition by condition.  If corresponding conditions make
comparisons that correspond, or are malformed in the same way, then the filters record the same and
are refused in the same way, or become predicates that correspond.
-/

namespace CollectionQuery

mutual

/-- Two groups of one shape, with conditions that are related one by one. -/
inductive FilterGroup.Alike (R : FilterCondition → FilterCondition → Prop) :
    FilterGroup → FilterGroup → Prop
  | mk {connective : Connective} {xs ys : List FilterCondition} {gs hs : List FilterGroup}
      (conditions : List.Forall₂ R xs ys) (groups : FilterGroup.AllAlike R gs hs) :
      FilterGroup.Alike R (.mk connective xs gs) (.mk connective ys hs)

/-- Two lists of such groups. -/
inductive FilterGroup.AllAlike (R : FilterCondition → FilterCondition → Prop) :
    List FilterGroup → List FilterGroup → Prop
  | nil : FilterGroup.AllAlike R [] []
  | cons {g h : FilterGroup} {gs hs : List FilterGroup} (first : FilterGroup.Alike R g h)
      (others : FilterGroup.AllAlike R gs hs) : FilterGroup.AllAlike R (g :: gs) (h :: hs)

end

variable {R : Comparison → Comparison → Prop} {most : Int} {strict : Bool}

/-- Two conditions that make related comparisons, or are malformed in the same way. -/
inductive FilterCondition.Makes (R : Comparison → Comparison → Prop) (x y : FilterCondition) :
    Prop
  | comparison {cmp cmp' : Comparison} (left : x.comparison = .ok cmp)
      (right : y.comparison = .ok cmp') (related : R cmp cmp') : Makes R x y
  | malformed {cause : MalformedCondition} (left : x.comparison = .error cause)
      (right : y.comparison = .error cause) : Makes R x y

theorem FilterCondition.Makes.predicate {x y : FilterCondition} (h : x.Makes R y) :
    (x.predicate strict).Alike (Predicate.Alike R) (y.predicate strict) := by
  cases h with
  | comparison left right related =>
      rw [FilterCondition.predicate, FilterCondition.predicate, left, right]
      exact .ok [] (.leaf related)
  | malformed left right =>
      rw [FilterCondition.predicate, FilterCondition.predicate, left, right]
      dsimp only
      split
      · exact .error [] _
      · exact .ok _ .always

/-- Conditions that are read one after the other. -/
theorem FilterCondition.predicates_alike {xs ys : List FilterCondition}
    (h : List.Forall₂ (Makes R) xs ys) :
    (predicates strict xs).Alike (List.Forall₂ (Predicate.Alike R)) (predicates strict ys) := by
  induction h with
  | nil => exact .ok [] .nil
  | cons first _ ih =>
      exact first.predicate.bind fun _ _ hp => ih.bind fun _ _ hps => .ok [] (.cons hp hps)

namespace FilterGroup

mutual

/-- Groups are read alike, whatever the level. -/
theorem Alike.predicateAt {level : Nat} : ∀ {g h : FilterGroup},
    g.Alike (FilterCondition.Makes R) h →
      (predicateAt most strict level g).Alike (Predicate.Alike R)
        (predicateAt most strict level h)
  | _, _, .mk conditions groups => by
      rw [FilterGroup.predicateAt, FilterGroup.predicateAt]
      split
      · exact .error [] _
      · refine (FilterCondition.predicates_alike conditions).bind fun _ _ hfront => ?_
        refine (AllAlike.predicatesAt groups).bind fun _ _ hback => .ok [] ?_
        exact Predicate.alike_join _ (List.rel_append hfront hback)

theorem AllAlike.predicatesAt {level : Nat} : ∀ {gs hs : List FilterGroup},
    AllAlike (FilterCondition.Makes R) gs hs →
      (predicatesAt most strict level gs).Alike (List.Forall₂ (Predicate.Alike R))
        (predicatesAt most strict level hs)
  | _, _, .nil => .ok [] .nil
  | _, _, .cons first others => by
      rw [FilterGroup.predicatesAt, FilterGroup.predicatesAt]
      exact (Alike.predicateAt first).bind fun _ _ hp =>
        (AllAlike.predicatesAt others).bind fun _ _ hps => .ok [] (.cons hp hps)

end

mutual

theorem Alike.mono {S T : FilterCondition → FilterCondition → Prop} (hST : ∀ x y, S x y → T x y) :
    ∀ {g h : FilterGroup}, g.Alike S h → g.Alike T h
  | _, _, .mk conditions groups => .mk (conditions.imp hST) (AllAlike.mono hST groups)

theorem AllAlike.mono {S T : FilterCondition → FilterCondition → Prop}
    (hST : ∀ x y, S x y → T x y) :
    ∀ {gs hs : List FilterGroup}, AllAlike S gs hs → AllAlike T gs hs
  | _, _, .nil => .nil
  | _, _, .cons first others => .cons (Alike.mono hST first) (AllAlike.mono hST others)

end

end FilterGroup

/-! ## Plans -/

/-- Two plans with predicates that correspond, and nothing else that is different. -/
structure Plan.Alike (R : Comparison → Comparison → Prop) (p p' : Plan) : Prop where
  predicate : p.predicate.Alike R p'.predicate
  others : p' = { p with predicate := p'.predicate }

/-- Queries that differ in such filters are planned alike. -/
theorem Plan.of_alike {g h : FilterGroup} (halike : g.Alike (FilterCondition.Makes R) h)
    (hR : ∀ x, R x x) (settings : Settings) (context : PlanContext) (q : QueryParams) :
    (Plan.of settings context { q with filter := some g }).Alike (Plan.Alike R)
      (Plan.of settings context { q with filter := some h }) := by
  rw [Plan.of, Plan.of]
  refine (FilterGroup.Alike.predicateAt halike).bind fun filter filter' hfilter => ?_
  refine Outcome.alike_bind _ fun search => Outcome.alike_bind _ fun named => ?_
  dsimp only
  split
  all_goals
    refine Outcome.alike_bind _ fun relations => Outcome.alike_bind _ fun order => ?_
    exact .ok [] ⟨hfilter.merge hR search context.mandatory, rfl⟩

end CollectionQuery
