import CollectionQuery.Proofs.Failure
import CollectionQuery.Proofs.Filter.Reading
import CollectionQuery.Proofs.QueryParams

/-!
# Strict and lenient readings

The depth of a filter is a number that the tree has; a reading counts the levels on its way down and
stops at the first group that is below the limit.  The two agree (`filterPredicate_eq_ok`), so a
lenient reading fails exactly on the filters that are too deep, and never on one that was taken as a
parameter under the same limit.  A strict reading gets through if all conditions are well-formed
besides, and it then ends as the lenient one does.
-/

namespace CollectionQuery

namespace FilterGroup

variable {most : Int} {strict : Bool}

-- A reading that ends with a predicate has entered every group below the one that it starts from.
-- For a list of groups there may be none to enter, so the level before it is known to be within the
-- limit already.
mutual

theorem within_of_predicateAt : ∀ {level : Nat} (g : FilterGroup) {p : Predicate},
    (predicateAt most strict level g).result = .ok p →
      (level : Int) + g.depth ≤ most + 1 ∧ FilterCondition.Passes strict g.allConditions
  | level, mk connective conditions groups, p, h => by
      rw [predicateAt] at h
      split at h
      · cases h
      · next hlevel =>
          obtain ⟨front, hfront, h⟩ := Outcome.result_bind_eq_ok.1 h
          obtain ⟨back, hback, -⟩ := Outcome.result_bind_eq_ok.1 h
          obtain ⟨hdepth, hpasses⟩ := within_of_predicatesAt groups (by omega) hback
          rw [depth, allConditions, FilterCondition.passes_append]
          exact ⟨by omega, FilterCondition.passes_of_predicates hfront, hpasses⟩

theorem within_of_predicatesAt : ∀ {level : Nat} (gs : List FilterGroup) {ps : List Predicate},
    (level : Int) ≤ most + 1 → (predicatesAt most strict level gs).result = .ok ps →
      (level : Int) + depthOfGroups gs ≤ most + 1 ∧
        FilterCondition.Passes strict (conditionsOf gs)
  | _, [], _, hlevel, _ => by
      rw [depthOfGroups, conditionsOf]
      exact ⟨by omega, fun _ => List.forall_mem_nil _⟩
  | level, g :: rest, _, hlevel, h => by
      rw [predicatesAt] at h
      obtain ⟨p, hp, h⟩ := Outcome.result_bind_eq_ok.1 h
      obtain ⟨more, hmore, -⟩ := Outcome.result_bind_eq_ok.1 h
      obtain ⟨hfirst, hconditions⟩ := within_of_predicateAt g hp
      obtain ⟨hrest, hpasses⟩ := within_of_predicatesAt rest hlevel hmore
      rw [depthOfGroups, conditionsOf, FilterCondition.passes_append]
      exact ⟨by omega, hconditions, hpasses⟩

end

end FilterGroup

/-! ## How a lenient reading fails -/

theorem FilterCondition.predicates_lenient (cs : List FilterCondition) :
    (predicates false cs).result = .ok (cs.map reading) :=
  congrArg Outcome.result (predicates_eq (passes_lenient cs))

namespace FilterGroup

variable {most : Int}

mutual

/-- A reading that is not strict fails for the depth of the filter only. -/
theorem failsOnly_predicateAt : ∀ (level : Nat) (g : FilterGroup),
    FailsOnly (· = .rejected (.nesting most)) (predicateAt most false level g).result
  | level, mk connective conditions groups => by
      rw [predicateAt]
      split
      · exact .of_error rfl
      · refine FailsOnly.result_bind ?_ fun front _ => ?_
        · rw [FilterCondition.predicates_lenient]
          exact .of_ok _
        · exact (failsOnly_predicatesAt (level + 1) groups).result_bind fun back _ => .of_ok _

theorem failsOnly_predicatesAt : ∀ (level : Nat) (gs : List FilterGroup),
    FailsOnly (· = .rejected (.nesting most)) (predicatesAt most false level gs).result
  | _, [] => .of_ok _
  | level, g :: rest => by
      rw [predicatesAt]
      refine (failsOnly_predicateAt level g).result_bind fun p _ => ?_
      exact (failsOnly_predicatesAt level rest).result_bind fun ps _ => .of_ok _

end

end FilterGroup

variable {most : Int} {strict : Bool} {g : FilterGroup}

/-! ## When a filter becomes a predicate -/

theorem filterPredicate_eq_ok :
    (∃ p, (filterPredicate most strict (some g)).result = .ok p) ↔
      (g.depth : Int) ≤ most ∧ FilterCondition.Passes strict g.allConditions := by
  constructor
  · rintro ⟨p, hp⟩
    obtain ⟨hdepth, hpasses⟩ := FilterGroup.within_of_predicateAt g hp
    exact ⟨by omega, hpasses⟩
  · rintro ⟨hdepth, hpasses⟩
    exact ⟨g.reading, congrArg Outcome.result (filterPredicate_eq hdepth hpasses)⟩

theorem filterPredicate_lenient_eq_error {f : Failure} :
    (filterPredicate most false (some g)).result = .error f ↔
      f = .rejected (.nesting most) ∧ most < (g.depth : Int) := by
  constructor
  · intro h
    refine ⟨FilterGroup.failsOnly_predicateAt 1 g f h, Int.not_le.1 fun hdepth => ?_⟩
    obtain ⟨p, hp⟩ := filterPredicate_eq_ok.2 ⟨hdepth, FilterCondition.passes_lenient _⟩
    cases hp.symm.trans h
  · rintro ⟨rfl, hdepth⟩
    cases h : (filterPredicate most false (some g)).result with
    | ok p => exact absurd (filterPredicate_eq_ok.1 ⟨p, h⟩).1 (Int.not_le.2 hdepth)
    | error f => rw [FilterGroup.failsOnly_predicateAt 1 g f h]

/-- A filter that was taken as a parameter is not too deep. -/
theorem QueryParams.depth_le_of_ofRaw {settings : Settings} {raw : RawQuery} {q : QueryParams}
    (h : ofRaw settings raw = .ok q) (hfilter : q.filter = some g) :
    (g.depth : Int) ≤ settings.filterMaxDepth := by
  obtain ⟨read, -, hbounds⟩ := bind_eq_ok.1 (ofRaw_eq_ok.1 h)
  rw [checkBounds] at hbounds
  split at hbounds
  · cases hbounds
  · split at hbounds
    · next hnone =>
        cases hbounds
        cases hnone.symm.trans hfilter
    · next g' hsome =>
        split at hbounds
        · cases hbounds
        · next hdepth =>
            cases hbounds
            cases hsome.symm.trans hfilter
            exact Int.not_lt.1 hdepth

/-- A lenient reading fails if and only if the filter is too deep, and for this reason; so it never
fails on the filter of parameters that were taken under the same limit.  A strict reading ends with
a predicate if and only if the filter is not too deep and all its conditions are well-formed; the
lenient one then ends with the same predicate and records nothing. -/
theorem strict_and_lenient_readings_agree (most : Int) (g : FilterGroup) :
    ((∃ f, (filterPredicate most false (some g)).result = .error f) ↔ most < (g.depth : Int)) ∧
    (∀ f, (filterPredicate most false (some g)).result = .error f →
      f = .rejected (.nesting most)) ∧
    (∀ settings raw q, QueryParams.ofRaw settings raw = .ok q → q.filter = some g →
      ∃ p, (filterPredicate settings.filterMaxDepth false q.filter).result = .ok p) ∧
    ((∃ p, (filterPredicate most true (some g)).result = .ok p) ↔
      (g.depth : Int) ≤ most ∧ ∀ c ∈ g.allConditions, c.WellFormed) ∧
    ∀ p, (filterPredicate most true (some g)).result = .ok p →
      filterPredicate most false (some g) = ⟨[], .ok p⟩ := by
  refine ⟨⟨?_, ?_⟩, ?_, ?_, ⟨?_, ?_⟩, ?_⟩
  · rintro ⟨f, hf⟩
    exact (filterPredicate_lenient_eq_error.1 hf).2
  · exact fun hdepth => ⟨_, filterPredicate_lenient_eq_error.2 ⟨rfl, hdepth⟩⟩
  · exact fun f hf => (filterPredicate_lenient_eq_error.1 hf).1
  · intro settings raw q hq hfilter
    rw [hfilter]
    exact filterPredicate_eq_ok.2
      ⟨QueryParams.depth_le_of_ofRaw hq hfilter, FilterCondition.passes_lenient _⟩
  · intro h
    obtain ⟨hdepth, hpasses⟩ := filterPredicate_eq_ok.1 h
    exact ⟨hdepth, hpasses rfl⟩
  · exact fun h => filterPredicate_eq_ok.2 ⟨h.1, fun _ => h.2⟩
  · intro p hp
    obtain ⟨hdepth, hpasses⟩ := filterPredicate_eq_ok.1 ⟨p, hp⟩
    have hstrict := congrArg Outcome.result (filterPredicate_eq hdepth hpasses)
    cases hp.symm.trans hstrict
    rw [filterPredicate_eq hdepth (FilterCondition.passes_lenient _),
      FilterCondition.warnings_of_wellFormed (hpasses rfl)]

/-- Two levels of well-formed conditions: a strict reading gets through if two are allowed, and the
lenient one fails if there is one only. -/
theorem strict_and_lenient_readings_agree_two_levels :
    let g : FilterGroup := .mk .and [⟨"age", "gt", .int 3⟩]
      [.mk .or [⟨"slug", "in", .text "b"⟩, ⟨"age", "null", .int 1⟩] []]
    (∃ p, (filterPredicate 2 true (some g)).result = .ok p ∧
      filterPredicate 2 false (some g) = ⟨[], .ok p⟩) ∧
    ∃ f, (filterPredicate 1 false (some g)).result = .error f := by
  intro g
  have hwell : ∀ c ∈ g.allConditions, c.WellFormed := by
    show ∀ c ∈ [⟨"age", "gt", .int 3⟩, ⟨"slug", "in", .text "b"⟩, ⟨"age", "null", .int 1⟩],
      FilterCondition.WellFormed c
    simp only [List.forall_mem_cons, List.not_mem_nil, false_implies, implies_true, and_true]
    exact ⟨⟨.gt, .int 3, rfl, rfl⟩, ⟨.oneOf, .tuple [.text "b"], rfl, rfl⟩,
      ⟨.isNull, .null, rfl, rfl⟩⟩
  obtain ⟨-, -, -, hstrict, hsame⟩ := strict_and_lenient_readings_agree 2 g
  obtain ⟨p, hp⟩ := hstrict.2 ⟨by decide, hwell⟩
  exact ⟨⟨p, hp, hsame p hp⟩, (strict_and_lenient_readings_agree 1 g).1.2 (by decide)⟩

end CollectionQuery
