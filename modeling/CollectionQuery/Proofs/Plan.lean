import CollectionQuery.Plan
import CollectionQuery.Proofs.Predicate.Shape
import CollectionQuery.Proofs.RelationPath

/-!
# What a plan is made of

The predicate of a plan is the merger of what the query filters and searches by and of what its
caller demands, the order is what the query sorts by, and the part of the rows is the page.
-/

namespace CollectionQuery

variable {settings : Settings} {context : PlanContext} {q : QueryParams} {plan : Plan}

theorem Plan.of_parts (h : (Plan.of settings context q).result = .ok plan) :
    ∃ (filter search : Predicate) (named : List String),
      (filterPredicate settings.filterMaxDepth (context.strict.getD settings.strictConditions)
        q.filter).result = .ok filter ∧
      searchPredicate (q.search.getD "") q.searchFields context.searchFields = .ok search ∧
      (RelationPath.requested q.relations q.loadAll context.relations).result = .ok named ∧
      (if context.additionalRelations.isEmpty then .ok named
        else RelationPath.normalize (named ++ context.additionalRelations)) =
          .ok plan.relations ∧
      SortKey.ofTexts (q.sortBy.getD "") (q.sortOrder.getD "") = .ok plan.order ∧
      plan.predicate = .merge filter search context.mandatory ∧
      plan.projection = projectionOf q.select q.exclude ∧
      plan.skip = (q.page - 1) * q.limit ∧ plan.take = q.limit := by
  rw [Plan.of] at h
  obtain ⟨filter, hfilter, h⟩ := Outcome.result_bind_eq_ok.1 h
  obtain ⟨search, hsearch, h⟩ := Outcome.result_bind_eq_ok.1 h
  obtain ⟨named, hnamed, h⟩ := Outcome.result_bind_eq_ok.1 h
  refine ⟨filter, search, named, hfilter, hsearch, hnamed, ?_⟩
  dsimp only at h
  -- The relations are the only part that the two cases tell apart.
  split at h
  all_goals
    next hadditional =>
      obtain ⟨relations, hrelations, h⟩ := Outcome.result_bind_eq_ok.1 h
      obtain ⟨order, horder, h⟩ := Outcome.result_bind_eq_ok.1 h
      cases h
      refine ⟨?_, horder, rfl, rfl, rfl, rfl⟩
      simp only [hadditional, if_true]
      exact hrelations

theorem Plan.of_eq_ok (h : (Plan.of settings context q).result = .ok plan) :
    ∃ filter search : Predicate, filter.Trimmed ∧ search.Trimmed ∧
      plan.predicate = .merge filter search context.mandatory ∧
      SortKey.ofTexts (q.sortBy.getD "") (q.sortOrder.getD "") = .ok plan.order ∧
      plan.skip = (q.page - 1) * q.limit ∧ plan.take = q.limit := by
  obtain ⟨filter, search, named, hfilter, hsearch, -, -, horder, hpredicate, -, hskip, htake⟩ :=
    Plan.of_parts h
  exact ⟨filter, search, trimmed_filterPredicate hfilter, trimmed_searchPredicate hsearch,
    hpredicate, horder, hskip, htake⟩

/-- The predicate of a plan is trimmed, if what the caller demands is. -/
theorem Plan.trimmed_predicate (hmandatory : context.mandatory.Trimmed)
    (h : (Plan.of settings context q).result = .ok plan) : plan.predicate.Trimmed := by
  obtain ⟨filter, search, hfilter, hsearch, hpredicate, -⟩ := Plan.of_eq_ok h
  rw [hpredicate]
  exact Predicate.trimmed_merge hfilter hsearch hmandatory

/-- Another page of a query has the same plan, for another part of the rows. -/
theorem Plan.of_page (h : (Plan.of settings context q).result = .ok plan) (page : Int) :
    (Plan.of settings context { q with page }).result =
      .ok { plan with skip := (page - 1) * q.limit } := by
  rw [Plan.of] at h ⊢
  obtain ⟨filter, hfilter, h⟩ := Outcome.result_bind_eq_ok.1 h
  obtain ⟨search, hsearch, h⟩ := Outcome.result_bind_eq_ok.1 h
  obtain ⟨named, hnamed, h⟩ := Outcome.result_bind_eq_ok.1 h
  refine Outcome.result_bind_eq_ok.2 ⟨filter, hfilter, Outcome.result_bind_eq_ok.2
    ⟨search, hsearch, Outcome.result_bind_eq_ok.2 ⟨named, hnamed, ?_⟩⟩⟩
  dsimp only at h ⊢
  split at h
  all_goals
    next hadditional =>
      obtain ⟨relations, hrelations, h⟩ := Outcome.result_bind_eq_ok.1 h
      obtain ⟨order, horder, h⟩ := Outcome.result_bind_eq_ok.1 h
      cases h
      simp only [hadditional, if_true]
      exact Outcome.result_bind_eq_ok.2 ⟨relations, hrelations,
        Outcome.result_bind_eq_ok.2 ⟨order, horder, rfl⟩⟩

end CollectionQuery
