import CollectionQuery.Plan
import CollectionQuery.Proofs.Failure
import CollectionQuery.QueryParams

/-!
# Queries that make no plan

Reading the parameters of a query and making its plan fail only by a rejection of the query.
-/

namespace CollectionQuery

theorem FilterCondition.predicate_fails (strict : Bool) (c : FilterCondition) :
    FailsOnly Failure.IsRejected (c.predicate strict).result := by
  rw [predicate]
  split
  · exact .of_ok _
  · split
    · exact .of_error ⟨_, rfl⟩
    · exact .of_ok _

theorem FilterCondition.predicates_fails (strict : Bool) (cs : List FilterCondition) :
    FailsOnly Failure.IsRejected (predicates strict cs).result := by
  induction cs with
  | nil => exact .of_ok _
  | cons c rest ih =>
      rw [predicates]
      exact (c.predicate_fails strict).result_bind fun _ _ => ih.result_bind fun _ _ => .of_ok _

namespace FilterGroup

variable {most : Int} {strict : Bool}

mutual

theorem predicateAt_fails : ∀ (level : Nat) (g : FilterGroup),
    FailsOnly Failure.IsRejected (predicateAt most strict level g).result
  | level, mk connective conditions groups => by
      rw [predicateAt]
      split
      · exact .of_error ⟨_, rfl⟩
      · exact (FilterCondition.predicates_fails strict conditions).result_bind fun _ _ =>
          (predicatesAt_fails (level + 1) groups).result_bind fun _ _ => .of_ok _

theorem predicatesAt_fails : ∀ (level : Nat) (gs : List FilterGroup),
    FailsOnly Failure.IsRejected (predicatesAt most strict level gs).result
  | _, [] => .of_ok _
  | level, g :: rest => by
      rw [predicatesAt]
      exact (predicateAt_fails level g).result_bind fun _ _ =>
        (predicatesAt_fails level rest).result_bind fun _ _ => .of_ok _

end

end FilterGroup

namespace SortKey

end SortKey

end CollectionQuery
