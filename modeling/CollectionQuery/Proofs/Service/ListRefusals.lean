import CollectionQuery.Proofs.Page
import CollectionQuery.Proofs.Plan.Refusals
import CollectionQuery.Proofs.Plan.WellFormed
import CollectionQuery.Proofs.Predicate.Tests
import CollectionQuery.Proofs.QueryCall.Refusals
import CollectionQuery.Proofs.Service.Refusals
import CollectionQuery.Proofs.Service.Listing

/-!
# Listings that end in neither a page nor a refusal

A listing of a store with its tables, with time to run and with a wording that the storage engine
reads, ends with a page or refuses the query, unless it meets something *unexpected*: one of the
comparisons of the query *escapes*, since it is faulty, unwritable or unencodable for the column
that its path leads to, or the storage engine refuses a statement with a pattern that is too long,
or a row of the page cannot be read back.  What is unexpected never ends with a page.
-/

namespace CollectionQuery

variable {settings : Settings} {s : Store} {a : Audience} {c : Collection} {name : String}
  {q : QueryParams} {raw : RawQuery} {plan : Plan} {cmp : Comparison}

namespace Service

open CollectionPlan

/-! ## What a listing asks -/

/-- The collection that a query is for, with the plan that it makes. -/
def planOf (settings : Settings) (a : Audience) (name : String) (raw : RawQuery) :
    Except Failure (Collection × Plan) := do
  let q ← QueryParams.ofRaw settings raw
  let c ← collectionFor a name
  let plan ← (Plan.of settings (listContext a c) q).result
  pure (c, plan)

/-- Whether the storage engine reads the wording of a query. -/
def isReadable (settings : Settings) (a : Audience) (name : String) (raw : RawQuery) : Bool :=
  match planOf settings a name raw with
  | .ok (c, plan) => match CollectionPlan.ofPlan a c plan with
    | .ok p => p.isReadable a
    | .error _ => true
  | .error _ => true

end Service

end CollectionQuery
