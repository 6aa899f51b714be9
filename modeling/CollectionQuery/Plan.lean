import CollectionQuery.FieldPath
import CollectionQuery.Filter.Predicate
import CollectionQuery.QueryParams
import CollectionQuery.RelationPath
import CollectionQuery.SortKey

/-!
# Plans

A plan says what a query asks of a collection: the predicate that the rows meet, their order, the
fields to return, the relations to load, and the part of the rows that makes up the page.  `Plan.of`
checks everything that can be checked without knowing the fields of the collection.
-/

namespace CollectionQuery

open CollectionQuery.Text

/-! ## Searching

A search term matches a row if one of several fields contains it.  The fields are those of the query
or else the ones that the collection is searched by; without either the term is ignored.
-/

/-- The predicate of a search term. -/
def searchPredicate (term : AnyText) (fields defaults : List String) : Except Failure Predicate :=
  let text := term.strip
  let searched := if fields.isEmpty then defaults else fields
  if text = .whole "" ∨ searched.isEmpty then .ok .always
  else
    match searched.find? fun field => !FieldPath.isPath field with
    | some field => .error (.rejected (.searchField field))
    | none => .ok (.anyOf (searched.map fun field => .leaf ⟨field, .contains, .ofText text⟩))

/-! ## Queries -/

/-- What a query asks of a collection. -/
structure Plan where
  /-- The name of the collection. -/
  collection : String
  /-- The rows to return. -/
  predicate : Predicate
  /-- The order of the rows. -/
  order : List SortKey
  /-- The fields to return, or all of them. -/
  projection : Option (List String)
  /-- The relations to load. -/
  relations : List String
  /-- How many rows to pass over. -/
  skip : Int
  /-- How many rows to return. -/
  take : Int

/-- The selected fields that are not excluded, each once and sorted.  Excluding alone does not
narrow the fields. -/
def projectionOf (select exclude : List String) : Option (List String) :=
  if select.isEmpty then none
  else some (sortTexts (firstOccurrences (select.filter fun field => field ∉ exclude)))

/-- What a caller adds to a query. -/
structure PlanContext where
  /-- The name of the collection. -/
  collection : String
  /-- The relations that the collection has, if they are known. -/
  relations : Option (List String) := none
  /-- The fields to search if a query names none. -/
  searchFields : List String := []
  /-- A condition that every row has to meet. -/
  mandatory : Mandatory := .none
  /-- Relations to load besides those of the query. -/
  additionalRelations : List String := []
  /-- Whether a malformed condition is refused; the settings decide if this is not given. -/
  strict : Option Bool := none

/-- The plan of a query. -/
def Plan.of (settings : Settings) (context : PlanContext) (q : QueryParams) : Outcome Plan := do
  let strict := context.strict.getD settings.strictConditions
  let filter ← filterPredicate settings.filterMaxDepth strict q.filter
  let search ← .ofExcept (searchPredicate (q.search.getD "") q.searchFields context.searchFields)
  let named ← RelationPath.requested q.relations q.loadAll context.relations
  let relations ←
    if context.additionalRelations.isEmpty then pure named
    else .ofExcept (RelationPath.normalize (named ++ context.additionalRelations))
  let order ← .ofExcept (SortKey.ofTexts (q.sortBy.getD "") (q.sortOrder.getD ""))
  pure {
    collection := context.collection
    predicate := .merge filter search context.mandatory
    order
    projection := projectionOf q.select q.exclude
    relations
    skip := (q.page - 1) * q.limit
    take := q.limit }

end CollectionQuery
