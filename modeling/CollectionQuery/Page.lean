import CollectionQuery.Failure
import CollectionQuery.Number.Binary64

/-!
# Pages

Which page of how many a result is.  The number of pages is the quotient of total and page length,
taken in floating point and rounded up; a total that is not positive has no pages.
-/

namespace CollectionQuery

open CollectionQuery.Number

/-- The place of a page in the whole result. -/
structure PageMeta where
  /-- The number of the page. -/
  currentPage : Int
  /-- The length of a page. -/
  items : Int
  totalItems : Int
  totalPages : Int
  hasNextPage : Bool
  hasPreviousPage : Bool

/-- A page of rows. -/
structure Page (ρ : Type) where
  data : List ρ
  /-- The place of the page. -/
  info : PageMeta

/-- The quotient of two integers as a floating point number. -/
def floatQuotient (num den : Int) : Except Fault Binary64 :=
  if den = 0 then .error .divisionByZero
  else match Binary64.ofRatio (decide (num < 0) != decide (den < 0)) num.natAbs den.natAbs with
    | .infinity _ => .error .quotientRange
    | x => .ok x

/-- The least integer that is not less than a finite floating point number. -/
def ceiling (x : Binary64) : Int :=
  match x.ratio? with
  | some r => -((-r.1) / (r.2 : Int))
  | none => 0

/-- The number of pages. -/
def pageCount (limit total : Int) : Except Fault Int :=
  if 0 < total then (floatQuotient total limit).map ceiling else .ok 0

/-- The place of a page. -/
def PageMeta.of (page limit total : Int) : Except Failure PageMeta :=
  match pageCount limit total with
  | .error cause => .error (.fault cause)
  | .ok pages => .ok {
      currentPage := page
      items := limit
      totalItems := total
      totalPages := pages
      hasNextPage := decide (page < pages)
      hasPreviousPage := decide (1 < page) }

end CollectionQuery
