/-!
# Truth in three values

A comparison with a missing value is neither true nor false.  The values are ordered from `no` over
`unknown` to `yes`: a conjunction is the least of its members and a disjunction the greatest.
-/

namespace CollectionQuery

/-- A truth value. -/
inductive Truth where
  | no
  | unknown
  | yes
deriving DecidableEq, Repr, Inhabited

namespace Truth

/-- The lesser of two truth values. -/
def and : Truth → Truth → Truth
  | no, _ => no
  | _, no => no
  | unknown, _ => unknown
  | _, unknown => unknown
  | yes, yes => yes

/-- The greater of two truth values. -/
def or : Truth → Truth → Truth
  | yes, _ => yes
  | _, yes => yes
  | unknown, _ => unknown
  | _, unknown => unknown
  | no, no => no

/-- The opposite; what is unknown stays unknown. -/
def not : Truth → Truth
  | no => yes
  | unknown => unknown
  | yes => no

/-- The truth value of a decided statement. -/
def ofBool (b : Bool) : Truth := if b then yes else no

/-- The least of several truth values, `yes` of none. -/
def all (items : List Truth) : Truth := items.foldr and yes

/-- The greatest of several truth values, `no` of none. -/
def any (items : List Truth) : Truth := items.foldr or no

/-- Whether a truth value is `yes`. -/
def holds (t : Truth) : Bool := t == yes

end Truth

end CollectionQuery
