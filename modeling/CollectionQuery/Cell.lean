import CollectionQuery.PasswordHash
import CollectionQuery.Truth
import CollectionQuery.Value

/-!
# Stored values

A `Cell` is what a column of a row holds.  Truth values count as the numbers 0 and 1.  Cells are
ordered: null first, then numbers by size, then texts by their code points.  Dates with times and
identifiers are ordered among themselves.

A comparison with null is unknown.
-/

namespace CollectionQuery

open CollectionQuery.Number CollectionQuery.Calendar

/-- A stored value. -/
inductive Cell where
  | null
  | bool (b : Bool)
  /-- An integer of at most 64 bits. -/
  | int (n : Int)
  /-- A floating point number. -/
  | real (x : Binary64)
  | text (s : String)
  | moment (t : DateTime)
  | uuid (u : Uuid)
  | hash (h : PasswordHash)
deriving DecidableEq, Inhabited

namespace Cell

/-- Whether a cell holds no value. -/
def isNull : Cell → Bool
  | null => true
  | _ => false

/-- The value of a cell.  A hash is not shown. -/
def toValue : Cell → Value
  | null => .null
  | bool b => .bool b
  | int n => .int n
  | real x => .float x
  | text s => .text s
  | moment t => .moment ⟨t, none⟩
  | uuid u => .uuid u
  | hash _ => .null

/-- Whether a cell holds what a value denotes.  Every hash differs from all values. -/
def holds : Cell → Value → Bool
  | hash _, _ => false
  | c, v => c.toValue.sameScalar v

/-- The place of a number among the infinities, and its ratio; nan comes last. -/
def number? : Cell → Option (Int × Int × Nat)
  | bool b => some (0, if b then 1 else 0, 1)
  | int n => some (0, n, 1)
  | real (.infinity negative) => some (if negative then -1 else 1, 0, 1)
  | real .nan => some (2, 0, 1)
  | real x => x.ratio?.map fun r => (0, r)
  | _ => none

/-- The place of the kind of a cell in the order. -/
def rank : Cell → Nat
  | null => 0
  | bool _ => 1
  | int _ => 1
  | real _ => 1
  | text _ => 2
  | moment _ => 3
  | uuid _ => 4
  | hash _ => 5

/-- The order of cells. -/
def compare (a b : Cell) : Ordering :=
  match a, b with
  | text s, text t => Ord.compare s t
  | moment t, moment u => t.compare u
  | uuid u, uuid v => Ord.compare u.value v.value
  | _, _ => match a.number?, b.number? with
    | some m, some n => (Ord.compare m.1 n.1).then (compareRatios m.2 n.2)
    | _, _ => Ord.compare a.rank b.rank

/-- Whether a relation holds between two cells by their order; unknown if one of them is null. -/
def relate (accepts : Ordering → Bool) (a b : Cell) : Truth :=
  if a.isNull || b.isNull then .unknown else .ofBool (accepts (a.compare b))

end Cell

end CollectionQuery
