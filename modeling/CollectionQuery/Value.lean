import CollectionQuery.Uuid
import CollectionQuery.Calendar.DateTime
import CollectionQuery.Text.CodePoints

/-!
# Values

The values that documents, filters, payloads and results hold.  An object keeps its members in
order, each name once.  A value is *blank* if it stands for nothing when a text is asked for: null,
false, zero, and what is empty.

A text with half a surrogate pair is a kind of its own, and so is an object with such a name:
nothing can be stored or shown that has one.

`same` is equality of what two values denote: truth values and numbers of every kind compare by
their number, and a timestamp with a known offset never equals one without.
-/

namespace CollectionQuery

open CollectionQuery.Number CollectionQuery.Calendar CollectionQuery.Text

/-- A value. -/
inductive Value where
  | null
  | bool (b : Bool)
  | int (n : Int)
  | float (x : Binary64)
  | decimal (d : Decimal)
  | text (s : String)
  /-- A text with half a surrogate pair. -/
  | unpaired (t : Unpaired)
  | date (d : Date)
  | moment (t : Timestamp)
  | uuid (u : Uuid)
  | list (items : List Value)
  /-- A list of fixed length. -/
  | tuple (items : List Value)
  | object (members : List (String × Value))
  /-- An object with half a surrogate pair in a name. -/
  | mixed (members : List (AnyText × Value))
deriving Inhabited

namespace Value

def ofText : AnyText → Value
  | .whole s => text s
  | .unpaired t => unpaired t

@[simp] theorem ofText_whole (s : String) : ofText (.whole s) = text s := rfl

/-- The members whose names are texts of characters. -/
def wholeMembers (members : List (AnyText × Value)) : List (String × Value) :=
  members.filterMap fun m => match m.1 with
    | .whole name => some (name, m.2)
    | .unpaired _ => none

/-- An object. -/
def ofMembers (members : List (AnyText × Value)) : Value :=
  if members.all fun m => m.1.isWhole then object (wholeMembers members) else mixed members

/-- Whether a value stands for nothing when a text is asked for. -/
def isBlank : Value → Bool
  | null => true
  | bool b => !b
  | int n => n == 0
  | float x => x.isZero
  | decimal d => d.isZero
  | text s => s == ""
  | unpaired _ => false
  | list items => items.isEmpty
  | tuple items => items.isEmpty
  | object members => members.isEmpty
  | mixed members => members.isEmpty
  | date _ => false
  | moment _ => false
  | uuid _ => false

def isNull : Value → Bool
  | null => true
  | _ => false

/-- The exact number that a value denotes, as a signed numerator over a positive denominator. -/
def ratio? : Value → Option (Int × Nat)
  | bool b => some (if b then 1 else 0, 1)
  | int n => some (n, 1)
  | float x => x.ratio?
  | decimal d => d.ratio?
  | _ => none

/-- An infinity, by its sign. -/
def infinity? : Value → Option Bool
  | float (.infinity negative) => some negative
  | decimal (.infinity negative) => some negative
  | _ => none

/-- Whether two timestamps denote the same time: both offsets are known and the instants agree, or
neither is known and the readings agree. -/
def sameMoment (a b : Timestamp) : Bool :=
  match a.offset, b.offset with
  | none, none => a.wall == b.wall
  | some _, some _ => a.toUniversal? == b.toUniversal?
  | _, _ => false

/-- Whether two values that are neither lists nor objects denote the same thing. -/
def sameScalar (a b : Value) : Bool :=
  match a, b with
  | null, null => true
  | text s, text t => s == t
  | unpaired s, unpaired t => s == t
  | date d, date e => d == e
  | moment t, moment u => sameMoment t u
  | uuid u, uuid v => u == v
  | _, _ =>
    match a.ratio?, b.ratio? with
    | some r, some s => compareRatios r s == .eq
    | _, _ => match a.infinity?, b.infinity? with
      | some m, some n => m == n
      | _, _ => false

/-- The elements of a value where several are asked for: those of a list, the characters of a text
and the names of an object; another value is the only one. -/
def elements : Value → List Value
  | list items => items
  | tuple items => items
  | text s => s.toList.map fun c => text (String.singleton c)
  | unpaired t => t.points.map fun p => ofText (.ofPoints [p])
  | object members => members.map fun m => text m.1
  | mixed members => members.map fun m => ofText m.1
  | v => [v]

/-- The members of an object whose names are texts of characters. -/
def members? : Value → Option (List (String × Value))
  | object members => some members
  | mixed members => some (wholeMembers members)
  | _ => none

section

variable {α : Type} [BEq α]

/-- The member of an object with the given name. -/
def member? (members : List (α × Value)) (name : α) : Option Value :=
  (members.find? fun m => m.1 == name).map (·.2)

/-- An object's members with one of them set: in its place if the name is there, else at the end. -/
def setMember (members : List (α × Value)) (name : α) (value : Value) : List (α × Value) :=
  if members.any fun m => m.1 == name then
    members.map fun m => if m.1 == name then (name, value) else m
  else members ++ [(name, value)]

/-- The members without the one of the given name. -/
def eraseMember (members : List (α × Value)) (name : α) : List (α × Value) :=
  members.filter fun m => m.1 != name

end

end Value

end CollectionQuery
