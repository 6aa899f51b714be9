import CollectionQuery.Calendar.IsoText
import CollectionQuery.Failure

/-!
# Plain values

The form that a value has in a response: dates, times and identifiers are texts, decimal numbers are
floating point numbers, and lists of fixed length are lists.  A signaling nan has no such form.
-/

namespace CollectionQuery.Value

open CollectionQuery.Calendar CollectionQuery.Text

mutual

/-- The plain form of a value. -/
def plain : Value → Value
  | list items => list (plainItems items)
  | tuple items => list (plainItems items)
  | object members => object (plainMembers members)
  | mixed members => mixed (plainMixed members)
  | date d => text d.isoText
  | moment t => text t.isoText
  | uuid u => text u.text
  | decimal d => float d.toBinary64
  | null => null
  | bool b => bool b
  | int n => int n
  | float x => float x
  | text s => text s
  | unpaired t => unpaired t

/-- The plain forms of the items of a list. -/
def plainItems : List Value → List Value
  | [] => []
  | v :: rest => plain v :: plainItems rest

/-- The members of an object with their values in plain form. -/
def plainMembers : List (String × Value) → List (String × Value)
  | [] => []
  | (name, v) :: rest => (name, plain v) :: plainMembers rest

/-- The members of an object with half a surrogate pair in a name, with their values in plain
form. -/
def plainMixed : List (AnyText × Value) → List (AnyText × Value)
  | [] => []
  | (name, v) :: rest => (name, plain v) :: plainMixed rest

end

mutual

/-- Whether a signaling nan stands anywhere in a value. -/
def hasSignal : Value → Bool
  | list items => anySignal items
  | tuple items => anySignal items
  | object members => anyMemberSignal members
  | mixed members => anyMixedSignal members
  | decimal d => d.isSignaling
  | date _ => false
  | moment _ => false
  | uuid _ => false
  | null => false
  | bool _ => false
  | int _ => false
  | float _ => false
  | text _ => false
  | unpaired _ => false

/-- Whether a signaling nan stands in an item of a list. -/
def anySignal : List Value → Bool
  | [] => false
  | v :: rest => hasSignal v || anySignal rest

/-- Whether a signaling nan stands in a member of an object. -/
def anyMemberSignal : List (String × Value) → Bool
  | [] => false
  | (_, v) :: rest => hasSignal v || anyMemberSignal rest

/-- Whether a signaling nan stands in a member of an object with half a surrogate pair in a name. -/
def anyMixedSignal : List (AnyText × Value) → Bool
  | [] => false
  | (_, v) :: rest => hasSignal v || anyMixedSignal rest

end

/-- The plain form of a value that has one. -/
def toPlain (v : Value) : Except Failure Value :=
  if v.hasSignal then .error (.fault .signalingNan) else .ok v.plain

end CollectionQuery.Value
