import CollectionQuery.Calendar.IsoText
import CollectionQuery.Cell
import CollectionQuery.Failure
import CollectionQuery.Number.StoredNumeral
import CollectionQuery.Number.StoredText
import CollectionQuery.Schema
import CollectionQuery.Value.Text

/-!
# Storing values

`ColumnKind.bind` gives the cell that a value becomes in a column, or why it cannot be stored.  A
column of numbers takes every scalar: a text that writes a number becomes that number and any other
text stays one.  A column of texts takes every scalar that has a plain text.  Columns of truth
values take the numbers 0 and 1, and columns of dates with times drop the offset.  A column of
identifiers takes one whose digits write a number for that number.
-/

namespace CollectionQuery

open CollectionQuery.Text CollectionQuery.Number CollectionQuery.Calendar

/-- Why a value cannot be stored in a column. -/
inductive BindFault where
  /-- It does not have the type of the column. -/
  | mistyped
  /-- It is an integer of more than 64 bits. -/
  | tooLarge
  /-- It has no form in the storage engine. -/
  | unsupported
  /-- It is a text without bytes. -/
  | unencodable
deriving DecidableEq

/-- The failure of a write that meets the fault. -/
def BindFault.fault : BindFault → Fault
  | .mistyped => .columnType
  | .tooLarge => .integerRange
  | .unsupported => .unstorable
  | .unencodable => .unencodable

namespace Cell

/-- A floating point number in a column of numbers: one that is an integer of at most 63 bits is
stored as that integer, and nan as null. -/
def ofNumber : Binary64 → Cell
  | .nan => .null
  | x => match x.toWord? with
    | some n => .int n
    | none => .real x

/-- The integer that a sign and digits write. -/
def wholeNumber? (text : List Char) : Option Int :=
  let (negative, digits) := splitSign text
  if digits ≠ [] ∧ digits.all Char.isDigit then
    some (if negative then -(ofDigits digits : Int) else ofDigits digits)
  else none

/-- A text in a column of numbers.  An integer of at most 64 bits is kept exactly, and any other
number becomes a floating point number first. -/
def ofNumeral (s : String) : Cell :=
  let text := trimChars isAsciiSpace s.toList
  match readNumeral? text with
  | none => .text s
  | some n =>
    let rounded := ofNumber n.stored
    match wholeNumber? text with
    | some n => if isWord n then .int n else rounded
    | none => rounded

/-- A value in a column of numbers. -/
def bindNumber : Value → Except BindFault Cell
  | .null => .ok .null
  | .bool b => .ok (.int (if b then 1 else 0))
  | .int n => if isWord n then .ok (.int n) else .error .tooLarge
  | .float x => .ok (ofNumber x)
  | .text s => .ok (ofNumeral s)
  | .unpaired _ => .error .unencodable
  | .date d => .ok (ofNumeral d.isoText)
  | .moment t => .ok (ofNumeral t.spacedText)
  | _ => .error .unsupported

/-- A value in a column of texts.  Truth values become 0 and 1. -/
def bindText : Value → Except BindFault Cell
  | .null => .ok .null
  | .bool b => .ok (.text (if b then "1" else "0"))
  | .int n => if isWord n then .ok (.text (Value.intText n)) else .error .tooLarge
  | .float .nan => .ok .null
  | .float x => .ok (.text x.storedText)
  | .text s => .ok (.text s)
  | .unpaired _ => .error .unencodable
  | .date d => .ok (.text d.isoText)
  | .moment t => .ok (.text t.spacedText)
  | _ => .error .unsupported

/-- A value in a column of truth values. -/
def bindBool (v : Value) : Except BindFault Cell :=
  if v.isNull then .ok .null
  else if v.sameScalar (.int 1) then .ok (.bool true)
  else if v.sameScalar (.int 0) then .ok (.bool false)
  else .error .mistyped

/-- A value in a column of dates with times. -/
def bindMoment : Value → Except BindFault Cell
  | .null => .ok .null
  | .moment t => .ok (.moment t.wall)
  | .date d => .ok (.moment (.startOf d))
  | _ => .error .mistyped

/-- An identifier in a column of identifiers.  The storage engine takes that for a column of
numbers: digits that write a number become that number, and only other digits stay the
identifier. -/
def ofUuid (u : Uuid) : Cell :=
  match ofNumeral (String.ofList u.digits) with
  | .int n => .int n
  | .real x => .real x
  | _ => .uuid u

/-- A value in a column of identifiers. -/
def bindUuid : Value → Except BindFault Cell
  | .null => .ok .null
  | .uuid u => .ok (.ofUuid u)
  | _ => .error .mistyped

end Cell

/-- Whether an identifier is the same once it was stored: its digits write no number. -/
def Uuid.isLegible (u : Uuid) : Bool := Cell.ofUuid u == .uuid u

/-- The cell of a value in a column.  No collection has a column of dates or documents. -/
def ColumnKind.bind : ColumnKind → Value → Except BindFault Cell
  | .text _ => Cell.bindText
  | .boolean => Cell.bindBool
  | .integer _ => Cell.bindNumber
  | .float => Cell.bindNumber
  | .numeric => Cell.bindNumber
  | .moment _ => Cell.bindMoment
  | .uuid => Cell.bindUuid
  | .date => fun _ => .error .unsupported
  | .json => fun _ => .error .unsupported

end CollectionQuery
