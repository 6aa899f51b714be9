import CollectionQuery.Calendar.IsoText
import CollectionQuery.Failure
import CollectionQuery.Number.Reading
import CollectionQuery.Schema
import CollectionQuery.Text.LetterCase

/-!
# Filter values

A filter value takes the type of the column it is compared with, or the query is refused.  Null
stays null, and text columns and documents take every value as it is.

A number may be written with a comma instead of the point.  A date may be given with a time, which
is dropped; a date-time may be given as a date alone, which means its midnight.  In a column that
keeps offsets a date-time without one counts as universal; in a column without offsets a date-time
is turned into universal time.
-/

namespace CollectionQuery

open CollectionQuery.Text CollectionQuery.Number CollectionQuery.Calendar

namespace Coercion

/-- The refusal of a value. -/
def refuse {α : Type} (column : String) (kind : ValueKind) : Except Failure α :=
  .error (.rejected (.filterValue column kind))

/-- The value that was read, or the refusal. -/
def orRefuse {α : Type} (column : String) (kind : ValueKind) : Option α → Except Failure α
  | some a => .ok a
  | none => refuse column kind

def trueTexts : List String := ["1", "true", "yes", "y", "on"]

def falseTexts : List String := ["0", "false", "no", "n", "off"]

/-- A truth value. -/
def boolean (column : String) : Value → Except Failure Bool
  | .bool b => .ok b
  | v =>
    let text := lower (strip v.textOrEmpty)
    if text ∈ trueTexts then .ok true
    else if text ∈ falseTexts then .ok false
    else refuse column .boolean

/-- The text of a number: no blanks around it, a point for every comma. -/
def numeral (column : String) (v : Value) : Except Failure String :=
  let text := strip v.toText
  if text = "" then refuse column .number
  else .ok (String.ofList (text.toList.map fun c => if c = ',' then '.' else c))

/-- An integer that the column can hold. -/
def checkInteger (column : String) (bits : Nat) (n : Int) : Except Failure Int :=
  if fits bits n then .ok n else refuse column .numberInRange

/-- An integer.  A floating point number loses its fractional part. -/
def integer (column : String) (bits : Nat) : Value → Except Failure Int
  | .int n => checkInteger column bits n
  | .float x => do checkInteger column bits (← orRefuse column .numberInRange x.truncate?)
  | v => do
    let text ← numeral column v
    checkInteger column bits (← orRefuse column .number (readInteger? text))

/-- A floating point number that is finite. -/
def checkFloat (column : String) (x : Binary64) : Except Failure Binary64 :=
  if x.isFinite then .ok x else refuse column .numberInRange

/-- A floating point number. -/
def float (column : String) : Value → Except Failure Binary64
  | .int n => do checkFloat column (← orRefuse column .numberInRange (Binary64.ofInt? n))
  | .float x => checkFloat column x
  | v => do
    let text ← numeral column v
    checkFloat column (← orRefuse column .number (readBinary64? text))

/-- A decimal number that is finite. -/
def checkDecimal (column : String) (d : Decimal) : Except Failure Decimal :=
  if d.isFinite then .ok d else refuse column .numberInRange

/-- A decimal number.  A floating point number gives the digits it is written with. -/
def decimal (column : String) : Value → Except Failure Decimal
  | .decimal d => checkDecimal column d
  | .int n => .ok (.ofInt n)
  | .float x => do checkDecimal column (← orRefuse column .number (readDecimal? x.text))
  | v => do
    let text ← numeral column v
    checkDecimal column (← orRefuse column .number (readDecimal? text))

/-- Whether a text has a character that stands between a date and a time. -/
def hasTime (text : String) : Bool := text.toList.any fun c => c == 'T' || c == ' '

/-- A text with the letter for universal time written as an offset. -/
def zuluAsOffset (text : String) : String :=
  String.ofList (replaceChar 'Z' "+00:00".toList text.toList)

def date (column : String) : Value → Except Failure Date
  | .date d => .ok d
  | v =>
    let text := strip v.textOrEmpty
    if text = "" then refuse column .date
    else if hasTime text then
      orRefuse column .date ((Timestamp.ofIso? (zuluAsOffset text)).map fun t => t.wall.date)
    else orRefuse column .date (Date.ofIso? text)

/-- A date with a time, as it is given. -/
def timestamp (column : String) : Value → Except Failure Timestamp
  | .moment t => .ok t
  | v =>
    let text := strip v.textOrEmpty
    if text = "" then refuse column .dateTime
    else if !hasTime text ∧ text.length = 10 then
      orRefuse column .dateTime ((Date.ofIso? text).map fun d => ⟨.startOf d, none⟩)
    else orRefuse column .dateTime (Timestamp.ofIso? (zuluAsOffset text))

/-- A date with a time as a column keeps it. -/
def settle (aware : Bool) (t : Timestamp) : Except Failure Timestamp :=
  if aware then .ok ⟨t.wall, some (t.offset.getD .universal)⟩
  else match t.toUniversal? with
    | some wall => .ok ⟨wall, none⟩
    | none => .error (.fault .dateRange)

/-- A date with a time. -/
def moment (column : String) (aware : Bool) (v : Value) : Except Failure Timestamp := do
  settle aware (← timestamp column v)

/-- An identifier. -/
def uuid (column : String) : Value → Except Failure Uuid
  | .uuid u => .ok u
  | v => match Uuid.ofText? (strip v.toText) with
    | some u => .ok u
    | none => .error (.rejected (.filterIdentifier column))

end Coercion

/-- A filter value in the type of a column. -/
def ColumnKind.coerce (kind : ColumnKind) (column : String) (v : Value) : Except Failure Value :=
  if v.isNull then .ok .null
  else match kind with
    | .text _ => .ok v
    | .json => .ok v
    | .boolean => (Coercion.boolean column v).map .bool
    | .integer bits => (Coercion.integer column bits v).map .int
    | .float => (Coercion.float column v).map .float
    | .numeric => (Coercion.decimal column v).map .decimal
    | .date => (Coercion.date column v).map .date
    | .moment aware => (Coercion.moment column aware v).map .moment
    | .uuid => (Coercion.uuid column v).map .uuid

/-- Whether a filter value is a date without a time. -/
def Value.isDateOnly : Value → Bool
  | .date _ => true
  | .text s =>
    let text := Text.strip s
    text ≠ "" && !Coercion.hasTime text && (Date.ofIso? text).isSome
  | _ => false

end CollectionQuery
