import CollectionQuery.Value
import CollectionQuery.Calendar.IsoText
import CollectionQuery.Number.Shortest
import CollectionQuery.Text.Quoted

/-!
# The text of a value

Where a text is asked for and another value comes, the value is written out.  A text stands for
itself; inside a list or an object it is quoted, and dates, times, identifiers and decimal numbers
are wrapped in the name of their kind.

The halves of surrogate pairs are escaped in a quoted text.  A text that stands for itself shows the
replacement character for them: what is read from it has no such character.
-/

namespace CollectionQuery.Value

open CollectionQuery.Text CollectionQuery.Calendar CollectionQuery.Number

/-- A decimal integer. -/
def intText (n : Int) : String :=
  String.ofList ((if n < 0 then ['-'] else []) ++ Nat.toDigits 10 n.natAbs)

/-- Truth values are written with a capital. -/
def boolText (b : Bool) : String := if b then "True" else "False"

/-- Numbers separated by commas. -/
def numberList (parts : List Int) : String := joinWith ", " (parts.map intText)

/-- A date inside a list or an object. -/
def dateLiteral (d : Date) : String :=
  "datetime.date(" ++ numberList [d.year, d.month, d.day] ++ ")"

/-- A span of time of microseconds, as days, seconds and microseconds; days may be negative. -/
def spanLiteral (micros : Int) : String :=
  let days := micros / (microsPerDay : Int)
  let rest := micros % (microsPerDay : Int)
  let parts := [("days", days), ("seconds", rest / 1000000), ("microseconds", rest % 1000000)]
  let shown := (parts.filter fun p => p.2 != 0).map fun p => p.1 ++ "=" ++ intText p.2
  "datetime.timedelta(" ++ (if shown.isEmpty then "0" else joinWith ", " shown) ++ ")"

/-- An offset inside a list or an object. -/
def offsetLiteral (o : Offset) : String :=
  if o.micros = 0 then "datetime.timezone.utc"
  else "datetime.timezone(" ++ spanLiteral o.micros ++ ")"

/-- A timestamp inside a list or an object; seconds and microseconds are left out if zero. -/
def momentLiteral (t : Timestamp) : String :=
  let d := t.wall.date
  let c := t.wall.time
  let tail : List Int :=
    if c.micro ≠ 0 then [c.second, c.micro] else if c.second ≠ 0 then [c.second] else []
  let fields := numberList ([d.year, d.month, d.day, c.hour, c.minute].map Int.ofNat ++ tail)
  let zone := match t.offset with
    | some o => ", tzinfo=" ++ offsetLiteral o
    | none => ""
  "datetime.datetime(" ++ fields ++ zone ++ ")"

/-- The text of a value that is neither a list nor an object, inside a list or an object. -/
def scalarLiteral : Value → String
  | null => "None"
  | bool b => boolText b
  | int n => intText n
  | float x => x.text
  | decimal d => "Decimal(" ++ quoted d.text ++ ")"
  | text s => quoted s
  | unpaired t => (AnyText.unpaired t).quoted
  | date d => dateLiteral d
  | moment t => momentLiteral t
  | uuid u => "UUID(" ++ quoted u.text ++ ")"
  | _ => ""

mutual

/-- The text of a value inside a list or an object. -/
def literal : Value → String
  | list items => "[" ++ joinWith ", " (literals items) ++ "]"
  | tuple items => match literals items with
    | [only] => "(" ++ only ++ ",)"
    | shown => "(" ++ joinWith ", " shown ++ ")"
  | object members => "\x7b" ++ joinWith ", " (memberLiterals members) ++ "\x7d"
  | mixed members => "\x7b" ++ joinWith ", " (mixedLiterals members) ++ "\x7d"
  | null => scalarLiteral null
  | bool b => scalarLiteral (bool b)
  | int n => scalarLiteral (int n)
  | float x => scalarLiteral (float x)
  | decimal d => scalarLiteral (decimal d)
  | text s => scalarLiteral (text s)
  | unpaired t => scalarLiteral (unpaired t)
  | date d => scalarLiteral (date d)
  | moment t => scalarLiteral (moment t)
  | uuid u => scalarLiteral (uuid u)

/-- The texts of the items of a list. -/
def literals : List Value → List String
  | [] => []
  | v :: rest => literal v :: literals rest

/-- The texts of the members of an object. -/
def memberLiterals : List (String × Value) → List String
  | [] => []
  | (name, v) :: rest => (quoted name ++ ": " ++ literal v) :: memberLiterals rest

/-- The texts of the members of an object with half a surrogate pair in a name. -/
def mixedLiterals : List (AnyText × Value) → List String
  | [] => []
  | (name, v) :: rest => (name.quoted ++ ": " ++ literal v) :: mixedLiterals rest

end

def toText : Value → String
  | text s => s
  | unpaired t => t.shown
  | decimal d => d.text
  | date d => d.isoText
  | moment t => t.spacedText
  | uuid u => u.text
  | v => literal v

/-- The text of a value, the empty text for a blank one. -/
def textOrEmpty (v : Value) : String := if v.isBlank then "" else v.toText

/-- The text of a value with the halves of surrogate pairs that it has, the empty text for a blank
value. -/
def anyText : Value → AnyText
  | unpaired t => t
  | v => v.textOrEmpty

theorem textOrEmpty_text (s : String) : (text s).textOrEmpty = s := by
  rw [textOrEmpty]
  split
  · next hblank => exact (beq_iff_eq.1 hblank).symm
  · rfl

theorem anyText_ofText (s : AnyText) : (ofText s).anyText = s := by
  cases s with
  | whole s => exact congrArg AnyText.whole (textOrEmpty_text s)
  | unpaired t => rfl

end CollectionQuery.Value
