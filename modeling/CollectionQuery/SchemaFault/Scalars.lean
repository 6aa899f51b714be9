import CollectionQuery.SchemaFault
import CollectionQuery.Text.Blank
import CollectionQuery.Text.Split
import CollectionQuery.Number.Reading

/-!
# Reading numbers and truth values of a document

A value of another kind is taken where it stands for a number or a truth value without doubt.

An integer in a text is a plain one, or becomes plain by tidying: white space at the ends, a plus,
zeros in front, a fraction of zeros and underscores go, in this order.  Among the zeros in front
underscores and a minus may stand.  A text that starts with too many digits is too long whatever
follows them.

Truth values have one of twelve names, in letters of either case.
-/

namespace CollectionQuery.Checked

open CollectionQuery.Number CollectionQuery.Text

/-! ## Texts -/

/-- A text without underscores; none may stand at an end or next to another. -/
def joinedDigits? (text : List Char) : Option (List Char) :=
  let pieces := splitChars '_' text
  if pieces.length = 1 then some text
  else if [] ∈ pieces then none
  else some pieces.flatten

/-- A text without zeros in front.  Underscores and a minus may stand among them, and one zero stays
before a point and at the end. -/
def withoutZeros? : List Char → Option (List Char)
  | [] => none
  | '0' :: rest => pass '0' rest
  | c :: rest => if c.isDigit then some (c :: rest) else none
where
  /-- What follows a zero; `last` is the zero or underscore that was passed over last. -/
  pass (last : Char) : List Char → Option (List Char)
    | [] => some [last]
    | c :: rest =>
      if c = '0' ∨ c = '_' then pass c rest
      else if c.isDigit ∨ c = '-' then some (c :: rest)
      else if c = '.' then some (last :: c :: rest)
      else none

/-- A text without a point and the zeros that follow it, if nothing else does. -/
def withoutFraction (text : List Char) : List Char :=
  match text.dropWhile (· ≠ '.') with
  | _ :: zeros =>
    if zeros ≠ [] ∧ zeros.all (· == '0') then text.takeWhile (· ≠ '.') else text
  | [] => text

/-- A text without the zeros in front of its number, behind a minus or in place of a plus. -/
def withoutSign? : List Char → Option (List Char)
  | '-' :: rest => (withoutZeros? rest).map ('-' :: ·)
  | '+' :: rest => withoutZeros? rest
  | rest => withoutZeros? rest

/-- The plain form of an integer that is written in another way. -/
def tidyInteger? (text : List Char) : Option (List Char) := do
  joinedDigits? (withoutFraction (← withoutSign? (trimChars isWhiteSpace text)))

/-- A minus in front, and the digits behind it. -/
def splitMinus : List Char → Bool × List Char
  | '-' :: rest => (true, rest)
  | rest => (false, rest)

/-- The integer of a plain text: at most one minus and digits, no needless zero in front. -/
def plainInteger? (text : List Char) : Option Int :=
  let (negative, digits) := splitMinus text
  if digits.all Char.isDigit ∧ digits ≠ [] ∧ (digits.head? ≠ some '0' ∨ digits.length = 1) ∧
      text.length ≤ integerDigitLimit then
    some (if negative then -(ofDigits digits : Int) else ofDigits digits)
  else none

/-- Whether a text starts with an integer that is too long. -/
def startsTooLong (text : List Char) : Bool :=
  let (negative, rest) := splitMinus text
  let digits := rest.takeWhile Char.isDigit
  digits.head? != some '0' &&
    integerDigitLimit < digits.length + (if negative then 1 else 0)

def integerText (text : String) : Checked Int :=
  let chars := text.toList
  if startsTooLong chars then fault .integerSize
  else match (plainInteger? chars).orElse fun _ => (tidyInteger? chars).bind plainInteger? with
    | some n => .ok n
    | none => fault .integerText

/-- The floating point number in a text: between white space, or with underscores. -/
def numberText (text : String) : Checked Binary64 :=
  let chars := text.toList
  let direct := readPlainBinary64? (trimChars isWhiteSpace chars)
  match direct.orElse fun _ => (joinedDigits? chars).bind readPlainBinary64? with
  | some x => .ok x
  | none => fault .numberText

/-! ## Values -/

/-- The integer that a number without fractional part is. -/
def integerOfRatio (r : Int × Nat) : Checked Int :=
  if r.1 % (r.2 : Int) = 0 then .ok (r.1 / (r.2 : Int)) else fault .integerFraction

/-- An integer.  One that a floating point number gives has at most 63 bits. -/
def integer : Value → Checked Int
  | .int n => .ok n
  | .bool b => .ok (if b then 1 else 0)
  | .text s => integerText s
  | .unpaired _ => fault .textUnpaired
  | .float x => match x.ratio? with
    | some r => do
      let n ← integerOfRatio r
      if isSmallWord n then pure n else fault .integerSize
    | none => fault .finite
  | .decimal d => match d.ratio? with
    | some r => integerOfRatio r
    | none => fault .finite
  | _ => fault .integerKind

/-- An integer of at least 1. -/
def positive (v : Value) : Checked Int := do
  let n ← integer v
  if 1 ≤ n then pure n else fault .belowOne

/-- The names of truth values. -/
def boolNames : List (String × Bool) := [
  ("0", false), ("off", false), ("f", false), ("false", false), ("n", false), ("no", false),
  ("1", true), ("on", true), ("t", true), ("true", true), ("y", true), ("yes", true)]

/-- The truth value of a name. -/
def boolText (text : String) : Checked Bool :=
  let name := String.ofList (text.toList.map Char.toLower)
  match boolNames.find? fun n => n.1 == name with
  | some n => .ok n.2
  | none => fault .boolText

/-- The truth value of an integer. -/
def boolOfInt (n : Int) : Checked Bool :=
  if n = 0 then .ok false
  else if n = 1 then .ok true
  else if isWord n then fault .boolText
  else fault .boolKind

/-- The truth value of a floating point number that is an integer. -/
def boolOfNumber (x : Binary64) : Checked Bool :=
  match x.toWord? with
  | some n => boolOfInt n
  | none => fault .boolKind

/-- A truth value. -/
def bool : Value → Checked Bool
  | .bool b => .ok b
  | .text s => boolText s
  | .unpaired _ => fault .textUnpaired
  | .int n => boolOfInt n
  | .float x => boolOfNumber x
  | .decimal d => boolOfNumber d.toBinary64
  | _ => fault .boolKind

end CollectionQuery.Checked
