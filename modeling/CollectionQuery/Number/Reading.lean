import CollectionQuery.Number.Binary64
import CollectionQuery.Number.Decimal
import CollectionQuery.Text.Alphanumeric
import CollectionQuery.Text.Blank

/-!
# Reading numbers

The grammars of integers, floating point numbers and decimal numbers in filter values.  All three
accept blanks around the number, a sign, and the decimal digits of every script.  They differ in the
underscores: an integer and a floating point number may have one between two digits, a decimal
number anywhere.  They differ in the blanks too: only a decimal number may stand among information
separators.  An integer has at most `integerDigitLimit` digits.
-/

namespace CollectionQuery.Number

open CollectionQuery.Text

/-- The greatest count of digits of an integer that is read. -/
def integerDigitLimit : Nat := 4300

/-- A character of a number in ASCII: the digits of every script from `0` to `9`, and white space as
a space.  Any other character beyond ASCII becomes a question mark, which no number has. -/
def asciiChar (c : Char) : Char :=
  if c.toNat < 128 then c
  else if isWhiteSpace c then ' '
  else match digitValue? c with
    | some d => Char.ofNat (48 + d)
    | none => '?'

/-- A text in ASCII, without white space at its ends. -/
def asciiForm (text : List Char) : List Char := trimChars isAsciiSpace (text.map asciiChar)

/-- A sign in front, `true` for minus, and what follows it. -/
def splitSign : List Char → Bool × List Char
  | '-' :: rest => (true, rest)
  | '+' :: rest => (false, rest)
  | rest => (false, rest)

/-- The number that digits write in base ten. -/
def ofDigits (digits : List Char) : Nat :=
  digits.foldl (fun n c => n * 10 + (c.toNat - 48)) 0

/-- Whether every underscore stands between two digits; `before` says whether a digit stands in
front. -/
def underscoresBetween (isDigit : Char → Bool) : (before : Bool) → List Char → Bool
  | _, [] => true
  | before, '_' :: rest =>
    before && (match rest with
      | next :: _ => isDigit next
      | [] => false) && underscoresBetween isDigit false rest
  | _, c :: rest => underscoresBetween isDigit (isDigit c) rest

/-- A text without underscores, if each of them stands between two digits. -/
def dropUnderscores? (isDigit : Char → Bool) (text : List Char) : Option (List Char) :=
  if underscoresBetween isDigit false text then some (text.filter (· ≠ '_')) else none

/-- The integer that a text writes. -/
def readInteger? (text : String) : Option Int := do
  let plain ← dropUnderscores? Char.isDigit (asciiForm text.toList)
  let (negative, digits) := splitSign plain
  guard (digits ≠ [] ∧ digits.all Char.isDigit ∧ digits.length ≤ integerDigitLimit)
  let n : Int := ofDigits digits
  pure (if negative then -n else n)

/-- The parts of a number that is written with digits. -/
structure Numeral where
  /-- Whether the sign is minus. -/
  negative : Bool
  /-- The digits before the point. -/
  whole : List Char
  /-- The digits behind the point. -/
  places : List Char
  /-- The power of ten behind the digits. -/
  power : Int

/-- The number that the digits of both sides of the point write. -/
def Numeral.digits (n : Numeral) : Nat := ofDigits (n.whole ++ n.places)

/-- The power of ten of the last digit. -/
def Numeral.exponent (n : Numeral) : Int := n.power - (n.places.length : Int)

/-- An exponent, `e` or `E` with an optional sign and digits, or nothing. -/
def readExponent? : List Char → Option Int
  | [] => some 0
  | mark :: rest =>
    let (negative, digits) := splitSign rest
    if (mark = 'e' ∨ mark = 'E') ∧ digits ≠ [] ∧ digits.all Char.isDigit then
      some (if negative then -(ofDigits digits : Int) else (ofDigits digits : Int))
    else none

/-- A number with digits on at least one side of an optional point. -/
def readNumeral? (text : List Char) : Option Numeral := do
  let (negative, body) := splitSign text
  let whole := body.takeWhile Char.isDigit
  let (places, tail) := match body.dropWhile Char.isDigit with
    | '.' :: rest => (rest.takeWhile Char.isDigit, rest.dropWhile Char.isDigit)
    | rest => ([], rest)
  guard (whole ≠ [] ∨ places ≠ [])
  let power ← readExponent? tail
  pure { negative, whole, places, power }

/-- The floating point number that characters of ASCII write, without blanks and underscores; the
names of infinity and nan count. -/
def readPlainBinary64? (plain : List Char) : Option Binary64 := do
  let (negative, body) := splitSign plain
  let word := body.map Char.toLower
  if word = "inf".toList ∨ word = "infinity".toList then pure (.infinity negative)
  else if word = "nan".toList then pure .nan
  else
    let n ← readNumeral? plain
    pure (Binary64.ofDecimal n.negative n.digits n.exponent)

/-- The floating point number that a text writes. -/
def readBinary64? (text : String) : Option Binary64 := do
  readPlainBinary64? (← dropUnderscores? Char.isDigit (asciiForm text.toList))

/-- The greatest power of ten of the first digit of a decimal number. -/
def decimalExponentLimit : Int := 999999999999999999

/-- The decimal number that a text writes; the names of infinity and nan count. -/
def readDecimal? (text : String) : Option Decimal := do
  let plain := ((trimChars isBlank text.toList).map asciiChar).filter (· ≠ '_')
  let (negative, body) := splitSign plain
  let word := body.map Char.toLower
  if word = "inf".toList ∨ word = "infinity".toList then pure (.infinity negative)
  else if word.take 3 = "nan".toList ∧ (word.drop 3).all Char.isDigit then
    pure (.nan negative false (payload? (word.drop 3)))
  else if word.take 4 = "snan".toList ∧ (word.drop 4).all Char.isDigit then
    pure (.nan negative true (payload? (word.drop 4)))
  else
    let n ← readNumeral? plain
    let first := n.exponent + (max 1 (digitCount 10 n.digits) : Nat) - 1
    guard (first ≤ decimalExponentLimit ∧ -2 * decimalExponentLimit < n.exponent)
    pure (.finite n.negative n.digits n.exponent)
where
  /-- The digits behind a nan. -/
  payload? (digits : List Char) : Option Nat :=
    if ofDigits digits = 0 then none else some (ofDigits digits)

end CollectionQuery.Number
