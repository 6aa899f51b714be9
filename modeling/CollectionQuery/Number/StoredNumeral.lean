import CollectionQuery.Number.Extended
import CollectionQuery.Number.Reading

/-!
# Numbers in columns of integers

A text with a number that is stored in a column of integers is read in extended precision: its first
digits, as many as fit into 63 bits, are multiplied or divided by a power of ten, and the result is
rounded once more to a floating point number.  So it may differ from the number nearest to the
text.
-/

namespace CollectionQuery.Number

/-- The greatest significand. -/
def maxSignificand : Nat := signedBound 64 - 1

/-- Whether a significand has room for another digit. -/
def takesDigit (significand : Nat) : Bool := decide (significand < (maxSignificand - 9) / 10)

namespace Numeral

/-- A significand with the digits before the point.  The shift counts those without room. -/
def addWhole (reached : Nat × Int) (digit : Char) : Nat × Int :=
  if takesDigit reached.1 then (reached.1 * 10 + (digit.toNat - 48), reached.2)
  else (reached.1, reached.2 + 1)

/-- A significand with the digits behind the point.  The shift counts down those with room. -/
def addPlace (reached : Nat × Int) (digit : Char) : Nat × Int :=
  if takesDigit reached.1 then (reached.1 * 10 + (digit.toNat - 48), reached.2 - 1) else reached

/-- The significand, and the power of ten that belongs to it. -/
def significand (n : Numeral) : Nat × Int :=
  n.places.foldl addPlace (n.whole.foldl addWhole (0, 0))

/-- The power of ten as far as it is told apart: six digits of it count as ten thousand. -/
def boundedPower (n : Numeral) : Int :=
  if n.power.natAbs < 100000 then n.power else if n.power < 0 then -10000 else 10000

/-- A significand multiplied by ten as long as there is room, and the power of ten that is left. -/
def absorb : (power : Nat) → (significand : Nat) → Nat × Nat
  | 0, s => (s, 0)
  | power + 1, s => if s < maxSignificand / 10 then absorb power (s * 10) else (s, power + 1)

/-- A significand divided by ten as long as nothing is lost, and the power of ten that is left. -/
def cancel : (power : Nat) → (significand : Nat) → Nat × Nat
  | 0, s => (s, 0)
  | power + 1, s => if s % 10 = 0 then cancel power (s / 10) else (s, power + 1)

/-- The greatest power of ten that is a floating point number. -/
def greatestPower : Nat := 308

/-- A significand times a power of ten. -/
def product (negative : Bool) (s power : Nat) : Binary64 :=
  let scaled (power : Nat) := ((Extended.ofNat s).mul (.powerOfTen power)).toBinary64 negative
  if power < greatestPower then scaled power
  else if power < 342 then
    (scaled (power - greatestPower)).times (Binary64.ofDecimal false 1 greatestPower).absRatio
  else .infinity negative

/-- A significand divided by a power of ten. -/
def quotient (negative : Bool) (s power : Nat) : Binary64 :=
  let scaled (power : Nat) := ((Extended.ofNat s).div (.powerOfTen power)).toBinary64 negative
  if power < greatestPower then scaled power
  else if power < 342 then
    (scaled (power - greatestPower)).times (Binary64.ofDecimal false 1 greatestPower).absRatio.swap
  else .zero negative

/-- The floating point number that is stored for a number. -/
def stored (n : Numeral) : Binary64 :=
  let (s, shift) := n.significand
  let power := n.boundedPower + shift
  if s = 0 then .zero n.negative
  else if 0 ≤ power then
    let (s, left) := absorb power.toNat s
    product n.negative s left
  else
    let (s, left) := cancel power.natAbs s
    quotient n.negative s left

end Numeral

end CollectionQuery.Number
