import CollectionQuery.Number.Extended
import CollectionQuery.Number.Shortest

/-!
# Floating point numbers in columns of texts

A floating point number that is stored in a column of texts keeps fifteen digits.  They are found in
extended precision: the number is brought between 1 and 10 by powers of ten, half a unit of the last
digit is added, and the digits are cut off one by one.  So the last digit may differ from that of
the correctly rounded number.
-/

namespace CollectionQuery.Number

namespace Extended

/-- The constant nearest to `digits · 10 ^ exponent` in the smaller precision. -/
def constant (digits : Nat) (exponent : Int) : Extended :=
  ofBinary64 (Binary64.ofDecimal false digits exponent)

/-- The scale that a number is divided by, and its power of ten, after further steps by ten to the
power `step`; the scale stays at most the number. -/
def raiseScale (x : Extended) (step : Nat) :
    (fuel : Nat) → Extended × Int → Extended × Int
  | 0, reached => reached
  | fuel + 1, (scale, power) =>
    let next := (constant 1 step).mul scale
    if next.le x then raiseScale x step fuel (next, power + step) else (scale, power)

/-- A number that is less than one, multiplied by ten to the power `step` until it is at least
`least`, and the power of ten that makes up for it. -/
def raise (least : Extended) (step : Nat) : (fuel : Nat) → Extended × Int → Extended × Int
  | 0, reached => reached
  | fuel + 1, (x, power) =>
    if least.le x then (x, power)
    else raise least step fuel (x.mul (constant 1 step), power - step)

/-- A number that is not zero as one between 1 and 10 times a power of ten. -/
def normalize (x : Extended) : Extended × Int :=
  let (scale, power) := [100, 10, 1].foldl (fun reached step => raiseScale x step 10 reached)
    (ofNat 1, 0)
  raise (ofNat 1) 1 10 (raise (constant 1 (-8)) 8 50 (x.div scale, power))

/-- The first digits of a number that is less than ten. -/
def leadingDigits : (count : Nat) → Extended → List Char
  | 0, _ => []
  | count + 1, x => Nat.digitChar x.floor :: leadingDigits count (x.fraction.mul (ofNat 10))

end Extended

/-- The count of digits that a stored number keeps. -/
def storedDigits : Nat := 15

/-- Half a unit of the last digit that is kept, a product in the smaller precision. -/
def halfUnit : Extended :=
  let x := Binary64.ofDecimal false 5 (-5)
  let y := Binary64.ofDecimal false 1 (-10)
  .ofBinary64 (x.times y.absRatio)

/-- The digits of a finite number in a column of texts. -/
def keptDigits (x : Binary64) : Digits :=
  if x.isZero then ⟨['0'], 1⟩
  else
    let (y, power) := (Extended.ofBinary64 x).normalize
    let y := y.add halfUnit
    let carried := (Extended.ofNat 10).le y
    let y := if carried then y.mul (.constant 1 (-1)) else y
    .trimmed (y.leadingDigits storedDigits) (if carried then power + 2 else power + 1)

/-- The point stands in place from three zeros behind it up to the last digit. -/
def storedLayout : Layout := ⟨-4, storedDigits, true, "Inf", ""⟩

/-- The text of a floating point number in a column of texts.  Zero has no sign there. -/
def Binary64.storedText (x : Binary64) : String :=
  storedLayout.text keptDigits (if x.isZero then .zero false else x)

end CollectionQuery.Number
