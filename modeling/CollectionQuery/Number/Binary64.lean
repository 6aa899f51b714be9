/-!
# Binary floating point numbers of 64 bits

A finite number is `± mantissa · 2 ^ exponent`.  Its canonical form has a mantissa of 53 bits, or
the least exponent.  `ofRatio` rounds an exact ratio to the nearest number, ties to the even
mantissa, so every operation below is exact arithmetic on ratios followed by one rounding.
-/

namespace CollectionQuery.Number

/-! ## Integers of a number of bits

An integer of some bits has a sign and lies between bounds that differ only in it, the upper bound
left out.  The storage engine holds integers of 64 bits.
-/

/-- How many integers of so many bits are not negative. -/
def signedBound (bits : Nat) : Nat := Nat.pow 2 (bits - 1)

/-- Whether an integer has at most so many bits, the sign included. -/
def fits (bits : Nat) (n : Int) : Bool :=
  decide (-(signedBound bits : Int) ≤ n ∧ n < (signedBound bits : Int))

/-- Whether an integer has at most 64 bits. -/
def isWord (n : Int) : Bool := fits 64 n

/-- Whether an integer without its sign has at most 63 bits. -/
def isSmallWord (n : Int) : Bool := decide (n.natAbs < signedBound 64)

/-! ## Rounding a quotient

`roundDiv` is the quotient of two natural numbers rounded to the nearest one, a half to the even
neighbour.  `magnitude` is the number of digits that a positive ratio has before its point, in a
given base.
-/

/-- The quotient rounded to the nearest number; a half goes to the even neighbour. -/
def roundDiv (num den : Nat) : Nat :=
  let quotient := num / den
  let twice := 2 * (num % den)
  if twice < den then quotient
  else if den < twice then quotient + 1
  else if quotient % 2 = 0 then quotient else quotient + 1

/-- `num / den` times `base` to the power `-exponent`, as a ratio of natural numbers. -/
def scaleRatio (base num den : Nat) (exponent : Int) : Nat × Nat :=
  if 0 ≤ exponent then (num, den * Nat.pow base exponent.toNat)
  else (num * Nat.pow base (-exponent).toNat, den)

/-- The number of digits of `n` in a base, none for zero. -/
def digitCount (base n : Nat) : Nat :=
  if n = 0 then 0 else (Nat.toDigits base n).length

/-- The exponent `p` with `base ^ (p - 1) ≤ num / den < base ^ p`, for a positive ratio. -/
def magnitude (base num den : Nat) : Int :=
  let guess := (digitCount base num : Int) - (digitCount base den : Int)
  let scaled := scaleRatio base num den guess
  if scaled.2 ≤ scaled.1 then guess + 1 else guess

/-! ## Floating point numbers -/

/-- A binary floating point number. -/
inductive Binary64 where
  /-- No number. -/
  | nan
  | infinity (negative : Bool)
  /-- `± mantissa · 2 ^ exponent`. -/
  | finite (negative : Bool) (mantissa : Nat) (exponent : Int)
deriving DecidableEq, Inhabited

namespace Binary64

/-- The least exponent. -/
def minExponent : Int := -1074

/-- The greatest exponent. -/
def maxExponent : Int := 971

/-- The weight of the first bit of a mantissa of 53 bits. -/
def firstBit : Nat := 0x10000000000000

/-- The weight of the sign among the bits of a number. -/
def signBit : Nat := 0x8000000000000000

/-- The two zeros. -/
def zero (negative : Bool) : Binary64 := .finite negative 0 minExponent

/-- The number nearest to `± num / den`; ties go to the even mantissa. -/
def ofRatio (negative : Bool) (num den : Nat) : Binary64 :=
  if num = 0 then zero negative
  else
    let exponent := max (magnitude 2 num den - 53) minExponent
    let scaled := scaleRatio 2 num den exponent
    let mantissa := roundDiv scaled.1 scaled.2
    let carried := mantissa = 2 * firstBit
    let exponent := if carried then exponent + 1 else exponent
    if maxExponent < exponent then .infinity negative
    else .finite negative (if carried then firstBit else mantissa) exponent

/-- The number nearest to `± digits · 10 ^ exponent`. -/
def ofDecimal (negative : Bool) (digits : Nat) (exponent : Int) : Binary64 :=
  if digits = 0 then zero negative
  else
    let size := (digitCount 10 digits : Int) + exponent
    if 400 < size then .infinity negative
    else if size < -400 then zero negative
    else
      let scaled := scaleRatio 10 digits 1 (-exponent)
      ofRatio negative scaled.1 scaled.2

/-- The exact value of a finite number without its sign, as a ratio; zero for any other. -/
def absRatio : Binary64 → Nat × Nat
  | .finite _ mantissa exponent => scaleRatio 2 mantissa 1 (-exponent)
  | _ => (0, 1)

/-- A finite number times a ratio of natural numbers. -/
def times (x : Binary64) (factor : Nat × Nat) : Binary64 :=
  match x with
  | .finite negative .. => ofRatio negative (x.absRatio.1 * factor.1) (x.absRatio.2 * factor.2)
  | _ => x

/-- The number nearest to an integer, if that is finite. -/
def ofInt? (n : Int) : Option Binary64 :=
  match ofRatio (decide (n < 0)) n.natAbs 1 with
  | .infinity _ => none
  | x => some x

/-- Whether a number is neither an infinity nor nan. -/
def isFinite : Binary64 → Bool
  | .finite .. => true
  | _ => false

/-- Whether a number is one of the zeros. -/
def isZero : Binary64 → Bool
  | .finite _ mantissa _ => mantissa == 0
  | _ => false

/-- The exact value of a finite number, as a signed numerator over a positive denominator. -/
def ratio? : Binary64 → Option (Int × Nat)
  | .finite negative mantissa exponent =>
    let scaled := scaleRatio 2 mantissa 1 (-exponent)
    some (if negative then -(scaled.1 : Int) else (scaled.1 : Int), scaled.2)
  | _ => none

/-- The integer part of a finite number. -/
def truncate? (x : Binary64) : Option Int :=
  x.ratio?.map fun r => Int.tdiv r.1 r.2

/-- The integer that a finite number is, if it is one. -/
def toInt? (x : Binary64) : Option Int :=
  match x.ratio? with
  | some (num, den) => if num % (den : Int) = 0 then some (num / (den : Int)) else none
  | none => none

/-- The integer that a finite number is, if it is one of at most 63 bits. -/
def toWord? (x : Binary64) : Option Int :=
  x.toInt?.filter isSmallWord

/-- The bits of a number: sign, exponent of eleven bits, fraction of 52 bits. -/
def toBits : Binary64 → Nat
  | .nan => 0x7FF8000000000000
  | .infinity negative => (if negative then signBit else 0) + 0x7FF0000000000000
  | .finite negative mantissa exponent =>
    (if negative then signBit else 0) +
      (if mantissa < firstBit then mantissa
       else (exponent + 1075).toNat * firstBit + (mantissa - firstBit))

/-- The number with the given bits. -/
def ofBits (bits : Nat) : Binary64 :=
  let negative := bits / signBit % 2 == 1
  let biased : Nat := bits / firstBit % 0x800
  let fraction : Nat := bits % firstBit
  if biased = 0x7FF then if fraction = 0 then .infinity negative else .nan
  else if biased = 0 then .finite negative fraction minExponent
  else .finite negative (firstBit + fraction) ((biased : Int) - 1075)

end Binary64

/-- The order of two ratios with positive denominators. -/
def compareRatios (a b : Int × Nat) : Ordering :=
  compare (a.1 * (b.2 : Int)) (b.1 * (a.2 : Int))

end CollectionQuery.Number
