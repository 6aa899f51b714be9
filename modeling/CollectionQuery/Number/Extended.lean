import CollectionQuery.Number.Binary64

/-!
# Extended precision

The storage engine turns numbers into texts and back with a wider precision: numbers without sign
and with a mantissa of 64 bits.  Every operation is exact arithmetic followed by one rounding, ties
to the even mantissa.  No number that arises is too large or too small.
-/

namespace CollectionQuery.Number

/-- A number `mantissa · 2 ^ exponent`. -/
structure Extended where
  /-- The mantissa, of at most 64 bits. -/
  mantissa : Nat
  /-- The power of two. -/
  exponent : Int

namespace Extended

/-- The number nearest to `num / den`. -/
def ofRatio (num den : Nat) : Extended :=
  if num = 0 then ⟨0, 0⟩
  else
    let exponent := magnitude 2 num den - 64
    let scaled := scaleRatio 2 num den exponent
    ⟨roundDiv scaled.1 scaled.2, exponent⟩

/-- The number of a floating point number without its sign, which is exact. -/
def ofBinary64 : Binary64 → Extended
  | .finite _ mantissa exponent => ⟨mantissa, exponent⟩
  | _ => ⟨0, 0⟩

/-- An integer of at most 64 bits. -/
def ofNat (n : Nat) : Extended := ⟨n, 0⟩

/-- The exact value as a ratio. -/
def ratio (x : Extended) : Nat × Nat := scaleRatio 2 x.mantissa 1 (-x.exponent)

/-- The floating point number nearest to a number. -/
def toBinary64 (negative : Bool) (x : Extended) : Binary64 :=
  Binary64.ofRatio negative x.ratio.1 x.ratio.2

/-- The integer part. -/
def floor (x : Extended) : Nat := x.ratio.1 / x.ratio.2

/-- Whether a number is at most another. -/
def le (x y : Extended) : Bool := decide (x.ratio.1 * y.ratio.2 ≤ y.ratio.1 * x.ratio.2)

/-- The sum. -/
def add (x y : Extended) : Extended :=
  ofRatio (x.ratio.1 * y.ratio.2 + y.ratio.1 * x.ratio.2) (x.ratio.2 * y.ratio.2)

/-- The number without its integer part. -/
def fraction (x : Extended) : Extended := ofRatio (x.ratio.1 % x.ratio.2) x.ratio.2

/-- The product. -/
def mul (x y : Extended) : Extended :=
  ofRatio (x.ratio.1 * y.ratio.1) (x.ratio.2 * y.ratio.2)

/-- The quotient by a number that is not zero. -/
def div (x y : Extended) : Extended :=
  ofRatio (x.ratio.1 * y.ratio.2) (x.ratio.2 * y.ratio.1)

/-- The product of a number with a power of another, by repeated squares; `fuel` bounds the bits of
the exponent. -/
def timesPower : (fuel : Nat) → (acc base : Extended) → (exponent : Nat) → Extended
  | 0, acc, _, _ => acc
  | fuel + 1, acc, base, exponent =>
    let acc := if exponent % 2 = 1 then acc.mul base else acc
    if exponent / 2 = 0 then acc else timesPower fuel acc (base.mul base) (exponent / 2)

def powerOfTen (exponent : Nat) : Extended := timesPower exponent (ofNat 1) (ofNat 10) exponent

end Extended

end CollectionQuery.Number
