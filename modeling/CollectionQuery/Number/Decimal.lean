import CollectionQuery.Number.Binary64

/-!
# Decimal numbers

A decimal number keeps its coefficient and exponent, so `1.50` and `1.5` are written differently
although they are equal.
-/

namespace CollectionQuery.Number

/-- A decimal number. -/
inductive Decimal where
  /-- `± coefficient · 10 ^ exponent`. -/
  | finite (negative : Bool) (coefficient : Nat) (exponent : Int)
  | infinity (negative : Bool)
  /-- No number, with a diagnostic payload. -/
  | nan (negative signaling : Bool) (payload : Option Nat)
deriving DecidableEq, Inhabited

namespace Decimal

/-- Whether a decimal number is neither an infinity nor nan. -/
def isFinite : Decimal → Bool
  | .finite .. => true
  | _ => false

/-- Whether a decimal number is a nan that no operation takes. -/
def isSignaling : Decimal → Bool
  | .nan _ signaling _ => signaling
  | _ => false

/-- Whether a decimal number is zero. -/
def isZero : Decimal → Bool
  | .finite _ coefficient _ => coefficient == 0
  | _ => false

def signText (negative : Bool) : List Char := if negative then ['-'] else []

/-- An integer with its sign, plus included. -/
def signedText (n : Int) : List Char :=
  (if n < 0 then '-' else '+') :: Nat.toDigits 10 n.natAbs

/-- A decimal number as a text.  The point stands in place unless the exponent is positive or more
than five zeros would follow the point. -/
def text : Decimal → String
  | .infinity negative => String.ofList (signText negative ++ "Infinity".toList)
  | .nan negative signaling payload =>
    String.ofList (signText negative ++ (if signaling then "sNaN" else "NaN").toList ++
      (payload.map (Nat.toDigits 10)).getD [])
  | .finite negative coefficient exponent =>
    let digits := Nat.toDigits 10 coefficient
    let count : Int := digits.length
    let left := exponent + count
    let point := if exponent ≤ 0 ∧ -6 < left then left else 1
    let body :=
      if point ≤ 0 then '0' :: '.' :: List.replicate (-point).toNat '0' ++ digits
      else if count ≤ point then digits ++ List.replicate (point - count).toNat '0'
      else digits.take point.toNat ++ '.' :: digits.drop point.toNat
    let power := if left = point then [] else 'E' :: signedText (left - point)
    String.ofList (signText negative ++ body ++ power)

/-- The exact value of a finite decimal number, as a signed numerator over a denominator. -/
def ratio? : Decimal → Option (Int × Nat)
  | .finite negative coefficient exponent =>
    let scaled := scaleRatio 10 coefficient 1 (-exponent)
    some (if negative then -(scaled.1 : Int) else (scaled.1 : Int), scaled.2)
  | _ => none

/-- The floating point number nearest to a decimal number. -/
def toBinary64 : Decimal → Binary64
  | .finite negative coefficient exponent => Binary64.ofDecimal negative coefficient exponent
  | .infinity negative => .infinity negative
  | .nan .. => .nan

/-- An integer as a decimal number. -/
def ofInt (n : Int) : Decimal := .finite (decide (n < 0)) n.natAbs 0

end Decimal

end CollectionQuery.Number
