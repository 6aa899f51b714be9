import CollectionQuery.Number.Binary64

/-!
# Decimal digits of a floating point number

`shortest` gives the fewest digits that read back as the number, and of those the nearest to it.  It
answers `digits · 10 ^ (point - length)`: the point stands after so many digits.  A `Layout` says
how digits and point are written.
-/

namespace CollectionQuery.Number

/-- Digits without a zero at the end, and where the point stands. -/
structure Digits where
  /-- The digits, the first of them not zero unless the number is zero. -/
  digits : List Char
  /-- The number of digits before the point; zeros fill a gap on either side. -/
  point : Int

/-- The digits before or behind a point, zeros at the end left out. -/
def Digits.trimmed (all : List Char) (point : Int) : Digits :=
  let kept := (all.reverse.dropWhile (· == '0')).reverse
  ⟨if kept = [] then ['0'] else kept, point⟩

/-- The digits of `n · 10 ^ exponent`. -/
def Digits.ofScaled (n : Nat) (exponent : Int) : Digits :=
  let all := Nat.toDigits 10 n
  .trimmed all ((all.length : Int) + exponent)

/-- The two neighbours of `num / den` on the grid of `count` digits, the nearer one first. -/
def neighbours (num den count : Nat) : List (Nat × Int) :=
  let exponent := magnitude 10 num den - count
  let scaled := scaleRatio 10 num den exponent
  let low := scaled.1 / scaled.2
  let near := roundDiv scaled.1 scaled.2
  [(near, exponent), (if near = low then low + 1 else low, exponent)]

/-- The first neighbour that reads back as `x`, on grids of `count` digits and more. -/
def shortestFrom (x : Binary64) (negative : Bool) (num den : Nat) : (steps count : Nat) → Nat × Int
  | 0, count => (neighbours num den count).headD (0, 0)
  | steps + 1, count =>
    match (neighbours num den count).find? fun d => Binary64.ofDecimal negative d.1 d.2 == x with
    | some found => found
    | none => shortestFrom x negative num den steps (count + 1)

/-- The fewest digits that read back as a finite number that is not zero. -/
def shortest (x : Binary64) : Digits :=
  match x with
  | .finite negative mantissa exponent =>
    if mantissa = 0 then ⟨['0'], 1⟩
    else
      let scaled := scaleRatio 2 mantissa 1 (-exponent)
      let found := shortestFrom x negative scaled.1 scaled.2 16 1
      Digits.ofScaled found.1 found.2
  | _ => ⟨['0'], 1⟩

/-- How digits become a text. -/
structure Layout where
  /-- The point is written in place if it stands after more than so many digits, … -/
  above : Int
  /-- … and after no more than so many. -/
  upTo : Int
  /-- Whether a mantissa of one digit is followed by a point and a zero before an exponent. -/
  paddedMantissa : Bool
  /-- The text of a positive infinity. -/
  infinity : String
  /-- The text of nan. -/
  nan : String

/-- The digits with the point in place; at least one digit stands on each side. -/
def positional (d : Digits) : List Char :=
  let count : Int := d.digits.length
  if d.point ≤ 0 then '0' :: '.' :: List.replicate (-d.point).toNat '0' ++ d.digits
  else if count ≤ d.point then
    d.digits ++ List.replicate (d.point - count).toNat '0' ++ ['.', '0']
  else d.digits.take d.point.toNat ++ '.' :: d.digits.drop d.point.toNat

/-- The digits with an exponent of at least two digits and a sign. -/
def scientific (padded : Bool) (d : Digits) : List Char :=
  let exponent := d.point - 1
  let power := Nat.toDigits 10 exponent.natAbs
  let mantissa := match d.digits with
    | [] => ['0']
    | [only] => if padded then [only, '.', '0'] else [only]
    | first :: rest => first :: '.' :: rest
  mantissa ++ 'e' :: (if exponent < 0 then '-' else '+') ::
    (List.replicate (2 - power.length) '0' ++ power)

/-- The digits as a layout writes them. -/
def Layout.write (layout : Layout) (d : Digits) : List Char :=
  if layout.above < d.point ∧ d.point ≤ layout.upTo then positional d
  else scientific layout.paddedMantissa d

/-- A floating point number as a text, its digits given by `digitsOf`. -/
def Layout.text (layout : Layout) (digitsOf : Binary64 → Digits) (x : Binary64) : String :=
  match x with
  | .nan => layout.nan
  | .infinity negative => if negative then "-" ++ layout.infinity else layout.infinity
  | .finite negative .. =>
    String.ofList ((if negative then ['-'] else []) ++ layout.write (digitsOf x))

/-- Values are written with the point in place from four zeros behind it up to sixteen digits. -/
def valueLayout : Layout := ⟨-4, 16, false, "inf", "nan"⟩

/-- The text of a floating point number as a value. -/
def Binary64.text (x : Binary64) : String := valueLayout.text shortest x

/-- A finite number with a fixed count of places behind the point. -/
def Binary64.fixed (places : Nat) (x : Binary64) : String :=
  match x with
  | .finite negative mantissa exponent =>
    let scaled := scaleRatio 2 (mantissa * Nat.pow 10 places) 1 (-exponent)
    let n := roundDiv scaled.1 scaled.2
    let all := Nat.toDigits 10 n
    let padded := List.replicate (places + 1 - all.length) '0' ++ all
    let whole := padded.length - places
    String.ofList ((if negative then ['-'] else []) ++ padded.take whole ++
      (if places = 0 then [] else '.' :: padded.drop whole))
  | .infinity negative => if negative then "-inf" else "inf"
  | .nan => "nan"

end CollectionQuery.Number
