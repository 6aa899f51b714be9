import CollectionQuery.Text.CodePoints

/-!
# Texts in wide units

A text may come as bytes in units of one, two or four, the two wider ones with the highest byte
first or last.  Which it is shows in the zeros among the first bytes of a text that begins with a
character of ASCII.
-/

namespace CollectionQuery.Text

/-- How bytes make a text. -/
inductive Encoding where
  /-- Units of one byte. -/
  | utf8
  /-- Units of two bytes, in the given order. -/
  | utf16 (highestFirst : Bool)
  /-- Units of four bytes, in the given order. -/
  | utf32 (highestFirst : Bool)
deriving DecidableEq

/-- The encoding that the first bytes show. -/
def Encoding.detect : List Nat → Encoding
  | i :: j :: k :: l :: _ =>
    if i = 0 then (if j = 0 then .utf32 true else .utf16 true)
    else if j = 0 then (if k = 0 ∧ l = 0 then .utf32 false else .utf16 false)
    else .utf8
  | [i, j] => if i = 0 then .utf16 true else if j = 0 then .utf16 false else .utf8
  | _ => .utf8

/-- The units of two bytes, if no byte is left over. -/
def pairUnits? (highestFirst : Bool) : List Nat → Option (List Nat)
  | [] => some []
  | [_] => none
  | i :: j :: rest =>
    (pairUnits? highestFirst rest).map
      ((if highestFirst then i * 256 + j else j * 256 + i) :: ·)

/-- The units of two units each, if none is left over. -/
def doubleUnits? (highestFirst : Bool) : List Nat → Option (List Nat)
  | [] => some []
  | [_] => none
  | i :: j :: rest =>
    (doubleUnits? highestFirst rest).map
      ((if highestFirst then i * 65536 + j else j * 65536 + i) :: ·)

/-- The code points of units of two bytes. -/
def pointsOfPairs : List Nat → List CodePoint
  | [] => []
  | [n] => [.ofNat n]
  | n :: m :: rest =>
    if isHighSurrogate n && isLowSurrogate m then .ofPair n m :: pointsOfPairs rest
    else .ofNat n :: pointsOfPairs (m :: rest)

/-- The code points of units of four bytes, if all of them are code points. -/
def pointsOfDoubles? (units : List Nat) : Option (List CodePoint) :=
  if units.all fun n => n < 0x110000 then some (units.map .ofNat) else none

/-- The code points of the bytes of a text, in the encoding that they show. -/
def decodeWide? (text : List Char) : Option (List CodePoint) :=
  let bytes := text.flatMap fun c => (String.utf8EncodeChar c).map UInt8.toNat
  match Encoding.detect bytes with
  | .utf8 => some (text.map .char)
  | .utf16 highestFirst => (pairUnits? highestFirst bytes).map pointsOfPairs
  | .utf32 highestFirst => do
    pointsOfDoubles? (← doubleUnits? highestFirst (← pairUnits? highestFirst bytes))

end CollectionQuery.Text
