import CollectionQuery.Text.Blank

/-!
# Halves of surrogate pairs

A JSON text may escape half of a surrogate pair and not the other half.  Such a half is a code point
but no character, so a text with one is no `String`: it can be compared and stripped, but it has no
bytes.  Where only the characters of a text matter, `shown` has the replacement character in place
of every half.
-/

namespace CollectionQuery.Text

/-- Whether a number is the first half of a surrogate pair. -/
def isHighSurrogate (n : Nat) : Bool := decide (0xD800 ≤ n ∧ n < 0xDC00)

/-- Whether a number is the second half of a surrogate pair. -/
def isLowSurrogate (n : Nat) : Bool := decide (0xDC00 ≤ n ∧ n < 0xE000)

/-- Half a surrogate pair. -/
structure Half where
  unit : Nat
  isHalf : (isHighSurrogate unit || isLowSurrogate unit) = true
deriving DecidableEq

/-- A code point. -/
inductive CodePoint where
  | char (c : Char)
  | half (h : Half)
deriving DecidableEq

namespace CodePoint

/-- The code point of a number. -/
def ofNat (n : Nat) : CodePoint :=
  if h : (isHighSurrogate n || isLowSurrogate n) = true then half ⟨n, h⟩ else char (Char.ofNat n)

/-- The code point of a surrogate pair. -/
def ofPair (high low : Nat) : CodePoint :=
  char (Char.ofNat (0x10000 + (high - 0xD800) * 0x400 + (low - 0xDC00)))

def toNat : CodePoint → Nat
  | char c => c.toNat
  | half h => h.unit

def isHalf : CodePoint → Bool
  | char _ => false
  | half _ => true

def shown : CodePoint → Char
  | char c => c
  | half _ => Char.ofNat 0xFFFD

end CodePoint

/-- A text in which a half stands alone. -/
structure Unpaired where
  points : List CodePoint
  exists_half : points.any CodePoint.isHalf = true
deriving DecidableEq

/-- The text with the replacement character in place of every half. -/
def Unpaired.shown (t : Unpaired) : String := String.ofList (t.points.map CodePoint.shown)

/-- A text of code points. -/
inductive AnyText where
  | whole (s : String)
  | unpaired (t : Unpaired)
deriving DecidableEq

instance : Coe String AnyText := ⟨.whole⟩

instance : Coe Unpaired AnyText := ⟨.unpaired⟩

instance : Inhabited AnyText := ⟨.whole ""⟩

namespace AnyText

/-- The text of code points. -/
def ofPoints (points : List CodePoint) : AnyText :=
  if h : points.any CodePoint.isHalf = true then unpaired ⟨points, h⟩
  else whole (String.ofList (points.map CodePoint.shown))

def points : AnyText → List CodePoint
  | whole s => s.toList.map .char
  | unpaired t => t.points

def shown : AnyText → String
  | whole s => s
  | unpaired t => t.shown

def isWhole : AnyText → Bool
  | whole _ => true
  | unpaired _ => false

/-- The text as a text of characters, if it is one. -/
def whole? : AnyText → Option String
  | whole s => some s
  | unpaired _ => none

/-- A text without blanks at both ends. -/
def strip : AnyText → AnyText
  | whole s => whole (Text.strip s)
  | unpaired t => ofPoints (trimChars (fun p => isBlank p.shown) t.points)

theorem ofPoints_char (cs : List Char) : ofPoints (cs.map .char) = whole (String.ofList cs) := by
  rw [ofPoints, dif_neg (by simp [CodePoint.isHalf])]
  simp [CodePoint.shown, Function.comp_def]

end AnyText

end CollectionQuery.Text
