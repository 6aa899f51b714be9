import CollectionQuery.Number.Reading
import CollectionQuery.Text.Split

/-!
# Identifiers

A `Uuid` is a number of 128 bits.  It is written as 32 hexadecimal digits in groups of 8, 4, 4, 4
and 12.  Reading drops the markers `urn:` and `uuid:`, braces around the whole and all dashes; what
is left has 32 characters and is a number in base sixteen, with the blanks, sign, mark `0x` and
underscores that such a number may have.
-/

namespace CollectionQuery

open CollectionQuery.Text CollectionQuery.Number

/-- How many numbers of 128 bits there are. -/
def Uuid.bound : Nat := 0x100000000000000000000000000000000

/-- An identifier of 128 bits. -/
structure Uuid where
  /-- The bits as a number. -/
  value : Nat
  /-- There are 128 of them. -/
  value_lt : value < Uuid.bound := by decide
deriving DecidableEq

instance : Inhabited Uuid := ⟨⟨0, by decide⟩⟩

namespace Uuid

/-- The identifier with the given number, if that has at most 128 bits. -/
def ofNat? (n : Nat) : Option Uuid :=
  if h : n < bound then some ⟨n, h⟩ else none

/-- The 32 hexadecimal digits. -/
def digits (u : Uuid) : List Char :=
  let all := Nat.toDigits 16 u.value
  List.replicate (32 - all.length) '0' ++ all

/-- The digits in five groups. -/
def text (u : Uuid) : String :=
  let d := u.digits
  String.ofList (d.take 8 ++ '-' :: (d.drop 8).take 4 ++ '-' :: (d.drop 12).take 4 ++
    '-' :: (d.drop 16).take 4 ++ '-' :: d.drop 20)

/-- The value of a digit in base sixteen. -/
def hexValue? (c : Char) : Option Nat :=
  if c.isDigit then some (c.toNat - 48)
  else if 'a'.toNat ≤ c.toNat ∧ c.toNat ≤ 'f'.toNat then some (c.toNat - 87)
  else if 'A'.toNat ≤ c.toNat ∧ c.toNat ≤ 'F'.toNat then some (c.toNat - 55)
  else none

/-- The number in base sixteen that a text writes, with an optional sign and mark. -/
def readHex? (text : List Char) : Option Int := do
  let (negative, body) := splitSign (asciiForm text)
  let body := match body with
    | '0' :: x :: '_' :: rest => if x = 'x' ∨ x = 'X' then rest else body
    | '0' :: x :: rest => if x = 'x' ∨ x = 'X' then rest else body
    | rest => rest
  let digits ← dropUnderscores? (fun c => (hexValue? c).isSome) body
  guard (digits ≠ [])
  let values ← digits.mapM hexValue?
  let n : Int := (values.foldl (fun n d => n * 16 + d) 0 : Nat)
  pure (if negative then -n else n)

/-- The identifier that a text writes. -/
def ofText? (text : String) : Option Uuid := do
  let plain := removeAll "uuid:".toList (removeAll "urn:".toList text.toList)
  let bare := trimChars (fun c => c = '\x7b' ∨ c = '\x7d') plain
  let hex := bare.filter (· ≠ '-')
  guard (hex.length = 32)
  let n ← readHex? hex
  guard (0 ≤ n)
  ofNat? n.toNat

end Uuid

end CollectionQuery
