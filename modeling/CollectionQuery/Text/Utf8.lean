/-!
# Reading UTF-8

Bytes that are no UTF-8 are read as replacement characters: one for each longest run of bytes that
begins a character without ending it, and one for each byte that begins none.
-/

namespace CollectionQuery.Text

def replacementChar : Char := Char.ofNat 0xFFFD

/-- What the first byte of a character announces: the number of bytes that follow, the bits that it
gives, and the bounds of the next byte. -/
structure LeadByte where
  /-- The number of bytes that follow. -/
  following : Nat
  /-- The bits that the byte itself gives. -/
  bits : Nat
  /-- The least value of the next byte. -/
  least : Nat := 0x80
  /-- The greatest value of the next byte. -/
  greatest : Nat := 0xBF

/-- What a byte announces, if it begins a character. -/
def leadByte? (b : Nat) : Option LeadByte :=
  if b < 0x80 then some { following := 0, bits := b }
  else if b < 0xC2 then none
  else if b < 0xE0 then some { following := 1, bits := b - 0xC0 }
  else if b = 0xE0 then some { following := 2, bits := 0, least := 0xA0 }
  else if b = 0xED then some { following := 2, bits := 13, greatest := 0x9F }
  else if b < 0xF0 then some { following := 2, bits := b - 0xE0 }
  else if b = 0xF0 then some { following := 3, bits := 0, least := 0x90 }
  else if b < 0xF4 then some { following := 3, bits := b - 0xF0 }
  else if b = 0xF4 then some { following := 3, bits := 4, greatest := 0x8F }
  else none

/-- A character that is being read: the bits so far, the bytes that are missing, and the bounds of
the next one. -/
structure OpenChar where
  /-- The bits so far. -/
  bits : Nat
  /-- The number of bytes that are missing, at least one. -/
  missing : Nat
  /-- The least value of the next byte. -/
  least : Nat := 0x80
  /-- The greatest value of the next byte. -/
  greatest : Nat := 0xBF

/-- Reads a byte that stands where a character begins. -/
def beginChar (b : Nat) : List Char × Option OpenChar :=
  match leadByte? b with
  | none => ([replacementChar], none)
  | some lead =>
    if lead.following = 0 then ([Char.ofNat lead.bits], none)
    else ([], some ⟨lead.bits, lead.following, lead.least, lead.greatest⟩)

/-- Reads bytes; `pending` is a character that has begun. -/
def decodeFrom : (pending : Option OpenChar) → List Nat → List Char
  | none, [] => []
  | some _, [] => [replacementChar]
  | none, b :: rest =>
    let (chars, pending) := beginChar b
    chars ++ decodeFrom pending rest
  | some c, b :: rest =>
    if c.least ≤ b ∧ b ≤ c.greatest then
      let bits := c.bits * 64 + (b - 0x80)
      if c.missing = 1 then Char.ofNat bits :: decodeFrom none rest
      else decodeFrom (some { bits, missing := c.missing - 1 }) rest
    else
      let (chars, pending) := beginChar b
      replacementChar :: chars ++ decodeFrom pending rest

/-- The characters of bytes. -/
def decodeUtf8 (bytes : List Nat) : List Char := decodeFrom none bytes

end CollectionQuery.Text
