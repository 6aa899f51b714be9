import CollectionQuery.Json
import CollectionQuery.Json.Nesting
import CollectionQuery.Number.Reading
import CollectionQuery.Text.WideUnits

/-!
# Reading JSON

A recursive-descent reader.  It accepts the grammar of JSON and the names `NaN`, `Infinity` and
`-Infinity`; control characters may not stand in texts, and an integer has at most
`integerDigitLimit` digits.  A refusal tells the cause and the offset in characters.

The reader takes a limit on the lists and objects that are open at once and refuses to open more.
`read` sets the limit to the nesting of the text.
-/

namespace CollectionQuery.Json

open CollectionQuery.Number CollectionQuery.Text

/-- Why a text is no JSON document. -/
inductive Cause where
  /-- No value begins here. -/
  | expectingValue
  /-- A member has to begin with a name. -/
  | expectingName
  /-- A name has to be followed by a colon. -/
  | expectingColon
  /-- An item has to be followed by a comma or the end. -/
  | expectingComma
  /-- Something follows the document. -/
  | extraData
  /-- A text does not end. -/
  | unterminatedText
  /-- A control character stands in a text. -/
  | controlCharacter
  /-- No such escape. -/
  | badEscape
  /-- The escape of a code point needs four digits. -/
  | badUnicodeEscape
  /-- The text begins with a byte order mark. -/
  | byteOrderMark
  /-- An integer has too many digits. -/
  | tooManyDigits
  /-- More lists and objects are open than allowed. -/
  | tooDeep
deriving DecidableEq

/-- A refusal and its place. -/
structure Fault where
  cause : Cause
  /-- The number of characters in front of the place. -/
  offset : Nat
deriving DecidableEq

/-- The wording of a cause. -/
def Cause.message : Cause → String
  | .expectingValue => "Expecting value"
  | .expectingName => "Expecting property name enclosed in double quotes"
  | .expectingColon => "Expecting ':' delimiter"
  | .expectingComma => "Expecting ',' delimiter"
  | .extraData => "Extra data"
  | .unterminatedText => "Unterminated string starting at"
  | .controlCharacter => "Invalid control character at"
  | .badEscape => "Invalid \\escape"
  | .badUnicodeEscape => "Invalid \\uXXXX escape"
  | .byteOrderMark => "Unexpected UTF-8 BOM (decode using utf-8-sig)"
  | .tooManyDigits => "Exceeds the limit (4300 digits) for integer string conversion"
  | .tooDeep => "maximum recursion depth exceeded"

/-- Whether a refusal is one of the grammar and not of a limit. -/
def Cause.isSyntactic : Cause → Bool
  | .tooManyDigits => false
  | .tooDeep => false
  | _ => true

/-- What is left of the text, and the number of characters passed. -/
structure Cursor where
  /-- Characters passed. -/
  offset : Nat
  /-- The rest of the text. -/
  rest : List Char

/-- A refusal at a cursor. -/
def Cursor.refuse {α : Type} (c : Cursor) (cause : Cause) : Except Fault α :=
  .error ⟨cause, c.offset⟩

/-- The cursor behind the characters of a class. -/
def Cursor.skip (p : Char → Bool) (c : Cursor) : Cursor :=
  ⟨c.offset + (c.rest.takeWhile p).length, c.rest.dropWhile p⟩

/-- The cursor `count` characters on. -/
def Cursor.advance (c : Cursor) (count : Nat) : Cursor := ⟨c.offset + count, c.rest.drop count⟩

/-- The blanks of JSON. -/
def isSpace (c : Char) : Bool := c == ' ' || c == '\t' || c == '\n' || c == '\r'

/-- The cursor behind blanks. -/
def Cursor.skipSpace (c : Cursor) : Cursor := c.skip isSpace

/-! ## Texts -/

/-- The value of a hexadecimal digit. -/
def hexValue? (c : Char) : Option Nat := Uuid.hexValue? c

/-- The number of four hexadecimal digits. -/
def hex4? (a b c d : Char) : Option Nat := do
  let a ← hexValue? a
  let b ← hexValue? b
  let c ← hexValue? c
  let d ← hexValue? d
  pure (((a * 16 + b) * 16 + c) * 16 + d)

/-- The character that a letter behind a backslash stands for. -/
def escape? (c : Char) : Option Char :=
  if c = '"' ∨ c = '\\' ∨ c = '/' then some c
  else if c = 'b' then some (Char.ofNat 8)
  else if c = 'f' then some (Char.ofNat 12)
  else if c = 'n' then some '\n'
  else if c = 'r' then some '\r'
  else if c = 't' then some '\t'
  else none

/-- The second half of a surrogate pair behind its backslash: the code point of the pair, or the
first half alone if no second one follows.  `o` is the offset of the first backslash. -/
def readSecondHalf (o high : Nat) : List Char → Except Fault (CodePoint × Nat)
  | 'u' :: a :: b :: c :: d :: _ :: _ =>
    match hex4? a b c d with
    | none => .error ⟨.badUnicodeEscape, o + 7⟩
    | some low =>
      if isLowSurrogate low then .ok (.ofPair high low, 11) else .ok (.ofNat high, 5)
  | _ => .ok (.ofNat high, 5)

/-- The code point of an escape, and how many characters it takes behind the backslash.  `start` is
the offset of the opening quote and `o` that of the backslash. -/
def readEscape (start o : Nat) : List Char → Except Fault (CodePoint × Nat)
  | [] => .error ⟨.unterminatedText, start⟩
  | 'u' :: a :: b :: c :: d :: next :: rest =>
    match hex4? a b c d with
    | none => .error ⟨.badUnicodeEscape, o + 1⟩
    | some n =>
      if isHighSurrogate n ∧ next = '\\' then readSecondHalf o n rest else .ok (.ofNat n, 5)
  | 'u' :: _ => .error ⟨.badUnicodeEscape, o + 1⟩
  | e :: _ => match escape? e with
    | some c => .ok (.char c, 1)
    | none => .error ⟨.badEscape, o⟩

/-- Which code point a character of the text stands for, by its offset: the reader sees another
character in place of a half of a surrogate pair. -/
abbrev Source := Nat → Char → CodePoint

/-- A text without halves. -/
def Source.plain : Source := fun _ c => .char c

def Source.of : AnyText → Source
  | .whole _ => .plain
  | .unpaired t => fun o c => t.points.getD o (.char c)

/-- Reads the code points of a text up to its closing quote.  `start` is the offset of the opening
quote, `skip` counts the characters of an escape that are still to be passed, and `seen` holds the
code points so far, last first. -/
def readText (source : Source) (start : Nat) : (skip offset : Nat) → (seen : List CodePoint) →
    List Char → Except Fault (AnyText × Cursor)
  | _, _, _, [] => .error ⟨.unterminatedText, start⟩
  | skip + 1, o, seen, _ :: rest => readText source start skip (o + 1) seen rest
  | 0, o, seen, c :: rest =>
    if c = '"' then .ok (.ofPoints seen.reverse, ⟨o + 1, rest⟩)
    else if c = '\\' then
      match readEscape start o rest with
      | .ok (meant, count) => readText source start count (o + 1) (meant :: seen) rest
      | .error f => .error f
    else if c.toNat < 32 then .error ⟨.controlCharacter, o⟩
    else readText source start 0 (o + 1) (source o c :: seen) rest

/-! ## Numbers -/

/-- The digits behind a point, if there is at least one. -/
def readPlaces (text : List Char) : List Char × List Char :=
  match text with
  | '.' :: rest =>
    let places := rest.takeWhile Char.isDigit
    if places = [] then ([], text) else (places, rest.dropWhile Char.isDigit)
  | _ => ([], text)

/-- An exponent, if it has a digit. -/
def readPower (text : List Char) : Option Int × List Char :=
  match text with
  | mark :: rest =>
    let (negative, body) := splitSign rest
    let digits := body.takeWhile Char.isDigit
    if (mark = 'e' ∨ mark = 'E') ∧ digits ≠ [] then
      (some (if negative then -(ofDigits digits : Int) else (ofDigits digits : Int)),
        body.dropWhile Char.isDigit)
    else (none, text)
  | [] => (none, [])

/-- The digits in front of a point: a zero alone, or digits that do not begin with one. -/
def readWhole (text : List Char) : List Char × List Char :=
  match text with
  | '0' :: rest => (['0'], rest)
  | _ => (text.takeWhile Char.isDigit, text.dropWhile Char.isDigit)

/-- A minus in front, if there is one, and what follows it. -/
def readSign : List Char → Bool × List Char
  | '-' :: rest => (true, rest)
  | rest => (false, rest)

def readNumber (c : Cursor) : Except Fault (Json × Cursor) :=
  let (negative, body) := readSign c.rest
  let (whole, tail) := readWhole body
  if whole = [] then c.refuse .expectingValue
  else
    let (places, tail) := readPlaces tail
    let (power, tail) := readPower tail
    let behind : Cursor := ⟨c.offset + (c.rest.length - tail.length), tail⟩
    if places = [] ∧ power = none then
      if integerDigitLimit < whole.length then c.refuse .tooManyDigits
      else
        let n : Int := ofDigits whole
        .ok (.int (if negative then -n else n), behind)
    else
      let exponent := power.getD 0 - (places.length : Int)
      .ok (.float (Binary64.ofDecimal negative (ofDigits (whole ++ places)) exponent), behind)

/-! ## Values -/

/-- The values that are written as a name. -/
def names : List (List Char × Json) := [
  ("null".toList, .null), ("true".toList, .bool true), ("false".toList, .bool false),
  ("NaN".toList, .float .nan), ("Infinity".toList, .float (.infinity false)),
  ("-Infinity".toList, .float (.infinity true))]

/-- A name or a number. -/
def readScalar (c : Cursor) : Except Fault (Json × Cursor) :=
  match names.find? fun n => n.1.isPrefixOf c.rest with
  | some n => .ok (n.2, c.advance n.1.length)
  | none => readNumber c

/-- The name of a member, up to where its value begins. -/
def readName (source : Source) (c : Cursor) : Except Fault (AnyText × Cursor) :=
  match c.rest with
  | '"' :: rest => do
    let (name, behind) ← readText source c.offset 0 (c.offset + 1) [] rest
    let behind := behind.skipSpace
    match behind.rest with
    | ':' :: _ => pure (name, (behind.advance 1).skipSpace)
    | _ => behind.refuse .expectingColon
  | _ => c.refuse .expectingName

section

variable (source : Source)

mutual

/-- A value.  `limit` says how many lists and objects may still open; `fuel` bounds the steps. -/
def readValue (limit : Nat) : (fuel : Nat) → Cursor → Except Fault (Json × Cursor)
  | 0, c => c.refuse .expectingValue
  | fuel + 1, c =>
    match c.rest with
    | '"' :: rest =>
      (readText source c.offset 0 (c.offset + 1) [] rest).map fun r => (.text r.1, r.2)
    | '[' :: _ =>
      match limit with
      | 0 => c.refuse .tooDeep
      | limit + 1 =>
        let inside := (c.advance 1).skipSpace
        match inside.rest with
        | ']' :: _ => .ok (.list [], inside.advance 1)
        | _ => readItems limit fuel [] inside
    | '\x7b' :: _ =>
      match limit with
      | 0 => c.refuse .tooDeep
      | limit + 1 =>
        let inside := (c.advance 1).skipSpace
        match inside.rest with
        | '\x7d' :: _ => .ok (.object [], inside.advance 1)
        | _ => readMembers limit fuel [] inside
    | _ => readScalar c

/-- The items of a list up to its end; `seen` holds those so far, last first. -/
def readItems (limit : Nat) : (fuel : Nat) → (seen : List Json) → Cursor →
    Except Fault (Json × Cursor)
  | 0, _, c => c.refuse .expectingValue
  | fuel + 1, seen, c => do
    let (item, behind) ← readValue limit fuel c
    let behind := behind.skipSpace
    match behind.rest with
    | ']' :: _ => pure (.list (item :: seen).reverse, behind.advance 1)
    | ',' :: _ => readItems limit fuel (item :: seen) (behind.advance 1).skipSpace
    | _ => behind.refuse .expectingComma

/-- The members of an object up to its end; `seen` holds those so far, last first. -/
def readMembers (limit : Nat) : (fuel : Nat) → (seen : List (AnyText × Json)) → Cursor →
    Except Fault (Json × Cursor)
  | 0, _, c => c.refuse .expectingValue
  | fuel + 1, seen, c => do
    let (name, start) ← readName source c
    let (item, behind) ← readValue limit fuel start
    let behind := behind.skipSpace
    match behind.rest with
    | '\x7d' :: _ => pure (.object ((name, item) :: seen).reverse, behind.advance 1)
    | ',' :: _ => readMembers limit fuel ((name, item) :: seen) (behind.advance 1).skipSpace
    | _ => behind.refuse .expectingComma

end

/-- The document that characters write, with at most `limit` lists and objects open at once. -/
def readSource (limit : Nat) (chars : List Char) : Except Fault Json := do
  let (document, behind) ←
    readValue source limit (2 * chars.length + 2) (Cursor.skipSpace ⟨0, chars⟩)
  let behind := behind.skipSpace
  if behind.rest = [] then pure document else behind.refuse .extraData

end

/-- The document that a whole text writes, with at most `limit` lists and objects open at once.  A
byte order mark in front is refused. -/
def readWithin (limit : Nat) (text : AnyText) : Except Fault Json :=
  let chars := text.shown.toList
  if chars.head? = some (Char.ofNat 0xFEFF) then .error ⟨.byteOrderMark, 0⟩
  else readSource (.of text) limit chars

/-- The document that a whole text writes. -/
def read (text : String) : Except Fault Json := readWithin (nesting text) text

end CollectionQuery.Json
