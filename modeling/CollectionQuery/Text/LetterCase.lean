import CollectionQuery.Text.LetterCase.Tables
import CollectionQuery.Text.LetterCase.Context

/-!
# Letter case

The full case mappings of Unicode, which may change the number of characters.  A capital sigma that
ends a word becomes a final sigma when a whole text is lowered, but not when it is lowered alone.

`asciiLower` folds the letters from `A` to `Z` only, which is the folding of the storage engine.
-/

namespace CollectionQuery.Text

/-- The lower-case form of one character on its own. -/
def lowerChar (c : Char) : List Char :=
  if c.toNat < 128 then [c.toLower]
  else if c.toNat = 304 then [Char.ofNat 105, Char.ofNat 775]
  else match shifted? lowerRuns c.toNat with
    | some n => [Char.ofNat n]
    | none => [c]

/-- The upper-case form of a character. -/
def upperChar (c : Char) : List Char :=
  if c.toNat < 128 then [c.toUpper]
  else match upperExpansions.find? fun entry => entry.1 == c.toNat with
    | some entry => entry.2.map Char.ofNat
    | none => match shifted? upperRuns c.toNat with
      | some n => [Char.ofNat n]
      | none => [c]

/-- Whether a character has the property Uppercase. -/
def isUpper (c : Char) : Bool :=
  if c.toNat < 128 then c.isUpper else inSpans upperSpans c.toNat

/-- Whether case ignores the character when it looks for the end of a word. -/
def isCaseIgnorable (c : Char) : Bool := inSpans caseIgnorableSpans c.toNat

/-- Whether the character is a letter with case that a scan stops at. -/
def isCased (c : Char) : Bool := inSpans casedSpans c.toNat

/-- Whether the first character that case does not ignore has case. -/
def meetsCased : List Char → Bool
  | [] => false
  | c :: rest => if isCaseIgnorable c then meetsCased rest else isCased c

def capitalSigma : Char := Char.ofNat 0x3A3

/-- Lowers a text; `before` holds the characters already passed, last first. -/
def lowerFrom : (before : List Char) → List Char → List Char
  | _, [] => []
  | before, c :: rest =>
    let lowered :=
      if c = capitalSigma then
        [Char.ofNat (if meetsCased before && !meetsCased rest then 0x3C2 else 0x3C3)]
      else lowerChar c
    lowered ++ lowerFrom (c :: before) rest

/-- A text in lower case. -/
def lower (text : String) : String := String.ofList (lowerFrom [] text.toList)

/-- A text in upper case. -/
def upper (text : String) : String := String.ofList (text.toList.flatMap upperChar)

/-- A text with the letters from `A` to `Z` in lower case. -/
def asciiLower (text : List Char) : List Char := text.map Char.toLower

end CollectionQuery.Text
