import CollectionQuery.Json
import CollectionQuery.Value.Text

/-!
# Writing JSON

A document is written without blanks.  Quotes, backslashes, control characters and halves of
surrogate pairs in texts are escaped.
-/

namespace CollectionQuery.Json

open CollectionQuery.Text

def charText (c : Char) : List Char :=
  if c = '"' ∨ c = '\\' then ['\\', c]
  else if c.toNat < 32 then '\\' :: 'u' :: hexDigits 4 c.toNat
  else [c]

def pointText : CodePoint → List Char
  | .char c => charText c
  | .half h => '\\' :: 'u' :: hexDigits 4 h.unit

/-- A text in double quotes. -/
def textText (s : AnyText) : String := String.ofList ('"' :: s.points.flatMap pointText ++ ['"'])

/-- A number; an infinity is written as `Infinity` and no number as `NaN`. -/
def floatText : Number.Binary64 → String
  | .nan => "NaN"
  | .infinity negative => if negative then "-Infinity" else "Infinity"
  | x => x.text

mutual

/-- The text of a document. -/
def write : Json → String
  | null => "null"
  | bool b => if b then "true" else "false"
  | int n => Value.intText n
  | float x => floatText x
  | text s => textText s
  | list items => "[" ++ joinWith "," (writeItems items) ++ "]"
  | object members => "\x7b" ++ joinWith "," (writeMembers members) ++ "\x7d"

/-- The texts of items. -/
def writeItems : List Json → List String
  | [] => []
  | j :: rest => write j :: writeItems rest

/-- The texts of members. -/
def writeMembers : List (AnyText × Json) → List String
  | [] => []
  | (name, j) :: rest => (textText name ++ ":" ++ write j) :: writeMembers rest

end

end CollectionQuery.Json
