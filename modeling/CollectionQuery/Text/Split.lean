/-!
# Splitting and joining

`splitOnChar` cuts a text at every occurrence of a character, so it always has one piece more than
there are occurrences.  `replaceChar` and `removeAll` work on all occurrences from the left.
-/

namespace CollectionQuery.Text

/-- The pieces between the occurrences of a separator. -/
def splitChars (separator : Char) : List Char → List (List Char)
  | [] => [[]]
  | c :: rest =>
    match splitChars separator rest with
    | [] => [[c]]
    | piece :: pieces =>
      if c = separator then [] :: piece :: pieces else (c :: piece) :: pieces

/-- The pieces of a text between the occurrences of a separator. -/
def splitOnChar (separator : Char) (text : String) : List String :=
  (splitChars separator text.toList).map String.ofList

/-- A text with one character replaced by a text. -/
def replaceChar (old : Char) (new : List Char) (text : List Char) : List Char :=
  text.flatMap fun c => if c = old then new else [c]

/-- Removes every occurrence of `pattern`, from the left and without overlap.  `skip` counts the
characters of an occurrence that are still to be passed. -/
def removeAllFrom (pattern : List Char) : (skip : Nat) → List Char → List Char
  | _, [] => []
  | skip + 1, _ :: rest => removeAllFrom pattern skip rest
  | 0, c :: rest =>
    if pattern ≠ [] ∧ pattern.isPrefixOf (c :: rest) then
      removeAllFrom pattern (pattern.length - 1) rest
    else
      c :: removeAllFrom pattern 0 rest

/-- A text without the occurrences of `pattern`. -/
def removeAll (pattern : List Char) (text : List Char) : List Char := removeAllFrom pattern 0 text

/-- Texts joined by a separator. -/
def joinWith (separator : String) (pieces : List String) : String :=
  String.intercalate separator pieces

end CollectionQuery.Text
