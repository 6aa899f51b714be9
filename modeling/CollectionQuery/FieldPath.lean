import CollectionQuery.Text.Split

/-!
# Field paths

A field is named by an identifier, and a field of a related row by the names of the relations on the
way and its own, separated by dots.  Identifiers are made of ASCII letters, digits and underscores
and do not begin with a digit.
-/

namespace CollectionQuery.FieldPath

open CollectionQuery.Text

/-- Whether a character may begin an identifier. -/
def isNameStart (c : Char) : Bool := c.isAlpha || c == '_'

/-- Whether a character may stand in an identifier. -/
def isNamePart (c : Char) : Bool := c.isAlphanum || c == '_'

/-- Whether a text is an identifier. -/
def isName : List Char → Bool
  | [] => false
  | c :: rest => isNameStart c && rest.all isNamePart

/-- Whether a text is an identifier or several separated by dots. -/
def isPath (text : String) : Bool := (splitChars '.' text.toList).all isName

/-- The names of a path. -/
def names (text : String) : List String := splitOnChar '.' text

/-- The number of dots in a path. -/
def depth (text : String) : Nat := text.toList.count '.'

end CollectionQuery.FieldPath
