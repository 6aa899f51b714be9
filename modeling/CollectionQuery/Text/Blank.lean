/-!
# Blank characters

White space is the Unicode property White_Space.  The readers of plain text also count the four
information separators U+001C to U+001F; the readers of numbers in a request do not.

`strip` removes blanks at both ends of a text.
-/

namespace CollectionQuery.Text

/-- The Unicode property White_Space. -/
def isWhiteSpace (c : Char) : Bool :=
  let n := c.toNat
  (9 ≤ n && n ≤ 13) || n == 0x20 || n == 0x85 || n == 0xA0 || n == 0x1680 ||
    (0x2000 ≤ n && n ≤ 0x200A) || n == 0x2028 || n == 0x2029 || n == 0x202F || n == 0x205F ||
    n == 0x3000

/-- The white space of ASCII. -/
def isAsciiSpace (c : Char) : Bool := c == ' ' || (9 ≤ c.toNat && c.toNat ≤ 13)

/-- White space or an information separator. -/
def isBlank (c : Char) : Bool :=
  isWhiteSpace c || (0x1C ≤ c.toNat && c.toNat ≤ 0x1F)

/-- A text without what is of a class at its end. -/
def dropTrailing {α : Type} (p : α → Bool) : List α → List α
  | [] => []
  | c :: rest =>
    match dropTrailing p rest with
    | [] => if p c then [] else [c]
    | kept => c :: kept

/-- A text without what is of a class at both ends. -/
def trimChars {α : Type} (p : α → Bool) (text : List α) : List α :=
  dropTrailing p (text.dropWhile p)

/-- A text without blanks at both ends. -/
def strip (text : String) : String :=
  String.ofList (trimChars isBlank text.toList)

end CollectionQuery.Text
