/-!
# Nesting of brackets in a text

`nesting` scans a text once and counts the brackets that stand outside of texts in double quotes.
It works on every text, a JSON document or not; a closing bracket too many makes the count negative.
-/

namespace CollectionQuery.Json

/-- Where the scan stands. -/
inductive ScanMode where
  /-- Outside of texts. -/
  | outside
  /-- In a text. -/
  | inText
  /-- In a text, behind a backslash. -/
  | escaped
deriving DecidableEq

/-- The state of the scan: the open brackets, and the most there were. -/
structure Scan where
  /-- Where the scan stands. -/
  mode : ScanMode := .outside
  /-- Opening brackets less closing ones. -/
  level : Int := 0
  /-- The greatest level so far. -/
  deepest : Int := 0

/-- Reads one character. -/
def Scan.step (s : Scan) (c : Char) : Scan :=
  match s.mode with
  | .escaped => { s with mode := .inText }
  | .inText =>
    if c = '\\' then { s with mode := .escaped }
    else if c = '"' then { s with mode := .outside }
    else s
  | .outside =>
    if c = '"' then { s with mode := .inText }
    else if c = '[' ∨ c = '\x7b' then
      { s with level := s.level + 1, deepest := max s.deepest (s.level + 1) }
    else if c = ']' ∨ c = '\x7d' then { s with level := s.level - 1 }
    else s

/-- The deepest nesting of brackets outside of texts. -/
def nesting (text : String) : Nat := (text.toList.foldl Scan.step {}).deepest.toNat

end CollectionQuery.Json
