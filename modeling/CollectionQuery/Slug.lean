import CollectionQuery.Text.Blank
import CollectionQuery.Text.LetterCase
import CollectionQuery.Value.Text

/-!
# Slugs

A slug names a row in an address.  It is made from a title: the title is lowered, its blanks become
dashes, characters other than ASCII letters, digits, underscores and dashes are left out, and runs
of dashes become one; there is none at either end.  A title of which nothing is left has a fallback.

A slug that is taken gets a number behind a dash.  It never grows longer than the column.
-/

namespace CollectionQuery.Slug

open CollectionQuery.Text

/-- Whether a character is an ASCII letter, a digit or an underscore. -/
def isWord (c : Char) : Bool := c.isAlphanum || c == '_'

/-- A text with each run of blanks replaced by a dash.  `inRun` says whether a blank stands in
front. -/
def dashBlanks : (inRun : Bool) → List Char → List Char
  | _, [] => []
  | inRun, c :: rest =>
    if isBlank c then (if inRun then [] else ['-']) ++ dashBlanks true rest
    else c :: dashBlanks false rest

/-- A text with each run of dashes replaced by one.  `inRun` says whether a dash stands in front. -/
def mergeDashes : (inRun : Bool) → List Char → List Char
  | _, [] => []
  | inRun, c :: rest =>
    if c = '-' then (if inRun then [] else ['-']) ++ mergeDashes true rest
    else c :: mergeDashes false rest

/-- The slug of a text, possibly empty. -/
def chars (text : String) : List Char :=
  let lowered := (lower (strip text)).toList
  let kept := (dashBlanks false lowered).filter fun c => isWord c || c == '-'
  trimChars (· == '-') (mergeDashes false kept)

/-- The slug of a text, or the fallback if nothing is left. -/
def of (text fallback : String) : String :=
  let slug := String.ofList (chars text)
  if slug = "" then fallback else slug

/-- The slug of a value. -/
def ofValue (v : Value) (fallback : String) : String := of v.textOrEmpty fallback

/-- The greatest length of a slug. -/
def maxLength : Nat := 255

/-- A base with a number behind it, cut so that it fits. -/
def numbered (base : List Char) (index : Nat) : List Char :=
  let suffix := '-' :: Nat.toDigits 10 index
  dropTrailing (· == '-') (base.take (maxLength - suffix.length)) ++ suffix

/-- The first of `count` numbered candidates from `index` on that is not taken. -/
def firstFree (taken : List String) (base : List Char) : (count index : Nat) → Option String
  | 0, _ => none
  | count + 1, index =>
    let candidate := String.ofList (numbered base index)
    if candidate ∈ taken then firstFree taken base count (index + 1) else some candidate

/-- The entries of a list of slugs that begin with a base, each once. -/
def takenWith (base : List Char) : List String → List String
  | [] => []
  | slug :: rest =>
    let others := takenWith base rest
    if base.isPrefixOf slug.toList ∧ slug ∉ others then slug :: others else others

/-- A slug made from a base that is none of the stored ones. -/
def unique? (stored : List String) (base : String) : Option String :=
  let cut := base.toList.take maxLength
  let taken := takenWith cut stored
  if String.ofList cut ∈ taken then firstFree taken cut taken.length 2
  else some (String.ofList cut)

end CollectionQuery.Slug
