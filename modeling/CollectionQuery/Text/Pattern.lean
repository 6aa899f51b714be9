/-!
# Patterns

A pattern is a text in which `%` stands for any characters and `_` for any one of them.  With an
escape character the character behind it stands for itself.  The storage engine reads pattern and
text only up to the first NUL.

`escapeWildcards` puts the escape character in front of every character that would not stand for
itself.
-/

namespace CollectionQuery.Text

/-- A part of a pattern. -/
inductive PatternToken where
  /-- Any characters. -/
  | any
  /-- Any one character. -/
  | one
  /-- This character. -/
  | char (c : Char)
  /-- Nothing matches: an escape character ends the pattern. -/
  | never
deriving DecidableEq

/-- The parts of a pattern. -/
def patternTokens (escape : Option Char) : List Char → List PatternToken
  | [] => []
  | c :: rest =>
    if escape = some c then
      match rest with
      | [] => [.never]
      | e :: rest => .char e :: patternTokens escape rest
    else
      (if c = '%' then .any else if c = '_' then .one else .char c) :: patternTokens escape rest

/-- A list and all lists that are left when characters are taken from its front. -/
def suffixes : List Char → List (List Char)
  | [] => [[]]
  | c :: rest => (c :: rest) :: suffixes rest

/-- Whether a text matches the parts of a pattern. -/
def matchTokens : List PatternToken → List Char → Bool
  | [], text => text.isEmpty
  | .any :: rest, text => (suffixes text).any (matchTokens rest)
  | .one :: rest, text =>
    match text with
    | [] => false
    | _ :: text => matchTokens rest text
  | .char c :: rest, text =>
    match text with
    | [] => false
    | d :: text => c == d && matchTokens rest text
  | .never :: _, _ => false

/-! ## Matching at every place at once

A pattern with many wildcards matches at many places.  `matchEach` finds out for every suffix of a
text whether it matches, one part of the pattern after the other from its end.
-/

/-- For every place of a list, whether there or behind it one entry is true. -/
def anyFrom : List Bool → List Bool
  | [] => []
  | b :: rest =>
    let later := anyFrom rest
    (b || later.headD false) :: later

/-- For every suffix of a text, whether it matches the parts of a pattern. -/
def matchEach : List PatternToken → List Char → List Bool
  | [], text => (suffixes text).map List.isEmpty
  | .any :: rest, text => anyFrom (matchEach rest text)
  | .one :: rest, text => (matchEach rest text).tail ++ [false]
  | .char c :: rest, text =>
    List.zipWith (fun d b => c == d && b) text (matchEach rest text).tail ++ [false]
  | .never :: _, text => (suffixes text).map fun _ => false

theorem anyFrom_map_suffixes (p : List Char → Bool) (text : List Char) :
    anyFrom ((suffixes text).map p) = (suffixes text).map fun s => (suffixes s).any p := by
  induction text with
  | nil => simp [suffixes, anyFrom]
  | cons c rest ih =>
    have head : ((suffixes rest).map fun s => (suffixes s).any p).headD false =
        (suffixes rest).any p := by
      cases rest <;> simp [suffixes]
    simp only [suffixes, List.map_cons, anyFrom, ih, head, List.any_cons]

theorem tail_map_suffixes (p : List Char → Bool) (text : List Char) :
    ((suffixes text).map p).tail ++ [false] =
      (suffixes text).map fun s => match s with
        | [] => false
        | _ :: rest => p rest := by
  induction text with
  | nil => rfl
  | cons c rest ih =>
    cases rest with
    | nil => rfl
    | cons d more =>
      simp only [suffixes, List.map_cons, List.tail_cons] at ih ⊢
      simp only [List.cons_append, ih]

theorem zipWith_map_suffixes (c : Char) (p : List Char → Bool) (text : List Char) :
    List.zipWith (fun d b => c == d && b) text ((suffixes text).map p).tail ++ [false] =
      (suffixes text).map fun s => match s with
        | [] => false
        | d :: rest => c == d && p rest := by
  induction text with
  | nil => rfl
  | cons e rest ih =>
    cases rest with
    | nil => rfl
    | cons d more =>
      simp only [suffixes, List.map_cons, List.tail_cons, List.zipWith_cons_cons] at ih ⊢
      simp only [List.cons_append, ih]

theorem matchEach_eq_map (tokens : List PatternToken) (text : List Char) :
    matchEach tokens text = (suffixes text).map (matchTokens tokens) := by
  induction tokens with
  | nil => rfl
  | cons token rest ih =>
    cases token with
    | any => rw [matchEach, ih, anyFrom_map_suffixes]; rfl
    | one =>
      rw [matchEach, ih, tail_map_suffixes]
      apply List.map_congr_left
      intro s _
      cases s <;> rfl
    | char c =>
      rw [matchEach, ih, zipWith_map_suffixes]
      apply List.map_congr_left
      intro s _
      cases s <;> rfl
    | never => rfl

/-- Whether a text matches the parts of a pattern, found at every place at once. -/
def matchesTokens (tokens : List PatternToken) (text : List Char) : Bool :=
  (matchEach tokens text).headD false

theorem matchesTokens_eq (tokens : List PatternToken) (text : List Char) :
    matchesTokens tokens text = matchTokens tokens text := by
  rw [matchesTokens, matchEach_eq_map]
  cases text <;> rfl

/-- A text up to the first NUL. -/
def upToNul (text : List Char) : List Char := text.takeWhile fun c => c.toNat != 0

/-- Whether a text matches a pattern. -/
def matchPattern (escape : Option Char) (pattern text : List Char) : Bool :=
  matchesTokens (patternTokens escape (upToNul pattern)) (upToNul text)

/-- The greatest number of bytes of a pattern. -/
def patternLimit : Nat := 50000

/-- The escape character of patterns that are made from plain texts. -/
def patternEscape : Char := '/'

/-- A text as a pattern that only the text matches. -/
def escapeWildcards (text : List Char) : List Char :=
  text.flatMap fun c =>
    if c = patternEscape ∨ c = '%' ∨ c = '_' then [patternEscape, c] else [c]

end CollectionQuery.Text
