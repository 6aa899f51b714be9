import CollectionQuery.Text.LetterCase
import CollectionQuery.Text.Pattern
import Mathlib.Data.List.Infix
import Mathlib.Data.List.TakeWhile

/-!
# Patterns of plain texts

The escaped pattern of a word has one part for each of its characters, be they wildcards, escape
characters or others, and every part stands for its character.  So the pattern matches the texts
that begin with the word if a wildcard follows it, those that end with the word if one stands in
front, and those that contain the word with one on both sides.

Letters may lose their case before the escape or after it, for no letter is escaped.
-/

namespace CollectionQuery.Text

variable {text word front back : List Char} {tokens : List PatternToken} {c d : Char}

/-! ## Texts without NUL -/

/-- Whether a text has no NUL, so that the storage engine reads all of it. -/
def HasNoNul (text : List Char) : Prop := ∀ c ∈ text, c.toNat ≠ 0

instance (text : List Char) : Decidable (HasNoNul text) := List.decidableBAll _ text

theorem upToNul_eq_self (h : HasNoNul text) : upToNul text = text :=
  List.takeWhile_eq_self_iff.2 fun c hc => bne_iff_ne.2 (h c hc)

theorem HasNoNul.append (hfront : HasNoNul front) (hback : HasNoNul back) :
    HasNoNul (front ++ back) :=
  List.forall_mem_append.2 ⟨hfront, hback⟩

theorem HasNoNul.wildcard (h : HasNoNul text) : HasNoNul ('%' :: text) :=
  List.forall_mem_cons.2 ⟨by decide, h⟩

theorem HasNoNul.append_wildcard (h : HasNoNul text) : HasNoNul (text ++ ['%']) :=
  h.append (HasNoNul.wildcard (List.forall_mem_nil _))

/-! ## The parts of escaped words -/

theorem patternTokens_nil (escape : Option Char) : patternTokens escape [] = [] := rfl

theorem patternTokens_escaped (c : Char) (rest : List Char) :
    patternTokens (some patternEscape) (patternEscape :: c :: rest) =
      .char c :: patternTokens (some patternEscape) rest := rfl

theorem patternTokens_of_ne {escape : Option Char} (h : escape ≠ some c) (rest : List Char) :
    patternTokens escape (c :: rest) =
      (if c = '%' then .any else if c = '_' then .one else .char c) ::
        patternTokens escape rest := by
  cases rest with
  | nil => exact if_neg h
  | cons d rest => exact if_neg h

theorem patternTokens_wildcard (rest : List Char) :
    patternTokens (some patternEscape) ('%' :: rest) =
      .any :: patternTokens (some patternEscape) rest :=
  patternTokens_of_ne (by decide) rest

/-- Whether a character would not stand for itself in a pattern. -/
def IsSpecial (c : Char) : Prop := c = patternEscape ∨ c = '%' ∨ c = '_'

theorem escapeWildcards_special (h : IsSpecial c) (word : List Char) :
    escapeWildcards (c :: word) = patternEscape :: c :: escapeWildcards word := by
  have hc : (if c = patternEscape ∨ c = '%' ∨ c = '_' then [patternEscape, c] else [c]) =
      [patternEscape, c] := if_pos h
  rw [escapeWildcards, List.flatMap_cons, hc]
  rfl

theorem escapeWildcards_plain (h : ¬ IsSpecial c) (word : List Char) :
    escapeWildcards (c :: word) = c :: escapeWildcards word := by
  have hc : (if c = patternEscape ∨ c = '%' ∨ c = '_' then [patternEscape, c] else [c]) = [c] :=
    if_neg h
  rw [escapeWildcards, List.flatMap_cons, hc]
  rfl

/-- Every character of an escaped word is a part that stands for itself. -/
theorem patternTokens_escapeWildcards (word rest : List Char) :
    patternTokens (some patternEscape) (escapeWildcards word ++ rest) =
      word.map .char ++ patternTokens (some patternEscape) rest := by
  induction word with
  | nil => rfl
  | cons c word ih =>
      by_cases h : IsSpecial c
      · rw [escapeWildcards_special h, List.cons_append, List.cons_append, patternTokens_escaped,
          ih, List.map_cons, List.cons_append]
      · obtain ⟨hescape, hany, hone⟩ : c ≠ patternEscape ∧ c ≠ '%' ∧ c ≠ '_' := by
          simpa [IsSpecial] using h
        have hne : some patternEscape ≠ some c := fun heq => hescape (Option.some.inj heq).symm
        rw [escapeWildcards_plain h, List.cons_append, patternTokens_of_ne hne, if_neg hany,
          if_neg hone, ih, List.map_cons, List.cons_append]

theorem HasNoNul.escapeWildcards (h : HasNoNul word) : HasNoNul (escapeWildcards word) := by
  intro d hd
  obtain ⟨c, hc, hd⟩ := List.mem_flatMap.1 hd
  split at hd
  · rcases List.mem_cons.1 hd with rfl | hd
    · decide
    · rw [List.mem_singleton.1 hd]
      exact h c hc
  · rw [List.mem_singleton.1 hd]
    exact h c hc

/-! ## What the parts match -/

theorem suffixes_eq_tails (text : List Char) : suffixes text = text.tails := by
  induction text with
  | nil => rfl
  | cons c text ih => rw [suffixes, ih, List.tails_cons]

theorem matchTokens_nil : matchTokens [] text = true ↔ text = [] := List.isEmpty_iff

/-- Characters match a text that begins with them, if the other parts match what follows. -/
theorem matchTokens_chars (word : List Char) :
    matchTokens (word.map .char ++ tokens) text = true ↔
      ∃ tail, text = word ++ tail ∧ matchTokens tokens tail = true := by
  induction word generalizing text with
  | nil => simp
  | cons c word ih =>
      cases text with
      | nil => simp [matchTokens]
      | cons d text => simp [matchTokens, ih, eq_comm (a := c), and_assoc]

/-- A wildcard matches any front, so the other parts match a suffix. -/
theorem matchTokens_any : matchTokens (.any :: tokens) text = true ↔
    ∃ tail, tail <:+ text ∧ matchTokens tokens tail = true := by
  simp [matchTokens, suffixes_eq_tails]

theorem matchTokens_startsWith (word text : List Char) :
    matchTokens (word.map .char ++ [.any]) text = true ↔ word <+: text := by
  rw [matchTokens_chars]
  constructor
  · rintro ⟨tail, rfl, -⟩
    exact List.prefix_append word tail
  · rintro ⟨tail, rfl⟩
    exact ⟨tail, rfl, matchTokens_any.2 ⟨[], List.nil_suffix, rfl⟩⟩

theorem matchTokens_word (word text : List Char) :
    matchTokens (word.map .char) text = true ↔ text = word := by
  rw [← List.append_nil (word.map _), matchTokens_chars]
  simp [matchTokens_nil]

theorem matchTokens_endsWith (word text : List Char) :
    matchTokens (.any :: word.map .char) text = true ↔ word <:+ text := by
  simp [matchTokens_any, matchTokens_word]

theorem matchTokens_contains (word text : List Char) :
    matchTokens (.any :: (word.map .char ++ [.any])) text = true ↔ word <:+: text := by
  rw [matchTokens_any, List.infix_iff_prefix_suffix]
  exact exists_congr fun tail => by rw [matchTokens_startsWith, and_comm]

/-! ## What the patterns match -/

theorem matchPattern_iff {pattern : List Char} (h : HasNoNul pattern) :
    matchPattern (some patternEscape) pattern text = true ↔
      matchTokens (patternTokens (some patternEscape) pattern) (upToNul text) = true := by
  rw [matchPattern, matchesTokens_eq, upToNul_eq_self h]

/-- A wildcard behind a word matches what begins with the word. -/
theorem matchPattern_startsWith (h : HasNoNul word) (text : List Char) :
    matchPattern (some patternEscape) (escapeWildcards word ++ ['%']) text = true ↔
      word <+: upToNul text := by
  rw [matchPattern_iff h.escapeWildcards.append_wildcard, patternTokens_escapeWildcards]
  exact matchTokens_startsWith word _

/-- A wildcard in front of a word matches what ends with the word. -/
theorem matchPattern_endsWith (h : HasNoNul word) (text : List Char) :
    matchPattern (some patternEscape) ('%' :: escapeWildcards word) text = true ↔
      word <:+ upToNul text := by
  have htokens := patternTokens_escapeWildcards word []
  rw [patternTokens_nil, List.append_nil, List.append_nil] at htokens
  rw [matchPattern_iff h.escapeWildcards.wildcard, patternTokens_wildcard, htokens]
  exact matchTokens_endsWith word _

/-- Wildcards around a word match what contains the word. -/
theorem matchPattern_contains (h : HasNoNul word) (text : List Char) :
    matchPattern (some patternEscape) ('%' :: escapeWildcards word ++ ['%']) text = true ↔
      word <:+: upToNul text := by
  rw [matchPattern_iff h.escapeWildcards.wildcard.append_wildcard, List.cons_append,
    patternTokens_wildcard, patternTokens_escapeWildcards]
  exact matchTokens_contains word _

/-! ## Letters of either case -/

/-- Only capitals change, and they become small letters. -/
theorem toLower_cases (c : Char) : c.toLower = c ∨
    (65 ≤ c.toNat ∧ c.toNat ≤ 90) ∧ 97 ≤ c.toLower.toNat ∧ c.toLower.toNat ≤ 122 := by
  by_cases hc : c.val ≥ 'A'.val ∧ c.val ≤ 'Z'.val
  · have hleast : 65 ≤ c.toNat := UInt32.le_iff_toNat_le.1 hc.1
    have hmost : c.toNat ≤ 90 := UInt32.le_iff_toNat_le.1 hc.2
    have hsum : (c.val + 32).toNat = c.toNat + 32 := by
      rw [UInt32.toNat_add, Char.toNat_val]
      exact Nat.mod_eq_of_lt (by simp; omega)
    have hlower : c.toLower.val = c.val + 32 := congrArg Char.val (dif_pos hc)
    refine Or.inr ⟨⟨hleast, hmost⟩, ?_⟩
    rw [← Char.toNat_val, hlower]
    omega
  · exact Or.inl (dif_neg hc)

/-- A character that is no letter comes from itself alone. -/
theorem toLower_eq_iff (h : d.toNat < 65 ∨ 90 < d.toNat ∧ d.toNat < 97) :
    c.toLower = d ↔ c = d := by
  rcases toLower_cases c with hsame | ⟨⟨hleast, hmost⟩, hsmall, hlarge⟩
  · rw [hsame]
  · refine iff_of_false ?_ ?_
    · rintro rfl
      omega
    · rintro rfl
      omega

theorem isSpecial_toLower : IsSpecial c.toLower ↔ IsSpecial c := by
  rw [IsSpecial, IsSpecial, toLower_eq_iff (by decide), toLower_eq_iff (by decide),
    toLower_eq_iff (by decide)]

theorem asciiLower_cons (c : Char) (text : List Char) :
    asciiLower (c :: text) = c.toLower :: asciiLower text := rfl

theorem asciiLower_append (front back : List Char) :
    asciiLower (front ++ back) = asciiLower front ++ asciiLower back := List.map_append

/-- A word may be escaped in either case. -/
theorem asciiLower_escapeWildcards (word : List Char) :
    asciiLower (escapeWildcards word) = escapeWildcards (asciiLower word) := by
  induction word with
  | nil => rfl
  | cons c word ih =>
      have hescape : patternEscape.toLower = patternEscape := rfl
      rw [asciiLower_cons]
      by_cases h : IsSpecial c
      · rw [escapeWildcards_special h, escapeWildcards_special (isSpecial_toLower.2 h),
          asciiLower_cons, asciiLower_cons, ih, hescape]
      · rw [escapeWildcards_plain h,
          escapeWildcards_plain fun hlower => h (isSpecial_toLower.1 hlower), asciiLower_cons, ih]

theorem toNat_toLower_eq_zero : c.toLower.toNat = 0 ↔ c.toNat = 0 := by
  rcases toLower_cases c with hsame | ⟨⟨hleast, -⟩, hsmall, -⟩
  · rw [hsame]
  · omega

theorem HasNoNul.asciiLower (h : HasNoNul text) : HasNoNul (asciiLower text) := by
  intro d hd
  obtain ⟨c, hc, rfl⟩ := List.mem_map.1 hd
  exact fun hzero => h c hc (toNat_toLower_eq_zero.1 hzero)

end CollectionQuery.Text
