import CollectionQuery.Proofs.Text.Blank
import CollectionQuery.Proofs.Text.LetterCase
import CollectionQuery.Slug
import Mathlib.Data.List.Basic

/-!
# The form of slugs

A compound is made of runs of letters from `a` to `z`, digits and underscores, which single dashes
keep apart.  The slug of a text is a compound or empty: dropping characters may bring dashes
together and to the ends, but they are merged and trimmed behind that.  The characters of the runs
are those of the lowered text, in their order, since no other step makes or loses one.  Nothing is
left to do on a compound, so it is its own slug.
-/

namespace CollectionQuery.Slug

open CollectionQuery.Text

variable {text front back word : List Char} {c : Char} {inRun : Bool}

/-! ## Characters -/

/-- Whether a character is a letter from `a` to `z`, a digit or an underscore. -/
def isPlain (c : Char) : Bool := c.isLower || c.isDigit || c == '_'

/-- Whether a character may stand in a slug. -/
def isAllowed (c : Char) : Bool := isPlain c || c == '-'

theorem isWord_eq (c : Char) : isWord c = (c.isUpper || isPlain c) := by
  have hletter : c.isAlpha = (c.isUpper || c.isLower) := rfl
  rw [isWord, isPlain, Char.isAlphanum, hletter, Bool.or_assoc, Bool.or_assoc, Bool.or_assoc]

/-- Plain characters are the word characters that are no capitals. -/
theorem isWord_eq_isPlain (h : c.isUpper = false) : isWord c = isPlain c := by
  rw [isWord_eq, h, Bool.false_or]

theorem isWord_of_isPlain (h : isPlain c = true) : isWord c = true := by
  rw [isWord_eq, h, Bool.or_true]

theorem code_of_isPlain (h : isPlain c = true) :
    c.toNat = 95 ∨ (48 ≤ c.toNat ∧ c.toNat ≤ 57) ∨ (97 ≤ c.toNat ∧ c.toNat ≤ 122) := by
  rw [isPlain, Bool.or_eq_true, Bool.or_eq_true] at h
  rcases h with (hlower | hdigit) | hline
  · obtain ⟨hleast, hgreatest⟩ := (Bool.and_eq_true _ _).mp hlower
    exact Or.inr (Or.inr ⟨of_decide_eq_true hleast, of_decide_eq_true hgreatest⟩)
  · exact Or.inr (Or.inl (code_of_isDigit hdigit))
  · rw [beq_iff_eq.1 hline]
    exact Or.inl rfl

theorem ne_dash_of_isPlain (h : isPlain c = true) : c ≠ '-' := by
  rintro rfl
  cases h

theorem code_of_isAllowed (h : isAllowed c = true) : c.toNat = 45 ∨ c.toNat = 95 ∨
    (48 ≤ c.toNat ∧ c.toNat ≤ 57) ∨ (97 ≤ c.toNat ∧ c.toNat ≤ 122) := by
  rcases (Bool.or_eq_true _ _).mp h with hplain | hdash
  · exact Or.inr (code_of_isPlain hplain)
  · rw [beq_iff_eq.1 hdash]
    exact Or.inl rfl

theorem not_blank_of_isAllowed (h : isAllowed c = true) : isBlank c = false :=
  not_blank_of_code (by have := code_of_isAllowed h; omega)

/-- The characters of a slug have no other lower-case form. -/
theorem lowerChar_of_isAllowed (h : isAllowed c = true) :
    c ≠ capitalSigma ∧ lowerChar c = [c] := by
  have hcode := code_of_isAllowed h
  refine ⟨?_, ?_⟩
  · rintro rfl
    exact absurd hcode (by decide)
  · have hlower : c.toLower = c := dif_neg fun hupper => by
      have hleast := UInt32.le_iff_toNat_le.1 hupper.1
      have hgreatest := UInt32.le_iff_toNat_le.1 hupper.2
      change 65 ≤ c.toNat at hleast
      change c.toNat ≤ 90 at hgreatest
      omega
    rw [lowerChar, if_pos (by omega), hlower]

/-! ## Compounds -/

/-- Runs of plain characters with single dashes between them. -/
inductive Compound : List Char → Prop where
  | single {c : Char} : isPlain c = true → Compound [c]
  | more {c : Char} {rest : List Char} : isPlain c = true → Compound rest → Compound (c :: rest)
  | dash {c : Char} {rest : List Char} : isPlain c = true → Compound rest →
      Compound (c :: '-' :: rest)

namespace Compound

theorem of_word (hne : word ≠ []) (h : ∀ c ∈ word, isPlain c = true) : Compound word := by
  induction word with
  | nil => exact absurd rfl hne
  | cons c word ih =>
      obtain ⟨hc, hword⟩ := List.forall_mem_cons.1 h
      cases word with
      | nil => exact .single hc
      | cons d word => exact .more hc (ih (List.cons_ne_nil d word) hword)

/-- Two compounds with a dash between them. -/
theorem append_dash (hfront : Compound front) (hback : Compound back) :
    Compound (front ++ '-' :: back) := by
  induction hfront with
  | single hc => exact .dash hc hback
  | more hc _ ih => exact .more hc ih
  | dash hc _ ih => exact .dash hc ih

theorem head? (h : Compound text) : ∃ c, text.head? = some c ∧ isPlain c = true := by
  cases h with
  | single hc => exact ⟨_, rfl, hc⟩
  | more hc _ => exact ⟨_, rfl, hc⟩
  | dash hc _ => exact ⟨_, rfl, hc⟩

theorem getLast? (h : Compound text) : ∃ c, text.getLast? = some c ∧ isPlain c = true := by
  induction h with
  | single hc => exact ⟨_, rfl, hc⟩
  | more _ _ ih =>
      obtain ⟨c, hlast, hc⟩ := ih
      exact ⟨c, by simp [List.getLast?_cons, hlast], hc⟩
  | dash _ _ ih =>
      obtain ⟨c, hlast, hc⟩ := ih
      exact ⟨c, by simp [List.getLast?_cons, hlast], hc⟩

theorem head?_ne_dash (h : Compound text) : text.head? ≠ some '-' := by
  obtain ⟨c, hhead, hc⟩ := h.head?
  rw [hhead, ne_eq, Option.some_inj]
  exact ne_dash_of_isPlain hc

theorem getLast?_ne_dash (h : Compound text) : text.getLast? ≠ some '-' := by
  obtain ⟨c, hlast, hc⟩ := h.getLast?
  rw [hlast, ne_eq, Option.some_inj]
  exact ne_dash_of_isPlain hc

theorem ne_nil (h : Compound text) : text ≠ [] := by
  rintro rfl
  cases h

theorem allowed (h : Compound text) : ∀ c ∈ text, isAllowed c = true := by
  have hplain {c : Char} (hc : isPlain c = true) : isAllowed c = true := by
    rw [isAllowed, hc, Bool.true_or]
  induction h with
  | single hc => simpa using hplain hc
  | more hc _ ih => exact List.forall_mem_cons.2 ⟨hplain hc, ih⟩
  | dash hc _ ih =>
      exact List.forall_mem_cons.2 ⟨hplain hc, List.forall_mem_cons.2 ⟨rfl, ih⟩⟩

/-- No two dashes of a compound stand together. -/
theorem not_double_dash (h : Compound text) : ¬ ['-', '-'] <:+: text := by
  induction h with
  | single _ => exact fun hinfix => absurd hinfix.length_le (by simp)
  | more hc _ ih =>
      intro hinfix
      rcases List.infix_cons_iff.1 hinfix with hfirst | hinfix
      · exact ne_dash_of_isPlain hc (List.cons_prefix_cons.1 hfirst).1.symm
      · exact ih hinfix
  | dash hc hrest ih =>
      intro hinfix
      rcases List.infix_cons_iff.1 hinfix with hfirst | hinfix
      · exact ne_dash_of_isPlain hc (List.cons_prefix_cons.1 hfirst).1.symm
      rcases List.infix_cons_iff.1 hinfix with hsecond | hinfix
      · obtain ⟨d, hhead, hd⟩ := hrest.head?
        obtain ⟨more, rfl⟩ := (List.cons_prefix_cons.1 hsecond).2
        cases hhead
        exact ne_dash_of_isPlain hd rfl
      · exact ih hinfix

end Compound

/-! ## Dashes -/

/-- What is left of merged dashes behind the first character: nothing, a compound, or a compound
behind a dash if none stood in front. -/
theorem mergeDashes_form (h : ∀ c ∈ text, isAllowed c = true) (inRun : Bool) :
    dropTrailing (· == '-') (mergeDashes inRun text) = [] ∨
      Compound (dropTrailing (· == '-') (mergeDashes inRun text)) ∨
        inRun = false ∧ ∃ rest, Compound rest ∧
          dropTrailing (· == '-') (mergeDashes inRun text) = '-' :: rest := by
  induction text generalizing inRun with
  | nil => exact Or.inl rfl
  | cons c text ih =>
      obtain ⟨hc, htext⟩ := List.forall_mem_cons.1 h
      rw [mergeDashes]
      split
      · have hrest := ih htext true
        cases inRun with
        | true => exact hrest
        | false =>
            rcases hrest with hnil | hcompound | ⟨hrun, -⟩
            · exact Or.inl (by simp [dropTrailing, hnil])
            · refine Or.inr (Or.inr ⟨rfl, _, hcompound, ?_⟩)
              rw [if_neg Bool.false_ne_true, List.singleton_append, dropTrailing]
              split
              · next hnil => exact absurd hnil hcompound.ne_nil
              · rfl
            · cases hrun
      · next hdash =>
          have hplain : isPlain c = true := by
            simpa [isAllowed, hdash] using hc
          refine Or.inr (Or.inl ?_)
          rw [dropTrailing]
          rcases ih htext false with hnil | hcompound | ⟨-, rest, hcompound, heq⟩
          · rw [hnil]
            dsimp only
            rw [if_neg (by simpa using hdash)]
            exact .single hplain
          · split
            · next hnil => exact absurd hnil hcompound.ne_nil
            · exact .more hplain hcompound
          · rw [heq]
            exact .dash hplain hcompound

theorem dropWhile_mergeDashes (text : List Char) :
    (mergeDashes false text).dropWhile (· == '-') = mergeDashes true text := by
  have hrun (text : List Char) : (mergeDashes true text).dropWhile (· == '-') =
      mergeDashes true text := by
    induction text with
    | nil => rfl
    | cons c text ih =>
        rw [mergeDashes]
        split
        · exact ih
        · next hdash => exact List.dropWhile_cons_of_neg (by simpa using hdash)
  cases text with
  | nil => rfl
  | cons c text =>
      rw [mergeDashes, mergeDashes]
      split
      · exact hrun text
      · next hdash => exact List.dropWhile_cons_of_neg (by simpa using hdash)

/-- Merged and trimmed, the characters of slugs are a compound, if any is left. -/
theorem trimmed_form (h : ∀ c ∈ text, isAllowed c = true) :
    trimChars (· == '-') (mergeDashes false text) = [] ∨
      Compound (trimChars (· == '-') (mergeDashes false text)) := by
  rw [trimChars, dropWhile_mergeDashes]
  rcases mergeDashes_form h true with hnil | hcompound | ⟨hrun, -⟩
  · exact Or.inl hnil
  · exact Or.inr hcompound
  · cases hrun

/-! ## Characters that are kept -/

section

variable {p : Char → Bool}

theorem filter_dashBlanks (hdash : p '-' = false) (hblank : ∀ c, isBlank c = true → p c = false)
    (inRun : Bool) (text : List Char) : (dashBlanks inRun text).filter p = text.filter p := by
  induction text generalizing inRun with
  | nil => rfl
  | cons c text ih =>
      rw [dashBlanks]
      split
      · next hc =>
          rw [List.filter_append, ih, List.filter_cons_of_neg (by simp [hblank c hc])]
          split <;> simp [hdash]
      · rw [List.filter_cons, List.filter_cons, ih]

theorem filter_mergeDashes (hdash : p '-' = false) (inRun : Bool) (text : List Char) :
    (mergeDashes inRun text).filter p = text.filter p := by
  induction text generalizing inRun with
  | nil => rfl
  | cons c text ih =>
      rw [mergeDashes]
      split
      · next hc =>
          rw [List.filter_append, ih, hc, List.filter_cons_of_neg (by simp [hdash])]
          split <;> simp [hdash]
      · rw [List.filter_cons, List.filter_cons, ih]

/-- Trimming loses no character of another class. -/
theorem filter_trimChars {q : Char → Bool} (h : ∀ c, p c = true → q c = false)
    (text : List Char) : (trimChars p text).filter q = text.filter q := by
  obtain ⟨before, after, heq, hbefore, hafter⟩ := exists_trimChars p text
  have hnone {dropped : List Char} (hdropped : ∀ c ∈ dropped, p c = true) :
      dropped.filter q = [] := List.filter_eq_nil_iff.2 fun c hc => by simp [h c (hdropped c hc)]
  conv_rhs => rw [heq]
  rw [List.filter_append, List.filter_append, hnone hbefore, hnone hafter, List.nil_append,
    List.append_nil]

end

theorem not_isPlain_of_isBlank (h : isBlank c = true) : isPlain c = false := by
  refine Bool.eq_false_iff.2 fun hplain => ?_
  rw [not_blank_of_isAllowed (by rw [isAllowed, hplain, Bool.true_or])] at h
  cases h

/-- Blanks around a text make no difference to the plain characters of what it is lowered to. -/
theorem filter_lower_strip (text : String) :
    (lower (strip text)).toList.filter isPlain = (lower text).toList.filter isPlain := by
  obtain ⟨before, after, heq, hbefore, hafter⟩ := exists_trimChars isBlank text.toList
  have hnone {dropped : List Char} (hdropped : ∀ c ∈ dropped, isBlank c = true) :
      (dropped.flatMap fun c => (lowerChar c).filter isPlain) = [] :=
    List.flatMap_eq_nil_iff.2 fun c hc => by
      simp [lowerChar_of_isBlank (hdropped c hc), not_isPlain_of_isBlank (hdropped c hc)]
  rw [filter_lower rfl rfl, filter_lower rfl rfl, strip, String.toList_ofList]
  conv_rhs => rw [heq]
  rw [List.flatMap_append, List.flatMap_append, hnone hbefore, hnone hafter, List.nil_append,
    List.append_nil]

/-! ## The slug of a text -/

/-- The characters of a slug before its dashes are merged. -/
def keptChars (text : String) : List Char :=
  (dashBlanks false (lower (strip text)).toList).filter fun c => isWord c || c == '-'

theorem chars_eq (text : String) :
    chars text = trimChars (· == '-') (mergeDashes false (keptChars text)) := rfl

theorem mem_dashBlanks (h : c ∈ dashBlanks inRun text) : c = '-' ∨ c ∈ text := by
  induction text generalizing inRun with
  | nil => cases h
  | cons d text ih =>
      rw [dashBlanks] at h
      split at h
      · rcases List.mem_append.1 h with h | h
        · split at h
          · cases h
          · exact Or.inl (List.mem_singleton.1 h)
        · exact (ih h).imp_right (List.mem_cons_of_mem d)
      · rcases List.mem_cons.1 h with rfl | h
        · exact Or.inr List.mem_cons_self
        · exact (ih h).imp_right (List.mem_cons_of_mem d)

theorem isAllowed_of_mem_keptChars {text : String} (h : c ∈ keptChars text) :
    isAllowed c = true := by
  obtain ⟨hmem, hkept⟩ := List.mem_filter.1 h
  rcases mem_dashBlanks hmem with rfl | hlowered
  · rfl
  · rwa [isWord_eq_isPlain (not_isUpper_of_mem_lower hlowered)] at hkept

/-- The slug of a text is a compound, if anything is left of it. -/
theorem chars_form (text : String) : chars text = [] ∨ Compound (chars text) := by
  rw [chars_eq]
  exact trimmed_form fun _ => isAllowed_of_mem_keptChars

/-- The plain characters of a slug are those of the lowered text. -/
theorem filter_chars (text : String) :
    (chars text).filter isPlain = (lower text).toList.filter isPlain := by
  have hkept (text : List Char) :
      (text.filter fun c => isWord c || c == '-').filter isPlain = text.filter isPlain := by
    rw [List.filter_filter]
    refine List.filter_congr fun c _ => ?_
    cases hplain : isPlain c with
    | false => rfl
    | true => rw [isWord_of_isPlain hplain]; rfl
  rw [chars_eq, filter_trimChars (fun c hc => by rw [beq_iff_eq.1 hc]; rfl),
    filter_mergeDashes rfl, keptChars, hkept,
    filter_dashBlanks rfl fun c => not_isPlain_of_isBlank, filter_lower_strip]

/-! ## Compounds are their own slugs -/

theorem lowerFrom_eq_self (h : ∀ c ∈ text, isAllowed c = true) (before : List Char) :
    lowerFrom before text = text := by
  induction text generalizing before with
  | nil => rfl
  | cons c text ih =>
      obtain ⟨hc, htext⟩ := List.forall_mem_cons.1 h
      obtain ⟨hsigma, hlower⟩ := lowerChar_of_isAllowed hc
      rw [lowerFrom, ih htext, if_neg hsigma, hlower, List.singleton_append]

theorem dashBlanks_eq_self (h : ∀ c ∈ text, isBlank c = false) (inRun : Bool) :
    dashBlanks inRun text = text := by
  induction text generalizing inRun with
  | nil => rfl
  | cons c text ih =>
      obtain ⟨hc, htext⟩ := List.forall_mem_cons.1 h
      rw [dashBlanks, hc, if_neg Bool.false_ne_true, ih htext]

namespace Compound

/-- The dashes of a compound are merged already. -/
theorem mergeDashes_eq_self (h : Compound text) (inRun : Bool) : mergeDashes inRun text = text := by
  induction h generalizing inRun with
  | single hc => rw [mergeDashes, if_neg (ne_dash_of_isPlain hc)]; rfl
  | more hc _ ih => rw [mergeDashes, if_neg (ne_dash_of_isPlain hc), ih]
  | dash hc _ ih =>
      rw [mergeDashes, if_neg (ne_dash_of_isPlain hc), mergeDashes, if_pos rfl, ih]
      rfl

theorem trimChars_eq_self (h : Compound text) : trimChars (· == '-') text = text := by
  obtain ⟨c, hhead, hc⟩ := h.head?
  obtain ⟨d, hlast, hd⟩ := h.getLast?
  exact trimChars_of_ends hhead hlast (beq_eq_false_iff_ne.2 (ne_dash_of_isPlain hc))
    (beq_eq_false_iff_ne.2 (ne_dash_of_isPlain hd))

theorem keptChars_eq_self (h : Compound text) : keptChars (String.ofList text) = text := by
  have hblank : ∀ c ∈ text, isBlank c = false :=
    fun c hc => not_blank_of_isAllowed (h.allowed c hc)
  rw [keptChars, strip_eq_self (by rwa [String.toList_ofList]), lower, String.toList_ofList,
    String.toList_ofList, lowerFrom_eq_self h.allowed, dashBlanks_eq_self hblank]
  refine List.filter_eq_self.2 fun c hc => ?_
  rw [Bool.or_eq_true]
  exact ((Bool.or_eq_true _ _).mp (h.allowed c hc)).imp_left isWord_of_isPlain

theorem chars_eq_self (h : Compound text) : chars (String.ofList text) = text := by
  rw [chars_eq, h.keptChars_eq_self, h.mergeDashes_eq_self, h.trimChars_eq_self]

end Compound

/-! ## Slugs and fallbacks -/

/-- Nothing is left of a text if the lowered text has no plain character. -/
theorem chars_eq_nil_iff {text : String} :
    chars text = [] ↔ ∀ c ∈ (lower text).toList, isPlain c = false := by
  have hplain : (∀ c ∈ (lower text).toList, isPlain c = false) ↔
      (chars text).filter isPlain = [] := by
    rw [filter_chars, List.filter_eq_nil_iff]
    simp only [Bool.not_eq_true]
  rw [hplain]
  constructor
  · intro hnil
    rw [hnil]
    rfl
  · intro hnone
    rcases chars_form text with hnil | hcompound
    · exact hnil
    · obtain ⟨c, hhead, hc⟩ := hcompound.head?
      rw [List.filter_eq_nil_iff] at hnone
      exact absurd hc (hnone c (List.mem_of_mem_head? hhead))

theorem of_eq_fallback {text : String} (h : chars text = []) (fallback : String) :
    of text fallback = fallback := by
  rw [of, h]
  rfl

theorem of_eq_ofList {text : String} (h : chars text ≠ []) (fallback : String) :
    of text fallback = String.ofList (chars text) := by
  rw [of]
  exact if_neg fun hempty => h (String.ofList_injective hempty)

/-- A slug is a compound if its fallback is one. -/
theorem compound_of (text : String) {fallback : String} (h : Compound fallback.toList) :
    Compound (of text fallback).toList := by
  rcases chars_form text with hnil | hcompound
  · rwa [of_eq_fallback hnil]
  · rwa [of_eq_ofList hcompound.ne_nil, String.toList_ofList]

/-- Without its dashes a compound is what it has of plain characters. -/
theorem Compound.filter_ne_dash (h : Compound text) :
    text.filter (· ≠ '-') = text.filter isPlain := by
  refine List.filter_congr fun c hc => ?_
  rcases (Bool.or_eq_true _ _).mp (h.allowed c hc) with hplain | hdash
  · rw [hplain, decide_eq_true (ne_dash_of_isPlain hplain)]
  · rw [beq_iff_eq.1 hdash]
    rfl

/-- A compound is its own slug. -/
theorem of_compound (h : Compound text) (fallback : String) :
    of (String.ofList text) fallback = String.ofList text := by
  have hchars := h.chars_eq_self
  rw [of_eq_ofList (by rw [hchars]; exact h.ne_nil), hchars]

/-- The slug of a text is its fallback if the lowered text has no plain character.  Otherwise it is
a compound with the plain characters of the lowered text, in their order.  A compound is its own
slug. -/
theorem of_compound_or_fallback (text fallback : String) :
    ((∀ c ∈ (lower text).toList, isPlain c = false) → of text fallback = fallback) ∧
    ((∃ c ∈ (lower text).toList, isPlain c = true) → ∃ slug,
      of text fallback = String.ofList slug ∧ Compound slug ∧
        slug.filter (· ≠ '-') = (lower text).toList.filter isPlain) ∧
    ∀ slug, Compound slug → of (String.ofList slug) fallback = String.ofList slug := by
  refine ⟨fun hnone => of_eq_fallback (chars_eq_nil_iff.2 hnone) fallback, ?_,
    fun slug hslug => of_compound hslug fallback⟩
  rintro ⟨c, hc, hplain⟩
  have hne : chars text ≠ [] := fun hnil => by
    rw [chars_eq_nil_iff.1 hnil c hc] at hplain
    cases hplain
  have hcompound : Compound (chars text) := (chars_form text).resolve_left hne
  exact ⟨chars text, of_eq_ofList hne fallback, hcompound,
    hcompound.filter_ne_dash.trans (filter_chars text)⟩

end CollectionQuery.Slug
