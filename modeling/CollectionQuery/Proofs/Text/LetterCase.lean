import CollectionQuery.Text.Blank
import CollectionQuery.Text.LetterCase

/-!
# Lowered texts

Lowering leaves no capital from `A` to `Z`, though letters beyond ASCII may become letters of it.
What becomes of a character depends on its neighbours only for the capital sigma, so a class that
holds neither of its two lower-case forms is met character by character.  Blanks stay as they are.
-/

namespace CollectionQuery.Text

variable {c d : Char} {p : Char → Bool}

/-! ## Characters -/

/-- No mapping leads from beyond ASCII to a capital of it. -/
theorem lowerRuns_above_capitals : ∀ run ∈ lowerRuns,
    run.span.last < 128 ∨ 90 < Int.ofNat run.span.first + run.distance := by
  decide +kernel

theorem not_isUpper_of_code (h : 90 < c.toNat) : c.isUpper = false :=
  decide_eq_false fun hbounds => Nat.not_lt.2 (UInt32.le_iff_toNat_le.1 hbounds.2) h

theorem not_isUpper_ofNat {n : Nat} (h : 90 < n) : (Char.ofNat n).isUpper = false := by
  by_cases hvalid : n.isValidChar
  · have hcode : Char.ofNat n = Char.ofNatAux n hvalid := dif_pos hvalid
    rw [hcode]
    exact not_isUpper_of_code h
  · have hnull : Char.ofNat n = Char.ofNat 0 := dif_neg hvalid
    rw [hnull]
    rfl

/-- The characters of ASCII, by their codes. -/
theorem not_isUpper_toLower (h : c.toNat < 128) : c.toLower.isUpper = false := by
  have hall : ∀ n < 128, (Char.ofNat n).toLower.isUpper = false := by decide
  have hc := hall _ h
  rwa [Char.ofNat_toNat] at hc

theorem lt_of_shifted? {n : Nat} (hcode : ¬ c.toNat < 128)
    (h : shifted? lowerRuns c.toNat = some n) : 90 < n := by
  obtain ⟨run, hrun, rfl⟩ := Option.map_eq_some_iff.1 h
  have hspan := List.find?_some hrun
  simp only [Span.contains, Bool.and_eq_true, decide_eq_true_eq] at hspan
  obtain ⟨⟨hfirst, hlast⟩, -⟩ := hspan
  rcases lowerRuns_above_capitals run (List.mem_of_find?_eq_some hrun) with hascii | habove
  · omega
  · simp only [Int.ofNat_eq_natCast] at habove ⊢
    omega

/-- A lowered character is no capital of ASCII. -/
theorem not_isUpper_of_mem_lowerChar (h : d ∈ lowerChar c) : d.isUpper = false := by
  rw [lowerChar] at h
  split at h
  · next hcode =>
      rw [List.mem_singleton.1 h]
      exact not_isUpper_toLower hcode
  · next hcode =>
      split at h
      · simp only [List.mem_cons, List.not_mem_nil, or_false] at h
        rcases h with rfl | rfl <;> rfl
      · split at h
        · next n hshift =>
            rw [List.mem_singleton.1 h]
            exact not_isUpper_ofNat (lt_of_shifted? hcode hshift)
        · rw [List.mem_singleton.1 h]
          exact not_isUpper_of_code (by omega)

/-- The code points of blanks. -/
def blankCodes : List Nat :=
  [9, 10, 11, 12, 13, 28, 29, 30, 31, 32, 133, 160, 5760, 8192, 8193, 8194, 8195, 8196, 8197, 8198,
    8199, 8200, 8201, 8202, 8232, 8233, 8239, 8287, 12288]

theorem mem_blankCodes (h : isBlank c = true) : c.toNat ∈ blankCodes := by
  simp only [isBlank, isWhiteSpace, Bool.or_eq_true, Bool.and_eq_true, decide_eq_true_eq,
    beq_iff_eq] at h
  simp only [blankCodes, List.mem_cons, List.not_mem_nil, or_false]
  omega

theorem lowerChar_of_isBlank (h : isBlank c = true) : lowerChar c = [c] := by
  have hall : ∀ n ∈ blankCodes, lowerChar (Char.ofNat n) = [Char.ofNat n] := by decide
  have hc := hall _ (mem_blankCodes h)
  rwa [Char.ofNat_toNat] at hc

/-! ## Texts -/

theorem not_isUpper_of_mem_lowerFrom {before text : List Char} (h : d ∈ lowerFrom before text) :
    d.isUpper = false := by
  induction text generalizing before with
  | nil => cases h
  | cons c text ih =>
      rw [lowerFrom] at h
      rcases List.mem_append.1 h with h | h
      · split at h
        · rw [List.mem_singleton.1 h]
          split <;> rfl
        · exact not_isUpper_of_mem_lowerChar h
      · exact ih h

/-- A lowered text has no capital of ASCII. -/
theorem not_isUpper_of_mem_lower {text : String} (h : d ∈ (lower text).toList) :
    d.isUpper = false := by
  rw [lower, String.toList_ofList] at h
  exact not_isUpper_of_mem_lowerFrom h

theorem filter_lowerFrom (hfinal : p (Char.ofNat 0x3C2) = false)
    (hsigma : p (Char.ofNat 0x3C3) = false) (before text : List Char) :
    (lowerFrom before text).filter p = text.flatMap fun c => (lowerChar c).filter p := by
  induction text generalizing before with
  | nil => rfl
  | cons c text ih =>
      rw [lowerFrom, List.filter_append, ih, List.flatMap_cons]
      congr 1
      split
      · next hc =>
          have hlower : lowerChar capitalSigma = [Char.ofNat 0x3C3] := by decide
          rw [hc, hlower]
          split <;> simp [hfinal, hsigma]
      · rfl

/-- The characters of a class in a lowered text, if neither form of the sigma is one of them. -/
theorem filter_lower (hfinal : p (Char.ofNat 0x3C2) = false)
    (hsigma : p (Char.ofNat 0x3C3) = false) (text : String) :
    (lower text).toList.filter p = text.toList.flatMap fun c => (lowerChar c).filter p := by
  rw [lower, String.toList_ofList, filter_lowerFrom hfinal hsigma]

end CollectionQuery.Text
