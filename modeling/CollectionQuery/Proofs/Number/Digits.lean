import CollectionQuery.Number.Reading
import CollectionQuery.Proofs.Page
import CollectionQuery.Proofs.Text.Blank
import CollectionQuery.Proofs.Text.Pattern
import CollectionQuery.Value.Text

/-!
# Integers that are written

An integer is written with the digits of its size and a minus in front if it is negative.  The
readers of integers, of floating point numbers and of decimal numbers all read it back: as itself if
it is not too long, as the floating point number nearest to it, and with its digits.  A number of
more than 400 digits is beyond the greatest floating point number.
-/

namespace CollectionQuery.Number

open CollectionQuery.Text

variable {n : Int} {c : Char} {digits : List Char}

/-! ## The characters -/

/-- The characters of an integer. -/
def intChars (n : Int) : List Char := (if n < 0 then ['-'] else []) ++ Nat.toDigits 10 n.natAbs

theorem toList_intText (n : Int) : (Value.intText n).toList = intChars n := String.toList_ofList

theorem isDigit_of_mem_digits (h : c ∈ Nat.toDigits 10 n.natAbs) : c.isDigit = true :=
  Nat.isDigit_of_mem_toDigits (by decide) (by decide) h

theorem all_isDigit (n : Int) : (Nat.toDigits 10 n.natAbs).all Char.isDigit = true :=
  List.all_eq_true.2 fun _ hc => isDigit_of_mem_digits hc

theorem mem_intChars (h : c ∈ intChars n) : c = '-' ∨ c.isDigit = true := by
  rcases List.mem_append.1 h with h | h
  · split at h
    · exact Or.inl (List.mem_singleton.1 h)
    · cases h
  · exact Or.inr (isDigit_of_mem_digits h)

/-- The characters of an integer are in ASCII, none of them a blank or a letter. -/
theorem code_of_mem_intChars (h : c ∈ intChars n) :
    c.toNat = 45 ∨ 48 ≤ c.toNat ∧ c.toNat ≤ 57 := by
  rcases mem_intChars h with rfl | h
  · exact Or.inl rfl
  · exact Or.inr (code_of_isDigit h)

theorem not_blank_of_mem_intChars (h : c ∈ intChars n) : isBlank c = false := by
  have hcode := code_of_mem_intChars h
  exact not_blank_of_code (by omega)

theorem ne_of_mem_intChars {d : Char} (h : c ∈ intChars n) (hdash : d ≠ '-')
    (hdigit : d.isDigit = false) : c ≠ d := by
  rintro rfl
  rcases mem_intChars h with h | h
  · exact hdash h
  · rw [hdigit] at h
    cases h

theorem strip_intText (n : Int) : strip (Value.intText n) = Value.intText n :=
  strip_eq_self fun _ hc => not_blank_of_mem_intChars (toList_intText n ▸ hc)

theorem intText_ne_empty (n : Int) : Value.intText n ≠ "" := by
  intro h
  have hchars := toList_intText n
  rw [h] at hchars
  exact Nat.toDigits_ne_nil (List.append_eq_nil_iff.1 hchars.symm).2

/-! ## Sign and digits -/

/-- A digit is no sign. -/
theorem splitSign_of_isDigit (h : c.isDigit = true) (rest : List Char) :
    splitSign (c :: rest) = (false, c :: rest) := by
  rw [splitSign.eq_def]
  split
  · next heq =>
      rw [(List.cons.inj heq).1] at h
      cases h
  · next heq =>
      rw [(List.cons.inj heq).1] at h
      cases h
  · rfl

theorem splitSign_intChars (n : Int) :
    splitSign (intChars n) = (decide (n < 0), Nat.toDigits 10 n.natAbs) := by
  rw [intChars]
  by_cases hn : n < 0
  · rw [if_pos hn, decide_eq_true hn]
    rfl
  · rw [if_neg hn, decide_eq_false hn]
    have hne : Nat.toDigits 10 n.natAbs ≠ [] := Nat.toDigits_ne_nil
    obtain ⟨d, rest, hdigits⟩ := List.exists_cons_of_ne_nil hne
    have hd : d.isDigit = true := isDigit_of_mem_digits (hdigits ▸ List.mem_cons_self)
    rw [List.nil_append, hdigits, splitSign_of_isDigit hd]

theorem ofDigits_eq (digits : List Char) : ofDigits digits = Nat.ofDigitChars 10 digits 0 := by
  have hstep : (fun (k : Nat) (c : Char) => k * 10 + (c.toNat - 48)) =
      fun k c => 10 * k + (c.toNat - '0'.toNat) := by
    funext k c
    rw [Nat.mul_comm]
    rfl
  rw [ofDigits, Nat.ofDigitChars, hstep]

theorem ofDigits_toDigits (k : Nat) : ofDigits (Nat.toDigits 10 k) = k := by
  rw [ofDigits_eq, Nat.ofDigitChars_toDigits (by decide) (by decide)]

/-- The sign before the digits of an integer gives it back. -/
theorem negate_natAbs (n : Int) :
    (if decide (n < 0) = true then -(n.natAbs : Int) else n.natAbs) = n := by
  split
  · next h =>
      have hn := of_decide_eq_true h
      omega
  · next h =>
      have hn : ¬ n < 0 := fun hn => h (decide_eq_true hn)
      omega

/-! ## Reading -/

theorem map_asciiChar_intChars (n : Int) : (intChars n).map asciiChar = intChars n := by
  refine (List.map_congr_left fun c hc => ?_).trans (List.map_id _)
  have hcode := code_of_mem_intChars hc
  exact if_pos (by omega)

/-- The readers take the characters of an integer as they are. -/
theorem asciiForm_intChars (n : Int) : asciiForm (intChars n) = intChars n := by
  rw [asciiForm, map_asciiChar_intChars]
  refine trimChars_eq_self fun c hc => ?_
  have hcode := code_of_mem_intChars hc
  have hspace : c ≠ ' ' := ne_of_mem_intChars hc (by decide) (by decide)
  simp only [isAsciiSpace, Bool.or_eq_false_iff, beq_eq_false_iff_ne, Bool.and_eq_false_iff,
    decide_eq_false_iff_not]
  exact ⟨hspace, by omega⟩

theorem underscoresBetween_of_not_mem {isDigit : Char → Bool} (h : '_' ∉ digits)
    (before : Bool) : underscoresBetween isDigit before digits = true := by
  induction digits generalizing before with
  | nil => rfl
  | cons c rest ih =>
      obtain ⟨hc, hrest⟩ := not_or.1 (mt List.mem_cons.2 h)
      rw [underscoresBetween.eq_def]
      split
      · next heq => cases heq
      · next heq => exact absurd (List.cons.inj heq).1.symm hc
      · next heq =>
          obtain ⟨rfl, rfl⟩ := List.cons.inj heq
          exact ih hrest _

theorem filter_underscore_intChars (n : Int) : (intChars n).filter (· ≠ '_') = intChars n := by
  refine List.filter_eq_self.2 fun c hc => ?_
  exact decide_eq_true (ne_of_mem_intChars hc (by decide) (by decide))

theorem dropUnderscores?_intChars (n : Int) :
    dropUnderscores? Char.isDigit (intChars n) = some (intChars n) := by
  have hnone : '_' ∉ intChars n := fun h => ne_of_mem_intChars h (by decide) (by decide) rfl
  rw [dropUnderscores?, if_pos (underscoresBetween_of_not_mem hnone false),
    filter_underscore_intChars]

/-- An integer that is not too long is read back. -/
theorem readInteger?_intText (h : (Nat.toDigits 10 n.natAbs).length ≤ integerDigitLimit) :
    readInteger? (Value.intText n) = some n := by
  rw [readInteger?, toList_intText, asciiForm_intChars, dropUnderscores?_intChars]
  simp only [Option.bind_eq_bind, Option.bind_some, splitSign_intChars]
  rw [guard, if_pos ⟨Nat.toDigits_ne_nil, all_isDigit n, h⟩, ofDigits_toDigits]
  exact congrArg some (negate_natAbs n)

/-- A number that is written with a sign and digits has no places and no power. -/
theorem readNumeral?_intChars (n : Int) : readNumeral? (intChars n) =
    some ⟨decide (n < 0), Nat.toDigits 10 n.natAbs, [], 0⟩ := by
  have htake : (Nat.toDigits 10 n.natAbs).takeWhile Char.isDigit = Nat.toDigits 10 n.natAbs :=
    List.takeWhile_eq_self_iff.2 fun _ => isDigit_of_mem_digits
  have hdrop : (Nat.toDigits 10 n.natAbs).dropWhile Char.isDigit = [] :=
    List.dropWhile_eq_nil_iff.2 fun _ => isDigit_of_mem_digits
  simp only [readNumeral?, splitSign_intChars, htake, hdrop, guard]
  rw [if_pos (Or.inl Nat.toDigits_ne_nil)]
  rfl

theorem map_toLower_digits (n : Int) :
    (Nat.toDigits 10 n.natAbs).map Char.toLower = Nat.toDigits 10 n.natAbs := by
  refine (List.map_congr_left fun c hc => ?_).trans (List.map_id _)
  have hcode := code_of_isDigit (isDigit_of_mem_digits hc)
  rcases toLower_cases c with hsame | ⟨hupper, -⟩
  · exact hsame
  · omega

/-- Digits do not begin with a word. -/
theorem take_digits_ne (n : Int) (count : Nat) {word : List Char} (hc : c ∈ word)
    (hletter : c.isDigit = false) : (Nat.toDigits 10 n.natAbs).take count ≠ word := by
  rintro rfl
  rw [isDigit_of_mem_digits (List.mem_of_mem_take hc)] at hletter
  cases hletter

theorem digits_ne (n : Int) {word : List Char} (hc : c ∈ word) (hletter : c.isDigit = false) :
    Nat.toDigits 10 n.natAbs ≠ word := by
  rintro rfl
  rw [isDigit_of_mem_digits hc] at hletter
  cases hletter

/-- Digits are not the name of an infinity. -/
theorem digits_ne_infinity (n : Int) : ¬ (Nat.toDigits 10 n.natAbs = "inf".toList ∨
    Nat.toDigits 10 n.natAbs = "infinity".toList) :=
  not_or.2 ⟨digits_ne n (c := 'i') (by decide) (by decide),
    digits_ne n (c := 'i') (by decide) (by decide)⟩

/-- An integer is read as the floating point number that its digits write. -/
theorem readBinary64?_intText (n : Int) : readBinary64? (Value.intText n) =
    some (Binary64.ofDecimal (decide (n < 0)) n.natAbs 0) := by
  have hnan : Nat.toDigits 10 n.natAbs ≠ "nan".toList :=
    digits_ne n (c := 'n') (by decide) (by decide)
  rw [readBinary64?, toList_intText, asciiForm_intChars, dropUnderscores?_intChars]
  simp only [Option.bind_eq_bind, Option.bind_some, readPlainBinary64?, splitSign_intChars,
    map_toLower_digits]
  rw [if_neg (digits_ne_infinity n), if_neg hnan, readNumeral?_intChars]
  simp [Numeral.digits, Numeral.exponent, ofDigits_toDigits]

theorem digitCount_le_length (b k : Nat) : digitCount b k ≤ (Nat.toDigits b k).length := by
  rw [digitCount]
  split
  · exact Nat.zero_le _
  · exact Nat.le_refl _

/-- An integer that is not too long is read as the decimal number with its digits. -/
theorem readDecimal?_intText (h : (Nat.toDigits 10 n.natAbs).length ≤ integerDigitLimit) :
    readDecimal? (Value.intText n) = some (.ofInt n) := by
  have hblank : trimChars isBlank (intChars n) = intChars n :=
    trimChars_eq_self fun _ hc => not_blank_of_mem_intChars hc
  have hnan : (Nat.toDigits 10 n.natAbs).take 3 ≠ "nan".toList :=
    take_digits_ne n 3 (c := 'n') (by decide) (by decide)
  have hsnan : (Nat.toDigits 10 n.natAbs).take 4 ≠ "snan".toList :=
    take_digits_ne n 4 (c := 'n') (by decide) (by decide)
  have hcount := (digitCount_le_length 10 n.natAbs).trans h
  rw [integerDigitLimit] at hcount
  simp only [readDecimal?, toList_intText, hblank, map_asciiChar_intChars,
    filter_underscore_intChars, splitSign_intChars, map_toLower_digits]
  rw [if_neg (digits_ne_infinity n), if_neg fun h => hnan h.1, if_neg fun h => hsnan h.1,
    readNumeral?_intChars]
  simp only [Option.bind_eq_bind, Option.bind_some, Numeral.digits, Numeral.exponent,
    List.append_nil, ofDigits_toDigits, List.length_nil, guard, decimalExponentLimit]
  rw [if_pos (by omega)]
  rfl

/-! ## Rounding -/

/-- A natural number that is not below a power of two has more digits than the power. -/
theorem lt_digitCount {k bits : Nat} (h : 2 ^ bits ≤ k) : bits < digitCount 2 k := by
  have hpos : 0 < k := Nat.lt_of_lt_of_le (Nat.two_pow_pos bits) h
  rw [digitCount, if_neg hpos.ne']
  rcases Nat.eq_zero_or_pos bits with rfl | hbits
  · exact List.length_pos_iff.2 Nat.toDigits_ne_nil
  · by_contra hshort
    exact absurd ((Nat.length_toDigits_le_iff (by decide) hbits).1 (not_lt.1 hshort)) (not_lt.2 h)

/-- A natural number of more than 400 digits rounds to an infinity. -/
theorem Binary64.ofRatio_eq_infinity {k : Nat} (h : 10 ^ 400 ≤ k) (negative : Bool) :
    ofRatio negative k 1 = .infinity negative := by
  have hpower : 2 ^ (11 * 100) ≤ 10 ^ 400 := by
    rw [show 400 = 4 * 100 from rfl, Nat.pow_mul, Nat.pow_mul]
    exact Nat.pow_le_pow_left (by decide) 100
  have hbits : 11 * 100 < digitCount 2 k := lt_digitCount (hpower.trans h)
  have hpos : k ≠ 0 := by
    rintro rfl
    exact absurd hbits (by decide)
  have hone : digitCount 2 1 = 1 := by decide
  have hmagnitude : (1100 : Int) ≤ magnitude 2 k 1 := by
    simp only [magnitude, hone]
    split <;> omega
  have hcarry : ∀ (carried : Prop) [Decidable carried] (exponent : Int),
      exponent ≤ if carried then exponent + 1 else exponent := by
    intro carried _ exponent
    split <;> omega
  rw [ofRatio, if_neg hpos]
  dsimp only
  rw [if_pos]
  refine lt_of_lt_of_le ?_ (hcarry _ _)
  simp only [maxExponent, minExponent]
  omega

/-- The floating point number nearest to an integer is the one that its digits write. -/
theorem Binary64.ofDecimal_zero (negative : Bool) (k : Nat) :
    ofDecimal negative k 0 = ofRatio negative k 1 := by
  rw [ofDecimal]
  by_cases hk : k = 0
  · rw [if_pos hk, hk, ofRatio, if_pos rfl]
  rw [if_neg hk]
  dsimp only
  by_cases hsize : 400 < (digitCount 10 k : Int) + 0
  · rw [if_pos hsize, ofRatio_eq_infinity]
    rw [digitCount, if_neg hk] at hsize
    by_contra hsmall
    have hshort := (Nat.length_toDigits_le_iff (by decide) (by decide)).2 (not_le.1 hsmall)
    omega
  · rw [if_neg hsize, if_neg (by omega)]
    rfl

end CollectionQuery.Number
