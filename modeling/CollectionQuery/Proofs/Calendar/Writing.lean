import CollectionQuery.Proofs.Calendar.Days
import CollectionQuery.Proofs.Calendar.IsoText
import CollectionQuery.Proofs.Text.Blank

/-!
# Dates that are written

The text of a date has ten characters, digits and dashes, and it is read back as the date.
-/

namespace CollectionQuery.Calendar

open CollectionQuery.Text

variable {text rest : List Char} {n width : Nat}

/-! ## Numbers -/

/-- Digits are read as the number that they write. -/
theorem readDigits?_append (h : IsDigits n text) (rest : List Char) :
    readDigits? n (text ++ rest) = some (Nat.ofDigitChars 10 text 0, rest) := by
  induction n generalizing text with
  | zero =>
      rw [List.eq_nil_of_length_eq_zero h.1]
      rfl
  | succ n ih =>
      obtain ⟨c, text, rfl, hc, htext⟩ := exists_cons_of_isDigits h
      have hvalue : Nat.ofDigitChars 10 (c :: text) 0 =
          (c.toNat - 48) * Nat.pow 10 n + Nat.ofDigitChars 10 text 0 := by
        rw [Nat.ofDigitChars_cons, Nat.ofDigitChars_eq_ofDigitChars_zero, htext.1, Nat.mul_zero,
          Nat.zero_add, Nat.mul_comm]
        rfl
      rw [List.cons_append, readDigits?, if_pos hc, ih htext, hvalue]
      rfl

theorem ofDigitChars_replicate_zero (count : Nat) :
    Nat.ofDigitChars 10 (List.replicate count '0') 0 = 0 := by
  induction count with
  | zero => rfl
  | succ count ih =>
      rw [List.replicate_succ, Nat.ofDigitChars_cons]
      exact ih

/-- A number that is not too large fills its place. -/
theorem isDigits_padded (hwidth : 0 < width) (h : n < Nat.pow 10 width) :
    IsDigits width (padded width n) := by
  have hlength : (Nat.toDigits 10 n).length ≤ width :=
    (Nat.length_toDigits_le_iff (by decide) hwidth).2 h
  constructor
  · rw [padded, List.length_append, List.length_replicate]
    omega
  · intro c hc
    rcases List.mem_append.1 hc with hc | hc
    · rw [List.eq_of_mem_replicate hc]
      rfl
    · exact Nat.isDigit_of_mem_toDigits (by decide) (by decide) hc

theorem ofDigitChars_padded (width n : Nat) : Nat.ofDigitChars 10 (padded width n) 0 = n := by
  rw [padded, Nat.ofDigitChars_append, ofDigitChars_replicate_zero,
    Nat.ofDigitChars_toDigits (by decide) (by decide)]

theorem readDigits?_padded (hwidth : 0 < width) (h : n < Nat.pow 10 width) (rest : List Char) :
    readDigits? width (padded width n ++ rest) = some (n, rest) := by
  rw [readDigits?_append (isDigits_padded hwidth h), ofDigitChars_padded]

/-! ## Dates -/

/-- Characters of ASCII are their own bytes. -/
theorem perByte_eq_self (h : ∀ c ∈ text, c.toNat < 128) : perByte text = text := by
  rw [perByte, List.flatMap_congr fun c hc => if_pos (h c hc), List.flatMap_singleton']

namespace Date

variable (d : Date)

theorem ofParts?_self : ofParts? d.year d.month d.day = some d := by
  rw [ofParts?, dif_pos d.year_ok, dif_pos d.month_ok, dif_pos d.day_ok]

theorem year_lt : d.year < Nat.pow 10 4 :=
  Nat.lt_succ_of_le d.year_ok.2

theorem month_lt : d.month < Nat.pow 10 2 :=
  Nat.lt_of_le_of_lt d.month_ok.2 (by decide)

theorem day_lt : d.day < Nat.pow 10 2 :=
  Nat.lt_of_le_of_lt d.day_le (by decide)

theorem isoChars_eq : d.isoChars =
    padded 4 d.year ++ '-' :: (padded 2 d.month ++ '-' :: padded 2 d.day) := by
  rw [isoChars, List.append_assoc, List.cons_append]

/-- A date is written in the form with dashes. -/
theorem dateForm_isoChars : DateForm 10 d.isoChars := by
  rw [isoChars_eq]
  exact .dashed (isDigits_padded (by decide) d.year_lt) (isDigits_padded (by decide) d.month_lt)
    (isDigits_padded (by decide) d.day_lt)

theorem length_isoChars : d.isoChars.length = 10 := by
  have hyear := (isDigits_padded (by decide) d.year_lt).1
  have hmonth := (isDigits_padded (by decide) d.month_lt).1
  have hday := (isDigits_padded (by decide) d.day_lt).1
  rw [isoChars_eq, List.length_append, List.length_cons, List.length_append, List.length_cons]
  omega

/-- A date is read back from the form with dashes. -/
theorem readDateOfLength?_isoChars (length : Nat) :
    readDateOfLength? d.isoChars length = some d := by
  -- The reader looks for the letter of a week where the month begins.
  obtain ⟨m, m', hmonth, hm, -⟩ := eq_pair_of_isDigits (isDigits_padded (by decide) d.month_lt)
  have hW : m ≠ 'W' := ne_of_isDigit hm rfl
  have hread (rest : List Char) : readDigits? 2 (m :: m' :: rest) = some (d.month, rest) := by
    have hpadded := readDigits?_padded (by decide) d.month_lt rest
    rwa [hmonth] at hpadded
  have hday : readDigits? 2 (padded 2 d.day) = some (d.day, []) := by
    have hpadded := readDigits?_padded (by decide) d.day_lt []
    rwa [List.append_nil] at hpadded
  rw [isoChars_eq, readDateOfLength?, readDigits?_padded (by decide) d.year_lt, hmonth]
  simp [hW, hread, hday, ofParts?_self]

/-- The codes of the characters of a date. -/
theorem code_of_mem_isoChars {c : Char} (h : c ∈ d.isoChars) :
    48 ≤ c.toNat ∧ c.toNat ≤ 57 ∨ c.toNat = 45 ∨ c.toNat = 87 := by
  rcases mem_dateForm d.dateForm_isoChars h with hdigit | rfl | rfl
  · exact Or.inl (code_of_isDigit hdigit)
  · exact Or.inr (Or.inl rfl)
  · exact Or.inr (Or.inr rfl)

theorem perByte_isoChars : perByte d.isoChars = d.isoChars :=
  perByte_eq_self fun _ hc => by have := d.code_of_mem_isoChars hc; omega

/-- A date is read back from its text. -/
theorem ofIso?_isoText : ofIso? d.isoText = some d := by
  rw [ofIso?, isoText, String.toList_ofList, perByte_isoChars, d.length_isoChars]
  exact d.readDateOfLength?_isoChars 10

theorem length_isoText : d.isoText.length = 10 := by
  rw [isoText, String.length_ofList, length_isoChars]

theorem strip_isoText : strip d.isoText = d.isoText := by
  refine strip_eq_self fun c hc => ?_
  rw [isoText, String.toList_ofList] at hc
  have hcode := d.code_of_mem_isoChars hc
  exact not_blank_of_code (by omega)

theorem hasTime_isoText : Coercion.hasTime d.isoText = false := by
  rw [Coercion.hasTime, isoText, String.toList_ofList, List.any_eq_false]
  intro c hc htime
  have hcode := d.code_of_mem_isoChars hc
  rw [Bool.or_eq_true, beq_iff_eq, beq_iff_eq] at htime
  rcases htime with rfl | rfl
  · exact absurd hcode (by decide)
  · exact absurd hcode (by decide)

end Date

end CollectionQuery.Calendar
