import CollectionQuery.Proofs.Calendar.Writing
import CollectionQuery.Proofs.Coercion.Typed
import CollectionQuery.Proofs.Number.Digits

/-!
# Numbers and digits

An integer in a filter may be given as a number or as the text of its digits.  Both are read in the
same way: the value that comes out is the same, and so is the refusal.  There is one exception.
Zero is blank where a text is asked for, so a column of truth values refuses the number, while the
text means false.
-/

namespace CollectionQuery

open CollectionQuery.Number CollectionQuery.Calendar CollectionQuery.Text

variable {kind : ColumnKind} {column : String} {n : Int}

/-! ## Times without offsets -/

namespace Calendar

/-- Without a sign or the letter for universal time there is no offset. -/
theorem offset_of_readTime? {text : List Char} {time : TimeOfDay} {offset : Option Offset}
    (hmarks : ∀ c ∈ text, c ≠ '+' ∧ c ≠ '-' ∧ c ≠ 'Z')
    (h : readTime? text = some (time, offset)) : offset = none := by
  have htail : text.dropWhile (fun c => !(c == '+' || c == '-' || c == 'Z')) = [] := by
    refine List.dropWhile_eq_nil_iff.2 fun c hc => ?_
    simpa [and_assoc] using hmarks c hc
  obtain ⟨clock, -, h⟩ := Option.bind_eq_some_iff.1 h
  obtain ⟨t, -, h⟩ := Option.bind_eq_some_iff.1 h
  rw [htail] at h
  dsimp only at h
  split at h
  · cases h
  · cases h
    rfl

/-- The offset of a timestamp is read behind its date. -/
theorem offset_of_ofIso? {text : String} {t : Timestamp} (h : Timestamp.ofIso? text = some t) :
    t.offset = none ∨ ∃ length time,
      readTime? (perByte (text.toList.drop (length + 1))) = some (time, t.offset) := by
  obtain ⟨_, -, h⟩ := Option.bind_eq_some_iff.1 h
  obtain ⟨length, -, h⟩ := Option.bind_eq_some_iff.1 h
  obtain ⟨d, -, h⟩ := Option.bind_eq_some_iff.1 h
  split at h
  · obtain ⟨⟨time, offset⟩, htime, h⟩ := Option.bind_eq_some_iff.1 h
    cases h
    exact Or.inr ⟨length, time, htime⟩
  · cases h
    exact Or.inl rfl

end Calendar

/-- Behind its first character an integer has only digits. -/
theorem Number.isDigit_of_mem_drop {k : Nat} {c : Char} (h : c ∈ (intChars n).drop (k + 1)) :
    c.isDigit = true := by
  rw [intChars] at h
  split at h
  · exact isDigit_of_mem_digits (List.mem_of_mem_drop h)
  · exact isDigit_of_mem_digits (List.mem_of_mem_drop h)

/-- What an integer writes as a timestamp has no offset. -/
theorem Number.offset_of_intText {t : Timestamp}
    (h : Timestamp.ofIso? (Value.intText n) = some t) : t.offset = none := by
  rcases offset_of_ofIso? h with hnone | ⟨length, time, htime⟩
  · exact hnone
  · rw [toList_intText] at htime
    have hbytes : perByte ((intChars n).drop (length + 1)) = (intChars n).drop (length + 1) := by
      refine perByte_eq_self fun c hc => ?_
      have hcode := code_of_mem_intChars (List.mem_of_mem_drop hc)
      omega
    rw [hbytes] at htime
    refine offset_of_readTime? (fun c hc => ?_) htime
    have hdigit := isDigit_of_mem_drop hc
    exact ⟨ne_of_isDigit hdigit rfl, ne_of_isDigit hdigit rfl, ne_of_isDigit hdigit rfl⟩

namespace Coercion

/-! ## The readers -/

theorem orRefuse_eq_ok {α : Type} {kind : ValueKind} {o : Option α} {a : α} :
    orRefuse column kind o = .ok a ↔ o = some a := by
  cases o with
  | none => exact ⟨nofun, nofun⟩
  | some b => simp [orRefuse]

/-- Only zero is blank. -/
theorem textOrEmpty_int (h : n ≠ 0) : (Value.int n).textOrEmpty = Value.intText n :=
  if_neg fun hblank => h (beq_iff_eq.1 hblank)

theorem numeral_intText (column : String) (n : Int) :
    numeral column (.text (Value.intText n)) = .ok (Value.intText n) := by
  have hpoint : ((Value.intText n).toList.map fun c => if c = ',' then '.' else c) =
      (Value.intText n).toList := by
    refine (List.map_congr_left fun c hc => ?_).trans (List.map_id _)
    rw [toList_intText] at hc
    exact if_neg (ne_of_mem_intChars hc (by decide) (by decide))
  show (if strip (Value.intText n) = "" then refuse column .number else .ok (String.ofList
    ((strip (Value.intText n)).toList.map fun c => if c = ',' then '.' else c))) = _
  rw [strip_intText, if_neg (intText_ne_empty n), hpoint, String.ofList_toList]

/-- What is read from a numeral is read from the digits. -/
theorem numeral_bind_intText {α : Type} (read : String → Except Failure α) :
    (numeral column (.text (Value.intText n)) >>= read) = read (Value.intText n) := by
  rw [numeral_intText]
  rfl

theorem integer_intText (column : String) (bits : Nat)
    (h : (Nat.toDigits 10 n.natAbs).length ≤ integerDigitLimit) :
    integer column bits (.text (Value.intText n)) = integer column bits (.int n) := by
  refine (numeral_bind_intText fun text =>
    orRefuse column .number (readInteger? text) >>= checkInteger column bits).trans ?_
  rw [readInteger?_intText h]
  rfl

/-- A number that is too large is refused as an infinity, or because no number is near to it. -/
theorem float_intText (column : String) (n : Int) :
    float column (.text (Value.intText n)) = float column (.int n) := by
  refine (numeral_bind_intText fun text =>
    orRefuse column .number (readBinary64? text) >>= checkFloat column).trans ?_
  rw [readBinary64?_intText, Binary64.ofDecimal_zero, float, Binary64.ofInt?]
  cases Binary64.ofRatio (decide (n < 0)) n.natAbs 1 with
  | infinity negative => rfl
  | nan => rfl
  | finite negative mantissa exponent => rfl

theorem decimal_intText (column : String)
    (h : (Nat.toDigits 10 n.natAbs).length ≤ integerDigitLimit) :
    decimal column (.text (Value.intText n)) = decimal column (.int n) := by
  refine (numeral_bind_intText fun text =>
    orRefuse column .number (readDecimal? text) >>= checkDecimal column).trans ?_
  have hcheck : checkDecimal column (.ofInt n) = .ok (.ofInt n) := checkDecimal_eq_ok.2 ⟨rfl, rfl⟩
  rw [readDecimal?_intText h]
  exact hcheck

/-- A reader that asks for the text or the empty one finds the same text. -/
theorem boolean_intText (column : String) (h : n ≠ 0) :
    boolean column (.text (Value.intText n)) = boolean column (.int n) := by
  simp only [boolean, textOrEmpty_int h, Value.textOrEmpty_text]

theorem date_intText (column : String) (n : Int) :
    date column (.text (Value.intText n)) = date column (.int n) := by
  by_cases h : n = 0
  · subst h
    rfl
  · simp only [date, textOrEmpty_int h, Value.textOrEmpty_text]

theorem timestamp_intText (column : String) (n : Int) :
    timestamp column (.text (Value.intText n)) = timestamp column (.int n) := by
  by_cases h : n = 0
  · subst h
    rfl
  · simp only [timestamp, textOrEmpty_int h, Value.textOrEmpty_text]

theorem uuid_intText (column : String) (n : Int) :
    uuid column (.text (Value.intText n)) = uuid column (.int n) := by
  have htext : (Value.text (Value.intText n)).toText = Value.intText n := rfl
  have hint : (Value.int n).toText = Value.intText n := rfl
  simp only [uuid, htext, hint]

/-- An integer that is read as a date with a time has no offset. -/
theorem offset_of_timestamp_int {t : Timestamp} (h : timestamp column (.int n) = .ok t) :
    t.offset = none := by
  rw [← timestamp_intText] at h
  simp only [timestamp, Value.textOrEmpty_text, strip_intText] at h
  rw [zuluAsOffset_eq_self (by
    rw [toList_intText]
    exact fun hZ => ne_of_mem_intChars hZ (by decide) (by decide) rfl)] at h
  split at h
  · cases h
  · split at h
    · obtain ⟨d, -, rfl⟩ := Option.map_eq_some_iff.1 (orRefuse_eq_ok.1 h)
      rfl
    · exact offset_of_intText (orRefuse_eq_ok.1 h)

end Coercion

namespace ColumnKind

/-! ## Columns -/

/-- A column of its own type takes an integer and the text of its digits alike, unless it is a zero
for a truth value. -/
theorem coerce_intText (column : String) (hown : kind.hasOwnType = true)
    (hlength : (Nat.toDigits 10 n.natAbs).length ≤ integerDigitLimit)
    (hzero : ¬ (kind = .boolean ∧ n = 0)) :
    kind.coerce column (.text (Value.intText n)) = kind.coerce column (.int n) := by
  have htext : (Value.text (Value.intText n)).isNull = false := rfl
  have hint : (Value.int n).isNull = false := rfl
  rw [coerce.eq_def, coerce.eq_def, htext, hint, if_neg Bool.false_ne_true,
    if_neg Bool.false_ne_true]
  cases kind with
  | text length => cases hown
  | json => cases hown
  | boolean =>
      have hn : n ≠ 0 := fun hn => hzero ⟨rfl, hn⟩
      dsimp only
      rw [Coercion.boolean_intText column hn]
  | integer bits =>
      dsimp only
      rw [Coercion.integer_intText column bits hlength]
  | float =>
      dsimp only
      rw [Coercion.float_intText]
  | numeric =>
      dsimp only
      rw [Coercion.decimal_intText column hlength]
  | date =>
      dsimp only
      rw [Coercion.date_intText]
  | moment aware =>
      dsimp only
      rw [Coercion.moment, Coercion.timestamp_intText, Coercion.moment]
  | uuid =>
      dsimp only
      rw [Coercion.uuid_intText]

/-- An integer that a column does not take is refused; its time is universal, so it never leaves
the calendar. -/
theorem coerce_int_fails (kind : ColumnKind) (column : String) (n : Int) :
    FailsOnly Failure.IsRejected (kind.coerce column (.int n)) := by
  intro f hf
  rcases coerce_fails kind column (.int n) f hf with hrejected | ⟨-, -, t, ht, hnone⟩
  · exact hrejected
  · rw [Timestamp.toUniversal?, Coercion.offset_of_timestamp_int ht] at hnone
    cases hnone

/-- For a column of truth values, numbers, dates, dates with times or identifiers an integer and the
text of its digits have the same outcome, a value or a refusal, with the one exception of zero and a
truth value: the number is refused, and the text means false. -/
theorem coerce_digits_iff (column : String) (hown : kind.hasOwnType = true)
    (hlength : (Nat.toDigits 10 n.natAbs).length ≤ integerDigitLimit) :
    (kind.coerce column (.int n) = kind.coerce column (.text (Value.intText n)) ↔
        ¬ (kind = .boolean ∧ n = 0)) ∧
      FailsOnly Failure.IsRejected (kind.coerce column (.int n)) ∧
      FailsOnly Failure.IsRejected (kind.coerce column (.text (Value.intText n))) ∧
      (kind = .boolean ∧ n = 0 →
        kind.coerce column (.int n) = Coercion.refuse column .boolean ∧
          kind.coerce column (.text (Value.intText n)) = .ok (.bool false)) := by
  by_cases hzero : kind = .boolean ∧ n = 0
  · obtain ⟨rfl, rfl⟩ := hzero
    have hnumber : ColumnKind.boolean.coerce column (.int 0) =
        Coercion.refuse column .boolean := rfl
    have htext : ColumnKind.boolean.coerce column (.text (Value.intText 0)) =
        .ok (.bool false) := rfl
    refine ⟨⟨fun h => ?_, fun h => absurd ⟨rfl, rfl⟩ h⟩, coerce_int_fails _ _ _, ?_,
      fun _ => ⟨hnumber, htext⟩⟩
    · rw [hnumber, htext] at h
      cases h
    · rw [htext]
      exact .of_ok _
  · have hsame := coerce_intText column hown hlength hzero
    have hfails := coerce_int_fails kind column n
    exact ⟨iff_of_true hsame.symm hzero, hfails, hsame ▸ hfails, fun h => absurd h hzero⟩

/-- An integer of 33 bits is refused by a column of 32, as a number and as a text. -/
theorem coerce_digits_iff_wide :
    (Nat.toDigits 10 (4294967296 : Int).natAbs).length ≤ integerDigitLimit ∧
      (ColumnKind.integer 32).coerce "views" (.int 4294967296) =
        (ColumnKind.integer 32).coerce "views" (.text "4294967296") := by
  have hlength : (Nat.toDigits 10 (4294967296 : Int).natAbs).length ≤ integerDigitLimit := by decide
  have hdigits : Value.intText 4294967296 = "4294967296" := by decide
  have hown : (ColumnKind.integer 32).hasOwnType = true := rfl
  exact ⟨hlength, hdigits ▸ (coerce_digits_iff "views" hown hlength).1.2 fun h => nomatch h.1⟩

/-- The number zero and its text have different outcomes in a column of truth values. -/
theorem coerce_zero_differs :
    ColumnKind.boolean.coerce "published" (.int 0) = Coercion.refuse "published" .boolean ∧
      ColumnKind.boolean.coerce "published" (.text (Value.intText 0)) = .ok (.bool false) ∧
      ColumnKind.boolean.coerce "published" (.int 0) ≠
        ColumnKind.boolean.coerce "published" (.text (Value.intText 0)) := by
  exact ⟨rfl, rfl, nofun⟩

end ColumnKind

end CollectionQuery
