import CollectionQuery.Calendar.IsoText
import CollectionQuery.Coercion
import Mathlib.Data.List.TakeWhile
import Mathlib.Tactic.Tauto

/-!
# Dates in front of a text

A text that begins with a date begins with one of six forms, and the length of the date is found if
neither a digit nor a dash follows.  So a text that writes a date alone, and not in ten characters,
means the start of this date where a time may follow too, or cannot be read there: a date of eight
characters may be followed by one more of two bytes, and then the time is missing.
-/

namespace CollectionQuery.Calendar

variable {text front rest : List Char} {n length : Nat}

/-! ## Digits -/

/-- A number of digits. -/
def IsDigits (n : Nat) (text : List Char) : Prop :=
  text.length = n ∧ ∀ c ∈ text, c.isDigit = true

theorem isDigits_cons {c : Char} (hc : c.isDigit = true) (h : IsDigits n text) :
    IsDigits (n + 1) (c :: text) :=
  ⟨congrArg (· + 1) h.1, List.forall_mem_cons.2 ⟨hc, h.2⟩⟩

theorem exists_cons_of_isDigits (h : IsDigits (n + 1) text) :
    ∃ c rest, text = c :: rest ∧ c.isDigit = true ∧ IsDigits n rest := by
  obtain ⟨c, rest, rfl⟩ := List.exists_cons_of_length_eq_add_one h.1
  obtain ⟨hc, hrest⟩ := List.forall_mem_cons.1 h.2
  exact ⟨c, rest, rfl, hc, Nat.succ.inj h.1, hrest⟩

theorem eq_pair_of_isDigits (h : IsDigits 2 text) :
    ∃ a b, text = [a, b] ∧ a.isDigit = true ∧ b.isDigit = true := by
  obtain ⟨a, text, rfl, ha, htext⟩ := exists_cons_of_isDigits h
  obtain ⟨b, text, rfl, hb, hnil⟩ := exists_cons_of_isDigits htext
  exact ⟨a, b, by rw [List.eq_nil_of_length_eq_zero hnil.1], ha, hb⟩

theorem eq_four_of_isDigits (h : IsDigits 4 text) : ∃ a b c d, text = [a, b, c, d] := by
  obtain ⟨a, text, rfl, -, htext⟩ := exists_cons_of_isDigits h
  obtain ⟨b, text, rfl, -, htext⟩ := exists_cons_of_isDigits htext
  obtain ⟨c, d, rfl, -, -⟩ := eq_pair_of_isDigits htext
  exact ⟨a, b, c, d, rfl⟩

theorem eq_singleton_of_isDigits (h : IsDigits 1 text) : ∃ a, text = [a] ∧ a.isDigit = true := by
  obtain ⟨a, text, rfl, ha, hnil⟩ := exists_cons_of_isDigits h
  exact ⟨a, by rw [List.eq_nil_of_length_eq_zero hnil.1], ha⟩

theorem ne_of_isDigit {c d : Char} (hc : c.isDigit = true) (hd : d.isDigit = false) : c ≠ d := by
  rintro rfl
  rw [hc] at hd
  cases hd

theorem isDigits_of_readDigits? {k : Nat} (h : readDigits? n text = some (k, rest)) :
    ∃ digits, IsDigits n digits ∧ text = digits ++ rest := by
  induction n generalizing text k with
  | zero =>
      cases h
      exact ⟨[], ⟨rfl, List.forall_mem_nil _⟩, rfl⟩
  | succ n ih =>
      cases text with
      | nil => cases h
      | cons c text =>
          rw [readDigits?] at h
          split at h
          · next hc =>
              obtain ⟨⟨k, rest⟩, hrest, heq⟩ := Option.map_eq_some_iff.1 h
              cases heq
              obtain ⟨digits, hdigits, rfl⟩ := ih hrest
              exact ⟨c :: digits, isDigits_cons hc hdigits, rfl⟩
          · cases h

/-- What is read behind a number is read behind its digits. -/
theorem readDigits?_bind {α : Type} {f : Nat × List Char → Option α} {a : α}
    (h : (readDigits? n text).bind f = some a) :
    ∃ digits k rest, IsDigits n digits ∧ text = digits ++ rest ∧ f (k, rest) = some a := by
  obtain ⟨⟨k, rest⟩, hread, hrest⟩ := Option.bind_eq_some_iff.1 h
  obtain ⟨digits, hdigits, htext⟩ := isDigits_of_readDigits? hread
  exact ⟨digits, k, rest, hdigits, htext, hrest⟩

/-! ## Characters and bytes -/

theorem perByte_cons (c : Char) (text : List Char) : perByte (c :: text) =
    (if c.toNat < 128 then [c] else List.replicate c.utf8Size replacement) ++ perByte text := rfl

/-- Characters up to the first one beyond ASCII are their own bytes. -/
theorem perByte_eq_append (h : perByte text = front ++ rest) (hfront : replacement ∉ front) :
    ∃ tail, text = front ++ tail ∧ perByte tail = rest := by
  induction front generalizing text with
  | nil => exact ⟨text, rfl, h⟩
  | cons c front ih =>
      cases text with
      | nil => cases h
      | cons d text =>
          rw [perByte_cons] at h
          split at h
          · obtain ⟨rfl, hrest⟩ : d = c ∧ perByte text = front ++ rest := List.cons.inj h
            obtain ⟨tail, rfl, htail⟩ := ih hrest (List.not_mem_of_not_mem_cons hfront)
            exact ⟨tail, rfl, htail⟩
          · obtain ⟨size, hsize⟩ := Nat.exists_eq_add_of_lt d.utf8Size_pos
            rw [hsize, Nat.zero_add, List.replicate_succ] at h
            exact absurd (List.cons.inj h).1 (List.ne_of_not_mem_cons hfront)

theorem length_le_perByte (text : List Char) : text.length ≤ (perByte text).length := by
  induction text with
  | nil => exact Nat.zero_le _
  | cons c text ih =>
      have hsize := c.utf8Size_pos
      rw [perByte_cons, List.length_append, List.length_cons]
      split
      · rw [List.length_singleton]
        omega
      · rw [List.length_replicate]
        omega

/-! ## The forms of a date -/

/-- What a date is written as where `length` characters are set aside for it. -/
inductive DateForm (length : Nat) : List Char → Prop where
  | plain {year month day : List Char} (hyear : IsDigits 4 year) (hmonth : IsDigits 2 month)
      (hday : IsDigits 2 day) : DateForm length (year ++ (month ++ day))
  | dashed {year month day : List Char} (hyear : IsDigits 4 year) (hmonth : IsDigits 2 month)
      (hday : IsDigits 2 day) : DateForm length (year ++ '-' :: (month ++ '-' :: day))
  | week {year week : List Char} (hyear : IsDigits 4 year) (hweek : IsDigits 2 week)
      (hlength : length ≤ 7) : DateForm length (year ++ 'W' :: week)
  | weekday {year week day : List Char} (hyear : IsDigits 4 year) (hweek : IsDigits 2 week)
      (hday : IsDigits 1 day) (hlength : 7 < length) :
      DateForm length (year ++ 'W' :: (week ++ day))
  | dashedWeek {year week : List Char} (hyear : IsDigits 4 year) (hweek : IsDigits 2 week)
      (hlength : length ≤ 8) : DateForm length (year ++ '-' :: 'W' :: week)
  | dashedWeekday {year week day : List Char} (hyear : IsDigits 4 year) (hweek : IsDigits 2 week)
      (hday : IsDigits 1 day) (hlength : 8 < length) :
      DateForm length (year ++ '-' :: 'W' :: (week ++ '-' :: day))

/-- The first character is a dash, or it is not and stays. -/
theorem dash_cases (text : List Char) : (text.head? == some '-') = false ∨
    ∃ rest, text = '-' :: rest := by
  cases text with
  | nil => exact Or.inl rfl
  | cons c rest =>
      by_cases hc : c = '-'
      · exact Or.inr ⟨rest, by rw [hc]⟩
      · exact Or.inl (by simpa using hc)

/-- A dash that has to be there is passed over. -/
theorem dash_bind {α : Type} {f : List Char → Option α} {a : α}
    (h : (if (text.head? == some '-') = true then some (text.drop 1) else none).bind f = some a) :
    ∃ rest, text = '-' :: rest ∧ f rest = some a := by
  rcases dash_cases text with hdash | ⟨rest, rfl⟩
  · rw [hdash] at h
    cases h
  · exact ⟨rest, rfl, h⟩

/-- A text from which a date is read begins with one of the forms. -/
theorem dateForm_of_readDateOfLength? {d : Date} (h : readDateOfLength? text length = some d) :
    ∃ front rest, text = front ++ rest ∧ DateForm length front := by
  obtain ⟨year, y, afterYear, hyear, rfl, hdate⟩ := readDigits?_bind h
  clear h
  have hfour := hyear.1
  rcases dash_cases afterYear with hdash | ⟨afterDash, rfl⟩
  · simp only [hdash, Bool.false_eq_true, if_false] at hdate
    split at hdate
    · obtain ⟨week, w, afterWeek, hweek, rfl, hdate⟩ := readDigits?_bind hdate
      have htwo := hweek.1
      split at hdate
      · next hlength =>
          obtain ⟨day, k, rest, hday, heq, -⟩ := readDigits?_bind hdate
          obtain rfl : afterWeek = day ++ rest := heq
          refine ⟨_, rest, ?_, .weekday hyear hweek hday ?_⟩
          · simp
          · simp only [List.length_append, List.length_cons] at hlength
            omega
      · next hlength =>
          refine ⟨_, afterWeek, ?_, .week hyear hweek ?_⟩
          · simp
          · simp only [List.length_append, List.length_cons] at hlength
            omega
    · obtain ⟨month, m, afterMonth, hmonth, rfl, hafter⟩ := readDigits?_bind hdate
      obtain ⟨day, k, rest, hday, heq, -⟩ := readDigits?_bind hafter
      obtain rfl : afterMonth = day ++ rest := heq
      exact ⟨_, rest, by simp, .plain hyear hmonth hday⟩
  · simp only [List.head?_cons, BEq.rfl, if_true, List.drop_succ_cons, List.drop_zero] at hdate
    split at hdate
    · obtain ⟨week, w, afterWeek, hweek, rfl, hdate⟩ := readDigits?_bind hdate
      have htwo := hweek.1
      split at hdate
      · next hlength =>
          obtain ⟨afterDash, heq, hdate⟩ := dash_bind hdate
          obtain rfl : afterWeek = '-' :: afterDash := heq
          obtain ⟨day, k, rest, hday, rfl, -⟩ := readDigits?_bind hdate
          refine ⟨_, rest, ?_, .dashedWeekday hyear hweek hday ?_⟩
          · simp
          · simp only [List.length_append, List.length_cons] at hlength
            omega
      · next hlength =>
          refine ⟨_, afterWeek, ?_, .dashedWeek hyear hweek ?_⟩
          · simp
          · simp only [List.length_append, List.length_cons] at hlength
            omega
    · obtain ⟨month, m, afterMonth, hmonth, rfl, hafter⟩ := readDigits?_bind hdate
      obtain ⟨afterDash, heq, hafter⟩ := dash_bind hafter
      obtain rfl : afterMonth = '-' :: afterDash := heq
      obtain ⟨day, k, rest, hday, rfl, -⟩ := readDigits?_bind hafter
      exact ⟨_, rest, by simp, .dashed hyear hmonth hday⟩

/-- The length of a date is found if neither a digit nor a dash follows it. -/
theorem dateLength?_of_dateForm (h : DateForm length front)
    (hrest : ∀ c ∈ rest.head?, c.isDigit = false ∧ c ≠ '-') :
    dateLength? (front ++ rest) = some front.length := by
  have hdigit : ∀ c ∈ rest.head?, c.isDigit = false := fun c hc => (hrest c hc).1
  have hnone : rest.takeWhile Char.isDigit = [] := by
    cases rest with
    | nil => rfl
    | cons c rest => exact List.takeWhile_cons_of_neg (by simp [hdigit c rfl])
  cases h with
  | plain hyear hmonth hday =>
      obtain ⟨_, _, _, _, rfl⟩ := eq_four_of_isDigits hyear
      obtain ⟨m, _, rfl, hm, -⟩ := eq_pair_of_isDigits hmonth
      obtain ⟨_, _, rfl, -, -⟩ := eq_pair_of_isDigits hday
      have hdash : m ≠ '-' := ne_of_isDigit hm rfl
      have hW : m ≠ 'W' := ne_of_isDigit hm rfl
      simp [dateLength?, hdash, hW]
  | dashed hyear hmonth hday =>
      obtain ⟨_, _, _, _, rfl⟩ := eq_four_of_isDigits hyear
      obtain ⟨m, _, rfl, hm, -⟩ := eq_pair_of_isDigits hmonth
      obtain ⟨_, _, rfl, -, -⟩ := eq_pair_of_isDigits hday
      have hW : m ≠ 'W' := ne_of_isDigit hm rfl
      simp [dateLength?, hW]
  | week hyear hweek _ =>
      obtain ⟨_, _, _, _, rfl⟩ := eq_four_of_isDigits hyear
      obtain ⟨_, _, rfl, -, -⟩ := eq_pair_of_isDigits hweek
      simp [dateLength?, hnone]
  | weekday hyear hweek hday _ =>
      obtain ⟨_, _, _, _, rfl⟩ := eq_four_of_isDigits hyear
      obtain ⟨_, _, rfl, -, -⟩ := eq_pair_of_isDigits hweek
      obtain ⟨w, rfl, hw⟩ := eq_singleton_of_isDigits hday
      simp [dateLength?, hw, hnone]
  | dashedWeek hyear hweek _ =>
      obtain ⟨_, _, _, _, rfl⟩ := eq_four_of_isDigits hyear
      obtain ⟨_, _, rfl, -, -⟩ := eq_pair_of_isDigits hweek
      have hdash : rest[0]? ≠ some '-' := by
        rw [← List.head?_eq_getElem?]
        exact fun h => (hrest '-' h).2 rfl
      simp [dateLength?, hdash]
  | dashedWeekday hyear hweek hday _ =>
      obtain ⟨_, _, _, _, rfl⟩ := eq_four_of_isDigits hyear
      obtain ⟨_, _, rfl, -, -⟩ := eq_pair_of_isDigits hweek
      obtain ⟨w, rfl, hw⟩ := eq_singleton_of_isDigits hday
      have hother : (rest[0]?.map Char.isDigit).getD false = false := by
        cases rest with
        | nil => rfl
        | cons c rest => exact hdigit c rfl
      simp [dateLength?, hother]

/-- A form has no characters but digits, dashes and the letter for weeks. -/
theorem mem_dateForm (h : DateForm length front) {c : Char} (hc : c ∈ front) :
    c.isDigit = true ∨ c = '-' ∨ c = 'W' := by
  cases h with
  | plain hyear hmonth hday | dashed hyear hmonth hday =>
      have := hyear.2 c
      have := hmonth.2 c
      have := hday.2 c
      simp only [List.mem_append, List.mem_cons] at hc
      tauto
  | week hyear hweek _ | dashedWeek hyear hweek _ =>
      have := hyear.2 c
      have := hweek.2 c
      simp only [List.mem_append, List.mem_cons] at hc
      tauto
  | weekday hyear hweek hday _ | dashedWeekday hyear hweek hday _ =>
      have := hyear.2 c
      have := hweek.2 c
      have := hday.2 c
      simp only [List.mem_append, List.mem_cons] at hc
      tauto

theorem not_mem_dateForm (h : DateForm length front) {c : Char} (hdigit : c.isDigit = false)
    (hdash : c ≠ '-') (hW : c ≠ 'W') : c ∉ front := by
  intro hc
  rcases mem_dateForm h hc with hc | hc | hc
  · rw [hdigit] at hc
    cases hc
  · exact hdash hc
  · exact hW hc

/-- A form fills what is set aside for it, but for one of eight characters. -/
theorem length_dateForm (h : DateForm length front) (hle : front.length ≤ length)
    (hlength : length = 7 ∨ length = 8 ∨ length = 10) :
    front.length = length ∨ front.length = 8 ∧ length = 10 := by
  cases h with
  | plain hyear hmonth hday | dashed hyear hmonth hday =>
      have := hyear.1
      have := hmonth.1
      have := hday.1
      simp only [List.length_append, List.length_cons] at *
      omega
  | week hyear hweek _ | dashedWeek hyear hweek _ =>
      have := hyear.1
      have := hweek.1
      simp only [List.length_append, List.length_cons] at *
      omega
  | weekday hyear hweek hday _ | dashedWeekday hyear hweek hday _ =>
      have := hyear.1
      have := hweek.1
      have := hday.1
      simp only [List.length_append, List.length_cons] at *
      omega

/-! ## Dates alone -/

theorem zuluAsOffset_eq_self {text : String} (h : 'Z' ∉ text.toList) :
    Coercion.zuluAsOffset text = text := by
  have hself : Text.replaceChar 'Z' "+00:00".toList text.toList = text.toList := by
    rw [Text.replaceChar, List.flatMap_def,
      List.map_congr_left fun c hc => if_neg fun hZ : c = 'Z' => h (hZ ▸ hc), ← List.flatMap_def,
      List.flatMap_singleton']
  rw [Coercion.zuluAsOffset, hself, String.ofList_toList]

/-- What is left of ten bytes behind a date of eight is one character, or there are ten
characters. -/
theorem eq_singleton_of_perByte {tail : List Char} (h : (perByte tail).length = 2)
    (hlength : tail.length ≠ 2) : ∃ c, tail = [c] ∧ perByte tail = [replacement, replacement] := by
  have hle := length_le_perByte tail
  match tail, h, hlength, hle with
  | [], h, _, _ => cases h
  | [c], h, _, _ =>
      refine ⟨c, rfl, ?_⟩
      rw [perByte_cons] at h ⊢
      split
      · next hc =>
          rw [if_pos hc] at h
          cases h
      · next hc =>
          rw [if_neg hc] at h
          have hsize : c.utf8Size = 2 := by simpa [perByte] using h
          rw [hsize]
          rfl
  | _ :: _ :: _, h, hlength, hle =>
      simp only [List.length_cons] at h hlength hle
      omega

/-- A timestamp that is read has a date of the length that was found, and a time behind it unless
the text ends there. -/
theorem ofIso?_eq_some {text : String} {t : Timestamp} (h : Timestamp.ofIso? text = some t)
    (hlength : dateLength? (perByte text.toList) = some n) :
    ∃ d, readDateOfLength? (perByte text.toList) n = some d ∧
      ((perByte text.toList).length ≤ n ∧ t = ⟨.startOf d, none⟩ ∨
        ∃ time, readTime? (perByte (text.toList.drop (n + 1))) = some time) := by
  obtain ⟨_, -, h⟩ := Option.bind_eq_some_iff.1 h
  obtain ⟨length, hn, h⟩ := Option.bind_eq_some_iff.1 h
  cases hlength.symm.trans hn
  obtain ⟨d, hdate, h⟩ := Option.bind_eq_some_iff.1 h
  refine ⟨d, hdate, ?_⟩
  split at h
  · obtain ⟨time, htime, -⟩ := Option.bind_eq_some_iff.1 h
    exact Or.inr ⟨time, htime⟩
  · next hends => exact Or.inl ⟨Nat.not_lt.1 hends, (Option.some.inj h).symm⟩

/-- A text that is a form of a date means the start of a date. -/
theorem eq_startOf_of_dateForm {text : String} {d : Date} {t : Timestamp}
    (hform : DateForm length text.toList) (hbytes : perByte text.toList = text.toList)
    (hdate : readDateOfLength? text.toList text.toList.length = some d)
    (h : Timestamp.ofIso? text = some t) : t = ⟨.startOf d, none⟩ := by
  have hlength : dateLength? (text.toList ++ []) = some text.toList.length :=
    dateLength?_of_dateForm hform nofun
  rw [List.append_nil] at hlength
  have hread : dateLength? (perByte text.toList) = some text.toList.length := by
    rw [hbytes, hlength]
  obtain ⟨e, he, ⟨-, rfl⟩ | ⟨_, htime⟩⟩ := ofIso?_eq_some h hread
  · rw [hbytes] at he
    rw [Option.some.inj (hdate.symm.trans he)]
  · rw [List.drop_eq_nil_of_le (Nat.le_succ _)] at htime
    cases htime

/-- No time can be read behind a date that one character of two bytes follows. -/
theorem ofIso?_eq_none_of_dateForm {text : String} {c : Char} (hform : DateForm length front)
    (htext : text.toList = front ++ [c])
    (hbytes : perByte text.toList = front ++ [replacement, replacement]) :
    Timestamp.ofIso? text = none := by
  have hlength : dateLength? (front ++ [replacement, replacement]) = some front.length := by
    refine dateLength?_of_dateForm hform fun c hc => ?_
    obtain rfl : replacement = c := Option.some.inj hc
    decide
  cases h : Timestamp.ofIso? text with
  | none => rfl
  | some t =>
      obtain ⟨_, -, ⟨hends, -⟩ | ⟨_, htime⟩⟩ := ofIso?_eq_some h (hbytes.symm ▸ hlength)
      · rw [hbytes, List.length_append, List.length_cons] at hends
        omega
      · rw [htext, List.drop_eq_nil_of_le (by simp)] at htime
        cases htime

/-- A text of other than ten characters from which a date is read is a form of a date, or one
character of two bytes follows a form. -/
theorem dateForm_cases {text : List Char} {d : Date}
    (hdate : readDateOfLength? (perByte text) (perByte text).length = some d)
    (hbytes : (perByte text).length = 7 ∨ (perByte text).length = 8 ∨ (perByte text).length = 10)
    (hlength : text.length ≠ 10) :
    ∃ length front, DateForm length front ∧
      (text = front ∧ perByte text = front ∨
        ∃ c, text = front ++ [c] ∧ perByte text = front ++ [replacement, replacement] ∧
          c ≠ 'Z') := by
  obtain ⟨front, rest, htext, hform⟩ := dateForm_of_readDateOfLength? hdate
  obtain ⟨tail, rfl, hrest⟩ :=
    perByte_eq_append htext (not_mem_dateForm hform (by decide) (by decide) (by decide))
  rw [List.length_append] at hlength
  have hlengths : (perByte (front ++ tail)).length = front.length + rest.length := by
    rw [htext, List.length_append]
  refine ⟨_, front, hform, ?_⟩
  rcases length_dateForm hform (by omega) hbytes with hfull | ⟨height, hten⟩
  · obtain rfl : rest = [] := List.eq_nil_of_length_eq_zero (by omega)
    obtain rfl : tail = [] := by
      have hle := length_le_perByte tail
      rw [hrest] at hle
      exact List.eq_nil_of_length_eq_zero (Nat.le_zero.1 hle)
    rw [List.append_nil] at htext ⊢
    exact Or.inl ⟨rfl, htext⟩
  · have htwo : (perByte tail).length = 2 := by
      rw [hrest]
      omega
    obtain ⟨c, rfl, heq⟩ := eq_singleton_of_perByte htwo (by omega)
    rw [← hrest, heq] at htext
    refine Or.inr ⟨c, rfl, htext, ?_⟩
    rintro rfl
    cases heq

/-- Where a time may follow, a text that writes a date alone in other than ten characters means the
start of the date, if it can be read. -/
theorem eq_startOf_of_ofIso? {text : String} {d : Date} {t : Timestamp}
    (hdate : Date.ofIso? text = some d) (hlength : text.length ≠ 10)
    (h : Timestamp.ofIso? (Coercion.zuluAsOffset text) = some t) : t = ⟨.startOf d, none⟩ := by
  rw [Date.ofIso?] at hdate
  split at hdate
  next hbytes =>
    rw [← String.length_toList] at hlength
    obtain ⟨length, front, hform, ⟨hfront, hself⟩ | ⟨c, htext, htwo, hc⟩⟩ :=
      dateForm_cases hdate hbytes hlength
    · have hZ : 'Z' ∉ front := not_mem_dateForm hform (by decide) (by decide) (by decide)
      subst hfront
      rw [hself] at hdate
      rw [zuluAsOffset_eq_self hZ] at h
      exact eq_startOf_of_dateForm hform hself hdate h
    · have hZ : 'Z' ∉ text.toList := by
        rw [htext, List.mem_append, not_or]
        exact ⟨not_mem_dateForm hform (by decide) (by decide) (by decide),
          fun h => hc (List.mem_singleton.1 h).symm⟩
      rw [zuluAsOffset_eq_self hZ, ofIso?_eq_none_of_dateForm hform htext htwo] at h
      cases h
  next => cases hdate

end CollectionQuery.Calendar
