import CollectionQuery.Text.Blank
import Mathlib.Data.List.DropRight
import Mathlib.Data.List.TakeWhile

/-!
# Texts without blanks around them

Trimming takes away what stands in front of the first character that stays and behind the last one,
and nothing else.
-/

namespace CollectionQuery.Text

variable {p : Char → Bool} {text body before after : List Char}

/-! ## Characters of ASCII -/

/-- The characters of ASCII that are seen are not blank. -/
theorem not_blank_of_code {c : Char} (h : 32 < c.toNat ∧ c.toNat < 128) : isBlank c = false := by
  simp only [isBlank, isWhiteSpace, Bool.or_eq_false_iff, Bool.and_eq_false_iff,
    decide_eq_false_iff_not, beq_eq_false_iff_ne]
  omega

theorem code_of_isDigit {c : Char} (h : c.isDigit = true) : 48 ≤ c.toNat ∧ c.toNat ≤ 57 := by
  obtain ⟨hleast, hgreatest⟩ := (Bool.and_eq_true _ _).mp h
  exact ⟨of_decide_eq_true hleast, of_decide_eq_true hgreatest⟩

/-! ## Trimming -/

theorem dropTrailing_eq_rdropWhile (p : Char → Bool) (text : List Char) :
    dropTrailing p text = text.rdropWhile p := by
  induction text with
  | nil => rfl
  | cons c text ih =>
      rw [dropTrailing, ih, List.rdropWhile, List.rdropWhile, List.reverse_cons,
        List.dropWhile_append]
      cases htext : text.reverse.dropWhile p with
      | nil => cases hc : p c <;> simp [hc]
      | cons d rest => simp

/-- Nothing is dropped in front of the last character that stays. -/
theorem dropTrailing_append {c : Char} (hc : p c = false) (hafter : ∀ d ∈ after, p d = true) :
    dropTrailing p (body ++ c :: after) = body ++ [c] := by
  have hreverse : (body ++ c :: after).reverse = after.reverse ++ c :: body.reverse := by simp
  rw [dropTrailing_eq_rdropWhile, List.rdropWhile, hreverse,
    List.dropWhile_append_of_pos fun d hd => hafter d (List.mem_reverse.1 hd),
    List.dropWhile_cons_of_neg (by simp [hc])]
  simp

theorem dropTrailing_eq_self (h : ∀ c ∈ text.getLast?, p c = false) :
    dropTrailing p text = text := by
  rw [dropTrailing_eq_rdropWhile, List.rdropWhile_eq_self_iff]
  intro hne
  simp [h _ (List.getLast?_eq_some_getLast hne)]

/-- What ends in a character that stays loses nothing but what stands behind it. -/
theorem dropTrailing_append_class (h : ∀ c ∈ text.getLast?, p c = false)
    (hafter : ∀ d ∈ after, p d = true) : dropTrailing p (text ++ after) = text := by
  rcases List.eq_nil_or_concat text with rfl | ⟨body, c, rfl⟩
  · rw [dropTrailing_eq_rdropWhile, List.nil_append]
    exact List.rdropWhile_eq_nil_iff.2 hafter
  · rw [List.concat_eq_append, List.append_assoc]
    exact dropTrailing_append (h c (by simp)) hafter

/-- What is left ends in no character that is dropped. -/
theorem getLast?_dropTrailing {c : Char} (h : c ∈ (dropTrailing p text).getLast?) :
    p c = false := by
  rw [dropTrailing_eq_rdropWhile] at h
  obtain ⟨hne, rfl⟩ := List.mem_getLast?_eq_getLast h
  exact Bool.eq_false_iff.2 (List.rdropWhile_last_not p text hne)

/-- A text loses what stands around its first and its last character that stay. -/
theorem trimChars_append {first last : Char} (hfirst : body.head? = some first)
    (hlast : body.getLast? = some last) (hpfirst : p first = false) (hplast : p last = false)
    (hbefore : ∀ c ∈ before, p c = true) (hafter : ∀ c ∈ after, p c = true) :
    trimChars p (before ++ (body ++ after)) = body := by
  obtain ⟨more, rfl⟩ : ∃ more, body = more ++ [last] := List.getLast?_eq_some_iff.1 hlast
  have hdrop : (before ++ (more ++ [last] ++ after)).dropWhile p = more ++ [last] ++ after := by
    rw [List.dropWhile_append_of_pos hbefore]
    cases more with
    | nil =>
        obtain rfl : last = first := by simpa using hfirst
        simp [hpfirst]
    | cons c more =>
        obtain rfl : c = first := by simpa using hfirst
        simp [hpfirst]
  rw [trimChars, hdrop, List.append_assoc]
  exact dropTrailing_append hplast hafter

/-- A text stays as it is if its first and its last character stay. -/
theorem trimChars_of_ends {first last : Char} (hfirst : text.head? = some first)
    (hlast : text.getLast? = some last) (hpfirst : p first = false) (hplast : p last = false) :
    trimChars p text = text := by
  have htrim := trimChars_append hfirst hlast hpfirst hplast (List.forall_mem_nil _)
    (List.forall_mem_nil _)
  rwa [List.nil_append, List.append_nil] at htrim

theorem trimChars_eq_self (h : ∀ c ∈ text, p c = false) : trimChars p text = text := by
  cases htext : text.getLast? with
  | none =>
      rw [List.getLast?_eq_none_iff.1 htext]
      rfl
  | some last =>
      obtain ⟨first, more, rfl⟩ : ∃ first more, text = first :: more :=
        List.exists_cons_of_ne_nil (by rintro rfl; cases htext)
      exact trimChars_of_ends rfl htext (h first List.mem_cons_self)
        (h last (List.mem_of_getLast? htext))

/-- What is dropped from the end belongs to the class. -/
theorem exists_dropTrailing (p : Char → Bool) (text : List Char) :
    ∃ after, text = dropTrailing p text ++ after ∧ ∀ c ∈ after, p c = true := by
  refine ⟨text.rtakeWhile p, ?_, fun c hc => List.mem_rtakeWhile_imp hc⟩
  rw [dropTrailing_eq_rdropWhile, List.rdropWhile_append_rtakeWhile]

/-- What trimming takes away belongs to the class. -/
theorem exists_trimChars (p : Char → Bool) (text : List Char) :
    ∃ before after, text = before ++ (trimChars p text ++ after) ∧
      (∀ c ∈ before, p c = true) ∧ ∀ c ∈ after, p c = true := by
  obtain ⟨after, heq, hafter⟩ := exists_dropTrailing p (text.dropWhile p)
  refine ⟨text.takeWhile p, after, ?_, fun c hc => List.mem_takeWhile_imp hc, hafter⟩
  rw [trimChars, ← heq, List.takeWhile_append_dropWhile]

theorem strip_eq_self {s : String} (h : ∀ c ∈ s.toList, isBlank c = false) : strip s = s := by
  rw [strip, trimChars_eq_self h, String.ofList_toList]

end CollectionQuery.Text
