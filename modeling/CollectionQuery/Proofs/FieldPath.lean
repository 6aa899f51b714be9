import CollectionQuery.FieldPath
import CollectionQuery.Proofs.Text.Blank

/-!
# The characters of paths

A path has no blanks, so stripping leaves it as it is.  What is split at a character and joined
again is the text it was, so a path is exactly what joins identifiers by dots.
-/

namespace CollectionQuery

open CollectionQuery.Text

/-- A character of a text is a separator or stands in one of the pieces. -/
theorem Text.mem_splitChars (separator : Char) {c : Char} {text : List Char} (h : c ∈ text) :
    c = separator ∨ ∃ piece ∈ splitChars separator text, c ∈ piece := by
  induction text with
  | nil => cases h
  | cons first rest ih =>
      rw [splitChars]
      split
      · next hnil =>
          rcases List.mem_cons.1 h with rfl | h
          · exact Or.inr ⟨[c], by simp⟩
          · have hpiece := ih h
            rw [hnil] at hpiece
            exact Or.inl (by simpa using hpiece)
      · next piece pieces hcons =>
          rw [hcons] at ih
          by_cases hseparator : first = separator
          · rw [if_pos hseparator]
            rcases List.mem_cons.1 h with rfl | h
            · exact Or.inl hseparator
            · exact (ih h).imp_right fun ⟨other, hother, hc⟩ =>
                ⟨other, List.mem_cons_of_mem _ hother, hc⟩
          · rw [if_neg hseparator]
            rcases List.mem_cons.1 h with rfl | h
            · exact Or.inr ⟨_, List.mem_cons_self, List.mem_cons_self⟩
            · refine (ih h).imp_right fun ⟨other, hother, hc⟩ => ?_
              rcases List.mem_cons.1 hother with rfl | hother
              · exact ⟨_, List.mem_cons_self, List.mem_cons_of_mem _ hc⟩
              · exact ⟨other, List.mem_cons_of_mem _ hother, hc⟩

namespace FieldPath

theorem not_blank_of_isNamePart {c : Char} (h : isNamePart c = true) : isBlank c = false := by
  have hc : (48 ≤ c.toNat ∧ c.toNat ≤ 57) ∨ (65 ≤ c.toNat ∧ c.toNat ≤ 90) ∨
      (97 ≤ c.toNat ∧ c.toNat ≤ 122) ∨ c.toNat = 95 := by
    rw [isNamePart, Bool.or_eq_true, Char.isAlphanum, Bool.or_eq_true] at h
    rcases h with (halpha | hdigit) | hunderscore
    · rcases (Bool.or_eq_true _ _).mp halpha with hupper | hlower
      · exact Or.inr (Or.inl (of_decide_eq_true hupper))
      · obtain ⟨hleast, hgreatest⟩ := (Bool.and_eq_true _ _).mp hlower
        exact Or.inr (Or.inr (Or.inl ⟨of_decide_eq_true hleast, of_decide_eq_true hgreatest⟩))
    · exact Or.inl (code_of_isDigit hdigit)
    · rw [beq_iff_eq.1 hunderscore]
      exact Or.inr (Or.inr (Or.inr rfl))
  exact not_blank_of_code (by omega)

theorem isNamePart_of_isName {name : List Char} (h : isName name = true) :
    ∀ c ∈ name, isNamePart c = true := by
  cases name with
  | nil => cases h
  | cons first rest =>
      rw [isName, Bool.and_eq_true, List.all_eq_true] at h
      refine List.forall_mem_cons.2 ⟨?_, h.2⟩
      have hstart := h.1
      rw [isNameStart, Bool.or_eq_true] at hstart
      rw [isNamePart, Bool.or_eq_true, Char.isAlphanum, Bool.or_eq_true]
      exact hstart.imp_left Or.inl

theorem not_blank {path : String} (h : isPath path = true) :
    ∀ c ∈ path.toList, isBlank c = false := by
  intro c hc
  rcases mem_splitChars '.' hc with rfl | ⟨piece, hpiece, hmem⟩
  · rfl
  · exact not_blank_of_isNamePart (isNamePart_of_isName (List.all_eq_true.1 h piece hpiece) c hmem)

theorem strip_eq_self {path : String} (h : isPath path = true) : strip path = path :=
  Text.strip_eq_self (not_blank h)

end FieldPath

/-! ## Splitting -/

theorem Text.splitChars_eq_splitOn (separator : Char) (text : List Char) :
    splitChars separator text = text.splitOn separator := by
  induction text with
  | nil => rw [splitChars, List.splitOn_nil]
  | cons first rest ih =>
      have hne : rest.splitOn separator ≠ [] := List.splitOn_ne_nil separator rest
      rw [splitChars, ih]
      rw [List.splitOn_eq_splitOnP] at hne ⊢
      rw [List.splitOn_eq_splitOnP, List.splitOnP_cons_eq_if_modifyHead]
      cases hpieces : rest.splitOnP fun c => c == separator with
      | nil => exact absurd hpieces hne
      | cons piece pieces =>
          by_cases h : first = separator
          · simp [h]
          · simp [h]

/-- The pieces of a text, joined again. -/
theorem Text.joinWith_splitOnChar (separator : Char) (text : String) :
    joinWith (String.singleton separator) (splitOnChar separator text) = text := by
  apply String.toList_injective
  rw [joinWith, String.toList_intercalate, splitOnChar, splitChars_eq_splitOn, List.map_map]
  simp

/-- Names without a separator are the pieces of the text that joins them. -/
theorem Text.splitChars_joinWith (separator : Char) {names : List String} (nonempty : names ≠ [])
    (h : ∀ name ∈ names, separator ∉ name.toList) :
    splitChars separator (joinWith (String.singleton separator) names).toList =
      names.map String.toList := by
  rw [joinWith, String.toList_intercalate, splitChars_eq_splitOn, String.toList_singleton,
    List.splitOn_intercalate]
  · simpa using h
  · simpa using nonempty

namespace FieldPath

/-- Whether a text is an identifier: a letter of ASCII or an underscore, and any number of letters,
digits and underscores behind it. -/
def IsIdentifier (name : String) : Prop :=
  ∃ first rest, name.toList = first :: rest ∧ (first.isAlpha = true ∨ first = '_') ∧
    ∀ c ∈ rest, c.isAlpha = true ∨ c.isDigit = true ∨ c = '_'

/-- Whether a text is an identifier or several of them joined by dots. -/
def IsDotted (path : String) : Prop :=
  ∃ names : List String, names ≠ [] ∧ (∀ name ∈ names, IsIdentifier name) ∧
    path = joinWith "." names

theorem isName_iff {name : String} : isName name.toList = true ↔ IsIdentifier name := by
  rw [IsIdentifier]
  cases name.toList with
  | nil => simp [isName]
  | cons first rest =>
      have hname : isName (first :: rest) = true ↔ (first.isAlpha = true ∨ first = '_') ∧
          ∀ c ∈ rest, c.isAlpha = true ∨ c.isDigit = true ∨ c = '_' := by
        simp [isName, isNameStart, isNamePart, Char.isAlphanum, or_assoc]
      rw [hname]
      constructor
      · intro h
        exact ⟨first, rest, rfl, h⟩
      · rintro ⟨_, _, ⟨⟩, h⟩
        exact h

theorem dot_not_mem_of_isName {name : List Char} (h : isName name = true) : '.' ∉ name := by
  intro hdot
  have hpart := isNamePart_of_isName h '.' hdot
  revert hpart
  decide

/-- A path is what joins identifiers by dots. -/
theorem isPath_iff {path : String} : isPath path = true ↔ IsDotted path := by
  rw [isPath, List.all_eq_true]
  constructor
  · intro h
    refine ⟨names path, ?_, ?_, (joinWith_splitOnChar '.' path).symm⟩
    · rw [names, splitOnChar, splitChars_eq_splitOn]
      simp
    · intro name hname
      obtain ⟨piece, hpiece, rfl⟩ := List.mem_map.1 hname
      rw [← isName_iff, String.toList_ofList]
      exact h piece hpiece
  · rintro ⟨names, nonempty, hnames, rfl⟩ piece hpiece
    rw [show "." = String.singleton '.' from rfl, splitChars_joinWith '.' nonempty] at hpiece
    · obtain ⟨name, hname, rfl⟩ := List.mem_map.1 hpiece
      exact isName_iff.2 (hnames name hname)
    · exact fun name hname => dot_not_mem_of_isName (isName_iff.2 (hnames name hname))

end FieldPath

end CollectionQuery
