import CollectionQuery.Proofs.Clause.Meaning
import CollectionQuery.Proofs.Comparison.Operands
import CollectionQuery.Proofs.Plan.WellFormed
import CollectionQuery.Proofs.Text.Pattern

/-!
# Words in columns of texts

Three operators look for a word in a text: anywhere in it and in letters of either case, at its
start, or at its end.  The word is matched as a pattern, but as one in which every character stands
for itself, so what is found is the word and nothing else.  A search looks for its term in the first
of these ways.
-/

namespace CollectionQuery.Comparison

open CollectionQuery.Text

variable {column : Column} {path word stored : String} {op : Operator} {v : Value}

/-! ## Patterns -/

/-- A cell passes a comparison that matches texts if the pattern matches it. -/
theorem passes_matching_iff (htext : column.kind.isText = true) (hcoerces : op.coerces = false)
    (hwhole : v.isUnpaired = false) (hshort : ¬ Overlong column op v) {fold : Bool}
    {escape : Option Char}
    (htest : test column.kind op v = .ok (.matching fold escape (pattern op v))) (cell : Cell) :
    Passes ⟨path, op, v⟩ column cell ↔
      ((CellTest.matching fold escape (pattern op v)).truth cell).holds = true := by
  have hcolumn : columnTest column path op v = .ok (.matching fold escape (pattern op v)) := by
    rw [columnTest_of_text hcoerces, if_pos htext, htest]
  have hfits : (CellTest.matching (α := Cell) fold escape (pattern op v)).isOverlong = false :=
    decide_eq_false fun hlong => hshort ⟨htext, hcoerces, hwhole, hlong⟩
  rw [passes_iff hcolumn (u := .matching fold escape (pattern op v)) rfl, hfits]
  exact and_iff_right rfl

theorem holds_matching_text {fold : Bool} {escape : Option Char} {pattern : List Char} :
    ((CellTest.matching fold escape pattern).truth (.text stored)).holds = true ↔
      CellTest.textMatches fold escape pattern stored.toList = true := by
  rw [CellTest.truth, Truth.holds_eq_true, Truth.ofBool_eq_yes]

/-- Null matches no pattern. -/
theorem not_passes_null (hcoerces : op.coerces = false) :
    ¬ Passes ⟨path, op, v⟩ column .null := by
  rintro ⟨u, hu, -, hholds⟩
  obtain ⟨t, ht, hbind⟩ := cellTest?_eq_some.1 hu
  rcases columnTest_eq_ok ht with ⟨-, -, fold, escape, rfl⟩ | ⟨hother, -⟩ | ⟨hother, -⟩
  · split at hbind
    · obtain ⟨cell, -, hbind⟩ := bind_eq_ok.1 hbind
      cases hbind
      cases hholds
    · cases hbind
      cases hholds
  · cases hcoerces.symm.trans hother
  · cases hcoerces.symm.trans hother

/-! ## What is found -/

/-- The comparisons of a column with a word find in a text what their operators say, and nothing
where there is no text.  The storage engine takes no pattern that is too long. -/
structure FindsWord (column : Column) (path word stored : String) : Prop where
  contains : ¬ Overlong column .contains (.text word) →
    (Passes ⟨path, .contains, .text word⟩ column (.text stored) ↔
      asciiLower word.toList <:+: asciiLower stored.toList)
  startsWith : ¬ Overlong column .startsWith (.text word) →
    (Passes ⟨path, .startsWith, .text word⟩ column (.text stored) ↔
      word.toList <+: stored.toList)
  endsWith : ¬ Overlong column .endsWith (.text word) →
    (Passes ⟨path, .endsWith, .text word⟩ column (.text stored) ↔ word.toList <:+ stored.toList)
  null : ∀ op ∈ [Operator.contains, .startsWith, .endsWith],
    ¬ Passes ⟨path, op, .text word⟩ column .null

section

variable (hword : HasNoNul word.toList) (hstored : HasNoNul stored.toList)
include hword hstored

/-- Both the escaped word and the text lose their capitals before they are compared. -/
theorem textMatches_contains :
    CellTest.textMatches true (some patternEscape) (pattern .contains (.text word))
      stored.toList = true ↔ asciiLower word.toList <:+: asciiLower stored.toList := by
  have hlower : asciiLower (pattern .contains (.text word)) =
      '%' :: escapeWildcards (asciiLower word.toList) ++ ['%'] := by
    rw [← asciiLower_escapeWildcards]
    exact asciiLower_append ('%' :: escapeWildcards word.toList) ['%']
  rw [CellTest.textMatches, if_pos rfl, hlower, matchPattern_contains hword.asciiLower,
    upToNul_eq_self hstored.asciiLower]

theorem textMatches_startsWith :
    CellTest.textMatches false (some patternEscape) (pattern .startsWith (.text word))
      stored.toList = true ↔ word.toList <+: stored.toList := by
  have h := matchPattern_startsWith hword stored.toList
  rwa [upToNul_eq_self hstored] at h

theorem textMatches_endsWith :
    CellTest.textMatches false (some patternEscape) (pattern .endsWith (.text word))
      stored.toList = true ↔ word.toList <:+ stored.toList := by
  have h := matchPattern_endsWith hword stored.toList
  rwa [upToNul_eq_self hstored] at h

/-- In a column of texts a word is found as it is written, whatever wildcards and escape characters
it has.  The comparisons of a search are of the first kind, with the term of the search. -/
theorem words_found_exactly (htext : column.kind.isText = true) (path : String) :
    FindsWord column path word stored ∧
      ∀ term fields defaults p, searchPredicate term fields defaults = .ok p →
        ∀ cmp ∈ p.leaves, cmp = ⟨cmp.field, .contains, .ofText term.strip⟩ := by
  refine ⟨{ contains := fun hshort => ?_, startsWith := fun hshort => ?_,
            endsWith := fun hshort => ?_, null := fun op hop => not_passes_null ?_ }, ?_⟩
  · rw [passes_matching_iff htext rfl rfl hshort rfl, holds_matching_text]
    exact textMatches_contains hword hstored
  · rw [passes_matching_iff htext rfl rfl hshort rfl, holds_matching_text]
    exact textMatches_startsWith hword hstored
  · rw [passes_matching_iff htext rfl rfl hshort rfl, holds_matching_text]
    exact textMatches_endsWith hword hstored
  · simp only [List.mem_cons, List.not_mem_nil, or_false] at hop
    rcases hop with rfl | rfl | rfl <;> rfl
  · intro term fields defaults p hp cmp hcmp
    obtain ⟨-, hoperator, hvalue⟩ := searchPredicate_eq_ok hp cmp hcmp
    rw [← hoperator, ← hvalue]

end

/-- A title with two wildcards, the escape character and a backslash. -/
theorem words_found_exactly_wildcards :
    let title := Collection.shortText "title" false false
    let word := "%_/\\A"
    let stored := "%_/\\a%_/\\A"
    title.kind.isText = true ∧ HasNoNul word.toList ∧ HasNoNul stored.toList ∧
      Passes ⟨"title", .contains, .text word⟩ title (.text stored) ∧
      ¬ Passes ⟨"title", .startsWith, .text word⟩ title (.text stored) ∧
      Passes ⟨"title", .endsWith, .text word⟩ title (.text stored) := by
  intro title word stored
  have hword : HasNoNul word.toList := by decide
  have hstored : HasNoNul stored.toList := by decide
  have hfinds : FindsWord title "title" word stored :=
    (words_found_exactly hword hstored rfl "title").1
  have hshort {op : Operator} (h : (String.ofList (pattern op (.text word))).utf8ByteSize ≤
      patternLimit) : ¬ Overlong title op (.text word) :=
    fun hlong => absurd hlong.2.2.2 (Nat.not_lt.2 h)
  refine ⟨rfl, hword, hstored, (hfinds.contains (hshort ?_)).2 ?_,
    fun hpasses => absurd ((hfinds.startsWith (hshort ?_)).1 hpasses) ?_,
    (hfinds.endsWith (hshort ?_)).2 ?_⟩
  all_goals decide

end CollectionQuery.Comparison
