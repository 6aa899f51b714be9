import CollectionQuery.Proofs.Filter.Document
import CollectionQuery.Proofs.Json.Descent
import CollectionQuery.Proofs.Json.Reader
import CollectionQuery.Proofs.Text.Blank
import CollectionQuery.QueryParams

/-!
# Filters as texts

Three guards stand on the way from a text to a filter: the brackets that may be open at once, the
groups that may stand inside each other when they are read, and the depth of the filter that was
read.  The document of a filter has at most two levels for each level of groups and four more, so
the first guard refuses only what the last one would.

A query that has a filter and nothing else is then read exactly if the depth is in the bounds of the
other two, and its filter is what the text writes.
-/

namespace CollectionQuery

open CollectionQuery.Text

/-! ## The text of an object -/

namespace Json

/-- The text of an object starts and ends with its braces. -/
theorem Layout.braces {l : Layout} {members : List (AnyText × Json)}
    (h : l.document = .object members) :
    l.chars.head? = some '\x7b' ∧ l.chars.getLast? = some '\x7d' := by
  cases l with
  | named n known =>
      have hdepth := depth_of_named known
      rw [show n.2 = .object members from h] at hdepth
      cases hdepth
  | number n =>
      have hdepth := n.depth_document
      rw [show n.document = .object members from h] at hdepth
      cases hdepth
  | text parts => cases h
  | emptyList inside => cases h
  | list before items => cases h
  | emptyObject inside => simp [Layout.chars, List.getLast?_cons]
  | object before members => simp [Layout.chars, List.getLast?_cons, members.getLast?_chars]

/-- What is left of the text of an object without the blanks around it. -/
theorem Writes.strip {text : String} {members : List (AnyText × Json)}
    (h : Writes text (.object members)) :
    ∃ l : Layout, l.document = .object members ∧
      AnyText.strip text = .whole (String.ofList l.chars) ∧ l.chars.head? = some '\x7b' := by
  obtain ⟨before, after, l, hbefore, hafter, htext, hl⟩ := h
  obtain ⟨hfirst, hlast⟩ := l.braces hl
  refine ⟨l, hl, ?_, hfirst⟩
  rw [AnyText.strip, Text.strip, htext,
    trimChars_append hfirst hlast rfl rfl hbefore hafter]

end Json

/-! ## The filter of a text -/

theorem FilterGroup.IsDocument.exists_object {g : FilterGroup} {j : Json} (h : g.IsDocument j) :
    ∃ members, j = .object members := by
  cases g with
  | mk connective conditions groups =>
      obtain ⟨members, -, -, rfl, -⟩ := h
      exact ⟨_, rfl⟩

/-- The reader has room for the document of a group that is checked. -/
theorem FilterGroup.IsDocument.depth_le_filterText {g : FilterGroup} {j : Json}
    (h : g.IsDocument j) {limits : NestingLimits} (hroom : g.depth ≤ limits.groups) :
    j.depth ≤ limits.filterText := by
  have hlevels := limits.two_le_levels
  calc j.depth
    _ ≤ 2 * g.depth + 4 := h.depth_le
    _ ≤ 2 * limits.groups + 4 := by omega
    _ ≤ 2 * limits.levels + 2 := by rw [NestingLimits.groups]; omega
    _ ≤ limits.filterText := limits.levels_le_filterText

/-- A document that writes a group is read as one. -/
theorem FilterGroup.IsDocument.read? {g : FilterGroup} {j : Json} (h : g.IsDocument j)
    (room : Nat) :
    Checked.Reads (g.depth ≤ room) (FilterGroup.read? room j.toValue)
      fun filter => ∃ parsed, filter = some parsed ∧ g.Reordered parsed := by
  obtain ⟨members, rfl⟩ := h.exists_object
  have hnull : (Json.object members).toValue.isNull = false := by
    rw [Json.toValue, Value.isNull_ofMembers]
  rw [FilterGroup.read?, hnull, if_neg Bool.false_ne_true]
  exact (h.read room).map fun parsed hparsed => ⟨parsed, rfl, hparsed⟩

/-- A text that writes a group is read if the brackets and the groups are in their bounds. -/
theorem FilterGroup.IsDocument.filterText {g : FilterGroup} {j : Json} (h : g.IsDocument j)
    {text : String} (htext : Json.Writes text j) (settings : Settings) :
    Checked.Reads ((j.depth : Int) ≤ bracketLimit settings.filterMaxDepth ∧
        g.depth ≤ settings.nesting.groups)
      (Checked.filterText settings text)
      fun filter => ∃ parsed, filter = some parsed ∧ g.Reordered parsed := by
  obtain ⟨members, rfl⟩ := h.exists_object
  obtain ⟨l, hl, hstrip, hhead⟩ := htext.strip
  have hne : AnyText.whole (String.ofList l.chars) ≠ .whole "" := by
    intro hempty
    rw [String.ofList_eq_empty_iff.1 (AnyText.whole.inj hempty)] at hhead
    cases hhead
  have hnesting : Json.nesting (AnyText.whole (String.ofList l.chars)).shown =
      (Json.object members).depth := (Json.nesting_chars l).trans (congrArg Json.depth hl)
  rw [Checked.filterText, hstrip, if_neg hne, hnesting]
  by_cases hbrackets : bracketLimit settings.filterMaxDepth < ((Json.object members).depth : Int)
  · rw [if_pos hbrackets]
    exact ⟨fun henough => absurd henough.1 (Int.not_le.2 hbrackets), fun _ => ⟨_, rfl⟩⟩
  rw [if_neg hbrackets]
  have hmark : l.chars.head? ≠ some (Char.ofNat 0xFEFF) := by
    rw [hhead]
    decide
  have hread : Json.Within settings.nesting.filterText (Json.object members).depth
      (Json.readWithin settings.nesting.filterText (String.ofList l.chars)) (.object members) := by
    have hchars : (AnyText.whole (String.ofList l.chars)).shown.toList = l.chars :=
      String.toList_ofList
    rw [Json.readWithin, hchars, if_neg hmark, ← hl]
    exact Json.readSource_chars l _
  by_cases hnesting : (Json.object members).depth ≤ settings.nesting.filterText
  · rw [Json.Within, if_pos hnesting] at hread
    rw [hread]
    exact (h.read? _).congr (iff_and_self.2 fun _ => Int.not_lt.1 hbrackets)
  · rw [Json.Within, if_neg hnesting] at hread
    obtain ⟨f, hf⟩ := hread
    rw [hf]
    exact ⟨fun henough => absurd (h.depth_le_filterText henough.2) hnesting, fun _ => ⟨_, rfl⟩⟩

/-! ## Queries with nothing but a filter -/

namespace QueryParams

variable {g : FilterGroup} {j : Json} {text : String}

theorem checkBounds_filter {settings : Settings} {q : QueryParams} {wanted : QueryParams → Prop}
    (hq : wanted q) (hlimit : q.limit ≤ settings.maxLimit) (hfilter : q.filter = some g) :
    Checked.Reads ((g.depth : Int) ≤ settings.filterMaxDepth) (checkBounds settings q) wanted := by
  rw [checkBounds, if_neg (Int.not_lt.2 hlimit), hfilter]
  exact ⟨fun hdepth => ⟨q, if_neg (Int.not_lt.2 hdepth), hq⟩,
    fun hdepth => ⟨_, if_pos (Int.not_le.1 hdepth)⟩⟩

theorem ofRaw_eq_ok {settings : Settings} {raw : RawQuery} {q : QueryParams} :
    ofRaw settings raw = .ok q ↔
      (ofDocument settings raw.document >>= checkBounds settings) = .ok q := by
  rw [ofRaw]
  cases ofDocument settings raw.document >>= checkBounds settings with
  | ok other => exact ⟨fun h => by cases h; rfl, fun h => by cases h; rfl⟩
  | error faults => exact iff_of_false nofun nofun

/-- A filter with one condition, the operator before the field and blanks around. -/
def titleText : String :=
  " \x7b\"conditions\": [\x7b\"operator\":\"in\", \"field\":\"title\",\"value\":[\"a\"]\x7d]\x7d\n"

end QueryParams

end CollectionQuery
