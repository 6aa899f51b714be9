import CollectionQuery.Payload
import CollectionQuery.Proofs.Comparison.Days

/-!
# Dates in payloads and in filters

A payload and a filter read the text of a date-time each in its own way.  A comparison for equality
with a text asks for a whole day if the text is a date alone, and for one time otherwise.  What a
payload stores for the text passes it, unless the text is *misread*: its offset is not that of
universal time and the column keeps none, or its ten characters are not the date that the payload
found at their start, or it asks for the last day.
-/

namespace CollectionQuery

open CollectionQuery.Calendar CollectionQuery.Text

variable {column : Column} {path text : String} {op : Operator} {v : Value} {aware : Bool}
  {t : Timestamp}

/-- The texts that a filter on a column reads otherwise than a payload, to which they mean `t`. -/
inductive Misread (aware : Bool) (text : String) (t : Timestamp) : Prop where
  /-- A column without offsets stores what the clock shows, and a filter asks for universal time. -/
  | offset {o : Offset} (naive : aware = false) (whole : ¬ Coercion.isTenDate (strip text))
      (given : t.offset = some o) (ahead : o.micros ≠ 0) : Misread aware text t
  /-- Ten characters without a time are no date or another one. -/
  | form (ten : Coercion.isTenDate (strip text))
      (other : Date.ofIso? (strip text) ≠ some t.wall.date) : Misread aware text t
  /-- The end of the last day is not in the calendar. -/
  | lastDay (alone : (Value.text text).isDateOnly = true) (last : t.wall.date = .last) :
      Misread aware text t

/-! ## What a filter reads -/

namespace Coercion

theorem ofIso?_of_isTenDate (h : isTenDate (strip text))
    (halone : (Value.text text).isDateOnly = false) : Date.ofIso? (strip text) = none := by
  cases hdate : Date.ofIso? (strip text) with
  | none => rfl
  | some d =>
      rw [isDateOnly_text.2 ⟨ne_empty_of_isTenDate h, h.1, d, hdate⟩] at halone
      cases halone

/-- Everything else means what it means in a payload. -/
theorem timestamp_of_not_isTenDate (name : String) (h : ¬ isTenDate (strip text))
    (ht : Timestamp.ofIso? (zuluAsOffset (strip text)) = some t) :
    timestamp name (.text text) = .ok t := by
  have hne : strip text ≠ "" := fun hempty => by
    rw [hempty] at ht
    cases ht
  have hten : ¬ ((!hasTime (strip text)) = true ∧ (strip text).length = 10) := fun hten =>
    h ⟨by simpa using hten.1, hten.2⟩
  rw [timestamp_text, if_neg hne, if_neg hten, ht]
  rfl

/-- A date alone means its start. -/
theorem timestamp_of_isDateOnly (name : String) (h : (Value.text text).isDateOnly = true)
    (ht : Timestamp.ofIso? (zuluAsOffset (strip text)) = some t) :
    ∃ d, Date.ofIso? (strip text) = some d ∧
      timestamp name (.text text) = .ok ⟨.startOf d, none⟩ ∧
      (¬ isTenDate (strip text) → t = ⟨.startOf d, none⟩) := by
  obtain ⟨d, hd⟩ := exists_day h
  have hlong (hten : ¬ isTenDate (strip text)) : t = ⟨.startOf d, none⟩ :=
    eq_startOf_of_timestamp h hd (timestamp_of_not_isTenDate name hten ht)
  refine ⟨d, hd, ?_, hlong⟩
  by_cases hten : isTenDate (strip text)
  · rw [timestamp_of_isTenDate hten, show Date.ofIso? (strip text) = some d from hd]
    rfl
  · rw [timestamp_of_not_isTenDate name hten ht, hlong hten]

/-- A column keeps the reading of a clock unless it turns it into another. -/
theorem settle_wall_iff : (∃ kept, settle aware t = .ok kept ∧ kept.wall = t.wall) ↔
    (aware = false → ∀ o, t.offset = some o → o.micros = 0) := by
  rw [settle, ← Timestamp.toUniversal?_eq_wall]
  cases aware with
  | true => simp
  | false => cases t.toUniversal? <;> simp

end Coercion

/-! ## Comparisons for equality -/

namespace Comparison

theorem columnTest_of_time (h : (Value.text text).isDateOnly = false) :
    columnTest column path .eq (.text text) =
      column.kind.coerce column.name (.text text) >>= test column.kind .eq := by
  have hasks : asksDay column .eq (.text text) ≠ true := fun hasks => by
    rw [(asksDay_iff.1 hasks).2.2] at h
    cases h
  rw [columnTest_of_coerces rfl, if_neg hasks, coerced_unary rfl rfl]

variable (hkind : column.kind = .moment aware)
include hkind

/-- A time passes the test of another if it is the same. -/
theorem passes_time_iff (h : (Value.text text).isDateOnly = false) {other : Timestamp}
    (hread : column.kind.coerce column.name (.text text) = .ok (.moment other))
    (wall : DateTime) :
    Passes ⟨path, .eq, .text text⟩ column (.moment wall) ↔ wall = other.wall := by
  have htest : columnTest column path .eq (.text text) =
      .ok (.relates (· == .eq) (.single column.kind (.moment other))) := by
    rw [columnTest_of_time h, hread]
    rfl
  rw [passes_relates_iff htest (bind_moment hkind other), Cell.relate_moment, Truth.ofBool_eq_yes,
    beq_iff_eq, DateTime.compare_eq_eq]

/-- A time passes the comparison with the text of a time if the column keeps the text as this
time. -/
theorem passes_settled_iff (h : (Value.text text).isDateOnly = false)
    (hread : Coercion.timestamp column.name (.text text) = .ok t) (wall : DateTime) :
    Passes ⟨path, .eq, .text text⟩ column (.moment wall) ↔
      ∃ kept, Coercion.settle aware t = .ok kept ∧ kept.wall = wall := by
  have hcoerce := coerce_timestamp hkind rfl hread
  cases hsettle : Coercion.settle aware t with
  | error f =>
      have htest : columnTest column path .eq (.text text) = .error f := by
        rw [columnTest_of_time h, hcoerce, hsettle]
        rfl
      exact iff_of_false (not_passes_of_error htest _) (by rintro ⟨_, hkept, -⟩; cases hkept)
  | ok kept =>
      rw [hsettle] at hcoerce
      rw [passes_time_iff hkind h hcoerce]
      constructor
      · rintro rfl
        exact ⟨kept, rfl, rfl⟩
      · rintro ⟨_, hkept, rfl⟩
        cases hkept
        rfl

/-- A day is misread if it is not the date in front of the text, or the last day. -/
theorem passes_iff_not_misread_day (halone : (Value.text text).isDateOnly = true)
    (ht : Timestamp.ofIso? (Coercion.zuluAsOffset (strip text)) = some t) :
    Passes ⟨path, .eq, .text text⟩ column (.moment t.wall) ↔ ¬ Misread aware text t := by
  obtain ⟨d, hd, hread, hlong⟩ := Coercion.timestamp_of_isDateOnly column.name halone ht
  rw [passes_day_iff hkind halone (Or.inl rfl) hread, eq_self, true_iff]
  constructor
  · rintro ⟨hlast, hday⟩ hmisread
    cases hmisread with
    | offset _ whole given _ =>
        rw [hlong whole] at given
        cases given
    | form _ other => exact other (hday ▸ hd)
    | lastDay _ last => exact hlast (hday ▸ last)
  · intro hread
    have hday : t.wall.date = d := by
      by_cases hten : Coercion.isTenDate (strip text)
      · by_contra hne
        exact hread (.form hten fun heq => hne (Option.some.inj (heq.symm.trans hd)))
      · rw [hlong hten]
        rfl
    exact ⟨fun hlast => hread (.lastDay halone (hday.trans hlast)), hday⟩

/-- A time is misread if it is refused, or turned into another. -/
theorem passes_iff_not_misread_time (halone : (Value.text text).isDateOnly = false)
    (ht : Timestamp.ofIso? (Coercion.zuluAsOffset (strip text)) = some t) :
    Passes ⟨path, .eq, .text text⟩ column (.moment t.wall) ↔ ¬ Misread aware text t := by
  by_cases hten : Coercion.isTenDate (strip text)
  · have hnone := Coercion.ofIso?_of_isTenDate hten halone
    have hrefused : columnTest column path .eq (.text text) =
        Coercion.refuse column.name .dateTime := by
      rw [columnTest_of_time halone, hkind, ColumnKind.coerce_moment rfl, Coercion.moment,
        Coercion.timestamp_of_isTenDate hten, hnone]
      rfl
    refine iff_of_false (not_passes_of_error hrefused _) (not_not_intro (.form hten ?_))
    rw [hnone]
    intro hother
    cases hother
  · rw [passes_settled_iff hkind halone (Coercion.timestamp_of_not_isTenDate _ hten ht),
      Coercion.settle_wall_iff]
    constructor
    · intro hkept hmisread
      cases hmisread with
      | offset naive _ given ahead => exact ahead (hkept naive _ given)
      | form ten _ => exact hten ten
      | lastDay alone _ =>
          rw [halone] at alone
          cases alone
    · intro hread naive o given
      by_contra ahead
      exact hread (.offset naive hten given ahead)

/-- The time that a payload stores for a text passes the comparison with the text unless the text is
misread. -/
theorem passes_iff_not_misread
    (ht : Timestamp.ofIso? (Coercion.zuluAsOffset (strip text)) = some t) :
    Passes ⟨path, .eq, .text text⟩ column (.moment t.wall) ↔ ¬ Misread aware text t := by
  cases halone : (Value.text text).isDateOnly with
  | true => exact passes_iff_not_misread_day hkind halone ht
  | false => exact passes_iff_not_misread_time hkind halone ht

end Comparison

end CollectionQuery
