import CollectionQuery.Proofs.Calendar.Days
import CollectionQuery.Proofs.Calendar.Writing
import CollectionQuery.Proofs.Cell.Binding
import CollectionQuery.Proofs.Clause.Meaning
import CollectionQuery.Proofs.Comparison.Faults

/-!
# Days

A column of dates with times that is compared with a date alone is compared with the whole day,
however the date is spelled.  Whether a value is a date alone is found by one reader, and which time
the day begins at by another, which may refuse the value but never reads another date.  The day is
compared by its ends: not before its start and before the start of the next.
-/

namespace CollectionQuery

open CollectionQuery.Calendar CollectionQuery.Text

variable {column : Column} {path text name : String} {op : Operator} {v : Value} {aware : Bool}
  {t : Timestamp} {d : Date}

/-- The date that a value writes. -/
def Value.day? : Value → Option Date
  | .date d => some d
  | .text s => Date.ofIso? (strip s)
  | _ => none

/-- A filter takes ten characters without a time for a date. -/
def Coercion.isTenDate (text : String) : Prop := hasTime text = false ∧ text.length = 10

/-! ## What a date alone is read as -/

namespace Coercion

theorem isDateOnly_text : (Value.text text).isDateOnly = true ↔
    strip text ≠ "" ∧ hasTime (strip text) = false ∧ ∃ d, Date.ofIso? (strip text) = some d := by
  rw [Value.isDateOnly]
  simp [and_assoc, Option.isSome_iff_exists]

theorem isNull_of_isDateOnly (h : v.isDateOnly = true) : v.isNull = false := by
  cases v with
  | null => cases h
  | _ => rfl

theorem exists_day (h : v.isDateOnly = true) : ∃ d, v.day? = some d := by
  cases v with
  | date d => exact ⟨d, rfl⟩
  | text s => exact (isDateOnly_text.1 h).2.2
  | _ => cases h

theorem timestamp_text : timestamp name (.text text) =
    if strip text = "" then refuse name .dateTime
    else if !hasTime (strip text) ∧ (strip text).length = 10 then
      orRefuse name .dateTime ((Date.ofIso? (strip text)).map fun d => ⟨.startOf d, none⟩)
    else orRefuse name .dateTime (Timestamp.ofIso? (zuluAsOffset (strip text))) := by
  simp only [timestamp, Value.textOrEmpty_text]

theorem ne_empty_of_isTenDate (h : isTenDate (strip text)) : strip text ≠ "" := by
  intro hempty
  have hten := h.2
  rw [hempty] at hten
  cases hten

/-- Ten characters without a time mean the start of a date. -/
theorem timestamp_of_isTenDate (h : isTenDate (strip text)) :
    timestamp name (.text text) =
      orRefuse name .dateTime ((Date.ofIso? (strip text)).map fun d => ⟨.startOf d, none⟩) := by
  rw [timestamp_text, if_neg (ne_empty_of_isTenDate h), if_pos ⟨by rw [h.1]; rfl, h.2⟩]

/-- A date is read from its text, which has ten characters. -/
theorem timestamp_date (name : String) (d : Date) :
    timestamp name (.date d) = .ok ⟨.startOf d, none⟩ := by
  have hten : isTenDate (strip d.isoText) := by
    rw [d.strip_isoText]
    exact ⟨d.hasTime_isoText, d.length_isoText⟩
  have htext : timestamp name (.date d) = timestamp name (.text d.isoText) := by
    simp only [timestamp, Value.textOrEmpty_text]
    rfl
  rw [htext, timestamp_of_isTenDate hten, d.strip_isoText, d.ofIso?_isoText]
  rfl

/-- A date alone means the start of its day, if it can be read where a time may follow. -/
theorem eq_startOf_of_timestamp (halone : v.isDateOnly = true) (hday : v.day? = some d)
    (h : timestamp name v = .ok t) : t = ⟨.startOf d, none⟩ := by
  cases v with
  | date e =>
      cases hday
      rw [timestamp_date] at h
      exact (Except.ok.inj h).symm
  | text s =>
      obtain ⟨hne, htime, -⟩ := isDateOnly_text.1 halone
      have hdate : Date.ofIso? (strip s) = some d := hday
      -- Ten characters are read by the reader of dates, any others by the reader of times.
      by_cases hlength : (strip s).length = 10
      · rw [timestamp_of_isTenDate ⟨htime, hlength⟩, hdate] at h
        exact (Except.ok.inj h).symm
      · rw [timestamp_text, if_neg hne, if_neg fun hten => hlength hten.2] at h
        cases hread : Timestamp.ofIso? (zuluAsOffset (strip s)) with
        | none =>
            rw [hread] at h
            cases h
        | some u =>
            rw [hread] at h
            cases h
            exact eq_startOf_of_ofIso? hdate hlength hread
  | _ => cases halone

/-- A column keeps the start of a day, with an offset or without. -/
theorem exists_settle_startOf (aware : Bool) (d : Date) :
    ∃ offset, settle aware ⟨.startOf d, none⟩ = .ok ⟨.startOf d, offset⟩ := by
  cases aware with
  | false => exact ⟨none, rfl⟩
  | true => exact ⟨some .universal, rfl⟩

end Coercion

/-! ## The test of a day -/

theorem Cell.relate_moment (accepts : Ordering → Bool) (wall other : DateTime) :
    (Cell.moment wall).relate accepts (.moment other) =
      .ofBool (accepts (wall.compare other)) := rfl

namespace CellTest

/-- A time lies in a day if it is a time of the day. -/
theorem inDay_moment {next : Date} (h : d.next? = some next) (wall : DateTime) :
    inDay (.moment (.startOf d)) (.moment (.startOf next)) (.moment wall) =
      .ofBool (decide (wall.date = d)) := by
  have hday : (wall.compare (.startOf d) != .lt && wall.compare (.startOf next) == .lt) =
      decide (wall.date = d) := by
    rw [Bool.eq_iff_iff, Bool.and_eq_true, bne_iff_ne, beq_iff_eq, decide_eq_true_iff]
    exact DateTime.inDay_iff h
  rw [inDay, Cell.relate_moment, Cell.relate_moment, Truth.ofBool_and, hday]

/-- It is not known whether null lies in a day. -/
theorem inDay_null (start next : Cell) : inDay start next .null = .unknown := rfl

end CellTest

namespace Comparison

variable (hkind : column.kind = .moment aware)
include hkind

theorem bind_moment (t : Timestamp) :
    (Operand.single column.kind (.moment t)).bind = .ok (.moment t.wall) := by
  rw [hkind]
  rfl

theorem coerce_timestamp (hnull : v.isNull = false)
    (hread : Coercion.timestamp column.name v = .ok t) :
    column.kind.coerce column.name v = (Coercion.settle aware t).map .moment := by
  rw [hkind, ColumnKind.coerce_moment hnull, Coercion.moment, hread]
  rfl

theorem bind_dayFrom (op : Operator) (start : Timestamp) (next : DateTime) :
    (dayFrom column op start next).bind Operand.bind =
      .ok (if op = .eq then .onDay (.moment start.wall) (.moment next)
        else .offDay (.moment start.wall) (.moment next)) := by
  rw [dayFrom]
  split
  · rw [CellTest.bind, bind_moment hkind, bind_moment hkind]
    rfl
  · rw [CellTest.bind, bind_moment hkind, bind_moment hkind]
    rfl

variable (halone : v.isDateOnly = true)
include halone

variable (hop : op = .eq ∨ op = .ne)
include hop

/-- A comparison for equality with a date alone asks for a day. -/
theorem columnTest_eq_dayTest : columnTest column path op v = dayTest column op v := by
  have hasks : asksDay column op v = true := asksDay_iff.2 ⟨hop, by rw [hkind]; rfl, halone⟩
  have hcoerces : op.coerces = true := by
    rcases hop with rfl | rfl
    · rfl
    · rfl
  rw [columnTest_of_coerces hcoerces, if_pos hasks]

/-- The test is made with the ends of the day, if it has an end. -/
theorem columnTest_day (path : String)
    (hread : Coercion.timestamp column.name v = .ok ⟨.startOf d, none⟩) :
    ∃ offset, columnTest column path op v = match d.next? with
      | some next => .ok (dayFrom column op ⟨.startOf d, offset⟩ (.startOf next))
      | none => .error (.fault .dateRange) := by
  obtain ⟨offset, hsettle⟩ := Coercion.exists_settle_startOf aware d
  have hcoerce : column.kind.coerce column.name v = .ok (.moment ⟨.startOf d, offset⟩) := by
    rw [coerce_timestamp hkind (Coercion.isNull_of_isDateOnly halone) hread, hsettle]
    rfl
  have hend : (DateTime.startOf d).shift? microsPerDay = d.next?.map .startOf :=
    DateTime.shift?_day (.startOf d)
  refine ⟨offset, ?_⟩
  rw [columnTest_eq_dayTest hkind halone hop, dayTest_of_moment hcoerce]
  dsimp only
  rw [hend]
  cases d.next? <;> rfl

/-- A cell passes the comparison with a day that ends if it lies in the day, or if it is known to
lie outside. -/
theorem passes_iff_inDay
    (hread : Coercion.timestamp column.name v = .ok ⟨.startOf d, none⟩) (cell : Cell) :
    Passes ⟨path, op, v⟩ column cell ↔ ∃ next, d.next? = some next ∧
      CellTest.inDay (.moment (.startOf d)) (.moment (.startOf next)) cell =
        if op = .eq then .yes else .no := by
  obtain ⟨offset, htest⟩ := columnTest_day hkind halone hop path hread
  cases hnext : d.next? with
  | none =>
      rw [hnext] at htest
      refine iff_of_false (not_passes_of_error htest _) ?_
      rintro ⟨_, h, -⟩
      cases h
  | some next =>
      rw [hnext] at htest
      rw [passes_iff htest (bind_dayFrom hkind op _ _)]
      rcases hop with rfl | rfl
      · simp [CellTest.isOverlong, CellTest.truth]
      · simp [CellTest.isOverlong, CellTest.truth, Truth.not_eq_yes]

/-- A time passes the comparison with a day that is not the last if it is a time of the day, or if
it is not and another day is asked for. -/
theorem passes_day_iff
    (hread : Coercion.timestamp column.name v = .ok ⟨.startOf d, none⟩) (wall : DateTime) :
    Passes ⟨path, op, v⟩ column (.moment wall) ↔ d ≠ .last ∧ (op = .eq ↔ wall.date = d) := by
  rw [passes_iff_inDay hkind halone hop hread, Ne, ← Date.next?_eq_none]
  cases hnext : d.next? with
  | none => simp
  | some next =>
      have hday := CellTest.inDay_moment hnext wall
      by_cases hsame : wall.date = d
      · rcases hop with rfl | rfl <;> simp [hday, hsame, Truth.ofBool]
      · rcases hop with rfl | rfl <;> simp [hday, hsame, Truth.ofBool]

/-- Null passes no comparison with a day. -/
theorem not_passes_day_null
    (hread : Coercion.timestamp column.name v = .ok ⟨.startOf d, none⟩) :
    ¬ Passes ⟨path, op, v⟩ column .null := by
  rw [passes_iff_inDay hkind halone hop hread]
  rintro ⟨next, -, hday⟩
  rw [CellTest.inDay_null] at hday
  rcases hop with rfl | rfl <;> cases hday

/-- A comparison with a day can be made if the day ends and the value is read as its start. -/
theorem isOk_columnTest_day (path : String) (hday : v.day? = some d) :
    (columnTest column path op v).isOk = true ↔
      d ≠ .last ∧ Coercion.timestamp column.name v = .ok ⟨.startOf d, none⟩ := by
  cases hread : Coercion.timestamp column.name v with
  | error f =>
      have hcoerce : column.kind.coerce column.name v = .error f := by
        rw [hkind, ColumnKind.coerce_moment (Coercion.isNull_of_isDateOnly halone),
          Coercion.moment, hread]
        rfl
      rw [columnTest_eq_dayTest hkind halone hop, dayTest_of_error hcoerce]
      simp [Except.isOk, Except.toBool]
  | ok t =>
      obtain rfl := Coercion.eq_startOf_of_timestamp halone hday hread
      obtain ⟨offset, htest⟩ := columnTest_day hkind halone hop path hread
      rw [htest, Ne, ← Date.next?_eq_none]
      cases d.next? <;> simp [Except.isOk, Except.toBool]

omit hkind halone hop

/-! ## Whole days -/

/-- The comparisons for equality of a column of dates with times with a value that writes a date
alone ask for the times of its day, or for the times of all other days, and never for null.  They
can be made if the day ends and the value is read as its start. -/
structure ComparesDay (column : Column) (path : String) (v : Value) (d : Date) : Prop where
  made : ∀ op, op = .eq ∨ op = .ne → ((columnTest column path op v).isOk = true ↔
    d ≠ .last ∧ Coercion.timestamp column.name v = .ok ⟨.startOf d, none⟩)
  eq : (columnTest column path .eq v).isOk = true → ∀ wall,
    (Passes ⟨path, .eq, v⟩ column (.moment wall) ↔ wall.date = d)
  ne : (columnTest column path .ne v).isOk = true → ∀ wall,
    (Passes ⟨path, .ne, v⟩ column (.moment wall) ↔ wall.date ≠ d)
  null : ∀ op, op = .eq ∨ op = .ne → ¬ Passes ⟨path, op, v⟩ column .null

/-- A date alone is compared as a whole day, with offsets in the column or without. -/
theorem compares_whole_day (hkind : column.kind = .moment aware) (halone : v.isDateOnly = true)
    (path : String) : ∃ d, v.day? = some d ∧ ComparesDay column path v d := by
  obtain ⟨d, hday⟩ := Coercion.exists_day halone
  have hmade (op : Operator) (hop : op = .eq ∨ op = .ne) :=
    isOk_columnTest_day hkind halone hop path hday
  refine ⟨d, hday, hmade, ?_, ?_, ?_⟩
  · intro hok wall
    obtain ⟨hlast, hread⟩ := (hmade .eq (Or.inl rfl)).1 hok
    rw [passes_day_iff hkind halone (Or.inl rfl) hread]
    simp [hlast]
  · intro hok wall
    obtain ⟨hlast, hread⟩ := (hmade .ne (Or.inr rfl)).1 hok
    rw [passes_day_iff hkind halone (Or.inr rfl) hread]
    simp [hlast]
  · -- A comparison that is passed can be made.
    rintro op hop ⟨u, hu, hpasses⟩
    obtain ⟨t, ht, -⟩ := cellTest?_eq_some.1 hu
    have hok : (columnTest column path op v).isOk = true := by
      rw [ht]
      rfl
    exact not_passes_day_null hkind halone hop ((hmade op hop).1 hok).2 ⟨u, hu, hpasses⟩

/-- The Thursday of a week, with blanks around it: the last microsecond of the day is asked for, and
the start of the next is not. -/
theorem compares_whole_day_weekday :
    let column : Column := { name := "last_login_at", kind := .moment true, nullable := true }
    let value := Value.text " 2026W094\n"
    let late := DateTime.mk { year := 2026, month := 2, day := 26 } ⟨86399999999, by decide⟩
    let next := DateTime.startOf { year := 2026, month := 2, day := 27 }
    column.kind = .moment true ∧ value.isDateOnly = true ∧
      Passes ⟨"last_login_at", .eq, value⟩ column (.moment late) ∧
      ¬ Passes ⟨"last_login_at", .eq, value⟩ column (.moment next) ∧
      Passes ⟨"last_login_at", .ne, value⟩ column (.moment next) ∧
      ¬ Passes ⟨"last_login_at", .ne, value⟩ column .null := by
  intro column value late next
  have halone : value.isDateOnly = true := by decide +kernel
  obtain ⟨d, hday, hcompares⟩ : ∃ d, value.day? = some d ∧
      ComparesDay column "last_login_at" value d :=
    compares_whole_day rfl halone "last_login_at"
  obtain rfl : d = late.date := Option.some.inj (hday.symm.trans (by decide +kernel))
  have hstart : Timestamp.ofIso? (Coercion.zuluAsOffset (strip " 2026W094\n")) =
      some ⟨.startOf late.date, none⟩ := by
    decide +kernel
  have hread : Coercion.timestamp column.name value = .ok ⟨.startOf late.date, none⟩ := by
    rw [Coercion.timestamp_text, if_neg (by decide +kernel), if_neg (by decide +kernel), hstart]
    rfl
  have hmade (op : Operator) (hop : op = .eq ∨ op = .ne) :=
    (hcompares.made op hop).2 ⟨by decide, hread⟩
  refine ⟨rfl, halone, (hcompares.eq (hmade .eq (Or.inl rfl)) late).2 rfl, fun hpasses => ?_,
    (hcompares.ne (hmade .ne (Or.inr rfl)) next).2 (by decide), hcompares.null .ne (Or.inr rfl)⟩
  exact absurd ((hcompares.eq (hmade .eq (Or.inl rfl)) next).1 hpasses) (by decide)

end Comparison

end CollectionQuery
