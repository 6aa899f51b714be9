import CollectionQuery.Proofs.Calendar.Days
import Mathlib.Order.Monotone.Basic

/-!
# Instants

The days are numbered from the first day of the year 1, by counting the days of all months before.
The next date has the next number, so moving a date by days adds to its number, and moving a clock
adds to the time since the start of the calendar.  Readings of one instant are then turned into the
same universal time, or into none if that lies outside of the calendar.
-/

namespace CollectionQuery.Calendar

/-! ## Counting days -/

/-- The number of days of the first months of a year. -/
def daysOfMonths (year : Nat) : (months : Nat) → Nat
  | 0 => 0
  | months + 1 => daysOfMonths year months + daysInMonth year (months + 1)

/-- The number of days of the first years. -/
def daysOfYears : (years : Nat) → Nat
  | 0 => 0
  | years + 1 => daysOfYears years + daysOfMonths (years + 1) 12

theorem daysOfMonths_eq {month : Nat} (h : 1 ≤ month) (year : Nat) :
    daysOfMonths year month = daysOfMonths year (month - 1) + daysInMonth year month := by
  obtain ⟨months, rfl⟩ := Nat.exists_eq_add_of_le' h
  rfl

theorem daysOfYears_eq {year : Nat} (h : 1 ≤ year) :
    daysOfYears year = daysOfYears (year - 1) + daysOfMonths year 12 := by
  obtain ⟨years, rfl⟩ := Nat.exists_eq_add_of_le' h
  rfl

theorem daysOfMonths_mono (year : Nat) : Monotone (daysOfMonths year) :=
  monotone_nat_of_le_succ fun _ => Nat.le_add_right _ _

theorem daysOfYears_mono : Monotone daysOfYears :=
  monotone_nat_of_le_succ fun _ => Nat.le_add_right _ _

namespace Date

variable {d e : Date} {n : Nat} {days : Int}

/-- The number of a day, from 1. -/
def ordinal (d : Date) : Nat :=
  daysOfYears (d.year - 1) + daysOfMonths d.year (d.month - 1) + d.day

/-- The first date. -/
def first : Date := default

/-! ## Order -/

theorem ordinal_le_month (d : Date) :
    d.ordinal ≤ daysOfYears (d.year - 1) + daysOfMonths d.year d.month := by
  have hday := d.day_ok.2
  rw [ordinal, daysOfMonths_eq d.month_ok.1]
  omega

theorem ordinal_le_year (d : Date) : d.ordinal ≤ daysOfYears d.year := by
  have hmonths := daysOfMonths_mono d.year d.month_ok.2
  have hmonth := d.ordinal_le_month
  rw [daysOfYears_eq d.year_ok.1]
  omega

theorem ordinal_lt (h : d.number < e.number) : d.ordinal < e.ordinal := by
  have hdmonth := d.month_ok
  have hemonth := e.month_ok
  have hdday := d.day_le
  have heday := e.day_le
  have hfirst := e.day_ok.1
  have hordinal : e.ordinal =
    daysOfYears (e.year - 1) + daysOfMonths e.year (e.month - 1) + e.day := rfl
  rw [number, number] at h
  rcases Nat.lt_trichotomy d.year e.year with hyear | hyear | hyear
  · have hle := d.ordinal_le_year
    have hyears := daysOfYears_mono (Nat.le_sub_one_of_lt hyear)
    omega
  · rcases Nat.lt_trichotomy d.month e.month with hmonth | hmonth | hmonth
    · have hle := d.ordinal_le_month
      have hmonths := daysOfMonths_mono e.year (Nat.le_sub_one_of_lt hmonth)
      rw [hyear] at hle
      omega
    · rw [ordinal, hyear, hmonth]
      omega
    · omega
  · omega

/-- Different dates have different numbers. -/
theorem ordinal_inj : d.ordinal = e.ordinal ↔ d = e := by
  refine ⟨fun h => number_inj.1 ?_, congrArg ordinal⟩
  rcases Nat.lt_trichotomy d.number e.number with hlt | heq | hgt
  · exact absurd h (Nat.ne_of_lt (ordinal_lt hlt))
  · exact heq
  · exact absurd h.symm (Nat.ne_of_lt (ordinal_lt hgt))

theorem ordinal_le_of_number_le (h : d.number ≤ e.number) : d.ordinal ≤ e.ordinal := by
  rcases Nat.lt_or_eq_of_le h with hlt | heq
  · exact Nat.le_of_lt (ordinal_lt hlt)
  · exact Nat.le_of_eq (congrArg ordinal (number_inj.1 heq))

theorem ordinal_le_last (d : Date) : d.ordinal ≤ last.ordinal := by
  have hyear : d.year ≤ 9999 := d.year_ok.2
  have hmonth := d.month_ok
  have hday := d.day_le
  refine ordinal_le_of_number_le ?_
  show (d.year * 13 + d.month) * 32 + d.day ≤ (9999 * 13 + 12) * 32 + 31
  omega

theorem first_ordinal_le (d : Date) : first.ordinal ≤ d.ordinal := by
  have hyear := d.year_ok
  have hmonth := d.month_ok
  have hday := d.day_ok
  refine ordinal_le_of_number_le ?_
  show (1 * 13 + 1) * 32 + 1 ≤ (d.year * 13 + d.month) * 32 + d.day
  omega

/-! ## Steps -/

/-- The next date has the next number. -/
theorem ordinal_next? (h : d.next? = some e) : e.ordinal = d.ordinal + 1 := by
  have hmonth := d.month_ok
  have hday := d.day_ok
  rw [next?] at h
  split at h
  next hsame =>
    cases h
    obtain ⟨h₁, h₂, h₃⟩ := ofParts?_eq_some hsame
    rw [ordinal, ordinal, h₁, h₂, h₃]
    rfl
  next hsame =>
    rw [ofParts?_eq_none] at hsame
    have hyear := d.year_ok
    have hfull : d.day = daysInMonth d.year d.month := by omega
    have hwhole : d.ordinal = daysOfYears (d.year - 1) + daysOfMonths d.year d.month := by
      rw [ordinal, hfull, daysOfMonths_eq hmonth.1, Nat.add_assoc]
    split at h
    next hlater =>
      cases h
      obtain ⟨h₁, h₂, h₃⟩ := ofParts?_eq_some hlater
      rw [hwhole, ordinal, h₁, h₂, h₃, Nat.add_sub_cancel]
    next hlater =>
      have hfirst := one_le_daysInMonth d.year (d.month + 1)
      rw [ofParts?_eq_none] at hlater
      obtain ⟨h₁, h₂, h₃⟩ := ofParts?_eq_some h
      have hlast : d.month = 12 := by omega
      rw [hwhole, ordinal, h₁, h₂, h₃, hlast, Nat.add_sub_cancel, daysOfYears_eq hyear.1]
      rfl

-- The first day of 1970.
example : (⟨1970, 1, 1, by decide, by decide, by decide⟩ : Date).ordinal = 719163 := by
  decide +kernel

/-- The date before has the number before. -/
theorem ordinal_prev? (h : d.prev? = some e) : d.ordinal = e.ordinal + 1 := by
  have hmonth := d.month_ok
  have hday := d.day_ok
  rw [prev?] at h
  split at h
  · obtain ⟨h₁, h₂, h₃⟩ := ofParts?_eq_some h
    rw [ordinal, ordinal, h₁, h₂, h₃]
    omega
  next hday' =>
    have hone : d.day = 1 := by omega
    split at h
    · obtain ⟨h₁, h₂, h₃⟩ := ofParts?_eq_some h
      have hmonths := daysOfMonths_eq e.month_ok.1 d.year
      rw [h₂] at hmonths
      rw [ordinal, ordinal, h₁, h₂, h₃, hone, hmonths, Nat.add_assoc _ _ (daysInMonth _ _)]
    · obtain ⟨h₁, h₂, h₃⟩ := ofParts?_eq_some h
      have hjanuary : d.month = 1 := by omega
      have hyears := daysOfYears_eq e.year_ok.1
      have hmonths := daysOfMonths_eq e.month_ok.1 e.year
      have hdecember : daysInMonth e.year 12 = 31 := rfl
      rw [h₁] at hyears
      rw [h₁, h₂] at hmonths
      rw [h₁] at hdecember
      rw [ordinal, ordinal, h₁, h₂, h₃, hone, hjanuary, hyears, hmonths, hdecember]
      show _ + 0 + 1 = _
      omega

theorem prev?_eq_none (h : d.prev? = none) : d = first := by
  have hyear := d.year_ok
  have hmonth := d.month_ok
  have hday := d.day_ok
  rw [prev?] at h
  split at h
  · rw [ofParts?_eq_none] at h
    omega
  · split at h
    · have hlast := one_le_daysInMonth d.year (d.month - 1)
      rw [ofParts?_eq_none] at h
      omega
    · have hdecember : daysInMonth (d.year - 1) 12 = 31 := rfl
      rw [ofParts?_eq_none, hdecember] at h
      simp only [maxYear] at hyear h
      exact eq_of_parts (show d.year = 1 by omega) (show d.month = 1 by omega)
        (show d.day = 1 by omega)

theorem steps_next?_eq_some : steps next? n d = some e ↔ e.ordinal = d.ordinal + n := by
  induction n generalizing d with
  | zero => rw [steps, Option.some.injEq, Nat.add_zero, eq_comm, ordinal_inj]
  | succ n ih =>
      rw [steps]
      cases hnext : d.next? with
      | none =>
          have hle := e.ordinal_le_last
          rw [← next?_eq_none.1 hnext] at hle
          refine iff_of_false nofun ?_
          omega
      | some next =>
          rw [Option.bind_some, ih, ordinal_next? hnext]
          omega

theorem steps_prev?_eq_some : steps prev? n d = some e ↔ e.ordinal + n = d.ordinal := by
  induction n generalizing d with
  | zero => rw [steps, Option.some.injEq, Nat.add_zero, eq_comm, ordinal_inj]
  | succ n ih =>
      rw [steps]
      cases hprev : d.prev? with
      | none =>
          have hle := e.first_ordinal_le
          rw [← prev?_eq_none hprev] at hle
          refine iff_of_false nofun ?_
          omega
      | some before =>
          have hbefore := ordinal_prev? hprev
          rw [Option.bind_some, ih]
          omega

/-- Moving a date by days adds them to its number. -/
theorem addDays?_eq_some : d.addDays? days = some e ↔ (e.ordinal : Int) = d.ordinal + days := by
  rw [addDays?]
  split
  · rw [steps_next?_eq_some]
    omega
  · rw [steps_prev?_eq_some]
    omega

end Date

/-! ## Clocks -/

namespace DateTime

variable {t u : DateTime} {micros : Int}

/-- The microseconds since the calendar began, and a day more. -/
def elapsed (t : DateTime) : Int := t.date.ordinal * microsPerDay + t.time.micros

theorem elapsed_inj : t.elapsed = u.elapsed ↔ t = u := by
  refine ⟨fun h => ?_, congrArg elapsed⟩
  obtain ⟨d, micros, hmicros⟩ := t
  obtain ⟨e, micros', hmicros'⟩ := u
  simp only [elapsed, microsPerDay] at h hmicros hmicros'
  have hdates : d.ordinal = e.ordinal := by omega
  have htimes : micros = micros' := by omega
  cases Date.ordinal_inj.1 hdates
  cases htimes
  rfl

/-- Moving a clock adds to the time that has elapsed. -/
theorem shift?_eq_some : t.shift? micros = some u ↔ u.elapsed = t.elapsed + micros := by
  have hrest : ((t.time.micros + micros) % (microsPerDay : Int)).toNat < microsPerDay := by
    have := Int.emod_lt_of_pos (t.time.micros + micros) (show (0 : Int) < microsPerDay by decide)
    have := Int.emod_nonneg (t.time.micros + micros) (show (microsPerDay : Int) ≠ 0 by decide)
    omega
  have hdays := Int.mul_ediv_add_emod (t.time.micros + micros) microsPerDay
  rw [shift?, dif_pos hrest, Option.map_eq_some_iff]
  obtain ⟨e, other, hother⟩ := u
  constructor
  · rintro ⟨d, hd, heq⟩
    cases heq
    rw [Date.addDays?_eq_some] at hd
    simp only [elapsed, microsPerDay] at *
    omega
  · intro h
    simp only [elapsed, microsPerDay] at h hdays hother
    refine ⟨e, Date.addDays?_eq_some.2 ?_, ?_⟩
    · simp only [microsPerDay]
      omega
    · have htime : ((t.time.micros + micros) % (microsPerDay : Int)).toNat = other := by
        simp only [microsPerDay]
        omega
      cases htime
      rfl

end DateTime

/-! ## Instants -/

namespace Timestamp

variable {t u : Timestamp} {wall : DateTime}

/-- The time that has elapsed at universal time; a reading without offset counts as universal. -/
def instant (t : Timestamp) : Int := t.wall.elapsed - (t.offset.getD .universal).micros

/-- The universal time of a reading is the one that denotes the same instant. -/
theorem toUniversal?_eq_some : t.toUniversal? = some wall ↔ wall.elapsed = t.instant := by
  obtain ⟨clock, offset⟩ := t
  rw [toUniversal?, instant]
  cases offset with
  | none =>
      rw [Option.some.injEq, eq_comm, ← DateTime.elapsed_inj]
      show _ ↔ _ = clock.elapsed - 0
      rw [Int.sub_zero]
  | some o =>
      dsimp only
      rw [DateTime.shift?_eq_some, Int.sub_eq_add_neg]
      rfl

/-- Readings of one instant have the same universal time, or none of them has one. -/
theorem toUniversal?_congr (h : t.instant = u.instant) : t.toUniversal? = u.toUniversal? := by
  ext wall
  rw [toUniversal?_eq_some, toUniversal?_eq_some, h]

/-- Readings of one instant on clocks that show the same have the same offset. -/
theorem eq_of_instant_eq (h : t.instant = u.instant) (hwall : t.wall = u.wall)
    (ht : t.isAware = true) (hu : u.isAware = true) : t = u := by
  obtain ⟨clock, offset⟩ := t
  obtain ⟨clock', offset'⟩ := u
  obtain ⟨⟨micros, hmicros⟩, rfl⟩ := Option.isSome_iff_exists.1 ht
  obtain ⟨⟨micros', hmicros'⟩, rfl⟩ := Option.isSome_iff_exists.1 hu
  cases hwall
  obtain rfl : micros = micros' := by
    simp only [instant, Option.getD_some] at h
    omega
  rfl

end Timestamp

end CollectionQuery.Calendar
