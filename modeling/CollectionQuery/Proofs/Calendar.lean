import CollectionQuery.Calendar.DateTime

/-!
# The end of the calendar

Every date has a next one but the last, so the day that begins at a time ends at a time unless it is
the last day.
-/

namespace CollectionQuery.Calendar

namespace Date

/-- The last date. -/
def last : Date := { year := 9999, month := 12, day := 31 }

theorem ofParts?_eq_none {year month day : Nat} :
    ofParts? year month day = none ↔
      ¬ ((1 ≤ year ∧ year ≤ maxYear) ∧ (1 ≤ month ∧ month ≤ 12) ∧
        (1 ≤ day ∧ day ≤ daysInMonth year month)) := by
  rw [ofParts?]
  split
  · next hyear =>
      split
      · next hmonth =>
          split
          · next hday => simp [hyear, hmonth, hday]
          · next hday => simp [hday]
      · next hmonth => simp [hmonth]
  · next hyear => simp [hyear]

theorem one_le_daysInMonth (year month : Nat) : 1 ≤ daysInMonth year month := by
  rw [daysInMonth]
  split
  · split <;> omega
  · split <;> omega

theorem next?_eq_none {d : Date} : d.next? = none ↔ d = last := by
  constructor
  · intro h
    obtain ⟨year, month, day, hyear, hmonth, hday⟩ := d
    rw [next?] at h
    split at h
    · cases h
    next hsame =>
      split at h
      · cases h
      next hlater =>
        have hnext := one_le_daysInMonth year (month + 1)
        have hjanuary := one_le_daysInMonth (year + 1) 1
        simp only [ofParts?_eq_none] at hsame hlater h
        obtain rfl : month = 12 := by omega
        obtain rfl : year = 9999 := by
          simp only [maxYear] at *
          omega
        have hdays : daysInMonth 9999 12 = 31 := by decide
        obtain rfl : day = 31 := by omega
        rfl
  · rintro rfl
    decide

theorem addDays?_one (d : Date) : d.addDays? 1 = d.next? := by
  rw [addDays?, if_pos (by decide)]
  exact Option.bind_fun_some _

end Date

/-- A day later it is the same time of the next day. -/
theorem DateTime.shift?_day (t : DateTime) :
    t.shift? microsPerDay = t.date.next?.map fun d => ⟨d, t.time⟩ := by
  obtain ⟨d, micros, hmicros⟩ := t
  have hrest : (((micros : Int) + (microsPerDay : Int)) % (microsPerDay : Int)).toNat = micros := by
    rw [Int.add_emod_right, Int.emod_eq_of_lt (by omega) (by omega), Int.toNat_natCast]
  have hdays : ((micros : Int) + (microsPerDay : Int)) / (microsPerDay : Int) = 1 := by
    rw [Int.add_ediv_of_dvd_right (Int.dvd_refl _), Int.ediv_eq_zero_of_lt (by omega) (by omega),
      Int.ediv_self (by decide)]
    rfl
  rw [shift?]
  dsimp only
  split
  · rw [hdays, Date.addDays?_one]
    simp only [hrest]
  · next hlate => exact absurd (hrest.symm ▸ hmicros) hlate

/-- Only the last day does not end. -/
theorem DateTime.shift?_day_eq_none {t : DateTime} :
    t.shift? microsPerDay = none ↔ t.date = .last := by
  rw [shift?_day, Option.map_eq_none_iff, Date.next?_eq_none]

end CollectionQuery.Calendar
