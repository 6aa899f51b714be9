import CollectionQuery.Proofs.Calendar

/-!
# Days

Dates are ordered as their numbers are, where a month counts 32 days and a year 13 months.  No date
lies between a date and the next, so the times that are not before the start of a day and before the
start of the next are those of the day.  A clock that is moved by less than a day shows the same
again only if it is not moved.
-/

namespace CollectionQuery.Calendar

/-- Numbers are compared by the quotients first and then by the remainders. -/
theorem compare_mul_add {n a b a' b' : Nat} (hb : b < n) (hb' : b' < n) :
    Ord.compare (a * n + b) (a' * n + b') = (Ord.compare a a').then (Ord.compare b b') := by
  have hless {x y : Nat} (h : x < y) : x * n + n ≤ y * n := by
    rw [← Nat.succ_mul]
    exact Nat.mul_le_mul_right n h
  rcases Nat.lt_trichotomy a a' with h | rfl | h
  · have := hless h
    rw [Nat.compare_eq_lt.2 h, Nat.compare_eq_lt.2 (by omega), Ordering.lt_then]
  · rw [Nat.compare_eq_eq.2 rfl, Ordering.eq_then]
    simp only [Nat.compare_eq_ite_lt, Nat.add_lt_add_iff_left]
  · have := hless h
    rw [Nat.compare_eq_gt.2 h, Nat.compare_eq_gt.2 (by omega), Ordering.gt_then]

namespace Date

/-- A number that grows with the date. -/
def number (d : Date) : Nat := (d.year * 13 + d.month) * 32 + d.day

theorem daysInMonth_le (year month : Nat) : daysInMonth year month ≤ 31 := by
  rw [daysInMonth]
  split
  · split <;> omega
  · split <;> omega

theorem day_le (d : Date) : d.day ≤ 31 := Nat.le_trans d.day_ok.2 (daysInMonth_le _ _)

theorem eq_of_parts {d e : Date} (hyear : d.year = e.year) (hmonth : d.month = e.month)
    (hday : d.day = e.day) : d = e := by
  cases d
  cases e
  simp_all

theorem number_inj {d e : Date} : d.number = e.number ↔ d = e := by
  refine ⟨fun h => ?_, congrArg number⟩
  have := d.month_ok
  have := e.month_ok
  have := d.day_le
  have := e.day_le
  rw [number, number] at h
  exact eq_of_parts (by omega) (by omega) (by omega)

theorem compare_eq (d e : Date) : d.compare e = Ord.compare d.number e.number := by
  have := d.month_ok
  have := e.month_ok
  have := d.day_le
  have := e.day_le
  rw [compare, number, number, compare_mul_add (by omega) (by omega),
    compare_mul_add (by omega) (by omega), Ordering.then_assoc]

theorem ofParts?_eq_some {year month day : Nat} {d : Date} (h : ofParts? year month day = some d) :
    d.year = year ∧ d.month = month ∧ d.day = day := by
  rw [ofParts?] at h
  split at h
  · split at h
    · split at h
      · cases h
        exact ⟨rfl, rfl, rfl⟩
      · cases h
    · cases h
  · cases h

/-- No date lies between a date and the next. -/
theorem eq_of_next? {d e x : Date} (h : d.next? = some e) (hfrom : d.number ≤ x.number)
    (hbefore : x.number < e.number) : x = d := by
  have hdmonth := d.month_ok
  have hdday := d.day_ok
  have hddays := d.day_le
  have hmonth := x.month_ok
  have hday := x.day_ok
  have hdays := x.day_le
  rw [number, number] at hfrom hbefore
  rw [next?] at h
  split at h
  next hsame =>
    cases h
    obtain ⟨h₁, h₂, h₃⟩ := ofParts?_eq_some hsame
    exact eq_of_parts (by omega) (by omega) (by omega)
  next hsame =>
    rw [ofParts?_eq_none] at hsame
    have hyear := d.year_ok
    have hfull : d.day = daysInMonth d.year d.month := by omega
    have hlast (hyear : x.year = d.year) (hmonth : x.month = d.month) : x = d := by
      rw [hyear, hmonth, ← hfull] at hday
      exact eq_of_parts hyear hmonth (by rw [hyear, hmonth] at hfrom; omega)
    split at h
    next hlater =>
      cases h
      obtain ⟨h₁, h₂, h₃⟩ := ofParts?_eq_some hlater
      exact hlast (by omega) (by omega)
    next hlater =>
      have hfirst := one_le_daysInMonth d.year (d.month + 1)
      rw [ofParts?_eq_none] at hlater
      obtain ⟨h₁, h₂, h₃⟩ := ofParts?_eq_some h
      exact hlast (by omega) (by omega)

theorem number_lt_of_next? {d e : Date} (h : d.next? = some e) : d.number < e.number := by
  have hday := d.day_le
  have hmonth := d.month_ok
  rw [next?] at h
  rw [number, number]
  split at h
  next hsame =>
    cases h
    obtain ⟨h₁, h₂, h₃⟩ := ofParts?_eq_some hsame
    omega
  next =>
    split at h
    next hlater =>
      cases h
      obtain ⟨h₁, h₂, h₃⟩ := ofParts?_eq_some hlater
      omega
    next =>
      obtain ⟨h₁, h₂, h₃⟩ := ofParts?_eq_some h
      omega

end Date

namespace DateTime

variable {t : DateTime} {d e : Date}

theorem compare_eq_eq {u : DateTime} : t.compare u = .eq ↔ t = u := by
  obtain ⟨date, time, htime⟩ := t
  obtain ⟨date', time', htime'⟩ := u
  rw [compare, Ordering.then_eq_eq, Date.compare_eq, Nat.compare_eq_eq, Nat.compare_eq_eq,
    Date.number_inj]
  simp

theorem compare_startOf (t : DateTime) (d : Date) :
    t.compare (.startOf d) = .lt ↔ t.date.number < d.number := by
  rw [compare, Ordering.then_eq_lt, Date.compare_eq, Nat.compare_eq_lt, Nat.compare_eq_lt]
  refine or_iff_left ?_
  rintro ⟨-, h⟩
  exact absurd h (Nat.not_lt_zero _)

/-- The times between the start of a day and the start of the next are those of the day. -/
theorem inDay_iff (h : d.next? = some e) :
    t.compare (.startOf d) ≠ .lt ∧ t.compare (.startOf e) = .lt ↔ t.date = d := by
  rw [Ne, compare_startOf, compare_startOf, Nat.not_lt]
  constructor
  · rintro ⟨hfrom, hbefore⟩
    exact Date.eq_of_next? h hfrom hbefore
  · rintro rfl
    exact ⟨Nat.le_refl _, Date.number_lt_of_next? h⟩

/-- A clock that is moved by less than a day shows another time. -/
theorem shift?_eq_self {micros : Int} (h : micros.natAbs < microsPerDay) :
    t.shift? micros = some t ↔ micros = 0 := by
  obtain ⟨d, time, htime⟩ := t
  constructor
  · intro hshift
    rw [shift?] at hshift
    dsimp only at hshift
    split at hshift
    · next hrest =>
        obtain ⟨_, -, heq⟩ := Option.map_eq_some_iff.1 hshift
        obtain ⟨-, htimes⟩ := DateTime.mk.inj heq
        have hmicros := TimeOfDay.mk.inj htimes
        rw [microsPerDay] at h htime hmicros
        omega
    · cases hshift
  · rintro rfl
    have hrest : ((time : Int) + 0) % (microsPerDay : Int) = time := by
      rw [Int.add_zero, Int.emod_eq_of_lt (by omega) (by omega)]
    have hdays : ((time : Int) + 0) / (microsPerDay : Int) = 0 := by
      rw [Int.add_zero, Int.ediv_eq_zero_of_lt (by omega) (by omega)]
    rw [shift?]
    dsimp only
    rw [dif_pos (by rw [hrest]; exact htime)]
    simp only [hrest, hdays, Int.toNat_natCast]
    rfl

end DateTime

/-- A clock shows universal time if its offset is none. -/
theorem Timestamp.toUniversal?_eq_wall {t : Timestamp} :
    t.toUniversal? = some t.wall ↔ ∀ o, t.offset = some o → o.micros = 0 := by
  rw [toUniversal?]
  cases t.offset with
  | none => simp
  | some o =>
      have hday : (-o.micros).natAbs < microsPerDay := by
        rw [Int.natAbs_neg]
        exact o.inDay
      dsimp only
      rw [DateTime.shift?_eq_self hday, Int.neg_eq_zero]
      simp

end CollectionQuery.Calendar
