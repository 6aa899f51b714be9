import CollectionQuery.Proofs.Coercion

/-!
# The type of a column

A column of truth values, numbers, dates, dates with times or identifiers has a type of its own, and
a filter value that is not null takes it or is refused.  The numbers of the type are those that the
column can hold: integers of its size, and no infinity and no nan.  The dates with times have an
offset exactly if the column is aware.  A value that has the type already stays as it is.
-/

namespace CollectionQuery

open CollectionQuery.Number CollectionQuery.Calendar

variable {kind : ColumnKind} {column : String} {v w : Value}

/-- The values of the type of a column. -/
inductive ColumnKind.HasType : ColumnKind → Value → Prop
  | boolean (b : Bool) : HasType .boolean (.bool b)
  | integer {bits : Nat} {n : Int} (fit : fits bits n = true) : HasType (.integer bits) (.int n)
  | float {x : Binary64} (finite : x.isFinite = true) : HasType .float (.float x)
  | numeric {d : Decimal} (finite : d.isFinite = true) : HasType .numeric (.decimal d)
  | date (d : Date) : HasType .date (.date d)
  | moment {t : Timestamp} : HasType (.moment t.isAware) (.moment t)
  | uuid (u : Uuid) : HasType .uuid (.uuid u)

/-- The columns that have a type of their own. -/
def ColumnKind.hasOwnType : ColumnKind → Bool
  | .text _ => false
  | .json => false
  | _ => true

/-! ## Checks -/

namespace Coercion

/-- What a check gives back is what it is given, and meets the condition. -/
theorem check_eq_ok {α : Type} {label : ValueKind} {p : Prop} [Decidable p] {a b : α} :
    (if p then .ok a else refuse column label : Except Failure α) = .ok b ↔ a = b ∧ p := by
  by_cases hp : p
  · simp [hp]
  · simp [hp, refuse]

theorem checkInteger_eq_ok {bits : Nat} {n m : Int} :
    checkInteger column bits n = .ok m ↔ n = m ∧ fits bits n = true := check_eq_ok

theorem checkFloat_eq_ok {x y : Binary64} :
    checkFloat column x = .ok y ↔ x = y ∧ x.isFinite = true := check_eq_ok

theorem checkDecimal_eq_ok {d e : Decimal} :
    checkDecimal column d = .ok e ↔ d = e ∧ d.isFinite = true := check_eq_ok

/-- An integer that is read has the size of its column. -/
theorem fits_of_integer {bits : Nat} {n : Int} (h : integer column bits v = .ok n) :
    fits bits n = true := by
  have hcheck {m : Int} (h : checkInteger column bits m = .ok n) : fits bits n = true := by
    obtain ⟨rfl, hfits⟩ := checkInteger_eq_ok.1 h
    exact hfits
  unfold integer at h
  split at h
  · exact hcheck h
  · obtain ⟨m, -, h⟩ := bind_eq_ok.1 h
    exact hcheck h
  · obtain ⟨text, -, h⟩ := bind_eq_ok.1 h
    obtain ⟨m, -, h⟩ := bind_eq_ok.1 h
    exact hcheck h

theorem isFinite_of_float {x : Binary64} (h : float column v = .ok x) : x.isFinite = true := by
  have hcheck {y : Binary64} (h : checkFloat column y = .ok x) : x.isFinite = true := by
    obtain ⟨rfl, hfinite⟩ := checkFloat_eq_ok.1 h
    exact hfinite
  unfold float at h
  split at h
  · obtain ⟨y, -, h⟩ := bind_eq_ok.1 h
    exact hcheck h
  · exact hcheck h
  · obtain ⟨text, -, h⟩ := bind_eq_ok.1 h
    obtain ⟨y, -, h⟩ := bind_eq_ok.1 h
    exact hcheck h

theorem isFinite_of_decimal {d : Decimal} (h : decimal column v = .ok d) :
    d.isFinite = true := by
  have hcheck {e : Decimal} (h : checkDecimal column e = .ok d) : d.isFinite = true := by
    obtain ⟨rfl, hfinite⟩ := checkDecimal_eq_ok.1 h
    exact hfinite
  unfold decimal at h
  split at h
  · exact hcheck h
  · cases h
    rfl
  · obtain ⟨e, -, h⟩ := bind_eq_ok.1 h
    exact hcheck h
  · obtain ⟨text, -, h⟩ := bind_eq_ok.1 h
    obtain ⟨e, -, h⟩ := bind_eq_ok.1 h
    exact hcheck h

/-- A column keeps dates with times with an offset exactly if it is aware. -/
theorem isAware_of_settle {aware : Bool} {t kept : Timestamp} (h : settle aware t = .ok kept) :
    kept.isAware = aware := by
  rw [settle] at h
  cases aware with
  | true =>
      cases h
      rfl
  | false =>
      cases htime : t.toUniversal? with
      | none => simp [htime] at h
      | some wall =>
          simp only [htime] at h
          cases h
          rfl

/-- What a column keeps it keeps as it is. -/
theorem settle_isAware (t : Timestamp) : settle t.isAware t = .ok t := by
  obtain ⟨wall, offset⟩ := t
  cases offset with
  | none => rfl
  | some o => rfl

end Coercion

/-! ## Values of the type -/

namespace ColumnKind

/-- A value that takes the type of a column has it. -/
theorem hasType_of_coerce (hown : kind.hasOwnType = true) (hnull : v.isNull = false)
    (h : kind.coerce column v = .ok w) : kind.HasType w := by
  rw [coerce.eq_def, hnull] at h
  cases kind with
  | text length => cases hown
  | json => cases hown
  | boolean =>
      obtain ⟨b, -, rfl⟩ := map_eq_ok.1 h
      exact .boolean b
  | integer bits =>
      obtain ⟨n, hn, rfl⟩ := map_eq_ok.1 h
      exact .integer (Coercion.fits_of_integer hn)
  | float =>
      obtain ⟨x, hx, rfl⟩ := map_eq_ok.1 h
      exact .float (Coercion.isFinite_of_float hx)
  | numeric =>
      obtain ⟨d, hd, rfl⟩ := map_eq_ok.1 h
      exact .numeric (Coercion.isFinite_of_decimal hd)
  | date =>
      obtain ⟨d, -, rfl⟩ := map_eq_ok.1 h
      exact .date d
  | moment aware =>
      obtain ⟨kept, hkept, rfl⟩ := map_eq_ok.1 h
      obtain ⟨t, -, hsettle⟩ := bind_eq_ok.1 hkept
      obtain rfl := Coercion.isAware_of_settle hsettle
      exact .moment
  | uuid =>
      obtain ⟨u, -, rfl⟩ := map_eq_ok.1 h
      exact .uuid u

/-- A value that has the type of a column stays as it is. -/
theorem HasType.coerce_eq_self (h : kind.HasType w) (column : String) :
    kind.coerce column w = .ok w := by
  cases h with
  | boolean b => rfl
  | integer fit =>
      show (Coercion.checkInteger column _ _).map Value.int = _
      rw [Coercion.checkInteger_eq_ok.2 ⟨rfl, fit⟩]
      rfl
  | float finite =>
      show (Coercion.checkFloat column _).map Value.float = _
      rw [Coercion.checkFloat_eq_ok.2 ⟨rfl, finite⟩]
      rfl
  | numeric finite =>
      show (Coercion.checkDecimal column _).map Value.decimal = _
      rw [Coercion.checkDecimal_eq_ok.2 ⟨rfl, finite⟩]
      rfl
  | date d => rfl
  | moment =>
      show (Coercion.settle _ _).map Value.moment = _
      rw [Coercion.settle_isAware]
      rfl
  | uuid u => rfl

/-- A value that a column of its own type takes is turned into one of the type, and stays as it is
if it is taken again. -/
theorem coerce_sound (hown : kind.hasOwnType = true) (hnull : v.isNull = false)
    (h : kind.coerce column v = .ok w) : kind.HasType w ∧ kind.coerce column w = .ok w := by
  have htype : kind.HasType w := hasType_of_coerce hown hnull h
  exact ⟨htype, htype.coerce_eq_self column⟩

/-- A number with a comma in a column of decimal numbers. -/
theorem coerce_sound_comma :
    (Value.text " -1,50").isNull = false ∧
      ColumnKind.numeric.coerce "price" (.text " -1,50") = .ok (.decimal (.finite true 150 (-2))) ∧
      ColumnKind.numeric.HasType (.decimal (.finite true 150 (-2))) := by
  have htakes : ColumnKind.numeric.coerce "price" (.text " -1,50") =
      .ok (.decimal (.finite true 150 (-2))) := by rfl
  exact ⟨rfl, htakes, (coerce_sound rfl rfl htakes).1⟩

end ColumnKind

end CollectionQuery
