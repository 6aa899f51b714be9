import CollectionQuery.Cell.Binding

/-!
# The types of cells

What a column may hold by its kind, and that it holds this: the cell that a value becomes in a
column has the type of the column.  Not every value becomes a cell: `stores` says which ones do, by
the kind of the column.
-/

namespace CollectionQuery

/-- Whether a column of a kind may hold a cell.  A column of numbers keeps a text that writes no
number, a column of texts may hold the hash of a password, and a column of identifiers the number
that stands for one. -/
def ColumnKind.admits : ColumnKind → Cell → Bool
  | _, .null => true
  | .text _, .text _ => true
  | .text _, .hash _ => true
  | .boolean, .bool _ => true
  | .integer _, c => c.rank == 1 || c.rank == 2
  | .float, c => c.rank == 1 || c.rank == 2
  | .numeric, c => c.rank == 1 || c.rank == 2
  | .moment _, .moment _ => true
  | .uuid, .uuid u => u.isLegible
  | .uuid, .int _ => true
  | .uuid, .real _ => true
  | _, _ => false

namespace Cell

variable {v : Value} {cell : Cell}

/-! ## Numbers -/

theorem rank_ofNumber (x : Number.Binary64) :
    ofNumber x = .null ∨ (ofNumber x).rank = 1 := by
  cases x with
  | nan => exact Or.inl rfl
  | _ =>
      right
      simp only [ofNumber]
      split <;> rfl

theorem rank_ofNumeral (text : String) :
    ofNumeral text = .null ∨ (ofNumeral text).rank = 1 ∨ (ofNumeral text).rank = 2 := by
  rw [ofNumeral]
  dsimp only
  split
  · exact Or.inr (Or.inr rfl)
  · split
    · split
      · exact Or.inr (Or.inl rfl)
      · exact (rank_ofNumber _).imp_right Or.inl
    · exact (rank_ofNumber _).imp_right Or.inl

/-- What is stored as a number is null, a number, or a text that writes none. -/
theorem rank_bindNumber (h : bindNumber v = .ok cell) :
    cell = .null ∨ cell.rank = 1 ∨ cell.rank = 2 := by
  cases v with
  | null =>
      cases h
      exact Or.inl rfl
  | bool b =>
      cases h
      exact Or.inr (Or.inl rfl)
  | int n =>
      rw [bindNumber] at h
      split at h <;> cases h
      exact Or.inr (Or.inl rfl)
  | float x =>
      obtain rfl := Except.ok.inj h
      exact (rank_ofNumber x).imp_right Or.inl
  | text s =>
      obtain rfl := Except.ok.inj h
      exact rank_ofNumeral s
  | date d =>
      obtain rfl := Except.ok.inj h
      exact rank_ofNumeral _
  | moment t =>
      obtain rfl := Except.ok.inj h
      exact rank_ofNumeral _
  | _ => cases h

/-! ## Texts -/

/-- What is stored as a text is null or a text. -/
theorem text_bindText (h : bindText v = .ok cell) : cell = .null ∨ ∃ text, cell = .text text := by
  cases v with
  | null =>
      cases h
      exact Or.inl rfl
  | int n =>
      rw [bindText] at h
      split at h <;> cases h
      exact Or.inr ⟨_, rfl⟩
  | float x =>
      cases x with
      | nan =>
          cases h
          exact Or.inl rfl
      | _ => exact Or.inr ⟨_, (Except.ok.inj h).symm⟩
  | decimal _ => cases h
  | uuid _ => cases h
  | list _ => cases h
  | tuple _ => cases h
  | object _ => cases h
  | mixed _ => cases h
  | unpaired _ => cases h
  | _ => exact Or.inr ⟨_, (Except.ok.inj h).symm⟩

/-! ## Identifiers -/

variable {u : Uuid}

theorem ofUuid_eq_uuid : ofUuid u = .uuid u ↔ u.isLegible = true := beq_iff_eq.symm

/-- An identifier is stored as itself if it is legible, and as a number if it is not. -/
theorem ofUuid_cases (u : Uuid) :
    (u.isLegible = true ∧ ofUuid u = .uuid u) ∨
      (u.isLegible = false ∧ ((∃ n, ofUuid u = .int n) ∨ ∃ x, ofUuid u = .real x)) := by
  rw [Uuid.isLegible, beq_eq_false_iff_ne, beq_iff_eq, ofUuid]
  cases ofNumeral (String.ofList u.digits) with
  | int n => exact Or.inr ⟨Cell.noConfusion, Or.inl ⟨n, rfl⟩⟩
  | real x => exact Or.inr ⟨Cell.noConfusion, Or.inr ⟨x, rfl⟩⟩
  | _ => exact Or.inl ⟨rfl, rfl⟩

/-- No other identifier is stored as an identifier. -/
theorem ofUuid_eq_uuid_iff {v : Uuid} :
    ofUuid u = .uuid v ↔ u = v ∧ v.isLegible = true := by
  rcases ofUuid_cases u with ⟨hu, h⟩ | ⟨hu, ⟨n, h⟩ | ⟨x, h⟩⟩
  · simp only [h, uuid.injEq]
    exact ⟨fun heq => ⟨heq, heq ▸ hu⟩, And.left⟩
  · simp only [h, reduceCtorEq, false_iff, not_and]
    rintro rfl
    simp [hu]
  · simp only [h, reduceCtorEq, false_iff, not_and]
    rintro rfl
    simp [hu]

@[simp] theorem isNull_ofUuid (u : Uuid) : (ofUuid u).isNull = false := by
  rcases ofUuid_cases u with ⟨-, h⟩ | ⟨-, ⟨n, h⟩ | ⟨x, h⟩⟩ <;> simp [h, isNull]

end Cell

/-! ## All columns -/

namespace ColumnKind

variable {kind : ColumnKind}

/-- A column may hold what it stores for a value. -/
theorem admits_bind {v : Value} {cell : Cell} (h : kind.bind v = .ok cell) :
    kind.admits cell = true := by
  cases kind with
  | text length => rcases Cell.text_bindText h with rfl | ⟨text, rfl⟩ <;> rfl
  | boolean =>
      rw [bind, Cell.bindBool] at h
      split at h
      · cases h
        rfl
      · split at h
        · cases h
          rfl
        · split at h <;> cases h
          rfl
  | moment aware =>
      rw [bind] at h
      cases v <;> cases h <;> rfl
  | uuid =>
      rw [bind] at h
      cases v with
      | null =>
          cases h
          rfl
      | uuid u =>
          obtain rfl := Except.ok.inj h
          rcases Cell.ofUuid_cases u with ⟨hu, h⟩ | ⟨-, ⟨n, h⟩ | ⟨x, h⟩⟩
          · exact h ▸ hu
          · rw [h]
            rfl
          · rw [h]
            rfl
      | _ => cases h
  | date => cases h
  | json => cases h
  | _ =>
      rcases Cell.rank_bindNumber h with rfl | hrank
      · rfl
      · cases cell <;> simp_all [admits]

end ColumnKind

/-! ## Values that become cells -/

/-- Whether the engine has a form for a value: for scalars, integers up to 64 bits among them. -/
def Value.isStorable : Value → Bool
  | null => true
  | bool _ => true
  | int n => Number.isWord n
  | float _ => true
  | text _ => true
  | date _ => true
  | moment _ => true
  | _ => false

/-- Whether a value is a date, with a time or without. -/
def Value.isDate : Value → Bool
  | date _ => true
  | moment _ => true
  | _ => false

def Value.isUuid : Value → Bool
  | uuid _ => true
  | _ => false

namespace ColumnKind

/-- Whether a column stores a value.  Null is stored everywhere; whether the column may be null is
checked afterwards. -/
def stores : ColumnKind → Value → Bool
  | .text _, v => v.isStorable
  | .integer _, v => v.isStorable
  | .float, v => v.isStorable
  | .numeric, v => v.isStorable
  | .boolean, v => v.isNull || v.sameScalar (.int 0) || v.sameScalar (.int 1)
  | .moment _, v => v.isNull || v.isDate
  | .uuid, v => v.isNull || v.isUuid
  | .date, _ => false
  | .json, _ => false

theorem bindNumber_isOk (v : Value) : (Cell.bindNumber v).isOk = v.isStorable := by
  cases v with
  | int n => cases h : Number.isWord n <;> simp [Cell.bindNumber, Value.isStorable, h] <;> rfl
  | _ => rfl

theorem bindText_isOk (v : Value) : (Cell.bindText v).isOk = v.isStorable := by
  cases v with
  | int n => cases h : Number.isWord n <;> simp [Cell.bindText, Value.isStorable, h] <;> rfl
  | float x => cases x <;> rfl
  | _ => rfl

theorem bindBool_isOk (v : Value) :
    (Cell.bindBool v).isOk = (v.isNull || v.sameScalar (.int 0) || v.sameScalar (.int 1)) := by
  rw [Cell.bindBool]
  cases v.isNull <;> cases v.sameScalar (.int 1) <;> cases v.sameScalar (.int 0) <;> rfl

/-- A value becomes a cell exactly in a column that stores it. -/
theorem bind_isOk (kind : ColumnKind) (v : Value) : (kind.bind v).isOk = kind.stores v := by
  cases kind with
  | text length => exact bindText_isOk v
  | boolean => exact bindBool_isOk v
  | moment aware => cases v <;> rfl
  | uuid => cases v <;> rfl
  | date => rfl
  | json => rfl
  | _ => exact bindNumber_isOk v

/-- Only dates with a time or without have the type of a column of dates. -/
theorem bind_moment_mistyped {aware : Bool} {v : Value} (h : stores (.moment aware) v = false) :
    bind (.moment aware) v = .error .mistyped := by
  cases v <;> first | rfl | cases h

end ColumnKind

end CollectionQuery
