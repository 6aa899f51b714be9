import CollectionQuery.Proofs.Store.Refusals

/-!
# Reading back what was written

A row can be read back unless a column of identifiers holds a number.  A statement writes one
exactly if its draft *misnames* a row: it sets such a column to an identifier that is not legible.
-/

namespace CollectionQuery

variable {s next : Store} {c : Collection} {occasion : Occasion} {d : Draft} {row changed : Row}
  {column : Column} {id named : Uuid} {goal : Cell}

/-- A draft sets a column to an identifier. -/
def Draft.Sets (d : Draft) (name : String) (id : Uuid) : Prop :=
  Value.member? d.values name = some (.uuid id)

/-- A draft sets a column of identifiers to one that is not legible. -/
def Draft.Misnames (c : Collection) (d : Draft) : Prop :=
  ∃ column ∈ c.columns, column.kind = .uuid ∧
    ∃ named, d.Sets column.name named ∧ named.isLegible = false

/-- Every column of a row can be read back. -/
def Row.Legible (c : Collection) (row : Row) : Prop :=
  ∀ column ∈ c.columns, column.kind.misread? (row.cell column.name) = none

/-! ## Columns -/

namespace Cell

theorem ofUuid_ne_null (u : Uuid) : ofUuid u ≠ .null := by
  intro h
  have hnull := isNull_ofUuid u
  rw [h] at hnull
  cases hnull

/-- What is stored for a value is null or an identifier. -/
theorem bindUuid_eq_ok {v : Value} (hgoal : goal ≠ .null) :
    bindUuid v = .ok goal ↔ ∃ named, v = .uuid named ∧ goal = .ofUuid named := by
  cases v <;> simp [bindUuid, hgoal, eq_comm]

/-- Only an identifier counts as one. -/
theorem eq_of_holds_uuid {cell : Cell} (h : cell.holds (.uuid id) = true) : cell = .uuid id := by
  cases cell with
  | uuid other =>
      simp only [holds, toValue, Value.sameScalar, beq_iff_eq] at h
      rw [h]
  | real x =>
      cases x <;> simp [holds, toValue, Value.sameScalar, Value.infinity?, Value.ratio?] at h
  | _ => simp [holds, toValue, Value.sameScalar, Value.infinity?, Value.ratio?] at h

end Cell

namespace ColumnKind

variable {kind : ColumnKind} {cell : Cell} {f : Fault}

theorem misread?_eq_some (h : kind.misread? cell = some f) :
    kind = .uuid ∧ ∃ real, f = .misread real := by
  cases kind with
  | uuid =>
      cases cell with
      | int n =>
          cases h
          exact ⟨rfl, _, rfl⟩
      | real x =>
          cases h
          exact ⟨rfl, _, rfl⟩
      | _ => cases h
  | _ => cases h

/-- An identifier can be read back if it is legible. -/
theorem misread?_ofUuid : uuid.misread? (.ofUuid named) = none ↔ named.isLegible = true := by
  rcases Cell.ofUuid_cases named with ⟨hlegible, h⟩ | ⟨hnot, ⟨n, h⟩ | ⟨x, h⟩⟩
  · simp [h, hlegible, misread?]
  · simp [h, hnot, misread?]
  · simp [h, hnot, misread?]

end ColumnKind

/-! ## Rows -/

namespace Row

theorem misread?_eq_none {names : List String} : row.misread? c names = none ↔
    ∀ column ∈ c.columns, column.name ∈ names →
      column.kind.misread? (row.cell column.name) = none := by
  simp [misread?, List.findSome?_eq_none_iff]

theorem misread?_eq_some {names : List String} {f : Fault} (h : row.misread? c names = some f) :
    ∃ real, f = .misread real := by
  obtain ⟨column, -, h⟩ := List.exists_of_findSome?_eq_some h
  split at h
  · exact (ColumnKind.misread?_eq_some h).2
  · cases h

theorem Legible.misread? (h : row.Legible c) (names : List String) :
    row.misread? c names = none :=
  misread?_eq_none.2 fun column hcolumn _ => h column hcolumn

theorem checkRead_eq_ok : row.checkRead c = .ok () ↔ row.Legible c := by
  have hiff : row.misread? c (c.columns.map (·.name)) = none ↔ row.Legible c :=
    misread?_eq_none.trans
      (forall₂_congr fun column hcolumn => by simp [List.mem_map_of_mem hcolumn])
  rw [← hiff, checkRead]
  cases row.misread? c (c.columns.map (·.name)) <;> simp

/-- A row that is not legible meets a fault when it is read. -/
theorem checkRead_eq_error {f : Failure} (h : row.checkRead c = .error f) :
    ¬ row.Legible c ∧ ∃ real, f = .fault (.misread real) := by
  refine ⟨fun hlegible => ?_, ?_⟩
  · rw [checkRead_eq_ok.2 hlegible] at h
    cases h
  · rw [checkRead] at h
    split at h
    · next cause hcause =>
        obtain ⟨real, rfl⟩ := misread?_eq_some hcause
        cases h
        exact ⟨real, rfl⟩
    · cases h

theorem checkRead_misread (h : ¬ row.Legible c) :
    ∃ real, row.checkRead c = .error (.fault (.misread real)) := by
  cases hread : row.checkRead c with
  | ok _ => exact absurd (checkRead_eq_ok.1 hread) h
  | error f =>
      obtain ⟨-, real, rfl⟩ := checkRead_eq_error hread
      exact ⟨real, rfl⟩

end Row

/-- A row without references is legible. -/
theorem Store.WellFormed.legible_row (hs : s.WellFormed) (hrow : row ∈ s.rows c)
    (honly : ∀ column ∈ c.columns, column.kind = .uuid → column.name = "id") : row.Legible c := by
  intro column hcolumn
  cases hmisread : column.kind.misread? (row.cell column.name) with
  | none => rfl
  | some f =>
      obtain ⟨hkind, -⟩ := ColumnKind.misread?_eq_some hmisread
      rw [honly column hcolumn hkind, hs.id_cell c row hrow, hkind] at hmisread
      cases hmisread

namespace Store

/-! ## What a statement sets -/

/-- A column keeps its cell if the draft does not set it or the row has the value already; otherwise
it gets the cell of the value. -/
theorem cell_changeRow {column : Column} (hcolumn : column ∈ c.columns)
    (hupdated : column.name ≠ "updated_at") (hhash : column.name ≠ "password_hash")
    (h : s.changeRow occasion c d row = .ok (next, changed)) :
    (changed.cell column.name = row.cell column.name ∧
      ∀ v, Value.member? d.values column.name = some v →
        (row.cell column.name).holds v = true) ∨
      ∃ v, Value.member? d.values column.name = some v ∧
        column.kind.bind v = .ok (changed.cell column.name) := by
  have hchanged : ∀ v, Value.member? d.values column.name = some v →
      (row.cell column.name).holds v = false → (column, .value v) ∈ changes c d row :=
    fun v hv hnew => mem_changes_of_member? hcolumn hv hnew
  rcases changeRow_eq_ok h with ⟨hnone, -, rfl⟩ | ⟨cells, hcells, rfl, -, -⟩
  · refine Or.inl ⟨rfl, fun v hv => ?_⟩
    by_contra hnew
    simpa [hnone] using hchanged v hv (Bool.not_eq_true _ ▸ hnew)
  · have hset : ((setAll cells row).set "updated_at" (.moment occasion.now)).cell column.name =
        (setAll cells row).cell column.name := if_neg hupdated
    have hnames := map_fst_bindEach hcells
    rw [hset]
    by_cases hmem : column.name ∈ cells.map (·.1)
    · obtain ⟨item, hitem, hname, hcell⟩ :=
        (bindEach_eq_ok hcells).exists_of_mem_right _ (cell_setAll_of_mem hmem row)
      obtain ⟨hitemcolumn, ⟨v, hv, hvalue⟩ | ⟨hitemhash, -⟩⟩ := mem_changes hitem
      · obtain rfl : item.1 = column := Collection.eq_of_name_eq hitemcolumn hcolumn hname
        rw [hvalue] at hcell
        exact Or.inr ⟨v.2, by rw [Value.member?, hv, Option.map_some], hcell⟩
      · exact absurd (hname.symm.trans hitemhash) hhash
    · refine Or.inl ⟨cell_setAll_of_not_mem hmem row, fun v hv => ?_⟩
      by_contra hnew
      rw [hnames] at hmem
      exact hmem (List.mem_map.2 ⟨_, hchanged v hv (Bool.not_eq_true _ ▸ hnew), rfl⟩)

section

variable (hcolumn : column ∈ c.columns) (hkind : column.kind = .uuid)
include hcolumn hkind

/-- In a new row a column of identifiers is null or fresh, or has what the draft says. -/
theorem uuid_cell_addRow (h : s.addRow occasion c d = .ok (next, row)) :
    row.cell column.name = .null ∨
      (column.default = .freshId ∧ row.cell column.name = .uuid occasion.freshId) ∨
        ∃ named, d.Sets column.name named ∧ row.cell column.name = .ofUuid named := by
  have hcell := cell_addRow h hcolumn
  cases hmember : Value.member? d.values column.name with
  | some v =>
      rw [initial_of_member? hmember, Assignment.bind, hkind] at hcell
      by_cases hnull : row.cell column.name = .null
      · exact Or.inl hnull
      · obtain ⟨named, rfl, hnamed⟩ := (Cell.bindUuid_eq_ok hnull).1 hcell
        exact Or.inr (Or.inr ⟨named, hmember, hnamed⟩)
  | none =>
      rw [Value.member?, Option.map_eq_none_iff] at hmember
      rw [initial, hmember, if_neg (Collection.ne_hash_of_uuid hcolumn hkind), hkind] at hcell
      rcases Collection.default_of_uuid hcolumn hkind with hdefault | hdefault
      · rw [hdefault] at hcell
        exact Or.inl (Except.ok.inj hcell).symm
      · rw [hdefault] at hcell
        exact Or.inr (Or.inl ⟨hdefault, (Except.ok.inj hcell).symm.trans occasion.ofUuid_freshId⟩)

theorem cell_addRow_of_sets (h : s.addRow occasion c d = .ok (next, row))
    (hsets : d.Sets column.name named) : row.cell column.name = .ofUuid named := by
  have hcell := cell_addRow h hcolumn
  rw [initial_of_member? hsets, Assignment.bind, hkind] at hcell
  exact (Except.ok.inj hcell).symm

/-- In a changed row a column of identifiers has what it had, or what the draft says. -/
theorem uuid_cell_changeRow (h : s.changeRow occasion c d row = .ok (next, changed)) :
    changed.cell column.name = row.cell column.name ∨ changed.cell column.name = .null ∨
      ∃ named, d.Sets column.name named ∧ changed.cell column.name = .ofUuid named := by
  have hupdated := Collection.ne_updated_of_uuid hcolumn hkind
  rcases cell_changeRow hcolumn hupdated (Collection.ne_hash_of_uuid hcolumn hkind) h with
    ⟨hsame, -⟩ | ⟨v, hv, hbind⟩
  · exact Or.inl hsame
  · rw [hkind] at hbind
    by_cases hnull : changed.cell column.name = .null
    · exact Or.inr (Or.inl hnull)
    · obtain ⟨named, rfl, hnamed⟩ := (Cell.bindUuid_eq_ok hnull).1 hbind
      exact Or.inr (Or.inr ⟨named, hv, hnamed⟩)

theorem cell_changeRow_of_sets (hrow : row.Typed c)
    (h : s.changeRow occasion c d row = .ok (next, changed)) (hsets : d.Sets column.name named) :
    changed.cell column.name = .ofUuid named := by
  have hupdated := Collection.ne_updated_of_uuid hcolumn hkind
  rcases cell_changeRow hcolumn hupdated (Collection.ne_hash_of_uuid hcolumn hkind) h with
    ⟨hsame, hheld⟩ | ⟨v, hv, hbind⟩
  · -- The row holds the identifier already, which therefore is legible.
    have hcell := Cell.eq_of_holds_uuid (hheld _ hsets)
    have hadmits := hrow column hcolumn
    rw [hkind, hcell] at hadmits
    rw [hsame, hcell, Cell.ofUuid_eq_uuid.2 hadmits]
  · obtain rfl := Option.some.inj (hv.symm.trans hsets)
    rw [hkind] at hbind
    exact (Except.ok.inj hbind).symm

end

/-! ## What a statement leaves to read -/

/-- A new row is legible unless its draft misnames a row. -/
theorem legible_addRow (h : s.addRow occasion c d = .ok (next, row)) :
    row.Legible c ↔ ¬ d.Misnames c := by
  constructor
  · rintro hlegible ⟨column, hcolumn, hkind, named, hsets, hnot⟩
    have hread := hlegible column hcolumn
    rw [hkind, cell_addRow_of_sets hcolumn hkind h hsets, ColumnKind.misread?_ofUuid, hnot] at hread
    cases hread
  · intro hnone column hcolumn
    cases hmisread : column.kind.misread? (row.cell column.name) with
    | none => rfl
    | some f =>
        obtain ⟨hkind, -⟩ := ColumnKind.misread?_eq_some hmisread
        rw [hkind] at hmisread
        rcases uuid_cell_addRow hcolumn hkind h with hcell | ⟨-, hcell⟩ | ⟨named, hsets, hcell⟩
        · rw [hcell] at hmisread
          cases hmisread
        · rw [hcell] at hmisread
          cases hmisread
        · refine absurd ⟨column, hcolumn, hkind, named, hsets, ?_⟩ hnone
          rw [← Bool.not_eq_true, ← ColumnKind.misread?_ofUuid, ← hcell, hmisread]
          simp

/-- A changed row that was legible still is unless the draft misnames a row. -/
theorem legible_changeRow (hrow : row.Typed c) (hread : row.Legible c)
    (h : s.changeRow occasion c d row = .ok (next, changed)) :
    changed.Legible c ↔ ¬ d.Misnames c := by
  constructor
  · rintro hlegible ⟨column, hcolumn, hkind, named, hsets, hnot⟩
    have hread := hlegible column hcolumn
    rw [hkind, cell_changeRow_of_sets hcolumn hkind hrow h hsets, ColumnKind.misread?_ofUuid,
      hnot] at hread
    cases hread
  · intro hnone column hcolumn
    cases hmisread : column.kind.misread? (changed.cell column.name) with
    | none => rfl
    | some f =>
        obtain ⟨hkind, -⟩ := ColumnKind.misread?_eq_some hmisread
        rcases uuid_cell_changeRow hcolumn hkind h with hcell | hcell | ⟨named, hsets, hcell⟩
        · rw [hcell, hread column hcolumn] at hmisread
          cases hmisread
        · rw [hcell, hkind] at hmisread
          cases hmisread
        · refine absurd ⟨column, hcolumn, hkind, named, hsets, ?_⟩ hnone
          rw [← Bool.not_eq_true, ← ColumnKind.misread?_ofUuid, ← hcell, ← hkind, hmisread]
          simp

end Store

end CollectionQuery
