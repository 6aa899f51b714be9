import CollectionQuery.Proofs.Draft
import CollectionQuery.Proofs.Lists
import CollectionQuery.Proofs.Store.WellFormed
import CollectionQuery.Store.Writing

/-!
# Writing to a well-formed store

What a statement makes of the rows, and that it keeps a store well-formed: every cell that is stored
has the type of its column, and no statement touches the identifier of a row.
-/

namespace CollectionQuery

variable {s next : Store} {c : Collection} {occasion : Occasion} {d : Draft} {row : Row}

/-- A fresh identifier is stored as itself. -/
theorem Occasion.ofUuid_freshId (occasion : Occasion) :
    Cell.ofUuid occasion.freshId = .uuid occasion.freshId :=
  Cell.ofUuid_eq_uuid.2 occasion.legible

/-- A statement at the beginning of the year 1 that draws an identifier. -/
def Occasion.nth (n : Nat) : Occasion := ⟨.startOf default, .drawn n, Uuid.isLegible_drawn n⟩

namespace Store

/-! ## Cells -/

theorem bindEach_eq_ok {assignments : List (Column × Assignment)} {cells : List (String × Cell)}
    (h : bindEach assignments = .ok cells) :
    List.Forall₂ (fun item cell => item.1.name = cell.1 ∧ item.2.bind item.1.kind = .ok cell.2)
      assignments cells := by
  induction assignments generalizing cells with
  | nil =>
      cases h
      exact .nil
  | cons item rest ih =>
      obtain ⟨column, a⟩ := item
      rw [bindEach] at h
      split at h
      · next cell hcell =>
          obtain ⟨more, hmore, h⟩ := bind_eq_ok.1 h
          cases h
          exact .cons ⟨rfl, hcell⟩ (ih hmore)
      · cases h

theorem map_fst_bindEach {assignments : List (Column × Assignment)}
    {cells : List (String × Cell)} (h : bindEach assignments = .ok cells) :
    cells.map (·.1) = assignments.map fun item => item.1.name :=
  ((bindEach_eq_ok h).map_eq_map fun _ _ hcell => hcell.1).symm

@[simp] theorem id_setAll (cells : List (String × Cell)) (row : Row) :
    (setAll cells row).id = row.id := by
  induction cells generalizing row with
  | nil => rfl
  | cons c rest ih => exact ih _

theorem setAll_cons (c : String × Cell) (rest : List (String × Cell)) (row : Row) :
    setAll (c :: rest) row = setAll rest (row.set c.1 c.2) := rfl

/-- A column that is not set keeps its cell. -/
theorem cell_setAll_of_not_mem {cells : List (String × Cell)} {name : String}
    (h : name ∉ cells.map (·.1)) (row : Row) : (setAll cells row).cell name = row.cell name := by
  induction cells generalizing row with
  | nil => rfl
  | cons c rest ih =>
      rw [List.map_cons, List.mem_cons, not_or] at h
      rw [setAll_cons, ih h.2, Row.set]
      exact if_neg h.1

/-- A column that is set has one of the cells that are given for it. -/
theorem cell_setAll_of_mem {cells : List (String × Cell)} {name : String}
    (h : name ∈ cells.map (·.1)) (row : Row) : (name, (setAll cells row).cell name) ∈ cells := by
  induction cells generalizing row with
  | nil => cases h
  | cons c rest ih =>
      rw [setAll_cons]
      by_cases hrest : name ∈ rest.map (·.1)
      · exact List.mem_cons_of_mem _ (ih hrest _)
      · obtain rfl : name = c.1 := by simpa [hrest] using h
        rw [cell_setAll_of_not_mem hrest, Row.set]
        simp

/-- Setting columns to cells that they may hold keeps the types of a row. -/
theorem typed_setAll {assignments : List (Column × Assignment)} {cells : List (String × Cell)}
    (hadmits : ∀ item ∈ assignments, ∀ cell, item.2.bind item.1.kind = .ok cell →
      item.1.kind.admits cell = true)
    (hmem : ∀ item ∈ assignments, item.1 ∈ c.columns)
    (hbind : bindEach assignments = .ok cells)
    (hrow : ∀ column ∈ c.columns, column.name ∉ assignments.map (fun item => item.1.name) →
      column.kind.admits (row.cell column.name) = true) : (setAll cells row).Typed c := by
  intro column hcolumn
  by_cases hset : column.name ∈ cells.map (·.1)
  · have hcell := cell_setAll_of_mem hset row
    obtain ⟨item, hitem, hname, hitemcell⟩ :=
      (bindEach_eq_ok hbind).exists_of_mem_right _ hcell
    obtain rfl : item.1 = column := Collection.eq_of_name_eq (hmem item hitem) hcolumn hname
    exact hadmits item hitem _ hitemcell
  · rw [cell_setAll_of_not_mem hset]
    exact hrow column hcolumn (map_fst_bindEach hbind ▸ hset)

/-- What a new row starts with has the types of its columns. -/
theorem admits_initial {column : Column} (hcolumn : column ∈ c.columns) {cell : Cell}
    (h : (initial occasion d column).bind column.kind = .ok cell) :
    column.kind.admits cell = true := by
  rw [initial] at h
  split at h
  · exact ColumnKind.admits_bind h
  · split at h
    · next hname =>
        cases h
        obtain ⟨length, hkind⟩ := Collection.kind_of_hash hcolumn hname
        rw [hkind]
        cases d.passwordHash <;> rfl
    · split at h
      · exact ColumnKind.admits_bind h
      · exact ColumnKind.admits_bind h
      · next hdefault =>
          obtain rfl := Except.ok.inj h
          rw [Collection.kind_of_freshId hcolumn hdefault, occasion.ofUuid_freshId]
          exact occasion.legible
      · next hdefault =>
          cases h
          obtain ⟨aware, hkind⟩ := Collection.kind_of_now hcolumn hdefault
          rw [hkind]
          rfl

/-- What the columns of a new row start with is what they are set to. -/
theorem bind_initial {cells : List (String × Cell)}
    (hcells : bindEach (c.columns.map fun column => (column, initial occasion d column)) =
      .ok cells) {column : Column} (hcolumn : column ∈ c.columns) (row : Row) :
    (initial occasion d column).bind column.kind = .ok ((setAll cells row).cell column.name) := by
  have hmem : column.name ∈ cells.map (·.1) := by
    rw [map_fst_bindEach hcells, List.map_map]
    exact List.mem_map_of_mem hcolumn
  obtain ⟨item, hitem, hname, hcell⟩ :=
    (bindEach_eq_ok hcells).exists_of_mem_right _ (cell_setAll_of_mem hmem row)
  obtain ⟨other, hother, rfl⟩ := List.mem_map.1 hitem
  obtain rfl : other = column := Collection.eq_of_name_eq hother hcolumn hname
  exact hcell

/-! ## Statements -/

/-- A row is added with a cell for every column, an identifier that no row has yet, and nothing
that a constraint forbids. -/
theorem addRow_eq_ok (h : s.addRow occasion c d = .ok (next, row)) :
    ∃ cells, bindEach (c.columns.map fun column => (column, initial occasion d column)) =
        .ok cells ∧
      row = setAll cells { id := occasion.freshId, cell := fun _ => .null } ∧
      s.find? c row.id = none ∧ fits c (s.rows c) row = true ∧ next = s.insert c row := by
  rw [addRow] at h
  obtain ⟨-, -, h⟩ := bind_eq_ok.1 h
  obtain ⟨-, -, h⟩ := bind_eq_ok.1 h
  obtain ⟨cells, hcells, h⟩ := bind_eq_ok.1 h
  dsimp only at h
  split at h
  · next hfits =>
      rw [Bool.and_eq_true, Option.isNone_iff_eq_none] at hfits
      cases h
      exact ⟨cells, hcells, rfl, hfits.1, hfits.2, rfl⟩
  · cases h

/-- An added row has in every column what the column starts with. -/
theorem cell_addRow (h : s.addRow occasion c d = .ok (next, row)) {column : Column}
    (hcolumn : column ∈ c.columns) :
    (initial occasion d column).bind column.kind = .ok (row.cell column.name) := by
  obtain ⟨cells, hcells, rfl, -⟩ := addRow_eq_ok h
  exact bind_initial hcells hcolumn _

/-- A row is left as it was if no column changes, or else the columns that change and the time of
the change are written. -/
theorem changeRow_eq_ok {changed : Row} (h : s.changeRow occasion c d row = .ok (next, changed)) :
    (changes c d row = [] ∧ next = s ∧ changed = row) ∨
      ∃ cells, bindEach (changes c d row) = .ok cells ∧
        changed = (setAll cells row).set "updated_at" (.moment occasion.now) ∧
        fits c ((s.rows c).filter fun other => other.id != row.id) changed = true ∧
        next = s.replace c row.id changed := by
  rw [changeRow] at h
  dsimp only at h
  split at h
  · next hempty =>
      cases h
      exact Or.inl ⟨List.isEmpty_iff.1 hempty, rfl, rfl⟩
  · obtain ⟨-, -, h⟩ := bind_eq_ok.1 h
    obtain ⟨cells, hcells, h⟩ := bind_eq_ok.1 h
    split at h
    · next hfits =>
        cases h
        exact Or.inr ⟨cells, hcells, rfl, hfits, rfl⟩
    · cases h

/-- The rows that point to a row lose its identifier. -/
def released (occasion : Occasion) (r : Relation) (id : Uuid) (other : Row) : Row :=
  if other.cell r.key == .uuid id then
    (other.set r.key .null).set "updated_at" (.moment occasion.now)
  else other

/-- Rows lose the identifier only where the key may be null. -/
theorem release_eq_ok {r : Relation} (h : release occasion row s r = .ok next) :
    next = s ∨ (r.many = true ∧ ((r.target.column? r.key).map (·.nullable)).getD false = true ∧
      next = s.onRows r.target fun rows => rows.map (released occasion r row.id)) := by
  rw [release] at h
  dsimp only at h
  split at h
  · cases h
    exact Or.inl rfl
  · next hpoints =>
      split at h
      · next hnullable =>
          cases h
          have hmany : r.many = true := by
            rw [Bool.not_eq_true, Bool.or_eq_false_iff, Bool.not_eq_false'] at hpoints
            exact hpoints.1
          exact Or.inr ⟨hmany, hnullable, rfl⟩
      · cases h

theorem foldlM_release_eq_ok {P : Store → Prop} {relations : List Relation}
    (hstep : ∀ {s next r}, r ∈ relations → P s → release occasion row s r = .ok next → P next)
    (hs : P s) (h : relations.foldlM (release occasion row) s = .ok next) : P next := by
  induction relations generalizing s with
  | nil => exact pure_eq_ok.1 h ▸ hs
  | cons r rest ih =>
      rw [List.foldlM_cons] at h
      obtain ⟨mid, hmid, h⟩ := bind_eq_ok.1 h
      exact ih (fun hr => hstep (List.mem_cons_of_mem _ hr)) (hstep List.mem_cons_self hs hmid) h

theorem removeRow_eq_ok (h : s.removeRow occasion c row = .ok next) :
    ∃ mid, c.relations.foldlM (release occasion row) s = .ok mid ∧ next = mid.erase c row.id := by
  obtain ⟨mid, hmid, h⟩ := bind_eq_ok.1 h
  exact ⟨mid, hmid, (pure_eq_ok.1 h).symm⟩

/-! ## Well-formed stores -/

theorem wellFormed_addRow (hs : s.WellFormed)
    (hdraft : d.values.find? (fun v => v.1 == "id") = none)
    (h : s.addRow occasion c d = .ok (next, row)) : next.WellFormed := by
  have htyped : row.Typed c := fun column hcolumn => admits_initial hcolumn (cell_addRow h hcolumn)
  obtain ⟨column, hcolumn, hname⟩ := List.mem_map.1 (@Collection.id_mem_columns c)
  have hcell := cell_addRow h hcolumn
  obtain ⟨cells, -, hrow, hfresh, -, rfl⟩ := addRow_eq_ok h
  refine hs.insert ?_ ?_ htyped
  · intro other hother
    simpa using List.find?_eq_none.1 hfresh other hother
  · rw [initial, hname, hdraft] at hcell
    simp only [(Collection.default_of_id hcolumn hname).2] at hcell
    rw [hrow, id_setAll, ← hrow]
    exact (Except.ok.inj hcell).symm.trans occasion.ofUuid_freshId

/-- A cell that a column may hold may be put there. -/
theorem typed_set (hrow : row.Typed c) {name : String} {cell : Cell}
    (hcell : ∀ column ∈ c.columns, column.name = name → column.kind.admits cell = true) :
    (row.set name cell).Typed c := by
  intro column hcolumn
  rw [Row.set]
  dsimp only
  split
  · next hname => exact hcell column hcolumn hname
  · exact hrow column hcolumn

theorem typed_set_updated (hrow : row.Typed c) (t : Calendar.DateTime) :
    (row.set "updated_at" (.moment t)).Typed c := by
  refine typed_set hrow fun column hcolumn hname => ?_
  obtain ⟨aware, hkind⟩ := Collection.kind_of_updated hcolumn hname
  rw [hkind]
  rfl

theorem mem_changes {item : Column × Assignment} (h : item ∈ changes c d row) :
    item.1 ∈ c.columns ∧
      ((∃ v, d.values.find? (fun v => v.1 == item.1.name) = some v ∧ item.2 = .value v.2) ∨
        (item.1.name = "password_hash" ∧ ∃ hash, item.2 = .cell (.hash hash))) := by
  obtain ⟨column, hcolumn, h⟩ := List.mem_filterMap.1 h
  split at h
  · next v hv =>
      split at h
      · cases h
      · cases h
        exact ⟨hcolumn, Or.inl ⟨v, hv, rfl⟩⟩
  · split at h
    · next hname =>
        obtain ⟨hash, -, rfl⟩ := Option.map_eq_some_iff.1 h
        exact ⟨hcolumn, Or.inr ⟨hname, hash, rfl⟩⟩
    · cases h

/-- The columns that change keep their types. -/
theorem typed_setAll_changes (hrow : row.Typed c) {cells : List (String × Cell)}
    (hcells : bindEach (changes c d row) = .ok cells) : (setAll cells row).Typed c := by
  refine typed_setAll ?_ (fun item hitem => (mem_changes hitem).1) hcells
    fun column hcolumn _ => hrow column hcolumn
  intro item hitem cell hcell
  obtain ⟨hcolumn, ⟨v, -, hv⟩ | ⟨hname, hash, hhash⟩⟩ := mem_changes hitem
  · rw [hv] at hcell
    exact ColumnKind.admits_bind hcell
  · obtain ⟨length, hkind⟩ := Collection.kind_of_hash hcolumn hname
    rw [hhash] at hcell
    cases hcell
    rw [hkind]
    rfl

/-- A column that no assignment is for keeps its cell. -/
theorem cell_setAll_of_forall_ne {name : String}
    (hname : ∀ item ∈ changes c d row, item.1.name ≠ name)
    {cells : List (String × Cell)} (hcells : bindEach (changes c d row) = .ok cells) :
    (setAll cells row).cell name = row.cell name := by
  refine cell_setAll_of_not_mem ?_ row
  rw [map_fst_bindEach hcells]
  intro hmem
  obtain ⟨item, hitem, hitemname⟩ := List.mem_map.1 hmem
  exact hname item hitem hitemname

/-- A column that a draft does not set keeps its cell, unless it is the one for a hash. -/
theorem cell_setAll_changes {name : String}
    (hdraft : d.values.find? (fun v => v.1 == name) = none) (hname : name ≠ "password_hash")
    {cells : List (String × Cell)} (hcells : bindEach (changes c d row) = .ok cells) :
    (setAll cells row).cell name = row.cell name := by
  refine cell_setAll_of_forall_ne ?_ hcells
  rintro item hitem rfl
  obtain ⟨-, ⟨v, hv, -⟩ | ⟨hhash, -⟩⟩ := mem_changes hitem
  · rw [hdraft] at hv
    cases hv
  · exact hname hhash

theorem wellFormed_changeRow (hs : s.WellFormed) (hrow : row ∈ s.rows c)
    (hdraft : d.values.find? (fun v => v.1 == "id") = none) {changed : Row}
    (h : s.changeRow occasion c d row = .ok (next, changed)) : next.WellFormed := by
  rcases changeRow_eq_ok h with ⟨-, rfl, -⟩ | ⟨cells, hcells, rfl, -, rfl⟩
  · exact hs
  · have htyped := typed_setAll_changes (hs.typed c row hrow) hcells
    rw [← id_setAll cells row]
    refine hs.replace ?_ (typed_set_updated htyped occasion.now)
    rw [Row.set]
    dsimp only
    rw [if_neg (by decide), cell_setAll_changes hdraft (by decide) hcells, id_setAll]
    exact hs.id_cell c row hrow

theorem wellFormed_release (hs : s.WellFormed) {r : Relation} (hr : r ∈ c.relations)
    (h : release occasion row s r = .ok next) : next.WellFormed := by
  rcases release_eq_ok h with rfl | ⟨-, -, rfl⟩
  · exact hs
  · refine hs.map_rows ?_ ?_ ?_
    · intro other hother
      rw [released]
      split <;> rfl
    · intro other hother
      rw [released]
      split
      · rw [Row.set, Row.set]
        dsimp only
        rw [if_neg (by decide), if_neg (Collection.key_ne_id hr).symm]
        exact hs.id_cell _ other hother
      · exact hs.id_cell _ other hother
    · intro other hother
      rw [released]
      split
      · refine typed_set_updated (typed_set (hs.typed _ other hother) fun column _ _ => ?_) _
        cases column.kind <;> rfl
      · exact hs.typed _ other hother

theorem wellFormed_removeRow (hs : s.WellFormed) (h : s.removeRow occasion c row = .ok next) :
    next.WellFormed := by
  obtain ⟨mid, hmid, rfl⟩ := removeRow_eq_ok h
  exact (foldlM_release_eq_ok (fun hr hs => wellFormed_release hs hr) hs hmid).erase c row.id

end Store

end CollectionQuery
