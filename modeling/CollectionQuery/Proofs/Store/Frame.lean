import CollectionQuery.Proofs.Store.Writing

/-!
# What a statement leaves alone

Adding a row puts it behind those that are there; changing a row touches no other, and in it only
the columns that a draft sets and the time of the change.  Neither touches another collection.

Every row after a statement was there before, with its identifier and the time of its creation,
unless the statement added it.  This is a relation between stores that goes on from one statement to
the next.
-/

namespace CollectionQuery

variable {s mid next : Store} {c : Collection} {occasion : Occasion} {d : Draft} {row changed : Row}

/-- Whether two rows are one row at different times: it keeps its identifier and the time of its
creation. -/
structure Row.SameOrigin (x y : Row) : Prop where
  id : y.id = x.id
  id_cell : y.cell "id" = x.cell "id"
  created : y.cell "created_at" = x.cell "created_at"

namespace Row.SameOrigin

variable {x y z : Row}

theorem refl (x : Row) : x.SameOrigin x := ⟨rfl, rfl, rfl⟩

theorem trans (h : x.SameOrigin y) (h' : y.SameOrigin z) : x.SameOrigin z :=
  ⟨h'.id.trans h.id, h'.id_cell.trans h.id_cell, h'.created.trans h.created⟩

/-- Setting another column does not matter. -/
theorem set (x : Row) {name : String} (cell : Cell) (hid : name ≠ "id")
    (hcreated : name ≠ "created_at") : x.SameOrigin (x.set name cell) where
  id := rfl
  id_cell := if_neg hid.symm
  created := if_neg hcreated.symm

end Row.SameOrigin

namespace Store

/-! ## Collections that are not written -/

theorem rows_onRows_self (s : Store) (c : Collection) (change : List Row → List Row) :
    (s.onRows c change).rows c = change (s.rows c) := by
  rw [rows_onRows, if_pos rfl]

theorem rows_onRows_of_ne (s : Store) {c e : Collection} (h : e ≠ c)
    (change : List Row → List Row) : (s.onRows c change).rows e = s.rows e := by
  rw [rows_onRows, if_neg h]

/-- A store in which at most the rows of one collection are others. -/
structure OnlyIn (c : Collection) (s next : Store) : Prop where
  rows : ∀ e, e ≠ c → next.rows e = s.rows e
  present : next.present = s.present

theorem OnlyIn.refl (c : Collection) (s : Store) : OnlyIn c s s := ⟨fun _ _ => rfl, rfl⟩

theorem onlyIn_onRows (s : Store) (c : Collection) (change : List Row → List Row) :
    OnlyIn c s (s.onRows c change) :=
  ⟨fun _ he => rows_onRows_of_ne s he change, rfl⟩

/-! ## Adding and changing a row -/

/-- A store with one more row, whose identifier no row had. -/
structure Added (occasion : Occasion) (c : Collection) (row : Row) (s next : Store) : Prop where
  rows : next.rows c = s.rows c ++ [row]
  onlyIn : OnlyIn c s next
  id : row.id = occasion.freshId
  fresh : ∀ other ∈ s.rows c, other.id ≠ row.id

/-- A store in which a row has become another, which differs from it only in the columns that a
draft sets and in the time of the change. -/
structure Changed (c : Collection) (d : Draft) (row changed : Row) (s next : Store) : Prop where
  mem : row ∈ s.rows c
  rows : next.rows c = (s.rows c).map fun other => if other.id = row.id then changed else other
  onlyIn : OnlyIn c s next
  id : changed.id = row.id
  cells : ∀ name, name ∉ d.names → name ≠ "updated_at" → changed.cell name = row.cell name

theorem added_addRow (h : s.addRow occasion c d = .ok (next, row)) :
    Added occasion c row s next := by
  obtain ⟨cells, -, hrow, hfresh, -, rfl⟩ := addRow_eq_ok h
  exact {
    rows := rows_onRows_self s c _
    onlyIn := onlyIn_onRows s c _
    id := by rw [hrow, id_setAll]
    fresh := fun other hother => by simpa using List.find?_eq_none.1 hfresh other hother }

theorem mem_names_of_mem_changes {item : Column × Assignment} (h : item ∈ changes c d row) :
    item.1.name ∈ d.names := by
  rw [Draft.names, List.mem_append]
  obtain ⟨column, -, h⟩ := List.mem_filterMap.1 h
  split at h
  · next v hv =>
      have hname : v.1 = column.name := by simpa using List.find?_some hv
      split at h
      · cases h
      · cases h
        exact Or.inl (hname ▸ List.mem_map_of_mem (List.mem_of_find?_eq_some hv))
  · split at h
    · next hname =>
        obtain ⟨hash, hhash, rfl⟩ := Option.map_eq_some_iff.1 h
        exact Or.inr (by simp [hhash, hname])
    · cases h

/-- A column that a draft does not name keeps its cell. -/
theorem cell_setAll_of_not_mem_names {name : String} (hname : name ∉ d.names)
    {cells : List (String × Cell)} (hcells : bindEach (changes c d row) = .ok cells) :
    (setAll cells row).cell name = row.cell name := by
  refine cell_setAll_of_forall_ne ?_ hcells
  rintro item hitem rfl
  exact hname (mem_names_of_mem_changes hitem)

theorem changed_changeRow (hs : s.WellFormed) (hrow : row ∈ s.rows c)
    (h : s.changeRow occasion c d row = .ok (next, changed)) :
    Changed c d row changed s next := by
  rcases changeRow_eq_ok h with ⟨-, rfl, rfl⟩ | ⟨cells, hcells, rfl, -, rfl⟩
  · refine ⟨hrow, ?_, OnlyIn.refl c next, rfl, fun _ _ _ => rfl⟩
    -- The row takes its own place: no other row has its identifier.
    refine (List.map_id _).symm.trans (List.map_congr_left fun other hother => ?_)
    split
    · next heq => exact hs.eq_of_id_eq hother hrow heq
    · rfl
  · refine ⟨hrow, rows_onRows_self s c _, onlyIn_onRows s c _, id_setAll cells row, ?_⟩
    intro name hname hupdated
    exact (if_neg hupdated).trans (cell_setAll_of_not_mem_names hname hcells)

/-- Removing a row leaves the tables where they are. -/
theorem present_removeRow (h : s.removeRow occasion c row = .ok next) :
    next.present = s.present := by
  obtain ⟨mid, hmid, rfl⟩ := removeRow_eq_ok h
  show mid.present = s.present
  refine foldlM_release_eq_ok (P := fun mid => mid.present = s.present) ?_ rfl hmid
  intro mid next r _ hs hnext
  rcases release_eq_ok hnext with rfl | ⟨-, -, rfl⟩
  · exact hs
  · exact hs

/-! ## Rows before and after -/

/-- Every row of a store was in another before. -/
def StemsFrom (s next : Store) : Prop :=
  ∀ c, ∀ y ∈ next.rows c, ∃ x ∈ s.rows c, x.SameOrigin y

namespace StemsFrom

theorem refl (s : Store) : StemsFrom s s := fun _ y hy => ⟨y, hy, .refl y⟩

theorem trans (h : StemsFrom s mid) (h' : StemsFrom mid next) : StemsFrom s next := by
  intro c z hz
  obtain ⟨y, hy, hyz⟩ := h' c z hz
  obtain ⟨x, hx, hxy⟩ := h c y hy
  exact ⟨x, hx, hxy.trans hyz⟩

/-- Rows that each keep their origin, in one collection. -/
theorem map_rows (s : Store) (c : Collection) {f : Row → Row} (hf : ∀ x : Row, x.SameOrigin (f x)) :
    StemsFrom s (s.onRows c fun rows => rows.map f) := by
  intro e y hy
  by_cases he : e = c
  · subst he
    rw [rows_onRows_self] at hy
    obtain ⟨x, hx, rfl⟩ := List.mem_map.1 hy
    exact ⟨x, hx, hf x⟩
  · rw [rows_onRows_of_ne s he] at hy
    exact ⟨y, hy, .refl y⟩

end StemsFrom

/-- A row after another was added was there before, or is the one that was added. -/
theorem Added.origin (h : Added occasion c row s next) {e : Collection} {y : Row}
    (hy : y ∈ next.rows e) :
    (∃ x ∈ s.rows e, x.SameOrigin y) ∨
      (y.id = occasion.freshId ∧ ∀ x ∈ s.rows e, x.id ≠ y.id) := by
  by_cases he : e = c
  · subst he
    rw [h.rows, List.mem_append, List.mem_singleton] at hy
    rcases hy with hy | rfl
    · exact Or.inl ⟨y, hy, .refl y⟩
    · exact Or.inr ⟨h.id, h.fresh⟩
  · exact Or.inl ⟨y, h.onlyIn.rows e he ▸ hy, .refl y⟩

/-- A row that has changed stems from what it was. -/
theorem Changed.stemsFrom (h : Changed c d row changed s next)
    (hd : ∀ name ∈ systemFields, name ∉ d.names) : StemsFrom s next := by
  have horigin : row.SameOrigin changed := {
    id := h.id
    id_cell := h.cells "id" (hd _ (by decide)) (by decide)
    created := h.cells "created_at" (hd _ (by decide)) (by decide) }
  intro e y hy
  by_cases he : e = c
  · subst he
    rw [h.rows] at hy
    obtain ⟨x, hx, rfl⟩ := List.mem_map.1 hy
    split
    · exact ⟨row, h.mem, horigin⟩
    · exact ⟨x, hx, .refl x⟩
  · rw [h.onlyIn.rows e he] at hy
    exact ⟨y, hy, .refl y⟩

/-- Rows that lose the identifier of another are the same rows. -/
theorem sameOrigin_released {r : Relation} (hr : r ∈ c.relations) (occasion : Occasion)
    (id : Uuid) (other : Row) :
    other.SameOrigin (released occasion r id other) := by
  rw [released]
  split
  · exact (Row.SameOrigin.set other .null (Collection.key_ne_id hr)
      (Collection.key_ne_created hr)).trans (.set _ _ (by decide) (by decide))
  · exact .refl other

theorem stemsFrom_removeRow (h : s.removeRow occasion c row = .ok next) : StemsFrom s next := by
  obtain ⟨mid, hmid, rfl⟩ := removeRow_eq_ok h
  have hrelease : StemsFrom s mid := by
    refine foldlM_release_eq_ok ?_ (.refl s) hmid
    intro mid next r hr hs hnext
    rcases release_eq_ok hnext with rfl | ⟨-, -, rfl⟩
    · exact hs
    · exact hs.trans (.map_rows mid r.target (sameOrigin_released hr occasion row.id))
  refine hrelease.trans fun e y hy => ⟨y, ?_, .refl y⟩
  by_cases he : e = c
  · subst he
    rw [erase, rows_onRows_self] at hy
    exact (List.mem_filter.1 hy).1
  · rwa [erase, rows_onRows_of_ne mid he] at hy

end Store

end CollectionQuery
