import CollectionQuery.Proofs.Cell.Binding
import CollectionQuery.Proofs.Schema
import CollectionQuery.Proofs.Uuid
import Mathlib.Data.List.Nodup
import Mathlib.Data.List.Perm.Subperm

/-!
# Well-formed stores

A store is *well-formed* if no two rows of a collection have one identifier, every row holds its
identifier in the column `id`, and every cell has the type of its column.
-/

namespace CollectionQuery

/-- The cells of a row have the types of their columns. -/
def Row.Typed (c : Collection) (row : Row) : Prop :=
  ∀ column ∈ c.columns, column.kind.admits (row.cell column.name) = true

/-- A store as the tables of the collections allow it. -/
structure Store.WellFormed (s : Store) : Prop where
  /-- No two rows of a collection have one identifier. -/
  ids_nodup : ∀ c, ((s.rows c).map Row.id).Nodup
  /-- The column `id` holds the identifier. -/
  id_cell : ∀ c, ∀ row ∈ s.rows c, row.cell "id" = .uuid row.id
  /-- Every cell has the type of its column. -/
  typed : ∀ c, ∀ row ∈ s.rows c, row.Typed c

namespace Store.WellFormed

variable {s : Store} {c : Collection} {x y row : Row}

/-- The rows of a collection are told apart by their identifiers. -/
theorem eq_of_id_eq (h : s.WellFormed) (hx : x ∈ s.rows c) (hy : y ∈ s.rows c)
    (hid : x.id = y.id) : x = y :=
  List.inj_on_of_nodup_map (h.ids_nodup c) hx hy hid

theorem of_rows_eq {t : Store} (h : s.WellFormed) (hrows : s.rows = t.rows) : t.WellFormed :=
  ⟨hrows ▸ h.ids_nodup, hrows ▸ h.id_cell, hrows ▸ h.typed⟩

/-- There are no more rows than identifiers. -/
theorem length_rows_le (h : s.WellFormed) (c : Collection) :
    (s.rows c).length ≤ Uuid.bound := by
  have hnodup := (h.ids_nodup c).map Uuid.value_injective
  have hsub : ((s.rows c).map Row.id).map Uuid.value ⊆ List.range Uuid.bound := by
    intro n hn
    obtain ⟨id, -, rfl⟩ := List.mem_map.1 hn
    exact List.mem_range.2 id.value_lt
  simpa using (hnodup.subperm hsub).length_le

/-- The identifiers of rows are legible. -/
theorem legible (h : s.WellFormed) (hrow : row ∈ s.rows c) : row.id.isLegible = true := by
  obtain ⟨column, hcolumn, hname⟩ := List.mem_map.1 (@Collection.id_mem_columns c)
  have hadmits := h.typed c row hrow column hcolumn
  rwa [hname, h.id_cell c row hrow, (Collection.default_of_id hcolumn hname).1] at hadmits

/-- The values of a public scope are null or truth values in every row. -/
theorem published_cell (h : s.WellFormed) (hrow : row ∈ s.rows c)
    (hscope : c.publicScope = some [("published", true)]) :
    row.cell "published" = .null ∨ ∃ b, row.cell "published" = .bool b := by
  have hadmits : ColumnKind.boolean.admits (row.cell "published") = true := by
    cases c <;> simp [Collection.publicScope] at hscope
    all_goals
      exact h.typed _ row hrow (Collection.flag "published" true)
        (by simp [Collection.columns, Collection.ownColumns])
  cases hcell : row.cell "published" with
  | null => exact Or.inl rfl
  | bool b => exact Or.inr ⟨b, rfl⟩
  | _ => simp [hcell, ColumnKind.admits] at hadmits

end Store.WellFormed

namespace Store

theorem wellFormed_empty {engine : Engine} : (empty engine).WellFormed where
  ids_nodup _ := List.nodup_nil
  id_cell _ _ hrow := by cases hrow
  typed _ _ hrow := by cases hrow

theorem rows_onRows (s : Store) (c d : Collection) (change : List Row → List Row) :
    (s.onRows c change).rows d = if d = c then change (s.rows d) else s.rows d := by
  by_cases h : d = c
  · subst h
    simp [onRows]
  · simp [onRows, h]

theorem rows_insert (s : Store) (c d : Collection) (row : Row) :
    (s.insert c row).rows d = s.rows d ++ if d = c then [row] else [] := by
  rw [insert, rows_onRows]
  by_cases h : d = c <;> simp [h]

theorem mem_rows_insert {s : Store} {c d : Collection} {row x : Row} :
    x ∈ (s.insert c row).rows d ↔ x ∈ s.rows d ∨ d = c ∧ x = row := by
  rw [rows_insert, List.mem_append]
  by_cases h : d = c <;> simp [h]

/-- A row with a fresh identifier and with cells of the right types may be added. -/
theorem WellFormed.insert {s : Store} (h : s.WellFormed) {c : Collection} {row : Row}
    (fresh : ∀ other ∈ s.rows c, other.id ≠ row.id) (hid : row.cell "id" = .uuid row.id)
    (htyped : row.Typed c) :
    (s.insert c row).WellFormed where
  ids_nodup d := by
    rw [rows_insert, List.map_append, List.nodup_append]
    refine ⟨h.ids_nodup d, ?_, ?_⟩
    · split <;> simp
    · intro id hmem other hother heq
      split at hother
      · next hd =>
          subst hd heq
          obtain ⟨x, hx, hxid⟩ := List.mem_map.1 hmem
          exact fresh x hx (hxid.trans (by simpa using hother))
      · cases hother
  id_cell d x hx := by
    rcases mem_rows_insert.1 hx with hx | ⟨rfl, rfl⟩
    · exact h.id_cell d x hx
    · exact hid
  typed d x hx := by
    rcases mem_rows_insert.1 hx with hx | ⟨rfl, rfl⟩
    · exact h.typed d x hx
    · exact htyped

/-- The rows of a collection may be changed, if they keep their identifiers and their types. -/
theorem WellFormed.map_rows {s : Store} (h : s.WellFormed) {c : Collection} {f : Row → Row}
    (hid : ∀ row ∈ s.rows c, (f row).id = row.id)
    (hcell : ∀ row ∈ s.rows c, (f row).cell "id" = .uuid row.id)
    (htyped : ∀ row ∈ s.rows c, (f row).Typed c) :
    (s.onRows c fun rows => rows.map f).WellFormed where
  ids_nodup d := by
    rw [rows_onRows]
    split
    · next hd =>
        subst hd
        have heq : ((s.rows d).map f).map Row.id = (s.rows d).map Row.id := by
          rw [List.map_map]
          exact List.map_congr_left hid
        exact heq ▸ h.ids_nodup d
    · exact h.ids_nodup d
  id_cell d x hx := by
    rw [rows_onRows] at hx
    split at hx
    · next hd =>
        subst hd
        obtain ⟨row, hrow, rfl⟩ := List.mem_map.1 hx
        rw [hid row hrow]
        exact hcell row hrow
    · exact h.id_cell d x hx
  typed d x hx := by
    rw [rows_onRows] at hx
    split at hx
    · next hd =>
        subst hd
        obtain ⟨row, hrow, rfl⟩ := List.mem_map.1 hx
        exact htyped row hrow
    · exact h.typed d x hx

/-- A row may be replaced by another with its identifier. -/
theorem WellFormed.replace {s : Store} (h : s.WellFormed) {c : Collection} {row : Row}
    (hcell : row.cell "id" = .uuid row.id) (htyped : row.Typed c) :
    (s.replace c row.id row).WellFormed := by
  refine h.map_rows ?_ ?_ ?_
  · intro other _
    split
    · next heq => exact heq.symm
    · rfl
  · intro other hother
    split
    · next heq => rw [heq, hcell]
    · exact h.id_cell c other hother
  · intro other hother
    split
    · exact htyped
    · exact h.typed c other hother

/-- Rows may be removed. -/
theorem WellFormed.erase {s : Store} (h : s.WellFormed) (c : Collection) (id : Uuid) :
    (s.erase c id).WellFormed := by
  have hsub : ∀ d, ((s.erase c id).rows d).Sublist (s.rows d) := by
    intro d
    rw [Store.erase, rows_onRows]
    split
    · exact List.filter_sublist
    · exact List.Sublist.refl _
  exact {
    ids_nodup := fun d => (h.ids_nodup d).sublist ((hsub d).map Row.id)
    id_cell := fun d row hrow => h.id_cell d row ((hsub d).subset hrow)
    typed := fun d row hrow => h.typed d row ((hsub d).subset hrow) }

end Store

end CollectionQuery
