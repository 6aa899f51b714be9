import CollectionQuery.Proofs.Lists
import CollectionQuery.Proofs.Schema
import CollectionQuery.Proofs.Store.WellFormed

/-!
# Stores that look alike

Two rows of a collection are *alike* if they have one identifier and agree in every visible column.
Two stores are alike for a reader if every row in scope of one has a row alike in the other, in the
collections that the reader sees; what is out of scope may be anything.  Two stores are *parallel*
if their rows are alike one by one, and then they are alike for every reader.

Rows that are alike are in scope together, and the relations that the reader may follow lead from
them to rows that are alike.
-/

namespace CollectionQuery

/-- Two rows of a collection that agree in all that is shown of them. -/
structure Row.Alike (c : Collection) (x y : Row) : Prop where
  /-- They have one identifier. -/
  id_eq : x.id = y.id
  /-- They agree in every visible column. -/
  visible_eq : ∀ column ∈ c.visibleColumns, x.cell column.name = y.cell column.name

/-- Two stores that a reader cannot tell apart by the rows in scope. -/
structure Store.Alike (a : Audience) (s t : Store) : Prop where
  /-- The tables are there in both or in none. -/
  present_eq : s.present = t.present
  /-- A row in scope of the first has a row alike in the second. -/
  forth : ∀ c, a.sees c = true → ∀ x ∈ s.rows c, a.inScope c x = true →
    ∃ y ∈ t.rows c, x.Alike c y
  /-- A row in scope of the second has a row alike in the first. -/
  back : ∀ c, a.sees c = true → ∀ y ∈ t.rows c, a.inScope c y = true →
    ∃ x ∈ s.rows c, x.Alike c y

/-- Two stores whose rows are alike, one by one. -/
structure Store.Parallel (s t : Store) : Prop where
  /-- The tables are there in both or in none. -/
  present_eq : s.present = t.present
  /-- One storage engine keeps both. -/
  engine_eq : s.engine = t.engine
  /-- The rows of a collection are alike, one by one. -/
  rows_alike : ∀ c, List.Forall₂ (Row.Alike c) (s.rows c) (t.rows c)

variable {a : Audience} {c : Collection} {s t : Store} {x y : Row}

namespace Row.Alike

@[refl] theorem refl (c : Collection) (x : Row) : x.Alike c x := ⟨rfl, fun _ _ => rfl⟩

theorem symm (h : x.Alike c y) : y.Alike c x :=
  ⟨h.id_eq.symm, fun column hcolumn => (h.visible_eq column hcolumn).symm⟩

theorem cell_eq (h : x.Alike c y) {name : String} (hmem : name ∈ c.columns.map (·.name))
    (hshown : name ∉ c.hiddenFields) : x.cell name = y.cell name := by
  obtain ⟨column, hcolumn, rfl⟩ := Collection.exists_visible hmem hshown
  exact h.visible_eq column hcolumn

theorem visibleColumn?_eq (h : x.Alike c y) {name : String}
    (hvisible : (c.visibleColumn? name).isSome = true) : x.cell name = y.cell name := by
  obtain ⟨column, hcolumn⟩ := Option.isSome_iff_exists.1 hvisible
  obtain ⟨hmem, rfl, hshown⟩ := Collection.visibleColumn?_eq_some hcolumn
  exact h.cell_eq (List.mem_map_of_mem hmem) hshown

/-- A scope asks only for what is shown. -/
theorem inScope_eq (h : x.Alike c y) (a : Audience) : a.inScope c x = a.inScope c y := by
  rw [Bool.eq_iff_iff, Audience.inScope, Audience.inScope, List.all_eq_true, List.all_eq_true]
  refine forall₂_congr fun wanted hwanted => ?_
  rw [h.cell_eq (Audience.scope_mem_columns hwanted) (Audience.scope_not_hidden hwanted)]

/-- Rows that are alike are one row to the storage engine. -/
theorem shown_eq (h : x.Alike c y) : x.shown c = y.shown c := by
  rw [Row.shown, Row.shown, h.id_eq]
  congr 1
  funext name
  split
  · next hvisible => exact h.visibleColumn?_eq hvisible
  · rfl

/-- No hidden column holds identifiers, so rows that are alike can be read back together. -/
theorem misread?_eq (h : x.Alike c y) (names : List String) :
    x.misread? c names = y.misread? c names := by
  have hsame : List.Forall₂ (fun u v : Column => u ∈ c.columns ∧ u = v) c.columns c.columns :=
    List.forall₂_same.2 fun column hcolumn => ⟨hcolumn, rfl⟩
  refine hsame.findSome?_eq_findSome? ?_
  rintro column _ ⟨hcolumn, rfl⟩
  by_cases hshown : column.name ∈ c.hiddenFields
  · obtain ⟨length, hkind⟩ :=
      Collection.kind_of_hash hcolumn (Collection.mem_hiddenFields.1 hshown).2
    rw [hkind]
    rfl
  · rw [h.cell_eq (List.mem_map_of_mem hcolumn) hshown]

end Row.Alike

namespace Store

theorem Alike.symm (h : Alike a s t) : Alike a t s where
  present_eq := h.present_eq.symm
  forth c hsees y hy hscope :=
    let ⟨x, hx, hxy⟩ := h.back c hsees y hy hscope
    ⟨x, hx, hxy.symm⟩
  back c hsees x hx hscope :=
    let ⟨y, hy, hxy⟩ := h.forth c hsees x hx hscope
    ⟨y, hy, hxy.symm⟩

/-- Parallel stores are alike for every reader. -/
theorem Parallel.alike (h : s.Parallel t) (a : Audience) : s.Alike a t where
  present_eq := h.present_eq
  forth c _ x hx _ := (h.rows_alike c).exists_of_mem_left x hx
  back c _ y hy _ := (h.rows_alike c).exists_of_mem_right y hy

/-- The storage engine cannot tell parallel stores apart. -/
theorem Parallel.shownTables_eq (h : s.Parallel t) : s.shownTables = t.shownTables :=
  funext fun c => (h.rows_alike c).map_eq_map fun _ _ hxy => hxy.shown_eq

theorem Alike.refl (a : Audience) (s : Store) : s.Alike a s where
  present_eq := rfl
  forth _ _ x hx _ := ⟨x, hx, .refl _ x⟩
  back _ _ y hy _ := ⟨y, hy, .refl _ y⟩

/-- A row that a reader does not see may be added. -/
theorem Alike.insert (h : s.Alike a t) {row : Row}
    (hidden : a.sees c = true → a.inScope c row ≠ true) : (s.insert c row).Alike a t where
  present_eq := h.present_eq
  forth d hsees x hx hscope := by
    rcases mem_rows_insert.1 hx with hx | ⟨rfl, rfl⟩
    · exact h.forth d hsees x hx hscope
    · exact absurd hscope (hidden hsees)
  back d hsees y hy hscope := by
    obtain ⟨x, hx, hxy⟩ := h.back d hsees y hy hscope
    exact ⟨x, mem_rows_insert.2 (Or.inl hx), hxy⟩

/-! ## Related rows -/

/-- A relation leads to the rows that agree in its key. -/
theorem mem_related {r : Relation} {row other : Row} :
    other ∈ s.related r row ↔ other ∈ s.rows r.target ∧
      if r.many then other.cell r.key = .uuid row.id else row.cell r.key = .uuid other.id := by
  rw [related]
  split
  · simp
  · split
    · next id hid => simp [hid, eq_comm]
    · next hid => simpa using fun _ => hid other.id

/-- The relations that a reader may follow keep rows alike. -/
theorem Alike.related (h : Alike a s t) {r : Relation} (hr : r ∈ c.relations)
    (hsees : a.sees r.target = true) (hxy : x.Alike c y) {x' : Row} (hx' : x' ∈ s.related r x)
    (hscope : a.inScope r.target x' = true) :
    ∃ y' ∈ t.related r y, x'.Alike r.target y' := by
  obtain ⟨hmem, hkey⟩ := mem_related.1 hx'
  obtain ⟨y', hy', halike⟩ := h.forth r.target hsees x' hmem hscope
  refine ⟨y', mem_related.2 ⟨hy', ?_⟩, halike⟩
  have hcolumn := Collection.key_mem_columns hr
  have hshown := Collection.key_not_hidden hr
  split
  · next hmany =>
      simp only [hmany, if_true] at hkey hcolumn hshown
      rw [← halike.cell_eq hcolumn hshown, hkey, hxy.id_eq]
  · next hmany =>
      simp only [hmany] at hkey hcolumn hshown
      rw [← hxy.cell_eq hcolumn hshown, hkey, halike.id_eq]

/-- All relations keep rows of parallel stores alike, one by one. -/
theorem Parallel.related (h : s.Parallel t) {r : Relation} (hr : r ∈ c.relations)
    (hxy : x.Alike c y) :
    List.Forall₂ (Row.Alike r.target) (s.related r x) (t.related r y) := by
  have hcolumn := Collection.key_mem_columns hr
  have hshown := Collection.key_not_hidden hr
  rw [Store.related, Store.related]
  split
  · next hmany =>
      simp only [hmany, if_true] at hcolumn hshown
      refine (h.rows_alike r.target).filter fun u v huv => ?_
      rw [huv.cell_eq hcolumn hshown, hxy.id_eq]
  · next hmany =>
      simp only [hmany] at hcolumn hshown
      rw [← hxy.cell_eq hcolumn hshown]
      cases x.cell r.key with
      | uuid id =>
          refine (h.rows_alike r.target).filter fun u v huv => ?_
          rw [huv.id_eq]
      | _ => exact .nil

theorem related_sublist (s : Store) (r : Relation) (row : Row) :
    (s.related r row).Sublist (s.rows r.target) := by
  rw [related]
  split
  · exact List.filter_sublist
  · split
    · exact List.filter_sublist
    · exact List.nil_sublist _

/-- A relation to one row leads to at most one. -/
theorem WellFormed.related_unique (h : s.WellFormed) {r : Relation} (hone : r.many = false)
    {row u v : Row} (hu : u ∈ s.related r row) (hv : v ∈ s.related r row) : u = v := by
  obtain ⟨hu, hukey⟩ := mem_related.1 hu
  obtain ⟨hv, hvkey⟩ := mem_related.1 hv
  simp only [hone, Bool.false_eq_true, if_false] at hukey hvkey
  exact h.eq_of_id_eq hu hv (Cell.uuid.inj (hukey.symm.trans hvkey))

end Store

end CollectionQuery
