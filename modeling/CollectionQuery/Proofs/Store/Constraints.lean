import CollectionQuery.Proofs.Store.Frame

/-!
# Constraints of the tables

No row has null in a column that may not be null, and no two rows of a collection have the same cell
in a unique column.  A row that is added or changed is checked against the others.  Removing a row
writes rows that are not checked, but it sets only a key to null that may be null and is not unique.
-/

namespace CollectionQuery

variable {s mid next : Store} {c : Collection} {occasion : Occasion} {d : Draft} {row changed : Row}

namespace Store

/-! ## Single rows -/

theorem isComplete_iff : isComplete c row = true ↔
    ∀ column ∈ c.columns, column.nullable = false → row.cell column.name ≠ .null := by
  have hcell : ∀ cell : Cell, cell.isNull = false ↔ cell ≠ .null := by
    intro cell
    cases cell <;> simp [Cell.isNull]
  rw [isComplete, List.all_eq_true]
  refine forall_congr' fun column => imp_congr_right fun _ => ?_
  rw [Bool.or_eq_true, Bool.not_eq_true', hcell]
  cases column.nullable <;> simp

theorem areDistinct_iff {x y : Row} : areDistinct c x y = true ↔
    ∀ column ∈ c.columns, column.unique = true →
      x.cell column.name = .null ∨ x.cell column.name ≠ y.cell column.name := by
  have hcell : ∀ cell : Cell, cell.isNull = true ↔ cell = .null := by
    intro cell
    cases cell <;> simp [Cell.isNull]
  rw [areDistinct, List.all_eq_true]
  refine forall_congr' fun column => imp_congr_right fun _ => ?_
  rw [Bool.or_eq_true, Bool.or_eq_true, hcell, bne_iff_ne]
  cases column.unique <;> simp

theorem areDistinct_symm {x y : Row} (h : areDistinct c x y = true) : areDistinct c y x = true := by
  rw [areDistinct_iff] at h ⊢
  intro column hcolumn hunique
  rcases h column hcolumn hunique with hnull | hne
  · by_cases hy : y.cell column.name = .null
    · exact Or.inl hy
    · exact Or.inr (hnull.symm ▸ hy)
  · exact Or.inr hne.symm

/-- Rows stay distinct if no unique column is written. -/
theorem areDistinct_of_eq {x y x' y' : Row}
    (hx : ∀ column ∈ c.columns, column.unique = true → x'.cell column.name = x.cell column.name)
    (hy : ∀ column ∈ c.columns, column.unique = true → y'.cell column.name = y.cell column.name)
    (h : areDistinct c x y = true) : areDistinct c x' y' = true := by
  rw [areDistinct_iff] at h ⊢
  intro column hcolumn hunique
  rw [hx column hcolumn hunique, hy column hcolumn hunique]
  exact h column hcolumn hunique

/-! ## Rows that lose the identifier of another -/

section

variable {r : Relation} {column : Column} {id : Uuid}

theorem cell_released_of_ne {name : String} (hkey : name ≠ r.key) (hupdated : name ≠ "updated_at")
    (occasion : Occasion) (id : Uuid) (other : Row) :
    (released occasion r id other).cell name = other.cell name := by
  rw [released]
  split
  · exact (if_neg hupdated).trans (if_neg hkey)
  · rfl

theorem cell_released_unique (hr : r ∈ c.relations) (hmany : r.many = true)
    (hcolumn : column ∈ r.target.columns) (hunique : column.unique = true) (occasion : Occasion)
    (id : Uuid) (other : Row) :
    (released occasion r id other).cell column.name = other.cell column.name := by
  refine cell_released_of_ne ?_ ?_ occasion id other
  · intro hname
    rw [Collection.key_not_unique hr hmany hcolumn hname] at hunique
    cases hunique
  · intro hname
    rw [(Collection.updated_not_unique hcolumn hname)] at hunique
    cases hunique

/-- Only a key that may be null becomes null. -/
theorem isComplete_released (hnullable :
      ((r.target.column? r.key).map (·.nullable)).getD false = true) {other : Row}
    (h : isComplete r.target other = true) (occasion : Occasion) (id : Uuid) :
    isComplete r.target (released occasion r id other) = true := by
  rw [isComplete_iff] at h ⊢
  intro column hcolumn hrequired
  rw [released]
  split
  · by_cases hupdated : column.name = "updated_at"
    · rw [hupdated, Row.set]
      simp
    · have hkey : column.name ≠ r.key := by
        intro hname
        rw [← hname, Collection.column?_name hcolumn] at hnullable
        simp [hrequired] at hnullable
      rw [Row.set, Row.set]
      dsimp only
      rw [if_neg hupdated, if_neg hkey]
      exact h column hcolumn hrequired
  · exact h column hcolumn hrequired

end

/-! ## All rows -/

/-- A store whose rows obey the constraints. -/
structure Constrained (s : Store) : Prop where
  complete : ∀ c, ∀ row ∈ s.rows c, isComplete c row = true
  distinct : ∀ c, (s.rows c).Pairwise fun x y => areDistinct c x y = true

theorem constrained_empty (engine : Engine) : (empty engine).Constrained where
  complete _ _ hrow := by cases hrow
  distinct _ := .nil

/-- One collection may have other rows that obey its constraints. -/
theorem Constrained.onRows (hs : s.Constrained) {change : List Row → List Row}
    (hcomplete : ∀ row ∈ change (s.rows c), isComplete c row = true)
    (hdistinct : (change (s.rows c)).Pairwise fun x y => areDistinct c x y = true) :
    (s.onRows c change).Constrained where
  complete e row hrow := by
    by_cases he : e = c
    · subst he
      rw [rows_onRows_self] at hrow
      exact hcomplete row hrow
    · rw [rows_onRows_of_ne s he] at hrow
      exact hs.complete e row hrow
  distinct e := by
    by_cases he : e = c
    · subst he
      rw [rows_onRows_self]
      exact hdistinct
    · rw [rows_onRows_of_ne s he]
      exact hs.distinct e

theorem fits_iff {others : List Row} : fits c others row = true ↔
    isComplete c row = true ∧ ∀ other ∈ others, areDistinct c row other = true := by
  rw [fits, Bool.and_eq_true, List.all_eq_true]

theorem constrained_addRow (hs : s.Constrained) (h : s.addRow occasion c d = .ok (next, row)) :
    next.Constrained := by
  obtain ⟨-, -, -, -, hfits, rfl⟩ := addRow_eq_ok h
  obtain ⟨hcomplete, hothers⟩ := fits_iff.1 hfits
  refine hs.onRows ?_ ?_
  · intro x hx
    rcases List.mem_append.1 hx with hx | hx
    · exact hs.complete c x hx
    · rwa [List.mem_singleton.1 hx]
  · refine List.pairwise_append.2 ⟨hs.distinct c, List.pairwise_singleton _ _, ?_⟩
    intro x hx y hy
    rw [List.mem_singleton.1 hy]
    exact areDistinct_symm (hothers x hx)

theorem constrained_changeRow (hwell : s.WellFormed) (hs : s.Constrained)
    (h : s.changeRow occasion c d row = .ok (next, changed)) : next.Constrained := by
  rcases changeRow_eq_ok h with ⟨-, rfl, -⟩ | ⟨-, -, -, hfits, rfl⟩
  · exact hs
  · obtain ⟨hcomplete, hothers⟩ := fits_iff.1 hfits
    have hother : ∀ x ∈ s.rows c, x.id ≠ row.id → areDistinct c changed x = true :=
      fun x hx hne => hothers x (List.mem_filter.2 ⟨hx, bne_iff_ne.2 hne⟩)
    refine hs.onRows ?_ ?_
    · intro x hx
      obtain ⟨y, hy, rfl⟩ := List.mem_map.1 hx
      split
      · exact hcomplete
      · exact hs.complete c y hy
    · -- Of two rows at most one is the one that changes, since their identifiers differ.
      have hids : (s.rows c).Pairwise fun x y => x.id ≠ y.id :=
        List.pairwise_map.1 (hwell.ids_nodup c)
      rw [List.pairwise_map]
      refine ((hs.distinct c).and hids).imp_of_mem fun {x y} hx hy ⟨hxy, hne⟩ => ?_
      by_cases hxid : x.id = row.id
      · rw [if_pos hxid, if_neg fun hyid => hne (hxid.trans hyid.symm)]
        exact hother y hy fun hyid => hne (hxid.trans hyid.symm)
      · rw [if_neg hxid]
        split
        · exact areDistinct_symm (hother x hx hxid)
        · exact hxy

theorem constrained_release (hs : s.Constrained) {r : Relation} (hr : r ∈ c.relations)
    (h : release occasion row s r = .ok next) : next.Constrained := by
  rcases release_eq_ok h with rfl | ⟨hmany, hnullable, rfl⟩
  · exact hs
  · refine hs.onRows ?_ ?_
    · intro x hx
      obtain ⟨y, hy, rfl⟩ := List.mem_map.1 hx
      exact isComplete_released hnullable (hs.complete _ y hy) occasion row.id
    · rw [List.pairwise_map]
      refine (hs.distinct r.target).imp fun {x y} hxy => areDistinct_of_eq ?_ ?_ hxy
      · exact fun column hcolumn hunique =>
          cell_released_unique hr hmany hcolumn hunique occasion row.id x
      · exact fun column hcolumn hunique =>
          cell_released_unique hr hmany hcolumn hunique occasion row.id y

theorem constrained_removeRow (hs : s.Constrained) (h : s.removeRow occasion c row = .ok next) :
    next.Constrained := by
  obtain ⟨mid, hmid, rfl⟩ := removeRow_eq_ok h
  have hmid : mid.Constrained :=
    foldlM_release_eq_ok (fun hr hs => constrained_release hs hr) hs hmid
  refine hmid.onRows (fun x hx => ?_) ((hmid.distinct c).sublist List.filter_sublist)
  exact hmid.complete c x (List.mem_filter.1 hx).1

/-! ## Unique columns -/

/-- The cells of a unique column that are not null are pairwise distinct. -/
theorem Constrained.nodup_cells (hs : s.Constrained) {column : Column}
    (hcolumn : column ∈ c.columns) (hunique : column.unique = true) :
    (((s.rows c).map fun row => row.cell column.name).filter fun cell => !cell.isNull).Nodup := by
  rw [List.Nodup, List.pairwise_filter, List.pairwise_map]
  refine (hs.distinct c).imp fun {x y} hxy hx _ => ?_
  rcases areDistinct_iff.1 hxy column hcolumn hunique with hnull | hne
  · simp [hnull, Cell.isNull] at hx
  · exact hne

/-- The cells of a unique column that may not be null are pairwise distinct. -/
theorem Constrained.nodup_required (hs : s.Constrained) {column : Column}
    (hcolumn : column ∈ c.columns) (hunique : column.unique = true)
    (hrequired : column.nullable = false) :
    ((s.rows c).map fun row => row.cell column.name).Nodup := by
  have hall : ((s.rows c).map fun row => row.cell column.name).filter (fun cell => !cell.isNull) =
      (s.rows c).map fun row => row.cell column.name := by
    refine List.filter_eq_self.2 fun cell hcell => ?_
    obtain ⟨row, hrow, rfl⟩ := List.mem_map.1 hcell
    have hne := isComplete_iff.1 (hs.complete c row hrow) column hcolumn hrequired
    cases hcell : row.cell column.name <;> simp_all [Cell.isNull]
  exact hall ▸ hs.nodup_cells hcolumn hunique

end Store

end CollectionQuery
