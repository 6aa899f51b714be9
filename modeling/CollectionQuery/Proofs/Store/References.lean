import CollectionQuery.Proofs.Store.Reading
import CollectionQuery.Proofs.Store.Removal

/-!
# References

A row points to a row of another collection by the key of a relation to one row.  Nothing looks for
that other row when a key is written, so a reference may *dangle*: no row has the identifier.  An
identifier that was stored as a number is one that no row has.

A reference dangles after a statement if it did before, or if the statement set it to an identifier
that no row had.  Removing a row makes none dangle: the rows that point to it lose its identifier,
or hold it back.
-/

namespace CollectionQuery

variable {s next : Store} {c e : Collection} {occasion : Occasion} {d : Draft} {row changed : Row}
  {r : Relation} {id start named : Uuid} {goal : Cell}

namespace Store

/-! ## What a statement sets -/

section

variable (hr : r ∈ c.relations) (hone : r.many = false)
include hr hone

/-- A new row points to what its draft says. -/
theorem cell_addRow_iff (h : s.addRow occasion c d = .ok (next, row)) (hgoal : goal ≠ .null) :
    row.cell r.key = goal ↔ ∃ named, d.Sets r.key named ∧ goal = .ofUuid named := by
  obtain ⟨column, hcolumn, hname, hkind, hdefault⟩ := Collection.exists_keyColumn hr hone
  rw [← hname]
  constructor
  · rintro rfl
    rcases uuid_cell_addRow hcolumn hkind h with hnull | ⟨hfresh, -⟩ | ⟨named, hsets, hcell⟩
    · exact absurd hnull hgoal
    · cases hdefault.symm.trans hfresh
    · exact ⟨named, hsets, hcell⟩
  · rintro ⟨named, hsets, rfl⟩
    exact cell_addRow_of_sets hcolumn hkind h hsets

variable (h : s.changeRow occasion c d row = .ok (next, changed))
include h

/-- A changed row points to what its draft says, or to what it pointed to. -/
theorem sets_of_changeRow (hgoal : goal ≠ .null) (hcell : changed.cell r.key = goal) :
    row.cell r.key = goal ∨ ∃ named, d.Sets r.key named ∧ goal = .ofUuid named := by
  obtain ⟨column, hcolumn, hname, hkind, -⟩ := Collection.exists_keyColumn hr hone
  rw [← hname] at hcell ⊢
  rcases uuid_cell_changeRow hcolumn hkind h with hsame | hnull | ⟨named, hsets, hnamed⟩
  · exact Or.inl (hsame.symm.trans hcell)
  · exact absurd (hcell.symm.trans hnull) hgoal
  · exact Or.inr ⟨named, hsets, hcell.symm.trans hnamed⟩

theorem cell_of_sets (hrow : row.Typed c) (hsets : d.Sets r.key named) :
    changed.cell r.key = .ofUuid named := by
  obtain ⟨column, hcolumn, hname, hkind, -⟩ := Collection.exists_keyColumn hr hone
  rw [← hname] at hsets ⊢
  exact cell_changeRow_of_sets hcolumn hkind hrow h hsets

end

/-! ## References that dangle -/

/-- A row points to something by the key of a relation. -/
def Points (s : Store) (c : Collection) (r : Relation) (start : Uuid) (goal : Cell) : Prop :=
  goal ≠ .null ∧ ∃ row ∈ s.rows c, row.id = start ∧ row.cell r.key = goal

/-- No row of a collection has the identifier in a cell. -/
def Misses (s : Store) (c : Collection) (goal : Cell) : Prop :=
  ∀ row ∈ s.rows c, goal ≠ .uuid row.id

/-- A row points to what is the identifier of no row of the related collection. -/
def Dangles (s : Store) (c : Collection) (r : Relation) (start : Uuid) (goal : Cell) : Prop :=
  s.Points c r start goal ∧ s.Misses r.target goal

/-- What is stored for an identifier misses the rows exactly if they lack the identifier. -/
theorem misses_ofUuid (hs : s.WellFormed) : s.Misses c (.ofUuid named) ↔ s.Lacks c named := by
  refine forall₂_congr fun row hrow => not_congr ?_
  rw [Cell.ofUuid_eq_uuid_iff, eq_comm]
  exact and_iff_left (hs.legible hrow)

/-- Every blog has an author and every resource in a category has this category. -/
structure Referential (s : Store) : Prop where
  author : ∀ blog ∈ s.rows .blogs, ∃ user ∈ s.rows .users, blog.cell "author_id" = .uuid user.id
  category : ∀ resource ∈ s.rows .resources, resource.cell "category_id" = .null ∨
    ∃ category ∈ s.rows .categories, resource.cell "category_id" = .uuid category.id

/-- No reference dangles. -/
theorem referential_iff (hc : s.Constrained) : s.Referential ↔
    ∀ c, ∀ r ∈ c.relations, r.many = false → ∀ start goal, ¬ s.Dangles c r start goal := by
  constructor
  · rintro ⟨hauthor, hcategory⟩ c r hr hone start goal ⟨⟨hgoal, row, hrow, -, hcell⟩, hmisses⟩
    cases c <;> simp [Collection.relations] at hr <;> subst hr <;> simp at hone
    · obtain ⟨user, huser, hauthor⟩ := hauthor row hrow
      exact hmisses user huser (hcell.symm.trans hauthor)
    · rcases hcategory row hrow with hnull | ⟨category, hmem, hcategory⟩
      · exact hgoal (hcell.symm.trans hnull)
      · exact hmisses category hmem (hcell.symm.trans hcategory)
  · intro h
    have hcell (c : Collection) (r : Relation) (hr : r ∈ c.relations) (hone : r.many = false)
        (row : Row) (hrow : row ∈ s.rows c) : row.cell r.key = .null ∨
          ∃ other ∈ s.rows r.target, row.cell r.key = .uuid other.id := by
      rw [or_iff_not_imp_left]
      intro hgoal
      by_contra hnone
      push Not at hnone
      exact h c r hr hone row.id _ ⟨⟨hgoal, row, hrow, rfl, rfl⟩, hnone⟩
    constructor
    · intro blog hblog
      have hauthor : (⟨"author", .users, false, "author_id"⟩ : Relation) ∈
          Collection.blogs.relations := by simp [Collection.relations]
      refine (hcell .blogs _ hauthor rfl blog hblog).resolve_left ?_
      have hcolumn : ({ name := "author_id", kind := .uuid } : Column) ∈
          Collection.blogs.columns := by simp [Collection.columns, Collection.ownColumns]
      exact isComplete_iff.1 (hc.complete _ blog hblog) _ hcolumn rfl
    · intro resource hresource
      have hcategory : (⟨"category", .categories, false, "category_id"⟩ : Relation) ∈
          Collection.resources.relations := by simp [Collection.relations]
      exact hcell .resources _ hcategory rfl resource hresource

/-- What misses the rows missed them before, if the row that it is the identifier of did not go. -/
theorem Misses.of_next (h : next.Misses c goal)
    (hkept : ∀ x ∈ s.rows c, goal = .uuid x.id → ∃ y ∈ next.rows c, y.id = x.id) :
    s.Misses c goal := by
  intro x hx hid
  obtain ⟨y, hy, hyid⟩ := hkept x hx hid
  exact h y hy (hid.trans (by rw [hyid]))

/-! ## Adding a row -/

/-- A reference that dangles after a row was added did before, or is what the draft of the row sets,
to an identifier that no row had. -/
theorem dangles_addRow (hr : r ∈ e.relations) (hone : r.many = false)
    (h : s.addRow occasion c d = .ok (next, row)) (hdangles : next.Dangles e r start goal) :
    s.Dangles e r start goal ∨ e = c ∧ start = row.id ∧
      (∃ named, d.Sets r.key named ∧ goal = .ofUuid named) ∧ s.Misses r.target goal := by
  have hmem {f : Collection} {y : Row} : y ∈ next.rows f ↔ y ∈ s.rows f ∨ f = c ∧ y = row := by
    obtain ⟨-, -, -, -, -, rfl⟩ := addRow_eq_ok h
    exact mem_rows_insert
  obtain ⟨⟨hgoal, y, hy, hid, hcell⟩, hmisses⟩ := hdangles
  have hbefore : s.Misses r.target goal :=
    hmisses.of_next fun x hx _ => ⟨x, hmem.2 (Or.inl hx), rfl⟩
  rcases hmem.1 hy with hold | ⟨rfl, rfl⟩
  · exact Or.inl ⟨⟨hgoal, y, hold, hid, hcell⟩, hbefore⟩
  · exact Or.inr ⟨rfl, hid.symm, (cell_addRow_iff hr hone h hgoal).1 hcell, hbefore⟩

theorem dangles_of_addRow (hr : r ∈ c.relations) (hone : r.many = false)
    (h : s.addRow occasion c d = .ok (next, row)) (hsets : d.Sets r.key named)
    (hmisses : s.Misses r.target (.ofUuid named)) : next.Dangles c r row.id (.ofUuid named) := by
  have hadded := added_addRow h
  have hmem : row ∈ next.rows c := by rw [hadded.rows]; simp
  have hgoal := Cell.ofUuid_ne_null named
  refine ⟨⟨hgoal, row, hmem, rfl, (cell_addRow_iff hr hone h hgoal).2 ⟨named, hsets, rfl⟩⟩, ?_⟩
  rw [Misses, hadded.onlyIn.rows _ (Collection.target_ne hr)]
  exact hmisses

/-! ## Changing a row -/

theorem Changed.exists_after (h : Changed c d row changed s next) {x : Row} (hx : x ∈ s.rows e) :
    ∃ y ∈ next.rows e, y.id = x.id := by
  by_cases he : e = c
  · subst he
    refine ⟨_, h.rows ▸ List.mem_map_of_mem hx, ?_⟩
    split
    · next hid => rw [h.id, hid]
    · rfl
  · exact ⟨x, (h.onlyIn.rows e he).symm ▸ hx, rfl⟩

theorem Changed.mem_cases (h : Changed c d row changed s next) {y : Row} (hy : y ∈ next.rows e) :
    y ∈ s.rows e ∨ e = c ∧ y = changed := by
  by_cases he : e = c
  · subst he
    rw [h.rows] at hy
    obtain ⟨x, hx, rfl⟩ := List.mem_map.1 hy
    split
    · exact Or.inr ⟨rfl, rfl⟩
    · exact Or.inl hx
  · exact Or.inl (h.onlyIn.rows e he ▸ hy)

section

variable (hs : s.WellFormed) (hrow : row ∈ s.rows c)
  (h : s.changeRow occasion c d row = .ok (next, changed))
include hs hrow h

/-- A reference that dangles after a row was changed did before, or is what the draft sets, to an
identifier that no row had. -/
theorem dangles_changeRow (hr : r ∈ e.relations) (hone : r.many = false)
    (hdangles : next.Dangles e r start goal) : s.Dangles e r start goal ∨
      e = c ∧ start = row.id ∧ (∃ named, d.Sets r.key named ∧ goal = .ofUuid named) ∧
        s.Misses r.target goal := by
  have hchanged := changed_changeRow hs hrow h
  obtain ⟨⟨hgoal, y, hy, hid, hcell⟩, hmisses⟩ := hdangles
  have hbefore : s.Misses r.target goal := hmisses.of_next fun x hx _ => hchanged.exists_after hx
  rcases hchanged.mem_cases hy with hold | ⟨rfl, rfl⟩
  · exact Or.inl ⟨⟨hgoal, y, hold, hid, hcell⟩, hbefore⟩
  · have hstart : start = row.id := hid.symm.trans hchanged.id
    rcases sets_of_changeRow hr hone h hgoal hcell with hsame | hsets
    · exact Or.inl ⟨⟨hgoal, row, hrow, hstart.symm, hsame⟩, hbefore⟩
    · exact Or.inr ⟨rfl, hstart, hsets, hbefore⟩

theorem dangles_of_changeRow (hr : r ∈ c.relations) (hone : r.many = false)
    (hsets : d.Sets r.key named) (hmisses : s.Misses r.target (.ofUuid named)) :
    next.Dangles c r row.id (.ofUuid named) := by
  have hchanged := changed_changeRow hs hrow h
  have hmem : changed ∈ next.rows c := by
    rw [hchanged.rows]
    exact List.mem_map.2 ⟨row, hrow, if_pos rfl⟩
  have hcell := cell_of_sets hr hone h (hs.typed c row hrow) hsets
  refine ⟨⟨Cell.ofUuid_ne_null named, changed, hmem, hchanged.id, hcell⟩, ?_⟩
  rw [Misses, hchanged.onlyIn.rows _ (Collection.target_ne hr)]
  exact hmisses

end

/-! ## Removing a row -/

/-- Losing an identifier writes no other. -/
theorem cell_of_released {x : Row} {name : String}
    (hname : name ≠ "updated_at") (hgoal : goal ≠ .null)
    (h : (released occasion r id x).cell name = goal) : x.cell name = goal := by
  rw [released] at h
  split at h
  · simp only [Row.set, if_neg hname] at h
    split at h
    · exact absurd h.symm hgoal
    · exact h
  · exact h

namespace Removed

variable (h : Removed occasion c id s next)
include h

/-- Every other row is still there, in whatever state. -/
theorem exists_after {x : Row} (hx : x ∈ s.rows e) (hother : ¬ (e = c ∧ x.id = id)) :
    ∃ y ∈ next.rows e, y.id = x.id := by
  by_cases he : e = c
  · subst he
    rw [h.rows]
    exact ⟨x, List.mem_filter.2 ⟨hx, bne_iff_ne.2 fun hid => hother ⟨rfl, hid⟩⟩, rfl⟩
  · by_cases hpointing : ∃ r ∈ c.relations, r.many = true ∧ r.target = e
    · obtain ⟨r, hr, hmany, rfl⟩ := hpointing
      rw [h.pointing r hr hmany]
      exact ⟨_, List.mem_map_of_mem hx, id_released occasion r id x⟩
    · rw [h.others e he fun r hr hmany htarget => hpointing ⟨r, hr, hmany, htarget⟩]
      exact ⟨x, hx, rfl⟩

/-- Every row was there before and pointed to whatever it points to now. -/
theorem exists_before {y : Row} (hy : y ∈ next.rows e) : ∃ x ∈ s.rows e, x.id = y.id ∧
    ∀ name goal, name ≠ "updated_at" → goal ≠ .null → y.cell name = goal → x.cell name = goal := by
  by_cases he : e = c
  · subst he
    rw [h.rows] at hy
    exact ⟨y, (List.mem_filter.1 hy).1, rfl, fun _ _ _ _ hcell => hcell⟩
  · by_cases hpointing : ∃ r ∈ c.relations, r.many = true ∧ r.target = e
    · obtain ⟨r, hr, hmany, rfl⟩ := hpointing
      rw [h.pointing r hr hmany] at hy
      obtain ⟨x, hx, rfl⟩ := List.mem_map.1 hy
      exact ⟨x, hx, (id_released occasion r id x).symm, fun _ _ => cell_of_released⟩
    · rw [h.others e he fun r hr hmany htarget => hpointing ⟨r, hr, hmany, htarget⟩] at hy
      exact ⟨y, hy, rfl, fun _ _ _ _ hcell => hcell⟩

/-- No row points to a row that was removed. -/
theorem not_points (hr : r ∈ e.relations) (hone : r.many = false) (htarget : r.target = c) {y : Row}
    (hy : y ∈ next.rows e) : y.cell r.key ≠ .uuid id := by
  obtain ⟨back, hback, hmany, hbacktarget, hkey⟩ := Collection.exists_backward hr hone
  rw [htarget] at hback
  rw [← hbacktarget, h.pointing back hback hmany] at hy
  obtain ⟨x, -, rfl⟩ := List.mem_map.1 hy
  rw [← hkey]
  exact cell_released_ne (Collection.key_ne_updated hback) occasion id x

/-- A reference that dangles after a row was removed did before. -/
theorem dangles (hr : r ∈ e.relations) (hone : r.many = false)
    (hdangles : next.Dangles e r start goal) : s.Dangles e r start goal := by
  obtain ⟨⟨hgoal, y, hy, hid, hcell⟩, hmisses⟩ := hdangles
  obtain ⟨x, hx, hxid, hxcell⟩ := h.exists_before hy
  have hbefore := hxcell _ _ (Collection.key_ne_updated hr) hgoal hcell
  refine ⟨⟨hgoal, x, hx, hxid.trans hid, hbefore⟩, ?_⟩
  refine hmisses.of_next fun z hz hzgoal => h.exists_after hz ?_
  rintro ⟨htarget, rfl⟩
  exact h.not_points hr hone htarget hy (hcell.trans hzgoal)

end Removed

end Store

end CollectionQuery
