import CollectionQuery.Proofs.Store.Alike
import CollectionQuery.RowGraph.Loading

/-!
# Looking up loaded rows

Adding to a graph changes what is loaded of one row, and nothing of the others.  So a row of the
page keeps the columns that were loaded of it, and whatever is added holds the same identifier; it
is shown with its identifier.
-/

namespace CollectionQuery

namespace RowGraph

variable {g : RowGraph} {row : LoadedRow} {key : RowKey}

theorem row?_cons (g : RowGraph) (row : LoadedRow) (key : RowKey) :
    row? (row :: g) key = if row.key = key then some row else row? g key := by
  rw [row?, row?, List.find?_cons]
  cases hkey : row.key == key with
  | true => simp [beq_iff_eq.1 hkey]
  | false => simp [beq_eq_false_iff_ne.1 hkey]

theorem row?_key (h : g.row? key = some row) : row.key = key := by
  simpa using List.find?_some h

theorem isSome_row? (g : RowGraph) (key : RowKey) :
    (g.any fun other => other.key = key) = (g.row? key).isSome := by
  rw [Bool.eq_iff_iff, row?, List.any_eq_true, List.find?_isSome]
  simp

theorem row?_map {f : LoadedRow → LoadedRow} (hf : ∀ row, (f row).key = row.key) :
    row? (g.map f) key = (g.row? key).map f := by
  induction g with
  | nil => rfl
  | cons row rest ih =>
      rw [List.map_cons, row?_cons, row?_cons, ih, hf]
      split <;> rfl

/-- Adding a row joins it to what was loaded of it, and leaves all other rows as they are. -/
theorem row?_add (g : RowGraph) (row : LoadedRow) (key : RowKey) :
    (g.add row).row? key =
      if row.key = key then some (((g.row? key).map (·.add row)).getD row) else g.row? key := by
  rw [add, isSome_row?]
  split
  · next hsome =>
      rw [row?_map (by intro other; split <;> rfl)]
      cases hfound : g.row? key with
      | none =>
          rw [if_neg, Option.map_none]
          rintro rfl
          simp [hfound] at hsome
      | some found =>
          rw [Option.map_some, row?_key hfound]
          by_cases hkey : row.key = key
          · simp [hkey]
          · simp [hkey, Ne.symm hkey]
  · next hnone =>
      have happend : row? (g ++ [row]) key = (row? g key).or (row? [row] key) :=
        List.find?_append
      rw [happend, row?_cons]
      by_cases hkey : row.key = key
      · subst hkey
        have hnone : g.row? row.key = none := by simpa using hnone
        simp [hnone]
      · simp [hkey, row?]

/-- What is loaded of a row comes from what was added of it, in the same order. -/
theorem row?_foldl_add (rows : List LoadedRow) (g : RowGraph) (key : RowKey) :
    (rows.foldl add g).row? key = (rows.filter fun row => row.key = key).foldl
      (fun found row => some ((found.map (·.add row)).getD row)) (g.row? key) := by
  induction rows generalizing g with
  | nil => rfl
  | cons row rest ih =>
      rw [List.foldl_cons, ih, row?_add, List.filter_cons]
      by_cases hkey : row.key = key
      · simp [hkey]
      · simp [hkey]

/-- What joining keeps and what holds of all added rows holds of all rows of a graph. -/
theorem forall_foldl_add {P : LoadedRow → Prop}
    (hadd : ∀ row other : LoadedRow, P row → P other → row.key = other.key → P (row.add other))
    {rows : List LoadedRow} (hrows : ∀ row ∈ rows, P row) {g : RowGraph} (hg : ∀ row ∈ g, P row) :
    ∀ row ∈ rows.foldl add g, P row := by
  induction rows generalizing g with
  | nil => exact hg
  | cons row rest ih =>
      obtain ⟨hrow, hrest⟩ := List.forall_mem_cons.1 hrows
      refine ih hrest fun other hother => ?_
      rw [add] at hother
      split at hother
      · obtain ⟨u, hu, rfl⟩ := List.mem_map.1 hother
        split
        · next hkey => exact hadd u row (hg u hu) hrow hkey
        · exact hg u hu
      · rcases List.mem_append.1 hother with hother | hother
        · exact hg other hother
        · cases List.mem_singleton.1 hother
          exact hrow

end RowGraph

/-! ## Identifiers -/

/-- Whatever a loaded row holds in the column `id` is its identifier. -/
def LoadedRow.Identified (row : LoadedRow) : Prop :=
  ∀ p ∈ row.columns, p.1 = "id" → p.2 = .uuid row.key.id

/-- A column of a loaded row is there. -/
def LoadedRow.HasColumn (row : LoadedRow) (name : String) : Prop := name ∈ row.columns.map (·.1)

/-- The column `id` of a loaded row is there. -/
def LoadedRow.HasId (row : LoadedRow) : Prop := row.HasColumn "id"

theorem LoadedRow.Identified.add {row other : LoadedRow} (h : row.Identified)
    (h' : other.Identified) (hkey : row.key = other.key) : (row.add other).Identified := by
  intro p hp hname
  rcases List.mem_append.1 hp with hp | hp
  · exact h p hp hname
  · exact (h' p (List.mem_of_mem_filter hp) hname).trans (by rw [← hkey]; rfl)

theorem LoadedRow.hasColumn_add {row other : LoadedRow} {name : String} :
    (row.add other).HasColumn name ↔ row.HasColumn name ∨ other.HasColumn name := by
  simp only [HasColumn, add, List.map_append, List.mem_append]
  refine ⟨Or.imp_right fun h => ?_, fun h => ?_⟩
  · exact List.map_subset _ (List.filter_subset_self _) h
  · by_cases hrow : name ∈ row.columns.map (·.1)
    · exact Or.inl hrow
    · obtain ⟨p, hp, rfl⟩ := List.mem_map.1 (h.resolve_left hrow)
      exact Or.inr (List.mem_map_of_mem (List.mem_filter.2 ⟨hp, decide_eq_true hrow⟩))

theorem LoadedRow.hasColumn_ofColumns {c : Collection} {names : List String} {row : Row}
    {name : String} : (ofColumns c names row).HasColumn name ↔ name ∈ names := by
  simp [HasColumn, ofColumns]

namespace RowGraph

variable {s : Store} {a : Audience} {c : Collection} {g : RowGraph}

theorem identified_ofColumns (hs : s.WellFormed) {row : Row} (hrow : row ∈ s.rows c)
    (names : List String) : (LoadedRow.ofColumns c names row).Identified := by
  intro p hp hname
  obtain ⟨name, -, rfl⟩ := List.mem_map.1 hp
  cases hname
  exact hs.id_cell c row hrow

theorem mem_targets {r : Relation} {row other : Row} :
    other ∈ targets s a r row ↔ other ∈ s.related r row ∧ a.inScope r.target other = true := by
  rw [targets, List.mem_mergeSort, List.mem_filter]

theorem mem_of_mem_targets {r : Relation} {row other : Row} (h : other ∈ targets s a r row) :
    other ∈ s.rows r.target :=
  (Store.related_sublist s r row).subset (mem_targets.1 h).1

theorem identified_alongPath (hs : s.WellFormed) {path : List Relation} {rows : List Row} :
    ∀ row ∈ alongPath s a c rows path, row.Identified := by
  induction path generalizing c rows with
  | nil => simp [alongPath]
  | cons r rest ih =>
      intro row hrow
      rw [alongPath] at hrow
      rcases List.mem_append.1 hrow with hrow | hrow
      · rcases List.mem_append.1 hrow with hrow | hrow
        · obtain ⟨x, -, rfl⟩ := List.mem_map.1 hrow
          exact fun p hp => by cases hp
        · obtain ⟨x, hx, rfl⟩ := List.mem_map.1 hrow
          obtain ⟨y, -, hx⟩ := List.mem_flatMap.1 hx
          exact identified_ofColumns hs (mem_of_mem_targets hx) _
      · exact ih row hrow

/-- Every row of a graph that was loaded holds its identifier. -/
theorem identified_load (hs : s.WellFormed) {rows : List Row}
    (hrows : ∀ row ∈ rows, row ∈ s.rows c) (columns : List String)
    (paths : List (List Relation)) : ∀ row ∈ load s a c rows columns paths, row.Identified := by
  refine forall_foldl_add (fun _ _ h h' hkey => h.add h' hkey) ?_ (by simp)
  intro row hrow
  rcases List.mem_append.1 hrow with hrow | hrow
  · obtain ⟨x, hx, rfl⟩ := List.mem_map.1 hrow
    exact identified_ofColumns hs (hrows x hx) columns
  · obtain ⟨path, -, hrow⟩ := List.mem_flatMap.1 hrow
    exact identified_alongPath hs row hrow

/-- A column of a row of a graph is there. -/
def HasColumn (g : RowGraph) (key : RowKey) (name : String) : Prop :=
  ∃ row, g.row? key = some row ∧ row.HasColumn name

theorem hasColumn_add {row : LoadedRow} {key : RowKey} {name : String} :
    (g.add row).HasColumn key name ↔
      g.HasColumn key name ∨ row.key = key ∧ row.HasColumn name := by
  rw [HasColumn, HasColumn, row?_add]
  by_cases hkey : row.key = key
  · cases g.row? key with
    | none => simp [hkey]
    | some found => simp [hkey, LoadedRow.hasColumn_add]
  · simp [hkey]

/-- The columns of a row come from all that was added of it. -/
theorem hasColumn_foldl_add {rows : List LoadedRow} {key : RowKey} {name : String} :
    (rows.foldl add g).HasColumn key name ↔
      g.HasColumn key name ∨ ∃ row ∈ rows, row.key = key ∧ row.HasColumn name := by
  induction rows generalizing g with
  | nil => simp
  | cons row rest ih => rw [List.foldl_cons, ih, hasColumn_add, or_assoc, List.exists_mem_cons_iff]

/-- A row of the page is among the loaded rows, with its identifier. -/
theorem exists_hasId_load {rows : List Row} {row : Row} (hrow : row ∈ rows)
    {columns : List String} (hid : "id" ∈ columns) (paths : List (List Relation)) :
    ∃ found, (load s a c rows columns paths).row? ⟨c, row.id⟩ = some found ∧ found.HasId := by
  refine hasColumn_foldl_add.2 (Or.inr ⟨LoadedRow.ofColumns c columns row, ?_, rfl, ?_⟩)
  · exact List.mem_append_left _ (List.mem_map_of_mem hrow)
  · exact LoadedRow.hasColumn_ofColumns.2 hid

/-! ## Shown identifiers -/

/-- The member of a shown row that holds its identifier. -/
def shownId? : Value → Option Value
  | .object members => Value.member? members "id"
  | _ => none

/-- A loaded row is shown as its columns and what its relations are shown as. -/
theorem exists_display {key : RowKey} {row : LoadedRow} (hrow : g.row? key = some row) :
    ∃ members, g.display key = .object (row.shownColumns ++ members) ∧
      ∀ m ∈ members, m.1 ∈ row.relations.map (·.1) := by
  have hlength : g.length ≠ 0 := by
    rintro hzero
    rw [List.length_eq_zero_iff.1 hzero] at hrow
    cases hrow
  obtain ⟨fuel, hfuel⟩ := Nat.exists_eq_succ_of_ne_zero hlength
  rw [display, hfuel, displayAt, hrow]
  refine ⟨_, rfl, fun m hm => ?_⟩
  obtain ⟨r, hr, hm⟩ := List.mem_filterMap.1 hm
  have hname : m.1 = r.1 := by
    split at hm
    · cases hm
      rfl
    · split at hm
      · cases hm
      · cases hm
        rfl
    · cases hm
      rfl
  exact hname ▸ List.mem_map_of_mem hr

/-- A loaded row with its identifier is shown with it. -/
theorem shownId?_display {key : RowKey} {row : LoadedRow} (hrow : g.row? key = some row)
    (hidentified : row.Identified) (hid : row.HasId) :
    shownId? (g.display key) = some (.text key.id.text) := by
  obtain ⟨members, hdisplay, -⟩ := exists_display hrow
  rw [hdisplay]
  simp only [shownId?, Value.member?, List.find?_append]
  have hfind : ∃ m, row.shownColumns.find? (fun m => m.1 == "id") = some m := by
    obtain ⟨p, hp, hname⟩ := List.mem_map.1 hid
    rw [← Option.isSome_iff_exists, List.find?_isSome]
    refine ⟨(p.1, p.2.toValue.plain), List.mem_map.2 ⟨p, List.mem_filter.2 ⟨hp, ?_⟩, rfl⟩, ?_⟩
    · rw [hname]
      exact decide_eq_true Collection.id_not_hidden
    · simpa using hname
  obtain ⟨m, hm⟩ := hfind
  obtain ⟨p, hp, rfl⟩ := List.mem_map.1 (List.mem_of_find?_eq_some hm)
  have hname : p.1 = "id" := by simpa using List.find?_some hm
  have hcell := hidentified p (List.mem_of_mem_filter hp) hname
  rw [hm, Option.some_or, Option.map_some, hcell, row?_key hrow, Cell.toValue, Value.plain]

end RowGraph

end CollectionQuery
