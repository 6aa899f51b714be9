import CollectionQuery.Proofs.RowGraph.Keys

/-!
# Loaded columns

A row of a graph has the columns that were loaded of it anywhere.  So a row of a page has more than
the columns that were asked for exactly if a path of relations leads back to it: what a path leads
to is loaded with all columns.
-/

namespace CollectionQuery

/-- A path of relations leads from a row of a collection to a row, in the scope of a reader. -/
inductive Store.Connects (s : Store) (a : Audience) :
    Collection → Row → List Relation → Collection → Row → Prop where
  /-- No relation leads away. -/
  | here (c : Collection) (row : Row) : Connects s a c row [] c row
  | step {c d : Collection} {r : Relation} {rest : List Relation} {x y z : Row}
      (follows : y ∈ RowGraph.targets s a r x) (rest_leads : Connects s a r.target y rest d z) :
      Connects s a c x (r :: rest) d z

/-- A path of relations leads on its way from one of some rows of a collection to a row. -/
def Store.PassesBy (s : Store) (a : Audience) (c : Collection) (rows : List Row)
    (path : List Relation) (d : Collection) (row : Row) : Prop :=
  ∃ start ∈ rows, ∃ front, front ≠ [] ∧ front <+: path ∧ s.Connects a c start front d row

/-! ## Paths -/

section

variable {s : Store} {a : Audience} {c d : Collection} {rows : List Row} {row : Row}

theorem Store.not_passesBy_nil : ¬ s.PassesBy a c rows [] d row := by
  rintro ⟨_, -, front, hne, hprefix, -⟩
  exact hne (List.prefix_nil.1 hprefix)

/-- A path passes by the rows that its first relation leads to, and by those that the rest of it
passes by from there. -/
theorem Store.passesBy_cons {r : Relation} {rest : List Relation} :
    s.PassesBy a c rows (r :: rest) d row ↔
      d = r.target ∧ row ∈ rows.flatMap (RowGraph.targets s a r) ∨
        s.PassesBy a r.target (rows.flatMap (RowGraph.targets s a r)) rest d row := by
  constructor
  · rintro ⟨start, hstart, front, hne, hprefix, hconnects⟩
    cases hconnects with
    | here => exact absurd rfl hne
    | @step _ _ r' front _ y _ follows hrest =>
        obtain ⟨rfl, hfrontRest⟩ := List.cons_prefix_cons.1 hprefix
        have hy : y ∈ rows.flatMap (RowGraph.targets s a r') :=
          List.mem_flatMap.2 ⟨start, hstart, follows⟩
        by_cases hfront : front = []
        · subst hfront
          cases hrest
          exact Or.inl ⟨rfl, hy⟩
        · exact Or.inr ⟨y, hy, front, hfront, hfrontRest, hrest⟩
  · rintro (⟨rfl, hrow⟩ | ⟨y, hy, front, -, hprefix, hconnects⟩)
    · obtain ⟨start, hstart, follows⟩ := List.mem_flatMap.1 hrow
      exact ⟨start, hstart, [r], nofun, List.cons_prefix_cons.2 ⟨rfl, List.nil_prefix⟩,
        .step follows (.here _ _)⟩
    · obtain ⟨start, hstart, follows⟩ := List.mem_flatMap.1 hy
      exact ⟨start, hstart, r :: front, nofun, List.cons_prefix_cons.2 ⟨rfl, hprefix⟩,
        .step follows hconnects⟩

/-- A path passes by rows of the store. -/
theorem Store.PassesBy.mem {path : List Relation} (h : s.PassesBy a c rows path d row) :
    row ∈ s.rows d := by
  induction path generalizing c rows with
  | nil => exact absurd h not_passesBy_nil
  | cons r rest ih =>
      rcases passesBy_cons.1 h with ⟨rfl, hrow⟩ | hrest
      · obtain ⟨start, -, follows⟩ := List.mem_flatMap.1 hrow
        exact RowGraph.mem_of_mem_targets follows
      · exact ih hrest

end

namespace RowGraph

variable {s : Store} {a : Audience} {c d : Collection} {name : String}

/-- What is loaded along a path has all columns of the rows that the path passes by. -/
theorem hasColumn_alongPath {path : List Relation} {rows : List Row} {id : Uuid} :
    (∃ row ∈ alongPath s a c rows path, row.key = ⟨d, id⟩ ∧ row.HasColumn name) ↔
      name ∈ d.columns.map (·.name) ∧ ∃ row, row.id = id ∧ s.PassesBy a c rows path d row := by
  induction path generalizing c rows with
  | nil => simp [alongPath, Store.not_passesBy_nil]
  | cons r rest ih =>
      constructor
      · rintro ⟨e, he, hkey, hcolumn⟩
        rw [alongPath] at he
        rcases List.mem_append.1 he with he | he
        · rcases List.mem_append.1 he with he | he
          · obtain ⟨x, -, rfl⟩ := List.mem_map.1 he
            cases hcolumn
          · obtain ⟨row, hrow, rfl⟩ := List.mem_map.1 he
            cases hkey
            exact ⟨LoadedRow.hasColumn_ofColumns.1 hcolumn, row, rfl,
              Store.passesBy_cons.2 (Or.inl ⟨rfl, hrow⟩)⟩
        · obtain ⟨hname, row, hid, hpasses⟩ := ih.1 ⟨e, he, hkey, hcolumn⟩
          exact ⟨hname, row, hid, Store.passesBy_cons.2 (Or.inr hpasses)⟩
      · rintro ⟨hname, row, rfl, hpasses⟩
        rw [alongPath]
        rcases Store.passesBy_cons.1 hpasses with ⟨rfl, hrow⟩ | hpasses
        · refine ⟨.full r.target row, ?_, rfl, LoadedRow.hasColumn_ofColumns.2 hname⟩
          exact List.mem_append_left _ (List.mem_append_right _ (List.mem_map_of_mem hrow))
        · obtain ⟨e, he, h⟩ := ih.2 ⟨hname, row, rfl, hpasses⟩
          exact ⟨e, List.mem_append_right _ he, h⟩

/-- A row of a page has the columns that were asked for, and all columns if a path passes by it. -/
theorem hasColumn_load {columns : List String} {paths : List (List Relation)} {rows : List Row}
    {row : Row} (hrow : row ∈ rows) :
    (load s a c rows columns paths).HasColumn ⟨c, row.id⟩ name ↔ name ∈ columns ∨
      name ∈ c.columns.map (·.name) ∧
        ∃ path ∈ paths, ∃ other, other.id = row.id ∧ s.PassesBy a c rows path c other := by
  have hnil : ¬ HasColumn [] ⟨c, row.id⟩ name := by
    rintro ⟨_, hfound, -⟩
    cases hfound
  rw [load, hasColumn_foldl_add, or_iff_right hnil]
  constructor
  · rintro ⟨e, he, hkey, hcolumn⟩
    rcases List.mem_append.1 he with he | he
    · obtain ⟨x, -, rfl⟩ := List.mem_map.1 he
      exact Or.inl (LoadedRow.hasColumn_ofColumns.1 hcolumn)
    · obtain ⟨path, hpath, he⟩ := List.mem_flatMap.1 he
      obtain ⟨hname, other, hid, hpasses⟩ := hasColumn_alongPath.1 ⟨e, he, hkey, hcolumn⟩
      exact Or.inr ⟨hname, path, hpath, other, hid, hpasses⟩
  · rintro (hname | ⟨hname, path, hpath, hother⟩)
    · exact ⟨.ofColumns c columns row, List.mem_append_left _ (List.mem_map_of_mem hrow), rfl,
        LoadedRow.hasColumn_ofColumns.2 hname⟩
    · obtain ⟨e, he, h⟩ := hasColumn_alongPath.2 ⟨hname, hother⟩
      exact ⟨e, List.mem_append_right _ (List.mem_flatMap.2 ⟨path, hpath, he⟩), h⟩

end RowGraph

/-! ## Shown columns -/

/-- The keys of an object. -/
def Value.keys : Value → List String
  | object members => members.map (·.1)
  | _ => []

/-- No relation has the name of a column. -/
theorem Collection.not_relation_of_column {c : Collection} {column : Column}
    (h : column ∈ c.columns) : column.name ∉ c.relations.map (·.name) := by
  have hall : (c.columns.all fun column => column.name ∉ c.relations.map (·.name)) = true := by
    cases c <;> decide
  simpa using List.all_eq_true.1 hall column h

/-- The columns that are shown of a row are those that are there and not hidden. -/
theorem RowGraph.mem_keys_display {g : RowGraph} (hg : ∀ row ∈ g, row.Named) {key : RowKey}
    {column : Column} (hcolumn : column ∈ key.collection.columns) :
    column.name ∈ (g.display key).keys ↔
      g.HasColumn key column.name ∧ column.name ∉ key.collection.hiddenFields := by
  cases hrow : g.row? key with
  | none =>
      have hnone : g.display key = .null := by
        rw [display]
        cases g.length with
        | zero => rfl
        | succ fuel => rw [displayAt, hrow]
      simp [hnone, Value.keys, HasColumn, hrow]
  | some row =>
      obtain ⟨members, hdisplay, hmembers⟩ := exists_display hrow
      have hnamed := hg row (List.mem_of_find?_eq_some hrow)
      obtain rfl := row?_key hrow
      have hrelation : column.name ∉ members.map (·.1) := by
        intro hmem
        obtain ⟨m, hm, hname⟩ := List.mem_map.1 hmem
        obtain ⟨r, hr, heq⟩ := List.mem_map.1 (hmembers m hm)
        exact Collection.not_relation_of_column hcolumn
          (hname ▸ heq ▸ hnamed.relations_named r hr)
      have hshown : column.name ∈ row.shownColumns.map (·.1) ↔
          row.HasColumn column.name ∧ column.name ∉ row.key.collection.hiddenFields := by
        simp [LoadedRow.shownColumns, LoadedRow.HasColumn]
      rw [hdisplay, Value.keys, List.map_append, List.mem_append, or_iff_left hrelation, hshown]
      simp [HasColumn, hrow]

end CollectionQuery
