import CollectionQuery.Proofs.RowGraph.Lookup

/-!
# The keys of shown rows

A loaded row has the names of its collection: of columns and of relations.  Showing it leaves out
the hidden columns and shows related rows in the same way, so the name of a hidden column stands
nowhere in what is shown, at any depth.
-/

namespace CollectionQuery

/-- A name is a key of an object somewhere in a value. -/
inductive Value.HasKey (name : String) : Value → Prop where
  /-- It is a key of this object. -/
  | here {members : List (String × Value)} {v : Value} (h : (name, v) ∈ members) :
      HasKey name (object members)
  /-- It is a key somewhere in a member of an object. -/
  | member {members : List (String × Value)} {m : String × Value} (h : m ∈ members)
      (inside : HasKey name m.2) : HasKey name (object members)
  /-- It is a key somewhere in an item of a list. -/
  | item {items : List Value} {v : Value} (h : v ∈ items) (inside : HasKey name v) :
      HasKey name (list items)
  /-- It is a key somewhere in an item of a list of fixed length. -/
  | entry {items : List Value} {v : Value} (h : v ∈ items) (inside : HasKey name v) :
      HasKey name (tuple items)

theorem Value.not_hasKey_object {name : String} {members : List (String × Value)}
    (h : ∀ m ∈ members, m.1 ≠ name ∧ ¬ m.2.HasKey name) : ¬ (object members).HasKey name := by
  intro hkey
  cases hkey with
  | here hmem => exact (h _ hmem).1 rfl
  | member hmem inside => exact (h _ hmem).2 inside

theorem Value.not_hasKey_list {name : String} {items : List Value}
    (h : ∀ v ∈ items, ¬ v.HasKey name) : ¬ (list items).HasKey name := by
  intro hkey
  cases hkey with
  | item hmem inside => exact h _ hmem inside

theorem Value.not_hasKey_null (name : String) : ¬ null.HasKey name := by
  rintro (_ | _)

/-- A cell is shown without keys. -/
theorem Cell.not_hasKey (name : String) (c : Cell) : ¬ c.toValue.plain.HasKey name := by
  cases c <;> rw [Cell.toValue, Value.plain] <;> rintro (_ | _)

/-! ## Names of loaded rows -/

/-- A loaded row with columns and relations of its collection. -/
structure LoadedRow.Named (row : LoadedRow) : Prop where
  /-- Its columns are columns of the collection. -/
  columns_named : ∀ p ∈ row.columns, p.1 ∈ row.key.collection.columns.map (·.name)
  /-- Its relations are relations of the collection. -/
  relations_named : ∀ r ∈ row.relations, r.1 ∈ row.key.collection.relations.map (·.name)

variable {s : Store} {a : Audience} {c : Collection}

theorem LoadedRow.Named.add {row other : LoadedRow} (h : row.Named) (h' : other.Named)
    (hkey : row.key = other.key) : (row.add other).Named where
  columns_named p hp := by
    rcases List.mem_append.1 hp with hp | hp
    · exact h.columns_named p hp
    · exact hkey ▸ h'.columns_named p (List.mem_of_mem_filter hp)
  relations_named r hr := by
    rcases List.mem_append.1 hr with hr | hr
    · exact h.relations_named r hr
    · exact hkey ▸ h'.relations_named r (List.mem_of_mem_filter hr)

theorem LoadedRow.named_ofColumns {names : List String} (row : Row)
    (hnames : ∀ name ∈ names, name ∈ c.columns.map (·.name)) : (ofColumns c names row).Named where
  columns_named p hp := by
    obtain ⟨name, hname, rfl⟩ := List.mem_map.1 hp
    exact hnames name hname
  relations_named r hr := by cases hr

namespace RowGraph

theorem named_alongPath {path : List Relation} {d : Collection} (hleads : a.Leads c path d)
    (rows : List Row) : ∀ row ∈ alongPath s a c rows path, row.Named := by
  induction hleads generalizing rows with
  | here c => simp [alongPath]
  | @step c d r rest follows _ ih =>
      obtain ⟨hr, -, -⟩ := Audience.relation?_eq_some follows
      intro row hrow
      rw [alongPath] at hrow
      rcases List.mem_append.1 hrow with hrow | hrow
      · rcases List.mem_append.1 hrow with hrow | hrow
        · obtain ⟨u, -, rfl⟩ := List.mem_map.1 hrow
          refine ⟨by simp, ?_⟩
          intro link hlink
          cases List.mem_singleton.1 hlink
          exact List.mem_map_of_mem hr
        · obtain ⟨u, -, rfl⟩ := List.mem_map.1 hrow
          exact LoadedRow.named_ofColumns u fun _ hname => hname
      · exact ih _ row hrow

/-- A graph that was loaded has the names of the collections. -/
theorem named_load {columns : List String} {paths : List (List Relation)}
    (hcolumns : ∀ name ∈ columns, name ∈ c.columns.map (·.name))
    (hpaths : ∀ path ∈ paths, ∃ d, a.Leads c path d) (rows : List Row) :
    ∀ row ∈ load s a c rows columns paths, row.Named := by
  refine forall_foldl_add (fun _ _ h h' hkey => h.add h' hkey) ?_ (by simp)
  intro row hrow
  rcases List.mem_append.1 hrow with hrow | hrow
  · obtain ⟨u, -, rfl⟩ := List.mem_map.1 hrow
    exact LoadedRow.named_ofColumns u hcolumns
  · obtain ⟨path, hpath, hrow⟩ := List.mem_flatMap.1 hrow
    obtain ⟨d, hleads⟩ := hpaths path hpath
    exact named_alongPath hleads rows row hrow

/-! ## Shown rows -/

/-- A name that no relation has, and no column but hidden ones. -/
def Concealed (name : String) : Prop :=
  ∀ c : Collection, name ∉ c.relations.map (·.name) ∧
    (name ∈ c.columns.map (·.name) → name ∈ c.hiddenFields)

theorem concealed_password_hash : Concealed "password_hash" := by
  intro c
  cases c <;> decide

/-- No column of a row is shown under a concealed name, and no cell has a key. -/
theorem not_hasKey_shownColumns {name : String} (hname : Concealed name)
    {row : LoadedRow} (h : row.Named) : ∀ m ∈ row.shownColumns, m.1 ≠ name ∧ ¬ m.2.HasKey name := by
  intro m hm
  obtain ⟨p, hp, rfl⟩ := List.mem_map.1 hm
  obtain ⟨hp, hshown⟩ := List.mem_filter.1 hp
  refine ⟨?_, Cell.not_hasKey name p.2⟩
  rintro rfl
  exact of_decide_eq_true hshown ((hname _).2 (h.columns_named p hp))

/-- No row of a graph is shown with a concealed name as a key, at any depth. -/
theorem not_hasKey_displayAt {name : String} (hname : Concealed name) {g : RowGraph}
    (hg : ∀ row ∈ g, row.Named) (fuel : Nat) (path : List RowKey) (key : RowKey) :
    ¬ (g.displayAt fuel path key).HasKey name := by
  induction fuel generalizing path key with
  | zero =>
      rw [displayAt]
      exact Value.not_hasKey_null name
  | succ fuel ih =>
      rw [displayAt]
      cases hrow : g.row? key with
      | none => exact Value.not_hasKey_null name
      | some row =>
          have hnamed := hg row (List.mem_of_find?_eq_some hrow)
          refine Value.not_hasKey_object fun m hm => ?_
          rcases List.mem_append.1 hm with hm | hm
          · exact not_hasKey_shownColumns hname hnamed m hm
          · obtain ⟨r, hr, hm⟩ := List.mem_filterMap.1 hm
            have hne : r.1 ≠ name := by
              rintro rfl
              exact (hname _).1 (hnamed.relations_named r hr)
            split at hm
            · cases hm
              exact ⟨hne, Value.not_hasKey_null name⟩
            · split at hm
              · cases hm
              · cases hm
                exact ⟨hne, ih _ _⟩
            · cases hm
              refine ⟨hne, Value.not_hasKey_list fun v hv => ?_⟩
              obtain ⟨target, -, rfl⟩ := List.mem_map.1 hv
              exact ih _ _

end RowGraph

end CollectionQuery
