import CollectionQuery.Store
import Mathlib.Data.List.Nodup

/-!
# Columns and relations of the collections

The facts about the five collections that hold for all of them: which columns are hidden, and that
no relation and no public scope depends on a hidden column.  A reader follows a path of relations
one after the other, each in the collection that the one before leads to.
-/

namespace CollectionQuery

namespace Collection

variable {c : Collection}

theorem visibleColumn?_eq_some {name : String} {column : Column}
    (h : c.visibleColumn? name = some column) :
    column ∈ c.columns ∧ column.name = name ∧ name ∉ c.hiddenFields := by
  have hname : column.name = name := by simpa using List.find?_some h
  obtain ⟨hmem, hvisible⟩ := List.mem_filter.1 (List.mem_of_find?_eq_some h)
  exact ⟨hmem, hname, by simpa [hname] using hvisible⟩

theorem nodup_columns (c : Collection) : (c.columns.map (·.name)).Nodup := by
  cases c <;> decide

/-- The columns of a collection are told apart by their names. -/
theorem eq_of_name_eq {x y : Column} (hx : x ∈ c.columns) (hy : y ∈ c.columns)
    (h : x.name = y.name) : x = y :=
  List.inj_on_of_nodup_map c.nodup_columns hx hy h

/-- Identifiers, times and hashes stand in columns that may hold them. -/
theorem kind_of_freshId {column : Column} (h : column ∈ c.columns)
    (hdefault : column.default = .freshId) : column.kind = .uuid := by
  cases c <;> simp [columns, ownColumns, systemColumns, shortText, flag] at h <;> aesop

theorem default_of_id {column : Column} (h : column ∈ c.columns) (hname : column.name = "id") :
    column.kind = .uuid ∧ column.default = .freshId := by
  cases c <;> simp [columns, ownColumns, systemColumns, shortText, flag] at h <;> aesop

/-- Only blogs and resources hold the identifiers of other rows. -/
theorem name_of_uuid (hblogs : c ≠ blogs) (hresources : c ≠ resources) {column : Column}
    (h : column ∈ c.columns) (hkind : column.kind = .uuid) : column.name = "id" := by
  cases c <;> simp [columns, ownColumns, systemColumns, shortText, flag] at h hblogs hresources <;>
    aesop

/-- Only users and events, which hold none, have times of their own. -/
theorem name_of_uuid_of_moment {column other : Column} (h : column ∈ c.columns)
    (hother : other ∈ c.columns) {aware : Bool} (hkind : column.kind = .moment aware)
    (hname : column.name ∉ systemFields) (huuid : other.kind = .uuid) : other.name = "id" := by
  refine name_of_uuid ?_ ?_ hother huuid <;>
  · rintro rfl
    simp [columns, ownColumns, systemColumns, shortText, flag] at h
    simp only [systemFields] at hname
    aesop

theorem kind_of_now {column : Column} (h : column ∈ c.columns)
    (hdefault : column.default = .now) : ∃ aware, column.kind = .moment aware := by
  cases c <;> simp [columns, ownColumns, systemColumns, shortText, flag] at h <;> aesop

theorem kind_of_updated {column : Column} (h : column ∈ c.columns)
    (hname : column.name = "updated_at") : ∃ aware, column.kind = .moment aware := by
  cases c <;> simp [columns, ownColumns, systemColumns, shortText, flag] at h <;> aesop

theorem kind_of_hash {column : Column} (h : column ∈ c.columns)
    (hname : column.name = "password_hash") : ∃ length, column.kind = .text length := by
  cases c <;> simp [columns, ownColumns, systemColumns, shortText, flag] at h <;> aesop

theorem kind_of_userText {column : Column} (h : column ∈ users.columns)
    (hname : column.name ∈ ["email", "role"]) : ∃ length, column.kind = .text length := by
  simp [columns, ownColumns, systemColumns, shortText, flag] at h
  aesop

/-- A column that is not hidden is among the visible ones. -/
theorem exists_visible {name : String} (hmem : name ∈ c.columns.map (·.name))
    (hshown : name ∉ c.hiddenFields) : ∃ column ∈ c.visibleColumns, column.name = name := by
  obtain ⟨column, hcolumn, rfl⟩ := List.mem_map.1 hmem
  exact ⟨column, List.mem_filter.2 ⟨hcolumn, by simpa using hshown⟩, rfl⟩

/-- The name of a column that is not hidden leads to it. -/
theorem visibleColumn?_name {column : Column} (hmem : column ∈ c.columns)
    (hshown : column.name ∉ c.hiddenFields) : c.visibleColumn? column.name = some column := by
  obtain ⟨found, hfound⟩ : ∃ found, c.visibleColumn? column.name = some found := by
    refine Option.isSome_iff_exists.1 (List.find?_isSome.2 ⟨column, ?_, by simp⟩)
    exact List.mem_filter.2 ⟨hmem, by simpa using hshown⟩
  obtain ⟨hother, hname, -⟩ := visibleColumn?_eq_some hfound
  rw [hfound, eq_of_name_eq hother hmem hname]

/-- The key of a relation is not hidden where it stands. -/
theorem key_not_hidden {r : Relation} (h : r ∈ c.relations) :
    r.key ∉ (if r.many then r.target else c).hiddenFields := by
  cases c <;> simp [relations] at h <;> subst h <;> decide

/-- The key of a relation is a column where it stands. -/
theorem key_mem_columns {r : Relation} (h : r ∈ c.relations) :
    r.key ∈ (if r.many then r.target else c).columns.map (·.name) := by
  cases c <;> simp [relations] at h <;> subst h <;> decide

theorem key_ne_id {r : Relation} (h : r ∈ c.relations) : r.key ≠ "id" := by
  cases c <;> simp [relations] at h <;> subst h <;> decide

theorem key_ne_created {r : Relation} (h : r ∈ c.relations) : r.key ≠ "created_at" := by
  cases c <;> simp [relations] at h <;> subst h <;> decide

theorem key_ne_updated {r : Relation} (h : r ∈ c.relations) : r.key ≠ "updated_at" := by
  cases c <;> simp [relations] at h <;> subst h <;> decide

/-- A collection has at most one relation. -/
theorem relations_cases (c : Collection) : c.relations = [] ∨ ∃ r, c.relations = [r] := by
  cases c <;> simp [relations]

/-- A relation leads to another collection. -/
theorem target_ne {r : Relation} (h : r ∈ c.relations) : r.target ≠ c := by
  cases c <;> simp [relations] at h <;> subst h <;> decide

theorem ne_hash_of_uuid {column : Column} (h : column ∈ c.columns) (hkind : column.kind = .uuid) :
    column.name ≠ "password_hash" := by
  intro hname
  obtain ⟨length, htext⟩ := kind_of_hash h hname
  cases hkind.symm.trans htext

theorem ne_updated_of_uuid {column : Column} (h : column ∈ c.columns)
    (hkind : column.kind = .uuid) : column.name ≠ "updated_at" := by
  intro hname
  obtain ⟨aware, hmoment⟩ := kind_of_updated h hname
  cases hkind.symm.trans hmoment

/-- A column of identifiers has a fresh one if nothing is given, or null. -/
theorem default_of_uuid {column : Column} (h : column ∈ c.columns) (hkind : column.kind = .uuid) :
    column.default = .none ∨ column.default = .freshId := by
  have hall : (c.columns.all fun column => column.kind != .uuid || match column.default with
      | .none => true
      | .freshId => true
      | _ => false) = true := by
    cases c <;> decide
  have hcolumn := List.all_eq_true.1 hall column h
  rw [hkind] at hcolumn
  cases hdefault : column.default <;> simp [hdefault] at hcolumn ⊢

/-- The key of a relation to one row is a column of identifiers, null if nothing is given. -/
theorem exists_keyColumn {r : Relation} (h : r ∈ c.relations) (hone : r.many = false) :
    ∃ column ∈ c.columns, column.name = r.key ∧ column.kind = .uuid ∧ column.default = .none := by
  cases c <;> simp [relations] at h <;> subst h <;> simp at hone <;>
    simp [columns, ownColumns, systemColumns, shortText, flag]

/-- A relation to one row is read backwards by a relation to many rows. -/
theorem exists_backward {r : Relation} (h : r ∈ c.relations) (hone : r.many = false) :
    ∃ back ∈ r.target.relations, back.many = true ∧ back.target = c ∧ back.key = r.key := by
  cases c <;> simp [relations] at h <;> subst h <;> simp [relations] at hone ⊢

/-- The column of a name is found. -/
theorem column?_name {column : Column} (h : column ∈ c.columns) :
    c.column? column.name = some column := by
  obtain ⟨found, hfound⟩ : ∃ found, c.column? column.name = some found := by
    refine Option.isSome_iff_exists.1 (List.find?_isSome.2 ⟨column, h, ?_⟩)
    simp
  have hname : found.name = column.name := by simpa using List.find?_some hfound
  rw [hfound, eq_of_name_eq (List.mem_of_find?_eq_some hfound) h hname]

/-- Neither the key that many rows hold nor the time of a change is unique. -/
theorem key_not_unique {r : Relation} (h : r ∈ c.relations) (hmany : r.many = true)
    {column : Column} (hcolumn : column ∈ r.target.columns) (hname : column.name = r.key) :
    column.unique = false := by
  cases c <;> simp [relations] at h <;> subst h <;> cases hmany <;>
    simp [columns, ownColumns, systemColumns, shortText, flag] at hcolumn <;> aesop

/-- No user holds the identifier of another row. -/
theorem target_ne_users {r : Relation} (h : r ∈ c.relations) (hmany : r.many = true) :
    r.target ≠ users := by
  cases c <;> simp [relations] at h <;> subst h <;> simp at hmany ⊢

theorem updated_not_unique {column : Column} (h : column ∈ c.columns)
    (hname : column.name = "updated_at") : column.unique = false := by
  cases c <;> simp [columns, ownColumns, systemColumns, shortText, flag] at h <;> aesop

/-- Only the users have hidden columns. -/
theorem mem_hiddenFields {name : String} :
    name ∈ c.hiddenFields ↔ c = users ∧ name = "password_hash" := by
  cases c <;> simp [hiddenFields]

theorem id_not_hidden : "id" ∉ c.hiddenFields := by
  simp [mem_hiddenFields]

theorem id_mem_columns : "id" ∈ c.columns.map (·.name) := by
  simp [columns, systemColumns]

/-- A public scope is empty or asks for published rows. -/
theorem publicScope_eq {scope : List (String × Bool)} (h : c.publicScope = some scope) :
    scope = [] ∨ scope = [("published", true)] := by
  cases c <;> simp_all [publicScope]

end Collection

namespace Audience

variable {a : Audience} {c : Collection}

theorem relation?_eq_some {name : String} {r : Relation} (h : a.relation? c name = some r) :
    r ∈ c.relations ∧ r.name = name ∧ a.sees r.target = true := by
  obtain ⟨hfind, hsees⟩ := Option.filter_eq_some_iff.1 h
  exact ⟨List.mem_of_find?_eq_some hfind, by simpa using List.find?_some hfind, hsees⟩

/-- What a scope asks for is not hidden. -/
theorem scope_not_hidden {wanted : String × Bool} (h : wanted ∈ a.scope c) :
    wanted.1 ∉ c.hiddenFields := by
  cases a <;> cases c <;> simp_all [scope, Collection.publicScope, Collection.hiddenFields]

/-- What a scope asks for is a column. -/
theorem scope_mem_columns {wanted : String × Bool} (h : wanted ∈ a.scope c) :
    wanted.1 ∈ c.columns.map (·.name) := by
  cases a <;> cases c <;> simp_all [scope, Collection.publicScope] <;> decide

/-- The relations of a path lead, one after the other, from a collection to another. -/
inductive Leads (a : Audience) : Collection → List Relation → Collection → Prop where
  /-- No relation leads away. -/
  | here (c : Collection) : Leads a c [] c
  /-- A relation that the reader may follow, and the rest of the path. -/
  | step {c d : Collection} {r : Relation} {rest : List Relation}
      (follows : a.relation? c r.name = some r) (rest_leads : Leads a r.target rest d) :
      Leads a c (r :: rest) d

end Audience

end CollectionQuery
