import CollectionQuery.Proofs.Draft.Refusals
import CollectionQuery.Proofs.Store.Writing

/-!
# Why a row is not written

A row that is not written breaks a constraint, which is a bad request, or is given a value that its
column does not store, which is a fault.  Defaults are stored by their columns, so a fault comes
from what the draft sets: for a new row from any of its values, and for a row that is there from
those that it does not hold already.
-/

namespace CollectionQuery

variable {s : Store} {c : Collection} {occasion : Occasion} {d : Draft} {row : Row}

namespace Draft

/-- Whether the columns of a collection store all that a draft sets them to. -/
def Storable (c : Collection) (d : Draft) : Prop :=
  ∀ column ∈ c.columns, ∀ v, Value.member? d.values column.name = some v →
    column.kind.stores v = true

/-- Whether the columns of a collection store all that a draft changes in a row. -/
def StorableIn (c : Collection) (row : Row) (d : Draft) : Prop :=
  ∀ column ∈ c.columns, ∀ v, Value.member? d.values column.name = some v →
    (row.cell column.name).holds v = false → column.kind.stores v = true

end Draft

namespace Collection

/-- No column lacks a form for null. -/
theorem stores_null {column : Column} (h : column ∈ c.columns) :
    column.kind.stores .null = true := by
  have hall : (c.columns.all fun column => column.kind.stores .null) = true := by
    cases c <;> rfl
  exact List.all_eq_true.1 hall column h

/-- A default is a value that the column stores. -/
theorem stores_default {column : Column} (h : column ∈ c.columns) {v : Value}
    (hdefault : column.default = .fixed v) : column.kind.stores v = true := by
  have hall : (c.columns.all fun column => match column.default with
      | .fixed v => column.kind.stores v
      | _ => true) = true := by
    cases c <;> rfl
  have hcolumn := List.all_eq_true.1 hall column h
  rwa [hdefault] at hcolumn

end Collection

namespace Store

/-! ## Cells -/

variable {assignments : List (Column × Assignment)}

/-- Whether every column stores what it is set to. -/
def AllBind (assignments : List (Column × Assignment)) : Prop :=
  ∀ item ∈ assignments, (item.2.bind item.1.kind).isOk = true

theorem isMistyped_of_isOk {column : Column} {a : Assignment}
    (h : (a.bind column.kind).isOk = true) : a.isMistyped column = false := by
  rw [Assignment.isMistyped]
  obtain ⟨cell, hcell⟩ := exists_eq_ok_of_isOk h
  rw [hcell]

theorem checkTypes_of_allBind (h : AllBind assignments) : checkTypes assignments = .ok () := by
  refine if_neg fun hany => ?_
  obtain ⟨item, hitem, hmistyped⟩ := List.any_eq_true.1 hany
  rw [isMistyped_of_isOk (h item hitem)] at hmistyped
  cases hmistyped

theorem bindEach_of_allBind (h : AllBind assignments) :
    ∃ cells, bindEach assignments = .ok cells := by
  induction assignments with
  | nil => exact ⟨[], rfl⟩
  | cons item rest ih =>
      obtain ⟨hitem, hrest⟩ := List.forall_mem_cons.1 h
      obtain ⟨cell, hcell⟩ := exists_eq_ok_of_isOk hitem
      obtain ⟨more, hmore⟩ := ih hrest
      refine ⟨(item.1.name, cell) :: more, ?_⟩
      rw [bindEach, hcell]
      exact bind_eq_ok.2 ⟨more, hmore, rfl⟩

/-- Values that are not stored are a fault. -/
theorem bindEach_fault (h : ¬ AllBind assignments) :
    ∃ cause, bindEach assignments = .error (.fault cause) := by
  induction assignments with
  | nil => exact absurd (List.forall_mem_nil _) h
  | cons item rest ih =>
      rw [bindEach]
      cases hitem : item.2.bind item.1.kind with
      | error cause => exact ⟨cause.fault, rfl⟩
      | ok cell =>
          obtain ⟨cause, hcause⟩ := ih fun hrest =>
            h (List.forall_mem_cons.2 ⟨by rw [hitem]; rfl, hrest⟩)
          exact ⟨cause, by rw [hcause]; rfl⟩

/-- Types are checked in front of everything else. -/
theorem checkTypes_mistyped {column : Column} {v : Value}
    (hmem : (column, Assignment.value v) ∈ assignments)
    (h : column.kind.bind v = .error .mistyped) :
    checkTypes assignments = .error (.fault .columnType) := by
  refine if_pos (List.any_eq_true.2 ⟨_, hmem, ?_⟩)
  rw [Assignment.isMistyped]
  dsimp only
  rw [Assignment.bind, h]

/-- Writing comes to a fault unless every column stores what it is set to. -/
theorem checked_fault {α : Type} (h : ¬ AllBind assignments)
    (next : List (String × Cell) → Except Failure α) :
    ∃ cause, (do checkTypes assignments; next (← bindEach assignments)) =
      .error (.fault cause) := by
  rw [checkTypes]
  split
  · exact ⟨_, rfl⟩
  · obtain ⟨cause, hcause⟩ := bindEach_fault h
    exact ⟨cause, by rw [hcause]; rfl⟩

/-! ## New rows -/

theorem find?_eq_some_of_member? {values : List (String × Value)} {name : String} {v : Value}
    (h : Value.member? values name = some v) :
    values.find? (fun m => m.1 == name) = some (name, v) := by
  obtain ⟨m, hm, rfl⟩ := Option.map_eq_some_iff.1 h
  have hname : m.1 = name := by simpa using List.find?_some hm
  rw [hm, ← hname]

theorem initial_of_member? {column : Column} {v : Value}
    (h : Value.member? d.values column.name = some v) : initial occasion d column = .value v := by
  rw [initial, find?_eq_some_of_member? h]

theorem initial_isOk {column : Column} (hcolumn : column ∈ c.columns) :
    ((initial occasion d column).bind column.kind).isOk = true ↔
      ∀ v, Value.member? d.values column.name = some v → column.kind.stores v = true := by
  cases hmember : Value.member? d.values column.name with
  | some v => simp [initial_of_member? hmember, Assignment.bind, ColumnKind.bind_isOk]
  | none =>
      refine iff_of_true ?_ nofun
      rw [Value.member?, Option.map_eq_none_iff] at hmember
      rw [initial, hmember]
      dsimp only
      split
      · rfl
      · split
        · exact (ColumnKind.bind_isOk _ _).trans (Collection.stores_null hcolumn)
        · next v hdefault =>
            exact (ColumnKind.bind_isOk _ _).trans (Collection.stores_default hcolumn hdefault)
        · rfl
        · rfl

theorem allBind_initial (occasion : Occasion) :
    AllBind (c.columns.map fun column => (column, initial occasion d column)) ↔ d.Storable c := by
  rw [AllBind, List.forall_mem_map]
  exact forall₂_congr fun column hcolumn => initial_isOk hcolumn

/-- A row that may not be added is a bad request, if its columns store what they are set to. -/
theorem addRow_fails (hs : s.present = true) (hd : d.Storable c) :
    FailsOnly Failure.IsBadRequest (s.addRow occasion c d) := by
  rw [addRow]
  dsimp only
  rw [checkTypes_of_allBind ((allBind_initial occasion).2 hd), checkTables, if_pos hs]
  obtain ⟨cells, hcells⟩ := bindEach_of_allBind ((allBind_initial occasion).2 hd)
  rw [hcells]
  exact .ite (fun _ => .of_ok _) fun _ => .of_error rfl

theorem addRow_fault (occasion : Occasion) (hs : s.present = true) (hd : ¬ d.Storable c) :
    ∃ cause, s.addRow occasion c d = .error (.fault cause) := by
  rw [addRow]
  dsimp only
  rw [checkTables, if_pos hs]
  exact checked_fault (fun h => hd ((allBind_initial occasion).1 h)) _

/-- Adding a row is answered for unless a column does not store what it is set to. -/
theorem addRow_fails_iff (hs : s.present = true) :
    FailsOnly Failure.IsClient (s.addRow occasion c d) ↔ d.Storable c := by
  refine ⟨fun h => ?_, fun hd => (addRow_fails hs hd).mono fun f hf => hf.isClient⟩
  by_contra hd
  obtain ⟨cause, hcause⟩ := addRow_fault occasion hs hd
  exact Failure.not_isClient_fault cause (h _ hcause)

/-- A row is added if its identifier is new and no constraint forbids it. -/
theorem exists_addRow_of_fits (htables : s.checkTables = .ok ()) (hd : d.Storable c)
    {cells : List (String × Cell)}
    (hcells : bindEach (c.columns.map fun column => (column, initial occasion d column)) =
      .ok cells)
    (hfresh : s.find? c occasion.freshId = none)
    (hfits : fits c (s.rows c) (setAll cells ⟨occasion.freshId, fun _ => .null⟩) = true) :
    ∃ r, s.addRow occasion c d = .ok r := by
  rw [addRow]
  dsimp only
  rw [checkTypes_of_allBind ((allBind_initial occasion).2 hd), htables, hcells]
  refine ⟨_, if_pos ?_⟩
  rw [id_setAll, hfresh, hfits]
  rfl

/-! ## Rows that are there -/

theorem mem_changes_of_member? {column : Column} (hcolumn : column ∈ c.columns) {v : Value}
    (h : Value.member? d.values column.name = some v)
    (hholds : (row.cell column.name).holds v = false) :
    (column, Assignment.value v) ∈ changes c d row := by
  refine List.mem_filterMap.2 ⟨column, hcolumn, ?_⟩
  rw [find?_eq_some_of_member? h]
  exact if_neg (by simp [hholds])

theorem allBind_changes : AllBind (changes c d row) ↔ d.StorableIn c row := by
  constructor
  · intro h column hcolumn v hv hholds
    rw [← ColumnKind.bind_isOk]
    exact h _ (mem_changes_of_member? hcolumn hv hholds)
  · intro h item hitem
    obtain ⟨column, hcolumn, hchange⟩ := List.mem_filterMap.1 hitem
    split at hchange
    · next v hv =>
        split at hchange
        · cases hchange
        · next hholds =>
            cases hchange
            have hnew : (row.cell column.name).holds v.2 = false := by simpa using hholds
            refine (ColumnKind.bind_isOk _ _).trans (h column hcolumn v.2 ?_ hnew)
            rw [Value.member?, hv, Option.map_some]
    · split at hchange
      · obtain ⟨hash, -, rfl⟩ := Option.map_eq_some_iff.1 hchange
        rfl
      · cases hchange

theorem changeRow_fails (hd : d.StorableIn c row) :
    FailsOnly Failure.IsBadRequest (s.changeRow occasion c d row) := by
  rw [changeRow]
  dsimp only
  refine .ite (fun _ => .of_ok _) fun _ => ?_
  rw [checkTypes_of_allBind (allBind_changes.2 hd)]
  obtain ⟨cells, hcells⟩ := bindEach_of_allBind (allBind_changes.2 hd)
  rw [hcells]
  exact .ite (fun _ => .of_ok _) fun _ => .of_error rfl

theorem changeRow_fault (s : Store) (occasion : Occasion) (hd : ¬ d.StorableIn c row) :
    ∃ cause, s.changeRow occasion c d row = .error (.fault cause) := by
  have hchanges : ¬ AllBind (changes c d row) := fun h => hd (allBind_changes.1 h)
  rw [changeRow]
  dsimp only
  rw [if_neg]
  · exact checked_fault hchanges _
  · intro hempty
    rw [List.isEmpty_iff.1 hempty] at hchanges
    exact hchanges (List.forall_mem_nil _)

/-- Changing a row is answered for unless a column does not store what it is changed to. -/
theorem changeRow_fails_iff :
    FailsOnly Failure.IsClient (s.changeRow occasion c d row) ↔ d.StorableIn c row := by
  refine ⟨fun h => ?_, fun hd => (changeRow_fails hd).mono fun f hf => hf.isClient⟩
  by_contra hd
  obtain ⟨cause, hcause⟩ := changeRow_fault s occasion hd
  exact Failure.not_isClient_fault cause (h _ hcause)

end Store

end CollectionQuery
