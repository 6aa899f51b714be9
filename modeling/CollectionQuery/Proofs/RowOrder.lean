import CollectionQuery.Proofs.Cell.Order
import CollectionQuery.Proofs.Lists
import CollectionQuery.Proofs.Outcome
import CollectionQuery.Proofs.Store.Alike
import CollectionQuery.RowOrder

/-!
# Sorted rows

Rows are compared column by column and at last by their identifiers, so rows with different
identifiers never have the same place.  Sorting such rows gives a list in which every row stands
strictly before all that follow.
-/

namespace CollectionQuery

open Std

variable {s : Store} {a : Audience}

/-! ## The comparison of rows -/

instance (k : SortColumn) : TransCmp (k.compare s a) := by
  let ascending (x y : Row) : Ordering := (k.cell s a x).compare (k.cell s a y)
  have hup : TransCmp ascending := {
    eq_swap := Cell.compare_swap _ _
    isLE_trans := Cell.compare_isLE_trans }
  cases h : k.direction with
  | ascending =>
      have heq : k.compare s a = fun x y => (k.cell s a x).compare (k.cell s a y) := by
        funext x y
        simp [SortColumn.compare, h]
      exact heq ▸ hup
  | descending =>
      have heq : k.compare s a = fun x y => (k.cell s a y).compare (k.cell s a x) := by
        funext x y
        simp only [SortColumn.compare, h]
        exact (Cell.compare_swap _ _).symm
      exact heq ▸ @TransCmp.opposite _ ascending hup

instance (order : List SortColumn) : TransCmp (compareRows s a order) := by
  induction order with
  | nil => exact inferInstanceAs (TransCmp (compareOn fun row : Row => row.id.value))
  | cons k rest ih =>
      exact inferInstanceAs (TransCmp (compareLex (k.compare s a) (compareRows s a rest)))

theorem compareRows_swap (order : List SortColumn) (x y : Row) :
    compareRows s a order x y = (compareRows s a order y x).swap :=
  OrientedCmp.eq_swap

/-- Only rows with one identifier have the same place. -/
theorem id_eq_of_compareRows {order : List SortColumn} {x y : Row}
    (h : compareRows s a order x y = .eq) : x.id = y.id := by
  induction order with
  | nil =>
      have hvalue : x.id.value = y.id.value := LawfulEqOrd.eq_of_compare h
      obtain ⟨⟨v, hv⟩, _⟩ := x
      obtain ⟨⟨w, hw⟩, _⟩ := y
      cases hvalue
      rfl
  | cons k rest ih => exact ih (Ordering.then_eq_eq.1 h).2

theorem compareRows_ne_gt {order : List SortColumn} {x y : Row} :
    (compareRows s a order x y != .gt) = (compareRows s a order x y).isLE := by
  cases compareRows s a order x y <;> rfl

/-! ## Sorting -/

theorem sortRows_perm (order : List SortColumn) (rows : List Row) :
    (sortRows s a order rows).Perm rows :=
  List.mergeSort_perm _ _

theorem mem_sortRows {order : List SortColumn} {rows : List Row} {row : Row} :
    row ∈ sortRows s a order rows ↔ row ∈ rows :=
  (sortRows_perm order rows).mem_iff

/-- Rows with different identifiers are strictly sorted. -/
theorem sortRows_pairwise (order : List SortColumn) {rows : List Row}
    (h : (rows.map Row.id).Nodup) :
    (sortRows s a order rows).Pairwise fun x y => compareRows s a order x y = .lt := by
  have hle : (sortRows s a order rows).Pairwise fun x y => (compareRows s a order x y).isLE := by
    have hsorted := @List.pairwise_mergeSort _ (fun x y => compareRows s a order x y != .gt)
      (fun x y z hxy hyz => by
        rw [compareRows_ne_gt] at *
        exact TransCmp.isLE_trans hxy hyz)
      (fun x y => by
        rw [compareRows_ne_gt, compareRows_ne_gt, compareRows_swap order y x]
        cases compareRows s a order x y <;> rfl)
      rows
    exact hsorted.imp fun h => by rwa [compareRows_ne_gt] at h
  have hids : (sortRows s a order rows).Pairwise fun x y => x.id ≠ y.id := by
    have hnodup := ((sortRows_perm (s := s) (a := a) order rows).map Row.id).nodup_iff.2 h
    exact List.pairwise_map.1 hnodup
  refine (hle.and hids).imp fun {x y} ⟨hxy, hne⟩ => ?_
  cases hcmp : compareRows s a order x y with
  | lt => rfl
  | eq => exact absurd (id_eq_of_compareRows hcmp) hne
  | gt => simp [hcmp] at hxy

end CollectionQuery

/-!
## The order of rows that are alike

A sort key becomes a visible column behind relations to one row that the reader may follow.  Rows
that are alike have the same cell there, so sorting keeps rows alike in the same places.
-/

namespace CollectionQuery

variable {a : Audience} {c : Collection} {s t : Store}

/-! ### Columns to sort by -/

/-- A visible column behind relations to one row that the reader may follow. -/
def SortColumn.Known (a : Audience) (c : Collection) (k : SortColumn) : Prop :=
  ∃ d, a.Leads c k.relations d ∧ (∀ r ∈ k.relations, r.many = false) ∧
    (d.visibleColumn? k.column).isSome = true

namespace SortColumn

/-- A sort key becomes the column that it names, behind the relations that it names. -/
theorem ofKeyAt_eq_ok {key : SortKey} {passed : List Relation} {names : List String}
    {k : SortColumn} (h : ofKeyAt a key passed c names = .ok k) :
    ∃ rest d, k = ⟨passed ++ rest, key.field, key.direction⟩ ∧ rest.map Relation.name = names ∧
      a.Leads c rest d ∧ (∀ r ∈ rest, r.many = false) ∧
      (d.visibleColumn? key.field).isSome = true := by
  induction names generalizing c passed with
  | nil =>
      rw [ofKeyAt] at h
      cases hcolumn : c.visibleColumn? key.field with
      | none => simp [hcolumn] at h
      | some column =>
          rw [hcolumn] at h
          obtain ⟨-, hname, -⟩ := Collection.visibleColumn?_eq_some hcolumn
          refine ⟨[], c, ?_, rfl, .here c, by simp, by simp [hcolumn]⟩
          rw [List.append_nil, ← hname]
          exact (Except.ok.inj h).symm
  | cons name names ih =>
      rw [ofKeyAt] at h
      cases hrelation : a.relation? c name with
      | none => simp [hrelation] at h
      | some r =>
          simp only [hrelation] at h
          split at h
          · cases h
          · next hmany =>
              obtain ⟨rest, d, rfl, hnames, hleads, hone, hvisible⟩ := ih h
              obtain ⟨-, rfl, -⟩ := Audience.relation?_eq_some hrelation
              refine ⟨r :: rest, d, by simp, by simp [hnames], .step hrelation hleads, ?_, hvisible⟩
              exact List.forall_mem_cons.2 ⟨by simpa using hmany, hone⟩

theorem known_ofKey {key : SortKey} {k : SortColumn} (h : ofKey a c key = .ok k) :
    k.Known a c := by
  obtain ⟨rest, d, rfl, -, hleads, hone, hvisible⟩ := ofKeyAt_eq_ok h
  exact ⟨d, by simpa using hleads, by simpa using hone, hvisible⟩

/-! ### Cells to sort by -/

variable {x y : Row}

/-- A relation to one row leads from rows that are alike to rows that are alike, or to none. -/
theorem hop_alike (hst : s.Alike a t) (ht : t.WellFormed) {r : Relation} (hr : r ∈ c.relations)
    (hsees : a.sees r.target = true) (hone : r.many = false) (hxy : x.Alike c y) :
    Option.Rel (Row.Alike r.target) ((s.related r x).find? (a.inScope r.target))
      ((t.related r y).find? (a.inScope r.target)) := by
  cases hx : (s.related r x).find? (a.inScope r.target) with
  | none =>
      cases hy : (t.related r y).find? (a.inScope r.target) with
      | none => exact .none
      | some y' =>
          obtain ⟨x', hx', halike⟩ := hst.symm.related hr hsees hxy.symm
            (List.mem_of_find?_eq_some hy) (List.find?_some hy)
          have hscope := (halike.inScope_eq a).symm.trans (List.find?_some hy)
          exact absurd hscope (List.find?_eq_none.1 hx x' hx')
  | some x' =>
      obtain ⟨y', hy', halike⟩ := hst.related hr hsees hxy (List.mem_of_find?_eq_some hx)
        (List.find?_some hx)
      have hscope := (halike.inScope_eq a).symm.trans (List.find?_some hx)
      cases hy : (t.related r y).find? (a.inScope r.target) with
      | none => exact absurd hscope (List.find?_eq_none.1 hy y' hy')
      | some y'' =>
          rw [ht.related_unique hone (List.mem_of_find?_eq_some hy) hy']
          exact .some halike

theorem follow_alike (hst : s.Alike a t) (ht : t.WellFormed) {path : List Relation}
    {d : Collection} (hleads : a.Leads c path d) (hone : ∀ r ∈ path, r.many = false)
    (hxy : x.Alike c y) :
    Option.Rel (Row.Alike d) (follow s a path x) (follow t a path y) := by
  induction hleads generalizing x y with
  | here c => exact .some hxy
  | @step c d r rest follows _ ih =>
      obtain ⟨hr, -, hsees⟩ := Audience.relation?_eq_some follows
      obtain ⟨hfirst, hrest⟩ := List.forall_mem_cons.1 hone
      have hhop := hop_alike hst ht hr hsees hfirst hxy
      rw [follow, follow]
      generalize (s.related r x).find? (a.inScope r.target) = u at hhop ⊢
      generalize (t.related r y).find? (a.inScope r.target) = v at hhop ⊢
      cases hhop with
      | none => exact .none
      | some halike => exact ih hrest halike

theorem Known.cell_eq {k : SortColumn} (hk : k.Known a c) (hst : s.Alike a t) (ht : t.WellFormed)
    (hxy : x.Alike c y) : k.cell s a x = k.cell t a y := by
  obtain ⟨d, hleads, hone, hvisible⟩ := hk
  have hfollow := follow_alike hst ht hleads hone hxy
  rw [cell, cell]
  generalize follow s a k.relations x = u at hfollow ⊢
  generalize follow t a k.relations y = v at hfollow ⊢
  cases hfollow with
  | none => rfl
  | some halike => exact halike.visibleColumn?_eq hvisible

end SortColumn

/-! ### Sorting -/

theorem compareRows_alike (hst : s.Alike a t) (ht : t.WellFormed) {order : List SortColumn}
    (known : ∀ k ∈ order, k.Known a c) {x y x' y' : Row} (hxy : x.Alike c y)
    (hxy' : x'.Alike c y') : compareRows s a order x x' = compareRows t a order y y' := by
  induction order with
  | nil => rw [compareRows, compareRows, hxy.id_eq, hxy'.id_eq]
  | cons k rest ih =>
      obtain ⟨hk, hrest⟩ := List.forall_mem_cons.1 known
      rw [compareRows, compareRows, ih hrest, SortColumn.compare, SortColumn.compare,
        hk.cell_eq hst ht hxy, hk.cell_eq hst ht hxy']

/-- Sorting puts rows that are alike in the same places. -/
theorem sortRows_alike (hst : s.Alike a t) (ht : t.WellFormed) {order : List SortColumn}
    (known : ∀ k ∈ order, k.Known a c) {xs ys : List Row} (hxs : (xs.map Row.id).Nodup)
    (hys : (ys.map Row.id).Nodup) (forth : ∀ x ∈ xs, ∃ y ∈ ys, x.Alike c y)
    (back : ∀ y ∈ ys, ∃ x ∈ xs, x.Alike c y) :
    List.Forall₂ (Row.Alike c) (sortRows s a order xs) (sortRows t a order ys) := by
  refine List.forall₂_of_pairwise (sortRows_pairwise order hxs) (sortRows_pairwise order hys)
    ?_ ?_ ?_ ?_
  · intro x hx
    obtain ⟨y, hy, hxy⟩ := forth x (mem_sortRows.1 hx)
    exact ⟨y, mem_sortRows.2 hy, hxy⟩
  · intro y hy
    obtain ⟨x, hx, hxy⟩ := back y (mem_sortRows.1 hy)
    exact ⟨x, mem_sortRows.2 hx, hxy⟩
  · intro x y x' y' hxy hxy'
    rw [compareRows_alike hst ht known hxy hxy']
  · intro x x' hlt hgt
    rw [compareRows_swap, hgt] at hlt
    cases hlt

end CollectionQuery

/-! ## The order that sort keys ask for

A sort key asks for the cell of a field, behind relations that lead to one row each; it is null
where there is no such row in scope, and null comes before everything else.  One row precedes
another if it does so by the first key in which they differ, in the direction of the key, or by its
identifier if they differ in none.
-/

namespace CollectionQuery

variable {s : Store} {a : Audience} {c : Collection}

/-- The cell that a sort key asks for, for the relations that are left on the way from a row. -/
def SortKey.cellAt (s : Store) (a : Audience) (key : SortKey) :
    Collection → List String → Row → Cell
  | _, [], row => row.cell key.field
  | c, name :: rest, row =>
    match a.relation? c name with
    | some r =>
      match (s.related r row).find? (a.inScope r.target) with
      | some other => cellAt s a key r.target rest other
      | none => .null
    | none => .null

/-- The cell that a sort key asks for. -/
def SortKey.cell (s : Store) (a : Audience) (c : Collection) (key : SortKey) (row : Row) : Cell :=
  key.cellAt s a c key.relations row

/-- Whether one row stands in front of another by several sort keys, and then by identifier. -/
def Precedes (s : Store) (a : Audience) (c : Collection) : List SortKey → Row → Row → Prop
  | [], x, y => x.id.value < y.id.value
  | key :: rest, x, y =>
    match (key.cell s a c x).compare (key.cell s a c y), key.direction with
    | .lt, direction => direction = .ascending
    | .gt, direction => direction = .descending
    | .eq, _ => Precedes s a c rest x y

/-! ### Sort keys and columns -/

/-- The cell that rows are sorted by is the one that the sort key asks for. -/
theorem SortColumn.cell_ofKey {key : SortKey} {k : SortColumn} (h : ofKey a c key = .ok k)
    (row : Row) : k.cell s a row = key.cell s a c row := by
  obtain ⟨rest, d, rfl, hnames, hleads, -, -⟩ := ofKeyAt_eq_ok h
  rw [SortColumn.cell, SortKey.cell, ← hnames, List.nil_append]
  clear h hnames
  induction hleads generalizing row with
  | here c => rw [follow, List.map_nil, SortKey.cellAt]
  | @step c d r rest follows _ ih =>
      rw [follow, List.map_cons, SortKey.cellAt, follows]
      cases hfind : (s.related r row).find? (a.inScope r.target) with
      | none => simp [hfind]
      | some other => simpa [hfind] using ih other

theorem SortColumn.direction_ofKey {key : SortKey} {k : SortColumn} (h : ofKey a c key = .ok k) :
    k.direction = key.direction := by
  obtain ⟨rest, d, rfl, -⟩ := ofKeyAt_eq_ok h
  rfl

/-- The comparison of rows by columns is the order that the sort keys ask for. -/
theorem compareRows_eq_lt {keys : List SortKey} {order : List SortColumn}
    (h : keys.mapM (SortColumn.ofKey a c) = .ok order) {x y : Row} :
    compareRows s a order x y = .lt ↔ Precedes s a c keys x y := by
  have horder := mapM_eq_ok.1 h
  clear h
  induction horder with
  | nil =>
      rw [compareRows, Precedes]
      exact Nat.compare_eq_lt
  | @cons key k keys order hkey _ ih =>
      rw [compareRows, Precedes, SortColumn.compare, SortColumn.cell_ofKey hkey,
        SortColumn.cell_ofKey hkey, SortColumn.direction_ofKey hkey, Ordering.then_eq_lt]
      cases (key.cell s a c x).compare (key.cell s a c y) <;> cases key.direction <;> simp [ih]

end CollectionQuery
