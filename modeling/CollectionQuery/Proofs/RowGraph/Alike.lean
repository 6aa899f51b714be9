import CollectionQuery.Proofs.RowGraph.Lookup
import CollectionQuery.Proofs.RowOrder

/-!
# Graphs of rows that are alike

Loading rows that are alike gives graphs that agree in everything but the cells of hidden columns,
and such graphs are shown as the same values.
-/

namespace CollectionQuery

/-- Two entries of a loaded row of a collection with one name, and with one cell if it is shown. -/
def SameShown (c : Collection) (p q : String × Cell) : Prop :=
  p.1 = q.1 ∧ (p.1 ∉ c.hiddenFields → p.2 = q.2)

/-- Two loaded rows that agree in all that is shown of them. -/
structure LoadedRow.Alike (x y : LoadedRow) : Prop where
  /-- They are of one row. -/
  key_eq : x.key = y.key
  /-- They have the same columns, with the same cells where these are shown. -/
  columns_alike : List.Forall₂ (SameShown x.key.collection) x.columns y.columns
  /-- They have the same links. -/
  relations_eq : x.relations = y.relations

variable {a : Audience} {c : Collection} {s t : Store}

/-! ## Showing -/

theorem filter_shown_eq {ps qs : List (String × Cell)} (h : List.Forall₂ (SameShown c) ps qs) :
    (ps.filter fun p => p.1 ∉ c.hiddenFields) = qs.filter fun q => q.1 ∉ c.hiddenFields := by
  induction h with
  | nil => rfl
  | @cons p q _ _ hpq _ ih =>
      obtain ⟨hname, hcell⟩ := hpq
      rw [List.filter_cons, List.filter_cons, ih, ← hname]
      split
      · next hshown => rw [Prod.ext hname (hcell (by simpa using hshown))]
      · rfl

namespace LoadedRow.Alike

variable {x y : LoadedRow}

theorem names_eq (h : x.Alike y) : x.columns.map (·.1) = y.columns.map (·.1) :=
  h.columns_alike.map_eq_map fun _ _ hpq => hpq.1

theorem shownColumns_eq (h : x.Alike y) : x.shownColumns = y.shownColumns := by
  rw [shownColumns, shownColumns, filter_shown_eq h.columns_alike, h.key_eq]

end LoadedRow.Alike

namespace RowGraph

variable {g h : RowGraph}

theorem row?_alike (halike : List.Forall₂ LoadedRow.Alike g h) (key : RowKey) :
    Option.Rel LoadedRow.Alike (g.row? key) (h.row? key) := by
  induction halike with
  | nil => exact .none
  | @cons x y _ _ hxy _ ih =>
      rw [row?, row?, List.find?_cons, List.find?_cons, ← hxy.key_eq]
      split
      · exact .some hxy
      · exact ih

/-- Graphs that are alike are shown as the same values. -/
theorem displayAt_alike (halike : List.Forall₂ LoadedRow.Alike g h) (fuel : Nat)
    (path : List RowKey) (key : RowKey) :
    g.displayAt fuel path key = h.displayAt fuel path key := by
  induction fuel generalizing path key with
  | zero => rw [displayAt, displayAt]
  | succ fuel ih =>
      have hrow := row?_alike halike key
      rw [displayAt, displayAt]
      generalize g.row? key = u at hrow ⊢
      generalize h.row? key = v at hrow ⊢
      cases hrow with
      | none => rfl
      | some hxy =>
          have hinner : g.displayAt fuel = h.displayAt fuel :=
            funext fun path => funext fun key => ih path key
          simp only [hxy.shownColumns_eq, hxy.relations_eq, hinner]

theorem display_alike (halike : List.Forall₂ LoadedRow.Alike g h) (key : RowKey) :
    g.display key = h.display key := by
  rw [display, display, halike.length_eq, displayAt_alike halike]

end RowGraph

/-! ## Loading -/

/-- Adding what was loaded at another place keeps rows alike. -/
theorem LoadedRow.Alike.add {x y x' y' : LoadedRow} (h : x.Alike y) (h' : x'.Alike y')
    (hkey : x.key = x'.key) : (x.add x').Alike (y.add y') where
  key_eq := h.key_eq
  columns_alike := by
    refine List.rel_append h.columns_alike ?_
    rw [← h.names_eq]
    exact (hkey ▸ h'.columns_alike).filter fun p q hpq => by rw [hpq.1]
  relations_eq := by
    rw [LoadedRow.add, LoadedRow.add, h.relations_eq, h'.relations_eq]

theorem LoadedRow.ofColumns_alike {x y : Row} (h : x.Alike c y) {names : List String}
    (hnames : ∀ name ∈ names, name ∈ c.columns.map (·.name)) :
    (ofColumns c names x).Alike (ofColumns c names y) where
  key_eq := congrArg (RowKey.mk c) h.id_eq
  columns_alike := by
    refine List.forall₂_map_left_iff.2 (List.forall₂_map_right_iff.2 ?_)
    exact List.forall₂_same.2 fun name hname => ⟨rfl, h.cell_eq (hnames name hname)⟩
  relations_eq := rfl

theorem LoadedRow.full_alike {x y : Row} (h : x.Alike c y) : (full c x).Alike (full c y) :=
  ofColumns_alike h fun _ hname => hname

namespace RowGraph

theorem add_alike {g h : RowGraph} (halike : List.Forall₂ LoadedRow.Alike g h) {x y : LoadedRow}
    (hxy : x.Alike y) : List.Forall₂ LoadedRow.Alike (g.add x) (h.add y) := by
  have hany : (g.any fun other => other.key = x.key) = h.any fun other => other.key = y.key :=
    halike.any_eq_any fun u v huv => by rw [huv.key_eq, hxy.key_eq]
  rw [add, add, hany]
  split
  · refine List.rel_map (fun u v huv => ?_) halike
    rw [← huv.key_eq, ← hxy.key_eq]
    split
    · next hkey => exact huv.add hxy hkey
    · exact huv
  · exact List.rel_append halike (.cons hxy .nil)

/-- The relations that the reader may follow lead from rows that are alike to rows that are alike,
in one order. -/
def TargetsAlike (a : Audience) (s t : Store) : Prop :=
  ∀ ⦃c : Collection⦄ ⦃r : Relation⦄ ⦃x y : Row⦄, r ∈ c.relations → a.sees r.target = true →
    x.Alike c y → List.Forall₂ (Row.Alike r.target) (targets s a r x) (targets t a r y)

/-- Parallel stores hand out related rows in one order. -/
theorem targetsAlike_of_parallel (h : s.Parallel t) : TargetsAlike a s t := by
  intro c r x y hr _ hxy
  rw [targets, targets, ← h.engine_eq, ← h.shownTables_eq]
  refine ((h.related hr hxy).filter fun u v huv => huv.inScope_eq a).mergeSort ?_
  intro u v u' v' huv huv'
  rw [huv.id_eq, huv'.id_eq]

/-- Both stores hand out related rows in one linear order of their identifiers. -/
structure SameOrder (a : Audience) (s t : Store) : Prop where
  precedes_eq : ∀ r, s.engine.precedes s.shownTables a r = t.engine.precedes t.shownTables a r
  total : ∀ r x y, (s.engine.precedes s.shownTables a r x y ||
    s.engine.precedes s.shownTables a r y x) = true
  trans : ∀ r x y z, s.engine.precedes s.shownTables a r x y = true →
    s.engine.precedes s.shownTables a r y z = true → s.engine.precedes s.shownTables a r x z = true
  antisymm : ∀ r x y, s.engine.precedes s.shownTables a r x y = true →
    s.engine.precedes s.shownTables a r y x = true → x = y

theorem sameOrder_byNumber (hs : s.engine.precedes = Engine.byNumber)
    (ht : t.engine.precedes = Engine.byNumber) : SameOrder a s t := by
  refine ⟨fun r => by rw [hs, ht]; rfl, ?_, ?_, ?_⟩
  · intro r x y
    simpa [hs, Engine.byNumber] using Nat.le_total x.value y.value
  · intro r x y z
    simpa [hs, Engine.byNumber] using Nat.le_trans
  · rintro r ⟨x, _⟩ ⟨y, _⟩
    simpa [hs, Engine.byNumber] using Nat.le_antisymm

theorem SameOrder.symm (h : SameOrder a s t) : SameOrder a t s where
  precedes_eq r := (h.precedes_eq r).symm
  total r := h.precedes_eq r ▸ h.total r
  trans r := h.precedes_eq r ▸ h.trans r
  antisymm r := h.precedes_eq r ▸ h.antisymm r

variable {x y : Row} {r : Relation}

/-- Related rows in a linear order of their identifiers. -/
theorem SameOrder.pairwise_targets (h : SameOrder a s t) (hs : s.WellFormed) (row : Row) :
    (targets s a r row).Pairwise fun u v =>
      s.engine.precedes s.shownTables a r u.id v.id = true ∧ u.id ≠ v.id := by
  refine List.Pairwise.and ?_ ?_
  · exact List.pairwise_mergeSort (fun u v w => h.trans r u.id v.id w.id)
      (fun u v => h.total r u.id v.id) _
  · have hnodup := (hs.ids_nodup r.target).sublist
      ((List.filter_sublist (p := a.inScope r.target)).trans (Store.related_sublist s r row)
        |>.map Row.id)
    exact List.pairwise_map.1 ((List.mergeSort_perm _ _).map Row.id |>.nodup_iff.2 hnodup)

theorem exists_target_alike (hst : s.Alike a t) (hr : r ∈ c.relations)
    (hsees : a.sees r.target = true) (hxy : x.Alike c y) {x' : Row}
    (hx' : x' ∈ targets s a r x) : ∃ y' ∈ targets t a r y, x'.Alike r.target y' := by
  obtain ⟨hx', hscope⟩ := mem_targets.1 hx'
  obtain ⟨y', hy', halike⟩ := hst.related hr hsees hxy hx' hscope
  exact ⟨y', mem_targets.2 ⟨hy', (halike.inScope_eq a).symm.trans hscope⟩, halike⟩

/-- Stores that are alike for the reader hand out related rows in one order if that is a linear
order of the identifiers. -/
theorem targetsAlike_of_sameOrder (hst : s.Alike a t) (hs : s.WellFormed) (ht : t.WellFormed)
    (h : SameOrder a s t) : TargetsAlike a s t := by
  intro c r x y hr hsees hxy
  have hys : (targets t a r y).Pairwise fun u v =>
      s.engine.precedes s.shownTables a r u.id v.id = true ∧ u.id ≠ v.id := by
    rw [h.precedes_eq]
    exact h.symm.pairwise_targets ht y
  refine List.forall₂_of_pairwise (h.pairwise_targets hs x) hys
    (fun x' => exists_target_alike hst hr hsees hxy) ?_ ?_ ?_
  · intro y' hy'
    obtain ⟨x', hx', halike⟩ := exists_target_alike hst.symm hr hsees hxy.symm hy'
    exact ⟨x', hx', halike.symm⟩
  · intro u v u' v' huv huv'
    rw [huv.id_eq, huv'.id_eq]
  · rintro u v ⟨hle, hne⟩ ⟨hge, -⟩
    exact hne (h.antisymm r _ _ hle hge)

theorem links_alike {r : Relation} {xs ys : List Row}
    (h : List.Forall₂ (Row.Alike r.target) xs ys) : links r xs = links r ys := by
  have hkeys : (xs.map fun row => (⟨r.target, row.id⟩ : RowKey)) =
      ys.map fun row => ⟨r.target, row.id⟩ :=
    h.map_eq_map fun u v huv => by rw [huv.id_eq]
  rw [links, links, hkeys]

/-- Following a path of relations from rows that are alike loads rows that are alike. -/
theorem alongPath_alike (hst : TargetsAlike a s t) {path : List Relation} {d : Collection}
    (hleads : a.Leads c path d) {xs ys : List Row} (h : List.Forall₂ (Row.Alike c) xs ys) :
    List.Forall₂ LoadedRow.Alike (alongPath s a c xs path) (alongPath t a c ys path) := by
  induction hleads generalizing xs ys with
  | here c => exact .nil
  | @step c d r rest follows _ ih =>
      obtain ⟨hr, -, hsees⟩ := Audience.relation?_eq_some follows
      have htargets : ∀ ⦃x y : Row⦄, x.Alike c y →
          List.Forall₂ (Row.Alike r.target) (targets s a r x) (targets t a r y) :=
        fun x y hxy => hst hr hsees hxy
      have hreached : List.Forall₂ (Row.Alike r.target) (xs.flatMap (targets s a r))
          (ys.flatMap (targets t a r)) := List.rel_flatMap h htargets
      rw [alongPath, alongPath]
      have hfull : List.Forall₂ LoadedRow.Alike
          ((xs.flatMap (targets s a r)).map (LoadedRow.full r.target))
          ((ys.flatMap (targets t a r)).map (LoadedRow.full r.target)) :=
        List.rel_map (fun x y hxy => LoadedRow.full_alike hxy) hreached
      refine List.rel_append (List.rel_append (List.rel_map (fun x y hxy => ?_) h) hfull)
        (ih hreached)
      exact ⟨congrArg (RowKey.mk c) hxy.id_eq, .nil, by rw [links_alike (htargets hxy)]⟩

theorem load_alike (hst : TargetsAlike a s t) {columns : List String}
    (hcolumns : ∀ name ∈ columns, name ∈ c.columns.map (·.name))
    {paths : List (List Relation)} (hpaths : ∀ path ∈ paths, ∃ d, a.Leads c path d)
    {xs ys : List Row} (h : List.Forall₂ (Row.Alike c) xs ys) :
    List.Forall₂ LoadedRow.Alike (load s a c xs columns paths) (load t a c ys columns paths) := by
  have hrows : List.Forall₂ LoadedRow.Alike (xs.map (LoadedRow.ofColumns c columns))
      (ys.map (LoadedRow.ofColumns c columns)) :=
    List.rel_map (R := Row.Alike c) (fun _ _ hxy => LoadedRow.ofColumns_alike hxy hcolumns) h
  have halong : List.Forall₂ LoadedRow.Alike (paths.flatMap (alongPath s a c xs))
      (paths.flatMap (alongPath t a c ys)) := by
    clear hrows
    induction paths with
    | nil => exact .nil
    | cons path rest ih =>
        obtain ⟨⟨d, hleads⟩, hrest⟩ := List.forall_mem_cons.1 hpaths
        rw [List.flatMap_cons, List.flatMap_cons]
        exact List.rel_append (alongPath_alike hst hleads h) (ih hrest)
  exact List.rel_foldl (P := List.Forall₂ LoadedRow.Alike) (R := LoadedRow.Alike)
    (fun _ _ hg _ _ hxy => add_alike hg hxy) .nil (List.rel_append hrows halong)

end RowGraph

end CollectionQuery
