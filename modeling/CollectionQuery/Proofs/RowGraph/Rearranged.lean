import CollectionQuery.Proofs.RowGraph.Outline

/-!
# Related rows in another order

Two stores with the same rows may hand out related rows in different orders.  Then the loaded rows
come in different orders too, but what is loaded of one row comes in the same order, since every
path is followed one relation after the other.  So what is shown differs at most in the order of
lists.
-/

namespace CollectionQuery

/-! ## Values -/

/-- Two values that differ at most in the order of lists in them. -/
inductive Value.Rearranged : Value → Value → Prop where
  | refl (v : Value) : Rearranged v v
  | perm {items items' : List Value} (h : items.Perm items') :
      Rearranged (list items) (list items')
  | item (before : List Value) {v w : Value} (after : List Value) (h : Rearranged v w) :
      Rearranged (list (before ++ v :: after)) (list (before ++ w :: after))
  | member (before : List (String × Value)) (name : String) {v w : Value}
      (after : List (String × Value)) (h : Rearranged v w) :
      Rearranged (object (before ++ (name, v) :: after)) (object (before ++ (name, w) :: after))
  | trans {u v w : Value} (h : Rearranged u v) (h' : Rearranged v w) : Rearranged u w

namespace Value.Rearranged

theorem symm {v w : Value} (h : v.Rearranged w) : w.Rearranged v := by
  induction h with
  | refl v => exact .refl v
  | perm h => exact .perm h.symm
  | item before after _ ih => exact .item before after ih
  | member before name after _ ih => exact .member before name after ih
  | trans _ _ ih ih' => exact .trans ih' ih

theorem list {items items' : List Value} (h : List.Forall₂ Value.Rearranged items items') :
    (Value.list items).Rearranged (.list items') := by
  -- The items are replaced one by one, those in front of the current one already are.
  suffices hall : ∀ before, (Value.list (before ++ items)).Rearranged (.list (before ++ items')) by
    exact hall []
  induction h with
  | nil => exact fun before => .refl _
  | @cons v w rest rest' hvw _ ih =>
      intro before
      have hrest := ih (before ++ [w])
      rw [List.append_assoc, List.append_assoc, List.singleton_append, List.singleton_append]
        at hrest
      exact .trans (.item before rest hvw) hrest

theorem object {members members' : List (String × Value)}
    (h : List.Forall₂ (fun m n => m.1 = n.1 ∧ m.2.Rearranged n.2) members members') :
    (Value.object members).Rearranged (.object members') := by
  suffices hall : ∀ before,
      (Value.object (before ++ members)).Rearranged (.object (before ++ members')) by
    exact hall []
  induction h with
  | nil => exact fun before => .refl _
  | @cons m n rest rest' hmn _ ih =>
      intro before
      obtain ⟨name, v⟩ := m
      obtain ⟨name', w⟩ := n
      obtain ⟨rfl, hvw⟩ := hmn
      have hrest := ih (before ++ [(name, w)])
      rw [List.append_assoc, List.append_assoc, List.singleton_append, List.singleton_append]
        at hrest
      exact .trans (.member before name rest hvw) hrest

end Value.Rearranged

/-! ## Loaded rows -/

/-- Two links that differ at most in the order of the rows they lead to. -/
inductive Links.Rearranged : Links → Links → Prop where
  | one (target : Option RowKey) : Rearranged (one target) (one target)
  | many {targets targets' : List RowKey} (h : targets.Perm targets') :
      Rearranged (many targets) (many targets')

theorem Links.Rearranged.refl (links : Links) : links.Rearranged links := by
  cases links with
  | one target => exact .one target
  | many targets => exact .many (.refl _)

/-- Two loaded rows that differ at most in the order of the rows that their relations lead to. -/
structure LoadedRow.Rearranged (x y : LoadedRow) : Prop where
  key_eq : x.key = y.key
  columns_eq : x.columns = y.columns
  relations_rearranged : List.Forall₂ (fun r q => r.1 = q.1 ∧ r.2.Rearranged q.2)
    x.relations y.relations

theorem LoadedRow.Rearranged.refl (x : LoadedRow) : x.Rearranged x :=
  ⟨rfl, rfl, List.forall₂_same.2 fun _ _ => ⟨rfl, .refl _⟩⟩

theorem LoadedRow.Rearranged.add {x y x' y' : LoadedRow} (h : x.Rearranged y)
    (h' : x'.Rearranged y') : (x.add x').Rearranged (y.add y') where
  key_eq := h.key_eq
  columns_eq := by rw [LoadedRow.add, LoadedRow.add, h.columns_eq, h'.columns_eq]
  relations_rearranged := by
    have hnames : x.relations.map (·.1) = y.relations.map (·.1) :=
      h.relations_rearranged.map_eq_map fun _ _ hrq => hrq.1
    refine List.rel_append h.relations_rearranged ?_
    rw [← hnames]
    exact h'.relations_rearranged.filter fun r q hrq => by rw [hrq.1]

namespace RowGraph

/-- Two lists of loaded rows in which what is loaded of each row differs at most in the order of the
rows that its relations lead to. -/
def Rearranged (g h : List LoadedRow) : Prop :=
  ∀ key : RowKey, List.Forall₂ LoadedRow.Rearranged (g.filter fun row => row.key = key)
    (h.filter fun row => row.key = key)

theorem Rearranged.append {g h g' h' : List LoadedRow} (hgh : Rearranged g h)
    (hgh' : Rearranged g' h') : Rearranged (g ++ g') (h ++ h') := by
  intro key
  rw [List.filter_append, List.filter_append]
  exact List.rel_append (hgh key) (hgh' key)

variable {g h : RowGraph} {key : RowKey}

/-- Adding what is loaded of each row in the same order gives graphs that are rearranged. -/
theorem row?_rearranged (hgh : Rearranged g h) (key : RowKey) :
    Option.Rel LoadedRow.Rearranged ((g.foldl add []).row? key) ((h.foldl add []).row? key) := by
  rw [row?_foldl_add, row?_foldl_add]
  refine List.rel_foldl (P := Option.Rel LoadedRow.Rearranged) (R := LoadedRow.Rearranged)
    (fun u v huv x y hxy => ?_) .none (hgh key)
  cases huv with
  | none => exact .some hxy
  | some huv => exact .some (huv.add hxy)

/-! ## Showing -/

variable (hrow : ∀ key, Option.Rel LoadedRow.Rearranged (g.row? key) (h.row? key))
include hrow

theorem displayAt_rearranged (fuel : Nat) (path : List RowKey) (key : RowKey) :
    (g.displayAt fuel path key).Rearranged (h.displayAt fuel path key) := by
  induction fuel generalizing path key with
  | zero =>
      rw [displayAt, displayAt]
      exact .refl _
  | succ fuel ih =>
      have hkey := hrow key
      rw [displayAt, displayAt]
      generalize g.row? key = u at hkey ⊢
      generalize h.row? key = v at hkey ⊢
      cases hkey with
      | none => exact .refl _
      | @some x y hxy =>
          refine .object (List.rel_append ?_ ?_)
          · rw [LoadedRow.shownColumns, LoadedRow.shownColumns, hxy.columns_eq, hxy.key_eq]
            exact List.forall₂_same.2 fun m _ => ⟨rfl, .refl _⟩
          · refine List.rel_filterMap (fun r q hrq => ?_) hxy.relations_rearranged
            obtain ⟨name, links⟩ := r
            obtain ⟨name', links'⟩ := q
            obtain ⟨rfl, hlinks⟩ := hrq
            cases hlinks with
            | one target =>
                rcases target with _ | target
                · exact .some ⟨rfl, .refl _⟩
                · dsimp only
                  split
                  · exact .none
                  · exact .some ⟨rfl, ih _ target⟩
            | @many targets targets' hperm =>
                refine .some ⟨rfl, .trans (.perm ((hperm.filter _).map _)) (.list ?_)⟩
                refine List.forall₂_map_left_iff.2 (List.forall₂_map_right_iff.2 ?_)
                exact List.forall₂_same.2 fun target _ => ih _ target

/-- Graphs that are rearranged are shown as values that are. -/
theorem display_rearranged (key : RowKey) : (g.display key).Rearranged (h.display key) := by
  have hdisplay := displayAt_rearranged hrow (max g.length h.length) [] key
  rwa [displayAt_eq_display (Nat.le_max_left ..), displayAt_eq_display (Nat.le_max_right ..)]
    at hdisplay

end RowGraph

/-! ## Loading -/

namespace RowGraph

variable {s t : Store} {a : Audience} {c : Collection}

theorem related_congr (hrows : s.rows = t.rows) (r : Relation) (row : Row) :
    s.related r row = t.related r row := by
  rw [Store.related, Store.related, hrows]

theorem targets_perm (hrows : s.rows = t.rows) (a : Audience) (r : Relation) (row : Row) :
    (targets s a r row).Perm (targets t a r row) := by
  rw [targets, targets, related_congr hrows]
  exact (List.mergeSort_perm _ _).trans (List.mergeSort_perm _ _).symm

theorem links_rearranged (hs : s.WellFormed) (hrows : s.rows = t.rows) (a : Audience)
    (r : Relation) (row : Row) :
    (links r (targets s a r row)).Rearranged (links r (targets t a r row)) := by
  have hperm := targets_perm hrows a r row
  rw [links, links]
  cases hmany : r.many with
  | true => exact .many (hperm.map _)
  | false =>
      -- A relation to one row leads to at most one, so there is nothing to rearrange.
      have hsame : targets s a r row = targets t a r row :=
        hperm.eq_of_subsingleton fun u hu v hv =>
          hs.related_unique hmany (mem_targets.1 hu).1 (mem_targets.1 hv).1
      rw [hsame]
      exact .one _

/-- Rows that are told apart by their identifiers load in any order what is loaded of each. -/
theorem rearranged_map {xs ys : List Row} (hperm : xs.Perm ys)
    (hids : ∀ x ∈ xs, ∀ y ∈ xs, x.id = y.id → x = y) {f f' : Row → LoadedRow}
    (hkey : ∀ row, (f row).key = ⟨c, row.id⟩) (hf : ∀ row, (f row).Rearranged (f' row)) :
    Rearranged (xs.map f) (ys.map f') := by
  intro key
  have hselect : (fun row : LoadedRow => decide (row.key = key)) ∘ f' =
      (fun row : LoadedRow => decide (row.key = key)) ∘ f :=
    funext fun row => by simp [(hf row).key_eq]
  rw [List.filter_map, List.filter_map, hselect]
  have hsame : xs.filter ((fun row : LoadedRow => decide (row.key = key)) ∘ f) =
      ys.filter ((fun row : LoadedRow => decide (row.key = key)) ∘ f) := by
    refine (hperm.filter _).eq_of_subsingleton fun x hx y hy => ?_
    obtain ⟨hx, hxkey⟩ := List.mem_filter.1 hx
    obtain ⟨hy, hykey⟩ := List.mem_filter.1 hy
    rw [Function.comp_apply, decide_eq_true_iff, hkey] at hxkey hykey
    exact hids x hx y hy (congrArg RowKey.id (hxkey.trans hykey.symm))
  rw [hsame]
  exact List.forall₂_map_left_iff.2 (List.forall₂_map_right_iff.2
    (List.forall₂_same.2 fun row _ => hf row))

/-- Following a path from the same rows loads the same of each row, up to the order of the rows that
relations lead to. -/
theorem alongPath_rearranged (hs : s.WellFormed) (hrows : s.rows = t.rows)
    (path : List Relation) {xs ys : List Row} (hperm : xs.Perm ys)
    (hxs : ∀ x ∈ xs, x ∈ s.rows c) :
    Rearranged (alongPath s a c xs path) (alongPath t a c ys path) := by
  have hids {d : Collection} {us : List Row} (hus : ∀ u ∈ us, u ∈ s.rows d) :
      ∀ u ∈ us, ∀ v ∈ us, u.id = v.id → u = v :=
    fun u hu v hv heq => hs.eq_of_id_eq (hus u hu) (hus v hv) heq
  induction path generalizing c xs ys with
  | nil => exact fun _ => .nil
  | cons r rest ih =>
      have hreached : (xs.flatMap (targets s a r)).Perm (ys.flatMap (targets t a r)) :=
        hperm.flatMap fun x _ => targets_perm hrows a r x
      have hmem : ∀ x ∈ xs.flatMap (targets s a r), x ∈ s.rows r.target := by
        intro x hx
        obtain ⟨row, -, hx⟩ := List.mem_flatMap.1 hx
        exact mem_of_mem_targets hx
      rw [alongPath, alongPath]
      refine .append (.append ?_ ?_) (ih hreached hmem)
      · refine rearranged_map hperm (hids hxs) (fun _ => rfl) fun row => ?_
        exact ⟨rfl, rfl, .cons ⟨rfl, links_rearranged hs hrows a r row⟩ .nil⟩
      · exact rearranged_map hreached (hids hmem) (fun _ => rfl) fun _ => .refl _

/-- Stores with the same rows load the same, up to the order of the rows that relations lead to. -/
theorem display_load_rearranged (hs : s.WellFormed) (hrows : s.rows = t.rows) {rows : List Row}
    (hmem : ∀ row ∈ rows, row ∈ s.rows c) (columns : List String)
    (paths : List (List Relation)) (key : RowKey) :
    ((load s a c rows columns paths).display key).Rearranged
      ((load t a c rows columns paths).display key) := by
  refine display_rearranged (row?_rearranged (.append ?_ ?_)) key
  · exact fun _ => List.forall₂_same.2 fun x _ => .refl x
  · induction paths with
    | nil => exact fun _ => .nil
    | cons path rest ih =>
        rw [List.flatMap_cons, List.flatMap_cons]
        exact .append (alongPath_rearranged hs hrows path (.refl rows) hmem) ih

end RowGraph

end CollectionQuery
