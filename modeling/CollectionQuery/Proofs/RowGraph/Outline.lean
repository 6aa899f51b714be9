import CollectionQuery.Proofs.RowGraph.Keys
import CollectionQuery.Proofs.Uuid
import Mathlib.Data.List.Forall2
import Mathlib.Data.List.Perm.Subperm

/-!
# Rows inside each other

What is shown does not say which objects stand for which rows.  The outline of a row says so: it is
built along the same relations and has the keys of the rows, and without the keys it is what is
shown.

From an object of an outline out to the outermost one no row stands twice.  So the rows inside each
other are at most as many as there are loaded rows, and the bound on their number cuts nothing off:
every object has the loaded columns of its row that are not hidden, and its loaded relations with
every row they lead to, except for the rows that the object stands inside of.
-/

namespace CollectionQuery

/-! ## Outlines -/

/-- What is shown, with the keys of the rows. -/
inductive Outline where
  /-- No row. -/
  | none
  | row (key : RowKey) (columns : List (String × Value)) (relations : List (String × Outline))
  | rows (items : List Outline)

namespace Outline

/-- The row that an object stands for. -/
def key? : Outline → Option RowKey
  | row key _ _ => some key
  | _ => Option.none

mutual

/-- What is shown. -/
def value : Outline → Value
  | none => .null
  | row _ columns relations => .object (columns ++ memberValues relations)
  | rows items => .list (itemValues items)

/-- What is shown of the rows of a relation. -/
def itemValues : List Outline → List Value
  | [] => []
  | o :: rest => o.value :: itemValues rest

/-- What is shown of relations. -/
def memberValues : List (String × Outline) → List (String × Value)
  | [] => []
  | (name, o) :: rest => (name, o.value) :: memberValues rest

end

theorem itemValues_eq_map (items : List Outline) : itemValues items = items.map value := by
  induction items with
  | nil => rfl
  | cons o rest ih => rw [itemValues, ih, List.map_cons]

theorem memberValues_eq_map (relations : List (String × Outline)) :
    memberValues relations = relations.map fun r => (r.1, r.2.value) := by
  induction relations with
  | nil => rfl
  | cons r rest ih => rw [memberValues, ih, List.map_cons]

/-- The objects that a relation is shown with. -/
def objects : Outline → List Outline
  | none => []
  | row key columns relations => [row key columns relations]
  | rows items => items

theorem objects_of_key? {o : Outline} {key : RowKey} (h : o.key? = some key) :
    o.objects = [o] := by
  cases o with
  | row key columns relations => rfl
  | none => cases h
  | rows items => cases h

/-- An object stands in an outline, inside the rows of a chain that starts with its own row and ends
with the outermost one. -/
inductive Holds (outermost : Outline) : (chain : List RowKey) → Outline → Prop where
  | here {key : RowKey} (stands : outermost.key? = some key) : Holds outermost [key] outermost
  /-- It is an object of a relation of an object that stands in the outline. -/
  | inside {chain : List RowKey} {key inner : RowKey} {columns : List (String × Value)}
      {relations : List (String × Outline)} {name : String} {links o : Outline}
      (outer : Holds outermost chain (row key columns relations))
      (member : (name, links) ∈ relations) (object : o ∈ links.objects)
      (stands : o.key? = some inner) : Holds outermost (inner :: chain) o

end Outline

/-! ## Relations inside a chain -/

namespace Links

/-- The rows that a relation leads to. -/
def targets : Links → List RowKey
  | one target => target.toList
  | many targets => targets

/-- Whether a relation leads to one row only, and that stands in the chain. -/
def closes (chain : List RowKey) : Links → Bool
  | one (some target) => decide (target ∈ chain)
  | _ => false

/-- A relation inside a chain is shown with the rows it leads to that do not stand in the chain, in
their order. -/
inductive Rendered (chain : List RowKey) : Links → Outline → Prop where
  | none : Rendered chain (one Option.none) .none
  | one {target : RowKey} {o : Outline} (away : target ∉ chain) (stands : o.key? = some target) :
      Rendered chain (one (some target)) o
  | many {targets : List RowKey} {items : List Outline}
      (stand : items.map Outline.key? = (targets.filter fun t => t ∉ chain).map some) :
      Rendered chain (many targets) (.rows items)

/-- The outline of a relation, given the outlines of the rows. -/
def outline (chain : List RowKey) (outlineOf : RowKey → Outline) : Links → Outline
  | one Option.none => .none
  | one (some target) => outlineOf target
  | many targets => .rows ((targets.filter fun t => t ∉ chain).map outlineOf)

end Links

namespace RowGraph

/-- An object inside a chain shows the row it stands for: its loaded columns that are not hidden,
and its loaded relations but for those that only lead back into the chain. -/
def Renders (g : RowGraph) (chain : List RowKey) (o : Outline) : Prop :=
  ∃ row relations, chain.head? = some row.key ∧ g.row? row.key = some row ∧
    o = .row row.key row.shownColumns relations ∧
    List.Forall₂ (fun r member => member.1 = r.1 ∧ r.2.Rendered chain member.2)
      (row.relations.filter fun r => !r.2.closes chain) relations

/-- Every relation that is loaded leads to loaded rows. -/
def Linked (g : RowGraph) : Prop :=
  ∀ row ∈ g, ∀ r ∈ row.relations, ∀ target ∈ r.2.targets, (g.row? target).isSome

/-! ## Building outlines -/

/-- The outline of a row inside the rows of a path. -/
def outlineAt (g : RowGraph) : (fuel : Nat) → (path : List RowKey) → RowKey → Outline
  | 0, _, _ => .none
  | fuel + 1, path, key =>
    match g.row? key with
    | none => .none
    | some row =>
      .row key row.shownColumns
        ((row.relations.filter fun r => !r.2.closes (key :: path)).map fun r =>
          (r.1, r.2.outline (key :: path) (outlineAt g fuel (key :: path))))

/-- The outline of a row. -/
def outline (g : RowGraph) (key : RowKey) : Outline := g.outlineAt g.length [] key

variable {g : RowGraph} {fuel : Nat} {path chain : List RowKey} {key target : RowKey}

theorem value_outlineAt (g : RowGraph) (fuel : Nat) (path : List RowKey) (key : RowKey) :
    (g.outlineAt fuel path key).value = g.displayAt fuel path key := by
  induction fuel generalizing path key with
  | zero => rfl
  | succ fuel ih =>
      rw [outlineAt, displayAt]
      cases g.row? key with
      | none => rfl
      | some row =>
          show Value.object _ = Value.object _
          rw [Outline.memberValues_eq_map, List.map_map, ← List.filterMap_eq_map,
            List.filterMap_filter]
          congr 2
          refine List.filterMap_congr fun r _ => ?_
          obtain ⟨name, links⟩ := r
          rcases links with (_ | target) | targets
          · rfl
          · by_cases htarget : target ∈ key :: path
            · simp [Links.closes, htarget]
            · simp [Links.closes, Links.outline, htarget, ih]
          · simp [Links.closes, Links.outline, Outline.value, Outline.itemValues_eq_map, ih]

/-- An outline shows what is shown of its row. -/
theorem value_outline (g : RowGraph) (key : RowKey) : (g.outline key).value = g.display key :=
  value_outlineAt g g.length [] key

/-! ## The bound -/

/-- Different loaded rows are at most as many as there are loaded rows. -/
theorem length_le_of_nodup (hnodup : chain.Nodup) (hrows : ∀ k ∈ chain, (g.row? k).isSome) :
    chain.length ≤ g.length := by
  have hsub : chain ⊆ g.map (·.key) := by
    intro k hk
    obtain ⟨row, hrow⟩ := Option.isSome_iff_exists.1 (hrows k hk)
    exact List.mem_map.2 ⟨row, List.mem_of_find?_eq_some hrow, row?_key hrow⟩
  simpa using (hnodup.subperm hsub).length_le

/-- A path of different loaded rows that leaves room for all others. -/
structure Room (g : RowGraph) (fuel : Nat) (path : List RowKey) : Prop where
  nodup : path.Nodup
  loaded : ∀ k ∈ path, (g.row? k).isSome
  enough : g.length ≤ fuel + path.length

theorem room_nil (h : g.length ≤ fuel) : g.Room fuel [] := ⟨.nil, nofun, h⟩

/-- A row that does not stand in the path takes part of the room. -/
theorem Room.cons (h : g.Room (fuel + 1) path) (hkey : (g.row? key).isSome) (haway : key ∉ path) :
    g.Room fuel (key :: path) where
  nodup := List.nodup_cons.2 ⟨haway, h.nodup⟩
  loaded := List.forall_mem_cons.2 ⟨hkey, h.loaded⟩
  enough := by
    have henough := h.enough
    rw [List.length_cons]
    omega

/-- Where there is room, a row is not cut off. -/
theorem Room.fuel_pos (h : g.Room fuel path) (hkey : (g.row? key).isSome) (haway : key ∉ path) :
    0 < fuel := by
  have hlength := length_le_of_nodup (List.nodup_cons.2 ⟨haway, h.nodup⟩)
    (List.forall_mem_cons.2 ⟨hkey, h.loaded⟩)
  have henough := h.enough
  rw [List.length_cons] at hlength
  omega

/-- More room than there is need of changes nothing. -/
theorem displayAt_succ (h : g.Room fuel path) (haway : key ∉ path) :
    g.displayAt (fuel + 1) path key = g.displayAt fuel path key := by
  induction fuel generalizing path key with
  | zero =>
      cases hrow : g.row? key with
      | none => rw [displayAt, displayAt, hrow]
      | some row => exact absurd (h.fuel_pos (by rw [hrow]; rfl) haway) (Nat.lt_irrefl 0)
  | succ fuel ih =>
      rw [displayAt, displayAt]
      cases hrow : g.row? key with
      | none => rfl
      | some row =>
          have hroom : g.Room fuel (key :: path) := h.cons (by rw [hrow]; rfl) haway
          dsimp only
          congr 2
          refine List.filterMap_congr fun r _ => ?_
          obtain ⟨name, links⟩ := r
          rcases links with (_ | target) | targets
          · rfl
          · by_cases htarget : target ∈ key :: path
            · simp [htarget]
            · simp only [if_neg htarget, ih hroom htarget]
          · dsimp only
            congr 3
            refine List.map_congr_left fun target htarget => ih hroom ?_
            exact of_decide_eq_true (List.mem_filter.1 htarget).2

/-- The number of loaded rows is bound enough. -/
theorem displayAt_eq_display (h : g.length ≤ fuel) (key : RowKey) :
    g.displayAt fuel [] key = g.display key := by
  induction fuel, h using Nat.le_induction with
  | base => rfl
  | succ fuel hle ih => rw [displayAt_succ (room_nil hle) List.not_mem_nil, ih]

/-! ## Chains -/

/-- Where there is room the outline of a loaded row stands for it. -/
theorem key?_outlineAt (h : g.Room fuel path) (hkey : (g.row? key).isSome) (haway : key ∉ path) :
    (g.outlineAt fuel path key).key? = some key := by
  obtain ⟨fuel, rfl⟩ := Nat.exists_eq_add_one_of_ne_zero (h.fuel_pos hkey haway).ne'
  obtain ⟨row, hrow⟩ := Option.isSome_iff_exists.1 hkey
  rw [outlineAt, hrow]
  rfl

/-- Where there is room the outline of a loaded row shows it. -/
theorem renders_outlineAt (hlinked : g.Linked) (h : g.Room (fuel + 1) path)
    (hkey : (g.row? key).isSome) (haway : key ∉ path) :
    g.Renders (key :: path) (g.outlineAt (fuel + 1) path key) := by
  obtain ⟨row, hrow⟩ := Option.isSome_iff_exists.1 hkey
  obtain rfl := row?_key hrow
  have hroom : g.Room fuel (row.key :: path) := h.cons hkey haway
  refine ⟨row, _, rfl, hrow, by rw [outlineAt, hrow], ?_⟩
  rw [List.forall₂_map_right_iff, List.forall₂_same]
  rintro ⟨name, links⟩ hr
  obtain ⟨hr, hopen⟩ := List.mem_filter.1 hr
  have hloaded := hlinked row (List.mem_of_find?_eq_some hrow) _ hr
  refine ⟨rfl, ?_⟩
  match links with
  | .one none => exact .none
  | .one (some target) =>
      have htarget : target ∉ row.key :: path := by simpa [Links.closes] using hopen
      exact .one htarget
        (key?_outlineAt hroom (hloaded target (List.mem_singleton_self target)) htarget)
  | .many targets =>
      refine .many ?_
      rw [List.map_map]
      refine List.map_congr_left fun target htarget => ?_
      obtain ⟨hmem, haway⟩ := List.mem_filter.1 htarget
      exact key?_outlineAt hroom (hloaded target hmem) (of_decide_eq_true haway)

/-- An object of a relation is the outline of a loaded row that does not stand in the chain. -/
theorem exists_of_mem_objects (hlinked : g.Linked) (hroom : g.Room fuel chain) {row : LoadedRow}
    (hrow : row ∈ g) {r : String × Links} (hr : r ∈ row.relations)
    (hopen : r.2.closes chain = false) {o : Outline}
    (ho : o ∈ (r.2.outline chain (g.outlineAt fuel chain)).objects) :
    ∃ target, target ∉ chain ∧ (g.row? target).isSome ∧ o = g.outlineAt fuel chain target := by
  have hloaded := hlinked row hrow r hr
  obtain ⟨name, links⟩ := r
  match links with
  | .one none => cases ho
  | .one (some target) =>
      have haway : target ∉ chain := by simpa [Links.closes] using hopen
      have htarget := hloaded target (List.mem_singleton_self target)
      rw [Links.outline, Outline.objects_of_key? (key?_outlineAt hroom htarget haway)] at ho
      exact ⟨target, haway, htarget, List.mem_singleton.1 ho⟩
  | .many targets =>
      obtain ⟨target, htarget, rfl⟩ := List.mem_map.1 ho
      obtain ⟨hmem, haway⟩ := List.mem_filter.1 htarget
      exact ⟨target, of_decide_eq_true haway, hloaded target hmem, rfl⟩

/-- Every object of an outline is the outline of a loaded row in a chain with room for it. -/
theorem exists_of_holds (hlinked : g.Linked) (hkey : (g.row? key).isSome) {o : Outline}
    (h : (g.outline key).Holds chain o) :
    ∃ fuel path inner, chain = inner :: path ∧ o = g.outlineAt (fuel + 1) path inner ∧
      g.Room (fuel + 1) path ∧ (g.row? inner).isSome ∧ inner ∉ path := by
  have hroom : g.Room g.length [] := room_nil (Nat.le_refl _)
  induction h with
  | here stands =>
      have hpos := hroom.fuel_pos hkey List.not_mem_nil
      rw [outline, key?_outlineAt hroom hkey List.not_mem_nil] at stands
      cases stands
      obtain ⟨fuel, hfuel⟩ := Nat.exists_eq_add_one_of_ne_zero hpos.ne'
      exact ⟨fuel, [], key, rfl, by rw [outline, hfuel], hfuel ▸ hroom, hkey, List.not_mem_nil⟩
  | @inside _ current inner _ _ _ _ _ outer member object stands ih =>
      obtain ⟨fuel, path, _, rfl, heq, hroom, hloaded, haway⟩ := ih
      obtain ⟨row, hrow⟩ := Option.isSome_iff_exists.1 hloaded
      rw [outlineAt, hrow] at heq
      cases heq
      have hinner : g.Room fuel (current :: path) := hroom.cons hloaded haway
      obtain ⟨r, hr, hlinks⟩ := List.mem_map.1 member
      cases hlinks
      obtain ⟨hr, hopen⟩ := List.mem_filter.1 hr
      obtain ⟨target, htarget, hsome, rfl⟩ := exists_of_mem_objects hlinked hinner
        (List.mem_of_find?_eq_some hrow) hr (by simpa using hopen) object
      rw [key?_outlineAt hinner hsome htarget] at stands
      cases stands
      obtain ⟨fuel, rfl⟩ :=
        Nat.exists_eq_add_one_of_ne_zero (hinner.fuel_pos hsome htarget).ne'
      exact ⟨fuel, current :: path, inner, rfl, rfl, hinner, hsome, htarget⟩

/-- A hidden column is concealed, whatever the collection. -/
theorem concealed_of_mem_hiddenFields {c : Collection} {name : String}
    (h : name ∈ c.hiddenFields) : Concealed name := by
  obtain ⟨-, rfl⟩ := Collection.mem_hiddenFields.1 h
  exact concealed_password_hash

/-- A loaded row is shown in full, whatever circles the relations lead in, and however large the
bound is.  Its outline has it outermost.  No row stands twice in a chain of objects inside each
other.  Every object shows the row it stands for, with every relation of it that is loaded but for
what only leads back into the chain.  No hidden column is shown at any depth. -/
theorem display_outline (hlinked : g.Linked) (hnamed : ∀ row ∈ g, row.Named)
    (hkey : (g.row? key).isSome) :
    (∀ fuel, g.length ≤ fuel → g.displayAt fuel [] key = (g.outline key).value) ∧
      (g.outline key).Holds [key] (g.outline key) ∧
      (∀ chain o, (g.outline key).Holds chain o → chain.Nodup ∧ g.Renders chain o) ∧
      ∀ (c : Collection) (name : String), name ∈ c.hiddenFields →
        ¬ (g.outline key).value.HasKey name := by
  refine ⟨fun fuel hfuel => ?_, .here ?_, fun chain o h => ?_, fun c name hname => ?_⟩
  · rw [displayAt_eq_display hfuel, value_outline]
  · exact key?_outlineAt (room_nil (Nat.le_refl _)) hkey List.not_mem_nil
  · obtain ⟨fuel, path, inner, rfl, rfl, hroom, hinner, haway⟩ := exists_of_holds hlinked hkey h
    exact ⟨List.nodup_cons.2 ⟨haway, hroom.nodup⟩, renders_outlineAt hlinked hroom hinner haway⟩
  · rw [value_outline]
    exact not_hasKey_displayAt (concealed_of_mem_hiddenFields hname) hnamed _ _ _

/-- A user with a blog that leads back to its author, and with a password. -/
def authorCircle : RowGraph :=
  let user : RowKey := ⟨.users, .drawn 1⟩
  let blog : RowKey := ⟨.blogs, .drawn 2⟩
  [⟨user, [("password_hash", .hash (.of "secret")), ("email", .text "a@b.c")],
      [("blogs", .many [blog])]⟩,
    ⟨blog, [("title", .text "First")], [("author", .one (some user))]⟩]

/-- The blog is shown inside its author, and the author not inside the blog. -/
theorem display_outline_author :
    authorCircle.Linked ∧ (∀ row ∈ authorCircle, row.Named) ∧
      (authorCircle.row? ⟨.users, .drawn 1⟩).isSome ∧
      authorCircle.displayAt 5 [] ⟨.users, .drawn 1⟩ =
        (authorCircle.outline ⟨.users, .drawn 1⟩).value ∧
      authorCircle.display ⟨.users, .drawn 1⟩ =
        .object [("email", .text "a@b.c"),
          ("blogs", .list [.object [("title", .text "First")]])] := by
  have hlinked : authorCircle.Linked := by
    simp [Linked, authorCircle, Links.targets, row?]
  have hnamed : ∀ row ∈ authorCircle, row.Named := by
    intro row hrow
    rcases List.mem_pair.1 hrow with rfl | rfl
    · exact ⟨by decide, by decide⟩
    · exact ⟨by decide, by decide⟩
  have hkey : (authorCircle.row? ⟨.users, .drawn 1⟩).isSome := by decide
  exact ⟨hlinked, hnamed, hkey, (display_outline hlinked hnamed hkey).1 5 (by decide), by rfl⟩

end RowGraph

end CollectionQuery
