import CollectionQuery.Proofs.FieldPath
import CollectionQuery.Proofs.Outcome
import CollectionQuery.Proofs.RelationPath
import CollectionQuery.SortKey
import Mathlib.Data.Set.List

/-!
# Sort keys that differ

A key is added for a path only, and only if the path was not there before.  So no two keys of a sort
specification have the same path.
-/

namespace CollectionQuery.SortKey

variable {keys : List SortKey}

/-- The last name is the field, and those before it are the relations. -/
theorem names_ofPath (path : String) (direction : Direction) :
    (ofPath path direction).names = FieldPath.names path := by
  have hne : FieldPath.names path ≠ [] := by
    simp [FieldPath.names, Text.splitOnChar, Text.splitChars_eq_splitOn]
  have hlast : (FieldPath.names path).getLastD "" = (FieldPath.names path).getLast hne := by
    rw [List.getLastD_eq_getLast?, List.getLast?_eq_some_getLast hne, Option.getD_some]
  rw [SortKey.names, ofPath]
  dsimp only
  rw [hlast, List.dropLast_append_getLast hne]

/-- The names of a path, joined again. -/
theorem path_ofPath (path : String) (direction : Direction) :
    (ofPath path direction).path = path := by
  rw [SortKey.path, names_ofPath]
  exact Text.joinWith_splitOnChar '.' path

/-- Keys for paths that are dotted and differ from each other. -/
structure Distinct (keys : List SortKey) : Prop where
  dotted : ∀ k ∈ keys, FieldPath.IsDotted k.path
  nodup : (keys.map path).Nodup

/-- The keys from some place on differ from each other and from the paths before them. -/
theorem distinct_of_keysFrom {last : Direction} {ahead : List Direction} {seen parts : List String}
    (h : keysFrom last ahead seen parts = .ok keys) :
    Distinct keys ∧ ∀ k ∈ keys, k.path ∉ seen := by
  induction parts generalizing last ahead seen keys with
  | nil =>
      cases h
      exact ⟨⟨List.forall_mem_nil _, List.nodup_nil⟩, List.forall_mem_nil _⟩
  | cons part rest ih =>
      rw [keysFrom] at h
      split at h
      · exact ih h
      split at h
      · cases h
      split at h
      · exact ih h
      next hpath hnew =>
        obtain ⟨more, hmore, h⟩ := bind_eq_ok.1 h
        cases h
        obtain ⟨hdistinct, hseen⟩ := ih hmore
        have hpart : FieldPath.isPath part = true := by simpa using hpath
        refine ⟨⟨?_, ?_⟩, ?_⟩
        · rw [List.forall_mem_cons, path_ofPath]
          exact ⟨FieldPath.isPath_iff.1 hpart, hdistinct.dotted⟩
        · rw [List.map_cons, path_ofPath, List.nodup_cons]
          refine ⟨fun hmem => ?_, hdistinct.nodup⟩
          obtain ⟨k, hk, hkey⟩ := List.mem_map.1 hmem
          exact hseen k hk (hkey ▸ List.mem_cons_self)
        · rw [List.forall_mem_cons, path_ofPath]
          exact ⟨hnew, fun k hk hmem => hseen k hk (List.mem_cons_of_mem _ hmem)⟩

theorem distinct_of_ofTexts {fields order : String} (h : ofTexts fields order = .ok keys) :
    Distinct keys := by
  rw [ofTexts] at h
  split at h
  · cases h
    exact ⟨List.forall_mem_nil _, List.nodup_nil⟩
  · obtain ⟨directions, -, h⟩ := bind_eq_ok.1 h
    exact (distinct_of_keysFrom h).1

end CollectionQuery.SortKey

/-!
## Sort keys by their places

A sort specification is read from left to right, and the reader carries the last direction, the
directions that are left and the paths so far.  What comes out can be said without any of them.  The
keys are the parts that are not blank and did not occur before, and the direction of a key is the
one in the same place of the list of directions, or the last one if the list is shorter, or
descending if it is empty.  Blank parts and repetitions take a place too.
-/

namespace CollectionQuery

open CollectionQuery.Text

/-! ### Upper case -/

theorem Text.upperExpansions_ne_nil : ∀ entry ∈ upperExpansions, entry.2 ≠ [] := by decide

/-- Every character has at least one character in upper case. -/
theorem Text.upperChar_ne_nil (c : Char) : upperChar c ≠ [] := by
  rw [upperChar]
  split
  · exact List.cons_ne_nil _ _
  split
  · next entry hfind =>
      exact mt List.map_eq_nil_iff.1
        (upperExpansions_ne_nil entry (List.mem_of_find?_eq_some hfind))
  split <;> exact List.cons_ne_nil _ _

theorem Text.upper_eq_empty {s : String} : upper s = "" ↔ s = "" := by
  rw [upper, String.ofList_eq_empty_iff, List.flatMap_eq_nil_iff]
  constructor
  · intro h
    rw [← String.toList_eq_nil_iff, List.eq_nil_iff_forall_not_mem]
    exact fun c hc => upperChar_ne_nil c (h c hc)
  · rintro rfl
    simp

/-- In upper case the same texts are empty. -/
theorem Text.filter_map_upper (texts : List String) :
    (texts.map upper).filter (· ≠ "") = (texts.filter (· ≠ "")).map upper := by
  rw [List.filter_map]
  refine congrArg (List.map upper) (List.filter_congr fun t _ => ?_)
  exact decide_eq_decide.2 (not_congr upper_eq_empty)

/-! ### Entries by their place -/

section

variable {α β : Type} {absent last : α} {entries : List α} {place : Nat}

/-- The entry in a place, or the last one if the list is shorter, or `absent` if it is empty. -/
def entryAt (absent : α) (entries : List α) (place : Nat) : α :=
  (entries[min place (entries.length - 1)]?).getD absent

theorem entryAt_map (f : α → β) (absent : α) (entries : List α) (place : Nat) :
    entryAt (f absent) (entries.map f) place = f (entryAt absent entries place) := by
  rw [entryAt, entryAt, List.length_map, List.getElem?_map, Option.getD_map]

/-- Behind the end of a list the entry stays the same. -/
theorem entryAt_succ (h : entries.length ≤ place + 1) :
    entryAt absent entries (place + 1) = entryAt absent entries place := by
  rw [entryAt, entryAt, Nat.min_eq_right (by omega), Nat.min_eq_right (by omega)]

/-- A reader that keeps the last entry behind the end of a list has the entry of the place. -/
theorem headD_drop (hlast : entries.length ≤ place → last = entryAt absent entries place) :
    (entries.drop place).headD last = entryAt absent entries place := by
  rw [List.headD_eq_head?_getD, List.head?_drop]
  rcases Nat.lt_or_ge place entries.length with hlt | hge
  · rw [entryAt, Nat.min_eq_left (by omega), List.getElem?_eq_getElem hlt]
    rfl
  · rw [List.getElem?_eq_none hge, ← hlast hge]
    rfl

end

namespace SortKey

/-- The parts of a list, without the blanks around them. -/
def parts (text : String) : List String := (splitOnChar ',' text).map strip

/-- The directions of a list as they are written, in upper case and without the blank ones. -/
def directionNames (order : Option String) : List String :=
  ((parts (order.getD "")).filter (· ≠ "")).map upper

/-- The parts that are not blank and did not occur before, each with its place. -/
def firstPlaces (parts : List String) : List (String × Nat) :=
  parts.zipIdx.filter fun p => p.1 ≠ "" ∧ p.1 ∉ parts.take p.2

variable {keys : List SortKey} {ds : List Direction} {before rest seen : List String}
  {last : Direction} {order : Option String} {fields : String}

/-! ### Directions -/

theorem ofName?_eq_some {token : String} {d : Direction} :
    Direction.ofName? token = some d ↔ token = d.name := by
  constructor
  · rw [Direction.ofName?]
    split
    · rintro ⟨⟩
      assumption
    split
    · rintro ⟨⟩
      assumption
    · exact nofun
  · rintro rfl
    cases d <;> decide

theorem exists_name_iff {token : String} :
    (∃ d : Direction, token = d.name) ↔ token = "ASC" ∨ token = "DESC" := by
  constructor
  · rintro ⟨d, rfl⟩
    cases d
    · exact Or.inl rfl
    · exact Or.inr rfl
  · rintro (rfl | rfl)
    · exact ⟨.ascending, rfl⟩
    · exact ⟨.descending, rfl⟩

theorem tokens_eq : ((splitOnChar ',' (order.getD "")).map fun t => upper (strip t)).filter
    (· ≠ "") = directionNames order := by
  rw [directionNames, ← filter_map_upper, parts, List.map_map]
  rfl

/-- Directions are read as what their names say, or not at all. -/
theorem directions_eq_ok :
    directions (order.getD "") = .ok ds ↔ directionNames order = ds.map Direction.name := by
  rw [directions, tokens_eq, mapM_eq_ok, ← List.forall₂_eq_eq_eq, List.forall₂_map_right_iff]
  refine iff_of_eq (congrArg (List.Forall₂ · _ _) (funext fun token => funext fun d => ?_))
  rw [eq_iff_iff, ← ofName?_eq_some]
  cases Direction.ofName? token <;> simp

/-- A list of directions is read if each of them is one. -/
theorem exists_directions_iff :
    (∃ ds, directions (order.getD "") = .ok ds) ↔
      ∀ name ∈ directionNames order, name = "ASC" ∨ name = "DESC" := by
  have hrange := Set.ext_iff.1 (Set.range_list_map Direction.name) (directionNames order)
  simp only [directions_eq_ok, ← exists_name_iff]
  simpa [eq_comm] using hrange

/-! ### Keys -/

/-- The first part is a key if it is not blank and did not occur before. -/
theorem filter_zipIdx_cons (part : String) : ((part :: rest).zipIdx before.length).filter
    (fun p => p.1 ≠ "" ∧ p.1 ∉ (before ++ part :: rest).take p.2) =
      (if part ≠ "" ∧ part ∉ before then [(part, before.length)] else []) ++
        (rest.zipIdx (before ++ [part]).length).filter fun p =>
          p.1 ≠ "" ∧ p.1 ∉ (before ++ [part] ++ rest).take p.2 := by
  rw [List.zipIdx_cons, List.filter_cons, List.append_assoc, List.singleton_append,
    List.length_append, List.length_singleton, List.take_left]
  by_cases h : part ≠ "" ∧ part ∉ before
  · rw [if_pos h, if_pos (decide_eq_true h), List.singleton_append]
  · rw [if_neg h, if_neg (by simpa using h), List.nil_append]

/-- The keys of the parts from a place on: `before` are the parts in front of it. -/
theorem keysFrom_eq (hrest : ∀ part ∈ rest, part ≠ "" → FieldPath.isPath part = true)
    (hseen : ∀ part ≠ "", part ∈ seen ↔ part ∈ before)
    (hlast : ds.length ≤ before.length → last = entryAt .descending ds before.length) :
    keysFrom last (ds.drop before.length) seen rest =
      .ok (((rest.zipIdx before.length).filter fun p =>
        p.1 ≠ "" ∧ p.1 ∉ (before ++ rest).take p.2).map fun p =>
          ofPath p.1 (entryAt .descending ds p.2)) := by
  induction rest generalizing before seen last with
  | nil => rfl
  | cons part rest ih =>
      obtain ⟨hpart, hrest⟩ := List.forall_mem_cons.1 hrest
      have hlength : (before ++ [part]).length = before.length + 1 := List.length_append
      have hahead : ds.length ≤ (before ++ [part]).length →
          entryAt .descending ds before.length =
            entryAt .descending ds (before ++ [part]).length := by
        intro h
        rw [hlength] at h ⊢
        exact (entryAt_succ h).symm
      have htail : (ds.drop before.length).tail = ds.drop (before ++ [part]).length := by
        rw [List.tail_drop, hlength]
      rw [keysFrom, headD_drop hlast, htail, filter_zipIdx_cons]
      by_cases hblank : part = ""
      · rw [if_pos hblank, if_neg (fun h => h.1 hblank), List.nil_append]
        refine ih hrest (fun other hother => ?_) hahead
        rw [hseen other hother, List.mem_append, List.mem_singleton, hblank]
        exact (or_iff_left hother).symm
      have hisPath : (!FieldPath.isPath part) = false := by rw [hpart hblank, Bool.not_true]
      rw [if_neg hblank, hisPath, if_neg Bool.false_ne_true]
      by_cases hold : part ∈ seen
      · rw [if_pos hold, if_neg (fun h => h.2 ((hseen part hblank).1 hold)), List.nil_append]
        refine ih hrest (fun other hother => ?_) hahead
        rw [hseen other hother, List.mem_append, List.mem_singleton]
        refine (or_iff_left_of_imp ?_).symm
        rintro rfl
        exact (hseen other hother).1 hold
      · rw [if_neg hold, if_pos ⟨hblank, mt (hseen part hblank).2 hold⟩]
        rw [ih hrest (fun other hother => ?_) hahead]
        · rfl
        · rw [List.mem_cons, hseen other hother, List.mem_append, List.mem_singleton, or_comm]

/-- Keys come from paths only. -/
theorem isPath_of_keysFrom {ahead : List Direction}
    (h : keysFrom last ahead seen rest = .ok keys) :
    ∀ part ∈ rest, part ≠ "" → FieldPath.isPath part = true := by
  induction rest generalizing last ahead seen keys with
  | nil => exact List.forall_mem_nil _
  | cons part rest ih =>
      rw [keysFrom] at h
      rw [List.forall_mem_cons]
      split at h
      · next hblank => exact ⟨fun hne => absurd hblank hne, ih h⟩
      split at h
      · cases h
      next hpath =>
        have hpart : FieldPath.isPath part = true := by simpa using hpath
        split at h
        · exact ⟨fun _ => hpart, ih h⟩
        · obtain ⟨more, hmore, -⟩ := bind_eq_ok.1 h
          exact ⟨fun _ => hpart, ih hmore⟩

/-- The parts of the keys are the first occurrences of the parts that are not blank. -/
theorem map_fst_filter_zipIdx (before rest : List String) :
    ((rest.zipIdx before.length).filter fun p =>
      p.1 ≠ "" ∧ p.1 ∉ (before ++ rest).take p.2).map Prod.fst =
      (firstOccurrences (rest.filter (· ≠ ""))).filter (· ∉ before) := by
  induction rest generalizing before with
  | nil => rfl
  | cons part rest ih =>
      rw [filter_zipIdx_cons, List.map_append, ih]
      have hmem (x : String) : x ∈ before ++ [part] ↔ x = part ∨ x ∈ before := by
        rw [List.mem_append, List.mem_singleton, or_comm]
      by_cases hblank : part = ""
      · have hsame : ∀ x ∈ firstOccurrences (rest.filter (· ≠ "")),
            decide (x ∉ before ++ [part]) = decide (x ∉ before) := by
          intro x hx
          have hne : x ≠ "" := by simpa using (List.mem_filter.1 (mem_firstOccurrences.1 hx)).2
          rw [decide_eq_decide, hmem, hblank]
          exact not_congr (or_iff_right hne)
        rw [if_neg fun h => h.1 hblank, List.filter_cons_of_neg (by simpa using hblank),
          List.map_nil, List.nil_append, List.filter_congr hsame]
      · rw [List.filter_cons_of_pos (by simpa using hblank), firstOccurrences]
        have hboth : ∀ x ∈ firstOccurrences (rest.filter (· ≠ "")),
            decide (x ∉ before ++ [part]) = (decide (x ∉ before) && decide (x ≠ part)) := by
          intro x _
          rw [← Bool.decide_and, decide_eq_decide, hmem, not_or, and_comm]
        rw [List.filter_congr hboth, ← List.filter_filter]
        by_cases hold : part ∈ before
        · rw [if_neg fun h => h.2 hold, List.filter_cons_of_neg (by simpa using hold)]
          rfl
        · rw [if_pos ⟨hblank, hold⟩, List.filter_cons_of_pos (by simpa using hold)]
          rfl

/-! ### Sort specifications -/

theorem ofTexts_eq_ok (hne : fields ≠ "") :
    ofTexts fields (order.getD "") = .ok keys ↔
      ∃ ds, directions (order.getD "") = .ok ds ∧
        keysFrom .descending ds [] (parts fields) = .ok keys := by
  rw [ofTexts, if_neg hne, bind_eq_ok, parts]

/-- The keys of dotted paths, without what the reader carries. -/
theorem keysFrom_parts (h : ∀ part ∈ parts fields, part ≠ "" → FieldPath.isPath part = true) :
    keysFrom .descending ds [] (parts fields) = .ok ((firstPlaces (parts fields)).map fun p =>
      ofPath p.1 (entryAt .descending ds p.2)) := by
  have hseen : ∀ part ≠ "", part ∈ ([] : List String) ↔ part ∈ ([] : List String) :=
    fun _ _ => Iff.rfl
  refine keysFrom_eq h hseen fun hempty => ?_
  rw [List.length_eq_zero_iff.1 (Nat.le_zero.1 hempty)]
  rfl

/-- A sort specification is read exactly if its directions are directions and its parts that are not
blank are dotted paths.  Its keys are then the first occurrences of the paths, in their order and
each once, and the direction of a key is the one in the place of its part, the last one if there are
fewer and descending if there is none. -/
theorem keys_by_place (hne : fields ≠ "") (order : Option String) :
    ((∃ keys, ofTexts fields (order.getD "") = .ok keys) ↔
      (∀ name ∈ directionNames order, name = "ASC" ∨ name = "DESC") ∧
        ∀ part ∈ parts fields, part ≠ "" → FieldPath.IsDotted part) ∧
    ∀ keys, ofTexts fields (order.getD "") = .ok keys →
      (keys.map fun k => (k.names, k.direction.name)) = ((firstPlaces (parts fields)).map fun p =>
        (FieldPath.names p.1, entryAt "DESC" (directionNames order) p.2)) ∧
      keys.map path = firstOccurrences ((parts fields).filter (· ≠ "")) ∧
      (keys.map path).Nodup := by
  simp only [ofTexts_eq_ok hne, ← FieldPath.isPath_iff]
  refine ⟨⟨?_, ?_⟩, ?_⟩
  · rintro ⟨keys, ds, hds, hkeys⟩
    exact ⟨exists_directions_iff.1 ⟨ds, hds⟩, isPath_of_keysFrom hkeys⟩
  · rintro ⟨hnames, hparts⟩
    obtain ⟨ds, hds⟩ := exists_directions_iff.2 hnames
    exact ⟨_, ds, hds, keysFrom_parts hparts⟩
  · rintro keys ⟨ds, hds, hkeys⟩
    have hnames : directionNames order = ds.map Direction.name := directions_eq_ok.1 hds
    have hdistinct := (distinct_of_keysFrom hkeys).1
    rw [keysFrom_parts (isPath_of_keysFrom hkeys)] at hkeys
    cases hkeys
    have hentry (place : Nat) : entryAt "DESC" (directionNames order) place =
        (entryAt .descending ds place).name := by
      rw [hnames]
      exact entryAt_map Direction.name .descending ds place
    have hoccurrences := map_fst_filter_zipIdx [] (parts fields)
    refine ⟨?_, ?_, hdistinct.nodup⟩
    · simp only [List.map_map, Function.comp_def, names_ofPath, hentry]
      rfl
    · simpa [Function.comp_def, path_ofPath, firstPlaces] using hoccurrences

/-- Blank parts and repetitions take a place, and the last direction stays. -/
theorem keys_by_place_blank :
    " title,,title , author.name" ≠ "" ∧
      ∃ keys, ofTexts " title,,title , author.name" ((some "asc, ,Desc").getD "") = .ok keys ∧
        (keys.map fun k => (k.names, k.direction.name)) =
          [(["title"], "ASC"), (["author", "name"], "DESC")] := by
  have hne : " title,,title , author.name" ≠ "" := by decide
  obtain ⟨hread, hkeys⟩ := keys_by_place hne (some "asc, ,Desc")
  have hparts : parts " title,,title , author.name" = ["title", "", "title", "author.name"] := by
    decide
  have hnames : directionNames (some "asc, ,Desc") = ["ASC", "DESC"] := by decide
  have hpaths : ∀ part ∈ parts " title,,title , author.name", part ≠ "" →
      FieldPath.isPath part = true := by
    rw [hparts]
    decide
  obtain ⟨keys, hok⟩ := hread.2 ⟨by rw [hnames]; decide, fun part hpart hblank =>
    FieldPath.isPath_iff.1 (hpaths part hpart hblank)⟩
  refine ⟨hne, keys, hok, (hkeys keys hok).1.trans ?_⟩
  rw [hparts, hnames]
  decide

end SortKey

end CollectionQuery
