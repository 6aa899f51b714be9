import CollectionQuery.Proofs.RelationPath
import Mathlib.Data.List.Basic

/-!
# The normal form of a list of relation paths

Paths are normalised in three passes: they are stripped, repetitions are dropped, and what is left
is sorted by depth.  The list that comes out can be said without the passes.  It has each path once
that is not blank, and of two paths the one with fewer dots stands in front, or the one that appears
first if they have as many.

This order tells all paths apart, so a list of paths has one normal form at most
(`NormalForm.unique`), and normalising finds it or there is none (`normalize_eq_ok`).  What
normalising does to its own result is read off from there and not from the passes: a normal list is
its own normal form, also if some of its entries are named again behind it (`Normal.normalForm`).
-/

namespace CollectionQuery

open CollectionQuery.Text

/-! ## Places -/

section

variable {α : Type} [DecidableEq α]

/-- The first occurrences stand in the order in which they occur. -/
theorem pairwise_idxOf_firstOccurrences (xs : List α) :
    (firstOccurrences xs).Pairwise fun a b => xs.idxOf a < xs.idxOf b := by
  induction xs with
  | nil => exact List.Pairwise.nil
  | cons x rest ih =>
      have hplace {a : α} (ha : a ∈ (firstOccurrences rest).filter (· ≠ x)) :
          (x :: rest).idxOf a = rest.idxOf a + 1 := by
        have hne : a ≠ x := by simpa using (List.mem_filter.1 ha).2
        exact List.idxOf_cons_ne rest hne.symm
      rw [firstOccurrences, List.pairwise_cons]
      constructor
      · intro a ha
        rw [List.idxOf_cons_self, hplace ha]
        exact Nat.succ_pos _
      · refine (ih.filter _).imp_of_mem fun ha hb hab => ?_
        rw [hplace ha, hplace hb]
        exact Nat.succ_lt_succ hab

/-- In a list without repetitions, also with more behind it, each entry occurs first where it
stands. -/
theorem pairwise_idxOf_append {xs : List α} (h : xs.Nodup) (more : List α) :
    xs.Pairwise fun a b => (xs ++ more).idxOf a < (xs ++ more).idxOf b := by
  rw [List.pairwise_iff_getElem]
  intro i j hi hj hij
  rw [List.idxOf_append_of_mem (List.getElem_mem hi),
    List.idxOf_append_of_mem (List.getElem_mem hj), h.idxOf_getElem i hi, h.idxOf_getElem j hj]
  exact hij

end

/-! ## Pairs in a sorted list -/

section

variable {α : Type} {key : α → Nat} {xs : List α} {a b : α}

/-- Sorting keeps the order of the entries that have the same number. -/
theorem filter_mergeSort_key (key : α → Nat) (xs : List α) (n : Nat) :
    (xs.mergeSort fun a b => decide (key a ≤ key b)).filter (key · = n) =
      xs.filter (key · = n) := by
  have hequal : (xs.filter (key · = n)).Pairwise fun a b => decide (key a ≤ key b) = true := by
    rw [List.pairwise_filter]
    refine List.pairwise_of_forall fun a b ha hb => ?_
    simp only [decide_eq_true_eq] at ha hb ⊢
    rw [ha, hb]
  -- These entries are sorted already, so they come out in their order, and no others with them.
  have hsublist := List.sublist_mergeSort (key_trans key) (key_total key) hequal
    List.filter_sublist
  have hfilter := hsublist.filter fun a => decide (key a = n)
  rw [List.filter_filter] at hfilter
  simp only [Bool.and_self] at hfilter
  have hperm := (List.mergeSort_perm xs fun a b => decide (key a ≤ key b)).filter
    fun a => decide (key a = n)
  exact (hfilter.eq_of_length hperm.length_eq.symm).symm

/-- Entries with the same number that stand in some order did so before they were sorted. -/
theorem pair_sublist_of_mergeSort_key
    (h : [a, b].Sublist (xs.mergeSort fun a b => decide (key a ≤ key b)))
    (hkey : key a = key b) : [a, b].Sublist xs := by
  have hfilter := h.filter fun c => decide (key c = key b)
  have hpair : [a, b].filter (key · = key b) = [a, b] := by simp [hkey]
  rw [filter_mergeSort_key, hpair] at hfilter
  exact hfilter.trans List.filter_sublist

/-- In a sorted list, an entry with a smaller number stands in front of one with a greater. -/
theorem pair_sublist_of_key_lt (h : xs.Pairwise fun a b => key a ≤ key b) (ha : a ∈ xs)
    (hb : b ∈ xs) (hlt : key a < key b) : [a, b].Sublist xs := by
  obtain ⟨before, after, rfl⟩ := List.append_of_mem ha
  have hbehind := (List.pairwise_append.1 h).2.2
  rcases List.mem_append.1 hb with hb | hb
  · exact absurd (hbehind b hb a List.mem_cons_self) (Nat.not_le.2 hlt)
  · rcases List.mem_cons.1 hb with rfl | hb
    · exact absurd hlt (Nat.lt_irrefl _)
    · have hpair : [a, b].Sublist (a :: after) := (List.singleton_sublist.2 hb).cons_cons a
      exact hpair.trans (List.sublist_append_right before _)

end

/-! ## Normal forms -/

namespace RelationPath

variable {paths relations more : List String} {path rest : String} {failure : Failure}

/-- The paths that are not blank, without the blanks around them. -/
def named (paths : List String) : List String := (paths.map strip).filter (· ≠ "")

/-- The normal form of a list of paths: its paths that are not blank, each once, those with fewer
dots first. -/
structure NormalForm (paths relations : List String) : Prop extends Normal relations where
  mem_iff : ∀ path, path ∈ relations ↔ path ∈ named paths
  /-- Paths with as many dots stand in the order in which they first appear. -/
  by_place : relations.Pairwise fun a b => FieldPath.depth a = FieldPath.depth b →
    (named paths).idxOf a < (named paths).idxOf b

/-- Normalising fails with the first path that is not dotted. -/
theorem normalize_eq_error : normalize paths = .error failure ↔
    ∃ path, (named paths).find? (fun path => !FieldPath.isPath path) = some path ∧
      failure = .rejected (.relationPath path) := by
  rw [normalize, ← named]
  cases (named paths).find? fun path => !FieldPath.isPath path with
  | none => simp
  | some path => simp [eq_comm]

theorem eq_of_normalize (h : normalize paths = .ok relations) :
    relations = (firstOccurrences (named paths)).mergeSort fun a b =>
      decide (FieldPath.depth a ≤ FieldPath.depth b) := by
  rw [normalize] at h
  split at h
  · cases h
  · cases h
    rfl

theorem normalForm_of_normalize (h : normalize paths = .ok relations) :
    NormalForm paths relations where
  toNormal := normal_of_normalize h
  mem_iff path := by rw [eq_of_normalize h, List.mem_mergeSort, mem_firstOccurrences]
  by_place := by
    rw [List.pairwise_iff_forall_sublist]
    intro a b hab hdepth
    rw [eq_of_normalize h] at hab
    have hfirst : [a, b].Sublist (firstOccurrences (named paths)) :=
      pair_sublist_of_mergeSort_key hab hdepth
    exact List.pairwise_iff_forall_sublist.1 (pairwise_idxOf_firstOccurrences _) hfirst

/-- A list of paths has one normal form at most: depth and place tell its paths apart. -/
theorem NormalForm.unique {others : List String} (h : NormalForm paths relations)
    (hothers : NormalForm paths others) : relations = others := by
  have hmem (path : String) : path ∈ relations ↔ path ∈ others :=
    (h.mem_iff path).trans (hothers.mem_iff path).symm
  have hperm : relations.Perm others := (List.perm_ext_iff_of_nodup h.nodup hothers.nodup).2 hmem
  refine hperm.eq_of_pairwise ?_ (h.by_depth.and h.by_place) (hothers.by_depth.and hothers.by_place)
  rintro a b - - ⟨hab, hplace⟩ ⟨hba, hplace'⟩
  have hdepth : FieldPath.depth a = FieldPath.depth b := Nat.le_antisymm hab hba
  exact absurd (hplace hdepth) (Nat.lt_asymm (hplace' hdepth.symm))

/-- Normalising finds the normal form, or there is none. -/
theorem normalize_eq_ok : normalize paths = .ok relations ↔ NormalForm paths relations := by
  refine ⟨normalForm_of_normalize, fun h => ?_⟩
  cases hresult : normalize paths with
  | ok found => rw [(normalForm_of_normalize hresult).unique h]
  | error failure =>
      obtain ⟨path, hfind, -⟩ := normalize_eq_error.1 hresult
      have hdotted := h.dotted path ((h.mem_iff path).2 (List.mem_of_find?_eq_some hfind))
      have hfault := List.find?_some hfind
      rw [FieldPath.isPath_iff.2 hdotted] at hfault
      cases hfault

/-- Normalising fails exactly if one of the paths is not dotted. -/
theorem exists_normalize_eq_error : (∃ failure, normalize paths = .error failure) ↔
    ∃ path ∈ named paths, ¬FieldPath.IsDotted path := by
  simp only [normalize_eq_error, ← FieldPath.isPath_iff]
  constructor
  · rintro ⟨failure, path, hfind, -⟩
    exact ⟨path, List.mem_of_find?_eq_some hfind, by simpa using List.find?_some hfind⟩
  · rintro ⟨path, hpath, hfault⟩
    have hsome : ((named paths).find? fun path => !FieldPath.isPath path).isSome = true := by
      rw [List.find?_isSome]
      exact ⟨path, hpath, by simpa using hfault⟩
    obtain ⟨first, hfirst⟩ := Option.isSome_iff_exists.1 hsome
    exact ⟨_, first, hfirst, rfl⟩

/-- Dotted paths are not blank, and there are no blanks around them. -/
theorem named_eq_self (h : ∀ path ∈ paths, FieldPath.IsDotted path) : named paths = paths := by
  have hpaths : ∀ path ∈ paths, FieldPath.isPath path = true :=
    fun path hpath => FieldPath.isPath_iff.2 (h path hpath)
  have hstrip : paths.map strip = paths := by
    rw [List.map_congr_left fun path hpath => FieldPath.strip_eq_self (hpaths path hpath)]
    exact List.map_id' paths
  rw [named, hstrip, List.filter_eq_self]
  intro path hpath
  have hne : path ≠ "" := by
    rintro rfl
    exact absurd (hpaths "" hpath) (by decide)
  exact decide_eq_true hne

/-- Normal paths are their own normal form, also if some of them are named again. -/
theorem Normal.normalForm (h : Normal relations) (hmore : more ⊆ relations) :
    NormalForm (relations ++ more) relations := by
  have hmem (path : String) : path ∈ relations ++ more ↔ path ∈ relations := by
    rw [List.mem_append]
    exact or_iff_left_of_imp fun hpath => hmore hpath
  have hnamed : named (relations ++ more) = relations ++ more :=
    named_eq_self fun path hpath => h.dotted path ((hmem path).1 hpath)
  refine { h with mem_iff := fun path => ?_, by_place := ?_ }
  · rw [hnamed, hmem]
  · rw [hnamed]
    refine (pairwise_idxOf_append h.nodup more).imp fun {a b} hab => ?_
    exact fun _ => hab

/-- A path stands in front of those that go on behind it. -/
theorem Normal.pair_sublist (h : Normal relations) (hpath : path ∈ relations)
    (hlonger : path ++ "." ++ rest ∈ relations) :
    [path, path ++ "." ++ rest].Sublist relations := by
  have hdot : ".".toList.count '.' = 1 := by decide
  refine pair_sublist_of_key_lt h.by_depth hpath hlonger ?_
  simp only [FieldPath.depth, String.toList_append, List.count_append, hdot]
  omega

/-- Normalising is a stable sort without repetitions.  It fails exactly if a path that is not blank
is not dotted, and otherwise gives the normal form of the paths, in which a path stands in front of
those that go on behind it.  Normalising the result again changes nothing, and neither does naming
some of its entries again behind it. -/
theorem normalizes_stably (paths : List String) :
    ((∃ failure, normalize paths = .error failure) ↔
      ∃ path ∈ named paths, ¬FieldPath.IsDotted path) ∧
    ∀ relations, normalize paths = .ok relations →
      NormalForm paths relations ∧
      (∀ path rest, path ∈ relations → path ++ "." ++ rest ∈ relations →
        [path, path ++ "." ++ rest].Sublist relations) ∧
      normalize relations = .ok relations ∧
      ∀ more ⊆ relations, normalize (relations ++ more) = .ok relations := by
  refine ⟨exists_normalize_eq_error, fun relations h => ?_⟩
  have hform : NormalForm paths relations := normalForm_of_normalize h
  have hmore : ∀ more ⊆ relations, normalize (relations ++ more) = .ok relations :=
    fun more hsubset => normalize_eq_ok.2 (hform.toNormal.normalForm hsubset)
  refine ⟨hform, fun path rest => hform.toNormal.pair_sublist, ?_, hmore⟩
  have hagain := hmore [] (List.nil_subset relations)
  rwa [List.append_nil] at hagain

/-- The blogs of an author are named first, with blanks around them, and a category twice. -/
def blogPaths : List String := [" author.blogs", "category", " ", "author", "category "]

theorem normalizes_stably_blogs :
    normalize blogPaths = .ok ["category", "author", "author.blogs"] ∧
      NormalForm blogPaths ["category", "author", "author.blogs"] ∧
      ["author", "author.blogs"].Sublist ["category", "author", "author.blogs"] ∧
      normalize ["category", "author", "author.blogs", "author.blogs", "category"] =
        .ok ["category", "author", "author.blogs"] := by
  have hnamed : named blogPaths = ["author.blogs", "category", "author", "category"] := by decide
  have hform : NormalForm blogPaths ["category", "author", "author.blogs"] := {
    dotted := by
      simp only [← FieldPath.isPath_iff]
      decide
    nodup := by decide
    by_depth := by decide
    mem_iff := fun path => by
      simp only [hnamed, List.mem_cons, List.not_mem_nil, or_false]
      tauto
    by_place := by
      rw [hnamed]
      decide }
  have hok := normalize_eq_ok.2 hform
  obtain ⟨hnormal, hfirst, -, hmore⟩ := (normalizes_stably blogPaths).2 _ hok
  have hauthor := hfirst "author" "blogs" (by decide) (by decide)
  exact ⟨hok, hnormal, hauthor, hmore ["author.blogs", "category"] (by decide)⟩

end RelationPath

end CollectionQuery
