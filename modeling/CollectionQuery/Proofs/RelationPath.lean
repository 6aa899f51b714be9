import CollectionQuery.Proofs.FieldPath
import CollectionQuery.Proofs.Outcome
import CollectionQuery.RelationPath

/-!
# Relations that are named once

Dropping repetitions changes no membership, and sorting changes neither that nor how often an entry
occurs.  So the relations that a query names are loaded once each, and none before one of its own
relations on the way.
-/

namespace CollectionQuery

section

variable {α : Type} [DecidableEq α]

theorem mem_firstOccurrences {x : α} {xs : List α} : x ∈ firstOccurrences xs ↔ x ∈ xs := by
  induction xs with
  | nil => rw [firstOccurrences]
  | cons y rest ih =>
      rw [firstOccurrences, List.mem_cons, List.mem_cons, List.mem_filter, ih]
      by_cases h : x = y <;> simp [h]

theorem nodup_firstOccurrences (xs : List α) : (firstOccurrences xs).Nodup := by
  induction xs with
  | nil => exact List.nodup_nil
  | cons x rest ih =>
      rw [firstOccurrences, List.nodup_cons]
      exact ⟨by simp, ih.filter _⟩

end

/-! ## Sorting by a number -/

section

variable {α : Type}

theorem key_trans (key : α → Nat) : ∀ a b c : α, decide (key a ≤ key b) = true →
    decide (key b ≤ key c) = true → decide (key a ≤ key c) = true := by
  intro a b c hab hbc
  exact decide_eq_true ((of_decide_eq_true hab).trans (of_decide_eq_true hbc))

theorem key_total (key : α → Nat) :
    ∀ a b : α, (decide (key a ≤ key b) || decide (key b ≤ key a)) = true := by
  intro a b
  simpa using Nat.le_total (key a) (key b)

theorem pairwise_mergeSort_key (key : α → Nat) (xs : List α) :
    (xs.mergeSort fun a b => decide (key a ≤ key b)).Pairwise fun a b => key a ≤ key b :=
  (List.pairwise_mergeSort (key_trans key) (key_total key) xs).imp of_decide_eq_true

end

theorem mem_sortTexts {text : String} {texts : List String} :
    text ∈ sortTexts texts ↔ text ∈ texts :=
  List.mem_mergeSort

theorem nodup_sortTexts {texts : List String} : (sortTexts texts).Nodup ↔ texts.Nodup :=
  (List.mergeSort_perm texts _).nodup_iff

namespace RelationPath

variable {paths relations : List String}

/-- Paths that are normal: each once, and those with fewer dots first. -/
structure Normal (paths : List String) : Prop where
  dotted : ∀ path ∈ paths, FieldPath.IsDotted path
  nodup : paths.Nodup
  /-- No path stands in front of one with fewer dots. -/
  by_depth : paths.Pairwise fun a b => FieldPath.depth a ≤ FieldPath.depth b

theorem normal_of_normalize (h : normalize paths = .ok relations) : Normal relations := by
  rw [normalize] at h
  split at h
  · cases h
  · next hfind =>
      cases h
      refine ⟨fun path hpath => ?_, ?_, ?_⟩
      · rw [List.mem_mergeSort, mem_firstOccurrences] at hpath
        exact FieldPath.isPath_iff.1 (by simpa using List.find?_eq_none.1 hfind path hpath)
      · exact (List.mergeSort_perm _ _).nodup_iff.2 (nodup_firstOccurrences _)
      · exact pairwise_mergeSort_key FieldPath.depth _

/-- A query that names no relations asks for none. -/
theorem requested_nil (known : Option (List String)) : requested [] false known = .ok [] := by
  simp [requested, normalize, firstOccurrences, Outcome.ofExcept, Outcome.ok]

end RelationPath

end CollectionQuery
