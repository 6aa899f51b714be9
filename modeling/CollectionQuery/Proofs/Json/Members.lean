import CollectionQuery.Json
import Mathlib.Data.List.Nodup

/-!
# The members of documents

A member that is set is found under its name, and the others are what they were.  An object without
duplicate names gives each of its members, in their order, to the object that it denotes, and what
is looked up there by a name is the value of the member of that name.

A `record` is an object without halves of surrogate pairs in its names.
-/

namespace CollectionQuery

open CollectionQuery.Text

/-! ## Members that are set -/

namespace Value

variable {members : List (String × Value)} {name other : String}

theorem member?_cons (name other : String) (v : Value) (members : List (String × Value)) :
    member? ((other, v) :: members) name =
      if other = name then some v else member? members name := by
  rw [member?, List.find?_cons]
  by_cases h : other = name
  · simp [h]
  · rw [if_neg h, beq_eq_false_iff_ne.2 h]
    rfl

theorem member?_map_set (members : List (String × Value)) (name other : String) (value : Value) :
    member? (members.map fun m => if m.1 == name then (name, value) else m) other =
      if name = other then (member? members other).map fun _ => value
      else member? members other := by
  induction members with
  | nil => split <;> rfl
  | cons m rest ih =>
      rw [List.map_cons, member?_cons, ih, member?_cons]
      by_cases hm : m.1 = name
      · subst hm
        by_cases hother : m.1 = other <;> simp [hother]
      · by_cases hother : name = other
        · subst hother
          simp [hm]
        · simp [hm, hother]

theorem isSome_member? (members : List (String × Value)) (name : String) :
    (member? members name).isSome = members.any fun m => m.1 == name := by
  rw [member?, Option.isSome_map, List.isSome_find?]

theorem member?_append_singleton (members : List (String × Value)) (name other : String)
    (value : Value) :
    member? (members ++ [(name, value)]) other =
      (member? members other).or (if name = other then some value else none) := by
  induction members with
  | nil =>
      rw [List.nil_append, member?_cons]
      rfl
  | cons m rest ih =>
      rw [List.cons_append, member?_cons, ih, member?_cons]
      split <;> rfl

/-- Setting a member changes no other. -/
theorem member?_setMember (members : List (String × Value)) (name other : String)
    (value : Value) :
    member? (setMember members name value) other =
      if name = other then some value else member? members other := by
  have hsome := isSome_member? members name
  rw [setMember]
  split
  · next hany =>
      rw [member?_map_set]
      split
      · next h =>
          subst h
          obtain ⟨v, hv⟩ := Option.isSome_iff_exists.1 (hsome.trans hany)
          rw [hv]
          rfl
      · rfl
  · next hnone =>
      rw [member?_append_singleton]
      split
      · next h =>
          subst h
          have habsent : member? members name = none :=
            Option.not_isSome_iff_eq_none.1 (by rwa [hsome])
          rw [habsent]
          rfl
      · exact Option.or_none

theorem member?_setMember_self (members : List (String × Value)) (name : String)
    (value : Value) : member? (setMember members name value) name = some value := by
  rw [member?_setMember, if_pos rfl]

theorem member?_setMember_of_ne (h : other ≠ name) (value : Value) :
    member? (setMember members name value) other = member? members other := by
  rw [member?_setMember, if_neg h.symm]

/-- An object whose names are texts of characters. -/
theorem ofMembers_whole (members : List (String × Value)) :
    ofMembers (members.map fun m => (.whole m.1, m.2)) = .object members := by
  have hwhole : wholeMembers (members.map fun m => (.whole m.1, m.2)) = members := by
    rw [wholeMembers, List.filterMap_map]
    exact List.filterMap_some
  rw [ofMembers, if_pos (by simp [AnyText.isWhole]), hwhole]

theorem isNull_ofMembers (members : List (AnyText × Value)) :
    (ofMembers members).isNull = false := by
  rw [ofMembers]
  split <;> rfl

end Value

/-! ## Members of documents without duplicate names -/

namespace Json

/-- An object whose names are texts of characters. -/
def record (members : List (String × Json)) : Json :=
  .object (members.map fun m => (.whole m.1, m.2))

section

variable {members : List (AnyText × Json)}

theorem itemsToValues_eq (items : List Json) : itemsToValues items = items.map toValue := by
  induction items with
  | nil => rfl
  | cons j rest ih => rw [itemsToValues, ih, List.map_cons]

theorem membersToValues_append (before : List (AnyText × Value))
    (hnodup : (members.map (·.1)).Nodup) (hnew : ∀ m ∈ members, m.1 ∉ before.map (·.1)) :
    membersToValues before members = before ++ members.map fun m => (m.1, m.2.toValue) := by
  induction members generalizing before with
  | nil => rw [membersToValues, List.map_nil, List.append_nil]
  | cons m rest ih =>
      obtain ⟨name, j⟩ := m
      obtain ⟨hname, hrest⟩ := List.nodup_cons.1 hnodup
      obtain ⟨hfirst, hothers⟩ := List.forall_mem_cons.1 hnew
      have hset : Value.setMember before name j.toValue = before ++ [(name, j.toValue)] := by
        refine if_neg fun hany => ?_
        obtain ⟨m, hm, heq⟩ := List.any_eq_true.1 hany
        exact hfirst (List.mem_map.2 ⟨m, hm, beq_iff_eq.1 heq⟩)
      rw [membersToValues, hset, ih _ hrest, List.append_assoc]
      · rfl
      · intro m hm hmem
        rw [List.map_append, List.mem_append] at hmem
        rcases hmem with hmem | hmem
        · exact hothers m hm hmem
        · obtain rfl : m.1 = name := by simpa using hmem
          exact hname (List.mem_map.2 ⟨m, hm, rfl⟩)

/-- An object with every name once denotes the object with the same members. -/
theorem toValue_object (hnodup : (members.map (·.1)).Nodup) :
    (object members).toValue = .ofMembers (members.map fun m => (m.1, m.2.toValue)) := by
  have happend := membersToValues_append [] hnodup fun _ _ hm => List.not_mem_nil hm
  rw [toValue, happend, List.nil_append]

theorem depthOfItems_le {items : List Json} {n : Nat} (h : ∀ j ∈ items, j.depth ≤ n) :
    depthOfItems items ≤ n := by
  induction items with
  | nil => exact Nat.zero_le n
  | cons j rest ih =>
      obtain ⟨hj, hrest⟩ := List.forall_mem_cons.1 h
      rw [depthOfItems]
      exact Nat.max_le.2 ⟨hj, ih hrest⟩

theorem depthOfMembers_le {n : Nat} (h : ∀ m ∈ members, m.2.depth ≤ n) :
    depthOfMembers members ≤ n := by
  induction members with
  | nil => exact Nat.zero_le n
  | cons m rest ih =>
      obtain ⟨hm, hrest⟩ := List.forall_mem_cons.1 h
      rw [depthOfMembers]
      exact Nat.max_le.2 ⟨hm, ih hrest⟩

end

/-! ## Records -/

variable {members : List (String × Json)} {name : String} {j : Json}

theorem toValue_record (hnodup : (members.map (·.1)).Nodup) :
    (record members).toValue = .object (members.map fun m => (m.1, m.2.toValue)) := by
  have hnames : ((members.map fun m => (AnyText.whole m.1, m.2)).map (·.1)).Nodup := by
    have hmap := hnodup.map (f := AnyText.whole) fun _ _ => AnyText.whole.inj
    rwa [List.map_map] at hmap ⊢
  rw [record, toValue_object hnames, ← Value.ofMembers_whole, List.map_map, List.map_map]
  rfl

theorem depth_record_le {n : Nat} (h : ∀ m ∈ members, m.2.depth ≤ n) :
    (record members).depth ≤ n + 1 := by
  rw [record, depth]
  exact Nat.succ_le_succ (depthOfMembers_le (List.forall_mem_map.2 h))

/-- The value of a member is found by its name. -/
theorem member?_map (hnodup : (members.map (·.1)).Nodup) (hmem : (name, j) ∈ members) :
    Value.member? (members.map fun m => (m.1, m.2.toValue)) name = some j.toValue := by
  induction members with
  | nil => cases hmem
  | cons m rest ih =>
      obtain ⟨hname, hrest⟩ := List.nodup_cons.1 hnodup
      rcases List.mem_cons.1 hmem with rfl | hmem
      · rw [List.map_cons, Value.member?_cons, if_pos rfl]
      · have hne : m.1 ≠ name := by
          rintro rfl
          exact hname (List.mem_map.2 ⟨_, hmem, rfl⟩)
        rw [List.map_cons, Value.member?_cons, if_neg hne]
        exact ih hrest hmem

theorem member?_map_none (hnone : name ∉ members.map (·.1)) :
    Value.member? (members.map fun m => (m.1, m.2.toValue)) name = none := by
  rw [Value.member?, Option.map_eq_none_iff, List.find?_eq_none]
  intro v hv heq
  obtain ⟨m, hm, rfl⟩ := List.mem_map.1 hv
  exact hnone (List.mem_map.2 ⟨m, hm, beq_iff_eq.1 heq⟩)

/-- A member is the only one of its name. -/
theorem member_unique {j' : Json} (hnodup : (members.map (·.1)).Nodup) (h : (name, j) ∈ members)
    (h' : (name, j') ∈ members) : j = j' :=
  congrArg Prod.snd (List.inj_on_of_nodup_map hnodup h h' rfl)

end Json

end CollectionQuery
