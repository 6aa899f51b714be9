import CollectionQuery.Proofs.Json.Members
import CollectionQuery.RawQuery

/-!
# Documents of raw queries

Pairs are grouped by their keys, and the entries are read one after the other.  An entry sets one
member of the document, the one of its key without brackets, so a member depends only on the pairs
whose keys belong to it, in whatever pairs they stand.  The member of a list has the values of the
spelling that comes first and then those of the other.
-/

namespace CollectionQuery

namespace RawQuery

variable {items : List (String × Value)} {entries : List Entry} {name key first other : String}

/-! ## Grouping -/

/-- The values of a key, in their order. -/
def valuesOf (key : String) (items : List (String × Value)) : List Value :=
  (items.filter fun m => m.1 = key).map (·.2)

/-- The entry in front takes the values of its key, and the other pairs are grouped behind it. -/
theorem foldl_addTo_cons (e : Entry) (entries : List Entry) (items : List (String × Value)) :
    items.foldl (fun entries m => addTo m.1 m.2 entries) (e :: entries) =
      ⟨e.key, e.values ++ valuesOf e.key items⟩ ::
        (items.filter fun m => m.1 ≠ e.key).foldl (fun entries m => addTo m.1 m.2 entries)
          entries := by
  induction items generalizing e entries with
  | nil => simp [valuesOf]
  | cons m rest ih =>
      rw [List.foldl_cons, addTo]
      by_cases hkey : e.key = m.1
      · rw [if_pos hkey, ih]
        simp [valuesOf, hkey]
      · rw [if_neg hkey, ih]
        simp [valuesOf, Ne.symm hkey]

/-- Grouping starts with the entry of the first key. -/
theorem grouped_cons (m : String × Value) (items : List (String × Value)) :
    grouped (m :: items) =
      ⟨m.1, m.2 :: valuesOf m.1 items⟩ :: grouped (items.filter fun n => n.1 ≠ m.1) :=
  foldl_addTo_cons ⟨m.1, [m.2]⟩ [] items

theorem addTo_filter (p : String → Bool) (key : String) (value : Value) (entries : List Entry) :
    (addTo key value entries).filter (fun e => p e.key) =
      if p key then addTo key value (entries.filter fun e => p e.key)
      else entries.filter fun e => p e.key := by
  induction entries with
  | nil => by_cases hp : p key <;> simp [addTo, hp]
  | cons e rest ih =>
      rw [addTo]
      by_cases hkey : e.key = key
      · subst hkey
        by_cases hp : p e.key <;> simp [addTo, hp]
      · rw [if_neg hkey]
        by_cases hp : p e.key <;> by_cases hpk : p key <;> simp [addTo, hp, hpk, hkey, ih]

/-- Grouping some of the keys gives their entries. -/
theorem grouped_filter (p : String → Bool) (items : List (String × Value)) :
    grouped (items.filter fun m => p m.1) = (grouped items).filter fun e => p e.key := by
  have hfold : ∀ entries : List Entry,
      (items.foldl (fun entries m => addTo m.1 m.2 entries) entries).filter (fun e => p e.key) =
        (items.filter fun m => p m.1).foldl (fun entries m => addTo m.1 m.2 entries)
          (entries.filter fun e => p e.key) := by
    induction items with
    | nil => exact fun _ => rfl
    | cons m rest ih =>
        intro entries
        rw [List.foldl_cons, ih, addTo_filter]
        by_cases hp : p m.1 <;> simp [hp]
  exact (hfold []).symm

theorem valuesOf_eq_nil (h : ∀ m ∈ items, m.1 ≠ key) : valuesOf key items = [] := by
  rw [valuesOf, List.filter_eq_nil_iff.2 fun m hm => by simpa using h m hm, List.map_nil]

theorem valuesOf_eq_map (h : ∀ m ∈ items, m.1 = key) : valuesOf key items = items.map (·.2) := by
  rw [valuesOf, List.filter_eq_self.2 fun m hm => by simpa using h m hm]

/-- The values of one key, all of them in one entry. -/
theorem flatMap_grouped_of_key (h : ∀ m ∈ items, m.1 = key) :
    (grouped items).flatMap (·.values) = items.map (·.2) := by
  cases items with
  | nil => rfl
  | cons m rest =>
      obtain ⟨hm, hrest⟩ := List.forall_mem_cons.1 h
      have hnone : (rest.filter fun n => n.1 ≠ m.1) = [] :=
        List.filter_eq_nil_iff.2 fun n hn => by simp [hm, hrest n hn]
      rw [grouped_cons, hnone, valuesOf_eq_map fun n hn => (hrest n hn).trans hm.symm]
      simp [grouped]

/-- The values of two keys, those of the key that comes first in front. -/
theorem flatMap_grouped (hkeys : ∀ m ∈ items, m.1 = first ∨ m.1 = other)
    (hfirst : ∀ m ∈ items.head?, m.1 = first) (hne : first ≠ other) :
    (grouped items).flatMap (·.values) = valuesOf first items ++ valuesOf other items := by
  cases items with
  | nil => rfl
  | cons m rest =>
      obtain rfl : m.1 = first := hfirst m rfl
      obtain ⟨-, hrest⟩ := List.forall_mem_cons.1 hkeys
      have hothers : (rest.filter fun n => n.1 ≠ m.1) = rest.filter fun n => n.1 = other := by
        refine List.filter_congr fun n hn => decide_eq_decide.2 ⟨(hrest n hn).resolve_left, ?_⟩
        rintro rfl
        exact hne.symm
      have hother : ∀ n ∈ rest.filter fun n => n.1 = other, n.1 = other := fun n hn => by
        simpa using (List.mem_filter.1 hn).2
      rw [grouped_cons, List.flatMap_cons, hothers, flatMap_grouped_of_key hother]
      simp [valuesOf, hne]

/-! ## Reading the entries -/

theorem member?_gather (document : List (String × Value)) (key name : String)
    (values : List Value) (single : Value) :
    Value.member? (gather document key values single) name =
      if baseName key = name then
        some (if name ∈ listNames then
          .list (((Value.member? document name).map spread).getD [] ++ values) else single)
      else Value.member? document name := by
  rw [gather]
  by_cases hkey : baseName key = name
  · subst hkey
    by_cases hlist : baseName key ∈ listNames <;> simp [hlist, Value.member?_setMember]
  · by_cases hlist : baseName key ∈ listNames <;> simp [hlist, hkey, Value.member?_setMember]

/-- A member of the document depends only on the entries whose keys belong to it. -/
theorem member?_foldl_gather (name : String) (entries : List Entry)
    {before before' : List (String × Value)}
    (h : Value.member? before name = Value.member? before' name) :
    Value.member? (entries.foldl (fun document e =>
        gather document e.key e.values (e.values.getLastD .null)) before) name =
      Value.member? ((entries.filter fun e => baseName e.key = name).foldl (fun document e =>
        gather document e.key e.values (e.values.getLastD .null)) before') name := by
  induction entries generalizing before before' with
  | nil => exact h
  | cons e rest ih =>
      rw [List.foldl_cons]
      by_cases hkey : baseName e.key = name
      · rw [List.filter_cons_of_pos (by simpa using hkey), List.foldl_cons]
        refine ih ?_
        rw [member?_gather, member?_gather, h]
      · rw [List.filter_cons_of_neg (by simpa using hkey)]
        refine ih ?_
        rw [member?_gather, if_neg hkey, h]

/-- A member of the document depends only on the pairs whose keys belong to it. -/
theorem member?_document_pairs (name : String) (items : List (String × Value)) :
    Value.member? (document (.pairs items)) name =
      Value.member? (document (.pairs (items.filter fun m => baseName m.1 = name))) name := by
  have hgrouped := grouped_filter (fun key => baseName key = name) items
  rw [document, document, hgrouped]
  exact member?_foldl_gather name (grouped items) rfl

/-- A list takes the values of all its entries. -/
theorem member?_foldl_gather_list (hname : name ∈ listNames) {before : List (String × Value)}
    {values : List Value} (hbefore : Value.member? before name = some (.list values))
    (hentries : ∀ e ∈ entries, baseName e.key = name) :
    Value.member? (entries.foldl (fun document e =>
        gather document e.key e.values (e.values.getLastD .null)) before) name =
      some (.list (values ++ entries.flatMap (·.values))) := by
  induction entries generalizing before values with
  | nil => simpa using hbefore
  | cons e rest ih =>
      obtain ⟨he, hrest⟩ := List.forall_mem_cons.1 hentries
      rw [List.foldl_cons, ih ?_ hrest, List.flatMap_cons, List.append_assoc]
      rw [member?_gather, if_pos he, if_pos hname, hbefore]
      rfl

/-- The document of pairs that all belong to one list. -/
theorem member?_document_list (hname : name ∈ listNames) (hne : items ≠ [])
    (hitems : ∀ m ∈ items, baseName m.1 = name) :
    Value.member? (document (.pairs items)) name =
      some (.list ((grouped items).flatMap (·.values))) := by
  have hentries : ∀ e ∈ grouped items, baseName e.key = name := by
    have hself : items.filter (fun m => baseName m.1 = name) = items :=
      List.filter_eq_self.2 fun m hm => by simpa using hitems m hm
    have hgrouped := grouped_filter (fun key => baseName key = name) items
    rw [hself] at hgrouped
    exact fun e he => by simpa using List.filter_eq_self.1 hgrouped.symm e he
  obtain ⟨m, rest, rfl⟩ := List.exists_cons_of_ne_nil hne
  rw [document, grouped_cons] at *
  obtain ⟨hm, hrest⟩ := List.forall_mem_cons.1 hentries
  rw [List.foldl_cons, List.flatMap_cons]
  refine member?_foldl_gather_list hname ?_ hrest
  rw [member?_gather, if_pos hm, if_pos hname]
  rfl

/-! ## Spellings of a key -/

/-- A list has two spellings, with brackets and without. -/
theorem baseName_eq_iff (hname : name ∈ listNames) :
    baseName key = name ↔ key = name ∨ key = name ++ "[]" := by
  have hplain : ∀ name ∈ listNames, baseName name = name := by decide
  constructor
  · intro h
    rw [baseName] at h
    split at h
    · next hsuffix =>
        obtain ⟨front, hfront⟩ := List.isSuffixOf_iff_suffix.1 hsuffix
        rw [← hfront] at h
        refine Or.inr ?_
        rw [← h]
        apply String.toList_injective
        rw [← hfront]
        simp
    · exact Or.inl h
  · rintro (rfl | rfl)
    · exact hplain key hname
    · rw [baseName, if_pos (by simp)]
      simp

end RawQuery

end CollectionQuery
