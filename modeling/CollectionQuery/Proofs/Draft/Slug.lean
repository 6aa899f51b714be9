import CollectionQuery.Proofs.Draft.Refusals
import CollectionQuery.Proofs.Json.Members

/-!
# Payloads without a slug

A payload for a new row that gives no slug gets one as one more member.  Only this member tells its
draft from the draft that the same payload makes with another slug: both or neither are made, and
they set the other columns to the same values.
-/

namespace CollectionQuery

variable {s : Store} {c : Collection} {given other values out members : List (String × Value)}
  {name key source fallback slug : String}

namespace Value

theorem any_setMember (members : List (String × Value)) (name : String) (v : Value) :
    ((setMember members name v).any fun m => m.1 == name) = true := by
  obtain ⟨m, hm, -⟩ := Option.map_eq_some_iff.1 (member?_setMember_self members name v)
  have hname : m.1 = name := by simpa using List.find?_some hm
  exact List.any_eq_true.2 ⟨m, List.mem_of_find?_eq_some hm, beq_iff_eq.2 hname⟩

/-- The last value that a member is set to counts. -/
theorem setMember_setMember (members : List (String × Value)) (name : String) (v w : Value) :
    setMember (setMember members name v) name w = setMember members name w := by
  rw [setMember, if_pos (any_setMember members name v), setMember, setMember]
  split
  · rw [List.map_map]
    refine List.map_congr_left fun m _ => ?_
    by_cases hm : m.1 = name <;> simp [hm]
  · next hnone =>
      rw [Bool.not_eq_true, List.any_eq_false] at hnone
      rw [List.map_append]
      congr 1
      · refine (List.map_congr_left fun m hm => if_neg (hnone m hm)).trans (List.map_id _)
      · simp

end Value

namespace Payload

/-! ## Members that differ in one text -/

/-- Two objects that differ in the text of one member. -/
def AlikeBut (name : String) (given other : List (String × Value)) : Prop :=
  List.Forall₂ (fun m n => m = n ∨ ∃ a b, m = (name, .text a) ∧ n = (name, .text b)) given other

theorem alikeBut_setMember (members : List (String × Value)) (name a b : String) :
    AlikeBut name (Value.setMember members name (.text a))
      (Value.setMember members name (.text b)) := by
  rw [AlikeBut, Value.setMember, Value.setMember]
  split
  · rw [List.forall₂_map_left_iff, List.forall₂_map_right_iff, List.forall₂_same]
    intro m _
    split
    · exact Or.inr ⟨a, b, rfl, rfl⟩
    · exact Or.inl rfl
  · refine List.rel_append ?_ (.cons ?_ .nil)
    · exact List.forall₂_same.2 fun m _ => Or.inl rfl
    · exact Or.inr ⟨a, b, rfl, rfl⟩

theorem AlikeBut.map_fst (h : AlikeBut name given other) :
    given.map (·.1) = other.map (·.1) := by
  refine h.map_eq_map ?_
  rintro m n (rfl | ⟨a, b, rfl, rfl⟩) <;> rfl

theorem AlikeBut.member?_of_ne (h : AlikeBut name given other) (hkey : key ≠ name) :
    Value.member? given key = Value.member? other key := by
  induction h with
  | nil => rfl
  | @cons m n _ _ hm _ ih =>
      rcases hm with rfl | ⟨a, b, rfl, rfl⟩
      · rw [Value.member?_cons, Value.member?_cons, ih]
      · rw [Value.member?_cons, Value.member?_cons, if_neg hkey.symm, if_neg hkey.symm, ih]

/-- A text in a column of texts is left as it is. -/
theorem readMember_of_text {column : Column} {length : Option Nat}
    (hkind : column.kind = .text length) (text : String) :
    readMember column (.text text) = .ok (.text text) := by
  rw [readMember_of_isNull rfl]
  obtain ⟨name, kind, nullable, unique, default⟩ := column
  obtain rfl : kind = .text length := hkind
  rfl

/-- The members of a new row are ready to be stored if a request may set them all, each can be read,
and none is missing that the row cannot do without. -/
theorem sanitize_new_iff : sanitize c false (.object given) = .ok values ↔
    (∀ name ∈ given.map (·.1), name ∈ (c.columns.map (·.name)).filter c.isSettable) ∧
      readMembers c given = .ok values ∧ ∀ name ∈ requiredNames c, name ∈ values.map (·.1) := by
  have hknown : (∀ name ∈ given.map (·.1), name ∈ (c.columns.map (·.name)).filter c.isSettable) ↔
      given.filter (fun m => m.1 ∉ (c.columns.map (·.name)).filter c.isSettable) = [] := by
    rw [List.filter_eq_nil_iff, List.forall_mem_map]
    simp only [decide_eq_true_eq, not_not]
  have hmissing (read : List (String × Value)) : (∀ name ∈ requiredNames c, name ∈ read.map (·.1)) ↔
      (requiredNames c).filter (fun name => name ∉ read.map (·.1)) = [] := by
    rw [List.filter_eq_nil_iff]
    simp only [decide_eq_true_eq, not_not]
  rw [hknown, hmissing]
  constructor
  · intro h
    obtain ⟨_, hgiven, h⟩ := bind_eq_ok.1 h
    cases hgiven
    dsimp only at h
    split at h
    · next hnone =>
        obtain ⟨read, hread, h⟩ := bind_eq_ok.1 h
        rw [if_neg Bool.false_ne_true] at h
        split at h
        · next hall =>
            cases h
            exact ⟨hnone, hread, hall⟩
        · cases h
    · cases h
  · rintro ⟨hnone, hread, hall⟩
    refine bind_eq_ok.2 ⟨given, rfl, ?_⟩
    dsimp only
    rw [hnone]
    refine bind_eq_ok.2 ⟨values, hread, ?_⟩
    rw [if_neg Bool.false_ne_true, hall]
    rfl

section

variable (htext : ∀ column ∈ c.columns, column.name = name → ∃ length, column.kind = .text length)
include htext

theorem readMembers_alikeBut (h : AlikeBut name given other)
    (hread : readMembers c given = .ok values) :
    ∃ read, readMembers c other = .ok read ∧ AlikeBut name values read := by
  induction h generalizing values with
  | nil =>
      cases hread
      exact ⟨[], rfl, .nil⟩
  | @cons m n _ _ hm _ ih =>
      obtain ⟨first, v⟩ := m
      rw [readMembers] at hread
      split at hread
      · next column hcolumn =>
          obtain ⟨w, hw, hread⟩ := bind_eq_ok.1 hread
          obtain ⟨more, hmore, hread⟩ := bind_eq_ok.1 hread
          cases hread
          obtain ⟨read, hmore', halike⟩ := ih hmore
          rcases hm with rfl | ⟨a, b, heq, rfl⟩
          · refine ⟨(first, w) :: read, ?_, .cons (Or.inl rfl) halike⟩
            rw [readMembers, hcolumn]
            exact bind_eq_ok.2 ⟨w, hw, bind_eq_ok.2 ⟨read, hmore', rfl⟩⟩
          · cases heq
            have hname : column.name = name := by simpa using List.find?_some hcolumn
            obtain ⟨length, hkind⟩ := htext column (List.mem_of_find?_eq_some hcolumn) hname
            rw [readMember_of_text hkind] at hw
            cases hw
            refine ⟨(name, .text b) :: read, ?_, .cons (Or.inr ⟨a, b, rfl, rfl⟩) halike⟩
            rw [readMembers, hcolumn]
            exact bind_eq_ok.2 ⟨_, readMember_of_text hkind b, bind_eq_ok.2 ⟨read, hmore', rfl⟩⟩
      · cases hread

/-- Whether members are ready to be stored in a new row does not depend on the text of one that
stands in a column of texts. -/
theorem sanitize_alikeBut (h : AlikeBut name given other)
    (hvalues : sanitize c false (.object given) = .ok values) :
    ∃ read, sanitize c false (.object other) = .ok read ∧ AlikeBut name values read := by
  rw [sanitize_new_iff, h.map_fst] at hvalues
  obtain ⟨hknown, hread, hrequired⟩ := hvalues
  obtain ⟨read, hother, halike⟩ := readMembers_alikeBut htext h hread
  rw [halike.map_fst] at hrequired
  exact ⟨read, sanitize_new_iff.2 ⟨hknown, hother, hrequired⟩, halike⟩

end

end Payload

namespace Draft

variable {d : Draft}

/-- The collections with slugs made from another column have a column of texts for them. -/
theorem kind_of_slug (hsource : slugSource? c = some (source, fallback)) :
    ∀ column ∈ c.columns, column.name = "slug" → ∃ length, column.kind = .text length := by
  cases c with
  | users => cases hsource
  | _ =>
      intro column hcolumn hname
      simp [Collection.columns, Collection.ownColumns, systemColumns, Collection.shortText,
        Collection.flag] at hcolumn
      aesop

theorem slug_mem_columns (hsource : slugSource? c = some (source, fallback)) :
    "slug" ∈ c.columns.map (·.name) := by
  cases c with
  | users => cases hsource
  | _ => decide

theorem fallback_undashed (hsource : slugSource? c = some (source, fallback)) :
    fallback.toList.getLast? ≠ some '-' := by
  cases c <;> simp [slugSource?] at hsource <;> obtain ⟨-, rfl⟩ := hsource <;> decide

/-- A payload without a slug gets the one that is found for its source. -/
theorem withSlug_eq (hsource : slugSource? c = some (source, fallback)) (hs : s.present = true)
    (hnone : givesSlug members = false) : withSlug s c members =
      match Slug.unique? (storedSlugs s c)
          (Slug.ofValue ((Value.member? members source).getD .null) fallback) with
      | some slug => .ok (Value.setMember members "slug" (.text slug))
      | none => Payload.refuse .noSlug := by
  rw [withSlug, hsource]
  dsimp only
  rw [if_neg (by simp [hnone]), freshSlug, Store.checkTables, if_pos hs]
  cases Slug.unique? (storedSlugs s c)
      (Slug.ofValue ((Value.member? members source).getD .null) fallback) <;> rfl

/-- Members with a slug of their own keep it, or get another one in its place. -/
theorem withSlug_setMember (hsource : slugSource? c = some (source, fallback))
    (h : withSlug s c (Value.setMember members "slug" (.text slug)) = .ok out) :
    ∃ other, out = Value.setMember members "slug" (.text other) := by
  rw [withSlug, hsource] at h
  dsimp only at h
  split at h
  · cases h
    exact ⟨slug, rfl⟩
  · obtain ⟨other, -, h⟩ := bind_eq_ok.1 h
    cases h
    exact ⟨other, Value.setMember_setMember members "slug" _ _⟩

theorem ofPayload_new_iff (hsource : slugSource? c = some (source, fallback)) :
    ofPayload s c false (.object members) = .ok d ↔ ∃ out values, withSlug s c members = .ok out ∧
      Payload.sanitize c false (.object out) = .ok values ∧ d = { values } := by
  have hsteps : ofPayload s c false (.object members) = (do
      let out ← withSlug s c members
      pure { values := ← Payload.sanitize c false (.object out) }) := by
    unfold ofPayload
    split
    · cases hsource
    · simp only [Payload.members, Payload.checkNames, bind, Except.bind, Bool.false_eq_true,
        if_false]
  rw [hsteps, bind_eq_ok]
  simp only [bind_eq_ok, pure_eq_ok]
  constructor
  · rintro ⟨out, hout, values, hvalues, rfl⟩
    exact ⟨out, values, hout, hvalues, rfl⟩
  · rintro ⟨out, values, hout, hvalues, rfl⟩
    exact ⟨out, hout, values, hvalues, rfl⟩

/-- A draft with a slug sets the column of slugs to it. -/
theorem member?_slug (hsource : slugSource? c = some (source, fallback))
    (hslug : withSlug s c members = .ok (Value.setMember members "slug" (.text slug)))
    (h : ofPayload s c false (.object members) = .ok d) :
    Value.member? d.values "slug" = some (.text slug) := by
  obtain ⟨out, values, hout, hvalues, rfl⟩ := (ofPayload_new_iff hsource).1 h
  cases hslug.symm.trans hout
  obtain ⟨column, hcolumn, hname, v, hread, hv⟩ :=
    member?_sanitize hvalues (Value.member?_setMember_self members "slug" (.text slug))
  obtain ⟨length, hkind⟩ := kind_of_slug hsource column hcolumn hname
  rw [Payload.readMember_of_text hkind] at hread
  cases hread
  exact hv

/-- If some slug would make a draft, then so does the slug that is found, and the drafts differ in
nothing else. -/
theorem ofPayload_of_setMember (hsource : slugSource? c = some (source, fallback)) {other : String}
    (hslug : withSlug s c members = .ok (Value.setMember members "slug" (.text slug)))
    (h : ofPayload s c false (.object (Value.setMember members "slug" (.text other))) = .ok d) :
    ∃ e, ofPayload s c false (.object members) = .ok e ∧
      Payload.AlikeBut "slug" d.values e.values ∧ e.passwordHash = d.passwordHash := by
  obtain ⟨out, values, hout, hvalues, rfl⟩ := (ofPayload_new_iff hsource).1 h
  obtain ⟨other, rfl⟩ := withSlug_setMember hsource hout
  obtain ⟨read, hread, halike⟩ := Payload.sanitize_alikeBut (kind_of_slug hsource)
    (Payload.alikeBut_setMember members "slug" other slug) hvalues
  exact ⟨⟨read, none⟩, (ofPayload_new_iff hsource).2 ⟨_, read, hslug, hread, rfl⟩, halike, rfl⟩

end Draft

end CollectionQuery
