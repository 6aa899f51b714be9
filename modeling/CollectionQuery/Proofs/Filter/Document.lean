import CollectionQuery.Filter
import CollectionQuery.Proofs.FieldPath
import CollectionQuery.Proofs.Json.Members
import CollectionQuery.Proofs.Lists
import CollectionQuery.Proofs.Outcome
import Mathlib.Data.List.Forall2

/-!
# Filters as documents

A group is an object with its connective, its conditions and its subgroups, in any order.  What has
its default value may be left out.  The value of a condition has at most three levels of lists and
objects.

Such a document has at most two levels for each level of groups and four more.  Reading it gives the
group back, but for the order of the members of objects in values, exactly if there is room for all
the groups inside each other.
-/

namespace CollectionQuery

open CollectionQuery.Text

/-! ## Equality but for the order of members -/

/-- Whether two values are the same but for the order of the members of objects. -/
inductive Value.Reordered : Value → Value → Prop
  | refl (v : Value) : Reordered v v
  | list {xs ys : List Value} (items : List.Forall₂ Reordered xs ys) :
      Reordered (.list xs) (.list ys)
  | object {xs ys zs : List (AnyText × Value)} (names : xs.map Prod.fst = ys.map Prod.fst)
      (values : List.Forall₂ Reordered (xs.map Prod.snd) (ys.map Prod.snd))
      (order : ys.Perm zs) : Reordered (.ofMembers xs) (.ofMembers zs)

/-- Whether a document writes a value.  The members of an object may stand in any order, each name
once. -/
inductive Value.IsDocument : Value → Json → Prop
  | null : IsDocument .null .null
  | bool (b : Bool) : IsDocument (.bool b) (.bool b)
  | int (n : Int) : IsDocument (.int n) (.int n)
  | float (x : Number.Binary64) : IsDocument (.float x) (.float x)
  | text (s : AnyText) : IsDocument (.ofText s) (.text s)
  | list {vs : List Value} {js : List Json} (items : List.Forall₂ IsDocument vs js) :
      IsDocument (.list vs) (.list js)
  | object {xs ys : List (AnyText × Value)} {members : List (AnyText × Json)}
      (nodup : (members.map Prod.fst).Nodup) (names : members.map Prod.fst = xs.map Prod.fst)
      (values : List.Forall₂ IsDocument (xs.map Prod.snd) (members.map Prod.snd))
      (order : xs.Perm ys) : IsDocument (.ofMembers ys) (.object members)

theorem Value.reordered_of_items {vs : List Value} {js : List Json}
    (items : List.Forall₂ Value.IsDocument vs js)
    (h : ∀ j ∈ js, ∀ v, v.IsDocument j → j.toValue.Reordered v) :
    List.Forall₂ Value.Reordered (js.map Json.toValue) vs := by
  induction items with
  | nil => exact .nil
  | cons hv _ ih =>
      obtain ⟨hfirst, hothers⟩ := List.forall_mem_cons.1 h
      exact .cons (hfirst _ hv) (ih hothers)

/-- A document denotes the value that it writes, but for the order of members. -/
theorem Value.IsDocument.reordered {v : Value} {j : Json} (h : v.IsDocument j) :
    j.toValue.Reordered v := by
  cases h with
  | null => exact .refl .null
  | bool b => exact .refl (.bool b)
  | int n => exact .refl (.int n)
  | float x => exact .refl (.float x)
  | text s => exact .refl (.ofText s)
  | list items =>
      rw [Json.toValue, Json.itemsToValues_eq]
      exact .list (reordered_of_items items fun j hj v hv => hv.reordered)
  | object nodup names values order =>
      rw [Json.toValue_object nodup]
      have hvalues := reordered_of_items values fun j hj v hv => hv.reordered
      refine .object ?_ ?_ order
      · rw [List.map_map]
        exact names
      · rw [List.map_map] at hvalues ⊢
        exact hvalues
termination_by sizeOf j
decreasing_by
  · have hitem := List.sizeOf_lt_of_mem hj
    simp only [Json.list.sizeOf_spec]
    omega
  · obtain ⟨⟨name, j⟩, hm, rfl⟩ := List.mem_map.1 hj
    have hmember := List.sizeOf_lt_of_mem hm
    simp only [Prod.mk.sizeOf_spec, Json.object.sizeOf_spec] at hmember ⊢
    omega

/-- Whether two conditions are the same but for the order of members in their values. -/
structure FilterCondition.Reordered (x y : FilterCondition) : Prop where
  field : y.field = x.field
  operator : y.operator = x.operator
  value : y.value.Reordered x.value

mutual

/-- Whether two groups are the same but for the order of members in the values of conditions. -/
def FilterGroup.Reordered : FilterGroup → FilterGroup → Prop
  | .mk connective conditions groups, g => ∃ others inside, g = .mk connective others inside ∧
      List.Forall₂ FilterCondition.Reordered conditions others ∧ AllReordered groups inside

def FilterGroup.AllReordered : List FilterGroup → List FilterGroup → Prop
  | [], gs => gs = []
  | g :: rest, gs => ∃ h others, gs = h :: others ∧ FilterGroup.Reordered g h ∧
      AllReordered rest others

end

mutual

theorem FilterGroup.Reordered.depth_eq {g h : FilterGroup} (hgh : g.Reordered h) :
    h.depth = g.depth := by
  match g with
  | .mk connective conditions groups =>
      obtain ⟨others, inside, rfl, -, hinside⟩ := hgh
      rw [FilterGroup.depth, FilterGroup.depth, FilterGroup.AllReordered.depth_eq hinside]

theorem FilterGroup.AllReordered.depth_eq {gs hs : List FilterGroup}
    (h : FilterGroup.AllReordered gs hs) :
    FilterGroup.depthOfGroups hs = FilterGroup.depthOfGroups gs := by
  match gs with
  | [] =>
      obtain rfl := h
      rfl
  | g :: rest =>
      obtain ⟨first, others, rfl, hfirst, hothers⟩ := h
      rw [FilterGroup.depthOfGroups, FilterGroup.depthOfGroups,
        FilterGroup.Reordered.depth_eq hfirst, FilterGroup.AllReordered.depth_eq hothers]

end

/-! ## Documents of filters -/

/-- A member of an object that may be left out if it has its default value. -/
def Json.HasMember (members : List (String × Json)) (name : String) (written : Json → Prop)
    (isDefault : Prop) : Prop :=
  (∃ j, (name, j) ∈ members ∧ written j) ∨ (name ∉ members.map (·.1) ∧ isDefault)

/-- The members of the object of a condition. -/
structure FilterCondition.Members (cond : FilterCondition) (members : List (String × Json)) :
    Prop where
  nodup : (members.map (·.1)).Nodup
  known : ∀ m ∈ members, m.1 ∈ ["field", "operator", "value"]
  field : ("field", .text (.whole cond.field)) ∈ members
  operator : ("operator", .text cond.operator) ∈ members
  value : Json.HasMember members "value"
    (fun j => j.depth ≤ 3 ∧ cond.value.IsDocument j) (cond.value = .null)

/-- Whether a document writes a condition.  The field is a path, and the operator has no blanks
around it. -/
def FilterCondition.IsDocument (cond : FilterCondition) (j : Json) : Prop :=
  FieldPath.isPath cond.field = true ∧ cond.operator.strip = cond.operator ∧
    ∃ members, j = .record members ∧ cond.Members members

/-- The members of the object of a group. -/
structure FilterGroup.Members (connective : Connective) (conditions groups : List Json)
    (members : List (String × Json)) : Prop where
  nodup : (members.map (·.1)).Nodup
  known : ∀ m ∈ members, m.1 ∈ ["operator", "conditions", "groups"]
  operator : Json.HasMember members "operator" (· = .text (.whole connective.name))
    (connective = .and)
  conditions : Json.HasMember members "conditions" (· = .list conditions) (conditions = [])
  groups : Json.HasMember members "groups" (· = .list groups) (groups = [])

mutual

/-- Whether a document writes a group. -/
def FilterGroup.IsDocument : FilterGroup → Json → Prop
  | .mk connective conditions groups, j => ∃ members cs gs, j = .record members ∧
      FilterGroup.Members connective cs gs members ∧
      List.Forall₂ FilterCondition.IsDocument conditions cs ∧ AreDocuments groups gs

/-- Whether documents write groups, one by one. -/
def FilterGroup.AreDocuments : List FilterGroup → List Json → Prop
  | [], js => js = []
  | g :: rest, js => ∃ j more, js = j :: more ∧ FilterGroup.IsDocument g j ∧ AreDocuments rest more

end

/-! ## The depth of the document of a filter -/

/-- A member is what is written under its name. -/
theorem Json.HasMember.written_of_mem {members : List (String × Json)} {name : String}
    {written : Json → Prop} {isDefault : Prop} (h : HasMember members name written isDefault)
    (hnodup : (members.map (·.1)).Nodup) {j : Json} (hmem : (name, j) ∈ members) : written j := by
  rcases h with ⟨j', hj', hwritten⟩ | ⟨hnone, -⟩
  · exact Json.member_unique hnodup hmem hj' ▸ hwritten
  · exact absurd (List.mem_map.2 ⟨_, hmem, rfl⟩) hnone

theorem FilterCondition.IsDocument.depth_le {cond : FilterCondition} {j : Json}
    (h : cond.IsDocument j) : j.depth ≤ 4 := by
  obtain ⟨-, -, members, rfl, hmembers⟩ := h
  refine Json.depth_record_le fun m hm => ?_
  obtain ⟨name, j⟩ := m
  have hname := hmembers.known _ hm
  simp only [List.mem_cons, List.not_mem_nil, or_false] at hname
  rcases hname with rfl | rfl | rfl
  · rw [Json.member_unique hmembers.nodup hm hmembers.field]
    exact Nat.zero_le 3
  · rw [Json.member_unique hmembers.nodup hm hmembers.operator]
    exact Nat.zero_le 3
  · exact (hmembers.value.written_of_mem hmembers.nodup hm).1

mutual

/-- Each level of groups takes two levels, and the conditions of the last one four more. -/
theorem FilterGroup.IsDocument.depth_le {g : FilterGroup} {j : Json} (h : g.IsDocument j) :
    j.depth ≤ 2 * g.depth + 4 := by
  match g with
  | .mk connective conditions groups =>
      obtain ⟨members, cs, gs, rfl, hmembers, hcs, hgs⟩ := h
      have hgroups := FilterGroup.AreDocuments.depth_le hgs
      have hconditions : Json.depthOfItems cs ≤ 4 := Json.depthOfItems_le fun j hj => by
        obtain ⟨cond, -, hcond⟩ := hcs.exists_of_mem_right j hj
        exact hcond.depth_le
      rw [FilterGroup.depth]
      suffices hinside : (Json.record members).depth ≤
          2 * FilterGroup.depthOfGroups groups + 5 + 1 by
        omega
      refine Json.depth_record_le fun m hm => ?_
      obtain ⟨name, j⟩ := m
      have hname := hmembers.known _ hm
      simp only [List.mem_cons, List.not_mem_nil, or_false] at hname
      rcases hname with rfl | rfl | rfl
      · rw [hmembers.operator.written_of_mem hmembers.nodup hm]
        exact Nat.zero_le _
      · rw [hmembers.conditions.written_of_mem hmembers.nodup hm, Json.depth]
        omega
      · rw [hmembers.groups.written_of_mem hmembers.nodup hm, Json.depth]
        omega

theorem FilterGroup.AreDocuments.depth_le {gs : List FilterGroup} {js : List Json}
    (h : FilterGroup.AreDocuments gs js) :
    Json.depthOfItems js ≤ 2 * FilterGroup.depthOfGroups gs + 4 := by
  match gs with
  | [] =>
      obtain rfl := h
      exact Nat.zero_le _
  | g :: rest =>
      obtain ⟨j, more, rfl, hj, hmore⟩ := h
      have hfirst := FilterGroup.IsDocument.depth_le hj
      have hothers := FilterGroup.AreDocuments.depth_le hmore
      rw [Json.depthOfItems, FilterGroup.depthOfGroups]
      omega

end

/-! ## Reading a condition -/

/-- What is looked up in the object that a document denotes. -/
theorem Json.HasMember.member? {members : List (String × Json)} {name : String}
    {written : Json → Prop} {isDefault : Prop} (h : HasMember members name written isDefault)
    (hnodup : (members.map (·.1)).Nodup) :
    (∃ j, Value.member? (members.map fun m => (m.1, m.2.toValue)) name = some j.toValue ∧
        written j) ∨
      (Value.member? (members.map fun m => (m.1, m.2.toValue)) name = none ∧ isDefault) := by
  rcases h with ⟨j, hj, hwritten⟩ | ⟨hnone, hdefault⟩
  · exact Or.inl ⟨j, Json.member?_map hnodup hj, hwritten⟩
  · exact Or.inr ⟨Json.member?_map_none hnone, hdefault⟩

theorem FilterCondition.readField_path {path : String} (h : FieldPath.isPath path = true) :
    FilterCondition.readField (.text path) = .ok path := by
  rw [readField]
  refine bind_eq_ok.2 ⟨path, rfl, ?_⟩
  rw [FieldPath.strip_eq_self h]
  exact if_pos h

/-- A condition is read back from its document. -/
theorem FilterCondition.IsDocument.ofValue {cond : FilterCondition} {j : Json}
    (h : cond.IsDocument j) :
    ∃ other, FilterCondition.ofValue j.toValue = .ok other ∧ cond.Reordered other := by
  obtain ⟨hpath, hstrip, members, rfl, hmembers⟩ := h
  obtain ⟨v, hvalue, hv⟩ : ∃ v : Value,
      (Value.member? (members.map fun m => (m.1, m.2.toValue)) "value").getD .null = v ∧
        v.Reordered cond.value := by
    rcases hmembers.value.member? hmembers.nodup with ⟨j, hj, -, hwritten⟩ | ⟨hnone, hnull⟩
    · exact ⟨j.toValue, by rw [hj]; rfl, hwritten.reordered⟩
    · exact ⟨.null, by rw [hnone]; rfl, hnull ▸ .refl .null⟩
  have hfield : Checked.required (members.map fun m => (m.1, m.2.toValue)) "field"
      FilterCondition.readField = .ok cond.field := by
    rw [Checked.required, Json.member?_map hmembers.nodup hmembers.field, Json.toValue,
      Option.elim_some, Value.ofText_whole, readField_path hpath]
    rfl
  have hoperator : Checked.required (members.map fun m => (m.1, m.2.toValue)) "operator"
      (fun v => .ok v.anyText.strip) = .ok cond.operator := by
    rw [Checked.required, Json.member?_map hmembers.nodup hmembers.operator, Json.toValue,
      Option.elim_some, Value.anyText_ofText, hstrip]
    rfl
  refine ⟨⟨cond.field, cond.operator, v⟩, ?_, rfl, rfl, hv⟩
  rw [Json.toValue_record hmembers.nodup, FilterCondition.ofValue]
  dsimp only [Value.members?]
  rw [hfield, hoperator, hvalue]
  rfl

/-- Conditions are read back from a list of their documents. -/
theorem FilterCondition.ofItems_documents {conditions : List FilterCondition} {js : List Json}
    (h : List.Forall₂ FilterCondition.IsDocument conditions js) (index : Nat) :
    ∃ others, FilterCondition.ofItems index (js.map Json.toValue) = .ok others ∧
      List.Forall₂ FilterCondition.Reordered conditions others := by
  induction h generalizing index with
  | nil => exact ⟨[], rfl, .nil⟩
  | cons hcond _ ih =>
      obtain ⟨first, hfirst, hsame⟩ := hcond.ofValue
      obtain ⟨others, hothers, hall⟩ := ih (index + 1)
      refine ⟨first :: others, ?_, .cons hsame hall⟩
      rw [List.map_cons, FilterCondition.ofItems, hfirst, hothers]
      rfl

/-! ## Reading a group -/

/-- The parts of a group by what is looked up under their names. -/
theorem FilterGroup.partsOf_eq (inner : Value → Checked FilterGroup)
    (members : List (String × Value)) :
    FilterGroup.partsOf inner members = {
      connective := ((Value.member? members "operator").map fun v =>
        Checked.within "operator" (Connective.ofValue v)).getD (.ok .and)
      conditions := ((Value.member? members "conditions").map fun v =>
        Checked.within "conditions" (FilterCondition.listOfValue v)).getD (.ok [])
      groups := ((Value.member? members "groups").map fun v =>
        Checked.within "groups" (FilterGroup.readList inner v)).getD (.ok []) } := by
  induction members with
  | nil => rfl
  | cons m rest ih =>
      obtain ⟨name, v⟩ := m
      rw [FilterGroup.partsOf, ih]
      simp only [Value.member?_cons]
      by_cases hoperator : name = "operator"
      · subst hoperator
        rfl
      by_cases hconditions : name = "conditions"
      · subst hconditions
        rfl
      by_cases hgroups : name = "groups"
      · subst hgroups
        rfl
      rw [if_neg hoperator, if_neg hconditions, if_neg hgroups, if_neg hoperator,
        if_neg hconditions, if_neg hgroups]

theorem Connective.ofValue_name (connective : Connective) :
    Connective.ofValue (.text connective.name) = .ok connective := by
  cases connective <;> rfl

/-- Whether reading gives what it should if there is room enough, and a fault otherwise. -/
def Checked.Reads {α : Type} (enough : Prop) (x : Checked α) (wanted : α → Prop) : Prop :=
  (enough → ∃ a, x = .ok a ∧ wanted a) ∧ (¬ enough → ∃ f, x = .error f)

namespace Checked.Reads

variable {α β : Type} {p q : Prop} {x : Checked α} {y : Checked β} {P : α → Prop} {Q : β → Prop}

theorem of_ok {a : α} (hx : x = .ok a) (ha : P a) : Reads True x P :=
  ⟨fun _ => ⟨a, hx, ha⟩, fun h => absurd trivial h⟩

theorem congr (h : Reads p x P) (hpq : p ↔ q) : Reads q x P :=
  ⟨fun hq => h.1 (hpq.2 hq), fun hq => h.2 (mt hpq.1 hq)⟩

theorem within (h : Reads p x P) (name : String) : Reads p (Checked.within name x) P := by
  refine ⟨fun hp => ?_, fun hp => ?_⟩
  · obtain ⟨a, rfl, ha⟩ := h.1 hp
    exact ⟨a, rfl, ha⟩
  · obtain ⟨f, rfl⟩ := h.2 hp
    exact ⟨_, rfl⟩

theorem map (h : Reads p x P) {f : α → β} (hf : ∀ a, P a → Q (f a)) : Reads p (x.map f) Q := by
  refine ⟨fun hp => ?_, fun hp => ?_⟩
  · obtain ⟨a, rfl, ha⟩ := h.1 hp
    exact ⟨f a, rfl, hf a ha⟩
  · obtain ⟨e, rfl⟩ := h.2 hp
    exact ⟨e, rfl⟩

theorem bind (hx : Reads p x P) {f : α → Checked β} (hf : ∀ a, P a → Reads q (f a) Q) :
    Reads (p ∧ q) (x >>= f) Q := by
  by_cases hp : p
  · obtain ⟨a, rfl, ha⟩ := hx.1 hp
    exact (hf a ha).congr (and_iff_right hp).symm
  · obtain ⟨e, rfl⟩ := hx.2 hp
    exact ⟨fun hpq => absurd hpq.1 hp, fun _ => ⟨e, rfl⟩⟩

theorem both (hx : Reads p x P) (hy : Reads q y Q) :
    Reads (p ∧ q) (Checked.both x y) fun r => P r.1 ∧ Q r.2 := by
  refine ⟨fun hpq => ?_, fun hpq => ?_⟩
  · obtain ⟨a, rfl, ha⟩ := hx.1 hpq.1
    obtain ⟨b, rfl, hb⟩ := hy.1 hpq.2
    exact ⟨(a, b), rfl, ha, hb⟩
  · by_cases hp : p
    · obtain ⟨a, rfl, -⟩ := hx.1 hp
      obtain ⟨f, rfl⟩ := hy.2 fun hq => hpq ⟨hp, hq⟩
      exact ⟨f, rfl⟩
    · obtain ⟨f, rfl⟩ := hx.2 hp
      cases y with
      | ok b => exact ⟨f, rfl⟩
      | error g => exact ⟨f ++ g, rfl⟩

end Checked.Reads

/-- A member is read if it is there, and has its default otherwise. -/
theorem Json.HasMember.reads {α : Type} {members : List (String × Json)} {name : String}
    {j : Json} {isDefault p : Prop} {wanted : α → Prop} (read : Value → Checked α) (default : α)
    (h : HasMember members name (· = j) isDefault) (hnodup : (members.map (·.1)).Nodup)
    (hread : Checked.Reads p (read j.toValue) wanted) (hdefault : isDefault → p ∧ wanted default) :
    Checked.Reads p (((Value.member? (members.map fun m => (m.1, m.2.toValue)) name).map fun v =>
      Checked.within name (read v)).getD (.ok default)) wanted := by
  rcases h.member? hnodup with ⟨_, hmember, rfl⟩ | ⟨hnone, hisDefault⟩
  · rw [hmember]
    exact hread.within name
  · obtain ⟨hp, hwanted⟩ := hdefault hisDefault
    rw [hnone]
    exact (Checked.Reads.of_ok rfl hwanted).congr (iff_of_true trivial hp)

theorem FilterCondition.listOfValue_documents {conditions : List FilterCondition}
    {js : List Json} (h : List.Forall₂ FilterCondition.IsDocument conditions js) :
    Checked.Reads True (FilterCondition.listOfValue (Json.list js).toValue)
      (List.Forall₂ FilterCondition.Reordered conditions) := by
  obtain ⟨others, hothers, hall⟩ := FilterCondition.ofItems_documents h 0
  rw [Json.toValue, Json.itemsToValues_eq, FilterCondition.listOfValue]
  exact .of_ok hothers hall

theorem FilterGroup.AreDocuments.eq_nil {groups : List FilterGroup}
    (h : FilterGroup.AreDocuments groups []) : groups = [] := by
  cases groups with
  | nil => rfl
  | cons g rest =>
      obtain ⟨_, _, hcons, -⟩ := h
      cases hcons

mutual

/-- A group is read back from its document if there is room for it. -/
theorem FilterGroup.IsDocument.read {g : FilterGroup} {j : Json} (h : g.IsDocument j)
    (room : Nat) :
    Checked.Reads (g.depth ≤ room) (FilterGroup.read room j.toValue) g.Reordered := by
  match g, room with
  | .mk connective conditions groups, 0 =>
      refine ⟨fun hdepth => absurd hdepth (Nat.not_succ_le_zero _), fun _ => ?_⟩
      rw [FilterGroup.read]
      exact ⟨_, rfl⟩
  | .mk connective conditions groups, room + 1 =>
      obtain ⟨members, cs, gs, rfl, hmembers, hcs, hgs⟩ := h
      have hconnective := hmembers.operator.reads Connective.ofValue .and hmembers.nodup
        (.of_ok (P := (· = connective)) (Connective.ofValue_name connective) rfl)
        fun hand => ⟨trivial, hand.symm⟩
      have hconditions := hmembers.conditions.reads FilterCondition.listOfValue [] hmembers.nodup
        (FilterCondition.listOfValue_documents hcs) fun hnil => ⟨trivial, by
          subst hnil
          cases hcs
          exact .nil⟩
      have hinside := FilterGroup.AreDocuments.read hgs room 0
      rw [← Json.itemsToValues_eq] at hinside
      have hgroups := hmembers.groups.reads (FilterGroup.readList (FilterGroup.read room)) []
        hmembers.nodup hinside fun hnil => by
        subst hnil
        obtain rfl := FilterGroup.AreDocuments.eq_nil hgs
        exact ⟨Nat.zero_le room, rfl⟩
      have hall := hconnective.both (hconditions.both hgroups)
      rw [Json.toValue_record hmembers.nodup, FilterGroup.read, FilterGroup.depth]
      dsimp only [Value.members?]
      rw [FilterGroup.partsOf_eq]
      refine (hall.map ?_).congr ?_
      · rintro ⟨_, others, inside⟩ ⟨rfl, hothers, hinside⟩
        exact ⟨others, inside, rfl, hothers, hinside⟩
      · rw [true_and, true_and, Nat.succ_le_succ_iff]

/-- Groups are read back from a list of their documents if there is room for all of them. -/
theorem FilterGroup.AreDocuments.read {gs : List FilterGroup} {js : List Json}
    (h : FilterGroup.AreDocuments gs js) (room index : Nat) :
    Checked.Reads (FilterGroup.depthOfGroups gs ≤ room)
      (FilterGroup.readItems (FilterGroup.read room) index (js.map Json.toValue))
      (FilterGroup.AllReordered gs) := by
  match gs with
  | [] =>
      obtain rfl := h
      exact ⟨fun _ => ⟨[], rfl, rfl⟩, fun hroom => absurd (Nat.zero_le room) hroom⟩
  | g :: rest =>
      obtain ⟨j, more, rfl, hj, hmore⟩ := h
      have hfirst := FilterGroup.IsDocument.read hj room
      have hothers := FilterGroup.AreDocuments.read hmore room (index + 1)
      have hboth := (hfirst.within (Value.intText index)).both hothers
      rw [List.map_cons, FilterGroup.readItems, Checked.cons, FilterGroup.depthOfGroups]
      refine (hboth.map ?_).congr Nat.max_le.symm
      rintro ⟨first, others⟩ ⟨hfirst, hothers⟩
      exact ⟨first, others, rfl, hfirst, hothers⟩

end

end CollectionQuery
