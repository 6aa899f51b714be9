import CollectionQuery.FieldPath
import CollectionQuery.SchemaFault
import CollectionQuery.Text.LetterCase
import CollectionQuery.Text.Blank

/-!
# Filters

A filter is a tree of groups.  A group joins its conditions and its subgroups by `and` or `or`.  A
condition names a field, an operator and a value; whether the operator exists and whether the value
has its shape is not decided here.

`FilterGroup.read` reads a group from a document and reports all faults of it.  Members that a
group or a condition does not have are ignored.  A group that is too deep inside others is a fault.
-/

namespace CollectionQuery

open CollectionQuery.Text

/-- How a group joins its members. -/
inductive Connective where
  /-- All of them. -/
  | and
  /-- One of them. -/
  | or
deriving DecidableEq, Inhabited

def Connective.name : Connective → String
  | .and => "and"
  | .or => "or"

/-- A condition of a filter. -/
structure FilterCondition where
  /-- The path of the field. -/
  field : String
  /-- The name of the operator. -/
  operator : AnyText
  value : Value
deriving Inhabited

/-- A group of conditions and groups. -/
inductive FilterGroup where
  | mk (connective : Connective) (conditions : List FilterCondition) (groups : List FilterGroup)
deriving Inhabited

namespace FilterGroup

/-- How the group joins its members. -/
def connective : FilterGroup → Connective
  | mk c _ _ => c

/-- The conditions of the group itself. -/
def conditions : FilterGroup → List FilterCondition
  | mk _ cs _ => cs

/-- The groups inside the group. -/
def groups : FilterGroup → List FilterGroup
  | mk _ _ gs => gs

mutual

/-- The number of levels of groups, this one included. -/
def depth : FilterGroup → Nat
  | mk _ _ gs => depthOfGroups gs + 1

/-- The greatest number of levels of several groups. -/
def depthOfGroups : List FilterGroup → Nat
  | [] => 0
  | g :: rest => max (depth g) (depthOfGroups rest)

end

end FilterGroup

/-! ## Reading -/

/-- A text.  Whatever one with half a surrogate pair is taken for, no name has the replacement
character that is shown for it. -/
def Checked.text : Value → Checked String
  | .text s => .ok s
  | .unpaired t => .ok t.shown
  | _ => .fault .textKind

/-- The field of a condition: a path, blanks around it left out. -/
def FilterCondition.readField (v : Value) : Checked String := do
  let path := strip (← Checked.text v)
  if FieldPath.isPath path then pure path else .fault .fieldPath

/-- The member of an object, read and placed under its name. -/
def Checked.required {α : Type} (members : List (String × Value)) (name : String)
    (read : Value → Checked α) : Checked α :=
  Checked.within name ((Value.member? members name).elim (.fault .required) read)

def FilterCondition.ofValue (v : Value) : Checked FilterCondition :=
  match v.members? with
  | some members => do
    let (field, operator) ← Checked.both
      (Checked.required members "field" readField)
      (Checked.required members "operator" fun v => .ok v.anyText.strip)
    pure ⟨field, operator, (Value.member? members "value").getD .null⟩
  | none => .fault .conditionKind

/-- The conditions of a list, numbered from `index`. -/
def FilterCondition.ofItems : (index : Nat) → List Value → Checked (List FilterCondition)
  | _, [] => .ok []
  | index, v :: rest =>
    Checked.cons (Checked.within (Value.intText index) (ofValue v)) (ofItems (index + 1) rest)

/-- The conditions of a group. -/
def FilterCondition.listOfValue : Value → Checked (List FilterCondition)
  | .list items => ofItems 0 items
  | .tuple items => ofItems 0 items
  | _ => .fault .listKind

/-- A connective; letters may be of either case, and null means `and`. -/
def Connective.ofValue : Value → Checked Connective
  | .null => .ok .and
  | .unpaired _ => .fault .textUnpaired
  | v =>
    let name := lower (strip v.toText)
    if name = "and" then .ok .and
    else if name = "or" then .ok .or
    else .fault .connective

/-- The members of a group as far as they are read; a missing one has its default. -/
structure GroupParts where
  /-- How the group joins its members. -/
  connective : Checked Connective := .ok .and
  conditions : Checked (List FilterCondition) := .ok []
  /-- The groups inside. -/
  groups : Checked (List FilterGroup) := .ok []

/-- The group of its parts, or the faults of all parts. -/
def GroupParts.group (p : GroupParts) : Checked FilterGroup :=
  (Checked.both p.connective (Checked.both p.conditions p.groups)).map fun r =>
    .mk r.1 r.2.1 r.2.2

section

variable (inner : Value → Checked FilterGroup)

/-- The groups of a list, numbered from `index`. -/
def FilterGroup.readItems : (index : Nat) → List Value → Checked (List FilterGroup)
  | _, [] => .ok []
  | index, v :: rest =>
    Checked.cons (Checked.within (Value.intText index) (inner v)) (readItems (index + 1) rest)

/-- The groups inside a group. -/
def FilterGroup.readList : Value → Checked (List FilterGroup)
  | .list items => readItems inner 0 items
  | .tuple items => readItems inner 0 items
  | _ => .fault .listKind

/-- The parts of a group that an object gives; `inner` reads the groups inside. -/
def FilterGroup.partsOf : List (String × Value) → GroupParts
  | [] => {}
  | (name, v) :: rest =>
    let parts := partsOf rest
    if name = "operator" then
      { parts with connective := Checked.within name (Connective.ofValue v) }
    else if name = "conditions" then
      { parts with conditions := Checked.within name (FilterCondition.listOfValue v) }
    else if name = "groups" then
      { parts with groups := Checked.within name (readList inner v) }
    else parts

end

/-- A group; `room` says how many groups may still stand inside each other, this one included. -/
def FilterGroup.read : (room : Nat) → Value → Checked FilterGroup
  | 0, _ => .fault .groupNesting
  | room + 1, v => match v.members? with
    | some members => (FilterGroup.partsOf (FilterGroup.read room) members).group
    | none => .fault .groupKind

/-- An optional group: null is none. -/
def FilterGroup.read? (room : Nat) (v : Value) : Checked (Option FilterGroup) :=
  if v.isNull then .ok none else (FilterGroup.read room v).map some

end CollectionQuery
