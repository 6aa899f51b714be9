import CollectionQuery.Value.Text

/-!
# Faults of a document

A document that does not fit its schema is refused with all faults of its fields, each with the
place where it stands.
-/

namespace CollectionQuery

open CollectionQuery.Text

/-- What is wrong at one place of a document. -/
inductive SchemaFault.Cause where
  /-- The text is no integer. -/
  | integerText
  /-- The text or number is too long for an integer. -/
  | integerSize
  /-- The number has a fractional part. -/
  | integerFraction
  /-- The value is no integer. -/
  | integerKind
  /-- The number is an infinity or nan. -/
  | finite
  /-- The number is less than 1. -/
  | belowOne
  /-- The value stands for no truth value. -/
  | boolText
  /-- The value is no truth value. -/
  | boolKind
  /-- The value is no text. -/
  | textKind
  /-- The text has half a surrogate pair. -/
  | textUnpaired
  /-- The value is no list. -/
  | listKind
  /-- The text is no number. -/
  | numberText
  /-- The field is missing. -/
  | required
  /-- The connective is neither `and` nor `or`. -/
  | connective
  /-- The value is no group of conditions. -/
  | groupKind
  /-- The value is no condition. -/
  | conditionKind
  /-- The field is not named by a path. -/
  | fieldPath
  /-- The text is no JSON document. -/
  | filterJson
  /-- More groups stand inside each other than any setting allows. -/
  | groupNesting
  /-- The groups of a filter are nested too deep. -/
  | nesting (most : Int)
  /-- A page is longer than allowed. -/
  | pageLimit (most : Int)

/-- A fault and the place where it stands, outermost name first. -/
structure SchemaFault where
  /-- The names and indices on the way to the place. -/
  place : List String
  /-- What is wrong there. -/
  cause : SchemaFault.Cause

namespace SchemaFault

/-- The wording of a limit on nesting. -/
def nestingMessage (most : Int) : String :=
  "filter nesting exceeds " ++ Value.intText most ++ " levels"

/-- The wording of a cause. -/
def Cause.message : Cause → String
  | .integerText => "Input should be a valid integer, unable to parse string as an integer"
  | .integerSize => "Unable to parse input string as an integer, exceeded maximum size"
  | .integerFraction => "Input should be a valid integer, got a number with a fractional part"
  | .integerKind => "Input should be a valid integer"
  | .finite => "Input should be a finite number"
  | .belowOne => "Input should be greater than or equal to 1"
  | .boolText => "Input should be a valid boolean, unable to interpret input"
  | .boolKind => "Input should be a valid boolean"
  | .textKind => "Input should be a valid string"
  | .textUnpaired =>
    "Input should be a valid string, unable to parse raw data as a unicode string"
  | .listKind => "Input should be a valid list"
  | .numberText => "Input should be a valid number, unable to parse string as a number"
  | .required => "Field required"
  | .connective => "Input should be 'and' or 'or'"
  | .groupKind => "Input should be a valid dictionary or instance of FilterGroup"
  | .conditionKind => "Input should be a valid dictionary or instance of FilterCondition"
  | .fieldPath => "Value error, field must be an identifier or a dotted relation path"
  | .filterJson => "Value error, filter must be a JSON object"
  | .groupNesting => "Recursion error - cyclic reference detected"
  | .nesting most => "Value error, " ++ nestingMessage most
  | .pageLimit most => "Value error, limit must be less than or equal to " ++ Value.intText most

/-- A fault with its place in front. -/
def message (f : SchemaFault) : String :=
  if f.place.isEmpty then f.cause.message
  else joinWith "." f.place ++ ": " ++ f.cause.message

/-- All faults of a document. -/
def messages (faults : List SchemaFault) : String := joinWith "; " (faults.map message)

/-- The fault one step further out. -/
def within (name : String) (f : SchemaFault) : SchemaFault := { f with place := name :: f.place }

end SchemaFault

/-- What a document gives, or all its faults. -/
abbrev Checked (α : Type) := Except (List SchemaFault) α

namespace Checked

/-- A single fault at this place. -/
def fault {α : Type} (cause : SchemaFault.Cause) : Checked α := .error [⟨[], cause⟩]

/-- The result of a part, its faults moved one step further out. -/
def within {α : Type} (name : String) (c : Checked α) : Checked α :=
  c.mapError fun faults => faults.map (SchemaFault.within name)

/-- Two parts together, the faults of both. -/
def both {α β : Type} : Checked α → Checked β → Checked (α × β)
  | .ok a, .ok b => .ok (a, b)
  | .ok _, .error f => .error f
  | .error f, .ok _ => .error f
  | .error f, .error g => .error (f ++ g)

/-- A part in front of a list of parts. -/
def cons {α : Type} (first : Checked α) (rest : Checked (List α)) : Checked (List α) :=
  (both first rest).map fun r => r.1 :: r.2

end Checked

end CollectionQuery
