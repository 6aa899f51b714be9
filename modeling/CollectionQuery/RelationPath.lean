import CollectionQuery.FieldPath
import CollectionQuery.Outcome

/-!
# Relation paths

The relations that a query asks for, each once and in the order of their depth, so that a relation
stands in front of those that are reached through it.  Paths of the same depth keep their order.
-/

namespace CollectionQuery

open CollectionQuery.Text

/-- A list without the entries that were there before. -/
def firstOccurrences {α : Type} [DecidableEq α] : List α → List α
  | [] => []
  | a :: rest => a :: (firstOccurrences rest).filter (· ≠ a)

/-- Texts in the order of their code points. -/
def sortTexts (texts : List String) : List String := texts.mergeSort fun a b => decide (a ≤ b)

namespace RelationPath

/-- Paths without blanks around them, each once, those with fewer dots first. -/
def normalize (paths : List String) : Except Failure (List String) :=
  let named := (paths.map strip).filter (· ≠ "")
  match named.find? fun path => !FieldPath.isPath path with
  | some path => .error (.rejected (.relationPath path))
  | none => .ok ((firstOccurrences named).mergeSort fun a b =>
      decide (FieldPath.depth a ≤ FieldPath.depth b))

/-- The relations that a query asks for: all that the collection has, or those it names. -/
def requested (paths : List String) (all : Bool) (known : Option (List String)) :
    Outcome (List String) :=
  if all then
    match known with
    | some names => pure (sortTexts names)
    | none => do
      Outcome.record .relationsUnknown
      pure []
  else .ofExcept (normalize paths)

end RelationPath

end CollectionQuery
