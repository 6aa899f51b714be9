import CollectionQuery.Clause
import CollectionQuery.Row
import CollectionQuery.SortKey

/-!
# The storage engine

The storage engine runs statements that count the rows of a collection which meet a condition, or
read some of them.  What a statement says fixes the rows, but not how far the engine evaluates the
condition on each row and in which order, nor in which order it hands out the rows that a relation
leads to.  Both are left to the engine.

A pattern of more than `Text.patternLimit` bytes cannot be evaluated.  An engine that comes to one
refuses the statement, and it refuses no other statement.
-/

namespace CollectionQuery

/-- A column to sort by. -/
structure SortColumn where
  /-- The relations on the way to it. -/
  relations : List Relation
  /-- The name of the column. -/
  column : String
  direction : Direction

/-- What a statement does with the rows that meet its condition. -/
inductive Engine.Task where
  | count
  /-- It reads columns of some of the rows, in the order of several columns. -/
  | page (order : List SortColumn) (columns : List String) (skip take : Int)

/-- A statement that the storage engine runs. -/
structure Engine.Statement where
  /-- Who reads: a related row counts only in the scope of the reader. -/
  audience : Audience
  collection : Collection
  condition : Clause Cell
  task : Engine.Task

/-- The rows of all collections. -/
abbrev Tables := Collection → List Row

/-- What is left to the storage engine.  It may depend on all visible columns of the tables. -/
structure Engine where
  /-- Whether the engine refuses a statement. -/
  refuses : Tables → Engine.Statement → Bool
  /-- It refuses only statements with a pattern that is too long. -/
  overlong_of_refuses : ∀ {tables : Tables} {statement : Engine.Statement},
    refuses tables statement = true → statement.condition.isOverlong = true
  /-- Whether the row of one identifier is handed out before that of another, if a relation leads to
  both. -/
  precedes : Tables → Audience → Relation → Uuid → Uuid → Bool

namespace Engine

/-- The order of identifiers by their numbers. -/
def byNumber : Tables → Audience → Relation → Uuid → Uuid → Bool :=
  fun _ _ _ x y => decide (x.value ≤ y.value)

/-- The engine that never comes to a pattern. -/
def lenient : Engine where
  refuses _ _ := false
  overlong_of_refuses := nofun
  precedes := byNumber

end Engine

end CollectionQuery
