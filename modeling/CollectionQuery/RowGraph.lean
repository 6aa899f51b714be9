import CollectionQuery.Store
import CollectionQuery.Value.Plain

/-!
# Graphs of loaded rows

Rows that were loaded, each with the columns and the relations that were loaded of it.  Relations
may lead in circles.

A row is shown as an object of its loaded columns, hidden ones left out, and of its loaded
relations.  A row that is already being shown, further out, is not shown again inside: a relation to
one row is left out then, and a relation to many rows leaves out that row.
-/

namespace CollectionQuery

/-- What identifies a row among all collections. -/
structure RowKey where
  collection : Collection
  /-- The identifier. -/
  id : Uuid
deriving DecidableEq

/-- The rows that a loaded relation leads to. -/
inductive Links where
  /-- One row, or none. -/
  | one (target : Option RowKey)
  | many (targets : List RowKey)

/-- A loaded row. -/
structure LoadedRow where
  key : RowKey
  /-- The loaded columns. -/
  columns : List (String × Cell)
  /-- The loaded relations. -/
  relations : List (String × Links)

namespace LoadedRow

/-- The columns as they are shown. -/
def shownColumns (row : LoadedRow) : List (String × Value) :=
  (row.columns.filter fun c => c.1 ∉ row.key.collection.hiddenFields).map fun c =>
    (c.1, c.2.toValue.plain)

end LoadedRow

/-- Loaded rows. -/
abbrev RowGraph := List LoadedRow

namespace RowGraph

def row? (g : RowGraph) (key : RowKey) : Option LoadedRow :=
  List.find? (fun row => row.key == key) g

/-- A row with all that is shown inside it.  `path` holds the rows that are being shown further out;
`fuel` bounds the number of rows inside each other, of which there are at most as many as rows. -/
def displayAt (g : RowGraph) : (fuel : Nat) → (path : List RowKey) → RowKey → Value
  | 0, _, _ => .null
  | fuel + 1, path, key =>
    match g.row? key with
    | none => .null
    | some row =>
      .object (row.shownColumns ++ row.relations.filterMap fun r =>
        match r.2 with
        | .one none => some (r.1, .null)
        | .one (some target) =>
          if target ∈ key :: path then none
          else some (r.1, displayAt g fuel (key :: path) target)
        | .many targets =>
          some (r.1, .list ((targets.filter fun t => t ∉ key :: path).map
            (displayAt g fuel (key :: path)))))

/-- A row with all that is shown inside it. -/
def display (g : RowGraph) (key : RowKey) : Value := g.displayAt g.length [] key

end RowGraph

end CollectionQuery
