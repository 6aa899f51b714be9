import CollectionQuery.RowGraph
import CollectionQuery.RelationPath

/-!
# Loading rows with their relations

The rows of a page are loaded with some columns, and every path of relations is followed from them.
A row that a path leads to is loaded with all columns, also if it is a row of the page.  What was
loaded of a row at several places comes together in one loaded row.
-/

namespace CollectionQuery

namespace LoadedRow

/-- A row with what was loaded of it at another place. -/
def add (row other : LoadedRow) : LoadedRow :=
  { row with
    columns := row.columns ++ other.columns.filter fun c => c.1 ∉ row.columns.map (·.1)
    relations := row.relations ++ other.relations.filter fun r => r.1 ∉ row.relations.map (·.1) }

/-- A row loaded with some of its columns. -/
def ofColumns (c : Collection) (names : List String) (row : Row) : LoadedRow :=
  { key := ⟨c, row.id⟩, columns := names.map fun name => (name, row.cell name), relations := [] }

/-- A row loaded with all its columns. -/
def full (c : Collection) (row : Row) : LoadedRow := ofColumns c (c.columns.map (·.name)) row

end LoadedRow

namespace RowGraph

/-- A graph with one more row, or with more of a row that it has. -/
def add (g : RowGraph) (row : LoadedRow) : RowGraph :=
  if g.any fun other => other.key = row.key then
    g.map fun other => if other.key = row.key then other.add row else other
  else g ++ [row]

/-- The rows that a relation leads to in the scope of a reader, in the order in which the storage
engine hands them out. -/
def targets (s : Store) (a : Audience) (r : Relation) (row : Row) : List Row :=
  ((s.related r row).filter (a.inScope r.target)).mergeSort fun x y =>
    s.engine.precedes s.shownTables a r x.id y.id

def links (r : Relation) (rows : List Row) : Links :=
  let keys := rows.map fun row => (⟨r.target, row.id⟩ : RowKey)
  if r.many then .many keys else .one keys.head?

/-- What is loaded when a path of relations is followed from rows of a collection. -/
def alongPath (s : Store) (a : Audience) : Collection → List Row → List Relation → List LoadedRow
  | _, _, [] => []
  | c, rows, r :: rest =>
    let reached := rows.flatMap (targets s a r)
    let hop (row : Row) : LoadedRow :=
      { key := ⟨c, row.id⟩, columns := [], relations := [(r.name, links r (targets s a r row))] }
    rows.map hop ++ reached.map (LoadedRow.full r.target) ++ alongPath s a r.target reached rest

/-- The graph of rows of a collection, loaded with some columns and along paths of relations. -/
def load (s : Store) (a : Audience) (c : Collection) (rows : List Row) (columns : List String)
    (paths : List (List Relation)) : RowGraph :=
  (rows.map (LoadedRow.ofColumns c columns) ++ paths.flatMap (alongPath s a c rows)).foldl add []

end RowGraph

end CollectionQuery
