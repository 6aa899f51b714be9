import CollectionQuery.Engine

/-!
# The store

The rows of every collection, in the order in which they were added, and the storage engine that
keeps them.

A relation leads from a row to the rows whose key agrees: to one row by its identifier, or to many
rows that hold the identifier of this row.
-/

namespace CollectionQuery

/-- The rows of all collections and what keeps them. -/
structure Store where
  /-- The rows of a collection. -/
  rows : Collection → List Row
  /-- Whether the tables are there. -/
  present : Bool := true
  engine : Engine

namespace Store

/-- The store without rows. -/
def empty (engine : Engine := .lenient) : Store := { rows := fun _ => [], engine }

/-- The store without tables. -/
def dropped (s : Store) : Store := { s with rows := fun _ => [], present := false }

/-- The tables with their visible columns alone. -/
def shownTables (s : Store) : Tables := fun c => (s.rows c).map (Row.shown c)

/-- Refuses everything if there are no tables. -/
def checkTables (s : Store) : Except Failure Unit :=
  if s.present then .ok () else .error (.fault .noTables)

/-- The row of an identifier. -/
def find? (s : Store) (c : Collection) (id : Uuid) : Option Row :=
  (s.rows c).find? fun row => row.id == id

def onRows (s : Store) (c : Collection) (change : List Row → List Row) : Store :=
  { s with rows := fun other => if other = c then change (s.rows c) else s.rows other }

/-- A store with one more row. -/
def insert (s : Store) (c : Collection) (row : Row) : Store := s.onRows c (· ++ [row])

/-- A store in which the row of an identifier is replaced. -/
def replace (s : Store) (c : Collection) (id : Uuid) (row : Row) : Store :=
  s.onRows c fun rows => rows.map fun other => if other.id = id then row else other

/-- A store without the row of an identifier. -/
def erase (s : Store) (c : Collection) (id : Uuid) : Store :=
  s.onRows c fun rows => rows.filter fun row => row.id != id

/-- The rows that a relation leads to from a row. -/
def related (s : Store) (r : Relation) (row : Row) : List Row :=
  if r.many then (s.rows r.target).filter fun other => other.cell r.key = .uuid row.id
  else match row.cell r.key with
    | .uuid id => (s.rows r.target).filter fun other => other.id = id
    | _ => []

end Store

end CollectionQuery
