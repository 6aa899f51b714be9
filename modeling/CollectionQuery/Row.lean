import CollectionQuery.Cell
import CollectionQuery.Failure
import CollectionQuery.Schema

/-!
# Rows

A row has an identifier and a cell for every column; the identifier is also the cell of the column
`id`.  A row is read back column by column, which fails in a column of identifiers that holds a
number.

People who manage the collections see all rows.  Everyone else sees the rows that have the values of
a public scope.
-/

namespace CollectionQuery

/-- A row of a collection. -/
structure Row where
  /-- The identifier. -/
  id : Uuid
  /-- The cell of a column. -/
  cell : String → Cell
deriving Inhabited

/-- A row with the cell of one column replaced. -/
def Row.set (row : Row) (name : String) (c : Cell) : Row :=
  { row with cell := fun other => if other = name then c else row.cell other }

/-- A row with its visible columns alone. -/
def Row.shown (c : Collection) (row : Row) : Row :=
  { row with cell := fun name =>
      if (c.visibleColumn? name).isSome then row.cell name else .null }

/-- Why a column cannot read a cell back: a column of identifiers finds a number. -/
def ColumnKind.misread? : ColumnKind → Cell → Option Fault
  | .uuid, .int _ => some (.misread false)
  | .uuid, .real _ => some (.misread true)
  | _, _ => none

/-- Why a row cannot be read back, if only the named columns are read. -/
def Row.misread? (c : Collection) (names : List String) (row : Row) : Option Fault :=
  c.columns.findSome? fun column =>
    if column.name ∈ names then column.kind.misread? (row.cell column.name) else none

/-- Refuses a row that cannot be read back. -/
def Row.checkRead (c : Collection) (row : Row) : Except Failure Unit :=
  match row.misread? c (c.columns.map (·.name)) with
  | some f => .error (.fault f)
  | none => .ok ()

/-! ## What a reader may see -/

/-- Who reads. -/
inductive Audience where
  /-- People who manage the collections and see all rows. -/
  | staff
  /-- Everyone; only the public scopes are seen. -/
  | everyone
deriving DecidableEq, Inhabited

namespace Audience

/-- Whether a collection is seen at all. -/
def sees : Audience → Collection → Bool
  | staff, _ => true
  | everyone, c => c.isPublic

/-- The values that a row has to have to be seen. -/
def scope : Audience → Collection → List (String × Bool)
  | staff, _ => []
  | everyone, c => c.publicScope.getD []

/-- Whether a row has the values of its scope. -/
def inScope (a : Audience) (c : Collection) (row : Row) : Bool :=
  (a.scope c).all fun wanted => row.cell wanted.1 = .bool wanted.2

/-- The relation of a name, if what it leads to is seen. -/
def relation? (a : Audience) (c : Collection) (name : String) : Option Relation :=
  (c.relation? name).filter fun r => a.sees r.target

/-- The names of the relations that lead to what is seen. -/
def relationNames (a : Audience) (c : Collection) : List String :=
  (c.relations.filter fun r => a.sees r.target).map (·.name)

end Audience

end CollectionQuery
