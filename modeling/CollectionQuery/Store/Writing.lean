import CollectionQuery.Cell.Binding
import CollectionQuery.Draft

/-!
# Writing rows

A row is written as a whole or not at all.  Values are stored as their columns store them; of
several values that cannot be stored, one of the wrong type is reported first.  A row has to have a
cell in every column that may not be null, and no other row of the collection may have the same cell
in a unique column or the same identifier.

Changing a row writes the columns whose value is not what the row holds already, and if there is
one, the time of the change.  Removing a row takes its identifier out of the rows that point to it,
or fails if they cannot do without.
-/

namespace CollectionQuery

open CollectionQuery.Calendar

/-- When an operation happens and the identifier that a new row gets. -/
structure Occasion where
  now : DateTime
  /-- An identifier that no row has yet. -/
  freshId : Uuid
  /-- The digits of the identifier write no number.  Those of about one in a million of the
  identifiers that are drawn at random do. -/
  legible : freshId.isLegible = true

namespace Store

/-! ## Cells -/

/-- What a column is to be set to. -/
inductive Assignment where
  /-- A value, stored as the column stores it. -/
  | value (v : Value)
  | cell (c : Cell)

/-- The cell that a column is set to. -/
def Assignment.bind (kind : ColumnKind) : Assignment → Except BindFault Cell
  | value v => kind.bind v
  | cell c => .ok c

/-- Whether setting a column to a value of the wrong type would be the fault. -/
def Assignment.isMistyped (column : Column) (a : Assignment) : Bool :=
  match a.bind column.kind with
  | .error .mistyped => true
  | _ => false

/-- The cells that columns are set to. -/
def bindEach : List (Column × Assignment) → Except Failure (List (String × Cell))
  | [] => .ok []
  | (column, a) :: rest =>
    match a.bind column.kind with
    | .ok c => return (column.name, c) :: (← bindEach rest)
    | .error cause => .error (.fault cause.fault)

/-- Refuses values of the wrong type, which happens before the storage engine sees any value. -/
def checkTypes (assignments : List (Column × Assignment)) : Except Failure Unit :=
  if assignments.any fun item => item.2.isMistyped item.1 then .error (.fault .columnType)
  else .ok ()

/-- A row with several cells replaced. -/
def setAll (cells : List (String × Cell)) (row : Row) : Row :=
  cells.foldl (fun row c => row.set c.1 c.2) row

/-! ## Constraints -/

/-- Whether a row has a cell in every column that may not be null. -/
def isComplete (c : Collection) (row : Row) : Bool :=
  c.columns.all fun column => column.nullable || !(row.cell column.name).isNull

/-- Whether two rows have the same cell in no unique column. -/
def areDistinct (c : Collection) (x y : Row) : Bool :=
  c.columns.all fun column =>
    !column.unique || (x.cell column.name).isNull || x.cell column.name != y.cell column.name

/-- Whether a row may stand beside other rows. -/
def fits (c : Collection) (others : List Row) (row : Row) : Bool :=
  isComplete c row && others.all fun other => areDistinct c row other

/-! ## Statements -/

/-- What a column of a new row is set to. -/
def initial (occasion : Occasion) (d : Draft) (column : Column) : Assignment :=
  match d.values.find? fun v => v.1 == column.name with
  | some v => .value v.2
  | none =>
    if column.name = "password_hash" then .cell ((d.passwordHash.map .hash).getD .null)
    else match column.default with
      | .none => .value .null
      | .fixed v => .value v
      | .freshId => .cell (.ofUuid occasion.freshId)
      | .now => .cell (.moment occasion.now)

/-- Adds a new row. -/
def addRow (s : Store) (occasion : Occasion) (c : Collection) (d : Draft) :
    Except Failure (Store × Row) := do
  let assignments := c.columns.map fun column => (column, initial occasion d column)
  checkTypes assignments
  s.checkTables
  let cells ← bindEach assignments
  let row := setAll cells { id := occasion.freshId, cell := fun _ => .null }
  if (s.find? c row.id).isNone && fits c (s.rows c) row then pure (s.insert c row, row)
  else throw (.refused .constraint)

/-- What a draft changes in a row. -/
def changes (c : Collection) (d : Draft) (row : Row) : List (Column × Assignment) :=
  c.columns.filterMap fun column =>
    match d.values.find? fun v => v.1 == column.name with
    | some v => if (row.cell column.name).holds v.2 then none else some (column, .value v.2)
    | none =>
      if column.name = "password_hash" then
        d.passwordHash.map fun h => (column, .cell (.hash h))
      else none

/-- Changes a row. -/
def changeRow (s : Store) (occasion : Occasion) (c : Collection) (d : Draft) (row : Row) :
    Except Failure (Store × Row) := do
  let changed := changes c d row
  if changed.isEmpty then pure (s, row)
  else
    checkTypes changed
    let cells ← bindEach changed
    let next := (setAll cells row).set "updated_at" (.moment occasion.now)
    let others := (s.rows c).filter fun other => other.id != row.id
    if fits c others next then pure (s.replace c row.id next, next)
    else throw (.refused .constraint)

/-- Takes the identifier of a row out of the rows that a relation leads to. -/
def release (occasion : Occasion) (row : Row) (s : Store) (r : Relation) : Except Failure Store :=
  let points (other : Row) : Bool := other.cell r.key == .uuid row.id
  if !r.many || !(s.rows r.target).any points then .ok s
  else if ((r.target.column? r.key).map (·.nullable)).getD false then
    .ok (s.onRows r.target fun rows => rows.map fun other =>
      if points other then (other.set r.key .null).set "updated_at" (.moment occasion.now)
      else other)
  else .error (.refused .referenced)

/-- Removes a row. -/
def removeRow (s : Store) (occasion : Occasion) (c : Collection) (row : Row) :
    Except Failure Store := do
  let s ← c.relations.foldlM (release occasion row) s
  pure (s.erase c row.id)

/-! ## Transactions -/

/-- Runs a change of the store: if it fails, the store stays as it was. -/
def transact {α : Type} (s : Store) (change : Except Failure (Store × α)) :
    Store × Except Failure α :=
  match change with
  | .ok (next, a) => (next, .ok a)
  | .error f => (s, .error f)

end Store

end CollectionQuery
