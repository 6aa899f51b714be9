import CollectionQuery.Store

/-!
# The order of rows

Rows are ordered by several columns, each of the row itself or of a row that a chain of relations to
one row leads to.  Where the chain breaks off, or leads out of the scope of the reader, the cell is
null.  Rows that agree in all these columns are in the order of their identifiers, so no two rows of
a collection have the same place.
-/

namespace CollectionQuery

namespace SortColumn

/-- The column of a sort key, for the relations that are left on the way from a collection.  Only
relations to one row lead to a column, and hidden columns are unknown. -/
def ofKeyAt (a : Audience) (key : SortKey) (passed : List Relation) :
    Collection → List String → Except Failure SortColumn
  | c, [] =>
    match c.visibleColumn? key.field with
    | some column => .ok ⟨passed, column.name, key.direction⟩
    | none => .error (.misfit (.sortField key.path))
  | c, name :: rest =>
    match a.relation? c name with
    | none => .error (.misfit (.relation name key.path))
    | some r =>
      if r.many then .error (.misfit (.sortRelation name))
      else ofKeyAt a key (passed ++ [r]) r.target rest

def ofKey (a : Audience) (c : Collection) (key : SortKey) : Except Failure SortColumn :=
  ofKeyAt a key [] c key.relations

/-- The row at the end of a chain of relations, if it is there and in scope all along. -/
def follow (s : Store) (a : Audience) : List Relation → Row → Option Row
  | [], row => some row
  | r :: rest, row =>
    ((s.related r row).find? (a.inScope r.target)).bind (follow s a rest)

/-- The cell that a row is sorted by. -/
def cell (s : Store) (a : Audience) (k : SortColumn) (row : Row) : Cell :=
  match follow s a k.relations row with
  | some last => last.cell k.column
  | none => .null

/-- The order of two rows by one column. -/
def compare (s : Store) (a : Audience) (k : SortColumn) (x y : Row) : Ordering :=
  let order := (k.cell s a x).compare (k.cell s a y)
  match k.direction with
  | .ascending => order
  | .descending => order.swap

end SortColumn

/-- The order of two rows by several columns, and then by their identifiers. -/
def compareRows (s : Store) (a : Audience) : List SortColumn → Row → Row → Ordering
  | [], x, y => Ord.compare x.id.value y.id.value
  | k :: rest, x, y => (k.compare s a x y).then (compareRows s a rest x y)

/-- Rows in the order of several columns. -/
def sortRows (s : Store) (a : Audience) (order : List SortColumn) (rows : List Row) : List Row :=
  rows.mergeSort fun x y => compareRows s a order x y != .gt

end CollectionQuery
