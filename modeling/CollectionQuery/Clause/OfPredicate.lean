import CollectionQuery.Clause
import CollectionQuery.Coercion
import CollectionQuery.FieldPath
import CollectionQuery.Predicate
import CollectionQuery.Row

/-!
# The clause of a predicate

Every comparison of a predicate is read against the columns that the reader sees: a name that is not
among them is unknown, and so is a relation to what the reader does not see.  Values take the type
of their column, except where a text is matched.

A column of dates with times that is compared for equality with a date alone is compared with the
whole day.  The first comparison that does not fit, from left to right, decides the failure.
-/

namespace CollectionQuery

open CollectionQuery.Text CollectionQuery.Calendar

namespace Comparison

/-- The test of a relation by order.  Null and truth values have no place in it. -/
def orderTest (kind : ColumnKind) (accepts : Ordering → Bool) :
    Value → Except Failure (CellTest Operand)
  | .null => .error (.fault .comparison)
  | .bool _ => .error (.fault .comparison)
  | v => .ok (.relates accepts (.single kind v))

/-- The pattern of texts that contain another pattern. -/
def around (pattern : List Char) : List Char := '%' :: pattern ++ ['%']

/-- The test of a pattern that is made from the text of a value. -/
def matchTest (kind : ColumnKind) (fold : Bool) (escape : Option Char)
    (shape : List Char → List Char) : Value → CellTest Operand
  | .unpaired t => .matchingHalf fold escape (.single kind (.unpaired t))
  | v => .matching fold escape (shape v.toText.toList)

/-- The test of an operator with a value that has the type of the column. -/
def test (kind : ColumnKind) (op : Operator) (v : Value) : Except Failure (CellTest Operand) :=
  match op, v with
  | .eq, .null => .ok .isNull
  | .eq, v => .ok (.relates (· == .eq) (.single kind v))
  | .ne, .null => .ok .notNull
  | .ne, v => .ok (.relates (· != .eq) (.single kind v))
  | .gt, v => orderTest kind (· == .gt) v
  | .gte, v => orderTest kind (· != .lt) v
  | .lt, v => orderTest kind (· == .lt) v
  | .lte, v => orderTest kind (· != .gt) v
  | .oneOf, v => .ok (.oneOf (Operand.list kind v.elements))
  | .noneOf, v => .ok (.noneOf (Operand.list kind v.elements))
  | .between, v =>
    let bounds := v.elements
    .ok (.between (.single kind (bounds.headD .null)) (.single kind (bounds.tail.headD .null)))
  | .isNull, _ => .ok .isNull
  | .notNull, _ => .ok .notNull
  | .like, v => .ok (matchTest kind false none around v)
  | .ilike, v => .ok (matchTest kind true none around v)
  | .startsWith, v =>
    .ok (matchTest kind false (some patternEscape) (escapeWildcards · ++ ['%']) v)
  | .endsWith, v => .ok (matchTest kind false (some patternEscape) ('%' :: escapeWildcards ·) v)
  | .contains, v =>
    .ok (matchTest kind true (some patternEscape) (fun text => around (escapeWildcards text)) v)

/-- The value of a comparison in the type of its column. -/
def coerced (column : Column) (op : Operator) (v : Value) : Except Failure Value :=
  if !op.coerces then .ok v
  else match op.arity with
    | .list => return .tuple (← v.elements.mapM (column.kind.coerce column.name))
    | .pair => return .tuple (← v.elements.mapM (column.kind.coerce column.name))
    | _ => column.kind.coerce column.name v

/-- The day that a comparison for equality asks for, if it asks for one. -/
def asksDay (column : Column) (op : Operator) (v : Value) : Bool :=
  (op == .eq || op == .ne) && column.kind.isMoment && v.isDateOnly

/-- The test of a whole day. -/
def dayTest (column : Column) (op : Operator) (v : Value) : Except Failure (CellTest Operand) := do
  match ← column.kind.coerce column.name v with
  | .moment start =>
    match start.wall.shift? microsPerDay with
    | some next =>
      let begins := Operand.single column.kind (.moment start)
      let ends := Operand.single column.kind (.moment ⟨next, start.offset⟩)
      pure (if op = .eq then .onDay begins ends else .offDay begins ends)
    | none => .error (.fault .dateRange)
  | _ => .error (.fault .comparison)

/-- The test of a comparison with a column; `path` is how the query names the column. -/
def columnTest (column : Column) (path : String) (op : Operator) (v : Value) :
    Except Failure (CellTest Operand) :=
  if !op.coerces && !column.kind.isText then .error (.misfit (.textOperator op path))
  else if asksDay column op v then dayTest column op v
  else do test column.kind op (← coerced column op v)

/-- The clause of a comparison on the rows of a collection, for the names of a path from there. -/
def clauseAt (a : Audience) (cmp : Comparison) : Collection → List String →
    Except Failure (Clause Operand)
  | _, [] => .error (.misfit (.field cmp.field))
  | c, [name] =>
    match c.visibleColumn? name with
    | some column => (columnTest column cmp.field cmp.operator cmp.value).map (.test name)
    | none => .error (.misfit (.field cmp.field))
  | c, name :: rest =>
    match a.relation? c name with
    | some r => (clauseAt a cmp r.target rest).map (.related r)
    | none => .error (.misfit (.relation name cmp.field))

/-- The clause of a comparison on the rows of a collection. -/
def clause (a : Audience) (c : Collection) (cmp : Comparison) : Except Failure (Clause Operand) :=
  clauseAt a cmp c (FieldPath.names cmp.field)

end Comparison

namespace Predicate

/-- One clause for several, or nothing for none. -/
def joinClauses (join : List (Clause Operand) → Clause Operand) :
    List (Clause Operand) → Option (Clause Operand)
  | [] => none
  | items => some (join items)

mutual

/-- The clause of a part of a predicate, or nothing if the part asks nothing. -/
def innerClause (a : Audience) (c : Collection) :
    Predicate → Except Failure (Option (Clause Operand))
  | always => .error (.misfit .nestedAlways)
  | leaf cmp => (cmp.clause a c).map some
  | and items => return joinClauses .all (← innerClauses a c items)
  | or items => return joinClauses .any (← innerClauses a c items)

/-- The clauses of several parts, without those that ask nothing. -/
def innerClauses (a : Audience) (c : Collection) : List Predicate →
    Except Failure (List (Clause Operand))
  | [] => .ok []
  | p :: rest => do
    let first ← innerClause a c p
    pure (first.toList ++ (← innerClauses a c rest))

end

/-- The clause of a predicate, or nothing if every row meets it. -/
def clause (a : Audience) (c : Collection) (p : Predicate) :
    Except Failure (Option (Clause Operand)) :=
  if p.isAlways then .ok none else p.innerClause a c

end Predicate

end CollectionQuery
