import CollectionQuery.Clause.OfPredicate
import CollectionQuery.Clause.Phrase
import CollectionQuery.Clause.Truth
import CollectionQuery.Outcome
import CollectionQuery.Plan
import CollectionQuery.RowGraph.Loading
import CollectionQuery.RowOrder
import CollectionQuery.Schema.Name

/-!
# Executing a plan

A plan is first read against its collection, as a whole, so that a plan that does not fit never
reaches the storage engine.  Then two statements run: one counts the rows that meet the predicate,
and one reads those of the page.

A call goes through five stages, and a cancellation is looked for at two of them: before the plan is
read and between the statements.
-/

namespace CollectionQuery

/-! ## Plans that fit -/

/-- A plan read against its collection. -/
structure CollectionPlan where
  collection : Collection
  /-- The condition on the rows, if there is one. -/
  condition : Option (Clause Operand)
  /-- The order of the rows. -/
  order : List SortColumn
  /-- The columns to load. -/
  columns : List String
  /-- The paths of relations to load. -/
  paths : List (List Relation)
  /-- How many rows to pass over. -/
  skip : Int
  /-- How many rows to return; if negative, all of them. -/
  take : Int

namespace CollectionPlan

/-- The relations of a path that the reader may follow from a collection; `path` is the whole
path. -/
def pathRelations (a : Audience) (path : String) : Collection → List String →
    Except Failure (List Relation)
  | _, [] => .ok []
  | c, name :: rest =>
    match a.relation? c name with
    | some r => return r :: (← pathRelations a path r.target rest)
    | none => .error (.misfit (.relation name path))

/-- The columns that a projection loads: the selected ones, the identifier, and what the first
relation of every path starts from. -/
def projectedColumns (c : Collection) (projection : Option (List String))
    (paths : List (List Relation)) : Except Failure (List String) :=
  match projection with
  | none => .ok (c.columns.map (·.name))
  | some names =>
    match names.filter fun name => (c.visibleColumn? name).isNone with
    | [] =>
      .ok (firstOccurrences
        (names ++ "id" :: paths.flatMap fun path => (path.head?.map Relation.localColumn).toList))
    | unknown => .error (.misfit (.selection (sortTexts unknown)))

/-- A plan read against a collection: first the predicate, then the order, the relations and the
selected fields. -/
def ofPlan (a : Audience) (c : Collection) (p : Plan) : Except Failure CollectionPlan := do
  let condition ← p.predicate.clause a c
  let keys := if p.order.isEmpty then Collection.defaultOrder c.columns else p.order
  let order ← keys.mapM (SortColumn.ofKey a c)
  let paths ← p.relations.mapM fun path => pathRelations a path c (FieldPath.names path)
  let columns ← projectedColumns c p.projection paths
  pure { collection := c, condition, order, columns, paths, skip := p.skip, take := p.take }

end CollectionPlan

/-! ## Statements -/

/-- Why a statement fails. -/
inductive StatementFault where
  /-- The storage engine cannot hold a number of it. -/
  | outOfRange
  /-- The storage engine refuses it. -/
  | refused
  /-- It meets a fault outside the storage engine. -/
  | fault (cause : Fault)

/-- The failure of a statement that cannot hold a value. -/
def StatementFault.ofBind : BindFault → StatementFault
  | .tooLarge => .outOfRange
  | .mistyped => .refused
  | .unsupported => .refused
  | .unencodable => .fault .unencodable

/-- What the failure of a statement records and leads to. -/
def StatementFault.outcome {α : Type} (collection : String) : StatementFault → Outcome α
  | .outOfRange => ⟨[.valueOutOfRange collection], .error (.rejected .outOfRange)⟩
  | .refused => ⟨[.queryFailed collection], .error (.engine Failure.engineDetail)⟩
  | .fault cause => ⟨[], .error (.fault cause)⟩

/-- A row of a page among all rows that were loaded with it. -/
structure PageRow where
  /-- The loaded rows. -/
  graph : RowGraph
  key : RowKey

/-- The row as an object. -/
def PageRow.display (row : PageRow) : Value := row.graph.display row.key

namespace CollectionPlan

/-- The condition with the cells of its operands, if the storage engine takes it. -/
def cells (a : Audience) (clause : Clause Operand) : Except StatementFault (Clause Cell) :=
  if (clause.phrase a).isReadable then clause.cells.mapError .ofBind else .error .refused

/-- The rows of a collection that meet a clause, if the storage engine runs a statement for them. -/
def matching (s : Store) (a : Audience) (c : Collection) (task : Engine.Task)
    (clause : Clause Cell) : Except StatementFault (List Row) :=
  if s.engine.refuses s.shownTables ⟨a, c, clause, task⟩ then .error .refused
  else .ok ((s.rows c).filter fun row => (clause.truth s a row).holds)

/-- The rows that meet the condition, for a statement. -/
def selected (s : Store) (a : Audience) (p : CollectionPlan) (task : Engine.Task) :
    Except StatementFault (List Row) :=
  if !s.present then .error .refused
  else match p.condition with
    | none => .ok (s.rows p.collection)
    | some clause => do matching s a p.collection task (← cells a clause)

/-- The number of rows that meet the condition. -/
def count (s : Store) (a : Audience) (p : CollectionPlan) : Except StatementFault Nat :=
  (p.selected s a .count).map List.length

/-- The part of a list that a page is. -/
def window {α : Type} (skip take : Int) (rows : List α) : List α :=
  let rest := rows.drop skip.toNat
  if take < 0 then rest else rest.take take.toNat

/-- Whether the storage engine can number the rows of the page. -/
def isNumbered (p : CollectionPlan) : Bool := Number.isWord p.skip && Number.isWord p.take

/-- What the statement for the rows of the page does. -/
def task (p : CollectionPlan) : Engine.Task := .page p.order p.columns p.skip p.take

/-- The rows of the page, given all rows that meet the condition. -/
def onPage (s : Store) (a : Audience) (p : CollectionPlan) (rows : List Row) : List Row :=
  window p.skip p.take (sortRows s a p.order rows)

/-- Why one of several rows cannot be read back. -/
def misread? (p : CollectionPlan) (rows : List Row) : Option Fault :=
  rows.findSome? (Row.misread? p.collection p.columns)

/-- The rows of the page, with their relations, if they can all be read back.  Related rows can: the
identifiers that lead to them were read back. -/
def page (s : Store) (a : Audience) (p : CollectionPlan) :
    Except StatementFault (List PageRow) := do
  if !p.isNumbered then throw .outOfRange
  let rows := p.onPage s a (← p.selected s a p.task)
  match p.misread? rows with
  | some cause => throw (.fault cause)
  | none =>
    let graph := RowGraph.load s a p.collection rows p.columns p.paths
    pure (rows.map fun row => ⟨graph, ⟨p.collection, row.id⟩⟩)

end CollectionPlan

/-! ## Calls -/

/-- The stages of a call. -/
inductive QueryCall where
  /-- Nothing has happened: it is time to look for a cancellation. -/
  | fresh
  /-- The plan was read: the count is next. -/
  | planned (plan : CollectionPlan)
  /-- The rows were counted: it is time to look for a cancellation again. -/
  | counted (plan : CollectionPlan) (total : Nat)
  /-- No cancellation was found: the rows are next. -/
  | confirmed (plan : CollectionPlan) (total : Nat)
  /-- The call has ended. -/
  | ended (outcome : Outcome (List PageRow × Int))

namespace QueryCall

/-- The next stage of a call; `cancelled` says whether a cancellation has come by now. -/
def step (s : Store) (a : Audience) (c : Collection) (plan : Plan) (cancelled : Bool) :
    QueryCall → QueryCall
  | fresh =>
    if cancelled then ended (.fail .cancelled)
    else match CollectionPlan.ofPlan a c plan with
      | .ok p => planned p
      | .error f => ended (.fail f)
  | planned p =>
    match p.count s a with
    | .ok total => counted p total
    | .error cause => ended (cause.outcome c.name)
  | counted p total =>
    if cancelled then ended (.fail .cancelled) else confirmed p total
  | confirmed p total =>
    match p.page s a with
    | .ok rows => ended (.ok (rows, total))
    | .error cause => ended (cause.outcome c.name)
  | ended outcome => ended outcome

/-- What a call has ended with; a call that has not ended counts as cancelled. -/
def outcome : QueryCall → Outcome (List PageRow × Int)
  | ended o => o
  | _ => .fail .cancelled

end QueryCall

/-- Executes a plan on a collection.  The flags say whether a cancellation has come before the call
and by the time the rows are counted. -/
def execute (s : Store) (a : Audience) (c : Collection) (plan : Plan)
    (cancelledBefore cancelledAfterCount : Bool) : Outcome (List PageRow × Int) :=
  let next := QueryCall.step s a c plan
  let counted := next cancelledBefore (next cancelledBefore .fresh)
  (next cancelledAfterCount (next cancelledAfterCount counted)).outcome

end CollectionQuery
