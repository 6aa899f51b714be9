import CollectionQuery.Pagination
import CollectionQuery.QueryCall
import CollectionQuery.Store.Writing

/-!
# The service

Listing, reading, creating, changing and removing the rows of collections that requests name.
Reading leaves the store alone.  A change answers the store afterwards besides its outcome.  What it
writes is read back, so a change can fail in two ways: before anything is written, and then the
store stays as it was, or because what it has written cannot be read back, and then that stays.
-/

namespace CollectionQuery

namespace Service

/-! ## Reading -/

/-- The collection of a name, for a reader. -/
def collectionFor (a : Audience) (name : String) : Except Failure Collection := do
  let c ← Collection.resolve name
  if a.sees c then pure c else .error (.refused .noCollection)

/-- The condition that every listed row has to meet, given as values of its fields. -/
def mandatory (a : Audience) (c : Collection) : Mandatory :=
  match a with
  | .staff => .none
  | .everyone => .equals ((a.scope c).map fun wanted => (wanted.1, .bool wanted.2))

/-- What listing a collection adds to a query. -/
def listContext (a : Audience) (c : Collection) : PlanContext := {
  collection := c.name
  relations := some (a.relationNames c)
  searchFields := c.searchFields
  mandatory := mandatory a c }

/-- A page of the rows of a collection. -/
def list (settings : Settings) (s : Store) (a : Audience) (name : String) (q : QueryParams) :
    Outcome (Page Value) := do
  let c ← .ofExcept (collectionFor a name)
  (paginate settings (listContext a c) none
    (fun plan => .finished (execute s a c plan false false))
    (fun row => .ok row.display) q).outcome

/-- The plan that reads one row. -/
def rowPlan (c : Collection) (id : Uuid) (relations : List String) : Plan := {
  collection := c.name
  predicate := .leaf ⟨"id", .eq, .uuid id⟩
  order := []
  projection := none
  relations
  skip := 0
  take := 1 }

/-- A row of a collection with the relations that a query asks for. -/
def get (s : Store) (name : String) (id : Value) (q : QueryParams) : Outcome Value := do
  let c ← .ofExcept (Collection.resolve name)
  let key ← .ofExcept (Payload.rowId id)
  let known := Audience.staff.relationNames c
  let relations ← RelationPath.requested q.relations q.loadAll (some known)
  let (rows, _) ← execute s .staff c (rowPlan c key relations) false false
  match rows with
  | row :: _ => pure row.display
  | [] => .fail (.refused .noRow)

/-! ## Writing -/

/-- A row alone as an object. -/
def displayRow (c : Collection) (row : Row) : Value :=
  RowGraph.display [LoadedRow.full c row] ⟨c, row.id⟩

/-- The row of an identifier that a request gives. -/
def loadRow (s : Store) (c : Collection) (id : Value) : Except Failure Row := do
  let key ← Payload.rowId id
  s.checkTables
  match s.find? c key with
  | some row =>
    row.checkRead c
    pure row
  | none => throw (.refused .noRow)

/-- A change of the store as a request sees it: the store afterwards, and the outcome.  After the
change `reread` reads back what was written; if that fails, the change stays. -/
def change {α : Type} (s : Store) (result : Except Failure (Store × α))
    (reread : α → Except Failure Unit) (entry : α → LogEntry) (answer : α → Value) :
    Store × Outcome Value :=
  let (next, result) := s.transact result
  (next, do
    let a ← Outcome.ofExcept result
    Outcome.ofExcept (reread a)
    Outcome.record (entry a)
    pure (answer a))

/-- Creates a row. -/
def create (s : Store) (occasion : Occasion) (name : String) (payload : Value) :
    Store × Outcome Value :=
  let result := do
    let c ← Collection.resolve name
    let draft ← Draft.ofPayload s c false payload
    let (next, row) ← s.addRow occasion c draft
    pure (next, c, row)
  change s result (fun r => r.2.checkRead r.1) (fun r => .created r.1.name r.2.id.text)
    fun r => displayRow r.1 r.2

/-- Changes a row. -/
def update (s : Store) (occasion : Occasion) (name : String) (id : Value) (payload : Value) :
    Store × Outcome Value :=
  let result := do
    let c ← Collection.resolve name
    let row ← loadRow s c id
    let draft ← Draft.ofPayload s c true payload
    let (next, row) ← s.changeRow occasion c draft row
    pure (next, c, draft, row)
  change s result (fun r => r.2.2.checkRead r.1)
    (fun r => .updated r.1.name id.toText (sortTexts r.2.1.names))
    fun r => displayRow r.1 r.2.2

/-- Removes a row. -/
def delete (s : Store) (occasion : Occasion) (name : String) (id : Value) : Store × Outcome Value :=
  let result := do
    let c ← Collection.resolve name
    let row ← loadRow s c id
    let next ← s.removeRow occasion c row
    pure (next, c, row)
  change s result (fun _ => .ok ()) (fun r => .deleted r.1.name r.2.id.text)
    fun r => .object [("status", .text "deleted"), ("id", .text r.2.id.text)]

/-- Whether there is a user with an e-mail address whose password is the given one. -/
def checkPassword (s : Store) (email password : String) : Except Failure Bool := do
  s.checkTables
  match (s.rows .users).find? fun row => row.cell "email" == .text email with
  | some row => match row.cell "password_hash" with
    | .hash h => Payload.verify h password
    | _ => pure false
  | none => pure false

/-! ## Description -/

/-- The description of a column. -/
def describeColumn (column : Column) : Value := .object [
  ("name", .text column.name), ("kind", .text column.kind.label),
  ("nullable", .bool column.nullable)]

/-- The description of a relation. -/
def describeRelation (r : Relation) : Value := .object [
  ("name", .text r.name), ("target", .text r.target.name), ("many", .bool r.many)]

/-- The description of a collection. -/
def describeCollection (c : Collection) : Value := .object [
  ("collection", .text c.name),
  ("fields", .list (c.visibleColumns.map describeColumn)),
  ("relations", .list (c.relations.map describeRelation)),
  ("search_fields", .list (c.searchFields.map .text)),
  ("public", .bool c.isPublic)]

/-- The description of all collections. -/
def describe : Value := .object [("collections", .list (Collection.all.map describeCollection))]

end Service

end CollectionQuery
