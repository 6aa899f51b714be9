import CollectionQuery.Coercion
import CollectionQuery.RelationPath

/-!
# Payloads

A payload is the object that a request sends to create or to update a row.  `Payload.sanitize`
checks the names of its members and that no column is null that may not be, and reads identifiers
and dates.  Other values are left as they are: whether a column can hold them is found out when they
are stored.
-/

namespace CollectionQuery

open CollectionQuery.Text CollectionQuery.Calendar

/-- The columns that hold something derived from other members of a payload. -/
def Collection.derivedFields : Collection → List String
  | .users => ["password_hash"]
  | _ => []

/-- Whether a payload may set a column. -/
def Collection.isSettable (c : Collection) (name : String) : Bool :=
  name ∉ systemFields && name ∉ c.derivedFields

namespace Payload

/-- The refusal of a request. -/
def refuse {α : Type} (cause : Refusal) : Except Failure α := .error (.refused cause)

/-- The members of an object.  One with half a surrogate pair in its name is left to
`checkNames`. -/
def members : Value → Except Failure (List (String × Value))
  | .object members => .ok members
  | .mixed members => .ok (Value.wholeMembers members)
  | _ => refuse .notObject

/-- The identifier in a member. -/
def identifier (name : String) : Value → Except Failure Uuid
  | .uuid u => .ok u
  | v => match Uuid.ofText? v.toText with
    | some u => .ok u
    | none => refuse (.notIdentifier name)

/-- The date with a time that the text of a member writes. -/
def timestamp (name text : String) : Except Failure Timestamp :=
  match Timestamp.ofIso? (Coercion.zuluAsOffset (strip text)) with
  | some t => .ok t
  | none => refuse (.notDate name)

/-- The value of a text in a column of dates: without its time, unless the column holds one. -/
def temporal (kind : ColumnKind) (name text : String) : Except Failure Value := do
  let t ← timestamp name text
  pure (if kind = .date then .date t.wall.date else .moment t)

/-- The value of a member that is not null. -/
def readValue (column : Column) (v : Value) : Except Failure Value :=
  match column.kind, v with
  | .uuid, v => (identifier column.name v).map .uuid
  | .moment aware, .text s => temporal (.moment aware) column.name s
  | .date, .text s => temporal .date column.name s
  | .moment aware, .unpaired t => temporal (.moment aware) column.name t.shown
  | .date, .unpaired t => temporal .date column.name t.shown
  | _, v => .ok v

def readMember (column : Column) (v : Value) : Except Failure Value :=
  if v.isNull then
    if column.nullable then .ok .null else refuse (.nullField column.name)
  else readValue column v

/-- The members of an object, read one after the other. -/
def readMembers (c : Collection) : List (String × Value) → Except Failure (List (String × Value))
  | [] => .ok []
  | (name, v) :: rest =>
    match c.column? name with
    | some column => do
      let first ← readMember column v
      pure ((name, first) :: (← readMembers c rest))
    | none => refuse (.unknownFields [.whole name])

/-- The columns that a new row cannot do without. -/
def requiredNames (c : Collection) : List String :=
  (c.columns.filter fun column =>
    c.isSettable column.name && !column.nullable && !column.default.isSome).map (·.name)

/-- The members of a payload, ready to be stored. -/
def sanitize (c : Collection) (isUpdate : Bool) (payload : Value) :
    Except Failure (List (String × Value)) := do
  let given ← members payload
  let known := (c.columns.map (·.name)).filter c.isSettable
  match given.filter fun m => m.1 ∉ known with
  | [] =>
    let read ← readMembers c given
    if isUpdate then
      if read.isEmpty then refuse .noFields else pure read
    else match (requiredNames c).filter fun name => name ∉ read.map (·.1) with
      | [] => pure read
      | missing => refuse (.missingFields (sortTexts missing))
  | unknown => refuse (.unknownFields ((sortTexts (unknown.map (·.1))).map .whole))

/-- Whether a name is not behind another, by their code points. -/
def namePrecedes (x y : AnyText) : Bool :=
  !(y.points.map CodePoint.toNat).lex (x.points.map CodePoint.toNat) fun m n => decide (m < n)

/-- Refuses an object with half a surrogate pair in a name, with all the names that cannot be set;
those in `read` were taken out before. -/
def checkNames (c : Collection) (read : List String) : Value → Except Failure Unit
  | .mixed members =>
    let known := (c.columns.map (·.name)).filter c.isSettable ++ read
    let unknown := (members.map (·.1)).filter fun name => name ∉ known.map AnyText.whole
    refuse (.unknownFields (unknown.mergeSort namePrecedes))
  | _ => .ok ()

/-- The identifier of a row as a request gives it. -/
def rowId (v : Value) : Except Failure Uuid :=
  match Uuid.ofText? v.toText with
  | some u => .ok u
  | none => refuse .identifier

/-- The key of a row in a table with key columns of some kinds, as a request gives it. -/
def keyValue : List ColumnKind → Value → Except Failure Value
  | [.uuid], v => (rowId v).map .uuid
  | [_], v => .ok v
  | _, _ => refuse .compoundKey

end Payload

end CollectionQuery
