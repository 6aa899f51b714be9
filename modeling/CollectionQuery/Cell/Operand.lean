import CollectionQuery.Cell.Binding

/-!
# Operands

An operand is a value that a column is compared with.  It is stored as the column would store it,
but for columns of texts, where the value is first written as its own kind says: a floating point or
decimal number with its digits, a truth value as 0 or 1, a date with a time to the microsecond, an
identifier without dashes.  In a list the first value decides the kind for all.
-/

namespace CollectionQuery

open CollectionQuery.Text CollectionQuery.Number CollectionQuery.Calendar

/-- The kind of column that a value belongs to by itself. -/
def Value.ownKind : Value → ColumnKind
  | .bool _ => .boolean
  | .float _ => .float
  | .decimal _ => .numeric
  | .date _ => .date
  | .moment _ => .moment false
  | .uuid _ => .uuid
  | _ => .text none

/-- A value that a column is compared with. -/
structure Operand where
  /-- The type of the column. -/
  column : ColumnKind
  /-- The kind of value that it is written as in a column of texts. -/
  writtenAs : ColumnKind
  value : Value

/-- A single value that a column is compared with. -/
def Operand.single (column : ColumnKind) (v : Value) : Operand := ⟨column, v.ownKind, v⟩

/-- The values of a list that a column is compared with. -/
def Operand.list (column : ColumnKind) (vs : List Value) : List Operand :=
  vs.map fun v => ⟨column, (vs.headD .null).ownKind, v⟩

namespace Cell

/-- The floating point number of a value: of a number, a truth value, or a text that writes one. -/
def numberOf? : Value → Option Binary64
  | .bool b => Binary64.ofInt? (if b then 1 else 0)
  | .int n => Binary64.ofInt? n
  | .float x => some x
  | .decimal d => if d.isSignaling then none else some d.toBinary64
  | .text s => readBinary64? s
  | _ => none

/-- A value written as a number. -/
def writeNumber (v : Value) : Except BindFault Cell :=
  match numberOf? v with
  | some .nan => .ok .null
  | some x => .ok (.text x.storedText)
  | none => .error .mistyped

/-- A value written as a truth value. -/
def writeBool (v : Value) : Except BindFault Cell :=
  (bindBool v).map fun c => if c = .bool true then .text "1" else .text "0"

/-- A value written as a date. -/
def writeDate : Value → Except BindFault Cell
  | .date d => .ok (.text d.isoText)
  | .moment t => .ok (.text t.wall.date.isoText)
  | _ => .error .mistyped

/-- A value written as a date with a time. -/
def writeMoment : Value → Except BindFault Cell
  | .date d => .ok (.text (DateTime.startOf d).microText)
  | .moment t => .ok (.text t.wall.microText)
  | _ => .error .mistyped

/-- A value written as an identifier.  A floating point number passes for one until it is stored. -/
def writeUuid : Value → Except BindFault Cell
  | .uuid u => .ok (.text (String.ofList u.digits))
  | .float _ => .error .unsupported
  | _ => .error .mistyped

/-- A value compared with a column of texts, written as a kind says. -/
def write (kind : ColumnKind) (v : Value) : Except BindFault Cell :=
  match kind with
  | .text _ => bindText v
  | kind =>
    if v.isNull then .ok .null
    else match kind with
      | .boolean => writeBool v
      | .float => writeNumber v
      | .numeric => writeNumber v
      | .date => writeDate v
      | .moment _ => writeMoment v
      | .uuid => writeUuid v
      | _ => bindText v

end Cell

/-- The cell that an operand is compared as. -/
def Operand.bind (o : Operand) : Except BindFault Cell :=
  if o.column.isText then Cell.write o.writtenAs o.value else o.column.bind o.value

/-- Refuses an operand of the wrong type. -/
def Operand.checkType (o : Operand) : Except BindFault Unit :=
  match o.bind with
  | .error .mistyped => .error .mistyped
  | _ => .ok ()

end CollectionQuery
