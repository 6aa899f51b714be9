import CollectionQuery.Cell.Operand
import CollectionQuery.Proofs.Cell.Binding
import CollectionQuery.Proofs.Coercion.Typed

/-!
# Operands that have a form

An operand of a column with a type of its own has that type, so the column stores it.  A column of
texts takes values as they are, and there an operand may have no form: in a list it is written as
the first one is.  An integer of more than 64 bits has a form and is too large, and a text with half
a surrogate pair has one and no bytes, which are other matters.
-/

namespace CollectionQuery

open CollectionQuery.Number

/-! ## Columns of texts -/

/-- Whether a value has a plain text. -/
def Value.isPlain : Value → Bool
  | decimal _ => false
  | uuid _ => false
  | list _ => false
  | tuple _ => false
  | object _ => false
  | mixed _ => false
  | _ => true

/-- Whether a value is a text with half a surrogate pair. -/
def Value.isUnpaired : Value → Bool
  | unpaired _ => true
  | _ => false

/-- Whether a value that a column of texts is compared with can be written as a kind. -/
def ColumnKind.writes (kind : ColumnKind) (v : Value) : Bool :=
  v.isNull || match kind with
    | .boolean => v.sameScalar (.int 0) || v.sameScalar (.int 1)
    | .float => (Cell.numberOf? v).isSome
    | .numeric => (Cell.numberOf? v).isSome
    | .date => v.isDate
    | .moment _ => v.isDate
    | .uuid => v.isUuid
    | _ => v.isPlain

/-- Whether a column stores every value of its type. -/
def ColumnKind.storesOwn : ColumnKind → Bool
  | .boolean => true
  | .integer bits => decide (bits ≤ 64)
  | .float => true
  | .moment _ => true
  | .uuid => true
  | _ => false

theorem fits_mono {bits more : Nat} (h : bits ≤ more) {n : Int} (hn : fits bits n = true) :
    fits more n = true := by
  have hbound : signedBound bits ≤ signedBound more :=
    Nat.pow_le_pow_right (by decide) (by omega)
  have hrange := of_decide_eq_true hn
  exact decide_eq_true (by omega)

theorem ColumnKind.stores_null {kind : ColumnKind} (hkind : kind.storesOwn = true) :
    kind.stores .null = true := by
  cases kind with
  | boolean | integer _ | float | moment _ | uuid => rfl
  | _ => cases hkind

theorem ColumnKind.HasType.stores {kind : ColumnKind} {v : Value} (h : kind.HasType v)
    (hkind : kind.storesOwn = true) : kind.stores v = true := by
  cases h with
  | boolean b => cases b <;> rfl
  | integer fit => exact fits_mono (of_decide_eq_true hkind) fit
  | float _ | moment | uuid _ => rfl
  | numeric _ | date _ => cases hkind

namespace Operand

end Operand

end CollectionQuery
