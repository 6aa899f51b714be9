import CollectionQuery.Proofs.Cell.Operand
import CollectionQuery.Proofs.Comparison.Faults

/-!
# Comparisons that the storage engine does not take

What a comparison with a column of texts asks for reaches the storage engine as it is.  An operand
of an *unwritable* comparison has no form there, one of an *unencodable* comparison is a text
without bytes, and an *overlong* comparison makes a pattern that is too long.  The operands of a
comparison with any other column have the type of the column, and there are no patterns.
-/

namespace CollectionQuery.Comparison

variable {column : Column} {kind : ColumnKind} {path : String} {op : Operator} {v w : Value}
  {t : CellTest Operand}

/-- The operands of a comparison with a column of a kind.  Operators for texts have one if their
pattern has half a surrogate pair. -/
def operands (kind : ColumnKind) (op : Operator) (v : Value) : List Operand :=
  match op.arity with
  | .none => []
  | .list => Operand.list kind v.elements
  | .pair => [.single kind (v.elements.headD .null), .single kind (v.elements.tail.headD .null)]
  | .unary => if op.coerces || v.isUnpaired then [.single kind v] else []

/-- The pattern that an operator for texts matches with. -/
def pattern (op : Operator) (v : Value) : List Char :=
  let text := v.toText.toList
  match op with
  | .startsWith => Text.escapeWildcards text ++ ['%']
  | .endsWith => '%' :: Text.escapeWildcards text
  | .contains => around (Text.escapeWildcards text)
  | _ => around text

/-- Whether a comparison matches texts with a pattern that is too long. -/
def Overlong (column : Column) (op : Operator) (v : Value) : Prop :=
  column.kind.isText = true ∧ op.coerces = false ∧ v.isUnpaired = false ∧
    Text.patternLimit < (String.ofList (pattern op v)).utf8ByteSize

/-! ## Operands of tests -/

theorem matchTest_of_not_isUnpaired (h : v.isUnpaired = false) (kind : ColumnKind) (fold : Bool)
    (escape : Option Char) (shape : List Char → List Char) :
    matchTest kind fold escape shape v = .matching fold escape (shape v.toText.toList) := by
  cases v with
  | unpaired t => cases h
  | _ => rfl

theorem matchTest_of_isUnpaired (h : v.isUnpaired = true) (kind : ColumnKind) (fold : Bool)
    (escape : Option Char) (shape : List Char → List Char) :
    matchTest kind fold escape shape v = .matchingHalf fold escape (.single kind v) := by
  cases v with
  | unpaired t => rfl
  | _ => cases h

/-- The test of an operator for texts matches a pattern, which has half a surrogate pair if the text
has. -/
theorem test_of_text (kind : ColumnKind) (v : Value) (h : op.coerces = false) :
    ∃ fold escape, test kind op v = .ok
      (if v.isUnpaired then .matchingHalf fold escape (.single kind v)
        else .matching fold escape (pattern op v)) := by
  cases hv : v.isUnpaired with
  | true =>
      simp only [if_true]
      cases op with
      | like | ilike | startsWith | endsWith | contains =>
          exact ⟨_, _, congrArg Except.ok (matchTest_of_isUnpaired hv _ _ _ _)⟩
      | _ => cases h
  | false =>
      simp only [Bool.false_eq_true, if_false]
      cases op with
      | like | ilike | startsWith | endsWith | contains =>
          exact ⟨_, _, congrArg Except.ok (matchTest_of_not_isUnpaired hv _ _ _ _)⟩
      | _ => cases h

theorem isOverlong_test (hcoerces : op.coerces = true) (h : test kind op w = .ok t) :
    t.isOverlong = false := by
  cases op with
  | eq => cases w <;> cases h <;> rfl
  | ne => cases w <;> cases h <;> rfl
  | gt => cases w <;> cases h <;> rfl
  | gte => cases w <;> cases h <;> rfl
  | lt => cases w <;> cases h <;> rfl
  | lte => cases w <;> cases h <;> rfl
  | oneOf | noneOf | between | isNull | notNull =>
      cases h
      rfl
  | _ => cases hcoerces

/-- What the test of a column comes from: the pattern of an operator for texts, a day, or a value in
the type of the column. -/
theorem columnTest_eq_ok (h : columnTest column path op v = .ok t) :
    (op.coerces = false ∧ column.kind.isText = true ∧
      ∃ fold escape, t = if v.isUnpaired then .matchingHalf fold escape (.single column.kind v)
        else .matching fold escape (pattern op v)) ∨
    (op.coerces = true ∧ column.kind.isMoment = true ∧
      ∃ start next, t = dayFrom column op start next) ∨
    (op.coerces = true ∧ ∃ w, coerced column op v = .ok w ∧ test column.kind op w = .ok t) := by
  cases hcoerces : op.coerces with
  | false =>
      rw [columnTest_of_text hcoerces] at h
      split at h
      · next htext =>
          obtain ⟨fold, escape, htest⟩ := test_of_text column.kind v hcoerces
          cases htest.symm.trans h
          exact Or.inl ⟨rfl, htext, fold, escape, rfl⟩
      · cases h
  | true =>
      rw [columnTest_of_coerces hcoerces] at h
      split at h
      · next hday =>
          obtain ⟨-, hmoment, -⟩ := asksDay_iff.1 hday
          rcases dayTest_cases hday with ⟨f, -, htest⟩ | ⟨start, -, ⟨next, htest⟩ | ⟨-, htest⟩⟩
          · cases htest.symm.trans h
          · cases htest.symm.trans h
            exact Or.inr (Or.inl ⟨rfl, hmoment, start, next, rfl⟩)
          · cases htest.symm.trans h
      · exact Or.inr (Or.inr ⟨rfl, bind_eq_ok.1 h⟩)

/-- The pattern of a test is too long exactly if the comparison is overlong. -/
theorem isOverlong_iff (h : columnTest column path op v = .ok t) :
    t.isOverlong = true ↔ Overlong column op v := by
  rcases columnTest_eq_ok h with ⟨hcoerces, htext, fold, escape, rfl⟩ |
    ⟨hcoerces, -, start, next, rfl⟩ | ⟨hcoerces, w, -, htest⟩
  · cases hv : v.isUnpaired <;> simp [CellTest.isOverlong, Overlong, htext, hcoerces, hv]
  · have hshort : (dayFrom column op start next).isOverlong = false := by
      rw [dayFrom]
      split <;> rfl
    simp [hshort, Overlong, hcoerces]
  · simp [isOverlong_test hcoerces htest, Overlong, hcoerces]

end CollectionQuery.Comparison
