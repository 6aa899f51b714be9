import CollectionQuery.Proofs.Calendar.Instants
import CollectionQuery.Proofs.Cell.Order
import CollectionQuery.Proofs.Comparison.Days
import CollectionQuery.Proofs.Comparison.Integers
import CollectionQuery.Proofs.Filter.Alike
import CollectionQuery.Proofs.Predicate.Tests

/-!
# Instants in comparisons

One instant is written in many ways, one for each offset.  A column without offsets keeps universal
time, so all of them are the same value there.  A column with offsets keeps what the clock shows,
and cells are compared by their clocks alone: two ways to write an instant are told apart there
exactly if their clocks show different times.

Otherwise a condition makes the same test however its instants are spelled, through lists and pairs
as well, and whatever is wrong with it is wrong in the same way.
-/

namespace CollectionQuery

open CollectionQuery.Calendar CollectionQuery.Text

variable {a : Audience} {c : Collection} {column : Column} {name path text other : String}
  {op : Operator} {v w : Value} {aware : Bool} {t u : Timestamp}

/-! ## Spellings -/

/-- A text that a filter of a column reads as a date with a time and an offset. -/
structure Coercion.Writes (name text : String) (t : Timestamp) : Prop where
  read : timestamp name (.text text) = .ok t
  aware : t.isAware = true

namespace Value

/-- One value, or two texts that write one instant; if offsets are kept, on clocks that show the
same. -/
inductive Respelling (name : String) (aware : Bool) : Value → Value → Prop
  | same (v : Value) : Respelling name aware v v
  | instant {text other : String} {t u : Timestamp} (left : Coercion.Writes name text t)
      (right : Coercion.Writes name other u) (instant : t.instant = u.instant)
      (clock : aware = true → t.wall = u.wall) : Respelling name aware (.text text) (.text other)

/-- The values of two conditions, of any shape, with items that are spelled in different ways. -/
inductive Respelled (name : String) (aware : Bool) : Value → Value → Prop
  | single {v w : Value} (item : Respelling name aware v w) : Respelled name aware v w
  | list {vs ws : List Value} (items : List.Forall₂ (Respelling name aware) vs ws) :
      Respelled name aware (.list vs) (.list ws)
  | tuple {vs ws : List Value} (items : List.Forall₂ (Respelling name aware) vs ws) :
      Respelled name aware (.tuple vs) (.tuple ws)

end Value

namespace Coercion

/-- A text with a time that is read with an offset writes it for all columns. -/
theorem writes_of_ofIso? (name : String) (htime : hasTime (strip text) = true)
    (hread : Timestamp.ofIso? (zuluAsOffset (strip text)) = some t) (haware : t.isAware = true) :
    Writes name text t := by
  have hne : strip text ≠ "" := by
    intro hempty
    rw [hempty] at htime
    exact absurd htime (by decide)
  have hten : ¬ ((!hasTime (strip text)) = true ∧ (strip text).length = 10) := by
    simp [htime]
  refine ⟨?_, haware⟩
  rw [timestamp_text, if_neg hne, if_neg hten, hread]
  rfl

/-- A time with an offset is no date alone. -/
theorem Writes.not_isDateOnly (h : Writes name text t) : (Value.text text).isDateOnly = false := by
  rw [Bool.eq_false_iff]
  intro halone
  obtain ⟨d, hday⟩ := exists_day halone
  obtain rfl := eq_startOf_of_timestamp halone hday h.read
  cases h.aware

/-- A column keeps the same of all ways to write an instant. -/
theorem settle_congr (ht : t.isAware = true) (hu : u.isAware = true) (h : t.instant = u.instant)
    (hclock : aware = true → t.wall = u.wall) : settle aware t = settle aware u := by
  cases aware with
  | true => rw [Timestamp.eq_of_instant_eq h (hclock rfl) ht hu]
  | false =>
      rw [settle, settle, if_neg Bool.false_ne_true, if_neg Bool.false_ne_true,
        Timestamp.toUniversal?_congr h]

end Coercion

namespace Value.Respelling

theorem refl_forall₂ (name : String) (aware : Bool) (vs : List Value) :
    List.Forall₂ (Respelling name aware) vs vs :=
  List.forall₂_same.2 fun v _ => .same v

theorem isDateOnly_eq (h : Respelling name aware v w) : v.isDateOnly = w.isDateOnly := by
  cases h with
  | same => rfl
  | instant left right => rw [left.not_isDateOnly, right.not_isDateOnly]

theorem coerce_eq (hkind : column.kind = .moment aware) (h : Respelling column.name aware v w) :
    column.kind.coerce column.name v = column.kind.coerce column.name w := by
  cases h with
  | same => rfl
  | instant left right instant clock =>
      rw [Comparison.coerce_timestamp hkind rfl left.read,
        Comparison.coerce_timestamp hkind rfl right.read,
        Coercion.settle_congr left.aware right.aware instant clock]

end Value.Respelling

/-! ## Shapes -/

/-- Two results that are the same fault, or values with operands that are spelled in different
ways. -/
inductive Operator.NormalizesAlike (op : Operator) (name : String) (aware : Bool) :
    Except ShapeFault Value → Except ShapeFault Value → Prop
  | error (fault : ShapeFault) : NormalizesAlike op name aware (.error fault) (.error fault)
  | ok {v w : Value}
      (operands : List.Forall₂ (Value.Respelling name aware) (op.operands v) (op.operands w)) :
      NormalizesAlike op name aware (.ok v) (.ok w)

namespace Operator

theorem normalizesAlike_refl (name : String) (aware : Bool) (r : Except ShapeFault Value) :
    NormalizesAlike op name aware r r := by
  cases r with
  | error fault => exact .error fault
  | ok v => exact .ok (Value.Respelling.refl_forall₂ name aware _)

/-- The operands of a list or pair are its items. -/
theorem operands_tuple_alike (harity : op.arity = .list ∨ op.arity = .pair) {vs ws : List Value}
    (h : List.Forall₂ (Value.Respelling name aware) vs ws) :
    List.Forall₂ (Value.Respelling name aware) (op.operands (.tuple vs))
      (op.operands (.tuple ws)) := by
  rw [operands, operands]
  rcases harity with harity | harity
  · rw [harity]
    exact h
  · rw [harity]
    exact h

/-- A list has the shape that an operator takes, or not, whatever its items are. -/
theorem normalizesAlike_items {make : List Value → Value} (hmake : make = .list ∨ make = .tuple)
    {vs ws : List Value} (h : List.Forall₂ (Value.Respelling name aware) vs ws) :
    NormalizesAlike op name aware (op.normalize (make vs)) (op.normalize (make ws)) := by
  cases harity : op.arity with
  | none =>
      simp only [normalize, harity]
      exact normalizesAlike_refl name aware _
  | unary =>
      rcases hmake with rfl | rfl
      all_goals
        simp only [normalize, harity]
        exact .error _
  | list =>
      rcases hmake with rfl | rfl
      all_goals
        simp only [normalize, harity]
        exact .ok (operands_tuple_alike (Or.inl harity) h)
  | pair =>
      rcases hmake with rfl | rfl
      all_goals
        rw [normalize, normalize, harity]
        cases h with
        | nil => exact .error _
        | cons hlow h =>
            cases h with
            | nil => exact .error _
            | cons hhigh h =>
                cases h with
                | nil =>
                    have hpair := List.Forall₂.cons hlow (.cons hhigh .nil)
                    exact .ok (operands_tuple_alike (Or.inr harity) hpair)
                | cons _ _ => exact .error _

/-- A value has the shape that an operator takes, or not, however its instants are spelled. -/
theorem normalizesAlike (h : v.Respelled name aware w) :
    NormalizesAlike op name aware (op.normalize v) (op.normalize w) := by
  cases h with
  | list items => exact normalizesAlike_items (Or.inl rfl) items
  | tuple items => exact normalizesAlike_items (Or.inr rfl) items
  | single item =>
      cases item with
      | same => exact normalizesAlike_refl name aware _
      | instant left right instant clock =>
          have hitem := List.Forall₂.cons (.instant left right instant clock)
            (.nil : List.Forall₂ (Value.Respelling name aware) [] [])
          cases harity : op.arity with
          | none =>
              simp only [normalize, harity]
              exact normalizesAlike_refl name aware _
          | pair =>
              simp only [normalize, harity]
              exact .error _
          | list =>
              simp only [normalize, harity]
              exact .ok (operands_tuple_alike (Or.inl harity) hitem)
          | unary =>
              simp only [normalize, harity]
              refine .ok ?_
              simp only [operands, harity]
              exact hitem

end Operator

/-! ## Tests -/

namespace Comparison

theorem mapM_coerce_eq (hkind : column.kind = .moment aware) {vs ws : List Value}
    (h : List.Forall₂ (Value.Respelling column.name aware) vs ws) :
    vs.mapM (column.kind.coerce column.name) = ws.mapM (column.kind.coerce column.name) := by
  induction h with
  | nil => rfl
  | cons first _ ih => rw [List.mapM_cons, List.mapM_cons, first.coerce_eq hkind, ih]

theorem coerced_eq (hkind : column.kind = .moment aware) (hcoerces : op.coerces = true)
    (h : List.Forall₂ (Value.Respelling column.name aware) (op.operands v) (op.operands w)) :
    coerced column op v = coerced column op w := by
  rw [coerced, coerced, hcoerces]
  cases harity : op.arity with
  | list | pair =>
      rw [Operator.operands, Operator.operands, harity] at h
      simp only [mapM_coerce_eq hkind h]
      rfl
  | _ =>
      rw [Operator.operands, Operator.operands, harity] at h
      exact (List.forall₂_cons.1 h).1.coerce_eq hkind

/-- A column of dates with times is tested in the same way, however the operands are spelled. -/
theorem columnTest_respelled (hkind : column.kind = .moment aware) (path : String)
    (h : List.Forall₂ (Value.Respelling column.name aware) (op.operands v) (op.operands w)) :
    columnTest column path op v = columnTest column path op w := by
  cases hcoerces : op.coerces with
  | false =>
      rw [columnTest, columnTest, hcoerces, hkind]
      rfl
  | true =>
      rw [columnTest_of_coerces hcoerces, columnTest_of_coerces hcoerces,
        coerced_eq hkind hcoerces h]
      by_cases hop : op = .eq ∨ op = .ne
      · rw [Operator.operands_eq_singleton hop, Operator.operands_eq_singleton hop] at h
        have hitem := (List.forall₂_cons.1 h).1
        rw [asksDay, asksDay, hitem.isDateOnly_eq, dayTest, dayTest, hitem.coerce_eq hkind]
      · have hasks (x : Value) : asksDay column op x ≠ true := fun hasks =>
          hop (asksDay_iff.1 hasks).1
        rw [if_neg (hasks v), if_neg (hasks w)]

/-! ## Conditions -/

/-- Comparisons of one column that are tested in the same way have the same clause. -/
theorem clauseAt_congr {cmp cmp' : Comparison} {names : List String}
    (hfield : cmp.field = cmp'.field)
    (htest : ∀ column, a.column? c names = some column →
      columnTest column cmp.field cmp.operator cmp.value =
        columnTest column cmp'.field cmp'.operator cmp'.value) :
    cmp.clauseAt a c names = cmp'.clauseAt a c names := by
  induction names generalizing c with
  | nil => rw [clauseAt, clauseAt, hfield]
  | cons name rest ih =>
      cases rest with
      | nil =>
          rw [clauseAt, clauseAt]
          cases hcolumn : c.visibleColumn? name with
          | none => simp only [hfield]
          | some column => simp only [htest column hcolumn]
      | cons next rest =>
          rw [clauseAt, clauseAt]
          · cases hrelation : a.relation? c name with
            | none => simp only [hfield]
            | some r =>
                have hinner := ih fun column hcolumn => htest column (by
                  rw [Audience.column?, hrelation]
                  exact hcolumn)
                simp only [hinner]
          · simp
          · simp

end Comparison

/-- One condition, or two on a column of dates with times with instants that are spelled in
different ways. -/
inductive FilterCondition.Respelled (a : Audience) (c : Collection) :
    FilterCondition → FilterCondition → Prop
  | same (x : FilterCondition) : Respelled a c x x
  | values {field : String} {operator : Text.AnyText} {v w : Value} {column : Column} {aware : Bool}
      (leads : a.column? c (FieldPath.names field) = some column)
      (kind : column.kind = .moment aware) (values : v.Respelled column.name aware w) :
      Respelled a c ⟨field, operator, v⟩ ⟨field, operator, w⟩

/-- Such conditions are malformed in the same way, or make comparisons with the same clause. -/
theorem FilterCondition.Respelled.makes {x y : FilterCondition} (h : x.Respelled a c y) :
    x.Makes (fun cmp cmp' => cmp.clause a c = cmp'.clause a c) y := by
  cases h with
  | same =>
      cases hmade : x.comparison with
      | ok cmp => exact .comparison hmade hmade rfl
      | error cause => exact .malformed hmade hmade
  | @values field operator v w column aware leads kind values =>
      cases hop : Operator.ofText? operator with
      | none =>
          have hmade (x : Value) : FilterCondition.comparison ⟨field, operator, x⟩ =
              .error (.unknownOperator operator field) := by
            simp only [FilterCondition.comparison, hop]
          exact .malformed (hmade v) (hmade w)
      | some op =>
          have hok {x y : Value} (h : op.normalize x = .ok y) :
              FilterCondition.comparison ⟨field, operator, x⟩ = .ok ⟨field, op, y⟩ := by
            simp only [FilterCondition.comparison, hop, h]
          have herror {x : Value} {fault : ShapeFault} (h : op.normalize x = .error fault) :
              FilterCondition.comparison ⟨field, operator, x⟩ =
                .error (.shape field op fault) := by
            simp only [FilterCondition.comparison, hop, h]
          have halike : op.NormalizesAlike column.name aware (op.normalize v) (op.normalize w) :=
            Operator.normalizesAlike values
          generalize hv : op.normalize v = r at halike
          generalize hw : op.normalize w = r' at halike
          cases halike with
          | error fault => exact .malformed (herror hv) (herror hw)
          | ok operands =>
              refine .comparison (hok hv) (hok hw) (Comparison.clauseAt_congr rfl ?_)
              intro found hfound
              obtain rfl : found = column := Option.some.inj (hfound.symm.trans leads)
              exact Comparison.columnTest_respelled kind field operands

/-! ## Clocks that are told apart -/

namespace Operator

/-- The operators that compare by order, with one value, several or two bounds. -/
def ordered : List Operator := comparing ++ [oneOf, noneOf, between]

/-- The value of an operator that compares with one time alone: a list of one, or twice the same
bound. -/
def alone (op : Operator) (v : Value) : Value :=
  match op.arity with
  | .list => .tuple [v]
  | .pair => .tuple [v, v]
  | _ => v

/-- A time alone is in canonical form. -/
theorem normalize_alone (hop : op ∈ ordered) (text : String) :
    op.normalize (op.alone (.text text)) = .ok (op.alone (.text text)) := by
  simp only [ordered, comparing, List.cons_append, List.nil_append, List.mem_cons,
    List.not_mem_nil, or_false] at hop
  rcases hop with rfl | rfl | rfl | rfl | rfl | rfl | rfl | rfl | rfl
  all_goals rfl

/-- The places beside a time alone that an operator asks for. -/
def places (op : Operator) : Ordering → Bool :=
  match op with
  | oneOf => (· == .eq)
  | noneOf => (· != .eq)
  | between => (· == .eq)
  | op => op.accepts

/-- An operator does not treat all places alike. -/
theorem eq_of_places (hop : op ∈ ordered) {o : Ordering} (h : op.places o = op.places .eq)
    (hswap : op.places o.swap = op.places .eq) : o = .eq := by
  simp only [ordered, comparing, List.cons_append, List.nil_append, List.mem_cons,
    List.not_mem_nil, or_false] at hop
  rcases hop with rfl | rfl | rfl | rfl | rfl | rfl | rfl | rfl | rfl
  all_goals
    cases o with
    | eq => rfl
    | lt | gt => simp [places, accepts] at h hswap

end Operator

namespace Comparison

section

variable (hread : column.kind.coerce column.name v = .ok (.moment t))
include hread

/-- The items of a list or pair are taken one by one. -/
theorem coerced_alone (hop : op = .oneOf ∨ op = .noneOf ∨ op = .between) :
    coerced column op (op.alone v) = .ok (op.alone (.moment t)) := by
  have hone : [v].mapM (column.kind.coerce column.name) = .ok [.moment t] :=
    mapM_eq_ok.2 (.cons hread .nil)
  have htwo : [v, v].mapM (column.kind.coerce column.name) = .ok [.moment t, .moment t] :=
    mapM_eq_ok.2 (.cons hread (.cons hread .nil))
  rcases hop with rfl | rfl | rfl
  · exact (coerced_tuple rfl (Or.inl rfl)).trans (congrArg (Except.map Value.tuple) hone)
  · exact (coerced_tuple rfl (Or.inl rfl)).trans (congrArg (Except.map Value.tuple) hone)
  · exact (coerced_tuple rfl (Or.inr rfl)).trans (congrArg (Except.map Value.tuple) htwo)

variable (hkind : column.kind = .moment aware)
include hkind

theorem passes_comparing_iff (hop : op ∈ Operator.comparing) (hasks : asksDay column op v = false)
    (path : String) (wall : DateTime) :
    Passes ⟨path, op, v⟩ column (.moment wall) ↔ op.accepts (wall.compare t.wall) = true := by
  have htest := columnTest_comparing hop path hasks hread rfl nofun
  rw [passes_relates_iff htest (bind_moment hkind t), Cell.relate_moment, Truth.ofBool_eq_yes]

/-- The test with a list of one time, or with a time as both bounds. -/
theorem exists_test_alone (hop : op = .oneOf ∨ op = .noneOf ∨ op = .between) (path : String) :
    ∃ u bound, columnTest column path op (op.alone v) = .ok u ∧ u.bind Operand.bind = .ok bound ∧
      bound.isOverlong = false ∧ ∀ wall : DateTime,
        bound.truth (.moment wall) = .ofBool (op.places (wall.compare t.wall)) := by
  have hcoerced := coerced_alone hread hop
  have hbind := bind_moment hkind t
  have hone : [Operand.single column.kind (.moment t)].mapM Operand.bind = .ok [.moment t.wall] :=
    mapM_eq_ok.2 (.cons hbind .nil)
  rcases hop with rfl | rfl | rfl
  · refine ⟨.oneOf [.single column.kind (.moment t)], .oneOf [.moment t.wall], ?_, ?_, rfl, ?_⟩
    · rw [columnTest_of_coerces rfl, hcoerced]
      rfl
    · rw [CellTest.bind, hone]
      rfl
    · intro wall
      rw [CellTest.truth, List.map_singleton, Cell.relate_moment, Operator.places]
      cases wall.compare t.wall <;> rfl
  · refine ⟨.noneOf [.single column.kind (.moment t)], .noneOf [.moment t.wall], ?_, ?_, rfl, ?_⟩
    · rw [columnTest_of_coerces rfl, hcoerced]
      rfl
    · rw [CellTest.bind, hone]
      rfl
    · intro wall
      rw [CellTest.truth, List.map_singleton, Cell.relate_moment, Operator.places]
      cases wall.compare t.wall <;> rfl
  · refine ⟨.between (.single column.kind (.moment t)) (.single column.kind (.moment t)),
      .between (.moment t.wall) (.moment t.wall), ?_, ?_, rfl, ?_⟩
    · rw [columnTest_of_coerces rfl, hcoerced]
      rfl
    · rw [CellTest.bind, hbind]
      rfl
    · intro wall
      rw [CellTest.truth, Cell.relate_moment, Cell.relate_moment, Operator.places]
      cases wall.compare t.wall <;> rfl

/-- A time passes a comparison with a time alone by its place beside it. -/
theorem passes_alone_iff (hop : op ∈ Operator.ordered) (hdate : v.isDateOnly = false)
    (path : String) (wall : DateTime) :
    Passes ⟨path, op, op.alone v⟩ column (.moment wall) ↔
      op.places (wall.compare t.wall) = true := by
  rcases List.mem_append.1 hop with hcomparing | hseveral
  · have hasks : asksDay column op v = false := by
      rw [asksDay, hdate, Bool.and_false]
    have hsame : op.alone v = v ∧ op.places = op.accepts := by
      simp only [Operator.comparing, List.mem_cons, List.not_mem_nil, or_false] at hcomparing
      rcases hcomparing with rfl | rfl | rfl | rfl | rfl | rfl
      all_goals exact ⟨rfl, rfl⟩
    rw [hsame.1, hsame.2, passes_comparing_iff hread hkind hcomparing hasks]
  · simp only [List.mem_cons, List.not_mem_nil, or_false] at hseveral
    obtain ⟨u, bound, htest, hbound, hlong, htruth⟩ :=
      exists_test_alone hread hkind hseveral path
    rw [passes_iff htest hbound, htruth, hlong, Truth.holds_eq_true, Truth.ofBool_eq_yes]
    exact and_iff_right rfl

end

theorem passes_congr (h : columnTest column path op v = columnTest column path op w)
    (cell : Cell) : Passes ⟨path, op, v⟩ column cell ↔ Passes ⟨path, op, w⟩ column cell := by
  rw [Passes, Passes, cellTest?, cellTest?, h]

theorem forall₂_alone (op : Operator) (h : Value.Respelling name aware v w) :
    List.Forall₂ (Value.Respelling name aware) (op.operands (op.alone v))
      (op.operands (op.alone w)) := by
  rw [Operator.operands, Operator.operands, Operator.alone, Operator.alone]
  cases op.arity with
  | list => exact .cons h .nil
  | pair => exact .cons h (.cons h .nil)
  | _ => exact .cons h .nil

/-- An operator tells two ways to write an instant apart by some time, unless the column keeps no
offsets or the clocks show the same. -/
theorem passes_alone_congr_iff (hkind : column.kind = .moment aware)
    (hleft : Coercion.Writes column.name text t) (hright : Coercion.Writes column.name other u)
    (hinstant : t.instant = u.instant) (hop : op ∈ Operator.ordered) (path : String) :
    (∀ wall : DateTime, Passes ⟨path, op, op.alone (.text text)⟩ column (.moment wall) ↔
      Passes ⟨path, op, op.alone (.text other)⟩ column (.moment wall)) ↔
      (aware = true → t.wall = u.wall) := by
  constructor
  · rintro hpasses rfl
    have hplaces (wall : DateTime) :
        op.places (wall.compare t.wall) = op.places (wall.compare u.wall) := by
      have hreadt : column.kind.coerce column.name (.text text) =
          .ok (.moment ⟨t.wall, some (t.offset.getD .universal)⟩) := by
        rw [coerce_timestamp hkind rfl hleft.read]
        rfl
      have hreadu : column.kind.coerce column.name (.text other) =
          .ok (.moment ⟨u.wall, some (u.offset.getD .universal)⟩) := by
        rw [coerce_timestamp hkind rfl hright.read]
        rfl
      have hiff := hpasses wall
      rw [passes_alone_iff hreadt hkind hop hleft.not_isDateOnly,
        passes_alone_iff hreadu hkind hop hright.not_isDateOnly] at hiff
      exact Bool.eq_iff_iff.2 hiff
    -- The clocks themselves are the times that can tell them apart.
    have hself (wall : DateTime) : wall.compare wall = .eq := DateTime.compare_eq_eq.2 rfl
    have hthere := hplaces t.wall
    have hback := hplaces u.wall
    rw [hself] at hthere hback
    have hswap : u.wall.compare t.wall = (t.wall.compare u.wall).swap :=
      Std.OrientedOrd.eq_swap (α := DateTime)
    rw [hswap] at hback
    exact DateTime.compare_eq_eq.1 (Operator.eq_of_places hop hthere.symm hback)
  · intro hclock wall
    have hitem := Value.Respelling.instant hleft hright hinstant hclock
    exact passes_congr (columnTest_respelled hkind path (forall₂_alone op hitem)) _

end Comparison

end CollectionQuery
