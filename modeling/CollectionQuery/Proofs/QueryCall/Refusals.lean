import CollectionQuery.Proofs.Clause.Tests
import CollectionQuery.Proofs.Cell.Operand
import CollectionQuery.Proofs.QueryCall.Alike

/-!
# Plans and statements that fail

A plan misfits its collection, apart from its predicate, only by names.  A statement whose wording
the storage engine reads fails for one of its tests: an operand is too large, which is answered as a
bad query, or an operand has no form or no bytes or a pattern is too long, which is not.
-/

namespace CollectionQuery

namespace CollectionPlan

variable {s : Store} {a : Audience} {c : Collection} {plan : Plan} {p : CollectionPlan}
  {clause : Clause Operand} {bound : Clause Cell} {task : Engine.Task}

/-! ## Names -/

/-- Whether the storage engine reads the wording of the condition of a plan. -/
def isReadable (a : Audience) (p : CollectionPlan) : Bool :=
  p.condition.all fun clause => (clause.phrase a).isReadable

/-- The storage engine decides whether rows are selected by a condition whose operands have
cells. -/
theorem selected_eq_ite (hpresent : s.present = true) {clause : Clause Operand}
    {bound : Clause Cell} (hcondition : p.condition = some clause)
    (hcells : cells a clause = .ok bound) (task : Engine.Task) :
    p.selected s a task = if p.refuses s a task then .error .refused
      else .ok ((s.rows p.collection).filter fun row => (bound.truth s a row).holds) := by
  rw [selected_of_some hpresent hcondition, hcells]
  simp only [refuses, hcondition, Option.map_some, hcells, bind, Except.bind, matching]

theorem selected_refused_iff (hpresent : s.present = true) {clause : Clause Operand}
    {bound : Clause Cell} (hcondition : p.condition = some clause)
    (hcells : cells a clause = .ok bound) :
    p.selected s a task = .error .refused ↔ p.refuses s a task = true := by
  rw [selected_eq_ite hpresent hcondition hcells]
  cases p.refuses s a task <;> simp

/-- What one statement of a plan selects is selected by every statement of it that the storage
engine does not refuse. -/
theorem selected_of_selected {found : List Row} (h : p.selected s a task = .ok found)
    (other : Engine.Task) :
    p.selected s a other = if p.refuses s a other then .error .refused else .ok found := by
  cases hpresent : s.present with
  | false =>
      rw [selected_absent hpresent] at h
      cases h
  | true =>
      cases hcondition : p.condition with
      | none =>
          rw [selected_of_none hpresent hcondition] at h ⊢
          rw [refuses, hcondition, h]
          rfl
      | some clause =>
          cases hcells : cells a clause with
          | error cause =>
              rw [selected_of_some hpresent hcondition, hcells] at h
              cases h
          | ok bound =>
              rw [selected_eq_ite hpresent hcondition hcells] at h ⊢
              split at h
              · cases h
              · rw [Except.ok.inj h]

/-- A statement that is refused has operands with cells. -/
theorem exists_cells_of_refuses (h : p.refuses s a task = true) :
    ∃ clause bound, p.condition = some clause ∧ cells a clause = .ok bound := by
  rw [refuses] at h
  split at h
  · next bound hcells =>
      obtain ⟨clause, hcondition, hcells⟩ := Option.map_eq_some_iff.1 hcells
      exact ⟨clause, bound, hcondition, hcells⟩
  · cases h

/-- A statement without a pattern that is too long is not refused. -/
theorem refuses_of_short (hshort : ∀ clause, p.condition = some clause → clause.isOverlong = false)
    (s : Store) (a : Audience) (task : Engine.Task) : p.refuses s a task = false := by
  by_contra h
  rw [Bool.not_eq_false] at h
  obtain ⟨clause, bound, hcondition, hcells⟩ := exists_cells_of_refuses h
  simp only [refuses, hcondition, Option.map_some, hcells] at h
  have hover := s.engine.overlong_of_refuses h
  rw [Clause.isOverlong_bind (Clause.bind_of_cells (cells_eq_ok.1 hcells).2),
    hshort clause hcondition] at hover
  cases hover

/-- What the statements do that a plan runs: the second one only runs if the page has numbers. -/
def Asks (p : CollectionPlan) (task : Engine.Task) : Prop :=
  task = .count ∨ p.isNumbered = true ∧ task = p.task

/-- Whether the storage engine refuses one of the statements of a plan. -/
def isRefused (s : Store) (a : Audience) (p : CollectionPlan) : Bool :=
  p.refuses s a .count || p.isNumbered && p.refuses s a p.task

theorem isRefused_iff :
    p.isRefused s a = true ↔ ∃ task, p.Asks task ∧ p.refuses s a task = true := by
  rw [isRefused, Bool.or_eq_true, Bool.and_eq_true]
  constructor
  · rintro (h | ⟨hnumbered, h⟩)
    · exact ⟨_, Or.inl rfl, h⟩
    · exact ⟨_, Or.inr ⟨hnumbered, rfl⟩, h⟩
  · rintro ⟨task, rfl | ⟨hnumbered, rfl⟩, h⟩
    · exact Or.inl h
    · exact Or.inr ⟨hnumbered, h⟩

/-- The end of a page that cannot be read. -/
theorem readPage_error {found : List Row} {cause : StatementFault}
    (h : p.readPage s a found = .error cause) :
    ∃ f, cause = .fault f ∧ p.misread? (p.onPage s a found) = some f := by
  rw [readPage] at h
  split at h
  · next f hmisread =>
      cases h
      exact ⟨f, rfl, hmisread⟩
  · cases h

/-- Why a run fails: it was asked for too large a value or place, one of its statements was refused
or met a fault, or a row of the page cannot be read back. -/
inductive RunFails (s : Store) (a : Audience) (p : CollectionPlan) : Failure → Prop where
  | outOfRange : RunFails s a p (.rejected .outOfRange)
  | refused {task : Engine.Task} (asks : p.Asks task)
      (selected : p.selected s a task = .error .refused) :
      RunFails s a p (.engine Failure.engineDetail)
  | fault {task : Engine.Task} {cause : Fault} (asks : p.Asks task)
      (selected : p.selected s a task = .error (.fault cause)) : RunFails s a p (.fault cause)
  | misread {found : List Row} {cause : Fault} (selected : p.selected s a p.task = .ok found)
      (misread : p.misread? (p.onPage s a found) = some cause) : RunFails s a p (.fault cause)

/-- A statement that fails lets the run fail. -/
theorem RunFails.of_selected {cause : StatementFault} (asks : p.Asks task)
    (h : p.selected s a task = .error cause) {name : String} {α : Type} :
    FailsOnly (p.RunFails s a) (cause.outcome (α := α) name).result := by
  cases cause with
  | outOfRange => exact .of_error .outOfRange
  | refused => exact .of_error (.refused asks h)
  | fault cause => exact .of_error (.fault asks h)

theorem run_fails (s : Store) (a : Audience) (p : CollectionPlan) :
    FailsOnly (p.RunFails s a) (p.run s a).result := by
  cases hcount : p.selected s a .count with
  | error cause =>
      rw [run, count, hcount]
      exact .of_selected (Or.inl rfl) hcount
  | ok found =>
      rw [run_of_counted hcount, page_eq_bind]
      cases hnumbered : p.isNumbered with
      | false => exact .of_error .outOfRange
      | true =>
          rw [if_pos rfl]
          cases hpage : p.selected s a p.task with
          | error cause => exact .of_selected (Or.inr ⟨hnumbered, rfl⟩) hpage
          | ok found =>
              cases hread : p.readPage s a found with
              | ok rows =>
                  simp only [bind, Except.bind, hread]
                  exact .of_ok _
              | error cause =>
                  obtain ⟨f, rfl, hmisread⟩ := readPage_error hread
                  simp only [bind, Except.bind, hread]
                  exact .of_error (.misread hpage hmisread)

theorem run_of_absent (h : s.present = false) :
    p.run s a = StatementFault.refused.outcome p.collection.name := by
  rw [run, count, selected_absent h]
  rfl

/-- A run ends with a refusal if one of its statements is refused. -/
theorem run_of_isRefused (h : p.isRefused s a = true) :
    p.run s a = StatementFault.refused.outcome p.collection.name := by
  cases hpresent : s.present with
  | false => exact run_of_absent hpresent
  | true =>
      obtain ⟨task, asks, hrefuses⟩ := isRefused_iff.1 h
      obtain ⟨clause, bound, hcondition, hcells⟩ := exists_cells_of_refuses hrefuses
      have hselected := selected_eq_ite hpresent hcondition hcells
      cases hcount : p.refuses s a .count with
      | true =>
          rw [run, count, hselected, if_pos hcount]
          rfl
      | false =>
          rcases asks with rfl | ⟨hnumbered, rfl⟩
          · rw [hcount] at hrefuses
            cases hrefuses
          · have hfound := hselected .count
            rw [if_neg (Bool.eq_false_iff.1 hcount)] at hfound
            rw [run_of_counted hfound, page_eq_bind, if_pos hnumbered, hselected, if_pos hrefuses]
            rfl

/-- A run is refused by the storage engine exactly if one of its statements is. -/
theorem run_refused_iff (hpresent : s.present = true) {clause : Clause Operand}
    {bound : Clause Cell} (hcondition : p.condition = some clause)
    (hcells : cells a clause = .ok bound) :
    (p.run s a).result = .error (.engine Failure.engineDetail) ↔ p.isRefused s a = true := by
  refine ⟨fun h => ?_, fun h => by rw [run_of_isRefused h]; rfl⟩
  have hfails := run_fails s a p _ h
  cases hfails with
  | refused asks hselected =>
      exact isRefused_iff.2 ⟨_, asks, (selected_refused_iff hpresent hcondition hcells).1 hselected⟩

end CollectionPlan

end CollectionQuery
