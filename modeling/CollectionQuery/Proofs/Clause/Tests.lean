import CollectionQuery.Proofs.Clause.Known

/-!
# The tests of a clause

Replacing the operands of a clause fails exactly as replacing them one after the other does, from
the left, whatever the clause is made of.  It leaves the patterns as they are.
-/

namespace CollectionQuery

section Ending

variable {α β ε : Type}

/-- How an operation ends, whatever its result is. -/
def ending (r : Except ε α) : Except ε Unit := r.map fun _ => ()

theorem ending_eq_error {r : Except ε α} {e : ε} : ending r = .error e ↔ r = .error e := by
  cases r <;> simp [ending, Except.map]

theorem ending_map (r : Except ε α) (g : α → β) : ending (r.map g) = ending r := by
  cases r <;> rfl

/-- Operations in sequence end alike if the first and the second ones do. -/
theorem ending_bind {α' β' : Type} {r : Except ε α} {r' : Except ε α'} {f : α → Except ε β}
    {f' : α' → Except ε β'} (hr : ending r = ending r')
    (hf : ∀ a a', ending (f a) = ending (f' a')) : ending (r >>= f) = ending (r' >>= f') := by
  cases r with
  | error e =>
      cases r' with
      | error e' =>
          cases hr
          rfl
      | ok a' => cases hr
  | ok a =>
      cases r' with
      | error e' => cases hr
      | ok a' => exact hf a a'

theorem ending_mapM_append (f : α → Except ε β) (xs ys : List α) :
    ending ((xs ++ ys).mapM f) = ending (xs.mapM f >>= fun _ => ys.mapM f) := by
  rw [List.mapM_append]
  exact ending_bind rfl fun bs _ => by cases ys.mapM f <;> rfl

end Ending

/-! ## Tests -/

namespace CellTest

variable {α β ε : Type} {f : α → Except ε β}

/-- The operands of a test, from the left. -/
def operands : CellTest α → List α
  | isNull => []
  | notNull => []
  | relates _ x => [x]
  | oneOf xs => xs
  | noneOf xs => xs
  | between low high => [low, high]
  | onDay start next => [start, next]
  | offDay start next => [start, next]
  | matching _ _ _ => []
  | matchingHalf _ _ pattern => [pattern]

theorem ending_bind_eq (t : CellTest α) : ending (t.bind f) = ending (t.operands.mapM f) := by
  have hpair (build : β → β → CellTest β) (x y : α) :
      ending (do return build (← f x) (← f y)) = ending ([x, y].mapM f) := by
    rw [List.mapM_cons, List.mapM_cons, List.mapM_nil]
    cases f x with
    | error e => rfl
    | ok b => cases f y <;> rfl
  cases t with
  | isNull => rfl
  | notNull => rfl
  | matching => rfl
  | relates accepts x =>
      rw [operands, List.mapM_cons, List.mapM_nil, bind]
      cases f x <;> rfl
  | matchingHalf fold escape x =>
      rw [operands, List.mapM_cons, List.mapM_nil, bind]
      cases f x <;> rfl
  | oneOf xs =>
      rw [operands, bind]
      cases xs.mapM f <;> rfl
  | noneOf xs =>
      rw [operands, bind]
      cases xs.mapM f <;> rfl
  | between low high => exact hpair between low high
  | onDay start next => exact hpair onDay start next
  | offDay start next => exact hpair offDay start next

end CellTest

/-! ## Clauses -/

namespace Clause

variable {α β ε : Type} {f : α → Except ε β}

theorem testsOf_eq (items : List (Clause α)) : testsOf items = items.flatMap tests := by
  induction items with
  | nil => rw [testsOf, List.flatMap_nil]
  | cons item rest ih => rw [testsOf, ih, List.flatMap_cons]

@[simp] theorem tests_test (column : String) (t : CellTest α) : (test column t).tests = [t] := by
  rw [tests]

@[simp] theorem tests_related (r : Relation) (inner : Clause α) :
    (related r inner).tests = inner.tests := by
  rw [tests]

@[simp] theorem tests_all (items : List (Clause α)) : (all items).tests = items.flatMap tests := by
  rw [tests, testsOf_eq]

@[simp] theorem tests_any (items : List (Clause α)) : (any items).tests = items.flatMap tests := by
  rw [tests, testsOf_eq]

/-- The operands in a clause, from the left. -/
def operands (cl : Clause α) : List α := cl.tests.flatMap CellTest.operands

-- The recursion goes through the list of parts, so both statements are proved together.
mutual

theorem ending_bind_eq : ∀ cl : Clause α, ending (cl.bind f) = ending (cl.operands.mapM f)
  | test column t => by
      rw [bind, ending_map, t.ending_bind_eq, operands, tests_test, List.flatMap_singleton]
  | related r inner => by
      rw [bind, ending_map, ending_bind_eq inner, operands, operands, tests_related]
  | all items => by
      rw [bind, ending_map, ending_bindAll_eq items, operands, tests_all, List.flatMap_assoc]
      rfl
  | any items => by
      rw [bind, ending_map, ending_bindAll_eq items, operands, tests_any, List.flatMap_assoc]
      rfl

theorem ending_bindAll_eq : ∀ items : List (Clause α),
    ending (bindAll f items) = ending ((items.flatMap operands).mapM f)
  | [] => by
      rw [bindAll, List.flatMap_nil, List.mapM_nil]
      rfl
  | item :: rest => by
      rw [bindAll, List.flatMap_cons, ending_mapM_append]
      refine ending_bind (ending_bind_eq item) fun first _ => ?_
      rw [← ending_bindAll_eq rest]
      cases bindAll f rest <;> rfl

end

/-- The first operand that cannot be replaced decides the failure. -/
theorem bind_eq_error {cl : Clause α} {e : ε} :
    cl.bind f = .error e ↔ cl.operands.mapM f = .error e := by
  rw [← ending_eq_error, ending_bind_eq, ending_eq_error]

theorem exists_of_bind_eq_ok {cl : Clause α} {bound : Clause β} (h : cl.bind f = .ok bound)
    {x : α} (hx : x ∈ cl.operands) : ∃ y, f x = .ok y := by
  cases hall : cl.operands.mapM f with
  | error e => cases h.symm.trans (bind_eq_error.2 hall)
  | ok ys =>
      obtain ⟨y, -, hy⟩ := (mapM_eq_ok.1 hall).exists_of_mem_left x hx
      exact ⟨y, hy⟩

/-! ## Patterns -/

theorem isOverlong_bind_test {t : CellTest α} {u : CellTest β} (h : t.bind f = .ok u) :
    u.isOverlong = t.isOverlong := by
  cases t with
  | isNull | notNull | matching =>
      cases h
      rfl
  | relates | oneOf | noneOf | matchingHalf =>
      obtain ⟨_, -, h⟩ := bind_eq_ok.1 h
      cases h
      rfl
  | between | onDay | offDay =>
      obtain ⟨_, -, h⟩ := bind_eq_ok.1 h
      obtain ⟨_, -, h⟩ := bind_eq_ok.1 h
      cases h
      rfl

-- As above, the recursion goes through the list of parts.
mutual

theorem isOverlong_bind : ∀ {cl : Clause α} {bound : Clause β}, cl.bind f = .ok bound →
    bound.isOverlong = cl.isOverlong
  | test _ t, _, h => by
      obtain ⟨u, hu, rfl⟩ := bind_test_eq_ok.1 h
      rw [isOverlong_test, isOverlong_test, isOverlong_bind_test hu]
  | related _ inner, _, h => by
      obtain ⟨u, hu, rfl⟩ := bind_related_eq_ok.1 h
      rw [isOverlong_related, isOverlong_related, isOverlong_bind hu]
  | all items, _, h => by
      rw [bind] at h
      obtain ⟨us, hus, rfl⟩ := map_eq_ok.1 h
      rw [isOverlong_all, isOverlong_all, any_isOverlong_bindAll hus]
  | any items, _, h => by
      rw [bind] at h
      obtain ⟨us, hus, rfl⟩ := map_eq_ok.1 h
      rw [isOverlong_any, isOverlong_any, any_isOverlong_bindAll hus]

theorem any_isOverlong_bindAll : ∀ {items : List (Clause α)} {bounds : List (Clause β)},
    bindAll f items = .ok bounds → bounds.any isOverlong = items.any isOverlong
  | [], _, h => by
      cases h
      rfl
  | item :: rest, _, h => by
      rw [bindAll] at h
      obtain ⟨first, hfirst, h⟩ := bind_eq_ok.1 h
      obtain ⟨others, hothers, h⟩ := bind_eq_ok.1 h
      cases h
      rw [List.any_cons, List.any_cons, isOverlong_bind hfirst, any_isOverlong_bindAll hothers]

end

end Clause

end CollectionQuery
