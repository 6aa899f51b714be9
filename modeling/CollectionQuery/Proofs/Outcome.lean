import CollectionQuery.Outcome
import Mathlib.Data.List.Forall2

/-!
# Operations in sequence

What it takes for operations in sequence to come to a result: every one of them does, each on the
result of the one before.
-/

namespace CollectionQuery

/-! ## Results or failures -/

section Except

variable {α β ε : Type}

theorem bind_eq_ok {x : Except ε α} {f : α → Except ε β} {b : β} :
    x >>= f = .ok b ↔ ∃ a, x = .ok a ∧ f a = .ok b := by
  cases x with
  | ok a => simp [bind, Except.bind]
  | error e => simp [bind, Except.bind]

theorem map_eq_ok {x : Except ε α} {f : α → β} {b : β} :
    x.map f = .ok b ↔ ∃ a, x = .ok a ∧ f a = b := by
  cases x with
  | ok a => simp [Except.map]
  | error e => simp [Except.map]

@[simp] theorem pure_eq_ok {a b : α} : (pure a : Except ε α) = .ok b ↔ a = b := by
  simp [pure, Except.pure]

theorem eq_ok_of_toOption {x : Except ε α} {a : α} (h : x.toOption = some a) : x = .ok a := by
  cases x with
  | error e => cases h
  | ok b => exact congrArg _ (Option.some.inj h)

theorem exists_eq_ok_of_isOk {x : Except ε α} (h : x.isOk = true) : ∃ a, x = .ok a := by
  cases x with
  | ok a => exact ⟨a, rfl⟩
  | error e => cases h

/-- Reading a list gives the list of what its entries give. -/
theorem mapM_eq_ok {f : α → Except ε β} {xs : List α} {ys : List β} :
    xs.mapM f = .ok ys ↔ List.Forall₂ (fun x y => f x = .ok y) xs ys := by
  induction xs generalizing ys with
  | nil =>
      rw [List.mapM_nil, pure_eq_ok, List.forall₂_nil_left_iff]
      exact eq_comm
  | cons x xs ih =>
      rw [List.mapM_cons, bind_eq_ok, List.forall₂_cons_left_iff]
      constructor
      · rintro ⟨y, hy, h⟩
        obtain ⟨rest, hrest, h⟩ := bind_eq_ok.1 h
        exact ⟨y, rest, hy, ih.1 hrest, (pure_eq_ok.1 h).symm⟩
      · rintro ⟨y, rest, hy, hrest, rfl⟩
        exact ⟨y, hy, bind_eq_ok.2 ⟨rest, ih.2 hrest, rfl⟩⟩

/-- Reading a list fails with the first entry that cannot be read. -/
theorem mapM_eq_error {f : α → Except ε β} {xs : List α} {e : ε} :
    xs.mapM f = .error e ↔ ∃ before x after, xs = before ++ x :: after ∧
      (∀ y ∈ before, (f y).isOk = true) ∧ f x = .error e := by
  induction xs with
  | nil => simp [pure, Except.pure]
  | cons x rest ih =>
      rw [List.mapM_cons]
      simp only [List.cons_eq_append_iff]
      cases hx : f x with
      | error e' =>
          constructor
          · intro h
            cases h
            exact ⟨[], x, rest, Or.inl ⟨rfl, rfl⟩, nofun, hx⟩
          · rintro ⟨before, y, after, ⟨rfl, heq⟩ | ⟨tail, rfl, -⟩, hbefore, hy⟩
            · cases heq
              cases hx.symm.trans hy
              rfl
            · have hok := hbefore x List.mem_cons_self
              rw [hx] at hok
              cases hok
      | ok b =>
          have hrest : (do let b ← .ok b; let bs ← rest.mapM f; pure (b :: bs) : Except ε _) =
              .error e ↔ rest.mapM f = .error e := by
            cases rest.mapM f <;> simp [bind, Except.bind, pure, Except.pure]
          refine hrest.trans (ih.trans ⟨?_, ?_⟩)
          · rintro ⟨before, y, after, rfl, hbefore, hy⟩
            refine ⟨x :: before, y, after, Or.inr ⟨before, rfl, rfl⟩, ?_, hy⟩
            exact List.forall_mem_cons.2 ⟨by rw [hx]; rfl, hbefore⟩
          · rintro ⟨before, y, after, ⟨rfl, heq⟩ | ⟨tail, rfl, rfl⟩, hbefore, hy⟩
            · cases heq
              cases hx.symm.trans hy
            · exact ⟨tail, y, after, rfl, (List.forall_mem_cons.1 hbefore).2, hy⟩

end Except

/-! ## Operations that record -/

namespace Outcome

variable {α β : Type}

theorem result_bind (o : Outcome α) (f : α → Outcome β) :
    (o >>= f).result = o.result.bind fun a => (f a).result := by
  obtain ⟨log, result⟩ := o
  cases result with
  | ok a => rfl
  | error e => rfl

/-- What comes after an operation that records nothing and succeeds. -/
theorem ok_bind (a : α) (f : α → Outcome β) : (ok a >>= f) = f a := by
  simp [Bind.bind, bind, ok]

theorem result_bind_eq_ok {o : Outcome α} {f : α → Outcome β} {b : β} :
    (o >>= f).result = .ok b ↔ ∃ a, o.result = .ok a ∧ (f a).result = .ok b := by
  rw [result_bind]
  exact bind_eq_ok

theorem ext_iff {o p : Outcome α} : o = p ↔ o.log = p.log ∧ o.result = p.result := by
  cases o
  cases p
  simp

/-- Two outcomes that record the same and end with the same failure, or with related results. -/
inductive Alike (R : α → β → Prop) : Outcome α → Outcome β → Prop
  | error (log : List LogEntry) (f : Failure) : Alike R ⟨log, .error f⟩ ⟨log, .error f⟩
  | ok (log : List LogEntry) {a : α} {b : β} (related : R a b) : Alike R ⟨log, .ok a⟩ ⟨log, .ok b⟩

theorem Alike.symm {R : α → β → Prop} {S : β → α → Prop} (hsymm : ∀ a b, R a b → S b a)
    {o : Outcome α} {p : Outcome β} (h : Alike R o p) : Alike S p o := by
  cases h with
  | error log f => exact .error log f
  | ok log related => exact .ok log (hsymm _ _ related)

theorem Alike.trans {γ : Type} {R : α → β → Prop} {S : β → γ → Prop} {T : α → γ → Prop}
    (htrans : ∀ a b c, R a b → S b c → T a c) {o : Outcome α} {p : Outcome β} {q : Outcome γ}
    (h : Alike R o p) (h' : Alike S p q) : Alike T o q := by
  cases h with
  | error log f =>
      cases h' with
      | error => exact .error log f
  | ok log related =>
      cases h' with
      | ok _ related' => exact .ok log (htrans _ _ _ related related')

/-- Operations that end alike fail with the same failures. -/
theorem Alike.error_iff {R : α → β → Prop} {o : Outcome α} {p : Outcome β} (h : Alike R o p)
    (f : Failure) : o.result = .error f ↔ p.result = .error f := by
  cases h with
  | error log g => simp
  | ok log related => exact iff_of_false nofun nofun

/-- Operations on related results end alike after operations that end alike. -/
theorem Alike.bind {γ δ : Type} {R : α → β → Prop} {S : γ → δ → Prop} {o : Outcome α}
    {p : Outcome β} (h : Alike R o p) {f : α → Outcome γ} {g : β → Outcome δ}
    (hfg : ∀ a b, R a b → Alike S (f a) (g b)) : Alike S (o >>= f) (p >>= g) := by
  cases h with
  | error log failure => exact .error log failure
  | @ok log a b related =>
      have hrest := hfg a b related
      show Alike S (Outcome.bind _ f) (Outcome.bind _ g)
      simp only [Outcome.bind]
      cases hf : f a
      cases hg : g b
      rw [hf, hg] at hrest
      cases hrest with
      | error => exact .error _ _
      | ok _ related => exact .ok _ related

/-- Operations that end alike do so after the same operation. -/
theorem alike_bind {γ δ : Type} {S : γ → δ → Prop} (o : Outcome α) {f : α → Outcome γ}
    {g : α → Outcome δ} (hfg : ∀ a, Alike S (f a) (g a)) : Alike S (o >>= f) (o >>= g) := by
  have hsame : Alike Eq o o := by
    obtain ⟨log, f | a⟩ := o
    · exact .error log f
    · exact .ok log rfl
  exact hsame.bind fun a _ h => h ▸ hfg a

end Outcome

end CollectionQuery
