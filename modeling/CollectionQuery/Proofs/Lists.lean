import Mathlib.Data.List.Forall2
import Mathlib.Data.List.TakeWhile

/-!
# Corresponding lists

Two lists correspond if their members do, one by one.  Lists that are strictly sorted correspond
already if every member of one has a counterpart in the other and the counterparts stand in the same
order.
-/

namespace List

variable {α β γ : Type} {R : α → β → Prop}

theorem Forall₂.exists_of_mem_left {xs : List α} {ys : List β} (h : Forall₂ R xs ys) :
    ∀ x ∈ xs, ∃ y ∈ ys, R x y := by
  induction h with
  | nil => simp
  | cons hxy _ ih =>
      intro x hx
      rcases mem_cons.1 hx with rfl | hx
      · exact ⟨_, mem_cons_self, hxy⟩
      · obtain ⟨y, hy, hR⟩ := ih x hx
        exact ⟨y, mem_cons_of_mem _ hy, hR⟩

theorem Forall₂.exists_of_mem_right {xs : List α} {ys : List β} (h : Forall₂ R xs ys) :
    ∀ y ∈ ys, ∃ x ∈ xs, R x y :=
  h.flip.exists_of_mem_left

theorem Forall₂.trans {S : β → γ → Prop} {T : α → γ → Prop} {xs : List α} {ys : List β}
    {zs : List γ} (h : Forall₂ R xs ys) (h' : Forall₂ S ys zs)
    (hRS : ∀ x y z, R x y → S y z → T x z) : Forall₂ T xs zs := by
  induction h generalizing zs with
  | nil =>
      cases h'
      exact .nil
  | cons hxy _ ih =>
      cases h' with
      | cons hyz h' => exact .cons (hRS _ _ _ hxy hyz) (ih h')

/-- What follows for the entries on the right from those on the left that they are related to. -/
theorem Forall₂.forall_right {xs : List α} {ys : List β} {P : β → Prop} (h : Forall₂ R xs ys)
    (hP : ∀ x ∈ xs, ∀ {y}, R x y → P y) : ∀ y ∈ ys, P y := by
  intro y hy
  obtain ⟨x, hx, hxy⟩ := h.exists_of_mem_right y hy
  exact hP x hx hxy

theorem Forall₂.map_eq_map {xs : List α} {ys : List β} {f : α → γ} {g : β → γ}
    (h : Forall₂ R xs ys) (hfg : ∀ x y, R x y → f x = g y) : xs.map f = ys.map g := by
  induction h with
  | nil => rfl
  | cons hxy _ ih => rw [map_cons, map_cons, hfg _ _ hxy, ih]

theorem Forall₂.any_eq_any {xs : List α} {ys : List β} {p : α → Bool} {q : β → Bool}
    (h : Forall₂ R xs ys) (hpq : ∀ x y, R x y → p x = q y) : xs.any p = ys.any q := by
  induction h with
  | nil => rfl
  | cons hxy _ ih => rw [any_cons, any_cons, hpq _ _ hxy, ih]

theorem Forall₂.findSome?_eq_findSome? {xs : List α} {ys : List β} {f : α → Option γ}
    {g : β → Option γ} (h : Forall₂ R xs ys) (hfg : ∀ x y, R x y → f x = g y) :
    xs.findSome? f = ys.findSome? g := by
  induction h with
  | nil => rfl
  | cons hxy _ ih => rw [findSome?_cons, findSome?_cons, hfg _ _ hxy, ih]

/-- Conditions that agree on counterparts select counterparts. -/
theorem Forall₂.filter {xs : List α} {ys : List β} {p : α → Bool} {q : β → Bool}
    (h : Forall₂ R xs ys) (hpq : ∀ x y, R x y → p x = q y) :
    Forall₂ R (xs.filter p) (ys.filter q) :=
  rel_filter (fun x y hxy => iff_of_eq (congrArg (· = true) (hpq x y hxy))) h

/-- A list with no two different members has only one order. -/
theorem Perm.eq_of_subsingleton {xs ys : List α} (h : xs.Perm ys)
    (hall : ∀ x ∈ xs, ∀ y ∈ xs, x = y) : xs = ys :=
  ext_get h.length_eq fun _ _ _ => hall _ (get_mem _ _) _ (h.mem_iff.2 (get_mem _ _))

/-- Sorting keeps counterparts in the same places if they are compared alike. -/
theorem Forall₂.mergeSort {xs : List α} {ys : List β} {le : α → α → Bool} {le' : β → β → Bool}
    (h : Forall₂ R xs ys) (hle : ∀ x y x' y', R x y → R x' y' → le x x' = le' y y') :
    Forall₂ R (xs.mergeSort le) (ys.mergeSort le') := by
  obtain ⟨hlength, hzip⟩ := forall₂_iff_zip.1 h
  let pairs := (xs.zip ys).mergeSort fun p q => le p.1 q.1
  have hxs : pairs.map Prod.fst = ((xs.zip ys).map Prod.fst).mergeSort le :=
    map_mergeSort fun _ _ _ _ => rfl
  have hys : pairs.map Prod.snd = ((xs.zip ys).map Prod.snd).mergeSort le' :=
    map_mergeSort fun _ hp _ hq => hle _ _ _ _ (hzip hp) (hzip hq)
  rw [map_fst_zip hlength.le] at hxs
  rw [map_snd_zip hlength.ge] at hys
  rw [← hxs, ← hys, forall₂_map_left_iff, forall₂_map_right_iff]
  exact forall₂_same.2 fun p hp => hzip (mem_mergeSort.1 hp)

variable {before : α → α → Prop} {before' : β → β → Prop}

/-- Heads that stand before all other members correspond: else each would stand before the other. -/
theorem rel_of_heads {x : α} {y : β} {xs : List α} {ys : List β} (hx : ∀ u ∈ xs, before x u)
    (hy : ∀ v ∈ ys, before' y v) (forth : ∃ v ∈ y :: ys, R x v) (back : ∃ u ∈ x :: xs, R u y)
    (mono : ∀ x y x' y', R x y → R x' y' → (before x x' ↔ before' y y'))
    (asymm : ∀ x x', before x x' → ¬ before x' x) : R x y := by
  obtain ⟨v, hv, hxv⟩ := forth
  obtain ⟨u, hu, huy⟩ := back
  rcases mem_cons.1 hv with rfl | hv
  · exact hxv
  rcases mem_cons.1 hu with rfl | hu
  · exact huy
  exact absurd ((mono u y x v huy hxv).2 (hy v hv)) (asymm x u (hx u hu))

/-- Strictly sorted lists with corresponding members correspond member by member. -/
theorem forall₂_of_pairwise {xs : List α} {ys : List β}
    (hxs : xs.Pairwise before) (hys : ys.Pairwise before')
    (forth : ∀ x ∈ xs, ∃ y ∈ ys, R x y) (back : ∀ y ∈ ys, ∃ x ∈ xs, R x y)
    (mono : ∀ x y x' y', R x y → R x' y' → (before x x' ↔ before' y y'))
    (asymm : ∀ x x', before x x' → ¬ before x' x) : Forall₂ R xs ys := by
  induction xs generalizing ys with
  | nil =>
      cases ys with
      | nil => exact .nil
      | cons y ys =>
          obtain ⟨x, hx, -⟩ := back y mem_cons_self
          cases hx
  | cons x xs ih =>
      cases ys with
      | nil =>
          obtain ⟨y, hy, -⟩ := forth x mem_cons_self
          cases hy
      | cons y ys =>
          obtain ⟨hx, hxs⟩ := pairwise_cons.1 hxs
          obtain ⟨hy, hys⟩ := pairwise_cons.1 hys
          have irrefl : ∀ z, ¬ before z z := fun z hz => asymm z z hz hz
          have hhead : R x y :=
            rel_of_heads hx hy (forth x mem_cons_self) (back y mem_cons_self) mono asymm
          refine .cons hhead (ih hxs hys ?_ ?_)
          · intro u hu
            obtain ⟨v, hv, huv⟩ := forth u (mem_cons_of_mem x hu)
            rcases mem_cons.1 hv with rfl | hv
            · exact absurd ((mono x v u v hhead huv).1 (hx u hu))
                fun h => irrefl u ((mono u v u v huv huv).2 h)
            · exact ⟨v, hv, huv⟩
          · intro v hv
            obtain ⟨u, hu, huv⟩ := back v (mem_cons_of_mem y hv)
            rcases mem_cons.1 hu with rfl | hu
            · exact absurd ((mono u y u v hhead huv).2 (hy v hv)) (irrefl u)
            · exact ⟨u, hu, huv⟩

/-! ## Runs -/

section

variable {p : α → Bool} {run rest : List α}

/-- A run of elements up to the first one of another class. -/
theorem takeWhile_run (hrun : ∀ x ∈ run, p x = true) (hrest : ∀ x ∈ rest.head?, p x = false) :
    (run ++ rest).takeWhile p = run := by
  rw [takeWhile_append_of_pos hrun]
  cases rest with
  | nil => simp
  | cons x rest => simp [hrest x rfl]

theorem dropWhile_run (hrun : ∀ x ∈ run, p x = true) (hrest : ∀ x ∈ rest.head?, p x = false) :
    (run ++ rest).dropWhile p = rest := by
  rw [dropWhile_append_of_pos hrun]
  cases rest with
  | nil => simp
  | cons x rest => simp [hrest x rfl]
end

/-! ## Pages -/

theorem flatMap_pages_eq_take (xs : List α) (n count : Nat) :
    ((range count).flatMap fun k => (xs.drop (k * n)).take n) = xs.take (count * n) := by
  induction count with
  | zero => simp
  | succ count ih =>
      rw [range_succ, flatMap_append, ih, Nat.succ_mul, take_add]
      simp

/-- The pages of a list, one after the other, are the list. -/
theorem flatMap_pages (xs : List α) {n : Nat} (hn : 0 < n) :
    ((range ((xs.length + n - 1) / n)).flatMap fun k => (xs.drop (k * n)).take n) = xs := by
  rw [flatMap_pages_eq_take, take_of_length_le]
  have hdiv := Nat.div_add_mod (xs.length + n - 1) n
  have hmod := Nat.mod_lt (xs.length + n - 1) hn
  rw [Nat.mul_comm]
  omega

end List
