import CollectionQuery.Cell.Binding

/-!
# The texts of identifiers

The text of an identifier without its dashes is its digits, and their number in base sixteen is the
identifier, so two identifiers have different texts.
-/

namespace CollectionQuery.Uuid

theorem value_injective : Function.Injective value := by
  rintro ⟨m, hm⟩ ⟨n, hn⟩ rfl
  rfl

/-! ## Identifiers that are drawn -/

/-- Sixteen identifiers as they are drawn at random, with letters among their digits. -/
def drawn (n : Nat) : Uuid where
  value := 0x9e3779b100004000a000000000000000 + n % 16
  value_lt := by
    rw [bound]
    omega

theorem isLegible_drawn (n : Nat) : (drawn n).isLegible = true := by
  have hall : ∀ m < 16, (drawn m).isLegible = true := by decide +kernel
  have hmod : drawn n = drawn (n % 16) := value_injective (by simp only [drawn, Nat.mod_mod])
  rw [hmod]
  exact hall (n % 16) (Nat.mod_lt n (by decide))

/-! ## Digits -/

/-- The number that digits in base sixteen write. -/
def hexNumber (digits : List Char) : Nat :=
  digits.foldl (fun n c => n * 16 + (hexValue? c).getD 0) 0

theorem hexValue?_digitChar {d : Nat} (h : d < 16) : (hexValue? (Nat.digitChar d)).getD 0 = d := by
  have hall : ∀ d : Fin 16, (hexValue? (Nat.digitChar d)).getD 0 = d := by decide
  exact hall ⟨d, h⟩

theorem hexNumber_append_singleton (digits : List Char) (c : Char) :
    hexNumber (digits ++ [c]) = hexNumber digits * 16 + (hexValue? c).getD 0 := by
  rw [hexNumber, List.foldl_append]
  rfl

theorem hexNumber_toDigits (n : Nat) : hexNumber (Nat.toDigits 16 n) = n := by
  induction n using Nat.strongRecOn with
  | ind n ih =>
      rw [Nat.toDigits_eq_if (by decide)]
      split
      · next hn =>
          show 0 * 16 + (hexValue? (Nat.digitChar n)).getD 0 = n
          rw [hexValue?_digitChar hn]
          omega
      · next hn =>
          rw [hexNumber_append_singleton, ih _ (by omega),
            hexValue?_digitChar (Nat.mod_lt _ (by decide))]
          omega

/-- Zeros in front do not count. -/
theorem hexNumber_replicate_append (k : Nat) (digits : List Char) :
    hexNumber (List.replicate k '0' ++ digits) = hexNumber digits := by
  induction k with
  | zero => rfl
  | succ k ih => exact ih

theorem dash_not_mem_hexDigits (n : Nat) : '-' ∉ Nat.toDigits 16 n := by
  induction n using Nat.strongRecOn with
  | ind n ih =>
      rw [Nat.toDigits_eq_if (by decide)]
      split
      · simp
      · next hn => simp [ih (n / 16) (by omega)]

theorem dash_not_mem_digits (u : Uuid) : '-' ∉ u.digits := by
  simp [digits, dash_not_mem_hexDigits, List.mem_replicate]

theorem digits_injective {u v : Uuid} (h : u.digits = v.digits) : u = v := by
  have hvalue := congrArg hexNumber h
  rw [digits, digits, hexNumber_replicate_append, hexNumber_replicate_append, hexNumber_toDigits,
    hexNumber_toDigits] at hvalue
  cases u
  cases v
  cases hvalue
  rfl

/-- The digits are what a text has besides its dashes. -/
theorem filter_text (u : Uuid) : u.text.toList.filter (· != '-') = u.digits := by
  have hpart (part : List Char) (h : part ⊆ u.digits) : part.filter (· != '-') = part := by
    refine List.filter_eq_self.2 fun c hc => bne_iff_ne.2 ?_
    rintro rfl
    exact u.dash_not_mem_digits (h hc)
  have hgroup (m n : Nat) : (u.digits.drop m).take n ++ u.digits.drop (m + n) =
      u.digits.drop m := by
    rw [← List.drop_drop, List.take_append_drop]
  have hsub (m : Nat) : u.digits.drop m ⊆ u.digits := List.drop_subset _ _
  rw [text, String.toList_ofList]
  simp only [List.filter_append, List.filter_cons, bne_self_eq_false, Bool.false_eq_true, if_false,
    hpart _ (List.take_subset _ _), hpart _ (hsub 20),
    fun m n => hpart _ (List.Subset.trans (List.take_subset n _) (hsub m)), List.append_assoc,
    hgroup 16 4, hgroup 12 4, hgroup 8 4, List.take_append_drop]

theorem text_injective {u v : Uuid} (h : u.text = v.text) : u = v :=
  digits_injective (by rw [← filter_text, ← filter_text, h])

end CollectionQuery.Uuid
