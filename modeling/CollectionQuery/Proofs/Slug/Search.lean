import CollectionQuery.Proofs.Slug

/-!
# The search for a free slug

The search goes through as many numberings as there are slugs that begin with the base, and the base
is one of these.  So one of the numberings is free, unless the base is among them as well.  Then the
column cuts it in front of every number, so two numbers of one width do not both give slugs that
begin with it: all numberings are taken only if there is one of them, the base itself.

Nor does the search come to a number that is wider than the column, since the base would be cut to
nothing in front of the widest numbers that fit, whatever digit they begin with.
-/

namespace CollectionQuery.Slug

open CollectionQuery.Text

variable {base front : List Char} {stored : List String} {slug : String} {i n : Nat}

/-! ## Bases that are numberings of themselves -/

theorem length_cut_le (base : String) : (cut base).length ≤ maxLength :=
  List.length_take_le _ _

/-- A numbering does not end in a dash. -/
theorem getLast?_numbered (base : List Char) (i : Nat) :
    (numbered base i).getLast? ≠ some '-' := by
  intro hlast
  rw [numbered_eq, List.getLast?_append_of_ne_nil _ (List.cons_ne_nil _ _),
    List.getLast?_cons, Option.some_inj] at hlast
  cases hdigits : (Nat.toDigits 10 i).getLast? with
  | none => exact Nat.toDigits_ne_nil (List.getLast?_eq_none_iff.1 hdigits)
  | some d =>
      rw [hdigits, Option.getD_some] at hlast
      exact dash_not_mem_toDigits i (hlast ▸ List.mem_of_getLast? hdigits)

/-- A base that is a numbering of itself leaves at most one place of the column. -/
theorem length_of_numbered_eq_self (h : numbered base i = base) :
    maxLength ≤ base.length + 1 := by
  by_contra hshort
  rw [numbered_eq] at h
  obtain ⟨after, hcut, hafter⟩ := exists_dropTrailing (· == '-')
    (base.take (maxLength - (1 + (Nat.toDigits 10 i).length)))
  generalize dropTrailing (· == '-')
    (base.take (maxLength - (1 + (Nat.toDigits 10 i).length))) = front at h hcut
  have hbase := congrArg List.length h
  have htake := congrArg List.length hcut
  have hwidth : 0 < (Nat.toDigits 10 i).length := List.length_pos_iff.2 Nat.toDigits_ne_nil
  simp only [List.length_append, List.length_cons, List.length_take] at hbase htake
  -- More than the last dash is cut off in front of the number, so a digit of it would be a dash.
  have hprefix : after <+: '-' :: Nat.toDigits 10 i := by
    rw [← List.prefix_append_right_inj front, h, ← hcut]
    exact List.take_prefix _ _
  match after with
  | [] => simp only [List.length_nil] at htake; omega
  | [_] => simp only [List.length_cons, List.length_nil] at htake; omega
  | _ :: d :: more =>
      have hdigit : d ∈ Nat.toDigits 10 i :=
        (List.cons_prefix_cons.1 hprefix).2.subset List.mem_cons_self
      have hdash : d = '-' := by simpa using hafter d (by simp)
      exact dash_not_mem_toDigits i (hdash ▸ hdigit)

/-- A base is its own numbering with 2 if it ends in this number and fills the column, but perhaps
for one character. -/
theorem numbered_two_eq_self_iff (hbase : base.length ≤ maxLength) :
    numbered base 2 = base ↔
      ∃ front, base = front ++ ['-', '2'] ∧ 252 ≤ front.length ∧ front.getLast? ≠ some '-' := by
  have hdigits : Nat.toDigits 10 2 = ['2'] := rfl
  constructor
  · intro h
    have hroom := length_of_numbered_eq_self h
    rw [numbered_eq, hdigits] at h
    refine ⟨_, h.symm, ?_, fun hlast => absurd (getLast?_dropTrailing hlast) (by decide)⟩
    rw [← h, List.length_append] at hroom
    change 255 ≤ _ + 2 + 1 at hroom
    omega
  · rintro ⟨front, rfl, hlow, hlast⟩
    rw [List.length_append, List.length_cons, List.length_singleton, maxLength] at hbase
    have htake : (front ++ ['-', '2']).take 253 =
        front ++ ['-', '2'].take (253 - front.length) := by
      rw [List.take_append, List.take_of_length_le (by omega)]
    have hdashes : ∀ c ∈ ['-', '2'].take (253 - front.length), (c == '-') = true := by
      obtain hfull | hone : 253 - front.length = 0 ∨ 253 - front.length = 1 := by omega
      · simp [hfull]
      · simp [hone]
    have hfront : dropTrailing (· == '-') ((front ++ ['-', '2']).take 253) = front := by
      rw [htake]
      refine dropTrailing_append_class (fun c hc => beq_eq_false_iff_ne.2 ?_) hdashes
      rintro rfl
      exact hlast hc
    rw [numbered_eq, hdigits]
    exact congrArg (· ++ ['-', '2']) hfront

/-! ## Bases with which all numberings begin -/

/-- What two texts both begin with ends where they part. -/
theorem prefix_of_fork {text more rest : List Char} {c d : Char} (hc : base <+: text ++ c :: more)
    (hd : base <+: text ++ d :: rest) (hne : c ≠ d) : base <+: text := by
  rcases List.prefix_or_prefix_of_prefix hc (List.prefix_append text (c :: more)) with h | h
  · exact h
  · obtain ⟨back, rfl⟩ := h
    rw [List.prefix_append_right_inj] at hc hd
    cases back with
    | nil => simp
    | cons x back =>
        exact absurd ((List.cons_prefix_cons.1 hc).1.symm.trans (List.cons_prefix_cons.1 hd).1) hne

theorem toDigits_leading {d : Nat} (hpos : 0 < d) (hd : d < 10) (j : Nat) :
    Nat.toDigits 10 (d * 10 ^ j) = Nat.digitChar d :: List.replicate j '0' := by
  induction j with
  | zero => rw [Nat.pow_zero, Nat.mul_one, Nat.toDigits_of_lt_base hd, List.replicate_zero]
  | succ j ih =>
      have hstep : d * 10 ^ (j + 1) = 10 * (d * 10 ^ j) + 0 := by
        rw [Nat.pow_succ, Nat.add_zero, Nat.mul_comm 10, Nat.mul_assoc]
      have hfirst : 0 < d * 10 ^ j := Nat.mul_pos hpos (Nat.pow_pos (by omega))
      rw [hstep, ← Nat.toDigits_append_toDigits (by omega) hfirst (by omega), ih,
        List.replicate_succ', List.cons_append]
      rfl

/-- What stands in front of the digits of a number, with the dash. -/
def frontOf (base : List Char) (width : Nat) : List Char :=
  dropTrailing (· == '-') (base.take (maxLength - (1 + width))) ++ ['-']

theorem numbered_leading (base : List Char) {d : Nat} (hpos : 0 < d) (hd : d < 10) (j : Nat) :
    numbered base (d * 10 ^ j) =
      frontOf base (j + 1) ++ Nat.digitChar d :: List.replicate j '0' := by
  rw [numbered_eq, toDigits_leading hpos hd, List.length_cons, List.length_replicate, frontOf,
    List.append_assoc, List.singleton_append]

theorem length_frontOf_le (base : List Char) (width : Nat) :
    (frontOf base width).length ≤ maxLength - (1 + width) + 1 := by
  have hfront := (List.rdropWhile_prefix (· == '-')
    (base.take (maxLength - (1 + width)))).length_le
  have htake := List.length_take_le (maxLength - (1 + width)) base
  rw [frontOf, dropTrailing_eq_rdropWhile, List.length_append, List.length_singleton]
  omega

/-- If all numberings up to some width begin with the base, then what stands in front of numbers of
this width does: they may begin with any digit. -/
theorem prefix_frontOf {j : Nat} (hn : 3 * 10 ^ j < n)
    (hall : ∀ m, 2 ≤ m → m < n → base <+: numbered base m) : base <+: frontOf base (j + 1) := by
  have hpos : 0 < 10 ^ j := Nat.pow_pos (by omega)
  have htwo := hall (2 * 10 ^ j) (by omega) (by omega)
  have hthree := hall (3 * 10 ^ j) (by omega) (by omega)
  rw [numbered_leading base (by omega) (by omega)] at htwo hthree
  exact prefix_of_fork htwo hthree (by decide)

/-- Such a base leaves room for numbers of this width. -/
theorem length_of_all_begin {j : Nat} (hj : j < 254) (hn : 3 * 10 ^ j < n)
    (hall : ∀ m, 2 ≤ m → m < n → base <+: numbered base m) : base.length + j ≤ 254 := by
  have hprefix := (prefix_frontOf hn hall).length_le
  have hfront := length_frontOf_le base (j + 1)
  rw [maxLength] at hfront
  omega

/-- A base that is a numbering of itself leaves no such room, and it does not end in a dash. -/
theorem not_all_begin_of_numbered_eq_self (h : numbered base i = base) (hn : 3 < n)
    (hall : ∀ m, 2 ≤ m → m < n → base <+: numbered base m) : False := by
  have hroom := length_of_numbered_eq_self h
  have hprefix : base <+: frontOf base 1 := prefix_frontOf (j := 0) (by omega) hall
  have hfront := length_frontOf_le base 1
  have hwhole : base = frontOf base 1 := hprefix.eq_of_length_le (by rw [maxLength] at *; omega)
  refine getLast?_numbered base i ?_
  rw [h, hwhole, frontOf, List.getLast?_append]
  rfl

/-! ## The search comes to an end -/

theorem begins_of_taken (h : String.ofList (numbered base i) ∈ takenWith base stored) :
    base <+: numbered base i := by
  have hbegins := (mem_takenWith.1 h).2
  rwa [String.toList_ofList] at hbegins

section

variable {base : String}

/-- Whether a base is its own numbering with 2 and no other stored slug begins with it. -/
def Alone (stored : List String) (base : String) : Prop :=
  takenWith (cut base) stored = [String.ofList (cut base)] ∧ numbered (cut base) 2 = cut base

/-- The search finds nothing exactly for a base that is alone. -/
theorem unique?_eq_none_iff : unique? stored base = none ↔ Alone stored base := by
  constructor
  · intro h
    rw [unique?_eq] at h
    split at h
    · next hmem =>
        obtain ⟨i, hlow, hhigh, hself⟩ := exists_numbered_eq_self hmem h
        have hone : (takenWith (cut base) stored).length = 1 := by
          have hsome := List.length_pos_of_mem (base_mem_takenWith hmem)
          by_contra hmore
          exact not_all_begin_of_numbered_eq_self hself (n := 4) (by omega)
            fun m hm hlt => begins_of_taken (firstFree_eq_none h m hm (by omega))
        obtain ⟨only, honly⟩ := List.length_eq_one_iff.1 hone
        have hbase := base_mem_takenWith hmem
        rw [honly, List.mem_singleton] at hbase
        obtain rfl : i = 2 := by omega
        exact ⟨by rw [honly, hbase], hself⟩
    · cases h
  · rintro ⟨hone, hself⟩
    have hmem : String.ofList (cut base) ∈ stored :=
      (mem_takenWith.1 (hone ▸ List.mem_singleton_self _)).1
    rw [unique?_eq, if_pos hmem, hone, List.length_singleton, firstFree, hself,
      if_pos (List.mem_singleton_self _)]
    rfl

/-- What is found is no longer than the column if the base has two characters, or else if there are
fewer slugs to look at than numbers that fit. -/
theorem length_le_of_unique? (h : unique? stored base = some slug)
    (hroom : 2 ≤ (cut base).length ∨ (takenWith (cut base) stored).length + 1 < 10 ^ 254) :
    slug.length ≤ maxLength := by
  rw [unique?_eq] at h
  split at h
  · obtain ⟨n, -, hn, rfl, -, hbefore⟩ := firstFree_eq_some h
    rw [String.length_ofList]
    refine length_numbered_le _ ((fits_iff (by decide)).2 ?_)
    change n < 10 ^ 254
    by_contra hwide
    have hleading : 3 * 10 ^ 253 < 10 ^ 254 := by decide
    have hshort := length_of_all_begin (j := 253) (by omega) (by omega)
      fun m hm hlt => begins_of_taken (hbefore m hm hlt)
    omega
  · cases h
    rw [String.length_ofList]
    exact length_cut_le base

/-- What the search for a free slug gives a base. -/
structure SearchResult (stored : List String) (base : String) : Prop where
  /-- No two numberings agree, whatever is cut and trimmed. -/
  distinct : Function.Injective (numbered (cut base))
  /-- A base that is taken has a free numbering among as many as there are slugs that begin with
  it, unless it is alone. -/
  candidate : String.ofList (cut base) ∈ takenWith (cut base) stored →
    ((∃ i, 2 ≤ i ∧ i ≤ (takenWith (cut base) stored).length + 1 ∧
      String.ofList (numbered (cut base) i) ∉ takenWith (cut base) stored) ↔ ¬ Alone stored base)
  /-- The search finds nothing only for a base that is alone. -/
  answered : unique? stored base = none ↔ Alone stored base
  /-- Such a base ends in the number 2 and leaves at most one place of the column. -/
  alone : Alone stored base ↔ takenWith (cut base) stored = [String.ofList (cut base)] ∧
    ∃ front, cut base = front ++ ['-', '2'] ∧ 252 ≤ front.length ∧ front.getLast? ≠ some '-'
  /-- What is found is not taken. -/
  free : ∀ slug, unique? stored base = some slug → slug ∉ takenWith (cut base) stored
  /-- What is found fits in the column. -/
  bounded : ∀ slug, unique? stored base = some slug →
    2 ≤ (cut base).length ∨ (takenWith (cut base) stored).length + 1 < 10 ^ 254 →
      slug.length ≤ maxLength

theorem exists_candidate_iff (hmem : String.ofList (cut base) ∈ takenWith (cut base) stored) :
    (∃ i, 2 ≤ i ∧ i ≤ (takenWith (cut base) stored).length + 1 ∧
      String.ofList (numbered (cut base) i) ∉ takenWith (cut base) stored) ↔
        ¬ Alone stored base := by
  constructor
  · rintro ⟨i, hlow, hhigh, hfree⟩ ⟨hone, hself⟩
    rw [hone, List.length_singleton] at hhigh
    obtain rfl : i = 2 := by omega
    rw [hself] at hfree
    exact hfree hmem
  · intro halone
    rw [← unique?_eq_none_iff, unique?_eq, if_pos (mem_takenWith.1 hmem).1] at halone
    obtain ⟨slug, hfound⟩ := Option.ne_none_iff_exists'.1 halone
    obtain ⟨i, hlow, hhigh, rfl, hfree, -⟩ := firstFree_eq_some hfound
    exact ⟨i, hlow, by omega, hfree⟩

theorem not_taken_of_unique? (h : unique? stored base = some slug) :
    slug ∉ takenWith (cut base) stored := by
  rw [unique?_eq] at h
  split at h
  · obtain ⟨-, -, -, -, hfree, -⟩ := firstFree_eq_some h
    exact hfree
  · next hmem =>
      cases h
      exact fun htaken => hmem (mem_takenWith.1 htaken).1

/-- Every search finds a free slug that fits, but for a base that is its own numbering with 2 and
has no other slug beginning with it. -/
theorem search_result (stored : List String) (base : String) : SearchResult stored base where
  distinct := numbered_injective (cut base)
  candidate := exists_candidate_iff
  answered := unique?_eq_none_iff
  alone := and_congr_right fun _ => numbered_two_eq_self_iff (length_cut_le base)
  free := fun _ => not_taken_of_unique?
  bounded := fun _ => length_le_of_unique?

theorem takenWith_singleton (base : List Char) :
    takenWith base [String.ofList base] = [String.ofList base] := by
  simp [takenWith]

/-- A base that ends in the number 2 and fills the column is stored.  The only number that is tried
is this one, so there is no answer. -/
theorem search_of_full_numbering :
    let base := String.ofList (List.replicate 253 'a' ++ ['-', '2'])
    base.length = maxLength ∧ String.ofList (cut base) ∈ takenWith (cut base) [base] ∧
      (¬ ∃ i, 2 ≤ i ∧ i ≤ (takenWith (cut base) [base]).length + 1 ∧
        String.ofList (numbered (cut base) i) ∉ takenWith (cut base) [base]) ∧
      unique? [base] base = none := by
  intro base
  have hlength : base.length = maxLength := by
    rw [String.length_ofList, List.length_append, List.length_replicate]
    rfl
  have hcut : cut base = List.replicate 253 'a' ++ ['-', '2'] := by
    rw [cut, List.take_of_length_le (by rw [String.length_toList, hlength]), String.toList_ofList]
  have hself : numbered (cut base) 2 = cut base :=
    (numbered_two_eq_self_iff (length_cut_le base)).2
      ⟨List.replicate 253 'a', hcut, by rw [List.length_replicate]; omega,
        by rw [List.getLast?_replicate]; decide⟩
  have hone : takenWith (cut base) [base] = [String.ofList (cut base)] := by
    have hbase : [base] = [String.ofList (cut base)] := by rw [hcut]
    rw [hbase]
    exact takenWith_singleton (cut base)
  have hmem : String.ofList (cut base) ∈ takenWith (cut base) [base] := by
    rw [hone]
    exact List.mem_singleton_self _
  exact ⟨hlength, hmem, fun hfree => (exists_candidate_iff hmem).1 hfree ⟨hone, hself⟩,
    unique?_eq_none_iff.2 ⟨hone, hself⟩⟩

end

end CollectionQuery.Slug
