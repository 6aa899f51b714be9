import CollectionQuery.Proofs.Lists
import CollectionQuery.Proofs.Slug.Compound
import Mathlib.Algebra.Order.Ring.Int
import Mathlib.Data.List.Nodup
import Mathlib.Data.List.Perm.Subperm
import Mathlib.Order.Nat

/-!
# Free slugs

A base that is stored already is numbered.  As long as the number fits behind the base, the numbered
slug begins with the base, so it is among the slugs that the search looks at.  Behind the end of the
column the base is cut, and a cut numbering as a rule does not begin with it any more: the search
then takes it without having looked whether it is stored.  So what the search finds is free unless
the base is *crowded*, that is, stored with all the numberings that fit.

No two numberings agree, whatever is cut, because the part behind the last dash tells the number.
So a base is crowded only beside as many slugs as there are numbers that fit, and a search that
finds nothing has met the base among its own numberings.
-/

namespace CollectionQuery

namespace Slug

open CollectionQuery.Text

variable {base : List Char} {stored taken : List String} {slug : String} {i j count : Nat}

/-! ## Numbers -/

theorem dash_not_mem_toDigits (i : Nat) : '-' ∉ Nat.toDigits 10 i := by
  intro hmem
  have hdigit := Nat.isDigit_of_mem_toDigits (by omega) (by omega) hmem
  simp [Char.isDigit] at hdigit

theorem toDigits_injective : Function.Injective (Nat.toDigits 10) := by
  intro i j hij
  have hvalue := congrArg (Nat.ofDigitChars 10 · 0) hij
  simpa using hvalue

/-- A text ends in one number behind its last dash. -/
theorem digits_eq_of_append_eq {front back : List Char}
    (h : front ++ '-' :: Nat.toDigits 10 i = back ++ '-' :: Nat.toDigits 10 j) : i = j := by
  have hrun (front : List Char) (i : Nat) :
      ((front ++ '-' :: Nat.toDigits 10 i).reverse).takeWhile (· != '-') =
        (Nat.toDigits 10 i).reverse := by
    have hreverse : (front ++ '-' :: Nat.toDigits 10 i).reverse =
        (Nat.toDigits 10 i).reverse ++ '-' :: front.reverse := by simp
    rw [hreverse]
    refine List.takeWhile_run (fun c hc => ?_) fun c hc => ?_
    · rw [bne_iff_ne]
      rintro rfl
      exact dash_not_mem_toDigits i (List.mem_reverse.1 hc)
    · cases hc
      rfl
  have hsame := (hrun front i).symm.trans ((congrArg _ (congrArg _ h)).trans (hrun back j))
  exact toDigits_injective (List.reverse_injective hsame)

/-! ## Numberings -/

/-- A base as it is numbered: it ends in no dash, unless the column is full. -/
def Undashed (base : List Char) : Prop :=
  base.length < maxLength → base.getLast? ≠ some '-'

/-- Whether a number fits behind a base. -/
def Fits (base : List Char) (i : Nat) : Prop :=
  base.length + (1 + (Nat.toDigits 10 i).length) ≤ maxLength

instance (base : List Char) (i : Nat) : Decidable (Fits base i) :=
  inferInstanceAs (Decidable (_ ≤ _))

theorem numbered_eq (base : List Char) (i : Nat) : numbered base i =
    dropTrailing (· == '-') (base.take (maxLength - (1 + (Nat.toDigits 10 i).length))) ++
      '-' :: Nat.toDigits 10 i := by
  rw [numbered, List.length_cons, Nat.add_comm]

/-- No two numberings of a base agree. -/
theorem numbered_injective (base : List Char) : Function.Injective (numbered base) := by
  intro i j hij
  rw [numbered_eq, numbered_eq] at hij
  exact digits_eq_of_append_eq hij

/-- A numbering is no longer than the column. -/
theorem length_numbered_le (base : List Char) (h : Fits [] i) :
    (numbered base i).length ≤ maxLength := by
  have hfront := (List.rdropWhile_prefix (· == '-')
    (base.take (maxLength - (1 + (Nat.toDigits 10 i).length)))).length_le
  have htake := List.length_take_le (maxLength - (1 + (Nat.toDigits 10 i).length)) base
  rw [Fits, List.length_nil] at h
  rw [numbered_eq, dropTrailing_eq_rdropWhile, List.length_append, List.length_cons]
  omega

/-- The base is left as it is in front of a number that fits. -/
theorem numbered_of_fits (hbase : Undashed base) (h : Fits base i) :
    numbered base i = base ++ '-' :: Nat.toDigits 10 i := by
  rw [Fits] at h
  rw [numbered_eq, List.take_of_length_le (by omega), dropTrailing_eq_self fun c hc => ?_]
  rw [beq_eq_false_iff_ne]
  rintro rfl
  exact hbase (by omega) hc

theorem fits_iff (hbase : base.length + 1 < maxLength) :
    Fits base i ↔ i < 10 ^ (maxLength - 1 - base.length) := by
  rw [← Nat.length_toDigits_le_iff (by omega) (by omega), Fits]
  omega

/-- Smaller numbers fit where a greater one does. -/
theorem Fits.of_le (h : Fits base j) (hij : i ≤ j) : Fits base i := by
  have hpos : 0 < (Nat.toDigits 10 j).length := List.length_pos_iff.2 Nat.toDigits_ne_nil
  have hroom : base.length + 1 < maxLength := by
    rw [Fits] at h
    omega
  rw [fits_iff hroom] at h ⊢
  omega

/-! ## The search -/

theorem mem_takenWith :
    slug ∈ takenWith base stored ↔ slug ∈ stored ∧ base <+: slug.toList := by
  induction stored with
  | nil => simp [takenWith]
  | cons first rest ih =>
      rw [takenWith]
      split
      · next h =>
          rw [List.isPrefixOf_iff_prefix] at h
          rw [List.mem_cons, ih, List.mem_cons]
          constructor
          · rintro (rfl | ⟨hmem, hbegins⟩)
            · exact ⟨Or.inl rfl, h.1⟩
            · exact ⟨Or.inr hmem, hbegins⟩
          · rintro ⟨rfl | hmem, hbegins⟩
            · exact Or.inl rfl
            · exact Or.inr ⟨hmem, hbegins⟩
      · next h =>
          rw [List.isPrefixOf_iff_prefix, not_and, not_not] at h
          rw [ih, List.mem_cons]
          constructor
          · rintro ⟨hmem, hbegins⟩
            exact ⟨Or.inr hmem, hbegins⟩
          · rintro ⟨rfl | hmem, hbegins⟩
            · exact ih.1 (h hbegins)
            · exact ⟨hmem, hbegins⟩

theorem nodup_takenWith (base : List Char) (stored : List String) :
    (takenWith base stored).Nodup := by
  induction stored with
  | nil => exact List.nodup_nil
  | cons first rest ih =>
      rw [takenWith]
      split
      · next h => exact List.nodup_cons.2 ⟨h.2, ih⟩
      · exact ih

theorem length_takenWith_le (base : List Char) (stored : List String) :
    (takenWith base stored).length ≤ stored.length :=
  ((nodup_takenWith base stored).subperm fun _ hmem => (mem_takenWith.1 hmem).1).length_le

theorem base_mem_takenWith (h : String.ofList base ∈ stored) :
    String.ofList base ∈ takenWith base stored :=
  mem_takenWith.2 ⟨h, (String.toList_ofList (l := base)).symm ▸ List.prefix_rfl⟩

theorem numbered_mem_takenWith (hbase : Undashed base) (hfits : Fits base i)
    (h : String.ofList (numbered base i) ∈ stored) :
    String.ofList (numbered base i) ∈ takenWith base stored := by
  refine mem_takenWith.2 ⟨h, ?_⟩
  rw [String.toList_ofList, numbered_of_fits hbase hfits]
  exact List.prefix_append _ _

/-- The search finds the first numbering that is not taken. -/
theorem firstFree_eq_some (h : firstFree taken base count i = some slug) :
    ∃ n, i ≤ n ∧ n < i + count ∧ slug = String.ofList (numbered base n) ∧ slug ∉ taken ∧
      ∀ m, i ≤ m → m < n → String.ofList (numbered base m) ∈ taken := by
  induction count generalizing i with
  | zero => cases h
  | succ count ih =>
      rw [firstFree] at h
      split at h
      · next hmem =>
          obtain ⟨n, hin, hn, heq, hfree, hbefore⟩ := ih h
          refine ⟨n, by omega, by omega, heq, hfree, fun m him hmn => ?_⟩
          rcases Nat.eq_or_lt_of_le him with rfl | hlt
          · exact hmem
          · exact hbefore m hlt hmn
      · next hmem =>
          cases h
          exact ⟨i, Nat.le_refl i, by omega, rfl, hmem, fun m him hmi => by omega⟩

theorem firstFree_eq_none (h : firstFree taken base count i = none) :
    ∀ n, i ≤ n → n < i + count → String.ofList (numbered base n) ∈ taken := by
  induction count generalizing i with
  | zero => exact fun n hin hn => by omega
  | succ count ih =>
      rw [firstFree] at h
      split at h
      · next hmem =>
          intro n hin hn
          rcases Nat.eq_or_lt_of_le hin with rfl | hlt
          · exact hmem
          · exact ih h n hlt (by omega)
      · cases h

theorem firstFree_of_free {n : Nat} (hi : i ≤ n) (hn : n < i + count)
    (hfree : String.ofList (numbered base n) ∉ taken)
    (hbefore : ∀ m, i ≤ m → m < n → String.ofList (numbered base m) ∈ taken) :
    firstFree taken base count i = some (String.ofList (numbered base n)) := by
  cases hsearch : firstFree taken base count i with
  | none => exact absurd (firstFree_eq_none hsearch n hi hn) hfree
  | some slug =>
      obtain ⟨m, him, -, rfl, hmfree, hmbefore⟩ := firstFree_eq_some hsearch
      obtain hlt | rfl | hlt := Nat.lt_trichotomy m n
      · exact absurd (hbefore m him hlt) hmfree
      · rfl
      · exact absurd (hmbefore n hi hlt) hfree

/-! ## Bases that are numbered -/

/-- A base that is stored with all the numberings that fit. -/
def Crowded (stored : List String) (base : List Char) : Prop :=
  String.ofList base ∈ stored ∧
    ∀ i, 2 ≤ i → Fits base i → String.ofList (numbered base i) ∈ stored

/-- The numberings of a base from 2 on. -/
def numberings (base : List Char) (count : Nat) : List String :=
  (List.range' 2 count).map fun i => String.ofList (numbered base i)

theorem mem_numberings :
    slug ∈ numberings base count ↔
      ∃ i, 2 ≤ i ∧ i < 2 + count ∧ slug = String.ofList (numbered base i) := by
  rw [numberings, List.mem_map]
  constructor
  · rintro ⟨i, hi, rfl⟩
    rw [List.mem_range'_1] at hi
    exact ⟨i, hi.1, hi.2, rfl⟩
  · rintro ⟨i, hlow, hhigh, rfl⟩
    exact ⟨i, List.mem_range'_1.2 ⟨hlow, hhigh⟩, rfl⟩

theorem nodup_numberings (base : List Char) (count : Nat) : (numberings base count).Nodup :=
  List.Nodup.map (fun _ _ h => numbered_injective base (String.ofList_injective h))
    (List.nodup_range' 1)

/-- A list that has a base and its numberings from 2 on, all of which fit, is longer than the
numberings are many. -/
theorem length_lt_of_numberings (hbase : Undashed base)
    (hfits : Fits base (1 + count)) (hmem : String.ofList base ∈ taken)
    (hall : ∀ i, 2 ≤ i → i < 2 + count → String.ofList (numbered base i) ∈ taken) :
    count < taken.length := by
  have hnodup : (String.ofList base :: numberings base count).Nodup := by
    refine List.nodup_cons.2 ⟨fun h => ?_, nodup_numberings base count⟩
    obtain ⟨i, -, hi, heq⟩ := mem_numberings.1 h
    have heq := String.ofList_injective heq
    rw [numbered_of_fits hbase (hfits.of_le (by omega))] at heq
    exact absurd (congrArg List.length heq) (by simp)
  have hsub : String.ofList base :: numberings base count ⊆ taken := by
    refine List.cons_subset.2 ⟨hmem, fun slug hslug => ?_⟩
    obtain ⟨i, hlow, hhigh, rfl⟩ := mem_numberings.1 hslug
    exact hall i hlow hhigh
  have hlength := (hnodup.subperm hsub).length_le
  simp only [numberings, List.length_cons, List.length_map, List.length_range'] at hlength
  exact hlength

/-- A base behind which no number fits is crowded as soon as it is stored. -/
theorem crowded_iff_of_full (h : maxLength ≤ base.length + 1) :
    Crowded stored base ↔ String.ofList base ∈ stored := by
  refine ⟨fun hcrowded => hcrowded.1, fun hmem => ⟨hmem, fun i _ hfits => ?_⟩⟩
  have hpos : 0 < (Nat.toDigits 10 i).length := List.length_pos_iff.2 Nat.toDigits_ne_nil
  rw [Fits] at hfits
  omega

/-- A base is crowded only beside as many slugs as there are numbers that fit. -/
theorem not_crowded_of_length_lt (hbase : Undashed base)
    (h : stored.length + 1 < 10 ^ (maxLength - 1 - base.length)) : ¬ Crowded stored base := by
  rintro ⟨hmem, hall⟩
  have hroom : base.length + 1 < maxLength := by
    by_contra hshort
    rw [Nat.sub_eq_zero_of_le (by omega), Nat.pow_zero] at h
    omega
  have hfits : Fits base (1 + stored.length) := (fits_iff hroom).2 (by omega)
  refine absurd (length_lt_of_numberings hbase hfits hmem fun i hlow hhigh => ?_)
    (Nat.lt_irrefl _)
  exact hall i hlow (hfits.of_le (by omega))

/-- A search that finds nothing has gone through as many numberings as there are slugs to look at,
so the base is one of them. -/
theorem exists_numbered_eq_self (hmem : String.ofList base ∈ stored)
    (h : firstFree (takenWith base stored) base (takenWith base stored).length 2 = none) :
    ∃ i, 2 ≤ i ∧ i < 2 + (takenWith base stored).length ∧ numbered base i = base := by
  have hsub : numberings base (takenWith base stored).length ⊆ takenWith base stored := by
    intro slug hslug
    obtain ⟨i, hlow, hhigh, rfl⟩ := mem_numberings.1 hslug
    exact firstFree_eq_none h i hlow hhigh
  have hperm := ((nodup_numberings _ _).subperm hsub).perm_of_length_le (by simp [numberings])
  obtain ⟨i, hlow, hhigh, heq⟩ :=
    mem_numberings.1 (hperm.mem_iff.2 (base_mem_takenWith hmem))
  exact ⟨i, hlow, hhigh, (String.ofList_injective heq).symm⟩

/-! ## What a base gets -/

/-- A base as far as the column holds it. -/
def cut (base : String) : List Char := base.toList.take maxLength

section

variable {base : String}

/-- A slug ends in no dash, and the column cuts it only where it is full. -/
theorem undashed_cut (text : String) {fallback : String}
    (hfallback : fallback.toList.getLast? ≠ some '-') : Undashed (cut (of text fallback)) := by
  intro hlength
  have hwhole : cut (of text fallback) = (of text fallback).toList := by
    rw [cut, List.length_take] at hlength
    exact List.take_of_length_le (by omega)
  rw [hwhole, of]
  split
  · exact hfallback
  · rw [String.toList_ofList, chars]
    intro hlast
    exact absurd (getLast?_dropTrailing hlast) (by decide)

theorem unique?_eq (stored : List String) (base : String) : unique? stored base =
    if String.ofList (cut base) ∈ stored then
      firstFree (takenWith (cut base) stored) (cut base) (takenWith (cut base) stored).length 2
    else some (String.ofList (cut base)) := by
  have hmem : String.ofList (cut base) ∈ takenWith (cut base) stored ↔
      String.ofList (cut base) ∈ stored := by
    simp [mem_takenWith]
  rw [← if_congr hmem rfl rfl]
  rfl

/-- A slug that is found is no longer than the column, and it is not stored if the search looked at
it. -/
theorem unique?_eq_some (hstored : stored.length < 10 ^ 200) (h : unique? stored base = some slug) :
    slug.length ≤ maxLength ∧ (slug ∈ stored → ¬ cut base <+: slug.toList) := by
  rw [unique?_eq] at h
  split at h
  · obtain ⟨n, -, hn, rfl, hfree, -⟩ := firstFree_eq_some h
    refine ⟨?_, fun hmem hbegins => hfree (mem_takenWith.2 ⟨hmem, hbegins⟩)⟩
    rw [String.length_ofList]
    refine length_numbered_le _ ((fits_iff (by decide)).2 ?_)
    have hcount := length_takenWith_le (cut base) stored
    have hpow : 10 ^ 200 + 2 < 10 ^ (maxLength - 1 - ([] : List Char).length) := by decide
    omega
  · next hmem =>
      cases h
      refine ⟨?_, fun hslug => absurd hslug hmem⟩
      rw [String.length_ofList]
      exact List.length_take_le _ _

end

/-- The search finds the least number that fits and is free, since the numbers in front of it belong
to as many slugs as it goes through. -/
theorem firstFree_of_fits {n : Nat} (hbase : Undashed base) (hmem : String.ofList base ∈ stored)
    (hn : 2 ≤ n) (hfits : Fits base n) (hfree : String.ofList (numbered base n) ∉ stored)
    (hbefore : ∀ i, 2 ≤ i → i < n → String.ofList (numbered base i) ∈ stored) :
    firstFree (takenWith base stored) base (takenWith base stored).length 2 =
      some (String.ofList (numbered base n)) := by
  have hbefore (i : Nat) (hi : 2 ≤ i) (hlt : i < n) :
      String.ofList (numbered base i) ∈ takenWith base stored :=
    numbered_mem_takenWith hbase (hfits.of_le (Nat.le_of_lt hlt)) (hbefore i hi hlt)
  have hcount : n - 2 < (takenWith base stored).length :=
    length_lt_of_numberings hbase (hfits.of_le (by omega)) (base_mem_takenWith hmem)
      fun i hi hlt => hbefore i hi (by omega)
  exact firstFree_of_free hn (by omega) (fun hin => hfree (mem_takenWith.1 hin).1) hbefore

section

variable {base : String}

/-- A base that is not crowded gets a slug that is not stored. -/
theorem exists_unique?_of_not_crowded (hbase : Undashed (cut base))
    (h : ¬ Crowded stored (cut base)) :
    ∃ slug, unique? stored base = some slug ∧ slug ∉ stored := by
  rw [unique?_eq]
  split
  · next hmem =>
      have hexists : ∃ i, 2 ≤ i ∧ Fits (cut base) i ∧
          String.ofList (numbered (cut base) i) ∉ stored := by
        by_contra hnone
        push Not at hnone
        exact h ⟨hmem, hnone⟩
      classical
      obtain ⟨hlow, hfits, hfree⟩ := Nat.find_spec hexists
      refine ⟨_, firstFree_of_fits hbase hmem hlow hfits hfree fun i hi hlt => ?_, hfree⟩
      by_contra hnot
      exact Nat.find_min hexists hlt ⟨hi, hfits.of_le (Nat.le_of_lt hlt), hnot⟩
  · next hmem => exact ⟨_, rfl, hmem⟩

/-- A crowded base gets a numbering in front of which it was cut, or nothing.  It gets nothing only
if it is such a numbering itself. -/
theorem unique?_of_crowded (hbase : Undashed (cut base)) (h : Crowded stored (cut base)) :
    (∃ i, ¬ Fits (cut base) i ∧
        unique? stored base = some (String.ofList (numbered (cut base) i))) ∨
      (unique? stored base = none ∧
        ∃ i, ¬ Fits (cut base) i ∧ numbered (cut base) i = cut base) := by
  rw [unique?_eq, if_pos h.1]
  cases hsearch : firstFree (takenWith (cut base) stored) (cut base)
      (takenWith (cut base) stored).length 2 with
  | some slug =>
      obtain ⟨n, hn, -, rfl, hfree, -⟩ := firstFree_eq_some hsearch
      exact Or.inl
        ⟨n, fun hfits => hfree (numbered_mem_takenWith hbase hfits (h.2 n hn hfits)), rfl⟩
  | none =>
      obtain ⟨i, -, -, heq⟩ := exists_numbered_eq_self h.1 hsearch
      refine Or.inr ⟨rfl, i, fun hfits => ?_, heq⟩
      rw [numbered_of_fits hbase hfits] at heq
      exact absurd (congrArg List.length heq) (by simp)

/-- A base that fills the column gets the numbering with 2 once it is stored, whatever else is. -/
theorem unique?_of_full (hbase : (cut base).length = maxLength)
    (hmem : String.ofList (cut base) ∈ stored) (hself : numbered (cut base) 2 ≠ cut base) :
    unique? stored base = some (String.ofList (numbered (cut base) 2)) := by
  rw [unique?_eq, if_pos hmem]
  have hpos := List.length_pos_of_mem (base_mem_takenWith hmem)
  refine firstFree_of_free (Nat.le_refl 2) (by omega) (fun htaken => ?_) fun m hm hlt => by omega
  obtain ⟨-, hbegins⟩ := mem_takenWith.1 htaken
  rw [String.toList_ofList] at hbegins
  have hlength : (numbered (cut base) 2).length ≤ (cut base).length :=
    (length_numbered_le (cut base) (by decide)).trans_eq hbase.symm
  exact hself (hbegins.eq_of_length_le hlength).symm

end

/-- The base that the slug of a compound is made from. -/
theorem cut_compound {text : List Char} (h : Compound text) (fallback : String) :
    cut (ofValue (.text (String.ofList text)) fallback) = text.take maxLength := by
  rw [ofValue, Value.textOrEmpty_text, of_compound h, cut, String.toList_ofList]

/-- A word that the column holds is the base that its slug is made from. -/
theorem cut_word {word : List Char} (hne : word ≠ []) (hword : ∀ c ∈ word, isPlain c = true)
    (hlength : word.length ≤ maxLength) (fallback : String) :
    cut (ofValue (.text (String.ofList word)) fallback) = word := by
  rw [cut_compound (.of_word hne hword), List.take_of_length_le hlength]

end Slug

end CollectionQuery
