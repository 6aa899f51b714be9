import CollectionQuery.Proofs.Service.Slugs
import CollectionQuery.Proofs.Slug.Search

/-!
# The form of given slugs

A compound that is cut is a compound again, or the cut falls behind a dash.  In front of a number
this dash is trimmed, and the number is one more run.  So what the search finds is a compound,
unless it is the base as it was cut: nothing trims that one.

The slug that a new row is given is a compound, whatever its title is and whatever slugs are stored,
unless the column cuts it behind a dash.  A title of which nothing is left has the name of its
collection as a fallback, which is a compound as well.
-/

namespace CollectionQuery.Slug

open CollectionQuery.Text

variable {text : List Char} {base : String} {stored : List String} {slug : String} {i n : Nat}

/-! ## Compounds that are cut -/

theorem isPlain_of_isDigit {c : Char} (h : c.isDigit = true) : isPlain c = true := by
  rw [isPlain, h, Bool.or_true, Bool.true_or]

namespace Compound

/-- The front of a compound is a compound, or it has one dash too many. -/
theorem take (h : Compound text) (hn : 0 < n) : Compound (text.take n) ∨
    ∃ front, Compound front ∧ text.take n = front ++ ['-'] := by
  induction h generalizing n with
  | @single c hc =>
      rw [List.take_of_length_le hn]
      exact Or.inl (.single hc)
  | @more c rest hc _ ih =>
      obtain ⟨n, rfl⟩ : ∃ m, n = m + 1 := ⟨n - 1, by omega⟩
      rw [List.take_succ_cons]
      rcases Nat.eq_zero_or_pos n with rfl | hn
      · exact Or.inl (.single hc)
      · rcases ih hn with hcompound | ⟨front, hfront, heq⟩
        · exact Or.inl (.more hc hcompound)
        · exact Or.inr ⟨c :: front, .more hc hfront, by rw [heq, List.cons_append]⟩
  | @dash c rest hc _ ih =>
      match n with
      | 1 => exact Or.inl (.single hc)
      | 2 => exact Or.inr ⟨[c], .single hc, rfl⟩
      | n + 3 =>
          rw [List.take_succ_cons, List.take_succ_cons]
          rcases ih (Nat.succ_pos n) with hcompound | ⟨front, hfront, heq⟩
          · exact Or.inl (.dash hc hcompound)
          · exact Or.inr ⟨c :: '-' :: front, .dash hc hfront, by
              rw [heq, List.cons_append, List.cons_append]⟩

/-- Trimmed, the front of a compound is a compound. -/
theorem dropTrailing_take (h : Compound text) (hn : 0 < n) :
    Compound (dropTrailing (· == '-') (text.take n)) := by
  have hends {front : List Char} (hfront : Compound front) :
      ∀ c ∈ front.getLast?, (c == '-') = false := by
    refine fun c hc => beq_eq_false_iff_ne.2 ?_
    rintro rfl
    exact hfront.getLast?_ne_dash hc
  rcases h.take hn with hcompound | ⟨front, hfront, heq⟩
  · rwa [dropTrailing_eq_self (hends hcompound)]
  · rwa [heq, dropTrailing_append_class (hends hfront) (by simp)]

/-- The numbering of a cut compound is a compound, as long as the number leaves room for one
character. -/
theorem numbered (h : Compound base.toList) (hwidth : (Nat.toDigits 10 i).length < 254) :
    Compound (numbered (cut base) i) := by
  have hdigits : Compound (Nat.toDigits 10 i) := .of_word Nat.toDigits_ne_nil fun c hc =>
    isPlain_of_isDigit (Nat.isDigit_of_mem_toDigits (by omega) (by omega) hc)
  rw [numbered_eq, cut, List.take_take]
  refine (h.dropTrailing_take ?_).append_dash hdigits
  rw [maxLength]
  omega

/-- Where a compound is cut behind a dash, the column is full. -/
theorem cut_of_dash (h : Compound base.toList) (hdash : (cut base).getLast? = some '-') :
    (cut base).length = maxLength ∧ ∃ front, Compound front ∧ cut base = front ++ ['-'] := by
  refine ⟨?_, ?_⟩
  · by_contra hshort
    have hle := length_cut_le base
    rw [cut, List.length_take] at hshort
    rw [cut, List.take_of_length_le (by omega)] at hdash
    exact h.getLast?_ne_dash hdash
  · rcases h.take (n := maxLength) (by decide) with hcompound | hfront
    · exact absurd hdash hcompound.getLast?_ne_dash
    · exact hfront

end Compound

/-! ## What is found -/

/-- The search does not come to a number in front of which nothing is left of the base, if the base
has two characters, or else if fewer slugs are stored than there are shorter numbers. -/
theorem width_of_firstFree (h : Compound base.toList)
    (hroom : 2 ≤ (cut base).length ∨ stored.length + 1 < 10 ^ 253)
    (hn : n < 2 + (takenWith (cut base) stored).length)
    (hbefore : ∀ m, 2 ≤ m → m < n →
      String.ofList (numbered (cut base) m) ∈ takenWith (cut base) stored) :
    (Nat.toDigits 10 n).length < 254 := by
  rw [Nat.lt_succ_iff, Nat.length_toDigits_le_iff (by omega) (by omega)]
  by_contra hwide
  rcases hroom with hlong | hfew
  · have hleading : 3 * 10 ^ 252 < 10 ^ 253 := by decide
    have hprefix : cut base <+: frontOf (cut base) 253 := prefix_frontOf (j := 252) (by omega)
      fun m hm hlt => begins_of_taken (hbefore m hm hlt)
    have hfront : (frontOf (cut base) 253).length ≤ 2 := length_frontOf_le (cut base) 253
    have hwhole := hprefix.eq_of_length_le (by omega)
    have hdash : (cut base).getLast? = some '-' := by
      rw [hwhole, frontOf, List.getLast?_append]
      rfl
    have hfull := (h.cut_of_dash hdash).1
    have hshort := hprefix.length_le
    rw [hfull, maxLength] at hshort
    omega
  · have hcount := length_takenWith_le (cut base) stored
    omega

/-- The form of a slug that is found for a base, which is given as far as the column holds it. -/
structure FoundForm (stored : List String) (base slug : List Char) : Prop where
  /-- The slug is a compound, unless the base is not stored and the column cuts it behind a dash. -/
  compound_iff : 2 ≤ base.length ∨ stored.length + 1 < 10 ^ 253 →
    (Compound slug ↔ ¬ (String.ofList base ∉ stored ∧ base.getLast? = some '-'))
  /-- A compound has no dash at its ends and no two dashes together. -/
  dashes : Compound slug →
    slug.head? ≠ some '-' ∧ slug.getLast? ≠ some '-' ∧ ¬ ['-', '-'] <:+: slug
  /-- A base that is cut behind a dash is a compound up to this dash.  If it is not stored, it is
  the slug. -/
  dashed : base.getLast? = some '-' → base.length = maxLength ∧
    (∃ front, Compound front ∧ base = front ++ ['-']) ∧ (String.ofList base ∉ stored → slug = base)

theorem foundForm_of_unique? (h : Compound base.toList) (hfound : unique? stored base = some slug) :
    FoundForm stored (cut base) slug.toList where
  compound_iff hroom := by
    rw [unique?_eq] at hfound
    split at hfound
    · next hmem =>
        obtain ⟨n, -, hn, rfl, -, hbefore⟩ := firstFree_eq_some hfound
        rw [String.toList_ofList]
        exact iff_of_true (h.numbered (width_of_firstFree h hroom hn hbefore))
          fun hdash => hdash.1 hmem
    · next hmem =>
        cases hfound
        rw [String.toList_ofList]
        constructor
        · exact fun hcompound hdash => hcompound.getLast?_ne_dash hdash.2
        · intro hdash
          rcases h.take (n := maxLength) (by decide) with hcompound | ⟨front, -, heq⟩
          · exact hcompound
          · exact absurd ⟨hmem, by rw [cut, heq]; simp⟩ hdash
  dashes hcompound :=
    ⟨hcompound.head?_ne_dash, hcompound.getLast?_ne_dash, hcompound.not_double_dash⟩
  dashed hdash := by
    refine ⟨(h.cut_of_dash hdash).1, (h.cut_of_dash hdash).2, fun hmem => ?_⟩
    rw [unique?_eq, if_neg hmem] at hfound
    cases hfound
    exact String.toList_ofList

end CollectionQuery.Slug

/-! ## Given slugs -/

namespace CollectionQuery.Draft

open CollectionQuery.Slug

variable {s : Store} {c : Collection} {members out : List (String × Value)}
  {source fallback : String}

theorem compound_fallback (hsource : slugSource? c = some (source, fallback)) :
    Compound fallback.toList := by
  cases c <;> simp [slugSource?] at hsource <;> obtain ⟨-, rfl⟩ := hsource <;>
    exact .of_word (by decide) (List.all_eq_true.1 rfl)

/-- A slug is given only where there are tables. -/
theorem present_of_withSlug (hsource : slugSource? c = some (source, fallback))
    (hnone : givesSlug members = false) (h : withSlug s c members = .ok out) :
    s.present = true := by
  rw [withSlug, hsource] at h
  dsimp only at h
  rw [if_neg (by simp [hnone])] at h
  obtain ⟨slug, hslug, -⟩ := bind_eq_ok.1 h
  obtain ⟨_, htables, -⟩ := bind_eq_ok.1 hslug
  by_contra habsent
  rw [Store.checkTables, if_neg habsent] at htables
  cases htables

end CollectionQuery.Draft

namespace CollectionQuery.Service

open CollectionQuery.Slug

variable {s : Store} {c : Collection} {members out : List (String × Value)}
  {source fallback : String}

/-- A payload for a new row without a slug gets one of the form of what is found for its source. -/
theorem given_slug_form (hsource : Draft.slugSource? c = some (source, fallback))
    (hnone : Draft.givesSlug members = false) (h : Draft.withSlug s c members = .ok out) :
    ∃ slug, out = Value.setMember members "slug" (.text (String.ofList slug)) ∧
      (∀ d, Draft.ofPayload s c false (.object members) = .ok d →
        Value.member? d.values "slug" = some (.text (String.ofList slug))) ∧
      FoundForm (Draft.storedSlugs s c)
        (cut (ofValue ((Value.member? members source).getD .null) fallback)) slug := by
  have hgiven := h
  rw [Draft.withSlug_eq hsource (Draft.present_of_withSlug hsource hnone h) hnone] at h
  split at h
  · next slug hfound =>
      cases h
      refine ⟨slug.toList, by rw [String.ofList_toList], fun d hdraft => ?_,
        foundForm_of_unique? (compound_of _ (Draft.compound_fallback hsource)) hfound⟩
      rw [String.ofList_toList]
      exact Draft.member?_slug hsource hgiven hdraft
  · cases h

/-! ## A title that is cut behind a dash -/

/-- A title that is longer than the column by one letter behind a dash. -/
def hyphenated : List Char := letters 254 ++ ['-', 'b']

theorem cut_hyphenated (fallback : String) :
    cut (ofValue (.text (String.ofList hyphenated)) fallback) = letters 254 ++ ['-'] := by
  have hword : Compound (letters 254) := by
    refine .of_word (List.ne_nil_of_length_pos (by rw [letters, List.length_replicate]; omega))
      fun c hc => ?_
    rw [List.eq_of_mem_replicate hc]
    rfl
  have hlength : (letters 254).length = 254 := List.length_replicate
  rw [hyphenated, cut_compound (hword.append_dash (.single rfl)), List.take_append,
    List.take_of_length_le (by rw [hlength]; decide), hlength]
  rfl

/-- The first event with such a title gets a slug that ends in a dash. -/
theorem hyphenated_slug_dashed :
    Draft.withSlug .empty .events (eventTitled (String.ofList hyphenated)) =
      .ok (Value.setMember (eventTitled (String.ofList hyphenated)) "slug"
        (.text (String.ofList (letters 254 ++ ['-'])))) ∧ ¬ Compound (letters 254 ++ ['-']) := by
  refine ⟨withSlug_eventTitled rfl ?_, fun h => h.getLast?_ne_dash (by simp)⟩
  rw [unique?_eq, cut_hyphenated]
  exact if_neg List.not_mem_nil

/-- The second event with such a title: the dash is trimmed in front of its number. -/
theorem given_slug_form_hyphenated :
    let first := letters 254 ++ ['-']
    let second := letters 253 ++ ['-', '2']
    let members := eventTitled (String.ofList hyphenated)
    let s := addEvent .empty (.nth 1) (String.ofList hyphenated)
      (String.ofList first)
    Draft.slugSource? .events = some ("title", "event") ∧ Draft.givesSlug members = false ∧
      Draft.withSlug s .events members =
        .ok (Value.setMember members "slug" (.text (String.ofList second))) ∧
      FoundForm [String.ofList first] first second ∧ Compound second := by
  intro first second members s
  have hsource : Draft.slugSource? .events = some ("title", "event") := rfl
  have hnone : Draft.givesSlug members = false := rfl
  have hslugs : Draft.storedSlugs s .events = [String.ofList first] := by decide +kernel
  have hnumbered : numbered first 2 = second := by decide +kernel
  have hother : second ≠ first := by decide +kernel
  have hcut : cut (ofValue (.text (String.ofList hyphenated)) "event") = first :=
    cut_hyphenated "event"
  have hgiven : Draft.withSlug s .events members =
      .ok (Value.setMember members "slug" (.text (String.ofList second))) := by
    refine withSlug_eventTitled rfl ?_
    rw [← hnumbered, ← hcut, hslugs]
    refine unique?_of_full ?_ ?_ ?_
    · rw [hcut, List.length_append, letters, List.length_replicate]
      rfl
    · rw [hcut]
      exact List.mem_singleton_self _
    · rw [hcut, hnumbered]
      exact hother
  obtain ⟨slug, hout, -, hform⟩ := given_slug_form hsource hnone hgiven
  have hsame : second = slug := by
    have htext := congrArg (Value.member? · "slug") hout
    simp only [Value.member?_setMember_self, Option.some_inj, Value.text.injEq] at htext
    exact String.ofList_injective htext
  have htitle : (Value.member? members "title").getD .null =
      .text (String.ofList hyphenated) := rfl
  rw [hslugs, htitle, hcut, ← hsame] at hform
  have hlong : 2 ≤ first.length := by
    rw [List.length_append, letters, List.length_replicate]
    decide
  refine ⟨hsource, hnone, hgiven, hform, (hform.compound_iff (Or.inl hlong)).2 fun hdash => ?_⟩
  exact hdash.1 (List.mem_singleton_self _)

end CollectionQuery.Service
