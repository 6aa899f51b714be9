import CollectionQuery.Proofs.Json.Layout
import CollectionQuery.Proofs.Lists
import CollectionQuery.Proofs.Number.Digits

/-!
# Reading texts and numbers

The readers of texts, of numbers and of the values that are written as a name stop behind the last
character of what is written.  A text ends with its quote.  A number has to be told from what stands
behind it, so nothing that belongs to a number may follow it.
-/

namespace CollectionQuery.Json

open CollectionQuery.Number CollectionQuery.Text

/-! ## Texts -/

theorem textChars_cons (part : TextPart) (parts : List TextPart) :
    textChars (part :: parts) = part.chars ++ textChars parts := rfl

section

variable {source : Source}

theorem readText_skip (start skip o : Nat) (seen : List CodePoint) (passed rest : List Char)
    (h : passed.length = skip) :
    readText source start skip o seen (passed ++ rest) =
      readText source start 0 (o + skip) seen rest := by
  induction passed generalizing skip o with
  | nil =>
      subst h
      rfl
  | cons c passed ih =>
      subst h
      rw [List.length_cons, List.cons_append, readText, ih _ _ rfl, Nat.add_assoc, Nat.add_comm 1]

theorem readText_escape {start o count : Nat} {meant : CodePoint} (text : List Char)
    {rest : List Char} (h : readEscape start o (text ++ rest) = .ok (meant, count))
    (hcount : text.length = count) (seen : List CodePoint) :
    readText source start 0 o seen ('\\' :: (text ++ rest)) =
      readText source start 0 (o + 1 + count) (meant :: seen) rest := by
  rw [readText, if_neg (by decide), if_pos rfl, h]
  exact readText_skip start count (o + 1) (meant :: seen) text rest hcount

end

theorem ne_u_of_escape? {e c : Char} (known : escape? e = some c) : e ≠ 'u' := by
  rintro rfl
  cases known

theorem readEscape_letter {e c : Char} (known : escape? e = some c) (start o : Nat)
    (rest : List Char) : readEscape start o (e :: rest) = .ok (.char c, 1) := by
  have hu := ne_u_of_escape? known
  rw [readEscape.eq_def]
  split
  · next h => cases h
  · next h => exact absurd (List.cons.inj h).1 hu
  · next h => exact absurd (List.cons.inj h).1 hu
  · next h =>
      obtain ⟨rfl, -⟩ := List.cons.inj h
      rw [known]

section

variable {a b c d : Char} {n : Nat} (digits : hex4? a b c d = some n) (start o : Nat)
include digits

/-- An escape that no other one follows, or no half of a pair. -/
theorem readEscape_code {next : Char} {rest : List Char}
    (hnext : next = '\\' → isHighSurrogate n = true →
      readSecondHalf o n rest = .ok (.ofNat n, 5)) :
    readEscape start o ('u' :: a :: b :: c :: d :: next :: rest) = .ok (.ofNat n, 5) := by
  rw [readEscape, digits]
  dsimp only
  split
  · next h => exact hnext h.2 h.1
  · rfl

variable {e f g h : Char} {m : Nat} (second : hex4? e f g h = some m)
include second

theorem readEscape_pair (high : isHighSurrogate n = true) (low : isLowSurrogate m = true)
    (next : Char) (rest : List Char) :
    readEscape start o
        ('u' :: a :: b :: c :: d :: '\\' :: 'u' :: e :: f :: g :: h :: next :: rest) =
      .ok (.ofPair n m, 11) := by
  rw [readEscape, digits]
  dsimp only
  rw [if_pos ⟨high, rfl⟩, readSecondHalf, second]
  exact if_pos low

omit digits in
theorem readSecondHalf_code (low : isLowSurrogate m = false) (next : Char) (rest : List Char) :
    readSecondHalf o n ('u' :: e :: f :: g :: h :: next :: rest) = .ok (.ofNat n, 5) := by
  rw [readSecondHalf, second]
  exact if_neg (by rw [low]; exact Bool.false_ne_true)

end

theorem readSecondHalf_letter {e : Char} (hu : e ≠ 'u') (o high : Nat) (rest : List Char) :
    readSecondHalf o high (e :: rest) = .ok (.ofNat high, 5) := by
  rw [readSecondHalf.eq_def]
  split
  · next h => exact absurd (List.cons.inj h).1 hu
  · rfl

/-- The characters between the quotes, with the closing quote, are not empty. -/
theorem exists_textChars (parts : List TextPart) (rest : List Char) :
    ∃ next more, textChars parts ++ '"' :: rest = next :: more :=
  List.exists_cons_of_ne_nil (by simp)

/-- A part that is not the first half of a pair is read by itself. -/
theorem readText_part (part : TextPart) (parts : List TextPart)
    (hpair : ∀ next ∈ parts.head?, part.pair? next = none) (start o : Nat)
    (seen : List CodePoint) (rest : List Char) :
    readText .plain start 0 o seen (textChars (part :: parts) ++ '"' :: rest) =
      readText .plain start 0 (o + part.chars.length) (part.point :: seen)
        (textChars parts ++ '"' :: rest) := by
  rw [textChars_cons, List.append_assoc]
  cases part with
  | plain c quote backslash control =>
      have hcontrol : ¬ c.toNat < 32 := by omega
      exact (if_neg quote).trans ((if_neg backslash).trans (if_neg hcontrol))
  | letter e c known => exact readText_escape [e] (readEscape_letter known ..) rfl seen
  | code a b c d n digits =>
      have hescape : readEscape start o
          (['u', a, b, c, d] ++ (textChars parts ++ '"' :: rest)) = .ok (.ofNat n, 5) := by
        cases parts with
        | nil => exact readEscape_code digits start o nofun
        | cons next parts =>
            rw [textChars_cons, List.append_assoc]
            obtain ⟨quote, more, hmore⟩ := exists_textChars parts rest
            cases next with
            | plain c _ backslash _ =>
                exact readEscape_code digits start o fun h => absurd h backslash
            | letter e c known =>
                exact readEscape_code digits start o fun _ _ =>
                  readSecondHalf_letter (ne_u_of_escape? known) ..
            | code e f g h m second =>
                refine readEscape_code digits start o fun _ high => ?_
                have hlow : isLowSurrogate m = false := by
                  by_contra hlow
                  exact absurd (hpair _ rfl) (by simp [TextPart.pair?, high, hlow])
                rw [hmore]
                exact readSecondHalf_code o second hlow ..
      exact readText_escape ['u', a, b, c, d] hescape rfl seen

/-- The halves of a pair are read together. -/
theorem readText_pair {first second : TextPart} {p : CodePoint} (h : first.pair? second = some p)
    (parts : List TextPart) (start o : Nat) (seen : List CodePoint) (rest : List Char) :
    readText .plain start 0 o seen (textChars (first :: second :: parts) ++ '"' :: rest) =
      readText .plain start 0 (o + (first.chars.length + second.chars.length)) (p :: seen)
        (textChars parts ++ '"' :: rest) := by
  cases first with
  | plain => cases h
  | letter => cases h
  | code a b c d n digits =>
      cases second with
      | plain => cases h
      | letter => cases h
      | code e f g i m digits' =>
          rw [TextPart.pair?] at h
          split at h
          · next hhalves =>
              cases h
              obtain ⟨next, more, hmore⟩ := exists_textChars parts rest
              rw [textChars_cons, textChars_cons, List.append_assoc, List.append_assoc, hmore]
              exact readText_escape ['u', a, b, c, d, '\\', 'u', e, f, g, i]
                (readEscape_pair digits start o digits' hhalves.1 hhalves.2 next more) rfl seen
          · cases h

/-- The code points between the quotes, and the closing quote. -/
theorem readText_textChars (parts : List TextPart) (start o : Nat) (seen : List CodePoint)
    (rest : List Char) :
    readText .plain start 0 o seen (textChars parts ++ '"' :: rest) =
      .ok (.ofPoints (seen.reverse ++ pointsOf parts),
        ⟨o + (textChars parts).length + 1, rest⟩) := by
  induction parts using pointsOf.induct generalizing o seen with
  | case1 =>
      rw [textChars, List.flatMap_nil, List.nil_append, readText, if_pos rfl, pointsOf,
        List.append_nil]
      rfl
  | case2 part =>
      rw [readText_part part [] nofun, textChars, List.flatMap_nil, List.nil_append, readText,
        if_pos rfl, pointsOf, List.reverse_cons]
      simp [textChars]
  | case3 first second parts p hpair ih =>
      rw [readText_pair hpair, ih, pointsOf, hpair, textChars_cons, textChars_cons,
        List.length_append, List.length_append, List.reverse_cons, List.append_assoc]
      simp only [List.singleton_append, Nat.add_assoc]
  | case4 first second parts hpair ih =>
      have hhead : ∀ next ∈ (second :: parts).head?, first.pair? next = none := by
        rintro _ ⟨⟩
        exact hpair
      rw [readText_part first _ hhead, ih, pointsOf, hpair, textChars_cons first,
        List.length_append, List.reverse_cons, List.append_assoc]
      simp only [List.singleton_append, Nat.add_assoc]

/-! ## Numbers -/

/-- What may follow a value. -/
def endsValue (c : Char) : Bool := c ∈ [' ', '\t', '\n', '\r', ',', ']', '\x7d']

/-- A rest that does not go on with a number. -/
def Follows (rest : List Char) : Prop := ∀ c ∈ rest.head?, endsValue c = true

theorem Digits.exists_cons (ds : Digits) : ∃ d rest, ds.chars = d :: rest ∧ d.isDigit = true := by
  obtain ⟨d, rest, h⟩ := List.exists_cons_of_ne_nil ds.nonempty
  exact ⟨d, rest, h, ds.digits d (h ▸ List.mem_cons_self)⟩

theorem not_number_of_endsValue {c : Char} (h : endsValue c = true) :
    c.isDigit = false ∧ c ≠ '.' ∧ ¬(c = 'e' ∨ c = 'E') := by
  simp only [endsValue, List.mem_cons, List.not_mem_nil, or_false, decide_eq_true_eq] at h
  rcases h with rfl | rfl | rfl | rfl | rfl | rfl | rfl <;> decide

theorem Follows.not_digit {rest : List Char} (h : Follows rest) :
    ∀ c ∈ rest.head?, c.isDigit = false := fun c hc => (not_number_of_endsValue (h c hc)).1

namespace NumberLayout

variable (n : NumberLayout) {rest : List Char}

theorem powerChars_not_digit (hrest : Follows rest) :
    ∀ c ∈ (n.powerChars ++ rest).head?, c.isDigit = false ∧ c ≠ '.' := by
  rw [powerChars]
  cases n.power with
  | none =>
      intro c hc
      obtain ⟨hdigit, hpoint, -⟩ := not_number_of_endsValue (hrest c hc)
      exact ⟨hdigit, hpoint⟩
  | some p =>
      intro c hc
      obtain rfl : p.mark = c := by simpa [Power.chars] using hc
      rcases p.mark_ok with h | h <;> rw [h] <;> decide

theorem placeChars_not_digit (hrest : Follows rest) :
    ∀ c ∈ (n.placeChars ++ (n.powerChars ++ rest)).head?, c.isDigit = false := by
  rw [placeChars]
  cases n.places with
  | none => exact fun c hc => (n.powerChars_not_digit hrest c hc).1
  | some ds =>
      intro c hc
      obtain rfl : '.' = c := by simpa using hc
      rfl

theorem readWhole_chars (hrest : ∀ c ∈ rest.head?, c.isDigit = false) :
    readWhole (n.whole.chars ++ rest) = (n.whole.chars, rest) := by
  obtain ⟨d, more, hchars, -⟩ := n.whole.exists_cons
  by_cases hzero : d = '0'
  · have halone : n.whole.chars = ['0'] := n.leading (by rw [hchars, hzero]; rfl)
    rw [halone]
    rfl
  · have hread : readWhole (n.whole.chars ++ rest) =
        ((n.whole.chars ++ rest).takeWhile Char.isDigit,
          (n.whole.chars ++ rest).dropWhile Char.isDigit) := by
      rw [readWhole.eq_def]
      split
      · next heq =>
          rw [hchars] at heq
          exact absurd (List.cons.inj heq).1 hzero
      · rfl
    rw [hread, List.takeWhile_run n.whole.digits hrest, List.dropWhile_run n.whole.digits hrest]

theorem readPlaces_chars (hrest : Follows rest) :
    readPlaces (n.placeChars ++ (n.powerChars ++ rest)) =
      (n.placeDigits, n.powerChars ++ rest) := by
  have htail := n.powerChars_not_digit hrest
  rw [placeChars, placeDigits]
  cases n.places with
  | none =>
      rw [readPlaces.eq_def]
      split
      · next heq =>
          refine absurd rfl (htail '.' ?_).2
          rw [show n.powerChars ++ rest = _ from heq]
          rfl
      · rfl
  | some ds =>
      rw [Option.elim_some, Option.elim_some, List.cons_append, readPlaces]
      rw [List.takeWhile_run ds.digits fun c hc => (htail c hc).1, if_neg ds.nonempty,
        List.dropWhile_run ds.digits fun c hc => (htail c hc).1]

theorem splitSign_power (p : Power) (rest : List Char) :
    splitSign (p.sign ++ (p.digits.chars ++ rest)) =
      (decide (p.sign = ['-']), p.digits.chars ++ rest) := by
  obtain ⟨d, more, hchars, hd⟩ := p.digits.exists_cons
  rcases p.sign_ok with h | h | h
  · rw [h, hchars, List.nil_append, List.cons_append, splitSign_of_isDigit hd]
    rfl
  · rw [h]
    rfl
  · rw [h]
    rfl

theorem readPower_chars (hrest : Follows rest) :
    readPower (n.powerChars ++ rest) = (n.power.map Power.value, rest) := by
  rw [powerChars]
  cases n.power with
  | none =>
      cases rest with
      | nil => rfl
      | cons mark rest =>
          have hmark := (not_number_of_endsValue (hrest mark rfl)).2.2
          rw [Option.elim_none, List.nil_append, readPower]
          dsimp only
          rw [if_neg fun h => hmark h.1]
          rfl
  | some p =>
      rw [Option.elim_some, Power.chars, List.cons_append, List.append_assoc, readPower,
        splitSign_power]
      dsimp only
      rw [List.takeWhile_run p.digits.digits hrest.not_digit,
        List.dropWhile_run p.digits.digits hrest.not_digit, if_pos ⟨p.mark_ok, p.digits.nonempty⟩]
      simp [Power.value]

theorem placeDigits_eq_nil : n.placeDigits = [] ↔ n.places = none := by
  rw [placeDigits]
  cases n.places with
  | none => simp
  | some ds => simpa using ds.nonempty

theorem readSign_chars (rest : List Char) :
    readSign (n.chars ++ rest) =
      (n.negative, n.whole.chars ++ (n.placeChars ++ (n.powerChars ++ rest))) := by
  obtain ⟨d, more, hchars, hd⟩ := n.whole.exists_cons
  rw [chars, signChars]
  cases n.negative with
  | true => simp [readSign]
  | false =>
      rw [readSign.eq_def]
      split
      · next heq =>
          rw [hchars] at heq
          rw [(List.cons.inj heq).1] at hd
          cases hd
      · simp

theorem length_chars_sub (rest : List Char) :
    (n.chars ++ rest).length - rest.length = n.chars.length := by
  rw [List.length_append, Nat.add_sub_cancel]

/-- A number is read up to what follows it. -/
theorem readNumber_chars (hrest : Follows rest) (o : Nat) :
    readNumber ⟨o, n.chars ++ rest⟩ = .ok (n.document, ⟨o + n.chars.length, rest⟩) := by
  rw [readNumber]
  dsimp only
  rw [n.readSign_chars rest]
  dsimp only
  rw [n.readWhole_chars (n.placeChars_not_digit hrest)]
  dsimp only
  rw [if_neg n.whole.nonempty, n.readPlaces_chars hrest]
  dsimp only
  rw [n.readPower_chars hrest, n.length_chars_sub rest]
  dsimp only
  rw [document]
  have hread : n.placeDigits = [] ∧ n.power.map Power.value = none ↔
      n.places = none ∧ n.power = none := by
    rw [n.placeDigits_eq_nil, Option.map_eq_none_iff]
  have hwrite : n.places.isNone = true ∧ n.power.isNone = true ↔
      n.places = none ∧ n.power = none := by
    rw [Option.isNone_iff_eq_none, Option.isNone_iff_eq_none]
  by_cases hint : n.places = none ∧ n.power = none
  · rw [if_pos (hread.2 hint), if_pos (hwrite.2 hint),
      if_neg (Nat.not_lt.2 (n.short hint.1 hint.2))]
  · rw [if_neg (mt hread.1 hint), if_neg (mt hwrite.1 hint)]

end NumberLayout

/-! ## Scalars -/

theorem mem_names {n : List Char × Json} (h : n ∈ names) :
    n = ("null".toList, .null) ∨ n = ("true".toList, .bool true) ∨
      n = ("false".toList, .bool false) ∨ n = ("NaN".toList, .float .nan) ∨
      n = ("Infinity".toList, .float (.infinity false)) ∨
      n = ("-Infinity".toList, .float (.infinity true)) := by
  simpa only [names, List.mem_cons, List.not_mem_nil, or_false] using h

theorem depth_of_named {n : List Char × Json} (known : n ∈ names) : n.2.depth = 0 := by
  rcases mem_names known with rfl | rfl | rfl | rfl | rfl | rfl <;> rfl

theorem NumberLayout.depth_document (n : NumberLayout) : n.document.depth = 0 := by
  rw [document]
  split <;> rfl

theorem readScalar_named {n : List Char × Json} (known : n ∈ names) (o : Nat) (rest : List Char) :
    readScalar ⟨o, n.1 ++ rest⟩ = .ok (n.2, ⟨o + n.1.length, rest⟩) := by
  rcases mem_names known with rfl | rfl | rfl | rfl | rfl | rfl <;> rfl

/-- A number begins with a digit, perhaps behind a minus. -/
theorem NumberLayout.head_chars (n : NumberLayout) (rest : List Char) :
    ∃ d more, d.isDigit = true ∧
      (n.chars ++ rest = d :: more ∨ n.chars ++ rest = '-' :: d :: more) := by
  obtain ⟨d, more, hchars, hd⟩ := n.whole.exists_cons
  refine ⟨d, more ++ (n.placeChars ++ n.powerChars) ++ rest, hd, ?_⟩
  rw [chars, signChars, hchars]
  cases n.negative with
  | true => exact Or.inr (by simp)
  | false => exact Or.inl (by simp)

theorem readScalar_number (n : NumberLayout) {rest : List Char} (hrest : Follows rest) (o : Nat) :
    readScalar ⟨o, n.chars ++ rest⟩ = .ok (n.document, ⟨o + n.chars.length, rest⟩) := by
  have hnone : names.find? (fun m => m.1.isPrefixOf (n.chars ++ rest)) = none := by
    refine List.find?_eq_none.2 fun m hm => ?_
    obtain ⟨d, more, hd, hchars⟩ := n.head_chars rest
    have hne : ∀ c : Char, c.isDigit = false → (c == d) = false := by
      intro c hc
      refine beq_eq_false_iff_ne.2 fun heq => ?_
      rw [heq, hd] at hc
      cases hc
    rcases hchars with hchars | hchars <;> rw [hchars] <;>
      rcases mem_names hm with rfl | rfl | rfl | rfl | rfl | rfl <;>
      simp [List.isPrefixOf, hne]
  rw [readScalar, hnone]
  exact n.readNumber_chars hrest o

end CollectionQuery.Json
