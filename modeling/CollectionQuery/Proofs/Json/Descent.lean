import CollectionQuery.Proofs.Json.Nesting

/-!
# How deep the reader descends

`Begins` tells where the reader of a text begins values, and which lists and objects are open there.
It does not ask for a document: the text may be refused later, or not end at all.  The scan comes to
each of these places at the level of what is open, so nothing that is open goes beyond the nesting.

A reader with a limit stops at such a place if it stops at the limit, and else its limit does not
matter.  So with the nesting of the text as a limit the reader does what it does without one.
-/

namespace CollectionQuery.Json

open CollectionQuery.Text

/-- What may be open. -/
inductive Container where
  | list
  | object

/-- Whether a list or an object begins at a cursor. -/
def Cursor.Opens (c : Cursor) : Prop := c.rest.head? = some '[' ∨ c.rest.head? = some '\x7b'

/-- The reader begins a value at a cursor while these lists and objects are open, the innermost one
first.  Each of the values in front may be read under any limit. -/
inductive Begins (chars : List Char) : List Container → Cursor → Prop
  /-- The document.  Nothing is read behind a byte order mark. -/
  | document (mark : chars.head? ≠ some (Char.ofNat 0xFEFF)) :
      Begins chars [] (Cursor.skipSpace ⟨0, chars⟩)
  /-- The first item of a list that is not empty. -/
  | item {stack : List Container} {c : Cursor} {rest : List Char} (begins : Begins chars stack c)
      (bracket : c.rest = '[' :: rest)
      (nonempty : ∀ tail, (c.advance 1).skipSpace.rest ≠ ']' :: tail) :
      Begins chars (.list :: stack) (c.advance 1).skipSpace
  /-- One more item. -/
  | nextItem {stack : List Container} {c behind : Cursor} {limit fuel : Nat} {j : Json}
      {rest : List Char} (begins : Begins chars (.list :: stack) c)
      (value : readValue .plain limit fuel c = .ok (j, behind))
      (comma : behind.skipSpace.rest = ',' :: rest) :
      Begins chars (.list :: stack) (behind.skipSpace.advance 1).skipSpace
  /-- The value of the first member of an object. -/
  | member {stack : List Container} {c start : Cursor} {rest : List Char} {name : AnyText}
      (begins : Begins chars stack c) (brace : c.rest = '\x7b' :: rest)
      (named : readName .plain (c.advance 1).skipSpace = .ok (name, start)) :
      Begins chars (.object :: stack) start
  /-- The value of one more member. -/
  | nextMember {stack : List Container} {c behind start : Cursor} {limit fuel : Nat} {j : Json}
      {rest : List Char} {name : AnyText} (begins : Begins chars (.object :: stack) c)
      (value : readValue .plain limit fuel c = .ok (j, behind))
      (comma : behind.skipSpace.rest = ',' :: rest)
      (named : readName .plain (behind.skipSpace.advance 1).skipSpace = .ok (name, start)) :
      Begins chars (.object :: stack) start

/-! ## The level of what is open -/

theorem Scan.deepest_le_step (s : Scan) (c : Char) : s.deepest ≤ (s.step c).deepest := by
  rw [step]
  split
  · exact Int.le_refl _
  · split
    · exact Int.le_refl _
    · split <;> exact Int.le_refl _
  · split
    · exact Int.le_refl _
    · split
      · exact Int.le_max_left ..
      · split <;> exact Int.le_refl _

theorem Scan.deepest_le_foldl (text : List Char) (s : Scan) :
    s.deepest ≤ (text.foldl Scan.step s).deepest := by
  induction text generalizing s with
  | nil => exact Int.le_refl _
  | cons c text ih => exact Int.le_trans (s.deepest_le_step c) (ih _)

/-- The nesting is at least the height of what is passed. -/
theorem Passes.le_nesting {text : String} {rest : List Char} {rise height : Int}
    (h : Passes text.toList rest rise height) : height ≤ nesting text := by
  have hdeepest := Scan.deepest_le_foldl rest ⟨.outside, 0 + rise, max 0 (0 + height)⟩
  rw [← h 0 0 (Int.le_refl 0)] at hdeepest
  calc height
    _ ≤ max 0 (0 + height) := by omega
    _ ≤ (text.toList.foldl Scan.step {}).deepest := hdeepest
    _ ≤ nesting text := Int.self_le_toNat _

/-- The scan comes to a rest of a text outside of texts, at this level. -/
def Reaches (text rest : List Char) (level : Nat) : Prop :=
  ∃ height : Int, level ≤ height ∧ Passes text rest level height

namespace Reaches

variable {text rest tail : List Char} {level : Nat}

theorem deeper (h : Reaches text rest level) (next : Passes rest tail 1 1) :
    Reaches text tail (level + 1) := by
  obtain ⟨height, hle, hpasses⟩ := h
  exact ⟨max height (level + 1), Int.le_max_right .., hpasses.trans hle next⟩

theorem further {size : Nat} (h : Reaches text rest level) (next : Passes rest tail 0 size) :
    Reaches text tail level := by
  obtain ⟨height, hle, hpasses⟩ := h
  exact ⟨max height (level + size), by omega, hpasses.trans hle next⟩

theorem le_nesting {text : String} (h : Reaches text.toList rest level) :
    level ≤ nesting text := by
  obtain ⟨height, hle, hpasses⟩ := h
  have hheight := hpasses.le_nesting
  omega

end Reaches

section

variable {chars : List Char} {stack : List Container} {c : Cursor}

/-- The scan comes to a value at the level of what is open. -/
theorem Begins.reaches (h : Begins chars stack c) : Reaches chars c.rest stack.length := by
  induction h with
  | document mark => exact ⟨0, Int.le_refl 0, .skipSpace ⟨0, chars⟩⟩
  | item begins bracket nonempty ih =>
      exact (ih.deeper (.next bracket (.opening (Or.inl rfl) _))).further (.skipSpace _)
  | nextItem begins value comma ih =>
      exact (ih.further (passes_value _ value)).further <| (Passes.skipSpace _).flat_trans <|
        (Passes.next comma (.separator rfl _)).flat_trans (.skipSpace _)
  | member begins brace named ih =>
      exact (ih.deeper (.next brace (.opening (Or.inr rfl) _))).further <|
        (Passes.skipSpace _).flat_trans (.of_readName named)
  | nextMember begins value comma named ih =>
      exact (ih.further (passes_value _ value)).further <| (Passes.skipSpace _).flat_trans <|
        (Passes.next comma (.separator rfl _)).flat_trans <| (Passes.skipSpace _).flat_trans <|
        .of_readName named

/-- A list or an object that begins at a value is one more. -/
theorem Begins.lt_nesting {text : String} (h : Begins text.toList stack c) (hopens : c.Opens) :
    stack.length < nesting text := by
  have hbracket : Passes c.rest (c.advance 1).rest 1 1 := by
    rcases hopens with hopens | hopens <;>
      obtain ⟨rest, hrest⟩ := List.head?_eq_some_iff.1 hopens
    · exact .next hrest (.opening (Or.inl rfl) _)
    · exact .next hrest (.opening (Or.inr rfl) _)
  exact (h.reaches.deeper hbracket).le_nesting

end

/-! ## Refusals that are not for the depth -/

/-- A reading that is not refused for what is open. -/
def Shallow {α : Type} (x : Except Fault α) : Prop := ∀ o, x ≠ .error ⟨.tooDeep, o⟩

namespace Shallow

variable {α β : Type} {x : Except Fault α}

theorem ok (a : α) : Shallow (.ok a : Except Fault α) := nofun

theorem error {cause : Cause} (h : cause ≠ .tooDeep) (o : Nat) :
    Shallow (.error ⟨cause, o⟩ : Except Fault α) := by
  intro o' heq
  cases heq
  exact h rfl

theorem map (h : Shallow x) (f : α → β) : Shallow (x.map f) := by
  cases x with
  | ok a => exact ok _
  | error fault =>
      intro o heq
      cases heq
      exact h o rfl

theorem bind (h : Shallow x) {f : α → Except Fault β} (hf : ∀ a, x = .ok a → Shallow (f a)) :
    Shallow (x >>= f) := by
  cases x with
  | ok a => exact hf a rfl
  | error fault =>
      intro o heq
      cases heq
      exact h o rfl

theorem readEscape (start o : Nat) (text : List Char) : Shallow (readEscape start o text) := by
  rw [readEscape.eq_def]
  split
  · exact error (by decide) _
  · split
    · exact error (by decide) _
    · split
      · rw [readSecondHalf.eq_def]
        split
        · split
          · exact error (by decide) _
          · split <;> exact ok _
        · exact ok _
      · exact ok _
  · exact error (by decide) _
  · split
    · exact ok _
    · exact error (by decide) _

theorem readText (source : Source) (start skip o : Nat) (seen : List CodePoint)
    (text : List Char) : Shallow (readText source start skip o seen text) := by
  fun_induction Json.readText source start skip o seen text with
  | case1 => exact error (by decide) _
  | case2 skip o seen c rest ih => exact ih
  | case3 => exact ok _
  | case4 o seen rest hquote meant count hescape ih => exact ih
  | case5 o seen rest fault hescape =>
      intro o' heq
      cases heq
      exact readEscape _ _ _ _ hescape
  | case6 => exact error (by decide) _
  | case7 o seen c rest hquote hbackslash hcontrol ih => exact ih

theorem readNumber (c : Cursor) : Shallow (readNumber c) := by
  rw [Json.readNumber]
  split
  split
  split
  · exact error (by decide) _
  · split
    split
    dsimp only
    split
    · split
      · exact error (by decide) _
      · exact ok _
    · exact ok _

theorem readScalar (c : Cursor) : Shallow (readScalar c) := by
  rw [Json.readScalar]
  split
  · exact ok _
  · exact readNumber c

theorem readName (source : Source) (c : Cursor) : Shallow (readName source c) := by
  rw [Json.readName]
  split
  · refine (readText _ _ _ _ _ _).bind fun _ _ => ?_
    dsimp only
    split
    · exact ok _
    · exact error (by decide) _
  · exact error (by decide) _

end Shallow

/-! ## The limit -/

/-- Two readings of the same, the second one under a limit that is not smaller: the first one is
refused for a list or an object that begins where as much is open as may be, or they are equal. -/
inductive Settles {α : Type} (chars : List Char) (size : Nat) :
    Except Fault α → Except Fault α → Prop
  | refused {stack : List Container} {c : Cursor} (begins : Begins chars stack c)
      (opens : c.Opens) (full : stack.length = size) (y : Except Fault α) :
      Settles chars size (.error ⟨.tooDeep, c.offset⟩) y
  | same {x : Except Fault α} (shallow : Shallow x) : Settles chars size x x

namespace Settles

variable {α β : Type} {chars : List Char} {size : Nat} {x y : Except Fault α}

theorem eq_of_room (h : Settles chars size x y)
    (hroom : ∀ stack c, Begins chars stack c → c.Opens → stack.length ≠ size) : y = x := by
  cases h with
  | @refused stack c begins opens full => exact absurd full (hroom stack c begins opens)
  | same => rfl

theorem eq_of_ok {a : α} (h : Settles chars size (.ok a) y) : y = .ok a := by
  cases h
  rfl

theorem of_tooDeep {o : Nat} (h : Settles chars size (.error ⟨.tooDeep, o⟩) y) :
    ∃ stack c, Begins chars stack c ∧ c.Opens ∧ stack.length = size ∧ c.offset = o := by
  cases h with
  | @refused stack c begins opens full => exact ⟨stack, c, begins, opens, full, rfl⟩
  | same shallow => exact absurd rfl (shallow o)

theorem bind {f g : α → Except Fault β} (h : Settles chars size x y)
    (hfg : ∀ a, x = .ok a → Settles chars size (f a) (g a)) :
    Settles chars size (x >>= f) (y >>= g) := by
  cases h with
  | refused begins opens full => exact .refused begins opens full _
  | same shallow =>
      cases x with
      | ok a => exact hfg a rfl
      | error fault => exact .same (shallow.bind nofun)

end Settles

mutual

/-- The lists and objects that are open and those that may still open are as many at every value, so
the reader stops where the former are as many as the first limit. -/
theorem settles_value {chars : List Char} {stack : List Container} {size limit limit' : Nat}
    (fuel : Nat) {c : Cursor} (hbegins : Begins chars stack c)
    (hsize : stack.length + limit = size) (hle : limit ≤ limit') :
    Settles chars size (readValue .plain limit fuel c) (readValue .plain limit' fuel c) := by
  match fuel with
  | 0 => exact .same (.error (by decide) _)
  | fuel + 1 =>
      rw [readValue.eq_def, readValue.eq_def]
      dsimp only
      split
      · exact .same (Shallow.map (.readText _ _ _ _ _ _) _)
      · next hopen =>
          match limit, limit' with
          | 0, _ => exact .refused hbegins (Or.inl (by rw [hopen]; rfl)) hsize _
          | limit + 1, limit' + 1 =>
              dsimp only
              split
              · exact .same (.ok _)
              · next hnonempty =>
                  have hfirst : Begins chars (.list :: stack) (c.advance 1).skipSpace :=
                    .item hbegins hopen hnonempty
                  exact settles_items fuel hfirst (by omega) (Nat.le_of_succ_le_succ hle)
      · next hopen =>
          match limit, limit' with
          | 0, _ => exact .refused hbegins (Or.inr (by rw [hopen]; rfl)) hsize _
          | limit + 1, limit' + 1 =>
              dsimp only
              split
              · exact .same (.ok _)
              · exact settles_members fuel (fun _ _ => .member hbegins hopen) (by omega)
                  (Nat.le_of_succ_le_succ hle)
      · exact .same (.readScalar c)

theorem settles_items {chars : List Char} {stack : List Container} {size limit limit' : Nat}
    (fuel : Nat) {seen : List Json} {c : Cursor} (hbegins : Begins chars (.list :: stack) c)
    (hsize : stack.length + 1 + limit = size) (hle : limit ≤ limit') :
    Settles chars size (readItems .plain limit fuel seen c)
      (readItems .plain limit' fuel seen c) := by
  match fuel with
  | 0 => exact .same (.error (by decide) _)
  | fuel + 1 =>
      rw [readItems, readItems]
      refine (settles_value fuel hbegins hsize hle).bind ?_
      rintro ⟨item, behind⟩ hread
      dsimp only
      split
      · exact .same (.ok _)
      · next hcomma => exact settles_items fuel (.nextItem hbegins hread hcomma) hsize hle
      · exact .same (.error (by decide) _)

theorem settles_members {chars : List Char} {stack : List Container} {size limit limit' : Nat}
    (fuel : Nat) {seen : List (AnyText × Json)} {c : Cursor}
    (hbegins : ∀ name start, readName .plain c = .ok (name, start) →
      Begins chars (.object :: stack) start)
    (hsize : stack.length + 1 + limit = size) (hle : limit ≤ limit') :
    Settles chars size (readMembers .plain limit fuel seen c)
      (readMembers .plain limit' fuel seen c) := by
  match fuel with
  | 0 => exact .same (.error (by decide) _)
  | fuel + 1 =>
      rw [readMembers, readMembers]
      refine Settles.bind (.same (.readName _ c)) ?_
      rintro ⟨name, start⟩ hname
      refine (settles_value fuel (hbegins name start hname) hsize hle).bind ?_
      rintro ⟨item, behind⟩ hread
      dsimp only
      split
      · exact .same (.ok _)
      · next hcomma =>
          exact settles_members fuel
            (fun _ _ => .nextMember (hbegins name start hname) hread hcomma) hsize hle
      · exact .same (.error (by decide) _)

end

/-! ## Texts -/

theorem settles_readWithin (text : String) {limit limit' : Nat} (hle : limit ≤ limit') :
    Settles text.toList limit (readWithin limit text) (readWithin limit' text) := by
  rw [readWithin, readWithin]
  split
  · exact .same (.error (by decide) _)
  · next hmark =>
      rw [readSource, readSource]
      refine (settles_value _ (.document hmark) (Nat.zero_add _) hle).bind ?_
      rintro ⟨j, behind⟩ -
      dsimp only
      split
      · exact .same (.ok _)
      · exact .same (.error (by decide) _)

/-- With its nesting as a limit, a text is read as without one. -/
theorem readWithin_eq_read {text : String} {limit : Nat} (hle : nesting text ≤ limit) :
    readWithin limit text = read text :=
  (settles_readWithin text hle).eq_of_room fun _ _ hbegins hopens =>
    (hbegins.lt_nesting hopens).ne

/-- A number is the depth of a text that is a document, and bounds what is open in any other. -/
structure Measures (text : String) (size : Nat) : Prop where
  /-- A document that is accepted, under any limit, has this depth. -/
  accepted : ∀ limit j, readWithin limit text = .ok j → j.depth = size ∧ read text = .ok j
  /-- Where a value begins, no more is open. -/
  open_le : ∀ stack c, Begins text.toList stack c → stack.length ≤ size
  /-- Nor is it with the list or the object that begins there. -/
  open_lt : ∀ stack c, Begins text.toList stack c → c.Opens → stack.length < size
  /-- The reader is refused for the depth at such a place only, and only under a smaller limit. -/
  refused : ∀ limit o, readWithin limit text = .error ⟨.tooDeep, o⟩ → limit < size ∧
    ∃ stack c, Begins text.toList stack c ∧ c.Opens ∧ stack.length = limit ∧ c.offset = o
  /-- A limit that is not smaller does not matter. -/
  unlimited : ∀ limit, size ≤ limit → readWithin limit text = read text

/-- The nesting is exact on documents, and on every other text it bounds what is open. -/
theorem nesting_measures (text : String) : Measures text (nesting text) where
  accepted limit j hread := by
    refine ⟨(nesting_of_readWithin hread).symm, ?_⟩
    rcases Nat.le_total limit (nesting text) with hle | hle
    · have hsettles := settles_readWithin text hle
      rw [hread] at hsettles
      exact hsettles.eq_of_ok
    · rw [← readWithin_eq_read hle]
      exact hread
  open_le _ _ hbegins := hbegins.reaches.le_nesting
  open_lt _ _ hbegins hopens := hbegins.lt_nesting hopens
  refused limit o hread := by
    have hsettles := settles_readWithin text (Nat.le_refl limit)
    rw [hread] at hsettles
    obtain ⟨stack, c, hbegins, hopens, hfull, ho⟩ := hsettles.of_tooDeep
    exact ⟨hfull ▸ hbegins.lt_nesting hopens, stack, c, hbegins, hopens, hfull, ho⟩
  unlimited _ hle := readWithin_eq_read hle

example : nesting "]]][[" = 0 ∧ read "]]][[" = .error ⟨.expectingValue, 0⟩ := ⟨by decide, rfl⟩

end CollectionQuery.Json
