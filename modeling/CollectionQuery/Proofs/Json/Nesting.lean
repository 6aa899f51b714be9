import CollectionQuery.Proofs.Json.Reader
import CollectionQuery.Proofs.Outcome

/-!
# The nesting of what is read

The scan counts exactly the lists and objects that are open at once.  The reader may pass any text
and stop in it.  Wherever it comes to, the scan is there outside of texts: behind what was read as a
text or a number at the level in front of it, behind an opening bracket one level higher, behind the
end of a list or an object one level lower.  No part of a text ends it too early, so the brackets in
it do not count.

What is read as a value leaves the level as it is, and the scan sees its depth.  So the nesting of
what is read, or written, is the depth of the document.
-/

namespace CollectionQuery.Json

open CollectionQuery.Number CollectionQuery.Text

/-! ## Characters that do not count -/

/-- Whether the scan passes a character outside of texts without a change. -/
def isNeutral (c : Char) : Bool := c ∉ ['"', '[', '\x7b', ']', '\x7d']

theorem scan_neutral {cs : List Char} (h : ∀ c ∈ cs, isNeutral c = true) (n d : Int) :
    cs.foldl Scan.step ⟨.outside, n, d⟩ = ⟨.outside, n, d⟩ := by
  induction cs with
  | nil => rfl
  | cons c cs ih =>
      obtain ⟨hc, hcs⟩ := List.forall_mem_cons.1 h
      have hstep : Scan.step ⟨.outside, n, d⟩ c = ⟨.outside, n, d⟩ := by
        simp only [isNeutral, List.mem_cons, List.not_mem_nil, or_false, not_or,
          decide_eq_true_eq] at hc
        simp [Scan.step, hc]
      rw [List.foldl_cons, hstep]
      exact ih hcs

theorem neutral_of_isSpace {c : Char} (h : isSpace c = true) : isNeutral c = true := by
  simp only [isSpace, Bool.or_eq_true, beq_iff_eq] at h
  rcases h with ((rfl | rfl) | rfl) | rfl <;> decide

theorem neutral_of_isDigit {c : Char} (h : c.isDigit = true) : isNeutral c = true := by
  rw [isNeutral, decide_eq_true_eq]
  intro hmem
  simp only [List.mem_cons, List.not_mem_nil, or_false] at hmem
  rcases hmem with rfl | rfl | rfl | rfl | rfl <;> cases h

theorem neutral_of_named {n : List Char × Json} (known : n ∈ names) :
    ∀ c ∈ n.1, isNeutral c = true := by
  rcases mem_names known with rfl | rfl | rfl | rfl | rfl | rfl <;> exact List.all_eq_true.1 rfl

/-! ## What is passed -/

/-- The scan of a text goes on with that of a rest of it, outside of texts: `rise` levels higher,
and at most `height` levels higher on the way. -/
def Passes (text rest : List Char) (rise height : Int) : Prop :=
  ∀ n d : Int, n ≤ d → text.foldl Scan.step ⟨.outside, n, d⟩ =
    rest.foldl Scan.step ⟨.outside, n + rise, max d (n + height)⟩

namespace Passes

variable {a b e : List Char} {r s h k : Int}

theorem of_eq (heq : ∀ n d : Int, a.foldl Scan.step ⟨.outside, n, d⟩ =
    b.foldl Scan.step ⟨.outside, n, d⟩) : Passes a b 0 0 := by
  intro n d hn
  rw [heq, Int.add_zero, Int.max_eq_left hn]

theorem refl (a : List Char) : Passes a a 0 0 := .of_eq fun _ _ => rfl

theorem trans (first : Passes a b r h) (hr : r ≤ h) (second : Passes b e s k) :
    Passes a e (r + s) (max h (r + k)) := by
  intro n d hn
  rw [first n d hn, second _ _ (by omega)]
  congr 2 <;> omega

/-- A part that leaves the level as it is and has no depth. -/
theorem flat_trans (first : Passes a b 0 0) (second : Passes b e s k) : Passes a e s k := by
  intro n d hn
  have hflat := first n d hn
  rw [Int.add_zero, Int.max_eq_left hn] at hflat
  rw [hflat, second n d hn]

theorem cast (first : Passes a b r h) (hr : r = s) (hh : h = k) : Passes a b s k :=
  hr ▸ hh ▸ first

theorem of_neutral {passed : List Char} (hpassed : ∀ c ∈ passed, isNeutral c = true)
    (rest : List Char) : Passes (passed ++ rest) rest 0 0 :=
  .of_eq fun n d => by rw [List.foldl_append, scan_neutral hpassed]

theorem separator {c : Char} (hc : isNeutral c = true) (rest : List Char) :
    Passes (c :: rest) rest 0 0 := of_neutral (List.forall_mem_singleton.2 hc) rest

theorem dropWhile {p : Char → Bool} (hp : ∀ c, p c = true → isNeutral c = true)
    (text : List Char) : Passes text (text.dropWhile p) 0 0 := by
  have hpassed : ∀ c ∈ text.takeWhile p, isNeutral c = true :=
    fun c hc => hp c (List.mem_takeWhile_imp hc)
  have hflat := of_neutral hpassed (text.dropWhile p)
  rwa [List.takeWhile_append_dropWhile] at hflat

theorem skipSpace (c : Cursor) : Passes c.rest c.skipSpace.rest 0 0 :=
  dropWhile (fun _ => neutral_of_isSpace) c.rest

theorem digits (text : List Char) : Passes text (text.dropWhile Char.isDigit) 0 0 :=
  dropWhile (fun _ => neutral_of_isDigit) text

theorem opening {c : Char} (hc : c = '[' ∨ c = '\x7b') (rest : List Char) :
    Passes (c :: rest) rest 1 1 := by
  intro n d _
  rcases hc with rfl | rfl <;> rfl

theorem closing {c : Char} (hc : c = ']' ∨ c = '\x7d') (rest : List Char) :
    Passes (c :: rest) rest (-1) 0 := by
  intro n d hn
  rw [Int.add_zero, Int.max_eq_left hn]
  rcases hc with rfl | rfl <;> rfl

end Passes

/-! ## Texts -/

variable {source : Source}

theorem ne_of_hexValue? {c : Char} {n : Nat} (h : hexValue? c = some n) : c ≠ '"' ∧ c ≠ '\\' := by
  constructor <;> rintro rfl <;> cases h

theorem scan_inText {c : Char} (h : c ≠ '"' ∧ c ≠ '\\') (n d : Int) :
    Scan.step ⟨.inText, n, d⟩ c = ⟨.inText, n, d⟩ := by
  simp [Scan.step, h]

theorem scan_hex4 {a b c e : Char} {m : Nat} (h : hex4? a b c e = some m) (n d : Int) :
    [a, b, c, e].foldl Scan.step ⟨.inText, n, d⟩ = ⟨.inText, n, d⟩ := by
  simp only [hex4?, Option.bind_eq_bind, Option.bind_eq_some_iff] at h
  obtain ⟨_, ha, _, hb, _, hc, _, he, -⟩ := h
  simp only [List.foldl_cons, List.foldl_nil, scan_inText (ne_of_hexValue? ha),
    scan_inText (ne_of_hexValue? hb), scan_inText (ne_of_hexValue? hc),
    scan_inText (ne_of_hexValue? he)]

/-- The second half of a surrogate pair is passed if it is there, and nothing else is. -/
theorem readSecondHalf_cases {o high count : Nat} {text : List Char} {meant : CodePoint}
    (h : readSecondHalf o high text = .ok (meant, count)) :
    count = 5 ∨ count = 11 ∧ ∃ a b c e m rest, hex4? a b c e = some m ∧
      text = 'u' :: a :: b :: c :: e :: rest := by
  rw [readSecondHalf.eq_def] at h
  split at h
  · next a b c e next rest =>
      split at h
      · cases h
      · next m hdigits =>
          split at h
          · exact Or.inr ⟨(Prod.mk.inj (Except.ok.inj h)).2.symm, a, b, c, e, m, next :: rest,
              hdigits, rfl⟩
          · exact Or.inl (Prod.mk.inj (Except.ok.inj h)).2.symm
  · cases h
    exact Or.inl rfl

/-- What an escape takes behind its backslash, with the scan at its end in the text again. -/
theorem scan_readEscape {start o count : Nat} {text : List Char} {meant : CodePoint}
    (h : readEscape start o text = .ok (meant, count)) :
    ∃ passed rest, text = passed ++ rest ∧ passed.length = count ∧
      ∀ n d, passed.foldl Scan.step ⟨.escaped, n, d⟩ = ⟨.inText, n, d⟩ := by
  have hcode {a b c e : Char} {m : Nat} (hdigits : hex4? a b c e = some m) (n d : Int) :
      ['u', a, b, c, e].foldl Scan.step ⟨.escaped, n, d⟩ = ⟨.inText, n, d⟩ :=
    scan_hex4 hdigits n d
  rw [readEscape.eq_def] at h
  split at h
  · cases h
  · next a b c e next rest =>
      split at h
      · cases h
      · next m hdigits =>
          split at h
          · next hpair =>
              obtain ⟨-, rfl⟩ := hpair
              rcases readSecondHalf_cases h with
                rfl | ⟨rfl, a', b', c', e', m', rest', hdigits', rfl⟩
              · exact ⟨['u', a, b, c, e], _, rfl, rfl, hcode hdigits⟩
              · refine ⟨['u', a, b, c, e] ++ '\\' :: ['u', a', b', c', e'], rest', rfl, rfl,
                  fun n d => ?_⟩
                rw [List.foldl_append, hcode hdigits]
                exact hcode hdigits' n d
          · cases h
            exact ⟨['u', a, b, c, e], _, rfl, rfl, hcode hdigits⟩
  · cases h
  · next e rest _ _ =>
      split at h
      · cases h
        exact ⟨[e], rest, rfl, rfl, fun n d => rfl⟩
      · cases h

/-- A text is passed up to its closing quote. -/
theorem scan_readText {start o : Nat} {seen : List CodePoint} {text : List Char} {s : AnyText}
    {behind : Cursor}
    (h : readText source start 0 o seen text = .ok (s, behind)) (n d : Int) :
    text.foldl Scan.step ⟨.inText, n, d⟩ = behind.rest.foldl Scan.step ⟨.outside, n, d⟩ := by
  match text with
  | [] => cases h
  | c :: rest =>
      rw [readText] at h
      split at h
      · next hquote =>
          subst hquote
          cases h
          rfl
      split at h
      · next hbackslash =>
          subst hbackslash
          split at h
          · next meant count hescape =>
              obtain ⟨passed, more, hrest, hcount, hscan⟩ := scan_readEscape hescape
              have hshorter : more.length < rest.length + 1 := by
                rw [hrest, List.length_append]
                omega
              have hstep : Scan.step ⟨.inText, n, d⟩ '\\' = ⟨.escaped, n, d⟩ := rfl
              rw [hrest, readText_skip _ _ _ _ _ _ hcount] at h
              rw [List.foldl_cons, hstep, hrest, List.foldl_append, hscan, scan_readText h]
          · cases h
      · next hquote hbackslash =>
          split at h
          · cases h
          · rw [List.foldl_cons, scan_inText ⟨hquote, hbackslash⟩, scan_readText h]
termination_by text.length

/-! ## Numbers and names -/

namespace Passes

theorem of_readSign {text body : List Char} {negative : Bool}
    (h : readSign text = (negative, body)) : Passes text body 0 0 := by
  rw [readSign.eq_def] at h
  split at h
  · cases h
    exact .separator rfl _
  · cases h
    exact .refl _

theorem of_splitSign {text body : List Char} {negative : Bool}
    (h : splitSign text = (negative, body)) : Passes text body 0 0 := by
  rw [splitSign.eq_def] at h
  split at h
  · cases h
    exact .separator rfl _
  · cases h
    exact .separator rfl _
  · cases h
    exact .refl _

theorem of_readWhole {text whole tail : List Char} (h : readWhole text = (whole, tail)) :
    Passes text tail 0 0 := by
  rw [readWhole.eq_def] at h
  split at h
  · cases h
    exact .separator rfl _
  · cases h
    exact .digits _

theorem of_readPlaces {text places tail : List Char} (h : readPlaces text = (places, tail)) :
    Passes text tail 0 0 := by
  rw [readPlaces.eq_def] at h
  split at h
  · next rest =>
      dsimp only at h
      split at h
      · cases h
        exact .refl _
      · cases h
        exact (separator rfl rest).flat_trans (.digits rest)
  · cases h
    exact .refl _

theorem of_readPower {text tail : List Char} {power : Option Int}
    (h : readPower text = (power, tail)) : Passes text tail 0 0 := by
  rw [readPower.eq_def] at h
  split at h
  · next mark rest =>
      dsimp only at h
      split at h
      · next hpower =>
          cases h
          have hmark : isNeutral mark = true := by
            rcases hpower.1 with rfl | rfl <;> rfl
          exact (separator hmark rest).flat_trans
            ((of_splitSign rfl).flat_trans (.digits _))
      · cases h
        exact .refl _
  · cases h
    exact .refl _

/-- A number is passed at its level. -/
theorem of_readNumber {c behind : Cursor} {j : Json} (h : readNumber c = .ok (j, behind)) :
    Passes c.rest behind.rest 0 j.depth := by
  rw [readNumber] at h
  split at h
  next negative body hsign =>
  split at h
  next whole tail hwhole =>
  split at h
  · cases h
  split at h
  next places tail' hplaces =>
  split at h
  next power tail'' hpower =>
  have hpassed : Passes c.rest tail'' 0 0 := (of_readSign hsign).flat_trans <|
    (of_readWhole hwhole).flat_trans <| (of_readPlaces hplaces).flat_trans (of_readPower hpower)
  dsimp only at h
  split at h
  · split at h
    · cases h
    · cases h
      exact hpassed
  · cases h
    exact hpassed

/-- So is a name. -/
theorem of_readScalar {c behind : Cursor} {j : Json} (h : readScalar c = .ok (j, behind)) :
    Passes c.rest behind.rest 0 j.depth := by
  rw [readScalar] at h
  split at h
  · next n hfound =>
      cases h
      have hknown := List.mem_of_find?_eq_some hfound
      obtain ⟨rest, hrest⟩ := List.isPrefixOf_iff_prefix.1
        (List.find?_some (p := fun n : List Char × Json => n.1.isPrefixOf c.rest) hfound)
      rw [depth_of_named hknown, Cursor.advance, ← hrest, List.drop_left]
      exact .of_neutral (neutral_of_named hknown) rest
  · exact of_readNumber h

/-- So is a text. -/
theorem of_readText {start o : Nat} {s : AnyText} {text : List Char} {behind : Cursor}
    (h : readText source start 0 o [] text = .ok (s, behind)) :
    Passes ('"' :: text) behind.rest 0 0 :=
  .of_eq fun n d => scan_readText h n d

theorem next {c : Cursor} {mark : Char} {tail : List Char} (h : c.rest = mark :: tail) {r k : Int}
    (first : Passes (mark :: tail) tail r k) : Passes c.rest (c.advance 1).rest r k := by
  rw [Cursor.advance, h]
  exact first

/-- The name of a member is passed up to where its value begins. -/
theorem of_readName {c start : Cursor} {name : AnyText}
    (h : readName source c = .ok (name, start)) :
    Passes c.rest start.rest 0 0 := by
  rw [readName] at h
  split at h
  · next rest hquote =>
      obtain ⟨⟨_, behind⟩, htext, h⟩ := bind_eq_ok.1 h
      dsimp only at h
      split at h
      · next hcolon =>
          cases h
          rw [hquote]
          exact (of_readText htext).flat_trans <| (skipSpace behind).flat_trans <|
            (next hcolon (separator rfl _)).flat_trans (skipSpace _)
      · cases h
  · cases h

end Passes

/-! ## Values -/

/-- What stands between an opening bracket and the closing one behind it. -/
theorem Passes.nested {c : Cursor} {rest : List Char} {k : Nat}
    (bracket : Passes c.rest (c.advance 1).rest 1 1)
    (inside : Passes (c.advance 1).skipSpace.rest rest (-1) k) :
    Passes c.rest rest 0 (k + 1 : Nat) := by
  refine (bracket.trans (Int.le_refl 1) ((skipSpace _).flat_trans inside)).cast rfl ?_
  omega

/-- A value, and what follows it behind blanks. -/
theorem Passes.followed {text rest : List Char} {behind : Cursor} {rise : Int} {k m : Nat}
    (value : Passes text behind.rest 0 k) (tail : Passes behind.skipSpace.rest rest rise m) :
    Passes text rest rise (max k m : Nat) := by
  refine (value.trans (Int.natCast_nonneg k) ((skipSpace behind).flat_trans tail)).cast ?_ ?_
  · omega
  · omega

mutual

/-- What is read as a value is passed at its level, and the scan sees its depth. -/
theorem passes_value {limit : Nat} (fuel : Nat) {c behind : Cursor} {j : Json}
    (h : readValue source limit fuel c = .ok (j, behind)) :
    Passes c.rest behind.rest 0 j.depth := by
  match fuel with
  | 0 => cases h
  | fuel + 1 =>
      rw [readValue.eq_def] at h
      dsimp only at h
      split at h
      · next hquote =>
          obtain ⟨_, htext, heq⟩ := map_eq_ok.1 h
          cases heq
          rw [hquote]
          exact .of_readText htext
      · next hopen =>
          have hbracket := Passes.next hopen (.opening (Or.inl rfl) _)
          split at h
          · cases h
          split at h
          · next hend =>
              cases h
              exact hbracket.nested (k := 0) (.next hend (.closing (Or.inl rfl) _))
          · obtain ⟨items, rfl, hitems⟩ := passes_items fuel h
            exact hbracket.nested hitems
      · next hopen =>
          have hbrace := Passes.next hopen (.opening (Or.inr rfl) _)
          split at h
          · cases h
          split at h
          · next hend =>
              cases h
              exact hbrace.nested (k := 0) (.next hend (.closing (Or.inr rfl) _))
          · obtain ⟨members, rfl, hmembers⟩ := passes_members fuel h
            exact hbrace.nested hmembers
      · exact .of_readScalar h

/-- The items of a list and its end. -/
theorem passes_items {limit : Nat} (fuel : Nat) {seen : List Json} {c behind : Cursor} {j : Json}
    (h : readItems source limit fuel seen c = .ok (j, behind)) :
    ∃ items, j = .list (seen.reverse ++ items) ∧
      Passes c.rest behind.rest (-1) (depthOfItems items) := by
  match fuel with
  | 0 => cases h
  | fuel + 1 =>
      rw [readItems] at h
      obtain ⟨⟨item, behind'⟩, hread, h⟩ := bind_eq_ok.1 h
      have hitem := passes_value fuel hread
      dsimp only at h
      split at h
      · next hend =>
          cases h
          refine ⟨[item], by rw [List.reverse_cons], ?_⟩
          exact hitem.followed (m := 0) (.next hend (.closing (Or.inl rfl) _))
      · next hcomma =>
          obtain ⟨items, rfl, hitems⟩ := passes_items fuel h
          refine ⟨item :: items, by simp, ?_⟩
          exact hitem.followed <| (Passes.next hcomma (.separator rfl _)).flat_trans <|
            (Passes.skipSpace _).flat_trans hitems
      · cases h

/-- The members of an object and its end. -/
theorem passes_members {limit : Nat} (fuel : Nat) {seen : List (AnyText × Json)} {c behind : Cursor}
    {j : Json} (h : readMembers source limit fuel seen c = .ok (j, behind)) :
    ∃ members, j = .object (seen.reverse ++ members) ∧
      Passes c.rest behind.rest (-1) (depthOfMembers members) := by
  match fuel with
  | 0 => cases h
  | fuel + 1 =>
      rw [readMembers] at h
      obtain ⟨⟨name, start⟩, hname, h⟩ := bind_eq_ok.1 h
      obtain ⟨⟨item, behind'⟩, hread, h⟩ := bind_eq_ok.1 h
      have hitem := (Passes.of_readName hname).flat_trans (passes_value fuel hread)
      dsimp only at h
      split at h
      · next hend =>
          cases h
          refine ⟨[(name, item)], by rw [List.reverse_cons], ?_⟩
          exact hitem.followed (m := 0) (.next hend (.closing (Or.inr rfl) _))
      · next hcomma =>
          obtain ⟨members, rfl, hmembers⟩ := passes_members fuel h
          refine ⟨(name, item) :: members, by simp, ?_⟩
          exact hitem.followed <| (Passes.next hcomma (.separator rfl _)).flat_trans <|
            (Passes.skipSpace _).flat_trans hmembers
      · cases h

end

/-! ## Documents -/

/-- The nesting is the height if all of the text is passed. -/
theorem Passes.nesting_eq {text : String} {rise : Int} {size : Nat}
    (h : Passes text.toList [] rise size) : nesting text = size := by
  rw [nesting, h 0 0 (Int.le_refl 0), List.foldl_nil]
  dsimp only
  omega

/-- What is read is passed to the end. -/
theorem nesting_of_readSource {chars : List Char} {limit : Nat} {j : Json}
    (h : readSource source limit chars = .ok j) : nesting (String.ofList chars) = j.depth := by
  rw [readSource] at h
  obtain ⟨⟨j', behind⟩, hvalue, h⟩ := bind_eq_ok.1 h
  dsimp only at h
  split at h
  · next hend =>
      cases h
      have hpassed := (Passes.skipSpace ⟨0, chars⟩).flat_trans <|
        (passes_value _ hvalue).followed (m := 0) (.refl _)
      rw [hend, Nat.max_zero] at hpassed
      exact Passes.nesting_eq (by rwa [String.toList_ofList])
  · cases h

theorem nesting_of_readWithin {text : AnyText} {limit : Nat} {j : Json}
    (h : readWithin limit text = .ok j) : nesting text.shown = j.depth := by
  rw [readWithin] at h
  split at h
  · cases h
  · rw [← nesting_of_readSource h, String.ofList_toList]

/-- The nesting of what is written is the depth of the document. -/
theorem nesting_chars (l : Layout) : nesting (String.ofList l.chars) = l.document.depth := by
  have hread := readSource_chars l l.document.depth
  rw [Within, if_pos (Nat.le_refl _)] at hread
  exact nesting_of_readSource hread

end CollectionQuery.Json
