import CollectionQuery.Proofs.Json.Scalars
import CollectionQuery.Proofs.Outcome

/-!
# Reading documents

The reader gives the document of a layout and stops behind its last character, if the limit allows
as many open lists and objects as the document has, and refuses otherwise.  The proof follows the
layout.  Two steps for every character are fuel enough.
-/

namespace CollectionQuery.Json

open CollectionQuery.Text

/-! ## Blanks -/

theorem skipSpace_blanks (b : Blanks) (o : Nat) {rest : List Char}
    (hrest : ∀ c ∈ rest.head?, isSpace c = false) :
    Cursor.skipSpace ⟨o, b.chars ++ rest⟩ = ⟨o + b.chars.length, rest⟩ := by
  rw [Cursor.skipSpace, Cursor.skip, List.takeWhile_run b.blank hrest,
    List.dropWhile_run b.blank hrest]

/-- A value begins with no blank and no closing bracket. -/
theorem Layout.head_chars (l : Layout) :
    ∃ c more, l.chars = c :: more ∧ isSpace c = false ∧ c ≠ ']' := by
  cases l with
  | named n known =>
      rcases mem_names known with rfl | rfl | rfl | rfl | rfl | rfl <;>
        exact ⟨_, _, rfl, by decide, by decide⟩
  | number n =>
      obtain ⟨d, more, hd, hchars⟩ := n.head_chars []
      rw [List.append_nil] at hchars
      have hdigit : isSpace d = false ∧ d ≠ ']' := by
        refine ⟨?_, ?_⟩
        · by_contra hspace
          simp only [isSpace, Bool.not_eq_false, Bool.or_eq_true, beq_iff_eq] at hspace
          rcases hspace with ((rfl | rfl) | rfl) | rfl <;> cases hd
        · rintro rfl
          cases hd
      rcases hchars with hchars | hchars
      · exact ⟨d, more, hchars, hdigit⟩
      · exact ⟨'-', d :: more, hchars, by decide, by decide⟩
  | _ => exact ⟨_, _, rfl, by decide, by decide⟩

theorem Layout.head_append (l : Layout) (rest : List Char) :
    ∀ c ∈ (l.chars ++ rest).head?, isSpace c = false ∧ c ≠ ']' := by
  obtain ⟨c, more, hchars, hc⟩ := l.head_chars
  rw [hchars]
  rintro _ ⟨⟩
  exact hc

/-! ## Values -/

section

variable {α β : Type} {limit d e : Nat} {x : Except Fault α} {a : α}

/-- Whether an operation gives a result if the limit allows a depth, and refuses otherwise. -/
def Within (limit d : Nat) (x : Except Fault α) (a : α) : Prop :=
  if d ≤ limit then x = .ok a else ∃ f, x = .error f

theorem Within.of_eq (limit : Nat) (h : x = .ok a) : Within limit 0 x a := by
  rw [Within, if_pos (Nat.zero_le limit)]
  exact h

theorem Within.succ (h : Within limit d x a) : Within (limit + 1) (d + 1) x a := by
  simpa only [Within, Nat.add_le_add_iff_right] using h

theorem within_zero (h : ∃ f, x = .error f) : Within 0 (d + 1) x a := by
  rwa [Within, if_neg (Nat.not_succ_le_zero d)]

theorem Within.bind {f : α → Except Fault β} {b : β} (h : Within limit d x a)
    (hf : Within limit e (f a) b) : Within limit (max d e) (x >>= f) b := by
  rw [Within] at h hf ⊢
  by_cases hd : d ≤ limit
  · rw [if_pos hd] at h
    subst h
    by_cases he : e ≤ limit
    · rw [if_pos he] at hf
      rw [if_pos (Nat.max_le.2 ⟨hd, he⟩)]
      exact hf
    · rw [if_neg he] at hf
      rw [if_neg fun hmax => he (Nat.max_le.1 hmax).2]
      exact hf
  · rw [if_neg hd] at h
    obtain ⟨f, rfl⟩ := h
    rw [if_neg fun hmax => hd (Nat.max_le.1 hmax).1]
    exact ⟨f, rfl⟩

end

theorem Blanks.follows (b : Blanks) (c : Char) (rest : List Char) (hc : endsValue c = true) :
    Follows (b.chars ++ c :: rest) := by
  intro d hd
  cases hb : b.chars with
  | nil =>
      obtain rfl : c = d := by simpa [hb] using hd
      exact hc
  | cons space more =>
      obtain rfl : space = d := by simpa [hb] using hd
      have hspace := b.blank space (hb ▸ List.mem_cons_self)
      simp only [isSpace, Bool.or_eq_true, beq_iff_eq] at hspace
      rcases hspace with ((rfl | rfl) | rfl) | rfl <;> decide

section

variable {source : Source} {limit fuel o : Nat} {r : List Char}

theorem readValue_scalar (h : ∀ c ∈ r.head?, c ≠ '"' ∧ c ≠ '[' ∧ c ≠ '\x7b') :
    readValue source limit (fuel + 1) ⟨o, r⟩ = readScalar ⟨o, r⟩ := by
  rw [readValue.eq_def]
  dsimp only
  split
  · exact absurd rfl (h _ rfl).1
  · exact absurd rfl (h _ rfl).2.1
  · exact absurd rfl (h _ rfl).2.2
  · rfl

/-- A list that is not empty is read item by item. -/
theorem readValue_list (before : Blanks) (h : ∀ c ∈ r.head?, isSpace c = false ∧ c ≠ ']') :
    readValue source (limit + 1) (fuel + 1) ⟨o, '[' :: (before.chars ++ r)⟩ =
      readItems source limit fuel [] ⟨o + 1 + before.chars.length, r⟩ := by
  have hskip : Cursor.skipSpace (Cursor.advance ⟨o, '[' :: (before.chars ++ r)⟩ 1) =
      ⟨o + 1 + before.chars.length, r⟩ := skipSpace_blanks before (o + 1) fun c hc => (h c hc).1
  simp only [readValue, hskip]
  split
  · exact absurd rfl (h _ rfl).2
  · rfl

theorem readValue_object (before : Blanks) :
    readValue source (limit + 1) (fuel + 1) ⟨o, '\x7b' :: (before.chars ++ '"' :: r)⟩ =
      readMembers source limit fuel [] ⟨o + 1 + before.chars.length, '"' :: r⟩ := by
  have hskip : Cursor.skipSpace (Cursor.advance ⟨o, '\x7b' :: (before.chars ++ '"' :: r)⟩ 1) =
      ⟨o + 1 + before.chars.length, '"' :: r⟩ :=
    skipSpace_blanks before (o + 1) (by rintro _ ⟨⟩; rfl)
  simp only [readValue, hskip]
  rfl

theorem readValue_open_list : ∃ f, readValue source 0 (fuel + 1) ⟨o, '[' :: r⟩ = .error f :=
  ⟨_, by rw [readValue]; rfl⟩

theorem readValue_open_object : ∃ f, readValue source 0 (fuel + 1) ⟨o, '\x7b' :: r⟩ = .error f :=
  ⟨_, by rw [readValue]; rfl⟩

end

theorem ItemsLayout.head_append (items : ItemsLayout) (rest : List Char) :
    ∀ c ∈ (items.chars ++ rest).head?, isSpace c = false ∧ c ≠ ']' := by
  cases items with
  | last item after =>
      rw [chars, List.append_assoc]
      exact item.head_append _
  | more item after before more =>
      rw [chars, List.append_assoc]
      exact item.head_append _

theorem MembersLayout.exists_quote (members : MembersLayout) :
    ∃ more, members.chars = '"' :: more := by
  cases members with
  | last name beforeColon afterColon item after => exact ⟨_, rfl⟩
  | more name beforeColon afterColon item after before more => exact ⟨_, rfl⟩

theorem MembersLayout.getLast?_chars (members : MembersLayout) :
    members.chars.getLast? = some '\x7d' := by
  cases members with
  | last => simp [MembersLayout.chars, List.getLast?_cons]
  | more _ _ _ _ _ _ rest =>
      have hrest := rest.getLast?_chars
      simp [MembersLayout.chars, List.getLast?_cons, hrest]

theorem Layout.length_pos (l : Layout) : 0 < l.chars.length := by
  obtain ⟨c, more, hchars, -⟩ := l.head_chars
  simp [hchars]

section

variable {source : Source} {limit fuel o p d e : Nat} {j : Json} {r rest : List Char}

/-- The last item of a list. -/
theorem readItems_last (after : Blanks) (seen : List Json)
    (h : Within limit d (readValue source limit fuel ⟨o, r⟩)
      (j, ⟨p, after.chars ++ ']' :: rest⟩)) :
    Within limit (max d 0) (readItems source limit (fuel + 1) seen ⟨o, r⟩)
      (.list (seen.reverse ++ [j]), ⟨p + after.chars.length + 1, rest⟩) := by
  rw [readItems]
  refine h.bind (.of_eq limit ?_)
  dsimp only
  rw [skipSpace_blanks after p (by rintro _ ⟨⟩; rfl), List.reverse_cons]
  rfl

/-- An item of a list, and those behind it. -/
theorem readItems_more (after before : Blanks) (seen : List Json) {result : Json × Cursor}
    (hr : ∀ c ∈ r.head?, isSpace c = false) {text : List Char}
    (h : Within limit d (readValue source limit fuel ⟨o, text⟩)
      (j, ⟨p, after.chars ++ ',' :: (before.chars ++ r)⟩))
    (hmore : Within limit e (readItems source limit fuel (j :: seen)
      ⟨p + after.chars.length + 1 + before.chars.length, r⟩) result) :
    Within limit (max d e) (readItems source limit (fuel + 1) seen ⟨o, text⟩) result := by
  rw [readItems]
  refine h.bind ?_
  dsimp only
  rw [skipSpace_blanks after p (by rintro _ ⟨⟩; rfl)]
  have hskip := skipSpace_blanks before (p + after.chars.length + 1) hr
  exact hskip ▸ hmore

variable {name : List TextPart} {beforeColon afterColon : Blanks}

theorem readName_chars (name : List TextPart) (beforeColon afterColon : Blanks)
    (hr : ∀ c ∈ r.head?, isSpace c = false) :
    readName .plain ⟨o, '"' :: (textChars name ++ '"' :: (beforeColon.chars ++ ':' ::
        (afterColon.chars ++ r)))⟩ =
      .ok (textOf name, ⟨o + 1 + (textChars name).length + 1 + beforeColon.chars.length + 1 +
        afterColon.chars.length, r⟩) := by
  have hvalue := skipSpace_blanks afterColon
    (o + 1 + (textChars name).length + 1 + beforeColon.chars.length + 1) hr
  refine bind_eq_ok.2 ⟨_, readText_textChars name o (o + 1) [] _, ?_⟩
  dsimp only
  rw [skipSpace_blanks beforeColon _ (by rintro _ ⟨⟩; rfl)]
  exact congrArg (fun c => Except.ok (textOf name, c)) hvalue

/-- The last member of an object. -/
theorem readMembers_last {name : AnyText} {c start : Cursor}
    (hname : readName source c = .ok (name, start)) (after : Blanks)
    (seen : List (AnyText × Json))
    (h : Within limit d (readValue source limit fuel start)
      (j, ⟨p, after.chars ++ '\x7d' :: rest⟩)) :
    Within limit (max d 0) (readMembers source limit (fuel + 1) seen c)
      (.object (seen.reverse ++ [(name, j)]), ⟨p + after.chars.length + 1, rest⟩) := by
  rw [readMembers, hname]
  refine h.bind (.of_eq limit ?_)
  dsimp only
  rw [skipSpace_blanks after p (by rintro _ ⟨⟩; rfl), List.reverse_cons]
  rfl

/-- A member of an object, and those behind it. -/
theorem readMembers_more {name : AnyText} {c start : Cursor}
    (hname : readName source c = .ok (name, start)) (after before : Blanks)
    (seen : List (AnyText × Json)) {result : Json × Cursor}
    (hr : ∀ c ∈ r.head?, isSpace c = false)
    (h : Within limit d (readValue source limit fuel start)
      (j, ⟨p, after.chars ++ ',' :: (before.chars ++ r)⟩))
    (hmore : Within limit e (readMembers source limit fuel ((name, j) :: seen)
      ⟨p + after.chars.length + 1 + before.chars.length, r⟩) result) :
    Within limit (max d e) (readMembers source limit (fuel + 1) seen c) result := by
  rw [readMembers, hname]
  refine h.bind ?_
  dsimp only
  rw [skipSpace_blanks after p (by rintro _ ⟨⟩; rfl)]
  have hskip := skipSpace_blanks before (p + after.chars.length + 1) hr
  exact hskip ▸ hmore

end

theorem Within.cast {m n : Nat} {limit d : Nat} {x : Except Fault (Json × Cursor)} {j : Json}
    {rest : List Char} (h : Within limit d x (j, ⟨m, rest⟩)) (hmn : m = n) :
    Within limit d x (j, ⟨n, rest⟩) := hmn ▸ h

section

variable (source : Source)

/-- The end of a list or an object that is empty. -/
theorem readValue_emptyList (inside : Blanks) (limit fuel o : Nat) (rest : List Char) :
    readValue source (limit + 1) (fuel + 1) ⟨o, '[' :: (inside.chars ++ ']' :: rest)⟩ =
      .ok (.list [], ⟨o + 1 + inside.chars.length + 1, rest⟩) := by
  have hskip : Cursor.skipSpace (Cursor.advance ⟨o, '[' :: (inside.chars ++ ']' :: rest)⟩ 1) =
      ⟨o + 1 + inside.chars.length, ']' :: rest⟩ :=
    skipSpace_blanks inside (o + 1) (by rintro _ ⟨⟩; rfl)
  simp only [readValue, hskip]
  rfl

theorem readValue_emptyObject (inside : Blanks) (limit fuel o : Nat) (rest : List Char) :
    readValue source (limit + 1) (fuel + 1) ⟨o, '\x7b' :: (inside.chars ++ '\x7d' :: rest)⟩ =
      .ok (.object [], ⟨o + 1 + inside.chars.length + 1, rest⟩) := by
  have hskip : Cursor.skipSpace
      (Cursor.advance ⟨o, '\x7b' :: (inside.chars ++ '\x7d' :: rest)⟩ 1) =
      ⟨o + 1 + inside.chars.length, '\x7d' :: rest⟩ :=
    skipSpace_blanks inside (o + 1) (by rintro _ ⟨⟩; rfl)
  simp only [readValue, hskip]
  rfl

end

mutual

/-- A value is read up to what follows it. -/
theorem readValue_chars (l : Layout) {rest : List Char} (hrest : Follows rest) (limit fuel : Nat)
    (hfuel : 2 * l.chars.length ≤ fuel + 1) (o : Nat) :
    Within limit l.document.depth (readValue .plain limit fuel ⟨o, l.chars ++ rest⟩)
      (l.document, ⟨o + l.chars.length, rest⟩) := by
  obtain ⟨fuel, rfl⟩ : ∃ k, fuel = k + 1 := by
    have hpos := l.length_pos
    exact ⟨fuel - 1, by omega⟩
  match l with
  | .named n known =>
      have hread : readValue .plain limit (fuel + 1) ⟨o, n.1 ++ rest⟩ =
          readScalar ⟨o, n.1 ++ rest⟩ := by
        refine readValue_scalar ?_
        rcases mem_names known with rfl | rfl | rfl | rfl | rfl | rfl <;> simp
      rw [Layout.chars, Layout.document, depth_of_named known, hread]
      exact .of_eq limit (readScalar_named known o rest)
  | .number n =>
      have hread : readValue .plain limit (fuel + 1) ⟨o, n.chars ++ rest⟩ =
          readScalar ⟨o, n.chars ++ rest⟩ := by
        refine readValue_scalar ?_
        obtain ⟨d, more, hd, hchars | hchars⟩ := n.head_chars rest <;> rw [hchars]
        · rintro _ ⟨⟩
          refine ⟨?_, ?_, ?_⟩ <;> rintro rfl <;> cases hd
        · rintro _ ⟨⟩
          decide
      rw [Layout.chars, Layout.document, n.depth_document, hread]
      exact .of_eq limit (readScalar_number n hrest o)
  | .text parts =>
      have hread : readValue .plain limit (fuel + 1)
          ⟨o, '"' :: (textChars parts ++ '"' :: rest)⟩ =
          .ok (.text (textOf parts), ⟨o + 1 + (textChars parts).length + 1, rest⟩) := by
        simp only [readValue]
        rw [readText_textChars]
        rfl
      simp only [Layout.chars, List.cons_append, List.append_assoc, List.nil_append]
      exact (Within.of_eq limit hread).cast (by simp; omega)
  | .emptyList inside =>
      simp only [Layout.chars, List.cons_append, List.append_assoc, List.nil_append]
      cases limit with
      | zero => exact within_zero readValue_open_list
      | succ limit =>
          have hread := Within.of_eq limit (readValue_emptyList .plain inside limit fuel o rest)
          exact hread.succ.cast (by simp; omega)
  | .list before items =>
      rw [Layout.chars, List.cons_append, List.append_assoc, Layout.document, depth]
      cases limit with
      | zero => exact within_zero readValue_open_list
      | succ limit =>
          simp only [Layout.chars, List.length_cons, List.length_append] at hfuel
          rw [readValue_list before (items.head_append rest)]
          have hitems := readItems_chars items rest limit fuel (by omega) []
            (o + 1 + before.chars.length)
          exact hitems.succ.cast (by simp; omega)
  | .emptyObject inside =>
      simp only [Layout.chars, List.cons_append, List.append_assoc, List.nil_append]
      cases limit with
      | zero => exact within_zero readValue_open_object
      | succ limit =>
          have hread := Within.of_eq limit (readValue_emptyObject .plain inside limit fuel o rest)
          exact hread.succ.cast (by simp; omega)
  | .object before members =>
      obtain ⟨more, hquote⟩ := members.exists_quote
      rw [Layout.chars, List.cons_append, List.append_assoc, Layout.document, depth]
      cases limit with
      | zero => exact within_zero readValue_open_object
      | succ limit =>
          simp only [Layout.chars, List.length_cons, List.length_append] at hfuel
          have hmembers := readMembers_chars members rest limit fuel (by omega) []
            (o + 1 + before.chars.length)
          rw [hquote, List.cons_append] at hmembers ⊢
          rw [readValue_object before]
          exact hmembers.succ.cast (by simp; omega)

/-- Items are read up to the end of the list. -/
theorem readItems_chars (items : ItemsLayout) (rest : List Char) (limit fuel : Nat)
    (hfuel : 2 * items.chars.length ≤ fuel + 2) (seen : List Json) (o : Nat) :
    Within limit (depthOfItems items.documents)
      (readItems .plain limit fuel seen ⟨o, items.chars ++ rest⟩)
      (.list (seen.reverse ++ items.documents), ⟨o + items.chars.length, rest⟩) := by
  match items with
  | .last item after =>
      have hpos := item.length_pos
      simp only [ItemsLayout.chars, List.length_append, List.length_cons, List.length_nil] at hfuel
      obtain ⟨fuel, rfl⟩ : ∃ k, fuel = k + 1 := ⟨fuel - 1, by omega⟩
      simp only [ItemsLayout.chars, List.append_assoc, List.cons_append, List.nil_append]
      have hitem := readValue_chars item (after.follows ']' rest rfl) limit fuel (by omega) o
      exact (readItems_last after seen hitem).cast (by simp; omega)
  | .more item after before more =>
      have hpos := item.length_pos
      simp only [ItemsLayout.chars, List.length_append, List.length_cons] at hfuel
      obtain ⟨fuel, rfl⟩ : ∃ k, fuel = k + 1 := ⟨fuel - 1, by omega⟩
      simp only [ItemsLayout.chars, List.append_assoc, List.cons_append]
      have hitem := readValue_chars item
        (after.follows ',' (before.chars ++ (more.chars ++ rest)) rfl) limit fuel (by omega) o
      have hmore := readItems_chars more rest limit fuel (by omega) (item.document :: seen)
        (o + item.chars.length + after.chars.length + 1 + before.chars.length)
      rw [List.reverse_cons, List.append_assoc] at hmore
      refine readItems_more after before seen (fun c hc => (more.head_append rest c hc).1) hitem
        (hmore.cast (by simp; omega))

/-- Members are read up to the end of the object. -/
theorem readMembers_chars (members : MembersLayout) (rest : List Char) (limit fuel : Nat)
    (hfuel : 2 * members.chars.length ≤ fuel + 2) (seen : List (AnyText × Json)) (o : Nat) :
    Within limit (depthOfMembers members.documents)
      (readMembers .plain limit fuel seen ⟨o, members.chars ++ rest⟩)
      (.object (seen.reverse ++ members.documents), ⟨o + members.chars.length, rest⟩) := by
  match members with
  | .last name beforeColon afterColon item after =>
      simp only [MembersLayout.chars, List.length_append, List.length_cons, List.length_nil]
        at hfuel
      obtain ⟨fuel, rfl⟩ : ∃ k, fuel = k + 1 := ⟨fuel - 1, by omega⟩
      simp only [MembersLayout.chars, List.append_assoc, List.cons_append, List.nil_append]
      have hname := readName_chars (o := o) name beforeColon afterColon
        fun c hc => (item.head_append (after.chars ++ '\x7d' :: rest) c hc).1
      have hitem := readValue_chars item (after.follows '\x7d' rest rfl) limit fuel (by omega)
        (o + 1 + (textChars name).length + 1 + beforeColon.chars.length + 1 +
          afterColon.chars.length)
      exact (readMembers_last hname after seen hitem).cast (by simp; omega)
  | .more name beforeColon afterColon item after before more =>
      simp only [MembersLayout.chars, List.length_append, List.length_cons] at hfuel
      obtain ⟨fuel, rfl⟩ : ∃ k, fuel = k + 1 := ⟨fuel - 1, by omega⟩
      obtain ⟨tail, hquote⟩ := more.exists_quote
      simp only [MembersLayout.chars, List.append_assoc, List.cons_append]
      have hname := readName_chars (o := o) name beforeColon afterColon
        fun c hc => (item.head_append (after.chars ++ ',' :: (before.chars ++ (more.chars ++ rest)))
          c hc).1
      have hitem := readValue_chars item
        (after.follows ',' (before.chars ++ (more.chars ++ rest)) rfl) limit fuel (by omega)
        (o + 1 + (textChars name).length + 1 + beforeColon.chars.length + 1 +
          afterColon.chars.length)
      have hmore := readMembers_chars more rest limit fuel (by omega)
        ((textOf name, item.document) :: seen)
        (o + 1 + (textChars name).length + 1 + beforeColon.chars.length + 1 +
          afterColon.chars.length + item.chars.length + after.chars.length + 1 +
          before.chars.length)
      rw [List.reverse_cons, List.append_assoc] at hmore
      exact readMembers_more hname after before seen
        (by rw [hquote]; rintro _ ⟨⟩; rfl) hitem (hmore.cast (by simp; omega))

end

/-! ## Documents -/

/-- A text without blanks around it is read if its lists and objects are not nested too deep. -/
theorem readSource_chars (l : Layout) (limit : Nat) :
    Within limit l.document.depth (readSource .plain limit l.chars) l.document := by
  have hstart : Cursor.skipSpace ⟨0, l.chars⟩ = ⟨0, l.chars⟩ := by
    obtain ⟨c, more, hchars, hspace, -⟩ := l.head_chars
    have hhead : ∀ d ∈ l.chars.head?, isSpace d = false := by
      rw [hchars]
      rintro _ ⟨⟩
      exact hspace
    exact skipSpace_blanks default 0 hhead
  have hend : Follows [] := by rintro _ ⟨⟩
  have hvalue := readValue_chars l hend limit (2 * l.chars.length + 2) (by omega) 0
  rw [List.append_nil] at hvalue
  rw [readSource, hstart]
  have hread := hvalue.bind (e := 0) (b := l.document)
    (f := fun r => if r.2.skipSpace.rest = [] then pure r.1 else r.2.skipSpace.refuse .extraData)
    (.of_eq limit rfl)
  rwa [Nat.max_zero] at hread

end CollectionQuery.Json
