import CollectionQuery.Proofs.Draft.Slug
import CollectionQuery.Proofs.Service.Frame
import CollectionQuery.Proofs.Service.Refusals
import CollectionQuery.Proofs.Slug
import CollectionQuery.Proofs.Store.Constraints

/-!
# The slugs of new rows

A new row without a slug gets one that fits in its column and that no stored row of its collection
has, so it is created whenever it would be with some other slug — unless the base of the slug is
crowded.  A base of at most 215 characters never is, however many rows there are.  A base that fills
the column is crowded as soon as it is stored: then the number is put in place of its end, and
whether that slug is stored is not looked at, or no slug is found at all.
-/

namespace CollectionQuery

variable {s next : Store} {c : Collection} {occasion : Occasion} {d e : Draft} {row : Row}
  {members : List (String × Value)} {source fallback slug : String}

namespace Store

theorem mem_storedSlugs :
    slug ∈ Draft.storedSlugs s c ↔ ∃ row ∈ s.rows c, row.cell "slug" = .text slug := by
  rw [Draft.storedSlugs, List.mem_filterMap]
  refine exists_congr fun row => and_congr_right fun _ => ?_
  cases row.cell "slug" <;> simp

/-- A column of a new row starts the same if two drafts set it the same. -/
theorem initial_congr {column : Column}
    (h : Value.member? d.values column.name = Value.member? e.values column.name)
    (hhash : e.passwordHash = d.passwordHash) :
    initial occasion e column = initial occasion d column := by
  cases hd : Value.member? d.values column.name with
  | some v => rw [initial_of_member? hd, initial_of_member? (h.symm.trans hd)]
  | none =>
      have he := h.symm.trans hd
      rw [Value.member?, Option.map_eq_none_iff] at hd he
      rw [initial, initial, hd, he, hhash]

/-- A row that may stand beside other rows may stand there with any slug that none of them has. -/
theorem fits_of_slug {others : List Row} {x y : Row} (h : fits c others x = true)
    (hcell : ∀ column ∈ c.columns, column.name ≠ "slug" →
      y.cell column.name = x.cell column.name)
    (hslug : y.cell "slug" = .text slug)
    (hfree : ∀ other ∈ others, other.cell "slug" ≠ .text slug) :
    fits c others y = true := by
  rw [fits_iff, isComplete_iff] at h ⊢
  refine ⟨fun column hcolumn hnullable => ?_, fun other hother => ?_⟩
  · by_cases hname : column.name = "slug"
    · rw [hname, hslug]
      exact Cell.noConfusion
    · rw [hcell column hcolumn hname]
      exact h.1 column hcolumn hnullable
  · have hdistinct := h.2 other hother
    rw [areDistinct_iff] at hdistinct ⊢
    intro column hcolumn hunique
    by_cases hname : column.name = "slug"
    · rw [hname, hslug]
      exact Or.inr (hfree other hother).symm
    · rw [hcell column hcolumn hname]
      exact hdistinct column hcolumn hunique

section

variable (hsource : Draft.slugSource? c = some (source, fallback))
  (hslug : Value.member? e.values "slug" = some (.text slug))
include hsource hslug

/-- A row that is added has the slug of its draft. -/
theorem cell_setAll_slug {cells : List (String × Cell)}
    (hcells : bindEach (c.columns.map fun column => (column, initial occasion e column)) =
      .ok cells) (row : Row) : (setAll cells row).cell "slug" = .text slug := by
  obtain ⟨column, hcolumn, hname⟩ := List.mem_map.1 (Draft.slug_mem_columns hsource)
  obtain ⟨length, hkind⟩ := Draft.kind_of_slug hsource column hcolumn hname
  have hbind := bind_initial hcells hcolumn row
  rw [initial_of_member? (hname ▸ hslug), hkind, hname] at hbind
  exact (Except.ok.inj hbind).symm

variable (halike : Payload.AlikeBut "slug" d.values e.values)
  (hhash : e.passwordHash = d.passwordHash)
include halike hhash

/-- The columns of a row that is added store what they are set to with any slug. -/
theorem storable_of_slug (h : s.addRow occasion c d = .ok (next, row)) : e.Storable c := by
  rw [← allBind_initial occasion, AllBind, List.forall_mem_map]
  intro column hcolumn
  by_cases hname : column.name = "slug"
  · obtain ⟨length, hkind⟩ := Draft.kind_of_slug hsource column hcolumn hname
    rw [initial_of_member? (hname ▸ hslug), hkind]
    rfl
  · rw [initial_congr (halike.member?_of_ne hname) hhash, cell_addRow h hcolumn]
    rfl

/-- A row that is added with some slug is added with any slug that no row has. -/
theorem exists_addRow_of_slug (hfree : ∀ other ∈ s.rows c, other.cell "slug" ≠ .text slug)
    (h : s.addRow occasion c d = .ok (next, row)) : ∃ r, s.addRow occasion c e = .ok r := by
  have htables : s.checkTables = .ok () := by
    obtain ⟨_, -, h⟩ := bind_eq_ok.1 h
    obtain ⟨_, htables, -⟩ := bind_eq_ok.1 h
    exact htables
  have hstorable := storable_of_slug hsource hslug halike hhash h
  obtain ⟨other, hother⟩ := bindEach_of_allBind ((allBind_initial occasion).2 hstorable)
  obtain ⟨cells, hcells, rfl, hfresh, hfits, -⟩ := addRow_eq_ok h
  rw [id_setAll] at hfresh
  refine exists_addRow_of_fits htables hstorable hother hfresh ?_
  refine fits_of_slug hfits (fun column hcolumn hname => ?_)
    (cell_setAll_slug hsource hslug hother _) hfree
  have hbind := bind_initial hother hcolumn ⟨occasion.freshId, fun _ => .null⟩
  rw [initial_congr (halike.member?_of_ne hname) hhash,
    bind_initial hcells hcolumn ⟨occasion.freshId, fun _ => .null⟩] at hbind
  exact (Except.ok.inj hbind).symm

end

end Store

namespace Service

/-- What a payload for a new row comes to that gives no slug, by the base that its slug is made
from. -/
structure SlugGiven (s : Store) (c : Collection) (members : List (String × Value))
    (base : List Char) : Prop where
  /-- The slug fits in its column, and if it is stored, then it does not begin with the base. -/
  bounded : ∀ out, Draft.withSlug s c members = .ok out →
    ∃ slug, out = Value.setMember members "slug" (.text slug) ∧ slug.length ≤ Slug.maxLength ∧
      (slug ∈ Draft.storedSlugs s c → ¬ base <+: slug.toList)
  /-- The new row has the slug that the payload got. -/
  stored : ∀ slug occasion d next row,
    Draft.withSlug s c members = .ok (Value.setMember members "slug" (.text slug)) →
    Draft.ofPayload s c false (.object members) = .ok d →
    s.addRow occasion c d = .ok (next, row) → row.cell "slug" = .text slug
  /-- A payload gets a slug that no row has, unless the base is crowded. -/
  fresh : ¬ Slug.Crowded (Draft.storedSlugs s c) base →
    ∃ slug, Draft.withSlug s c members = .ok (Value.setMember members "slug" (.text slug)) ∧
      ∀ row ∈ s.rows c, row.cell "slug" ≠ .text slug
  /-- If the row is created with some slug of its own, then it is created without one. -/
  harmless : ¬ Slug.Crowded (Draft.storedSlugs s c) base → ∀ occasion name slug,
    Collection.resolve name = .ok c →
    (create s occasion name
      (.object (Value.setMember members "slug" (.text slug)))).2.result.isOk = true →
    (create s occasion name (.object members)).2.result.isOk = true
  /-- If the base is crowded, then it is cut in front of the number, or it is itself what is left of
  it in front of a number with this number, and there may be no slug. -/
  crowded : Slug.Crowded (Draft.storedSlugs s c) base →
    (∃ i, ¬ Slug.Fits base i ∧ Draft.withSlug s c members =
      .ok (Value.setMember members "slug" (.text (String.ofList (Slug.numbered base i))))) ∨
    (Draft.withSlug s c members = Payload.refuse .noSlug ∧
      ∃ i, ¬ Slug.Fits base i ∧ Slug.numbered base i = base)
  /-- A base is not crowded beside fewer rows than there are numbers that fit. -/
  roomy : (s.rows c).length + 1 < 10 ^ (Slug.maxLength - 1 - base.length) →
    ¬ Slug.Crowded (Draft.storedSlugs s c) base
  /-- A short base is never crowded. -/
  short : base.length ≤ 215 → ¬ Slug.Crowded (Draft.storedSlugs s c) base
  /-- A base behind which no number fits is crowded as soon as it is stored. -/
  full : Slug.maxLength ≤ base.length + 1 →
    (Slug.Crowded (Draft.storedSlugs s c) base ↔ String.ofList base ∈ Draft.storedSlugs s c)
  /-- If it fills the column, the payload then gets its numbering with 2, which may be stored. -/
  blind : base.length = Slug.maxLength → String.ofList base ∈ Draft.storedSlugs s c →
    Slug.numbered base 2 ≠ base → Draft.withSlug s c members =
      .ok (Value.setMember members "slug" (.text (String.ofList (Slug.numbered base 2))))

theorem create_isOk {name : String} {payload : Value} :
    (create s occasion name payload).2.result.isOk = true ↔ ∃ c d r,
      Collection.resolve name = .ok c ∧ Draft.ofPayload s c false payload = .ok d ∧
        s.addRow occasion c d = .ok r ∧ ¬ d.Misnames c := by
  constructor
  · intro h
    obtain ⟨v, hv⟩ := exists_eq_ok_of_isOk h
    obtain ⟨c, d, row, hname, hdraft, hadd, hread, -⟩ := create_eq_ok hv
    have hlegible := (Store.legible_addRow hadd).1 (Row.checkRead_eq_ok.1 hread)
    exact ⟨c, d, _, hname, hdraft, hadd, hlegible⟩
  · rintro ⟨c, d, r, hname, hdraft, hadd, hnamed⟩
    have hread := Row.checkRead_eq_ok.2 ((Store.legible_addRow hadd).2 hnamed)
    rw [result_create, hname]
    simp only [bind, Except.bind, hdraft, hadd, hread]
    rfl

/-- A draft that differs from another only in the slug misnames no other rows. -/
theorem not_misnames_of_slug (hsource : Draft.slugSource? c = some (source, fallback))
    (halike : Payload.AlikeBut "slug" d.values e.values) (h : ¬ d.Misnames c) :
    ¬ e.Misnames c := by
  rintro ⟨column, hcolumn, hkind, named, hsets, hnot⟩
  have hname : column.name ≠ "slug" := fun hname => by
    obtain ⟨length, htext⟩ := Draft.kind_of_slug hsource column hcolumn hname
    cases hkind.symm.trans htext
  exact h ⟨column, hcolumn, hkind, named, (halike.member?_of_ne hname).trans hsets, hnot⟩

section

variable {base : String} (hsource : Draft.slugSource? c = some (source, fallback))
  (hbase : Slug.Undashed (Slug.cut base))
  (hslug : Draft.withSlug s c members = match Slug.unique? (Draft.storedSlugs s c) base with
    | some slug => .ok (Value.setMember members "slug" (.text slug))
    | none => Payload.refuse .noSlug)
include hbase hslug

theorem exists_fresh_slug (hroom : ¬ Slug.Crowded (Draft.storedSlugs s c) (Slug.cut base)) :
    ∃ slug, Draft.withSlug s c members = .ok (Value.setMember members "slug" (.text slug)) ∧
      ∀ row ∈ s.rows c, row.cell "slug" ≠ .text slug := by
  obtain ⟨slug, hfound, hfree⟩ := Slug.exists_unique?_of_not_crowded hbase hroom
  rw [hslug, hfound]
  exact ⟨slug, rfl, fun row hrow hcell => hfree (Store.mem_storedSlugs.2 ⟨row, hrow, hcell⟩)⟩

include hsource

theorem create_isOk_of_slug (hroom : ¬ Slug.Crowded (Draft.storedSlugs s c) (Slug.cut base))
    {name other : String} (hname : Collection.resolve name = .ok c)
    (h : (create s occasion name
      (.object (Value.setMember members "slug" (.text other)))).2.result.isOk = true) :
    (create s occasion name (.object members)).2.result.isOk = true := by
  obtain ⟨slug, hgiven, hfree⟩ := exists_fresh_slug hbase hslug hroom
  obtain ⟨c', d, ⟨next, row⟩, hname', hdraft, hadd, hnamed⟩ := create_isOk.1 h
  cases hname.symm.trans hname'
  obtain ⟨e, hdrafted, halike, hhash⟩ := Draft.ofPayload_of_setMember hsource hgiven hdraft
  obtain ⟨r, hadd⟩ := Store.exists_addRow_of_slug hsource
    (Draft.member?_slug hsource hgiven hdrafted) halike hhash hfree hadd
  exact create_isOk.2 ⟨c, e, r, hname, hdrafted, hadd, not_misnames_of_slug hsource halike hnamed⟩

theorem slugGiven_of_undashed (hs : s.WellFormed) : SlugGiven s c members (Slug.cut base) := by
  have hlength : (Draft.storedSlugs s c).length ≤ (s.rows c).length := List.length_filterMap_le _ _
  have hrows := hs.length_rows_le c
  have hroomy (h : (s.rows c).length + 1 < 10 ^ (Slug.maxLength - 1 - (Slug.cut base).length)) :
      ¬ Slug.Crowded (Draft.storedSlugs s c) (Slug.cut base) :=
    Slug.not_crowded_of_length_lt hbase (by omega)
  have hbound : Uuid.bound + 1 < 10 ^ 39 := by decide
  exact {
    bounded := fun out hout => by
      rw [hslug] at hout
      split at hout
      · next slug hfound =>
          cases hout
          have hpow : (10 : Nat) ^ 39 ≤ 10 ^ 200 := Nat.pow_le_pow_right (by omega) (by omega)
          exact ⟨slug, rfl, Slug.unique?_eq_some (by omega) hfound⟩
      · cases hout
    stored := fun slug occasion d next row hgiven hdraft hadd => by
      obtain ⟨cells, hcells, rfl, -⟩ := Store.addRow_eq_ok hadd
      exact Store.cell_setAll_slug hsource (Draft.member?_slug hsource hgiven hdraft) hcells _
    fresh := exists_fresh_slug hbase hslug
    harmless := fun hroom occasion name other hname h =>
      create_isOk_of_slug hsource hbase hslug hroom hname h
    crowded := fun hcrowded => by
      rcases Slug.unique?_of_crowded hbase hcrowded with ⟨i, hfits, hfound⟩ | ⟨hfound, hself⟩
      · exact Or.inl ⟨i, hfits, by rw [hslug, hfound]⟩
      · exact Or.inr ⟨by rw [hslug, hfound], hself⟩
    roomy := hroomy
    short := fun hshort => hroomy (by
      have hpow : (10 : Nat) ^ 39 ≤ 10 ^ (Slug.maxLength - 1 - (Slug.cut base).length) := by
        refine Nat.pow_le_pow_right (by omega) ?_
        rw [Slug.maxLength]
        omega
      omega)
    full := Slug.crowded_iff_of_full
    blind := fun hlength hmem hself => by
      rw [hslug, Slug.unique?_of_full hlength hmem hself] }

end

/-- Every payload for a new row that gives no slug gets a free one that fits, unless the base that
the slug is made from is crowded. -/
theorem slug_given (hs : Reachable s) (hsource : Draft.slugSource? c = some (source, fallback))
    (hnone : Draft.givesSlug members = false) :
    SlugGiven s c members
      (Slug.cut (Slug.ofValue ((Value.member? members source).getD .null) fallback)) :=
  slugGiven_of_undashed hsource (Slug.undashed_cut _ (Draft.fallback_undashed hsource))
    (Draft.withSlug_eq hsource hs.present hnone) hs.wellFormed

/-! ## Rows with one title -/

/-- A payload for an event that gives no slug. -/
def eventTitled (title : String) : List (String × Value) := [
  ("title", .text title), ("description", .text "D"), ("start_date", .text "2026-01-01")]

/-- The day of the event. -/
def newYear : Calendar.Date := (Calendar.Date.ofParts? 2026 1 1).getD default

/-- Its draft with a slug. -/
def eventDraft (title slug : String) : Draft where
  values := [("title", .text title), ("description", .text "D"),
    ("start_date", .moment ⟨.startOf newYear, none⟩), ("slug", .text slug)]

/-- An event gets the slug that is found for its title. -/
theorem withSlug_eventTitled (hs : s.present = true) {title : String}
    (h : Slug.unique? (Draft.storedSlugs s .events) (Slug.ofValue (.text title) "event") =
      some slug) :
    Draft.withSlug s .events (eventTitled title) =
      .ok (Value.setMember (eventTitled title) "slug" (.text slug)) := by
  have hsource : (Value.member? (eventTitled title) "title").getD .null = .text title := rfl
  rw [Draft.withSlug_eq (c := .events) rfl hs rfl, hsource, h]

theorem ofPayload_eventTitled {title : String}
    (hslug : Draft.withSlug s .events (eventTitled title) =
      .ok (Value.setMember (eventTitled title) "slug" (.text slug))) :
    Draft.ofPayload s .events false (.object (eventTitled title)) = .ok (eventDraft title slug) :=
  (Draft.ofPayload_new_iff rfl).2 ⟨_, _, hslug, rfl, rfl⟩

/-- A store with one more event, if it may be added. -/
def addEvent (s : Store) (occasion : Occasion) (title slug : String) : Store :=
  (s.transact (s.addRow occasion .events (eventDraft title slug))).1

/-- The draft of an event names no other row. -/
theorem not_misnames_eventDraft (title slug : String) :
    ¬ (eventDraft title slug).Misnames .events := by
  rintro ⟨column, hcolumn, hkind, named, hsets, -⟩
  rw [Collection.name_of_uuid (by decide) (by decide) hcolumn hkind] at hsets
  cases hsets

theorem run_eventTitled {title : String}
    (hslug : Draft.withSlug s .events (eventTitled title) =
      .ok (Value.setMember (eventTitled title) "slug" (.text slug))) :
    ((Write.create "events" (.object (eventTitled title))).run s occasion).1 =
        addEvent s occasion title slug ∧
      ((Write.create "events" (.object (eventTitled title))).run s occasion).2.result =
        (s.addRow occasion .events (eventDraft title slug)).map
          fun r => displayRow .events r.2 := by
  have hname : Collection.resolve "events" = .ok .events := by rfl
  have hdraft := ofPayload_eventTitled hslug
  rw [Write.run, addEvent]
  refine ⟨?_, ?_⟩
  · rw [create, hname]
    simp only [bind, Except.bind, hdraft]
    cases s.addRow occasion .events (eventDraft title slug) <;> rfl
  · rw [result_create, hname]
    simp only [bind, Except.bind, hdraft]
    cases hadd : s.addRow occasion .events (eventDraft title slug) with
    | error f => rfl
    | ok r =>
        have hlegible := (Store.legible_addRow hadd).2 (not_misnames_eventDraft title slug)
        dsimp only
        rw [Row.checkRead_eq_ok.2 hlegible]
        rfl

/-- The second of two events with one title. -/
theorem slug_given_second_launch :
    let s := runAll .empty
      [(.nth 1, .create "events" (.object (eventTitled "Launch")))]
    Reachable s ∧ Draft.slugSource? .events = some ("title", "event") ∧
      Draft.givesSlug (eventTitled "Launch") = false ∧
      SlugGiven s .events (eventTitled "Launch")
        (Slug.cut (Slug.ofValue (.text "Launch") "event")) ∧
      Draft.storedSlugs s .events = ["launch"] ∧
      ¬ Slug.Crowded ["launch"] (Slug.cut (Slug.ofValue (.text "Launch") "event")) := by
  intro s
  have hs : Reachable s := (Reachable.empty _).runAll _
  have hnone : Draft.givesSlug (eventTitled "Launch") = false := by rfl
  have hsource : Draft.slugSource? .events = some ("title", "event") := by rfl
  have htitle : (Value.member? (eventTitled "Launch") "title").getD .null = .text "Launch" := by rfl
  have hgiven := slug_given hs hsource hnone
  rw [htitle] at hgiven
  have hslugs : Draft.storedSlugs s .events = ["launch"] := by decide +kernel
  refine ⟨hs, hsource, hnone, hgiven, hslugs, ?_⟩
  rw [← hslugs]
  exact hgiven.short (by decide +kernel)

/-- Whether a table does not take a row. -/
def isConstraint {α : Type} : Except Failure α → Bool
  | .error (.refused .constraint) => true
  | _ => false

theorem eq_of_isConstraint {α : Type} {r : Except Failure α} (h : isConstraint r = true) :
    r = .error (.refused .constraint) := by
  unfold isConstraint at h
  split at h
  · rfl
  · cases h

/-- A title that is one letter over and over. -/
def letters (n : Nat) : List Char := List.replicate n 'a'

theorem cut_letters {n : Nat} (hpos : 0 < n) (hn : n ≤ Slug.maxLength) (fallback : String) :
    Slug.cut (Slug.ofValue (.text (String.ofList (letters n))) fallback) = letters n := by
  have hlength : (letters n).length = n := List.length_replicate
  refine Slug.cut_word (List.ne_nil_of_length_pos (by omega)) (fun c hc => ?_) (by omega) fallback
  rw [List.eq_of_mem_replicate hc]
  decide

/-- The numbering of a title that fills the column. -/
theorem withSlug_long (hs : s.present = true)
    (h : String.ofList (letters 255) ∈ Draft.storedSlugs s .events) :
    Draft.withSlug s .events (eventTitled (String.ofList (letters 255))) =
      .ok (Value.setMember (eventTitled (String.ofList (letters 255))) "slug"
        (.text (String.ofList (letters 253 ++ ['-', '2'])))) := by
  have hcut := cut_letters (n := 255) (by decide) (by decide) "event"
  have hnumbered : Slug.numbered (letters 255) 2 = letters 253 ++ ['-', '2'] := by decide +kernel
  have hself : letters 253 ++ ['-', '2'] ≠ letters 255 := by decide +kernel
  rw [← hcut] at h hnumbered
  rw [← hnumbered]
  refine withSlug_eventTitled hs (Slug.unique?_of_full ?_ h ?_)
  · rw [hcut]
    exact List.length_replicate
  · rw [hnumbered, hcut]
    exact hself

/-- Three events with one title that fills the column: the first has it as its slug, the second has
it cut in front of the number, and so would have the third, which is refused. -/
theorem third_long_title :
    let title := String.ofList (letters 255)
    let second := String.ofList (letters 253 ++ ['-', '2'])
    let create : Write := .create "events" (.object (eventTitled title))
    let s := runAll .empty [(.nth 1, create), (.nth 2, create)]
    Reachable s ∧ Draft.givesSlug (eventTitled title) = false ∧
      Draft.storedSlugs s .events = [title, second] ∧
      Draft.withSlug s .events (eventTitled title) =
        .ok (Value.setMember (eventTitled title) "slug" (.text second)) ∧
      (create.run s (.nth 3)).2.result = .error (.refused .constraint) := by
  intro title second create s
  have hs : Reachable s := (Reachable.empty _).runAll _
  have hfirst : Draft.withSlug .empty .events (eventTitled title) =
      .ok (Value.setMember (eventTitled title) "slug" (.text title)) := by
    refine withSlug_eventTitled rfl ?_
    rw [Slug.unique?_eq, cut_letters (by decide) (by decide)]
    exact if_neg List.not_mem_nil
  have hsecond : Draft.withSlug (addEvent .empty (.nth 1) title title) .events (eventTitled title) =
        .ok (Value.setMember (eventTitled title) "slug" (.text second)) := by
    refine withSlug_long rfl ?_
    decide +kernel
  have hrun : s = addEvent (addEvent .empty (.nth 1) title title) (.nth 2) title second := by
    rw [← (run_eventTitled hsecond).1, ← (run_eventTitled hfirst).1]
    rw [show s = runAll .empty _ from rfl, runAll, List.foldl_cons, List.foldl_cons, List.foldl_nil]
  have hslugs : Draft.storedSlugs s .events = [title, second] := by
    rw [hrun]
    decide +kernel
  have hthird : Draft.withSlug s .events (eventTitled title) =
      .ok (Value.setMember (eventTitled title) "slug" (.text second)) :=
    withSlug_long hs.present (by rw [hslugs]; exact List.mem_cons_self)
  have hrefused :
      isConstraint (s.addRow (.nth 3) .events (eventDraft title second)) = true := by
    rw [hrun]
    decide +kernel
  refine ⟨hs, rfl, hslugs, hthird, ?_⟩
  rw [(run_eventTitled hthird).2, eq_of_isConstraint hrefused, Except.map]

end Service

end CollectionQuery
