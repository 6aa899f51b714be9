import CollectionQuery.Proofs.Lists
import CollectionQuery.Proofs.Plan.WellFormed
import CollectionQuery.Proofs.RawQuery

/-!
# Spellings of a list parameter

A list may come under its name or under its name with brackets, in one value or in several, with
commas between the entries, and with blanks and empty pieces around them.  All of these spellings
are read as the same list, wherever the values stand among the other parameters.  If both names
occur, the values of the one that occurs first come first.

The other parameters are read from members of the document that the list does not touch, so they
are what they are without it.
-/

namespace CollectionQuery

open CollectionQuery.Text

/-! ## Texts that write lists -/

/-- An entry of a list: a text without commas that neither begins nor ends with a blank. -/
structure IsEntry (entry : String) : Prop where
  nonempty : entry ≠ ""
  no_comma : ',' ∉ entry.toList
  head_bare : ∀ c ∈ entry.toList.head?, isBlank c = false
  last_bare : ∀ c ∈ entry.toList.getLast?, isBlank c = false

/-- A piece between two commas writes an entry with blanks around it, or nothing but blanks. -/
inductive WritesPiece : String → List String → Prop
  | blank {piece : String} (blank : ∀ c ∈ piece.toList, isBlank c = true) : WritesPiece piece []
  | entry {before entry after : String} (isEntry : IsEntry entry)
      (before_blank : ∀ c ∈ before.toList, isBlank c = true)
      (after_blank : ∀ c ∈ after.toList, isBlank c = true) :
      WritesPiece (before ++ entry ++ after) [entry]

/-- A text writes the entries of its pieces, which have commas between them. -/
def WritesEntries (text : String) (entries : List String) : Prop :=
  ∃ pieces chunks, pieces ≠ [] ∧ text = joinWith "," pieces ∧
    List.Forall₂ WritesPiece pieces chunks ∧ entries = chunks.flatten

/-- Values write the entries of their texts, one after the other. -/
def WritesValues (values : List Value) (entries : List String) : Prop :=
  ∃ texts chunks, values = texts.map Value.text ∧ List.Forall₂ WritesEntries texts chunks ∧
    entries = chunks.flatten

variable {piece text : String} {entries xs ys : List String} {values : List Value}

theorem comma_not_blank : isBlank ',' = false := by decide

theorem strip_blank (h : ∀ c ∈ piece.toList, isBlank c = true) : strip piece = "" := by
  rw [strip, trimChars, List.dropWhile_eq_nil_iff.2 h]
  rfl

theorem IsEntry.strip_append {before entry after : String} (h : IsEntry entry)
    (hbefore : ∀ c ∈ before.toList, isBlank c = true)
    (hafter : ∀ c ∈ after.toList, isBlank c = true) :
    strip (before ++ entry ++ after) = entry := by
  have hne : entry.toList ≠ [] := mt String.toList_eq_nil_iff.1 h.nonempty
  have hfirst := List.head?_eq_some_head hne
  have hlast := List.getLast?_eq_some_getLast hne
  rw [strip, String.toList_append, String.toList_append, List.append_assoc,
    trimChars_append hfirst hlast (h.head_bare _ hfirst) (h.last_bare _ hlast) hbefore hafter,
    String.ofList_toList]

/-- A piece has no comma in it, and stripping it leaves its entry. -/
theorem WritesPiece.strip (h : WritesPiece piece entries) :
    ',' ∉ piece.toList ∧ [strip piece].filter (· ≠ "") = entries := by
  have hno {blanks : String} (hblanks : ∀ c ∈ blanks.toList, isBlank c = true) :
      ',' ∉ blanks.toList := fun hmem => by
    have hcomma := hblanks ',' hmem
    rw [comma_not_blank] at hcomma
    cases hcomma
  cases h with
  | blank hblank =>
      rw [strip_blank hblank]
      exact ⟨hno hblank, rfl⟩
  | entry hentry hbefore hafter =>
      rw [hentry.strip_append hbefore hafter]
      refine ⟨?_, by simp [hentry.nonempty]⟩
      simp only [String.toList_append, List.mem_append, not_or]
      exact ⟨⟨hno hbefore, hentry.no_comma⟩, hno hafter⟩

/-- The pieces of a text are its entries. -/
theorem splitEntry_of_writes (h : WritesEntries text entries) :
    splitEntry (.text text) = entries.map Value.text := by
  obtain ⟨pieces, chunks, hne, rfl, hpieces, rfl⟩ := h
  have hcomma : ∀ piece ∈ pieces, ',' ∉ piece.toList := fun piece hpiece => by
    obtain ⟨chunk, -, hchunk⟩ := hpieces.exists_of_mem_left piece hpiece
    exact hchunk.strip.1
  have hsplit : splitOnChar ',' (joinWith "," pieces) = pieces := by
    rw [splitOnChar, show "," = String.singleton ',' from rfl, splitChars_joinWith ',' hne hcomma,
      List.map_map]
    simp
  have hstrip : (pieces.map strip).filter (· ≠ "") = chunks.flatten := by
    clear hcomma hne hsplit
    induction hpieces with
    | nil => rfl
    | @cons piece chunk pieces chunks hpiece _ ih =>
        rw [List.map_cons, ← List.singleton_append, List.filter_append, ih, hpiece.strip.2,
          List.flatten_cons]
  rw [splitEntry, hsplit, hstrip]

theorem flatMap_splitEntry (h : WritesValues values entries) :
    values.flatMap splitEntry = entries.map Value.text := by
  obtain ⟨texts, chunks, rfl, htexts, rfl⟩ := h
  induction htexts with
  | nil => rfl
  | cons htext _ ih =>
      rw [List.map_cons, List.flatMap_cons, ih, splitEntry_of_writes htext, List.flatten_cons,
        List.map_append]

/-- Lists of values in a row write the lists in a row. -/
theorem WritesValues.append {more : List Value} (h : WritesValues values xs)
    (hmore : WritesValues more ys) : WritesValues (values ++ more) (xs ++ ys) := by
  obtain ⟨texts, chunks, rfl, htexts, rfl⟩ := h
  obtain ⟨texts', chunks', rfl, htexts', rfl⟩ := hmore
  exact ⟨texts ++ texts', chunks ++ chunks', List.map_append.symm,
    List.rel_append htexts htexts', List.flatten_append.symm⟩

theorem WritesValues.eq_nil (h : WritesValues [] xs) : xs = [] := by
  obtain ⟨texts, chunks, hvalues, htexts, rfl⟩ := h
  obtain rfl : texts = [] := List.map_eq_nil_iff.1 hvalues.symm
  cases htexts
  rfl

namespace Checked

theorem textItems_texts (index : Nat) (entries : List String) :
    textItems index (entries.map Value.text) = .ok entries := by
  induction entries generalizing index with
  | nil => rfl
  | cons entry rest ih =>
      rw [List.map_cons, textItems]
      exact cons_eq_ok.2 ⟨entry, rest, within_eq_ok.2 rfl, ih (index + 1), rfl⟩

theorem texts_list (h : WritesValues values entries) : texts (.list values) = .ok entries := by
  rw [texts, flatMap_splitEntry h]
  exact textItems_texts 0 entries

/-- A parameter is read from its members only. -/
theorem parameter_congr {α : Type} {document document' : List (String × Value)}
    {name second : String} {absent : α} {read : Value → Checked α}
    (hname : Value.member? document' name = Value.member? document name)
    (hsecond : Value.member? document' second = Value.member? document second) :
    parameter document' name second absent read = parameter document name second absent read := by
  rw [parameter, parameter, hname, hsecond]

end Checked

/-! ## List parameters -/

/-- The parameters that are lists. -/
inductive ListParameter where
  | searchFields
  | select
  | exclude
  | relations

namespace ListParameter

def name : ListParameter → String
  | searchFields => "searchFields"
  | select => "select"
  | exclude => "exclude"
  | relations => "relations"

/-- The name under which the parameter is looked for if it is not there under its own. -/
def secondName : ListParameter → String
  | searchFields => "search_fields"
  | p => p.name

/-- Whether a key is a spelling of the parameter. -/
def SpelledBy (p : ListParameter) (key : String) : Prop := key = p.name ∨ key = p.name ++ "[]"

instance (p : ListParameter) (key : String) : Decidable (p.SpelledBy key) :=
  inferInstanceAs (Decidable (_ ∨ _))

/-- The parameters with another list. -/
def set (p : ListParameter) (entries : List String) (q : QueryParams) : QueryParams :=
  match p with
  | searchFields => { q with searchFields := entries }
  | select => { q with select := entries }
  | exclude => { q with exclude := entries }
  | relations => { q with relations := entries }

variable {p : ListParameter} {settings : Settings} {document document' : List (String × Value)}
  {items : List (String × Value)} {q : QueryParams}

theorem name_mem (p : ListParameter) : p.name ∈ RawQuery.listNames := by
  cases p <;> decide

theorem spelledBy_iff {key : String} : p.SpelledBy key ↔ RawQuery.baseName key = p.name :=
  (RawQuery.baseName_eq_iff p.name_mem).symm

/-! ## Reading all parameters -/

/-- A list that is read changes nothing else. -/
theorem ofDocument_set (h : QueryParams.ofDocument settings document = .ok q)
    (hothers : ∀ name ≠ p.name,
      Value.member? document' name = Value.member? document name)
    (hlist : Checked.parameter document' p.name p.secondName [] Checked.texts = .ok entries) :
    QueryParams.ofDocument settings document' = .ok (p.set entries q) := by
  have hsame {α : Type} {name second : String} (absent : α) (read : Value → Checked α)
      (hname : name ≠ p.name) (hsecond : second ≠ p.name) :
      Checked.parameter document' name second absent read =
        Checked.parameter document name second absent read :=
    Checked.parameter_congr (hothers name hname) (hothers second hsecond)
  obtain ⟨hpage, hlimit, hsortBy, hsortOrder, hsearch, hfields, hfilter, hselect, hexclude,
    hrelations, hloadAll⟩ := QueryParams.ofDocument_eq_ok.1 h
  rw [QueryParams.ofDocument_eq_ok]
  -- Of the eleven parameters only the list is read from other members.
  cases p with
  | searchFields =>
      simp (disch := decide) only [hsame]
      exact ⟨hpage, hlimit, hsortBy, hsortOrder, hsearch, hlist, hfilter, hselect, hexclude,
        hrelations, hloadAll⟩
  | select =>
      simp (disch := decide) only [hsame]
      exact ⟨hpage, hlimit, hsortBy, hsortOrder, hsearch, hfields, hfilter, hlist, hexclude,
        hrelations, hloadAll⟩
  | exclude =>
      simp (disch := decide) only [hsame]
      exact ⟨hpage, hlimit, hsortBy, hsortOrder, hsearch, hfields, hfilter, hselect, hlist,
        hrelations, hloadAll⟩
  | relations =>
      simp (disch := decide) only [hsame]
      exact ⟨hpage, hlimit, hsortBy, hsortOrder, hsearch, hfields, hfilter, hselect, hexclude,
        hlist, hloadAll⟩

theorem limit_set (p : ListParameter) (entries : List String) (q : QueryParams) :
    (p.set entries q).limit = q.limit := by
  cases p <;> rfl

theorem filter_set (p : ListParameter) (entries : List String) (q : QueryParams) :
    (p.set entries q).filter = q.filter := by
  cases p <;> rfl

/-- The bounds look at no list. -/
theorem checkBounds_set (h : QueryParams.checkBounds settings q = .ok q) :
    QueryParams.checkBounds settings (p.set entries q) = .ok (p.set entries q) := by
  rw [QueryParams.checkBounds_eq_ok, limit_set, filter_set]
  exact ⟨rfl, (QueryParams.checkBounds_eq_ok.1 h).2⟩

/-- A query with a list that is read, and everything else as it was. -/
theorem ofRaw_set {raw raw' : RawQuery} (h : QueryParams.ofRaw settings raw = .ok q)
    (hothers : ∀ name ≠ p.name,
      Value.member? raw'.document name = Value.member? raw.document name)
    (hlist : Checked.parameter raw'.document p.name p.secondName [] Checked.texts =
      .ok entries) : QueryParams.ofRaw settings raw' = .ok (p.set entries q) := by
  obtain ⟨read, hread, hbounds⟩ := bind_eq_ok.1 (QueryParams.ofRaw_eq_ok.1 h)
  obtain ⟨rfl, -⟩ := QueryParams.checkBounds_eq_ok.1 hbounds
  exact QueryParams.ofRaw_eq_ok.2
    (bind_eq_ok.2 ⟨_, ofDocument_set hread hothers hlist, checkBounds_set hbounds⟩)

/-! ## Spellings -/

theorem valuesOf_filter (key : String) (hkey : p.SpelledBy key) :
    RawQuery.valuesOf key (items.filter fun m => p.SpelledBy m.1) =
      RawQuery.valuesOf key items := by
  rw [RawQuery.valuesOf, RawQuery.valuesOf, List.filter_filter]
  refine congrArg _ (List.filter_congr fun m _ => ?_)
  rw [← Bool.decide_and, decide_eq_decide]
  exact and_iff_left_of_imp fun h => h ▸ hkey

/-- A member that no key belongs to is not there. -/
theorem member?_absent {name : String} (h : ∀ m ∈ items, RawQuery.baseName m.1 ≠ name) :
    Value.member? (RawQuery.document (.pairs items)) name = none := by
  rw [RawQuery.member?_document_pairs, List.filter_eq_nil_iff.2 fun m hm => by simpa using h m hm]
  rfl

/-- The values of a list, those of the spelling that comes first in front. -/
theorem member?_spelled {first other : String} {m : String × Value}
    (hspellings : first = p.name ∧ other = p.name ++ "[]" ∨
      first = p.name ++ "[]" ∧ other = p.name)
    (hfind : (items.find? fun m => p.SpelledBy m.1) = some m) (hm : m.1 = first) :
    Value.member? (RawQuery.document (.pairs items)) p.name =
      some (.list (RawQuery.valuesOf first items ++ RawQuery.valuesOf other items)) := by
  have hboth (key : String) : p.SpelledBy key ↔ key = first ∨ key = other := by
    rcases hspellings with ⟨rfl, rfl⟩ | ⟨rfl, rfl⟩
    · exact Iff.rfl
    · exact or_comm
  have hne : first ≠ other := by
    have hbrackets : p.name ≠ p.name ++ "[]" := by cases p <;> decide
    rcases hspellings with ⟨rfl, rfl⟩ | ⟨rfl, rfl⟩
    · exact hbrackets
    · exact hbrackets.symm
  have hitems : (items.filter fun m => RawQuery.baseName m.1 = p.name) =
      items.filter fun m => p.SpelledBy m.1 :=
    List.filter_congr fun m _ => decide_eq_decide.2 spelledBy_iff.symm
  have hspelled : ∀ m ∈ items.filter fun m => p.SpelledBy m.1, p.SpelledBy m.1 := fun m hm => by
    simpa using (List.mem_filter.1 hm).2
  have hhead : (items.filter fun m => p.SpelledBy m.1).head? = some m := by
    rw [List.head?_filter, hfind]
  have hnonempty : (items.filter fun m => p.SpelledBy m.1) ≠ [] := by
    intro hempty
    rw [hempty] at hhead
    cases hhead
  rw [RawQuery.member?_document_pairs, hitems,
    RawQuery.member?_document_list p.name_mem hnonempty fun m hm => spelledBy_iff.1 (hspelled m hm),
    RawQuery.flatMap_grouped (fun m hm => (hboth m.1).1 (hspelled m hm)) (fun n hn => ?_) hne,
    valuesOf_filter first ((hboth first).2 (Or.inl rfl)),
    valuesOf_filter other ((hboth other).2 (Or.inr rfl))]
  rw [hhead] at hn
  cases hn
  exact hm

/-- All spellings of a list are read as the list.  `first` is the spelling that occurs first, and
its values write `xs`; those of the other spelling, if it occurs, write `ys`.  The other parameters
stand anywhere between them, and they are as they are without the list. -/
theorem spellings_agree (settings : Settings) (p : ListParameter) {first other : String}
    (hspellings : first = p.name ∧ other = p.name ++ "[]" ∨
      first = p.name ++ "[]" ∧ other = p.name)
    (hfirst : ∀ m ∈ items.find? fun m => p.SpelledBy m.1, m.1 = first)
    (hgiven : (∃ m ∈ items, p.SpelledBy m.1) ∨
      ∀ m ∈ items, RawQuery.baseName m.1 ≠ p.secondName)
    (hxs : WritesValues (RawQuery.valuesOf first items) xs)
    (hys : WritesValues (RawQuery.valuesOf other items) ys)
    (hothers : QueryParams.ofRaw settings
      (.pairs (items.filter fun m => ¬ p.SpelledBy m.1)) = .ok q) :
    QueryParams.ofRaw settings (.pairs items) = .ok (p.set (xs ++ ys) q) := by
  refine ofRaw_set hothers (fun name hname => ?_) ?_
  · -- The pairs of another member are the same with the list and without.
    have hkept : (items.filter fun m => ¬ p.SpelledBy m.1).filter
        (fun m => RawQuery.baseName m.1 = name) =
          items.filter fun m => RawQuery.baseName m.1 = name := by
      rw [List.filter_filter]
      refine List.filter_congr fun m _ => ?_
      rw [← Bool.decide_and, decide_eq_decide]
      exact and_iff_left_of_imp fun hm => mt spelledBy_iff.1 (hm ▸ hname)
    rw [RawQuery.member?_document_pairs, ← hkept, ← RawQuery.member?_document_pairs]
  · cases hfind : items.find? fun m => p.SpelledBy m.1 with
    | some m =>
        rw [Checked.parameter, member?_spelled hspellings hfind (hfirst m hfind)]
        exact Checked.within_eq_ok.2 (Checked.texts_list (hxs.append hys))
    | none =>
        have hnone : ∀ m ∈ items, ¬ p.SpelledBy m.1 := by simpa using hfind
        have habsent : ∀ m ∈ items, RawQuery.baseName m.1 ≠ p.secondName :=
          hgiven.resolve_left (by simpa using hnone)
        have hvalues {key : String} (hkey : p.SpelledBy key) : RawQuery.valuesOf key items = [] :=
          RawQuery.valuesOf_eq_nil fun m hm heq => hnone m hm (heq ▸ hkey)
        have hboth : p.SpelledBy first ∧ p.SpelledBy other := by
          rcases hspellings with ⟨rfl, rfl⟩ | ⟨rfl, rfl⟩
          · exact ⟨Or.inl rfl, Or.inr rfl⟩
          · exact ⟨Or.inr rfl, Or.inl rfl⟩
        rw [hvalues hboth.1] at hxs
        rw [hvalues hboth.2] at hys
        rw [Checked.parameter, member?_absent fun m hm => mt spelledBy_iff.2 (hnone m hm),
          member?_absent habsent, hxs.eq_nil, hys.eq_nil]
        rfl

/-- A query with a list in three values of both spellings, and other parameters between them. -/
def spelledItems : List (String × Value) :=
  [("select[]", .text " title , ,"), ("search", .text "x"), ("select", .text "id"),
    ("sortBy", .text "title"), ("select[]", .text "slug,role")]

theorem spellings_agree_interleaved :
    ListParameter.select.SpelledBy "select[]" ∧
    WritesValues (RawQuery.valuesOf "select[]" spelledItems) ["title", "slug", "role"] ∧
    WritesValues (RawQuery.valuesOf "select" spelledItems) ["id"] ∧
    ∃ q, QueryParams.ofRaw {} (.pairs [("search", .text "x"), ("sortBy", .text "title")]) = .ok q ∧
      QueryParams.ofRaw {} (.pairs spelledItems) =
        .ok { q with select := ["title", "slug", "role", "id"] } := by
  have hentry : ∀ entry ∈ ["title", "slug", "role", "id"], IsEntry entry := by
    simp only [List.forall_mem_cons]
    refine ⟨?_, ?_, ?_, ?_, List.forall_mem_nil _⟩ <;>
      refine ⟨by decide, by decide, ?_, ?_⟩ <;> (rintro c ⟨⟩; decide)
  have hblank : ∀ c ∈ " ".toList, isBlank c = true := List.all_eq_true.1 (by decide)
  have hbare {entry : String} (h : entry ∈ ["title", "slug", "role", "id"]) :
      WritesPiece entry [entry] := by
    have hpiece : WritesPiece ("" ++ entry ++ "") [entry] :=
      .entry (hentry entry h) (List.forall_mem_nil _) (List.forall_mem_nil _)
    rwa [String.empty_append, String.append_empty] at hpiece
  have hpadded : WritesPiece " title " ["title"] := by
    have hpiece : WritesPiece (" " ++ "title" ++ " ") ["title"] :=
      .entry (hentry "title" (by decide)) hblank hblank
    exact hpiece
  have hfirst : WritesValues (RawQuery.valuesOf "select[]" spelledItems)
      ["title", "slug", "role"] :=
    ⟨[" title , ,", "slug,role"], [["title"], ["slug", "role"]], rfl,
      .cons ⟨[" title ", " ", ""], [["title"], [], []], by decide, by decide,
        .cons hpadded (.cons (.blank hblank) (.cons (.blank (List.forall_mem_nil _)) .nil)), rfl⟩
      (.cons ⟨["slug", "role"], [["slug"], ["role"]], by decide, by decide,
        .cons (hbare (by decide)) (.cons (hbare (by decide)) .nil), rfl⟩ .nil), rfl⟩
  have hother : WritesValues (RawQuery.valuesOf "select" spelledItems) ["id"] :=
    ⟨["id"], [["id"]], rfl, .cons ⟨["id"], [["id"]], by decide, by decide,
      .cons (hbare (by decide)) .nil, rfl⟩ .nil, rfl⟩
  have hspelled : ListParameter.select.SpelledBy "select[]" := by decide
  refine ⟨hspelled, hfirst, hother, _, rfl, ?_⟩
  refine spellings_agree {} .select (Or.inr ⟨rfl, rfl⟩) (fun m hm => ?_)
    (Or.inl ⟨_, List.mem_cons_self, hspelled⟩) hfirst hother rfl
  cases hm
  rfl

end ListParameter

end CollectionQuery
