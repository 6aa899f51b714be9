import CollectionQuery.Proofs.Store.Constraints

/-!
# Removing a row

Whether a row can be removed depends on the rows that point to it alone: it is *held* if one of them
does so by a key that may not be null.  A held row is not removed.  Any other is: the rows that
point to it lose its identifier, which shows besides only in the time of their change, and all other
rows stay as they are.
-/

namespace CollectionQuery

variable {s next : Store} {c : Collection} {occasion : Occasion} {row x : Row} {r : Relation}
  {id : Uuid}

/-- A row that has lost the identifier in its key, at the cost of the time of its change. -/
structure Row.Lost (key : String) (x y : Row) : Prop where
  id : y.id = x.id
  key_null : y.cell key = .null
  cells : ∀ name, name ≠ key → name ≠ "updated_at" → y.cell name = x.cell name

namespace Store

/-- No row of a collection has an identifier. -/
def Lacks (s : Store) (c : Collection) (id : Uuid) : Prop := ∀ row ∈ s.rows c, row.id ≠ id

/-! ## Rows that point to a row -/

/-- The rows that a relation leads to cannot do without an identifier. -/
def Holds (s : Store) (r : Relation) (id : Uuid) : Prop :=
  r.many = true ∧ ((r.target.column? r.key).map (·.nullable)).getD false = false ∧
    ∃ x ∈ s.rows r.target, x.cell r.key = .uuid id

/-- Rows cannot do without a row of a collection. -/
def Held (s : Store) (c : Collection) (id : Uuid) : Prop := ∃ r ∈ c.relations, s.Holds r id

/-- Only authors are held. -/
theorem held_iff :
    s.Held c id ↔ c = .users ∧ ∃ blog ∈ s.rows .blogs, blog.cell "author_id" = .uuid id := by
  have hauthor : ((Collection.blogs.column? "author_id").map (·.nullable)).getD false = false := by
    decide
  have hcategory :
      ((Collection.resources.column? "category_id").map (·.nullable)).getD false = true := by
    decide
  cases c <;> simp [Held, Holds, Collection.relations, hauthor, hcategory]

theorem released_of_ne (h : x.cell r.key ≠ .uuid id) (occasion : Occasion) :
    released occasion r id x = x :=
  if_neg fun heq => h (beq_iff_eq.1 heq)

theorem id_released (occasion : Occasion) (r : Relation) (id : Uuid) (x : Row) :
    (released occasion r id x).id = x.id := by
  rw [released]
  split <;> rfl

theorem lost_released (h : x.cell r.key = .uuid id) (hkey : r.key ≠ "updated_at")
    (occasion : Occasion) : x.Lost r.key (released occasion r id x) where
  id := id_released occasion r id x
  key_null := by
    rw [released, if_pos (beq_iff_eq.2 h)]
    exact (if_neg hkey).trans (if_pos rfl)
  cells _ hne hupdated := cell_released_of_ne hne hupdated occasion id x

/-- No row points to a row that was released. -/
theorem cell_released_ne (hkey : r.key ≠ "updated_at") (occasion : Occasion) (id : Uuid) (x : Row) :
    (released occasion r id x).cell r.key ≠ .uuid id := by
  by_cases h : x.cell r.key = .uuid id
  · rw [(lost_released h hkey occasion).key_null]
    exact nofun
  · rwa [released_of_ne h]

/-! ## One relation -/

theorem onRows_eq_self {change : List Row → List Row} (h : change (s.rows c) = s.rows c) :
    s.onRows c change = s := by
  have hrows : (s.onRows c change).rows = s.rows := by
    funext e
    by_cases he : e = c
    · rw [he, rows_onRows_self, h]
    · exact rows_onRows_of_ne s he change
  exact congrArg (fun rows => { s with rows }) hrows

theorem release_of_holds (h : s.Holds r row.id) :
    release occasion row s r = .error (.refused .referenced) := by
  obtain ⟨hmany, hrequired, x, hx, hpoints⟩ := h
  have hany : (s.rows r.target).any (fun other => other.cell r.key == .uuid row.id) = true :=
    List.any_eq_true.2 ⟨x, hx, beq_iff_eq.2 hpoints⟩
  rw [release]
  simp [hmany, hany, hrequired]

theorem release_of_not_holds (h : ¬ s.Holds r row.id) :
    release occasion row s r = .ok (if r.many then
      s.onRows r.target fun rows => rows.map (released occasion r row.id) else s) := by
  rw [release]
  dsimp only
  cases hmany : r.many with
  | false => rfl
  | true =>
      by_cases hany : (s.rows r.target).any (fun other => other.cell r.key == .uuid row.id) = true
      · obtain ⟨x, hx, hpoints⟩ := List.any_eq_true.1 hany
        have hnullable : ((r.target.column? r.key).map (·.nullable)).getD false = true := by
          by_contra hrequired
          exact h ⟨hmany, Bool.not_eq_true _ ▸ hrequired, x, hx, beq_iff_eq.1 hpoints⟩
        simp only [hany, hnullable, Bool.not_true, Bool.or_self, Bool.false_eq_true, if_false,
          if_true]
        rfl
      · -- Without a row that points to it nothing is written, which comes to the same.
        have hsame : (s.rows r.target).map (released occasion r row.id) = s.rows r.target := by
          refine (List.map_congr_left fun x hx => ?_).trans (List.map_id _)
          exact released_of_ne (fun hpoints => hany (List.any_eq_true.2
            ⟨x, hx, beq_iff_eq.2 hpoints⟩)) occasion
        rw [Bool.not_eq_true] at hany
        simp [hany, onRows_eq_self hsame]

/-! ## The whole row -/

/-- A store without the row of an identifier, to which no row of a related collection points any
more. -/
structure Removed (occasion : Occasion) (c : Collection) (id : Uuid) (s next : Store) : Prop where
  rows : next.rows c = (s.rows c).filter fun x => x.id != id
  /-- The rows that point to the row lose its identifier. -/
  pointing : ∀ r ∈ c.relations, r.many = true →
    next.rows r.target = (s.rows r.target).map (released occasion r id)
  /-- Collections without such rows stay as they are. -/
  others : ∀ e, e ≠ c → (∀ r ∈ c.relations, r.many = true → r.target ≠ e) →
    next.rows e = s.rows e
  present : next.present = s.present

theorem removeRow_of_held (h : s.Held c row.id) :
    s.removeRow occasion c row = .error (.refused .referenced) := by
  obtain ⟨r, hr, hholds⟩ := h
  rcases c.relations_cases with hnone | ⟨r', hone⟩
  · rw [hnone] at hr
    cases hr
  · obtain rfl : r = r' := by simpa [hone] using hr
    rw [removeRow, hone, List.foldlM_cons, release_of_holds hholds]
    rfl

theorem removed_of_not_held (occasion : Occasion) (h : ¬ s.Held c row.id) :
    ∃ next, s.removeRow occasion c row = .ok next ∧ Removed occasion c row.id s next := by
  rcases c.relations_cases with hnone | ⟨r, hone⟩
  · refine ⟨s.erase c row.id, ?_, rows_onRows_self s c _, ?_, fun e he _ => ?_, rfl⟩
    · rw [removeRow, hnone]
      rfl
    · rw [hnone]
      exact nofun
    · exact rows_onRows_of_ne s he _
  · have hr : r ∈ c.relations := by simp [hone]
    have htarget := Collection.target_ne hr
    have hfree : ¬ s.Holds r row.id := fun hholds => h ⟨r, hr, hholds⟩
    refine ⟨_, by rw [removeRow, hone, List.foldlM_cons, release_of_not_holds hfree]; rfl, ?_⟩
    cases hmany : r.many with
    | false =>
        refine ⟨rows_onRows_self s c _, ?_, fun e he _ => rows_onRows_of_ne s he _, rfl⟩
        simp [hone, hmany]
    | true =>
        refine ⟨?_, ?_, fun e he hno => ?_, rfl⟩
        · rw [if_pos rfl, erase, rows_onRows_self, rows_onRows_of_ne s htarget.symm]
        · intro r' hr' _
          obtain rfl : r' = r := by simpa [hone] using hr'
          rw [if_pos rfl, erase, rows_onRows_of_ne _ htarget, rows_onRows_self]
        · have hne : e ≠ r.target := fun heq => hno r hr hmany heq.symm
          rw [if_pos rfl, erase, rows_onRows_of_ne _ he, rows_onRows_of_ne s hne]

/-- A row that could be removed was not held. -/
theorem removed_removeRow (h : s.removeRow occasion c row = .ok next) :
    Removed occasion c row.id s next := by
  by_cases hheld : s.Held c row.id
  · rw [removeRow_of_held hheld] at h
    cases h
  · obtain ⟨next', hnext, hremoved⟩ := removed_of_not_held occasion hheld
    rw [hnext] at h
    cases h
    exact hremoved

end Store

end CollectionQuery
