import AgentConsole.Proofs.Picker.Selection
import Mathlib.Data.List.Induction

/-!
# What was selected under a filter

While there is a filter, the selection of a picker is a place among the rows that match, and these
change with each character of the query.  Dropping the filter turns it into a place of the whole
list.  Where nothing matches there is no selection to turn into anything, and then the anchor
counts.

So what has to be known all the while is what the anchor says: it is the selection of the picker as
it was when it last had no filter (`IsNarrowed`).  A query that is deleted to its last character
drops the filter too, which may leave another entry selected than the one at the start; the next
character begins a new filter, and sets the anchor anew.

The main result is `restores_of_clears`.
-/

namespace AgentConsole.Picker

variable {p q r s whole : Picker}

/-! ### Without a filter -/

/-- Without a filter, places are places of the whole list. -/
theorem IsCoherent.selectedPosition_of_filter_none (h : p.IsCoherent) (hfilter : p.filter = none) :
    p.selectedPosition? = p.selected := by
  unfold selectedPosition?
  rcases hselected : p.selected with - | i
  · rfl
  · have hlt : i < p.size := lt_size_of_isChoiceAt (h.selected i hselected)
    unfold size at hlt
    unfold position?
    rw [hfilter] at hlt ⊢
    exact if_pos hlt

/-- Without a filter, the whole list is shown. -/
theorem IsCoherent.shown_of_filter_none (h : p.IsCoherent) (hfilter : p.filter = none) :
    p.shown = p.items.toList := by
  have hsize : p.size = p.items.size := by
    unfold size
    rw [hfilter]
  refine List.ext_getElem? fun i => ?_
  by_cases hi : i < p.size
  · rw [h.shown_eq.2 i hi, Array.getElem?_toList]
    unfold item? position?
    rw [hfilter]
    dsimp only
    rw [if_pos (hsize ▸ hi)]
    rfl
  · rw [List.getElem?_eq_none (h.shown_eq.1 ▸ Nat.le_of_not_lt hi),
      List.getElem?_eq_none (by rw [Array.length_toList]; omega)]

/-- Without a filter, nothing is selected exactly if the list has no entry. -/
theorem IsCoherent.selected_eq_none_iff (h : p.IsCoherent) (hfilter : p.filter = none) :
    p.selected = none ↔ ∀ k, ¬ p.isEntry k := by
  simp only [← isChoiceAt_of_filter_none hfilter]
  constructor
  · exact h.unselected
  · intro hnone
    exact Option.eq_none_iff_forall_ne_some.mpr fun i hi => hnone i (h.selected i hi)

/-! ### Typing -/

/-- What is typed into a picker to narrow it down. -/
inductive Typing where
  | typeChar (c : Char)
  | backspace

/-- The picker after it. -/
def type (p : Picker) : Typing → Picker
  | .typeChar c => p.typeChar c
  | .backspace => p.backspace

/-- What a picker was when it last had no filter, while something was typed into it. -/
def lastWhole (p : Picker) (typed : List Typing) : Picker :=
  ((typed.scanl type p).filter (·.filter.isNone)).getLastD p

/-- One more character typed: the list is whole now, or the last whole one stays the last. -/
theorem lastWhole_concat (p : Picker) (typed : List Typing) (t : Typing) :
    p.lastWhole (typed ++ [t]) =
      if ((typed.foldl type p).type t).filter.isNone then (typed.foldl type p).type t
      else p.lastWhole typed := by
  have hscan : (typed ++ [t]).scanl type p
      = typed.scanl type p ++ [(typed.foldl type p).type t] := by
    rw [List.scanl_append]
    simp
  unfold lastWhole
  rw [hscan, List.filter_append, List.filter_cons, List.filter_nil]
  split
  · rw [List.getLastD_concat]
  · rw [List.append_nil]

/-- The picker has been narrowed down from what it was without a filter, which the anchor still
knows; or there is no filter yet. -/
structure IsNarrowed (whole p : Picker) : Prop extends p.IsOrderly where
  isOrderly_whole : whole.IsOrderly
  filter_whole : whole.filter = none
  items_eq : p.items = whole.items
  anchor_eq : p.filter ≠ none → p.anchor = whole.selected
  eq_whole : p.filter = none → p = whole

/-- Without a filter a picker is whole. -/
theorem IsOrderly.isNarrowed (h : p.IsOrderly) (hfilter : p.filter = none) : IsNarrowed p p where
  toIsOrderly := h
  isOrderly_whole := h
  filter_whole := hfilter
  items_eq := rfl
  anchor_eq hsome := absurd hfilter hsome
  eq_whole _ := rfl

/-- Dropping a filter keeps the entries. -/
@[simp] theorem items_clearFilter (p : Picker) : p.clearFilter.items = p.items := by
  unfold clearFilter
  split
  · rfl
  · rfl

/-- A longer query narrows the same list. -/
theorem IsNarrowed.typeChar (h : IsNarrowed whole p) (c : Char) :
    IsNarrowed whole (p.typeChar c) where
  toIsOrderly := h.toIsOrderly.typeChar c
  isOrderly_whole := h.isOrderly_whole
  filter_whole := h.filter_whole
  items_eq := h.items_eq
  eq_whole hnone := absurd hnone (Option.some_ne_none _)
  anchor_eq _ := by
    show (if p.filter.isNone then p.selectedPosition? else p.anchor) = whole.selected
    split
    · -- the first character: the anchor is set
      obtain rfl := h.eq_whole (Option.isNone_iff_eq_none.mp ‹_›)
      exact h.selectedPosition_of_filter_none h.filter_whole
    · exact h.anchor_eq fun hnone => ‹¬ _› (Option.isNone_iff_eq_none.mpr hnone)

/-- Taking a character off leaves a filter with the same anchor, or no filter. -/
theorem IsNarrowed.backspace (h : IsNarrowed whole p) :
    IsNarrowed whole p.backspace ∨ p.backspace.filter = none := by
  -- there is no filter, or it is dropped with the last character, or it is made anew
  by_cases hfilter : p.filter = none
  · have hsame : Picker.backspace p = p := if_pos (Option.isNone_iff_eq_none.mpr hfilter)
    right
    rw [hsame]
    exact hfilter
  by_cases hquery : p.query.dropLast = []
  · have hclear : Picker.backspace p = clearFilter { p with query := p.query.dropLast } := by
      unfold Picker.backspace
      rw [if_neg (mt Option.isNone_iff_eq_none.mp hfilter)]
      exact if_pos (List.isEmpty_iff.mpr hquery)
    exact .inr (hclear ▸ filter_clearFilter _)
  · have hrefilter : Picker.backspace p = refilter { p with query := p.query.dropLast } := by
      unfold Picker.backspace
      rw [if_neg (mt Option.isNone_iff_eq_none.mp hfilter)]
      exact if_neg (mt List.isEmpty_iff.mp hquery)
    left
    exact
      { toIsOrderly := h.toIsOrderly.backspace
        isOrderly_whole := h.isOrderly_whole
        filter_whole := h.filter_whole
        items_eq := hrefilter ▸ h.items_eq
        eq_whole := fun hnone => absurd (hrefilter ▸ hnone) (Option.some_ne_none _)
        anchor_eq := fun _ => hrefilter ▸ h.anchor_eq hfilter }

theorem IsOrderly.type (h : p.IsOrderly) (t : Typing) : (p.type t).IsOrderly := by
  cases t with
  | typeChar c => exact h.typeChar c
  | backspace => exact h.backspace

@[simp] theorem items_type (p : Picker) (t : Typing) : (p.type t).items = p.items := by
  cases t with
  | typeChar c => rfl
  | backspace =>
    show p.backspace.items = p.items
    unfold Picker.backspace
    dsimp only
    split
    · rfl
    · split
      · exact items_clearFilter _
      · rfl

/-- Typing does not change the entries. -/
@[simp] theorem items_foldl_type (p : Picker) (typed : List Typing) :
    (typed.foldl type p).items = p.items := by
  induction typed generalizing p with
  | nil => rfl
  | cons t rest ih => exact (ih (p.type t)).trans (p.items_type t)

/-- Step lemma: whatever is typed, the picker is narrowed down from what it was before, or it is
whole itself. -/
theorem IsNarrowed.type (h : IsNarrowed whole p) (t : Typing) :
    IsNarrowed (if (p.type t).filter.isNone then p.type t else whole) (p.type t) := by
  split
  · exact (h.toIsOrderly.type t).isNarrowed (Option.isNone_iff_eq_none.mp ‹_›)
  · rename_i hsome
    cases t with
    | typeChar c => exact h.typeChar c
    | backspace => exact h.backspace.resolve_right (mt Option.isNone_iff_eq_none.mpr hsome)

/-- Run lemma: whatever has been typed, the picker is narrowed down from what it was when it last
had no filter. -/
theorem IsOrderly.isNarrowed_foldl_type (h : p.IsOrderly) (hfilter : p.filter = none)
    (typed : List Typing) : IsNarrowed (p.lastWhole typed) (typed.foldl Picker.type p) := by
  induction typed using List.reverseRecOn with
  | nil =>
    have hlast : p.lastWhole [] = p := by simp [lastWhole, hfilter]
    rw [hlast]
    exact h.isNarrowed hfilter
  | append_singleton typed t ih =>
    rw [lastWhole_concat, List.foldl_append]
    exact ih.type t

/-! ### Moving -/

/-- A motion of the selection. -/
inductive Motion where
  | move (delta : Int)
  | selectFirst
  | selectLast

/-- The picker after it. -/
def go (p : Picker) : Motion → Picker
  | .move delta => p.move delta
  | .selectFirst => p.selectFirst
  | .selectLast => p.selectLast

/-- A motion changes nothing but the selection and the view. -/
theorem go_eq (p : Picker) (m : Motion) :
    ∃ selected scroll, p.go m = { p with selected, scroll } := by
  cases m with
  | move delta =>
    show ∃ selected scroll, p.move delta = { p with selected, scroll }
    unfold move
    split
    · exact ⟨_, _, rfl⟩
    · exact ⟨_, _, rfl⟩
  | selectFirst => exact ⟨_, _, rfl⟩
  | selectLast => exact ⟨_, _, rfl⟩

theorem IsOrderly.go (h : p.IsOrderly) (m : Motion) : (p.go m).IsOrderly := by
  cases m with
  | move delta => exact h.move delta
  | selectFirst => exact (h.toIsCoherent.nearest 0).reveal
  | selectLast => exact (h.toIsCoherent.nearest _).reveal

/-- Step lemma: a motion under a filter. -/
theorem IsNarrowed.go (h : IsNarrowed whole p) (hfilter : p.filter ≠ none) (m : Motion) :
    IsNarrowed whole (p.go m) ∧ (p.go m).filter = p.filter := by
  -- a motion changes the selection and the scroll alone, and the filter is neither
  obtain ⟨selected, scroll, hgo⟩ := go_eq p m
  refine ⟨?_, by rw [hgo]⟩
  exact
    { toIsOrderly := h.toIsOrderly.go m
      isOrderly_whole := h.isOrderly_whole
      filter_whole := h.filter_whole
      items_eq := by
        rw [hgo]
        exact h.items_eq
      anchor_eq := fun _ => by
        rw [hgo]
        exact h.anchor_eq hfilter
      eq_whole := fun hnone => by
        rw [hgo] at hnone
        exact absurd hnone hfilter }

/-- Run lemma: motions under a filter. -/
theorem IsNarrowed.foldl_go (h : IsNarrowed whole p) (hfilter : p.filter ≠ none)
    (motions : List Motion) :
    IsNarrowed whole (motions.foldl Picker.go p) ∧
      (motions.foldl Picker.go p).filter = p.filter := by
  induction motions generalizing p with
  | nil => exact ⟨h, rfl⟩
  | cons m rest ih =>
    obtain ⟨hgo, heq⟩ := h.go hfilter m
    obtain ⟨hrest, hrest_eq⟩ := ih hgo (heq ▸ hfilter)
    exact ⟨hrest, hrest_eq.trans heq⟩

/-! ### Dropping the filter -/

/-- The ways to drop a filter. -/
inductive Clears (p : Picker) : Picker → Prop
  | clearFilter : Clears p p.clearFilter
  | escape {key : Key} (hcode : key.code = .escape) (hkind : key.kind ≠ .release) :
    Clears p (p.handle key).1
  | «open» : Clears p p.open

/-- The filter of `r` is gone: what was selected stays so, and else what the anchor says. -/
structure IsCleared (r s : Picker) : Prop extends s.IsOrderly where
  filter_eq : s.filter = none
  query : s.query = []
  items : s.items = r.items
  selected_eq : ∀ k, r.selectedPosition?.or r.anchor = some k → s.selected = some k

/-- Dropping the filter keeps the selection on its entry, where there is one. -/
theorem IsOrderly.isCleared_clearFilter (h : r.IsOrderly) (hfilter : r.filter ≠ none) :
    IsCleared r r.clearFilter := by
  obtain ⟨rows, hrows⟩ := Option.ne_none_iff_exists'.mp hfilter
  have hposition : r.selectedPosition? = r.selected.bind (rows[·]?) := by
    unfold selectedPosition? position?
    rw [hrows]
  refine
    { toIsOrderly := h.clearFilter
      filter_eq := r.filter_clearFilter
      query := ?_
      items := r.items_clearFilter
      selected_eq := fun k hk => ?_ }
  · unfold Picker.clearFilter
    rw [hrows]
    rfl
  · -- what is kept is the place of an entry, so it is one of the list
    have hentry : r.isEntry k := by
      rcases Option.or_eq_some_iff.mp hk with hk | ⟨-, hk⟩
      · exact h.selectedPosition hk
      · exact h.anchor k hk
    have hlt : k < r.items.size := by
      obtain ⟨item, hitem, -⟩ := (Option.any_eq_true _ _).mp hentry
      exact (Array.getElem?_eq_some_iff.mp hitem).1
    rw [hposition] at hk
    have hkept : ((r.selected.bind (rows[·]?)).or r.anchor).filter (· < r.items.size) = some k :=
      Option.filter_eq_some_iff.mpr ⟨hk, decide_eq_true hlt⟩
    unfold Picker.clearFilter
    rw [hrows]
    show ((Option.filter _ _).or _) = some k
    rw [hkept]
    rfl

/-- Opening the list again drops the filter, too. -/
theorem IsOrderly.isCleared_open (h : r.IsOrderly) (hfilter : r.filter ≠ none) :
    IsCleared r r.open := by
  have hclear := h.isCleared_clearFilter hfilter
  exact
    { toIsOrderly := h.open
      filter_eq := hclear.filter_eq
      query := hclear.query
      items := hclear.items
      selected_eq := fun k hk => by
        show r.clearFilter.selected.or _ = some k
        rw [hclear.selected_eq k hk]
        rfl }

/-- Every way to drop a filter does so. -/
theorem Clears.isCleared (hs : r.Clears s) (h : r.IsOrderly) (hfilter : r.filter ≠ none) :
    IsCleared r s := by
  cases hs with
  | clearFilter => exact h.isCleared_clearFilter hfilter
  | @escape key hcode hkind =>
    have hhandle : r.handle key = (r.clearFilter, .handled) := by
      unfold Picker.handle
      rw [if_neg hkind, hcode]
      exact if_pos (Option.isSome_iff_ne_none.mpr hfilter)
    rw [hhandle]
    exact h.isCleared_clearFilter hfilter
  | «open» => exact h.isCleared_open hfilter

/-- Dropping the filter of `r`, which was `whole` when it last had no filter, has led to `s`. -/
structure Restores (list : Array Item) (whole r s : Picker) : Prop where
  filter : s.filter = none
  query : s.query = []
  /-- The list is as it was, and all of it is shown. -/
  items : s.items = list
  shown : s.shown = list.toList
  /-- If something matched, what was selected stays selected. -/
  matched : r.shown ≠ [] →
    r.choice?.isSome ∧ s.choice? = r.choice? ∧ s.selected = r.selectedPosition?
  /-- If nothing matched, what was selected before is selected again. -/
  unmatched : r.shown = [] → s.choice? = whole.choice? ∧ s.selected = whole.selected

/-- Where the selected places agree, so do the selected entries. -/
theorem choice?_congr (hitems : p.items = q.items)
    (hposition : p.selectedPosition? = q.selectedPosition?) : p.choice? = q.choice? := by
  unfold choice?
  rw [hitems, hposition]

/-- What is selected is an entry. -/
theorem IsPointed.isSome_choice? (h : p.IsPointed) {k : Nat} (hk : p.selectedPosition? = some k) :
    p.choice?.isSome := by
  obtain ⟨item, hitem, hchoice⟩ := (Option.any_eq_true _ _).mp (h.selectedPosition hk)
  cases item with
  | heading label => exact absurd hchoice Bool.false_ne_true
  | choice entry =>
    unfold choice?
    rw [hk, Option.bind_some, hitem]
    rfl

/-- Under a filter only entries are shown. -/
theorem IsCoherent.isChoiceAt_of_filter (h : p.IsCoherent) (hfilter : p.filter ≠ none) {i : Nat}
    (hi : i < p.size) : p.isChoiceAt i := by
  obtain ⟨rows, hrows⟩ := Option.ne_none_iff_exists'.mp hfilter
  obtain rfl := h.eq_matching hrows
  unfold size at hi
  rw [hrows] at hi
  refine isChoiceAt_iff.mpr ⟨p.matching[i], ?_, isEntry_of_mem_matching (Array.getElem_mem hi)⟩
  unfold position?
  rw [hrows]
  exact Array.getElem?_eq_getElem hi

/-- If something matches, an entry is selected. -/
theorem IsCoherent.exists_selectedPosition (h : p.IsCoherent) (hfilter : p.filter ≠ none)
    (hshown : p.shown ≠ []) : ∃ k, p.selectedPosition? = some k := by
  have hsize : 0 < p.size := h.shown_eq.1 ▸ List.length_pos_iff.mpr hshown
  obtain ⟨i, hi⟩ := Option.ne_none_iff_exists'.mp fun hnone =>
    h.unselected hnone 0 (h.isChoiceAt_of_filter hfilter hsize)
  obtain ⟨k, hk, -⟩ := isChoiceAt_iff.mp (h.selected i hi)
  refine ⟨k, ?_⟩
  unfold selectedPosition?
  rw [hi]
  exact hk

/-- If nothing matches, nothing is selected. -/
theorem IsCoherent.selected_of_shown_eq_nil (h : p.IsCoherent) (hshown : p.shown = []) :
    p.selected = none := by
  have hsize : p.size = 0 := by rw [← h.shown_eq.1, hshown, List.length_nil]
  refine Option.eq_none_iff_forall_ne_some.mpr fun i hi => ?_
  have hlt := lt_size_of_isChoiceAt (h.selected i hi)
  omega

/-- Where nothing was selected, the anchor brings back what was selected without the filter. -/
theorem IsNarrowed.selected_of_isCleared (h : IsNarrowed whole r) (hfilter : r.filter ≠ none)
    (hs : IsCleared r s) (hnone : r.selected = none) : s.selected = whole.selected := by
  rcases hanchor : whole.selected with - | k
  · -- then the list has no entry at all
    rw [hs.selected_eq_none_iff hs.filter_eq]
    unfold isEntry
    rw [hs.items, h.items_eq]
    exact (h.isOrderly_whole.selected_eq_none_iff h.filter_whole).mp hanchor
  · refine hs.selected_eq k ?_
    unfold selectedPosition?
    rw [hnone, h.anchor_eq hfilter, hanchor]
    rfl

/-- However a filter is dropped, what was there before it is there again. -/
theorem IsNarrowed.restores (h : IsNarrowed whole r) (hfilter : r.filter ≠ none)
    (hs : IsCleared r s) : Restores r.items whole r s := by
  have hposition := hs.selectedPosition_of_filter_none hs.filter_eq
  have hwhole := h.isOrderly_whole.selectedPosition_of_filter_none h.filter_whole
  -- with a match the selected entry is kept; without one the anchor brings back the entry from
  -- before
  refine
    { filter := hs.filter_eq
      query := hs.query
      items := hs.items
      shown := hs.items ▸ hs.shown_of_filter_none hs.filter_eq
      matched := fun hshown => ?_
      unmatched := fun hshown => ?_ }
  · obtain ⟨k, hk⟩ := h.exists_selectedPosition hfilter hshown
    have hselected : s.selected = r.selectedPosition? := by
      rw [hk]
      refine hs.selected_eq k ?_
      rw [hk]
      rfl
    exact ⟨h.isSome_choice? hk, choice?_congr hs.items (hposition.trans hselected), hselected⟩
  · have hselected := h.selected_of_isCleared hfilter hs (h.selected_of_shown_eq_nil hshown)
    refine ⟨choice?_congr (hs.items.trans h.items_eq) ?_, hselected⟩
    rw [hposition, hwhole, hselected]

/-- **What is selected under a filter stays selected without it.**  Take any picker without a
filter, type and delete until there is one, and move the selection; then drop the filter in any
way.  The list is as it was, what was selected is still selected, and where nothing matched, what
was selected when the picker last had no filter is selected again. -/
theorem restores_of_clears (title : Text) (ops : List Operation) (typed : List Typing)
    (motions : List Motion) (hwhole : (ops.foldl apply { title }).filter = none)
    (hfilter : (typed.foldl type (ops.foldl apply { title })).filter ≠ none) :
    let p := ops.foldl apply { title }
    let r := motions.foldl go (typed.foldl type p)
    ∀ s, r.Clears s → Restores p.items (p.lastWhole typed) r s := by
  intro p r s hs
  have hnarrowed := (isOrderly_run title ops).isNarrowed_foldl_type hwhole typed
  obtain ⟨hr, hsame⟩ := hnarrowed.foldl_go hfilter motions
  have hstill : r.filter ≠ none := hsame ▸ hfilter
  have hitems : r.items = p.items := by
    rw [hr.items_eq, ← hnarrowed.items_eq, items_foldl_type]
  exact hitems ▸ hr.restores hstill (hs.isCleared hr.toIsOrderly hstill)

/-- Of three entries two match, and the second of these is taken into the whole list. -/
theorem restores_of_clears_second :
    let ops := [Operation.setItems [.choice { id := "1", label := "a".toList },
      .choice { id := "2", label := "Bc".toList }, .choice { id := "3", label := "b".toList }]]
    let p := ops.foldl apply {}
    let narrowed := [.typeChar 'b', .typeChar 'x', .backspace].foldl type p
    p.filter = none ∧ narrowed.filter ≠ none ∧
      Restores p.items (p.lastWhole [.typeChar 'b', .typeChar 'x', .backspace])
        ([Motion.move 1].foldl go narrowed) ([Motion.move 1].foldl go narrowed).open := by
  intro ops p narrowed
  have hwhole : p.filter = none := rfl
  have hfilter : narrowed.filter ≠ none := by decide +kernel
  exact ⟨hwhole, hfilter, restores_of_clears [] ops _ [.move 1] hwhole hfilter _ .open⟩

end AgentConsole.Picker
