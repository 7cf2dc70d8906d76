import AgentConsole.Proofs.Picker.Render
import AgentConsole.Proofs.Picker.Selection
import AgentConsole.Proofs.Styled.Omits
import AgentConsole.Proofs.Styled.Spread
import Mathlib.Data.List.Basic

/-!
# The selection is seen

Below the line of its query a picker draws a stretch of what it shows, one row for each.  The stretch
is as long as the view, unless the whole list is shorter, since the view never runs past the end; and
it holds the selected row (`IsOrderly.render_eq`).

The selected row is drawn in the colours of the selection from its first column to its last
(`glyphs_selectedRow`).  The others are painted in foreground colours alone and do not turn the
background of the selection on (`IsBare`).  So that background is in exactly one row.

The main result is `isDrawn_run`.
-/

namespace AgentConsole

open Styled Color

namespace Theme

/-- The renditions of a selected row. -/
def highlight (theme : Theme) : List Text := [theme.selection.background, theme.selectionText.foreground]

/-- Is some of the row drawn on the background of the selection? -/
def IsHighlighted (theme : Theme) (row : Text) : Prop :=
  shownUnder theme.selection.background row ≠ []

/-- The styles of a selected row last until its end. -/
theorem forall_isLasting_highlight (theme : Theme) : ∀ e ∈ theme.highlight, IsLasting e := by
  obtain ⟨p, hp, hbackground⟩ := exists_background_eq theme.selection
  obtain ⟨q, hq, hforeground⟩ := exists_foreground_eq theme.selectionText
  intro e he
  rcases List.mem_cons.mp he with rfl | he
  · rw [hbackground]
    exact isLasting_rendition hp (by decide)
  · obtain rfl := List.mem_singleton.mp he
    rw [hforeground]
    exact isLasting_rendition hq (by decide)

/-- A plain text is selected as a whole. -/
theorem glyphs_selected (theme : Theme) {t : Text} (ht : esc ∉ t) :
    glyphs (theme.selected t) = t.map fun c => (c, theme.highlight) := by
  -- an empty text is not painted; any other stands between the styles and their ends
  unfold selected
  split
  · rename_i hempty
    rw [List.isEmpty_iff.mp hempty]
    rfl
  · have hends : ∀ e ∈ [backgroundEnd, foregroundEnd], IsLasting e := by
      intro e he
      rcases List.mem_cons.mp he with rfl | he
      · exact isLasting_rendition (by simp [IsParameters]) (by decide)
      · obtain rfl := List.mem_singleton.mp he
        exact isLasting_rendition (by simp [IsParameters]) (by decide)
    have hreplay := glyphs_replay theme.forall_isLasting_highlight ht hends
    rw [← hreplay]
    simp [highlight]

theorem strip_selected (theme : Theme) {t : Text} (ht : esc ∉ t) : strip (theme.selected t) = t := by
  rw [← map_fst_glyphs, theme.glyphs_selected ht, List.map_map]
  exact List.map_id t

end Theme

namespace Styled

/-! ### Rows without a sequence -/

/-- Is the row as wide as it is meant to be, and without the sequence? -/
structure IsBare (e : Text) (width : Nat) (row : Text) : Prop where
  omits : Omits e row
  width : rowWidth row = width

theorem IsBare.not_isHighlighted {theme : Theme} {width : Nat} {row : Text}
    (h : IsBare theme.selection.background width row) : ¬ theme.IsHighlighted row :=
  fun hseen => hseen h.omits.shownUnder_eq_nil

variable {e a b : Text} (he : Apart e)
include he

theorem Omits.isBare_fit (h : Omits e a) (width : Nat) : IsBare e width (Styled.fit a width) where
  omits := h.fit he.ne_reset width
  width := rowWidth_fit h.solid width

theorem Omits.isBare_spread (ha : Omits e a) (hb : Omits e b) (width : Nat) :
    IsBare e width (Styled.spread a b width) where
  omits := ha.spread he.ne_reset hb width
  width := rowWidth_spread ha.solid hb.solid width

theorem Omits.of_muted (h : esc ∉ a) (theme : Theme) : Omits e (theme.muted a) :=
  (Omits.of_notMem h).muted he.ne_foreground theme

end Styled

namespace Picker

variable {p : Picker} {theme : Theme} {width : Nat}

section

variable {e : Text} (he : Apart e)
include he

/-- A heading has no such colour. -/
theorem isBare_headingRow {label : Text} (h : esc ∉ label) :
    IsBare e width (headingRow theme label width) := by
  have hrule : esc ∉ "── ".toList ++ label ++ [' '] :=
    List.not_mem_append (List.not_mem_append (by decide +kernel) h) (by decide)
  have hfill (n : Nat) : esc ∉ Text.times n ['─'] := fun hmem =>
    absurd (Text.mem_times hmem) (by decide)
  exact (Omits.of_muted he (List.not_mem_append hrule (hfill _)) theme).isBare_fit he width

end

section

variable {entry : Choice} (h : (Item.choice entry).LabelsLack esc) (hs : (Item.choice entry).HasCleanSigns)
include h hs

theorem esc_notMem_lead {marker : Char} (hm : esc ≠ marker) : esc ∉ lead entry marker := by
  have hicon : esc ∉ (entry.icon.map (· ++ [' '])).getD [] := by
    rcases hi : entry.icon with - | t
    · exact List.not_mem_nil
    · exact List.not_mem_append (hs.1 t hi).1 (by decide)
  have hmarker : esc ∉ [marker, ' '] := List.not_mem_cons_of_ne_of_not_mem hm (by decide)
  exact List.not_mem_append (List.not_mem_append hmarker hicon) h.1

omit h in
theorem esc_notMem_badge : esc ∉ entry.badge.getD [] := by
  rcases hb : entry.badge with - | t
  · exact List.not_mem_nil
  · exact (hs.2 t hb).1

theorem isBare_choiceRow {e : Text} (he : Apart e) : IsBare e width (choiceRow theme entry width) := by
  have hlead : Omits e (lead entry ' ') := .of_notMem (esc_notMem_lead h hs (by decide))
  have hsubtitle : Omits e ((entry.subtitle.map (' ' :: ' ' :: theme.muted ·)).getD []) := by
    rcases hb : entry.subtitle with - | t
    · exact .of_notMem List.not_mem_nil
    · exact .cons (by decide) (.cons (by decide) (.of_muted he (h.2 t hb) theme))
  exact (hlead.append hsubtitle).isBare_spread he (.of_muted he (esc_notMem_badge hs) theme) width

/-- The selected row is a plain text of the width, in the colours of the selection. -/
theorem exists_selectedRow_eq (theme : Theme) (width : Nat) : ∃ t, esc ∉ t ∧ rowWidth t = width ∧
    selectedRow theme entry width = theme.selected t := by
  have hplain : esc ∉ lead entry '›' ++ (entry.subtitle.map (' ' :: ' ' :: ·)).getD [] := by
    refine List.not_mem_append (esc_notMem_lead h hs (by decide)) ?_
    rcases hb : entry.subtitle with - | t
    · exact List.not_mem_nil
    · exact esc_notMem_blank_cons (esc_notMem_blank_cons (h.2 t hb))
  have hrow (room : Nat) :
      esc ∉ fit (truncate (lead entry '›' ++ (entry.subtitle.map (' ' :: ' ' :: ·)).getD []) room) room
        ++ ' ' :: entry.badge.getD [] :=
    List.not_mem_append (esc_notMem_fit (esc_notMem_truncate hplain room) room)
      (esc_notMem_blank_cons (esc_notMem_badge hs))
  exact ⟨_, esc_notMem_fit (hrow _) width, rowWidth_fit (solid_of_notMem (hrow _)) width, rfl⟩

theorem rowWidth_selectedRow (theme : Theme) (width : Nat) :
    rowWidth (selectedRow theme entry width) = width := by
  obtain ⟨t, ht, hwidth, hrow⟩ := exists_selectedRow_eq h hs theme width
  rw [hrow, ← rowWidth_strip, theme.strip_selected ht, hwidth]

/-- **The whole of a selected row is highlighted.** -/
theorem glyphs_selectedRow : glyphs (selectedRow theme entry width)
    = (strip (selectedRow theme entry width)).map fun c => (c, theme.highlight) := by
  obtain ⟨t, ht, -, hrow⟩ := exists_selectedRow_eq h hs theme width
  rw [hrow, theme.strip_selected ht, theme.glyphs_selected ht]

/-- The row of the selected entry has it throughout. -/
theorem isHighlighted_selectedRow (hwidth : 0 < width) :
    theme.IsHighlighted (selectedRow theme entry width) := by
  have hall : ∀ d ∈ glyphs (selectedRow theme entry width), theme.selection.background ∈ d.2 := by
    rw [glyphs_selectedRow h hs]
    intro d hd
    obtain ⟨c, -, rfl⟩ := List.mem_map.mp hd
    exact List.mem_cons_self
  unfold Theme.IsHighlighted shownUnder
  rw [List.filter_eq_self.mpr (by simpa using hall), map_fst_glyphs]
  intro hnil
  have hrow := rowWidth_selectedRow h hs theme width
  rw [← rowWidth_strip, hnil] at hrow
  exact Nat.ne_of_gt hwidth hrow.symm

end

theorem row_selected (theme : Theme) (entry : Choice) (width : Nat) :
    row theme (.choice entry) true width = selectedRow theme entry width := by
  unfold row
  exact if_pos rfl

/-- A row is bare unless it is that of a selected entry. -/
theorem isBare_row {e : Text} (he : Apart e) {item : Item} (h : item.LabelsLack esc)
    (hs : item.HasCleanSigns) {selected : Bool} (hselected : ¬ (selected ∧ item.isChoice)) :
    IsBare e width (row theme item selected width) := by
  cases item with
  | heading label =>
    show IsBare e width (headingRow theme label width)
    exact isBare_headingRow he h
  | choice entry =>
    have hplain : selected = false := Bool.eq_false_iff.mpr fun hsel => hselected ⟨hsel, rfl⟩
    subst hplain
    show IsBare e width (choiceRow theme entry width)
    exact isBare_choiceRow h hs he

/-- Every row is as wide as the list. -/
theorem rowWidth_row {item : Item} (h : item.LabelsLack esc) (hs : item.HasCleanSigns)
    (selected : Bool) : rowWidth (row theme item selected width) = width := by
  by_cases hselected : selected ∧ item.isChoice
  · obtain ⟨rfl, hchoice⟩ := hselected
    cases item with
    | heading label => exact absurd hchoice Bool.false_ne_true
    | choice entry =>
      rw [row_selected]
      exact rowWidth_selectedRow h hs theme width
  · exact (isBare_row (apart_background .terminal) h hs hselected).width

/-! ### The rows of a picker -/

/-- The row that says that nothing matches. -/
def emptyRow (theme : Theme) (width : Nat) : Text := fit (theme.muted "  no matches".toList) width

/-- The rows below the line of the query. -/
def rowsBelow (p : Picker) (theme : Theme) (width : Nat) : List Text :=
  if p.shown = [] then [emptyRow theme width]
  else ((p.shown.drop p.scroll).take (p.height - 1)).mapIdx fun i item =>
    row theme item (p.selected = some (p.scroll + i)) width

/-- What is made of the members of a stretch of a list, by their places. -/
theorem filterMap_range'_eq {α β : Type} (f : Nat → α → β) (l : List α) {s n : Nat}
    (h : s + n ≤ l.length) : ((List.range' s n).filterMap fun i => (l[i]?).map (f i))
      = ((l.drop s).take n).mapIdx fun i a => f (s + i) a := by
  induction n generalizing s with
  | zero => simp
  | succ n ih =>
    have hs : s < l.length := by omega
    have hhead : (l[s]?).map (f s) = some (f s l[s]) := by rw [List.getElem?_eq_getElem hs]; rfl
    have hrest := ih (s := s + 1) (by omega)
    rw [List.range'_succ, List.filterMap_cons_some (f := fun i => (l[i]?).map (f i)) hhead, hrest,
      List.drop_eq_getElem_cons hs, List.take_succ_cons, List.mapIdx_cons]
    congr 2
    funext i a
    rw [Nat.add_assoc, Nat.add_comm 1 i]

/-- The view does not run past the end of what is shown. -/
theorem IsOrderly.stretch_le (h : p.IsOrderly) (hshown : p.shown ≠ []) :
    p.scroll + (p.height - 1) ≤ p.shown.length := by
  have hlength := h.shown_eq.1
  have hscroll := h.scroll_le
  have hpos := List.length_pos_iff.mpr hshown
  unfold height
  omega

/-- What is drawn is the row of the query, and below it a stretch of the rows that are shown. -/
theorem IsOrderly.render_eq (h : p.IsOrderly) (theme : Theme) (width : Nat) :
    p.render theme width = Text.ofRows (p.queryRow theme width :: p.rowsBelow theme width) := by
  have hlength := h.shown_eq.1
  have hempty : p.shown = [] ↔ p.size = 0 := by rw [← hlength, List.length_eq_zero_iff]
  unfold render rowsBelow
  dsimp only
  -- an empty list has a row of its own; otherwise the loop of the program is a `filterMap` over the
  -- stretch
  split
  · rename_i hsize
    rw [if_pos (hempty.mpr hsize)]
    rfl
  · rename_i hsize
    have hscroll := h.scroll_le
    have hview : min (p.scroll + p.capacity) p.size - p.scroll = p.height - 1 := by
      unfold height
      omega
    rw [if_neg (mt hempty.mp hsize), hview, ← filterMap_range'_eq
      (fun i item => row theme item (p.selected = some i) width) p.shown
      (h.stretch_le (mt hempty.mp hsize))]
    congr 2
    refine List.filterMap_congr fun i hi => ?_
    have hlt := (List.mem_range'_1.mp hi).2
    have hstretch := h.stretch_le (mt hempty.mp hsize)
    rw [h.shown_eq.2 i (by omega)]

/-- The rows below the query fill the height. -/
theorem IsOrderly.length_rowsBelow (h : p.IsOrderly) (theme : Theme) (width : Nat) :
    (p.rowsBelow theme width).length + 1 = p.height := by
  have hlength := h.shown_eq.1
  have hcapacity := h.capacity
  unfold rowsBelow
  split
  · rename_i hnone
    have hsize : p.size = 0 := by rw [← hlength, hnone, List.length_nil]
    rw [List.length_singleton]
    unfold height
    omega
  · rename_i hshown
    have hstretch := h.stretch_le hshown
    rw [List.length_mapIdx, List.length_take, List.length_drop]
    unfold height at hstretch ⊢
    omega

/-- What a row below the line of the query is the row of. -/
theorem exists_of_getElem?_rowsBelow {i : Nat} {below : Text}
    (hbelow : (p.rowsBelow theme width)[i]? = some below) :
    (p.shown = [] ∧ below = emptyRow theme width) ∨ ∃ item, p.shown[p.scroll + i]? = some item ∧
      below = row theme item (p.selected = some (p.scroll + i)) width := by
  unfold rowsBelow at hbelow
  split at hbelow
  · rename_i hnone
    exact .inl ⟨hnone, List.mem_singleton.mp (List.mem_of_getElem? hbelow)⟩
  · rw [List.getElem?_mapIdx, List.getElem?_take] at hbelow
    split at hbelow
    · obtain ⟨item, hitem, rfl⟩ := Option.map_eq_some_iff.mp hbelow
      rw [List.getElem?_drop] at hitem
      exact .inr ⟨item, hitem, rfl⟩
    · exact absurd hbelow nofun

/-- The row of an entry that is in the view. -/
theorem IsOrderly.getElem?_rowsBelow (h : p.IsOrderly) (theme : Theme) (width : Nat) {k : Nat}
    (hk : p.selected = some k) {entry : Choice} (hentry : p.shown[k]? = some (.choice entry)) :
    (p.rowsBelow theme width)[k - p.scroll]? = some (selectedRow theme entry width) := by
  obtain ⟨hlow, hhigh⟩ := h.visible k hk
  have hlt := (List.getElem?_eq_some_iff.mp hentry).1
  have hlength := h.shown_eq.1
  have hshown : p.shown ≠ [] := List.ne_nil_of_length_pos (by omega)
  have hplace : p.scroll + (k - p.scroll) = k := by omega
  have hin : k - p.scroll < p.height - 1 := by
    unfold height
    omega
  unfold rowsBelow
  rw [if_neg hshown, List.getElem?_mapIdx, List.getElem?_take, if_pos hin, List.getElem?_drop, hplace,
    hentry, hk, decide_eq_true rfl]
  exact congrArg some (row_selected theme entry width)

theorem mem_items_of_shown {i : Nat} {item : Item} (h : p.shown[i]? = some item) : item ∈ p.items := by
  obtain ⟨k, -, hk⟩ := List.mem_filterMap.mp (List.mem_of_getElem? h)
  exact mem_of_item? hk

theorem isBare_emptyRow {e : Text} (he : Apart e) : IsBare e width (emptyRow theme width) :=
  (Omits.of_muted he (by decide +kernel) theme).isBare_fit he width

/-! ### Which row is highlighted -/

section

variable (hsigns : ∀ item ∈ p.items, item.HasCleanSigns)

section

variable (hesc : p.Lacks esc)
include hesc

/-- The row of the query is never highlighted. -/
theorem isBare_queryRow {e : Text} (he : Apart e) : IsBare e width (p.queryRow theme width) := by
  have hcount : esc ∉ Text.ofNat p.size ++ '/' :: Text.ofNat p.items.size :=
    List.not_mem_append (Text.esc_notMem_ofNat _)
      (List.not_mem_cons_of_ne_of_not_mem (by decide) (Text.esc_notMem_ofNat _))
  refine Omits.isBare_spread he ?_ (.of_muted he hcount theme) width
  split
  · exact .of_muted he (by decide +kernel) theme
  · exact ((Omits.of_notMem (by decide)).paint he.ne_foreground _).append
      (.of_notMem (esc_notMem_blank_cons hesc.query))

include hsigns

theorem rowWidth_of_mem_rowsBelow : ∀ row ∈ p.rowsBelow theme width, rowWidth row = width := by
  intro below hbelow
  obtain ⟨i, hi⟩ := List.getElem?_of_mem hbelow
  obtain ⟨-, rfl⟩ | ⟨item, hitem, rfl⟩ := exists_of_getElem?_rowsBelow hi
  · exact (isBare_emptyRow (apart_background .terminal)).width
  · have hmem := mem_items_of_shown hitem
    exact rowWidth_row (hesc.items item hmem) (hsigns item hmem) _

/-- Only the row of the selected entry is on the background of the selection. -/
theorem not_isHighlighted_of_ne {i : Nat} {below : Text}
    (hbelow : (p.rowsBelow theme width)[i]? = some below) (hi : p.selected ≠ some (p.scroll + i)) :
    ¬ theme.IsHighlighted below := by
  have hground := apart_background theme.selection
  obtain ⟨-, rfl⟩ | ⟨item, hitem, rfl⟩ := exists_of_getElem?_rowsBelow hbelow
  · exact (isBare_emptyRow hground).not_isHighlighted
  · have hmem := mem_items_of_shown hitem
    have hother : ¬ (decide (p.selected = some (p.scroll + i)) ∧ item.isChoice) :=
      fun hselected => hi (of_decide_eq_true hselected.1)
    exact (isBare_row hground (hesc.items item hmem) (hsigns item hmem) hother).not_isHighlighted

/-- Of the rows below it, the selected one is, and no other. -/
theorem IsOrderly.isHighlighted_iff (h : p.IsOrderly) (hwidth : 0 < width) {i : Nat} {below : Text}
    (hbelow : (p.rowsBelow theme width)[i]? = some below) :
    theme.IsHighlighted below ↔ p.selected = some (p.scroll + i) := by
  constructor
  · intro hseen
    refine Classical.byContradiction fun hi => ?_
    exact not_isHighlighted_of_ne hsigns hesc hbelow hi hseen
  · intro hi
    obtain ⟨entry, hentry⟩ := (h.isChoiceAt_iff_shown _).mp (h.selected _ hi)
    have hmem := mem_items_of_shown hentry
    have hrow := h.getElem?_rowsBelow theme width hi hentry
    rw [Nat.add_sub_cancel_left, hbelow] at hrow
    rw [Option.some.inj hrow]
    exact isHighlighted_selectedRow (hesc.items _ hmem) (hsigns _ hmem) hwidth

end

/-! ### The picture of a picker -/

variable (hline : p.Lacks '\n')
include hsigns hline

/-- No row has a newline in it. -/
theorem flat_of_mem_rowsBelow : ∀ row ∈ p.rowsBelow theme width, Flat row := by
  intro below hbelow
  obtain ⟨i, hi⟩ := List.getElem?_of_mem hbelow
  obtain ⟨-, rfl⟩ | ⟨item, hitem, rfl⟩ := exists_of_getElem?_rowsBelow hi
  · exact kind_flat.fit (kind_flat.muted (kind_flat.literal (by decide)) theme) width
  · have hmem := mem_items_of_shown hitem
    exact kind_row kind_flat theme (hline.items item hmem) (hsigns item hmem) _ width

theorem IsOrderly.rows_render (h : p.IsOrderly) (theme : Theme) (width : Nat) :
    (p.render theme width).rows = p.queryRow theme width :: p.rowsBelow theme width := by
  rw [h.render_eq, Text.rows_ofRows (List.cons_ne_nil _ _)]
  intro row hrow
  rcases List.mem_cons.mp hrow with rfl | hrow
  · exact kind_queryRow kind_flat hline theme width
  · exact flat_of_mem_rowsBelow hsigns hline row hrow

end

/-- What is drawn of a picker. -/
structure IsDrawn (p : Picker) (theme : Theme) (width : Nat) : Prop where
  /-- There are as many rows as the picker says. -/
  height : (p.render theme width).rows.length = p.height
  /-- Each of them fills the width. -/
  fills : ∀ row ∈ (p.render theme width).rows, rowWidth row = width
  /-- Below the line of the query are the rows of a stretch of what is shown. -/
  rows : (p.render theme width).rows = p.queryRow theme width :: p.rowsBelow theme width
  stretch : p.shown ≠ [] → p.scroll + (p.height - 1) ≤ p.shown.length
  /-- The selected entry has its row, which is highlighted as a whole. -/
  selected : ∀ k, p.selected = some k → ∃ entry row, p.shown[k]? = some (.choice entry) ∧
    row = selectedRow theme entry width ∧ (p.render theme width).rows[k - p.scroll + 1]? = some row ∧
    glyphs row = (strip row).map fun c => (c, theme.highlight)
  /-- No other row is highlighted. -/
  highlighted : 0 < width → ∀ k, p.selected = some k →
    ∀ i row, (p.render theme width).rows[i]? = some row →
      (theme.IsHighlighted row ↔ i = k - p.scroll + 1)
  unselected : p.selected = none → ∀ row ∈ (p.render theme width).rows, ¬ theme.IsHighlighted row

/-- An orderly list is drawn as it should be. -/
theorem IsOrderly.isDrawn (h : p.IsOrderly) (hsigns : ∀ item ∈ p.items, item.HasCleanSigns)
    (hesc : p.Lacks esc) (hline : p.Lacks '\n') : p.IsDrawn theme width := by
  have htop : IsBare theme.selection.background width (p.queryRow theme width) :=
    isBare_queryRow hesc (apart_background theme.selection)
  have hrows := h.rows_render hsigns hline theme width
  refine
    { height := ?_, fills := ?_, rows := hrows, stretch := h.stretch_le, selected := ?_,
      highlighted := ?_, unselected := ?_ }
  · rw [hrows, List.length_cons, h.length_rowsBelow]
  · rw [hrows]
    intro row hrow
    rcases List.mem_cons.mp hrow with rfl | hrow
    · exact htop.width
    · exact rowWidth_of_mem_rowsBelow hsigns hesc row hrow
  · intro k hk
    obtain ⟨entry, hentry⟩ := (h.isChoiceAt_iff_shown k).mp (h.selected k hk)
    have hmem := mem_items_of_shown hentry
    refine ⟨entry, _, hentry, rfl, ?_, glyphs_selectedRow (hesc.items _ hmem) (hsigns _ hmem)⟩
    rw [hrows, List.getElem?_cons_succ, h.getElem?_rowsBelow theme width hk hentry]
  · intro hwidth k hk i row hrow
    have hlow := (h.visible k hk).1
    rw [hrows] at hrow
    -- the first row is that of the query, the others count from the scroll
    cases i with
    | zero =>
      obtain rfl := Option.some.inj hrow
      exact iff_of_false htop.not_isHighlighted nofun
    | succ i =>
      rw [List.getElem?_cons_succ] at hrow
      rw [h.isHighlighted_iff hsigns hesc hwidth hrow, hk, Option.some_inj]
      omega
  · intro hnone row hrow
    rw [hrows] at hrow
    rcases List.mem_cons.mp hrow with rfl | hrow
    · exact htop.not_isHighlighted
    · obtain ⟨i, hi⟩ := List.getElem?_of_mem hrow
      exact not_isHighlighted_of_ne hsigns hesc hi (hnone ▸ nofun)

/-- **A picker shows its selection.**  Whatever was done to a picker over single rows without ESC: it
is drawn in as many rows as it says, all of them of the width, the rows of a stretch of what it shows
below the line of its query; and the row that is highlighted is that of the selected entry. -/
theorem isDrawn_run (title : Text) (ops : List Operation) (theme : Theme) (width : Nat)
    (hesc : (ops.foldl apply { title }).Lacks esc) (hline : (ops.foldl apply { title }).Lacks '\n')
    (hsigns : ∀ item ∈ (ops.foldl apply { title }).items, item.HasCleanSigns) :
    (ops.foldl apply { title }).IsDrawn theme width :=
  (isOrderly_run title ops).isDrawn hsigns hesc hline

/-- Two rows of four, the second of them selected, with a wide character, a subtitle and a badge that
fills the row alone. -/
theorem isDrawn_run_wide :
    let last : Choice :=
      { id := "2", label := ['世'], subtitle := some ['b'], icon := some ['*'],
        badge := some ['9', '9', '9'] }
    let ops : List Operation :=
      [.setItems [.heading ['世'], .choice { id := "1", label := ['a'] }, .heading [], .choice last],
        .setCapacity 2, .move 5]
    let p := ops.foldl apply {}
    (p.Lacks esc ∧ p.Lacks '\n' ∧ ∀ item ∈ p.items, item.HasCleanSigns) ∧ p.selected = some 3
      ∧ p.scroll = 2 ∧ p.IsDrawn .fallback 3 := by
  intro last ops p
  have hesc : p.Lacks esc := ⟨by decide, by decide +kernel⟩
  have hline : p.Lacks '\n' := ⟨by decide, by decide +kernel⟩
  have hsigns : ∀ item ∈ p.items, item.HasCleanSigns := by decide +kernel
  exact ⟨⟨hesc, hline, hsigns⟩, by decide +kernel, by decide +kernel,
    isDrawn_run [] ops .fallback 3 hesc hline hsigns⟩

end Picker

end AgentConsole
