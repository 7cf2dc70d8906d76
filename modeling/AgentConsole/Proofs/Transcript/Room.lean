import AgentConsole.Proofs.Frame.Box
import AgentConsole.Proofs.Styled.Overflow
import AgentConsole.Proofs.Transcript.Drawn
import Mathlib.Data.List.Infix

/-!
# Rows of a document fit

The room of a line is measured once, from the margin of its later rows; the first row has the marker
of its item there instead.  That the first row fits as well is because the marker takes exactly the
columns by which the later rows are indented (`Place.rowWidth_lead`), and this lasts as long as the
marker waits: whatever changes the indentation ends the open line first.

So a page whose rows fit keeps fitting as long as its margin leaves a column for the text
(`Page.Fits.act`).  Rows of code and rules do not care about the margin: they fit by themselves.
-/

namespace AgentConsole.Transcript

open Styled

/-- Does the character take one column at most, without being the beginning of an escape sequence? -/
def IsNarrow (c : Char) : Prop := c ≠ esc ∧ Unicode.columns c ≤ 1

instance : DecidablePred IsNarrow := fun c => inferInstanceAs (Decidable (c ≠ esc ∧ _))

/-- The first row of an item begins with its marker, which is as wide as the rows below are set in.
-/
theorem Place.rowWidth_lead (a : Place) {marker : Option Text}
    (h : ∀ m ∈ marker, Clean m ∧ Styled.width m = a.indent) : rowWidth (a.lead marker) = a.columns := by
  cases marker with
  | none => exact a.rowWidth_continuation
  | some m =>
    obtain ⟨hclean, hwidth⟩ := h m rfl
    unfold Place.lead
    rw [rowWidth_append (solid_of_notMem a.clean_margin.1).settled, a.rowWidth_margin,
      ← width_of_notMem hclean.2, hwidth]
    rfl

/-! ### Rows that fit -/

/-- Narrow characters are wrapped to rows that fit. -/
theorem exists_shows_of_mem_wrap {t plain r : Text} {room : Nat} (ht : Styled.Shows t plain)
    (hnarrow : ∀ c ∈ plain, IsNarrow c) (hroom : 0 < room) (hr : r ∈ wrap t room) :
    ∃ shown, Styled.Shows r shown ∧ '\n' ∉ shown ∧ rowWidth shown ≤ room := by
  have hclosed := isClosed_of_mem_wrap ht.solid hroom hr
  have hfits := width_le_of_mem_wrap ht.solid hroom
    (fun c hc => (hnarrow c (ht.strip ▸ hc)).2) r hr
  refine ⟨strip r, ⟨hclosed.solid, rfl⟩, fun hmem => hclosed.single (mem_of_mem_strip hmem), ?_⟩
  rwa [rowWidth_strip, ← width_of_notMem hclosed.single]

section

variable (theme : Theme) {width : Nat}

/-- A row of code has two columns before it, and three are there. -/
theorem width_le_of_mem_codeRows (hwidth : 3 ≤ width) {code : List Text}
    (hcode : ∀ line ∈ code, ∀ c ∈ line, IsNarrow c) :
    ∀ row ∈ codeRows theme width code, Styled.width row ≤ width := by
  have hindent : Clean [' ', ' '] := by decide
  have hcolumns : rowWidth [' ', ' '] = 2 := by decide +kernel
  have hroom : codeRoom width + 2 ≤ width := by
    unfold codeRoom
    omega
  intro row hrow
  -- a row of code is set in by two columns, for which the wrapping has left room
  obtain ⟨line, hline, r, hr, rfl⟩ := exists_of_mem_codeRows hrow
  have hesc : esc ∉ line := fun hmem => (hcode line hline esc hmem).1 rfl
  obtain ⟨shown, hr, hsingle, hfits⟩ :=
    exists_shows_of_mem_wrap (.of_notMem hesc) (hcode line hline) (codeRoom_pos width) hr
  have hrow := (Styled.Shows.of_notMem hindent.1).width_append (hr.paint theme.dim)
    fun hmem => (List.mem_append.mp hmem).elim hindent.2 hsingle
  show Styled.width ([' ', ' '] ++ theme.muted r) ≤ width
  rw [show theme.muted r = theme.dim.paint r from rfl, hrow, hcolumns]
  omega

theorem width_rule : Styled.width (theme.border.paint (List.replicate width '─')) = width := by
  have hsign : '─' ∈ Frame.signs := by decide
  have hline : List.replicate width '─' = Text.times width ['─'] :=
    List.flatten_replicate_singleton.symm
  rw [hline, width_of_notMem (Frame.flat_line theme.border '─' hsign width),
    Frame.rowWidth_line _ _ hsign]

end

namespace Page

/-- Do all rows fit, and will the rows of the open line? -/
structure Fits (width : Nat) (p : Page) : Prop where
  rows : ∀ row ∈ p.rows, Styled.width row ≤ width
  line : ∃ plain, (∀ c ∈ plain, IsNarrow c) ∧ Styled.Shows p.line plain
  marker : ∀ m ∈ p.marker, Clean m ∧ Styled.width m = p.indent
  place : p.place.columns < width

theorem fits_empty {width : Nat} (h : 0 < width) : Fits width {} where
  rows := fun _ hrow => by cases hrow
  line := ⟨[], by simp, .nil⟩
  marker := fun _ hm => by cases hm
  place := h

namespace Fits

variable {width : Nat} {p : Page} (h : p.Fits width) (theme : Theme)
include h

theorem addRows {rs : List Text} (hrs : ∀ row ∈ rs, Styled.width row ≤ width) :
    Fits width { p with rows := rs ++ p.rows } :=
  { h with rows := fun row hrow => (List.mem_append.mp hrow).elim (hrs row) (h.rows row) }

/-- The rows of the open line fit, the first one as well as the others. -/
theorem width_le_of_mem_openRows : ∀ row ∈ p.openRows theme width, Styled.width row ≤ width := by
  obtain ⟨plain, hnarrow, hshows⟩ := h.line
  have hclean : ∀ m ∈ p.marker, Clean m := fun m hm => (h.marker m hm).1
  -- what stands before a row has the same columns before the first one and before the others
  have hstart (i : Nat) : ∃ start, '\n' ∉ start ∧ rowWidth start = p.place.columns
      ∧ Styled.Shows (if i = 0 then p.lead theme else p.continuation theme) start := by
    split
    · exact ⟨_, (p.place.clean_lead hclean).2, p.place.rowWidth_lead h.marker,
        shows_lead hclean theme⟩
    · exact ⟨_, p.place.clean_continuation.2, p.place.rowWidth_continuation,
        p.shows_continuation theme⟩
  intro row hrow
  unfold openRows at hrow
  split at hrow
  · cases hrow
  · rw [p.width_continuation] at hrow
    obtain ⟨i, hi, rfl⟩ := List.mem_mapIdx.mp hrow
    obtain ⟨shown, hr, hline, hfits⟩ :=
      exists_shows_of_mem_wrap hshows hnarrow (by omega) (List.getElem_mem hi)
    obtain ⟨start, hsingle, hcolumns, hstart⟩ := hstart i
    rw [hstart.width_append hr fun hmem => (List.mem_append.mp hmem).elim hsingle hline, hcolumns]
    have := h.place
    omega

/-- The row that waits is wrapped to the width, behind the margin. -/
theorem flush : (p.flush theme width).Fits width := by
  have hrows := (h.addRows fun row hrow =>
    h.width_le_of_mem_openRows theme row (List.mem_reverse.mp hrow)).rows
  rw [flush_eq]
  exact {
    rows := hrows
    line := ⟨[], by simp, .nil⟩
    marker := fun _ hm => by cases hm
    place := h.place }

/-- A blank row fits. -/
theorem blank : (p.blank theme width).Fits width := by
  have hflush := h.flush theme
  unfold Page.blank
  dsimp only
  split
  · split
    · exact hflush
    · have hrow : ∀ row ∈ [([] : Text)], Styled.width row ≤ width := by
        intro row hrow
        rw [List.mem_singleton.mp hrow]
        exact Nat.zero_le width
      exact hflush.addRows hrow
  · exact hflush

/-- What is written in narrow characters can be wrapped. -/
theorem write {t : Theme → Text} (ht : Drawn IsNarrow t) : (p.write (t theme)).Fits width := by
  obtain ⟨plain, hnarrow, hshows⟩ := h.line
  obtain ⟨added, hadded, ht⟩ := ht.shows
  exact { h with
    line := ⟨plain ++ added, fun c hc => (List.mem_append.mp hc).elim (hnarrow c) (hadded c),
      hshows.append (ht theme)⟩ }

/-! ### One act -/

/-- What is done to the page leaves it fitting, if the margin still leaves a column. -/
theorem act (hwidth : 3 ≤ width) {x : Act} (hx : x.IsDrawn IsNarrow)
    (hplace : (x.place p.place).columns < width) : (p.act theme width x).Fits width := by
  have hflush := h.flush theme
  -- only code, rules and what is flushed make rows
  cases x with
  | write t => exact h.write theme hx
  | flush => exact hflush
  | blank => exact h.blank theme
  | code content =>
    have hcode : ∀ line ∈ Text.lines content, ∀ c ∈ line, IsNarrow c := fun line hline c hc =>
      hx c (Text.mem_of_mem_lines hline hc)
    exact hflush.addRows fun row hrow =>
      width_le_of_mem_codeRows theme hwidth hcode row (List.mem_reverse.mp hrow)
  | rule =>
    have hrow : ∀ row ∈ [theme.border.paint (List.replicate width '─')],
        Styled.width row ≤ width := by
      intro row hrow
      rw [List.mem_singleton.mp hrow, width_rule]
    exact hflush.addRows hrow
  | enter place marker =>
    exact { hflush with
      marker := hx
      place := hplace }

/-! ### All of a document -/

/-- A run of acts. -/
theorem foldl_act (hwidth : 3 ≤ width) {xs : List Act} (hxs : ∀ x ∈ xs, x.IsDrawn IsNarrow)
    (hplaces : ∀ x ∈ xs, ∀ b : Place, b.columns < width → (x.place b).columns < width) :
    (xs.foldl (Page.act theme width) p).Fits width := by
  induction xs generalizing p with
  | nil => exact h
  | cons x xs ih =>
    have hact := h.act theme hwidth (hxs x List.mem_cons_self)
      (hplaces x List.mem_cons_self p.place h.place)
    exact ih hact (fun y hy => hxs y (List.mem_cons_of_mem _ hy))
      fun y hy => hplaces y (List.mem_cons_of_mem _ hy)

/-- A segment leaves the page fitting, if the margin behind it leaves a column. -/
theorem step (hwidth : 3 ≤ width) {s : Segment}
    (hs : ∀ c ∈ s.shown, IsNarrow c ∧ ∀ d ∈ Unicode.upperChar c, Unicode.columns d ≤ 1)
    (hafter : (p.place.after s).columns < width) : (p.step theme width s).Fits width := by
  have hchars : ∀ c ∈ s.shown, IsNarrow c ∧ ∀ d ∈ Unicode.upperChar c, IsNarrow d :=
    fun c hc => ⟨(hs c hc).1, fun d hd =>
      ⟨Text.ne_esc_of_mem_upperChar (hs c hc).1.1 hd, (hs c hc).2 d hd⟩⟩
  have hmarks : IsNarrow ' ' ∧ IsNarrow '(' ∧ IsNarrow ')' := by decide +kernel
  rw [step_eq_foldl_act]
  refine h.foldl_act theme hwidth
    (Segment.isDrawn_acts (fun hesc => hesc.1 rfl) hmarks hchars p.place) fun x hx b hb => ?_
  rcases place_of_mem_acts s p.place x hx b with heq | heq
  · rwa [heq]
  · rwa [heq]

/-- A run of segments, as long as every place on the way leaves room. -/
theorem foldl (hwidth : 3 ≤ width) {segments : List Segment}
    (hsegments : ∀ s ∈ segments, ∀ c ∈ s.shown,
      IsNarrow c ∧ ∀ d ∈ Unicode.upperChar c, Unicode.columns d ≤ 1)
    (hroom : ∀ before, before <+: segments → (before.foldl Place.after p.place).columns < width) :
    (segments.foldl (Page.step theme width) p).Fits width := by
  induction segments generalizing p with
  | nil => exact h
  | cons s segments ih =>
    have hafter : (p.place.after s).columns < width :=
      hroom [s] (List.cons_prefix_cons.mpr ⟨rfl, List.nil_prefix⟩)
    refine ih (h.step theme hwidth (hsegments s List.mem_cons_self) hafter)
      (fun t ht => hsegments t (List.mem_cons_of_mem _ ht)) fun before hbefore => ?_
    rw [place_step]
    exact hroom (s :: before) (List.cons_prefix_cons.mpr ⟨rfl, hbefore⟩)

end Fits

/-! ### The last row -/

theorem mem_of_mem_finish {theme : Theme} {width : Nat} {p : Page} {row : Text}
    (h : row ∈ p.finish theme width) : row ∈ (p.flush theme width).rows :=
  (List.dropWhile_sublist _).subset (List.mem_reverse.mp h)

/-- The last row that is left is not blank. -/
theorem not_isBlankRow_of_getLast? {theme : Theme} {width : Nat} {p : Page} {row : Text}
    (h : (p.finish theme width).getLast? = some row) : ¬isBlankRow row := by
  unfold finish at h
  rw [List.getLast?_reverse] at h
  have hhead := List.head?_dropWhile_not isBlankRow (p.flush theme width).rows
  rw [h] at hhead
  simpa using hhead

end Page

/-- **The rows of a document fit**, and the last of them is not blank.  Its characters have to be
narrow, those of their upper case too, and before each segment and behind the last one the margin
has to leave a column for the text. -/
theorem rows_fit {segments : List Segment} {width : Nat} (theme : Theme)
    (hnarrow : ∀ s ∈ segments, ∀ c ∈ s.shown,
      IsNarrow c ∧ ∀ d ∈ Unicode.upperChar c, Unicode.columns d ≤ 1)
    (hwidth : 3 ≤ width)
    (hroom : ∀ before, before <+: segments → (before.foldl Place.after {}).columns < width) :
    (∀ row ∈ rows theme segments width, Styled.width row ≤ width)
      ∧ ∀ row, (rows theme segments width).getLast? = some row → ¬isBlankRow row := by
  have hmax : max 1 width = width := by omega
  have hfits := (Page.fits_empty (by omega)).foldl theme hwidth hnarrow hroom
  unfold rows
  dsimp only
  rw [hmax]
  refine ⟨fun row hrow => ?_, fun row => Page.not_isBlankRow_of_getLast?⟩
  exact (hfits.flush theme).rows row (Page.mem_of_mem_finish hrow)

/-- A list in a list in a quote, on eight columns: at most six of them are left of the text. -/
theorem rows_fit_nested :
    let segments : List Segment :=
      [.heading 1 "Straße".toList, .quoteStart, .itemStart true 9 1, .text "one two".toList,
        .itemStart false 1 2, .code "a b".toList, .listEnd, .listEnd, .quoteEnd, .rule]
    (∀ s ∈ segments, ∀ c ∈ s.shown,
        IsNarrow c ∧ ∀ d ∈ Unicode.upperChar c, Unicode.columns d ≤ 1)
      ∧ 3 ≤ 8
      ∧ (∀ before, before <+: segments → (before.foldl Place.after {}).columns < 8)
      ∧ (rows Theme.fallback segments 8).map strip
        = ["STRASSE", "", "│ 9. one", "│    two", "│   • a", "│     b", "", "────────"].map
          String.toList
      ∧ (∀ row ∈ rows Theme.fallback segments 8, Styled.width row ≤ 8)
      ∧ ∀ row, (rows Theme.fallback segments 8).getLast? = some row → ¬isBlankRow row := by
  intro segments
  -- both conditions range over finitely many characters and places
  have hnarrow : ∀ s ∈ segments, ∀ c ∈ s.shown,
      IsNarrow c ∧ ∀ d ∈ Unicode.upperChar c, Unicode.columns d ≤ 1 := by
    have hall : segments.all fun s => s.shown.all fun c =>
        IsNarrow c && (Unicode.upperChar c).all (Unicode.columns · ≤ 1) := by
      decide +kernel
    simpa only [List.all_eq_true, Bool.and_eq_true, decide_eq_true_eq] using hall
  have hroom : ∀ before, before <+: segments → (before.foldl Place.after {}).columns < 8 := by
    have hall : ∀ before ∈ segments.inits, (before.foldl Place.after {}).columns < 8 := by
      decide +kernel
    exact fun before hbefore => hall before ((List.mem_inits _ _).mpr hbefore)
  exact ⟨hnarrow, by decide, hroom, by decide +kernel,
    rows_fit Theme.fallback hnarrow (by decide) hroom⟩

end AgentConsole.Transcript
