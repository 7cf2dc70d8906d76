import AgentConsole.Proofs.Transcript.Drawn

/-!
# A theme only colours

The same document is laid out under two themes, side by side.  The two pages stay *alike*: what shows
of their rows and of their open lines is the same, and so is everything that decides how they go on
(`Page.Alike`).  A page decides by three things: how wide its margin is, whether its open line is
empty, and whether its last row is blank.  The first two cannot be seen in what shows, so they are
part of being alike; the third can.

Each act keeps two pages alike (`Page.Alike.act`), hence each segment and each document do.
-/

namespace AgentConsole.Transcript

open Styled

/-! ### Pages that show the same -/

/-- The rows of code show the same under any theme. -/
theorem map_strip_codeRows (a b : Theme) (width : Nat) {code : List Text}
    (hcode : ∀ line ∈ code, esc ∉ line) :
    (codeRows a width code).map strip = (codeRows b width code).map strip := by
  unfold codeRows
  rw [List.map_map, List.map_map]
  refine List.map_congr_left fun row hrow => ?_
  obtain ⟨line, hline, hrow⟩ := List.mem_flatMap.mp hrow
  have hsolid : Solid row :=
    (isClosed_of_mem_wrap (solid_of_notMem (hcode line hline)) (codeRoom_pos width) hrow).solid
  have hmuted (theme : Theme) : strip (' ' :: ' ' :: theme.muted row) = ' ' :: ' ' :: strip row := by
    rw [strip_cons (by decide), strip_cons (by decide)]
    exact congrArg (' ' :: ' ' :: ·) (hsolid.strip_paint theme.dim)
  exact (hmuted a).trans (hmuted b).symm

namespace Page

/-- Do the pages show the same, and do they go on in the same way? -/
structure Alike (p q : Page) : Prop where
  rows : p.rows.map strip = q.rows.map strip
  line : ∃ plain, Styled.Shows p.line plain ∧ Styled.Shows q.line plain
  line_nil : p.line = [] ↔ q.line = []
  place : p.place = q.place
  marker : p.marker = q.marker
  clean : ∀ m ∈ p.marker, Clean m

theorem alike_empty : Alike {} {} where
  rows := rfl
  line := ⟨[], .nil, .nil⟩
  line_nil := Iff.rfl
  place := rfl
  marker := rfl
  clean := fun _ hm => by cases hm

namespace Alike

variable {p q : Page} (h : p.Alike q) (a b : Theme) (width : Nat)
include h

/-! ### One act -/

theorem addRows {r s : List Text} (hrows : r.map strip = s.map strip) :
    Alike { p with rows := r ++ p.rows } { q with rows := s ++ q.rows } :=
  { h with rows := by rw [List.map_append, List.map_append, hrows, h.rows] }

/-- Whatever the themes, the rows that come out show the same. -/
theorem openRows : (p.openRows a width).map strip = (q.openRows b width).map strip := by
  obtain ⟨plain, hp, hq⟩ := h.line
  have hempty : p.line.isEmpty = q.line.isEmpty := by
    rw [Bool.eq_iff_iff, List.isEmpty_iff, List.isEmpty_iff]
    exact h.line_nil
  have hclean : ∀ m ∈ q.marker, Clean m := h.marker ▸ h.clean
  rw [map_strip_openRows hp h.clean, map_strip_openRows hq hclean, hempty, h.place, h.marker]

/-- What waits is flushed in the same way, as the margins show the same. -/
theorem flush : (p.flush a width).Alike (q.flush b width) := by
  have hrows : (p.openRows a width).reverse.map strip = (q.openRows b width).reverse.map strip := by
    rw [List.map_reverse, List.map_reverse, h.openRows a b width]
  rw [flush_eq, flush_eq]
  exact {
    rows := (h.addRows hrows).rows
    line := ⟨[], .nil, .nil⟩
    line_nil := Iff.rfl
    place := h.place
    marker := rfl
    clean := fun _ hm => by cases hm }

theorem blank : (p.blank a width).Alike (q.blank b width) := by
  have hflush := h.flush a b width
  have hrows := hflush.rows
  have hblank {r s : Text} (hrs : strip r = strip s) : isBlankRow r = isBlankRow s :=
    congrArg Text.isBlank hrs
  have hadded := hflush.addRows (r := [[]]) (s := [[]]) rfl
  unfold Page.blank
  dsimp only
  generalize p.flush a width = p' at hflush hrows hadded
  generalize q.flush b width = q' at hflush hrows hadded
  -- the last row is blank on both pages or on neither, since it shows the same
  rcases hp : p'.rows with - | ⟨r, rs⟩ <;> rcases hq : q'.rows with - | ⟨s, ss⟩
  · exact hflush
  · simp [hp, hq] at hrows
  · simp [hp, hq] at hrows
  · rw [hp, hq] at hrows hadded
    dsimp only
    rw [hblank (List.cons.inj hrows).1]
    split
    · exact hflush
    · exact hadded

/-- What is drawn shows the same under every theme. -/
theorem write {t : Theme → Text} (ht : Drawn (· ≠ esc) t) : (p.write (t a)).Alike (q.write (t b)) := by
  obtain ⟨plain, hp, hq⟩ := h.line
  obtain ⟨added, -, hshows⟩ := ht.shows
  refine { h with line := ⟨plain ++ added, hp.append (hshows a), hq.append (hshows b)⟩, line_nil := ?_ }
  show p.line ++ t a = [] ↔ q.line ++ t b = []
  rw [List.append_eq_nil_iff, List.append_eq_nil_iff, h.line_nil]
  exact and_congr_right' ⟨ht.eq_nil a b, ht.eq_nil b a⟩

/-- What is done to both pages leaves them alike. -/
theorem act {x : Act} (hx : x.IsDrawn (· ≠ esc)) : (p.act a width x).Alike (q.act b width x) := by
  have hflush := h.flush a b width
  -- colours differ, and everything else is decided by the place
  cases x with
  | write t => exact h.write a b hx
  | flush => exact hflush
  | blank => exact h.blank a b width
  | code content =>
    have hcode : ∀ line ∈ Text.lines content, esc ∉ line := fun line hline hmem =>
      hx esc (Text.mem_of_mem_lines hline hmem) rfl
    refine hflush.addRows ?_
    rw [List.map_reverse, List.map_reverse, map_strip_codeRows a b width hcode]
  | rule =>
    have hplain : esc ∉ List.replicate width '─' := fun hmem =>
      absurd (List.eq_of_mem_replicate hmem) (by decide)
    have hshows := Styled.Shows.of_notMem hplain
    refine hflush.addRows (r := [_]) (s := [_]) ?_
    rw [List.map_singleton, List.map_singleton, (hshows.paint a.border).strip,
      (hshows.paint b.border).strip]
  | enter place marker =>
    exact { hflush with
      place := rfl
      marker := rfl
      clean := fun m hm => (hx m hm).1 }

/-! ### All of a document -/

/-- A run of acts. -/
theorem foldl_act {xs : List Act} (hxs : ∀ x ∈ xs, x.IsDrawn (· ≠ esc)) :
    (xs.foldl (Page.act a width) p).Alike (xs.foldl (Page.act b width) q) := by
  induction xs generalizing p q with
  | nil => exact h
  | cons x xs ih =>
    exact ih (h.act a b width (hxs x List.mem_cons_self)) fun y hy => hxs y (List.mem_cons_of_mem _ hy)

/-- A segment does the same to both pages, since they stand at the same place. -/
theorem step {s : Segment} (hs : esc ∉ s.shown) :
    (p.step a width s).Alike (q.step b width s) := by
  have hchars : ∀ c ∈ s.shown, c ≠ esc ∧ ∀ d ∈ Unicode.upperChar c, d ≠ esc := fun c hc =>
    have hne : c ≠ esc := fun heq => hs (heq ▸ hc)
    ⟨hne, fun _ hd => Text.ne_esc_of_mem_upperChar hne hd⟩
  have hmarks : ' ' ≠ esc ∧ '(' ≠ esc ∧ ')' ≠ esc := by decide
  rw [step_eq_foldl_act, step_eq_foldl_act, ← h.place]
  exact h.foldl_act a b width (Segment.isDrawn_acts (by simp) hmarks hchars p.place)

/-- A run of segments. -/
theorem foldl {segments : List Segment} (hsegments : ∀ s ∈ segments, esc ∉ s.shown) :
    (segments.foldl (Page.step a width) p).Alike (segments.foldl (Page.step b width) q) := by
  induction segments generalizing p q with
  | nil => exact h
  | cons s segments ih =>
    exact ih (h.step a b width (hsegments s List.mem_cons_self))
      fun t ht => hsegments t (List.mem_cons_of_mem _ ht)

/-- At the end the rows show the same. -/
theorem finish : (p.finish a width).map strip = (q.finish b width).map strip := by
  have hdrop (rs : List Text) :
      (rs.dropWhile isBlankRow).map strip = (rs.map strip).dropWhile Text.isBlank := by
    rw [List.dropWhile_map]
    rfl
  unfold Page.finish
  rw [List.map_reverse, List.map_reverse, hdrop, hdrop, (h.flush a b width).rows]

end Alike

end Page

/-- **A theme only colours.**  Under any two themes a document has the same number of rows, and they
show the same. -/
theorem map_strip_rows_eq {segments : List Segment} (hplain : ∀ s ∈ segments, esc ∉ s.shown)
    (width : Nat) (a b : Theme) :
    (rows a segments width).length = (rows b segments width).length
      ∧ (rows a segments width).map strip = (rows b segments width).map strip := by
  have halike := Page.alike_empty.foldl a b (max 1 width) hplain
  have hrows : (rows a segments width).map strip = (rows b segments width).map strip :=
    halike.finish a b (max 1 width)
  refine ⟨?_, hrows⟩
  have hlength := congrArg List.length hrows
  rwa [List.length_map, List.length_map] at hlength

/-- A heading, and in a quote the first item of a list, on eight columns: in the colours of the
terminal, and in others. -/
theorem map_strip_rows_eq_item :
    let segments : List Segment :=
      [.heading 1 "Straße".toList, .quoteStart, .itemStart true 9 1, .bold [],
        .link "to go".toList "u".toList, .itemEnd, .listEnd, .quoteEnd]
    (∀ s ∈ segments, esc ∉ s.shown)
      ∧ (rows Theme.fallback segments 8).map strip
        = ["STRASSE", "", "│ 9. to", "│    go", "│    (u)"].map String.toList
      ∧ (rows Theme.fallback segments 8).length
        = (rows (Theme.named "Terminal ANSI") segments 8).length
      ∧ (rows Theme.fallback segments 8).map strip
        = (rows (Theme.named "Terminal ANSI") segments 8).map strip := by
  intro segments
  have hplain : ∀ s ∈ segments, esc ∉ s.shown := by decide
  have hrows : (rows Theme.fallback segments 8).map strip
      = ["STRASSE", "", "│ 9. to", "│    go", "│    (u)"].map String.toList := by
    decide +kernel
  exact ⟨hplain, hrows, map_strip_rows_eq hplain 8 Theme.fallback (Theme.named "Terminal ANSI")⟩

end AgentConsole.Transcript
