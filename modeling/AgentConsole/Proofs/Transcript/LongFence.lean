import AgentConsole.Proofs.Transcript.Code
import AgentConsole.Proofs.Transcript.Fence

/-!
# Fences that are longer than a block

A block of the log has sixty-four lines at most, so a longer fence is rendered in pieces, each of
them behind the line that opened the fence.  The pieces ought to make up what the whole fence looks
like.

They do, but for one thing: a document is shown without the blank rows at its end, and so is each of
the pieces.  Blank rows of code that stand where a piece ends are lost unless all that follows is
blank too.

While the lines of code come in, all that counts is which of them are in the open block
(`Log.IsInside`): each one either comes to them, or fills the block
(`Log.IsInside.push_cases`).  The rows are therefore those of the pieces (`piecewise`), and
comparing them with the rows of the whole is a matter of lists (`piecewise_eq_iff`).
-/

namespace AgentConsole.Transcript

open CommonMark (Fence)
open Styled

/-! ### In pieces -/

section

variable (theme : Theme) (width : Nat)

/-- The rows of some lines of code as they came in. -/
def rawRows (code : List Text) : List Text := codeRows theme width (code.map sanitize)

/-- What shows of a document of these lines of code. -/
def trimmedRows (code : List Text) : List Text := (rawRows theme width code).rdropWhile isBlankRow

/-- What shows of lines of code that are rendered in pieces, when the open block has `n` lines and
`code` are those of them that are code. -/
def piecewise (n : Nat) (code : List Text) : List Text → List Text
  | [] => trimmedRows theme width code
  | line :: rest =>
    if n + 1 = longestBlock then trimmedRows theme width (code ++ [line]) ++ piecewise 0 [] rest
    else piecewise (n + 1) (code ++ [line]) rest

/-- Is the last row that the line takes a blank one? -/
def EndsBlank (line : Text) : Prop :=
  (wrap (sanitize line) (codeRoom width)).getLast?.any isBlankRow

instance : DecidablePred (EndsBlank width) := fun line =>
  inferInstanceAs
    (Decidable ((wrap (sanitize line) (codeRoom width)).getLast?.any isBlankRow = true))

/-- Does something show of one of the lines? -/
def Shows (code : List Text) : Prop := ∃ line ∈ code, ¬Text.isBlank (sanitize line)

instance : DecidablePred Shows := fun code =>
  inferInstanceAs (Decidable (∃ line ∈ code, ¬Text.isBlank (sanitize line)))

/-- Does no line that fills a block end in a blank row, if something shows of the lines after it?
The open block has `n` lines before these. -/
def IsSeamless (n : Nat) (code : List Text) : Prop :=
  ∀ i (hi : i < code.length), (n + i + 1) % longestBlock = 0 → Shows (code.drop (i + 1)) →
    ¬EndsBlank width code[i]

instance (n : Nat) : DecidablePred (IsSeamless width n) := fun code =>
  inferInstanceAs (Decidable (∀ i (hi : i < code.length), (n + i + 1) % longestBlock = 0 →
    Shows (code.drop (i + 1)) → ¬EndsBlank width code[i]))

end

variable (theme : Theme) {width : Nat}

theorem rawRows_append (width : Nat) (a b : List Text) :
    rawRows theme width (a ++ b) = rawRows theme width a ++ rawRows theme width b := by
  unfold rawRows
  rw [List.map_append, codeRows_append]

theorem isSeamless_nil (n : Nat) : IsSeamless width n [] :=
  fun _ hi => absurd hi (Nat.not_lt_zero _)

/-- The first line by itself. -/
theorem isSeamless_cons {n : Nat} {line : Text} {rest : List Text} :
    IsSeamless width n (line :: rest) ↔
      ((n + 1) % longestBlock = 0 → Shows rest → ¬EndsBlank width line)
        ∧ IsSeamless width (n + 1) rest := by
  unfold IsSeamless
  -- the seam behind the first line, and the seams behind the others, counted from one more
  constructor
  · intro h
    refine ⟨h 0 (Nat.succ_pos _), fun i hi hfull => ?_⟩
    refine h (i + 1) (Nat.succ_lt_succ hi) ?_
    rw [← hfull]
    congr 1
    omega
  · rintro ⟨hfirst, hlater⟩ i hi hfull
    rcases i with - | i
    · exact hfirst hfull
    · refine hlater i (Nat.lt_of_succ_lt_succ hi) ?_
      rw [← hfull]
      congr 1
      omega

/-- A full block is as good as an empty one. -/
theorem isSeamless_full {rest : List Text} :
    IsSeamless width longestBlock rest ↔ IsSeamless width 0 rest := by
  unfold IsSeamless
  refine forall₂_congr fun i hi => ?_
  rw [Nat.add_assoc, Nat.add_mod_left, Nat.zero_add]

/-- Something shows of some lines exactly if not all of their rows are blank. -/
theorem shows_iff (width : Nat) {code : List Text} (h : ∀ line ∈ code, '\n' ∉ line) :
    Shows code ↔ ∃ row ∈ rawRows theme width code, ¬isBlankRow row := by
  have hplain : ∀ line ∈ code.map sanitize, Text.IsPlain line := by
    intro line hline
    obtain ⟨l, hl, rfl⟩ := List.mem_map.mp hline
    exact Text.isPlain_sanitize (h l hl)
  have hall := forall_isBlankRow_codeRows_iff theme width hplain
  unfold Shows rawRows
  rw [← not_iff_not]
  simpa using hall.symm

/-- Nothing is lost at the end of a line that does not end in a blank row. -/
theorem trimmedRows_concat_iff (code : List Text) {line : Text} (h : '\n' ∉ line) :
    trimmedRows theme width (code ++ [line]) = rawRows theme width (code ++ [line])
      ↔ ¬EndsBlank width line := by
  have hplain := Text.isPlain_sanitize h
  obtain ⟨before, last, hwrap⟩ : ∃ before last,
      wrap (sanitize line) (codeRoom width) = before ++ [last] :=
    ⟨_, _, wrap_eq _ (codeRoom_pos width)⟩
  have hlast : last ∈ wrap (sanitize line) (codeRoom width) :=
    hwrap ▸ List.mem_append_right before List.mem_cons_self
  have hsolid := (solid_of_mem_wrap hplain (codeRoom_pos width) hlast).1
  have hrows : rawRows theme width (code ++ [line])
      = (rawRows theme width code ++ before.map fun row => ' ' :: ' ' :: theme.muted row)
          ++ [' ' :: ' ' :: theme.muted last] := by
    rw [rawRows_append]
    unfold rawRows codeRows
    simp [hwrap]
  -- only the last row of the line can be lost
  have hends : EndsBlank width line ↔ isBlankRow last := by
    unfold EndsBlank
    simp [hwrap]
  have hblank : isBlankRow (' ' :: ' ' :: theme.muted last) = isBlankRow last :=
    isBlankRow_muted theme hsolid
  unfold trimmedRows
  rw [List.rdropWhile_eq_self_iff, hrows, hends]
  simp [hblank]

/-- What shows of the lines before some others. -/
theorem trimmedRows_append (width : Nat) (a : List Text) {b : List Text}
    (h : ∀ line ∈ b, '\n' ∉ line) :
    trimmedRows theme width (a ++ b)
      = if Shows b then rawRows theme width a ++ trimmedRows theme width b
        else trimmedRows theme width a := by
  unfold trimmedRows
  have hshows := shows_iff theme width h
  rw [rawRows_append]
  split
  · rename_i hsome
    exact List.rdropWhile_append_of_exists (hshows.mp hsome)
  · rename_i hnone
    refine List.rdropWhile_append_of_all fun row hrow => ?_
    exact not_not.mp fun hrow' => hnone (hshows.mpr ⟨row, hrow, hrow'⟩)

/-- Lines of which nothing shows have no rows. -/
theorem trimmedRows_of_not_shows (width : Nat) {code : List Text} (h : ∀ line ∈ code, '\n' ∉ line)
    (hblank : ¬Shows code) : trimmedRows theme width code = [] := by
  have hnil := trimmedRows_append theme width [] h
  rw [if_neg hblank] at hnil
  exact hnil

/-- In pieces no more shows than in one. -/
theorem piecewise_sublist (width n : Nat) (code : List Text) {rest : List Text}
    (h : ∀ line ∈ rest, '\n' ∉ line) :
    (piecewise theme width n code rest).Sublist (trimmedRows theme width (code ++ rest)) := by
  induction rest generalizing n code with
  | nil => rw [piecewise, List.append_nil]
  | cons line rest ih =>
    have hrest : ∀ l ∈ rest, '\n' ∉ l := fun l hl => h l (List.mem_cons_of_mem _ hl)
    have hwhole : code ++ line :: rest = (code ++ [line]) ++ rest := by simp
    rw [piecewise, hwhole]
    split
    · -- the block is full: its blank rows at the end are gone, and the rest begins anew
      have hlater := ih 0 [] hrest
      rw [List.nil_append] at hlater
      rw [trimmedRows_append theme width _ hrest]
      split
      · exact (List.rdropWhile_prefix isBlankRow _).sublist.append hlater
      · rename_i hblank
        rw [trimmedRows_of_not_shows theme width hrest hblank] at hlater
        rw [List.sublist_nil.mp hlater, List.append_nil]
    · exact ih (n + 1) (code ++ [line]) hrest

/-- **The pieces are the whole** exactly if they are seamless. -/
theorem piecewise_eq_iff {n : Nat} (hn : n < longestBlock) (code : List Text) {rest : List Text}
    (h : ∀ line ∈ rest, '\n' ∉ line) :
    piecewise theme width n code rest = trimmedRows theme width (code ++ rest)
      ↔ IsSeamless width n rest := by
  induction rest generalizing n code with
  | nil =>
    rw [piecewise, List.append_nil]
    exact iff_of_true rfl (isSeamless_nil n)
  | cons line rest ih =>
    have hline : '\n' ∉ line := h line List.mem_cons_self
    have hrest : ∀ l ∈ rest, '\n' ∉ l := fun l hl => h l (List.mem_cons_of_mem _ hl)
    have hwhole : code ++ line :: rest = (code ++ [line]) ++ rest := by simp
    rw [piecewise, hwhole, isSeamless_cons]
    split
    · -- the line fills the block
      rename_i hfull
      have hzero : (n + 1) % longestBlock = 0 := by rw [hfull, Nat.mod_self]
      have hsub := piecewise_sublist theme width 0 [] hrest
      have hlater : piecewise theme width 0 [] rest = trimmedRows theme width rest
          ↔ IsSeamless width (n + 1) rest := by
        rw [hfull, isSeamless_full]
        exact ih (Nat.zero_lt_succ 63) [] hrest
      rw [List.nil_append] at hsub
      rw [trimmedRows_append theme width _ hrest, ← hlater]
      by_cases hshows : Shows rest
      · rw [if_pos hshows, ← trimmedRows_concat_iff theme code hline]
        have hfront :
            trimmedRows theme width (code ++ [line]) <+: rawRows theme width (code ++ [line]) :=
          List.rdropWhile_prefix isBlankRow _
        constructor
        · -- neither part can be longer on the left, so each of the two is the same
          intro heq
          have hlength := congrArg List.length heq
          rw [List.length_append, List.length_append] at hlength
          have hle := hfront.length_le
          have hle' := hsub.length_le
          obtain ⟨hfirst, hsecond⟩ := List.append_inj heq (by omega)
          exact ⟨fun _ _ => hfirst, hsecond⟩
        · rintro ⟨hfirst, hsecond⟩
          rw [hfirst hzero hshows, hsecond]
      · -- nothing shows after the block, neither in pieces nor in one
        have hnone := trimmedRows_of_not_shows theme width hrest hshows
        rw [hnone] at hsub hlater ⊢
        rw [if_neg hshows, List.sublist_nil.mp hsub, List.append_nil]
        simp [hshows]
    · rename_i hmore
      have hlt : n + 1 < longestBlock := by omega
      have hnot : (n + 1) % longestBlock ≠ 0 := by
        rw [Nat.mod_eq_of_lt hlt]
        exact Nat.succ_ne_zero n
      rw [ih hlt (code ++ [line]) hrest]
      simp [hnot]

/-! ### Inside the fence -/

namespace Log

/-- Is the log inside the fence that `opener` opened, with these lines of code in its open
block?  No blank line ended a block before. -/
structure IsInside (opener : Text) (code : List Text) (log : Log) : Prop where
  fence : ∃ run, log.fence = some ⟨run, opener⟩
  gap : log.gap = false
  text : log.carried.toList ++ log.openLines = opener :: code

/-- The rows of an open block that follows no gap. -/
theorem rows_renderOpen_of_gap {log : Log} (canvas : Canvas) (h : log.gap = false) :
    (log.renderOpen canvas).rows = log.closedRows ++ log.rendered canvas := by
  rw [renderOpen_eq, h]
  rfl

namespace IsInside

variable {canvas : Canvas} {opener line closer : Text} {code : List Text} {log : Log}
  (h : log.IsInside opener code)
include h

theorem receive (hline : fenceRun? line = none) :
    (log.receive line).IsInside opener (code ++ [line]) where
  fence := by
    obtain ⟨run, hrun⟩ := h.fence
    refine ⟨run, ?_⟩
    show fenceAfter log.fence line = _
    rw [hrun, fenceAfter_of_none hline]
  gap := h.gap
  text := by
    show log.carried.toList ++ (log.openLines ++ [line]) = _
    rw [← List.append_assoc, h.text]
    rfl

/-- Inside a fence no line ends a block by being blank. -/
theorem isGap : log.isGap line = false := by
  obtain ⟨run, hrun⟩ := h.fence
  unfold Log.isGap
  rw [hrun]
  exact Bool.and_false _

theorem close (canvas : Canvas) : ((log.renderOpen canvas).close false).IsInside opener [] where
  fence := h.fence
  gap := by
    show (if _ then log.gap || false else false) = false
    rw [h.gap]
    exact ite_self false
  text := by
    obtain ⟨run, hrun⟩ := h.fence
    show (log.fence.map (·.opener)).toList ++ [] = [opener]
    rw [hrun]
    rfl

/-- A line of code that fills the open block, or comes to it. -/
theorem push_cases (hline : fenceRun? line = none) (canvas : Canvas) :
    (longestBlock ≤ log.openLines.length + 1 ∧ (log.push canvas line).IsInside opener [] ∧
      (log.push canvas line).openLines.length = 0 ∧
      (log.push canvas line).closedRows = log.closedRows ++ (log.receive line).rendered canvas) ∨
    (log.openLines.length + 1 < longestBlock ∧
      (log.push canvas line).IsInside opener (code ++ [line]) ∧
      (log.push canvas line).openLines.length = log.openLines.length + 1 ∧
      (log.push canvas line).closedRows = log.closedRows) := by
  have hreceived := h.receive hline
  have hlength : (log.receive line).openLines.length = log.openLines.length + 1 :=
    List.length_append
  rcases Log.push_cases canvas log line with ⟨hgap, -⟩ | ⟨-, hfull, heq⟩ | ⟨-, hshort, heq⟩
  · -- a blank line, which is no gap here
    rw [hreceived.isGap] at hgap
    cases hgap
  · rw [heq]
    refine .inl ⟨hlength ▸ hfull, hreceived.close canvas, rfl, ?_⟩
    exact rows_renderOpen_of_gap canvas hreceived.gap
  · rw [heq]
    refine .inr ⟨hlength ▸ hshort, ⟨hreceived.fence, hreceived.gap, hreceived.text⟩, hlength, rfl⟩

/-- The line that closes the fence is rendered with the code in front of it. -/
theorem rows_push_closer (hcloser : ¬Text.isBlank closer) (canvas : Canvas) :
    (log.push canvas closer).rows
      = log.closedRows ++ canvas.rows (Text.ofRows (opener :: (code ++ [closer]))) := by
  have hopen : (log.receive closer).openText?
      = some (Text.ofRows (opener :: (code ++ [closer]))) := by
    have htext : (log.receive closer).carried.toList ++ (log.receive closer).openLines
        = opener :: (code ++ [closer]) := by
      show log.carried.toList ++ (log.openLines ++ [closer]) = _
      rw [← List.append_assoc, h.text]
      rfl
    unfold openText?
    rw [if_neg, htext]
    show ¬(log.openLines ++ [closer]).all Text.isBlank = true
    simp [hcloser]
  have hrendered : (log.receive closer).rendered canvas
      = canvas.rows (Text.ofRows (opener :: (code ++ [closer]))) := by
    unfold rendered
    rw [hopen]
    rfl
  have hgap : (log.receive closer).gap = false := h.gap
  have hrows := rows_renderOpen_of_gap canvas hgap
  rw [hrendered] at hrows
  -- the closer is not blank, so it is rendered, whether the block is full or not
  rcases Log.push_cases canvas log closer with ⟨hgap, -⟩ | ⟨-, -, heq⟩ | ⟨-, -, heq⟩
  · unfold Log.isGap at hgap
    exact absurd (Bool.and_eq_true_iff.mp hgap).1 hcloser
  · rw [heq, rows_close]
    exact hrows
  · rw [heq]
    exact hrows

end IsInside

end Log

/-! ### A whole fence -/

/-- A fence of three backticks. -/
def ticks : Fence := ⟨Fence.backtick, 3, []⟩

/-- The lines of a fence of three backticks with some words behind it. -/
def fencedLines (info : Text) (code : List Text) (closer : Text) : List Text :=
  (List.replicate 3 Fence.backtick ++ info) :: (code ++ [closer])

/-- A fence of three backticks as it comes in: no backtick is behind them, no line of code begins
with a run, and the last line closes the fence. -/
structure IsFence (info : Text) (code : List Text) (closer : Text) : Prop where
  words : Fence.backtick ∉ info
  runs : ∀ line ∈ code, fenceRun? line = none
  closes : Fence.after (some ticks) closer = none
  flat : ∀ line ∈ fencedLines info code closer, '\n' ∉ line

/-- Is the fence read as it came in when it has been sanitized?  No escape sequence runs on into the
next line, and no line of code closes the fence without its controls. -/
structure IsSettled (info : Text) (code : List Text) (closer : Text) : Prop where
  finished : ∀ line ∈ fencedLines info code closer, EscapeComplete line
  stays : ∀ line ∈ code, Fence.after (some ticks) (sanitize line) ≠ none

section

variable {info closer : Text} {code : List Text}

/-- What closes the fence does not depend on its words. -/
theorem after_opened_iff (words line : Text) :
    Fence.after (some (Fence.opened Fence.backtick 3 words)) line = none ↔
      Fence.after (some ticks) line = none :=
  Fence.after_eq_none_iff_of_eq rfl rfl

theorem not_isBlank_of_mem {line : Text} (h : Fence.backtick ∈ line) : ¬Text.isBlank line := by
  intro hblank
  exact absurd (List.all_eq_true.mp hblank _ h) (by decide)

/-- The line that closes the fence, without the tabs. -/
theorem closes_sanitize (h : Fence.after (some ticks) closer = none) :
    Fence.after (some ticks) (sanitize closer) = none := by
  have hmark : ticks.mark = Fence.backtick ∨ ticks.mark = '~' := .inl rfl
  obtain ⟨indent, length, rest, rfl, hindent, hlong, htrailing⟩ :=
    (Fence.after_some_iff hmark (Nat.le_refl 3)).mp h
  refine (Fence.after_some_iff hmark (Nat.le_refl 3)).mpr
    ⟨indent, length, rest.map fun c => if c = '\t' then ' ' else c, ?_, hindent, hlong, ?_⟩
  -- the line is made of spaces, marks and tabs, so only its tabs change
  · rw [sanitize_eq_map]
    · simp [Text.spaces, ticks, Fence.backtick]
    · intro c hc
      rcases List.mem_append.mp hc with hc | hc
      · rw [Text.mem_spaces hc]
        exact .inr rfl
      · rcases List.mem_append.mp hc with hc | hc
        · rw [List.eq_of_mem_replicate hc]
          exact .inr rfl
        · rcases htrailing c hc with rfl | rfl
          · exact .inr rfl
          · exact .inl rfl
  · intro c hc
    obtain ⟨d, hd, rfl⟩ := List.mem_map.mp hc
    rcases htrailing d hd with rfl | rfl
    · exact .inl rfl
    · exact .inl rfl

variable (h : IsFence info code closer)
include h

theorem IsFence.flat_code : ∀ line ∈ code, '\n' ∉ line := fun line hline =>
  h.flat line (List.mem_cons_of_mem _ (List.mem_append_left _ hline))

theorem IsFence.flat_closer : '\n' ∉ closer :=
  h.flat closer (List.mem_cons_of_mem _ (List.mem_append_right _ List.mem_cons_self))

theorem IsFence.isOpener : Fence.IsOpener Fence.backtick 3 (sanitize info) := by
  have hflat : '\n' ∉ info := fun hmem => h.flat _ List.mem_cons_self (List.mem_append_right _ hmem)
  have hwords : Fence.backtick ∉ sanitize info := by
    intro hmem
    rcases Text.mem_sanitize hmem with hmem | heq
    · exact h.words hmem
    · exact absurd heq (by decide)
  exact ⟨⟨.inl rfl, Nat.le_refl 3, fun hhead => hwords (List.mem_of_mem_head? hhead)⟩,
    fun _ => hwords, Text.isPlain_sanitize hflat⟩

theorem IsFence.not_isBlank_closer : ¬Text.isBlank closer := by
  obtain ⟨indent, length, rest, rfl, -, hlong, -⟩ :=
    (Fence.after_some_iff (.inl rfl) (Nat.le_refl 3)).mp h.closes
  have hmem : Fence.backtick ∈ List.replicate length ticks.mark :=
    List.mem_replicate.mpr ⟨Nat.ne_of_gt (Nat.lt_of_lt_of_le (by decide) hlong), rfl⟩
  exact not_isBlank_of_mem (List.mem_append_right _ (List.mem_append_left _ hmem))

/-- After its first line the log is inside the fence. -/
theorem IsFence.isInside (canvas : Canvas) :
    (Log.push canvas {} (List.replicate 3 Fence.backtick ++ info)).IsInside
        (List.replicate 3 Fence.backtick ++ info) [] ∧
      (Log.push canvas {} (List.replicate 3 Fence.backtick ++ info)).openLines.length = 1 ∧
      (Log.push canvas {} (List.replicate 3 Fence.backtick ++ info)).closedRows = [] := by
  have hrun : Fence.IsRun Fence.backtick 3 info :=
    ⟨.inl rfl, Nat.le_refl 3, fun hhead => h.words (List.mem_of_mem_head? hhead)⟩
  have hbegins := begins_of_spaces (Nat.zero_le 3) hrun
  have hfence : fenceAfter none (List.replicate 3 Fence.backtick ++ info)
      = some ⟨List.replicate 3 Fence.backtick, List.replicate 3 Fence.backtick ++ info⟩ :=
    hbegins.fenceAfter_none
  -- the first line opens the fence and begins a block of its own
  rcases Log.push_cases canvas {} (List.replicate 3 Fence.backtick ++ info) with
    ⟨hgap, -⟩ | ⟨-, hfull, -⟩ | ⟨-, -, heq⟩
  · -- the line is not blank
    have hmem : Fence.backtick ∈ List.replicate 3 Fence.backtick ++ info := List.mem_cons_self
    exact absurd (Bool.and_eq_true_iff.mp hgap).1 (not_isBlank_of_mem hmem)
  · have hone : (64 : Nat) ≤ 1 := hfull
    exact absurd hone (by decide)
  · rw [heq]
    exact ⟨⟨⟨_, hfence⟩, rfl, rfl⟩, rfl, rfl⟩

variable (hsettled : IsSettled info code closer)
include hsettled

/-- All lines of code stand in the document as code. -/
theorem IsFence.isCode {line : Text} (hline : line ∈ code) :
    CommonMark.IsCode (Fence.opened Fence.backtick 3 (sanitize info)) (sanitize line) where
  plain := Text.isPlain_sanitize (h.flat_code line hline)
  stays hnone := by
    refine hsettled.stays line hline ?_
    exact (after_opened_iff _ _).mp hnone

/-- Some lines behind the first one, sanitized. -/
theorem IsFence.sanitize_ofRows {lines : List Text}
    (hlines : ∀ line ∈ lines, line ∈ fencedLines info code closer) :
    sanitize (Text.ofRows ((List.replicate 3 Fence.backtick ++ info) :: lines))
      = Text.ofRows ((List.replicate 3 Fence.backtick ++ sanitize info) :: lines.map sanitize) := by
  have hticks : Settled (List.replicate 3 Fence.backtick) := (solid_of_notMem (by decide)).settled
  have hsolid : ∀ line ∈ (List.replicate 3 Fence.backtick ++ info) :: lines, Solid line := by
    intro line hline
    have hmem : line ∈ fencedLines info code closer := by
      rcases List.mem_cons.mp hline with rfl | hline
      · exact List.mem_cons_self
      · exact hlines line hline
    exact (hsettled.finished line hmem).solid (h.flat line hmem)
  rw [Styled.sanitize_ofRows hsolid, List.map_cons, sanitize_append hticks]
  rfl

variable (theme : Theme) (width : Nat) {lines : List Text} (hlines : ∀ line ∈ lines, line ∈ code)
include hlines

/-- What shows of a piece of the fence. -/
theorem IsFence.rows_piece :
    Canvas.rows ⟨markup, theme, width⟩
        (Text.ofRows ((List.replicate 3 Fence.backtick ++ info) :: lines))
      = trimmedRows theme width lines := by
  refine Canvas.rows_fenced h.isOpener ?_ (h.sanitize_ofRows hsettled ?_)
  · intro row hrow
    obtain ⟨line, hline, rfl⟩ := List.mem_map.mp hrow
    exact h.isCode hsettled (hlines line hline)
  · exact fun line hline => List.mem_cons_of_mem _ (List.mem_append_left _ (hlines line hline))

/-- What shows of its last piece. -/
theorem IsFence.rows_last_piece :
    Canvas.rows ⟨markup, theme, width⟩
        (Text.ofRows ((List.replicate 3 Fence.backtick ++ info) :: (lines ++ [closer])))
      = trimmedRows theme width lines := by
  have hclose := closes_sanitize h.closes
  refine Canvas.rows_fenced_closed h.isOpener ?_ (Text.isPlain_sanitize h.flat_closer)
    ((after_opened_iff _ _).mpr hclose) ?_
  · intro row hrow
    obtain ⟨line, hline, rfl⟩ := List.mem_map.mp hrow
    exact h.isCode hsettled (hlines line hline)
  · rw [h.sanitize_ofRows hsettled, List.map_append]
    · rfl
    · intro line hline
      rcases List.mem_append.mp hline with hline | hline
      · exact List.mem_cons_of_mem _ (List.mem_append_left _ (hlines line hline))
      · exact List.mem_cons_of_mem _ (List.mem_append_right _ hline)

/-- The rows of the open block inside the fence. -/
theorem IsFence.rendered_eq {log : Log}
    (hlog : log.IsInside (List.replicate 3 Fence.backtick ++ info) lines) :
    log.rendered ⟨markup, theme, width⟩ = trimmedRows theme width lines := by
  have hrows := h.rows_piece hsettled theme width hlines
  have hflat : ∀ line ∈ lines, '\n' ∉ line := fun line hline => h.flat_code line (hlines line hline)
  unfold Log.rendered Log.openText?
  rw [hlog.text]
  by_cases hblank : log.openLines.all Text.isBlank
  · -- the first line of the fence is not in the block, and nothing shows of the others
    have hopener : Fence.backtick ∈ List.replicate 3 Fence.backtick ++ info := List.mem_cons_self
    have hcode : lines = log.openLines := by
      have htext := hlog.text
      rcases hcarried : log.carried with - | opener
      · rw [hcarried] at htext
        have hmem : List.replicate 3 Fence.backtick ++ info ∈ log.openLines := by
          rw [show log.openLines = _ from htext]
          exact List.mem_cons_self
        exact absurd (List.all_eq_true.mp hblank _ hmem) (not_isBlank_of_mem hopener)
      · rw [hcarried] at htext
        exact (List.cons.inj htext).2.symm
    have hnone : ¬Shows lines := by
      rintro ⟨line, hline, hshows⟩
      rw [hcode] at hline
      exact hshows (isBlank_sanitize (List.all_eq_true.mp hblank line hline))
    rw [if_pos hblank, trimmedRows_of_not_shows theme width hflat hnone]
    rfl
  · rw [if_neg hblank, Option.map_some, Option.getD_some, hrows]

end

/-! ### Split and whole -/

section

variable {info closer : Text} {code : List Text} (h : IsFence info code closer)
include h

/-- The rows of a log inside the fence, when the rest of the fence has come in. -/
theorem IsFence.rows_foldl_push (hsettled : IsSettled info code closer) (theme : Theme)
    (width : Nat) {before rest : List Text} (hcode : ∀ line ∈ before ++ rest, line ∈ code)
    {log : Log} (hlog : log.IsInside (List.replicate 3 Fence.backtick ++ info) before)
    (hshort : log.openLines.length < longestBlock) :
    ((rest ++ [closer]).foldl (Log.push ⟨markup, theme, width⟩) log).rows
      = log.closedRows ++ piecewise theme width log.openLines.length before rest := by
  -- `before` are the lines of the piece that is open, and `rest` are those to come
  induction rest generalizing before log with
  | nil =>
    rw [List.append_nil] at hcode
    show (log.push _ closer).rows = _
    rw [hlog.rows_push_closer h.not_isBlank_closer, h.rows_last_piece hsettled theme width hcode]
    rfl
  | cons line rest ih =>
    have hline : line ∈ code := hcode line (by simp)
    have hrest : ∀ l ∈ rest, l ∈ code := fun l hl => hcode l (by simp [hl])
    have hnext : ∀ l ∈ (before ++ [line]) ++ rest, l ∈ code := by simpa using hcode
    have hpiece : ∀ l ∈ before ++ [line], l ∈ code := fun l hl =>
      hnext l (List.mem_append_left _ hl)
    rw [List.cons_append, List.foldl_cons, piecewise]
    rcases hlog.push_cases (h.runs line hline) ⟨markup, theme, width⟩ with
      ⟨hfull, hinside, hlength, hclosed⟩ | ⟨hmore, hinside, hlength, hclosed⟩
    · -- a piece is done
      have heq : log.openLines.length + 1 = longestBlock := Nat.le_antisymm hshort hfull
      have hrendered := h.rendered_eq hsettled theme width hpiece (hlog.receive (h.runs line hline))
      rw [ih hrest hinside (hlength ▸ Nat.zero_lt_succ 63), hclosed, hlength, hrendered, if_pos heq,
        List.append_assoc]
    · rw [ih hnext hinside (hlength ▸ hmore), hclosed, hlength, if_neg (Nat.ne_of_lt hmore)]

/-- A fence that fits into a block is rendered as a whole. -/
theorem IsFence.rows_foldl_push_short (canvas : Canvas) {before rest : List Text}
    (hrest : ∀ line ∈ rest, line ∈ code) {log : Log}
    (hlog : log.IsInside (List.replicate 3 Fence.backtick ++ info) before)
    (hshort : log.openLines.length + rest.length < longestBlock) :
    ((rest ++ [closer]).foldl (Log.push canvas) log).rows
      = log.closedRows ++ canvas.rows
          (Text.ofRows
            ((List.replicate 3 Fence.backtick ++ info) :: (before ++ rest ++ [closer]))) := by
  -- no block is ever full, so all lines are in one piece to the end
  induction rest generalizing before log with
  | nil =>
    rw [List.append_nil]
    exact hlog.rows_push_closer h.not_isBlank_closer canvas
  | cons line rest ih =>
    have hline : line ∈ code := hrest line List.mem_cons_self
    have hsplit : before ++ line :: rest = (before ++ [line]) ++ rest := by simp
    rw [List.length_cons] at hshort
    rw [List.cons_append, List.foldl_cons, hsplit]
    rcases hlog.push_cases (h.runs line hline) canvas with
      ⟨hfull, -⟩ | ⟨hmore, hinside, hlength, hclosed⟩
    · omega
    · rw [ih (fun l hl => hrest l (List.mem_cons_of_mem _ hl)) hinside (by omega), hclosed]

/-- In pieces a fence shows no more than as a whole, and as much exactly if it is seamless. -/
theorem IsFence.rows_pieces (hsettled : IsSettled info code closer) (theme : Theme) (width : Nat) :
    let canvas : Canvas := ⟨markup, theme, width⟩
    let log := (fencedLines info code closer).foldl (Log.push canvas) {}
    log.rows.Sublist (canvas.rows (Text.ofRows (fencedLines info code closer))) ∧
      (log.rows = canvas.rows (Text.ofRows (fencedLines info code closer)) ↔
        IsSeamless width 1 code) := by
  intro canvas log
  have hall : ∀ line ∈ ([] : List Text) ++ code, line ∈ code := fun line hline => hline
  obtain ⟨hinside, hlength, hclosed⟩ := h.isInside canvas
  have hrows : log.rows = piecewise theme width 1 [] code := by
    have hpushed := h.rows_foldl_push hsettled theme width hall hinside (hlength ▸ by decide)
    rw [hlength, hclosed] at hpushed
    exact hpushed
  have hwhole : canvas.rows (Text.ofRows (fencedLines info code closer))
      = trimmedRows theme width code := h.rows_last_piece hsettled theme width hall
  -- from here on it is a matter of lists of rows
  rw [hrows, hwhole]
  exact ⟨piecewise_sublist theme width 1 [] h.flat_code,
    piecewise_eq_iff theme (by decide) [] h.flat_code⟩

/-- **When the pieces of a fence make up the whole.**  A fence that fits into a block is
rendered as a whole, on any canvas.  A longer one shows, in pieces, nothing that it would
not show as a whole; and it shows all of that exactly if no line of code at which a piece
ends takes a blank row at its end, unless all lines after it are blank. -/
theorem pieces_make_up_fence (theme : Theme) (width : Nat) :
    ((fencedLines info code closer).length ≤ longestBlock → ∀ canvas : Canvas,
      ((fencedLines info code closer).foldl (Log.push canvas) {}).rows
        = canvas.rows (Text.ofRows (fencedLines info code closer))) ∧
    (IsSettled info code closer →
      let canvas : Canvas := ⟨markup, theme, width⟩
      let log := (fencedLines info code closer).foldl (Log.push canvas) {}
      log.rows.Sublist (canvas.rows (Text.ofRows (fencedLines info code closer))) ∧
        (log.rows = canvas.rows (Text.ofRows (fencedLines info code closer)) ↔
          IsSeamless width 1 code)) := by
  refine ⟨fun hshort canvas => ?_, fun hsettled => h.rows_pieces hsettled theme width⟩
  obtain ⟨hinside, hlength, hclosed⟩ := h.isInside canvas
  -- a short fence is never closed before its end
  have hfits : 1 + code.length < longestBlock := by
    unfold fencedLines at hshort
    rw [List.length_cons, List.length_append, List.length_singleton] at hshort
    omega
  have hrows := h.rows_foldl_push_short canvas (fun line hline => hline) hinside (hlength ▸ hfits)
  rw [hclosed] at hrows
  exact hrows

end

/-- Three pieces, with blank lines inside and at the end of each, and a brace or a comment where the
first two end. -/
theorem pieces_make_up_fence_seamless :
    let info : Text := "rust".toList
    let blanks : List Text := List.replicate 61 []
    let code : List Text := ["fn main() \x7b".toList] ++ blanks ++ ["\x7d".toList] ++ blanks ++
      [[' '], [], "\x1b[32m// end\x1b[0m".toList, []]
    let closer : Text := " ````\t".toList
    let canvas : Canvas := ⟨markup, Theme.fallback, 40⟩
    IsFence info code closer ∧ IsSettled info code closer ∧ IsSeamless 40 1 code ∧
      ((fencedLines info code closer).foldl (Log.push canvas) {}).rows
        = canvas.rows (Text.ofRows (fencedLines info code closer)) := by
  intro info blanks code closer canvas
  have hfence : IsFence info code closer :=
    ⟨by decide +kernel, by decide +kernel, by decide +kernel, by decide +kernel⟩
  have hcomplete : ∀ line ∈ fencedLines info code closer, IsComplete line := by decide +kernel
  have hsettled : IsSettled info code closer :=
    ⟨fun line hline => (hcomplete line hline).solid.escapeComplete, by decide +kernel⟩
  have hseamless : IsSeamless 40 1 code := by decide +kernel
  refine ⟨hfence, hsettled, hseamless, ?_⟩
  exact (((pieces_make_up_fence hfence Theme.fallback 40).2 hsettled).2).mpr hseamless

/-- A blank line of code is lost where the first piece ends. -/
theorem pieces_lose_blank_line :
    let code : List Text := List.replicate 62 ['x'] ++ [[], ['y']]
    let closer : Text := List.replicate 3 Fence.backtick
    let canvas : Canvas := ⟨markup, Theme.fallback, 40⟩
    IsFence [] code closer ∧
      ((fencedLines [] code closer).foldl (Log.push canvas) {}).rows
        ≠ canvas.rows (Text.ofRows (fencedLines [] code closer)) := by
  intro code closer canvas
  have hfence : IsFence [] code closer :=
    ⟨by decide +kernel, by decide +kernel, by decide +kernel, by decide +kernel⟩
  have hcomplete : ∀ line ∈ fencedLines [] code closer, IsComplete line := by decide +kernel
  have hsettled : IsSettled [] code closer :=
    ⟨fun line hline => (hcomplete line hline).solid.escapeComplete, by decide +kernel⟩
  have hseam : ¬IsSeamless 40 1 code := by decide +kernel
  exact ⟨hfence, fun heq => hseam ((hfence.rows_pieces hsettled Theme.fallback 40).2.mp heq)⟩

end AgentConsole.Transcript
