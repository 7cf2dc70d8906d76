import AgentConsole.Proofs.CommonMark.Fenced
import AgentConsole.Proofs.Styled.Flat
import AgentConsole.Proofs.Styled.Painted
import AgentConsole.Proofs.Styled.Wrap
import AgentConsole.Transcript.Log
import Mathlib.Data.List.DropRight

/-!
# The rows of code

A document that is one fenced block of code shows its lines and nothing else: each line is wrapped
by itself, and blank rows at the end of the document are left out (`rows_fenced`).  The opening line
and the closing line show nothing, and it does not matter whether there is a closing line at all.

So the rows of a block of code are those of its lines, one after the other
(`codeRows_append`), up to the blank ones at the end.
-/

namespace List

variable {α : Type} {p : α → Bool} {a b : List α}

theorem rdropWhile_append_of_all (h : ∀ x ∈ b, p x) : (a ++ b).rdropWhile p = a.rdropWhile p := by
  unfold rdropWhile
  rw [reverse_append, dropWhile_append_of_pos fun x hx => h x (mem_reverse.mp hx)]

theorem rdropWhile_append_of_exists (h : ∃ x ∈ b, ¬p x) :
    (a ++ b).rdropWhile p = a ++ b.rdropWhile p := by
  have hkept : b.reverse.dropWhile p ≠ [] := by
    intro hnil
    obtain ⟨x, hx, hpx⟩ := h
    exact hpx (dropWhile_eq_nil_iff.mp hnil x (mem_reverse.mpr hx))
  unfold rdropWhile
  rw [reverse_append, dropWhile_append, if_neg (by simpa using hkept), reverse_append,
    reverse_reverse]

end List

namespace AgentConsole

/-! ### Lines of a text -/

namespace Text

/-- Without carriage returns the lines of a text are its rows, but for an empty one at the end. -/
theorem lines_eq {t : Text} (h : '\r' ∉ t) :
    lines t = if t.rows.getLast? = some [] then t.rows.dropLast else t.rows := by
  have hended : ∀ row ∈ (if t.rows.getLast? = some [] then t.rows.dropLast else t.rows),
      row.getLast? ≠ some '\r' := by
    intro row hrow hlast
    refine h (mem_of_mem_rows ?_ (List.mem_of_getLast? hlast))
    split at hrow
    · exact List.dropLast_subset _ hrow
    · exact hrow
  unfold lines
  dsimp only
  generalize (if t.rows.getLast? = some [] then t.rows.dropLast else t.rows) = ended at hended
  refine List.ext_getElem (by simp) fun i hi hi' => ?_
  have hrow := hended ended[i] (List.getElem_mem hi')
  rw [List.getElem_mapIdx]
  simp [hrow]

/-- Ended lines are read back. -/
theorem lines_ended {rows : List Text} (h : ∀ row ∈ rows, IsPlain row) :
    lines (rows.flatMap (· ++ ['\n'])) = rows := by
  have hrows : Text.rows (rows.flatMap (· ++ ['\n'])) = rows ++ [[]] := by
    induction rows with
    | nil => rfl
    | cons row below ih =>
      have hrow : '\n' ∉ row := (h row List.mem_cons_self).notMem (by decide)
      have hbelow := ih fun r hr => h r (List.mem_cons_of_mem _ hr)
      rw [List.flatMap_cons, List.append_assoc, List.singleton_append, rows_append_newline, hbelow,
        rows_of_notMem hrow]
      rfl
  -- no carriage return comes in
  have hreturn : '\r' ∉ rows.flatMap (· ++ ['\n']) := by
    intro hmem
    obtain ⟨row, hrow, hmem⟩ := List.mem_flatMap.mp hmem
    rcases List.mem_append.mp hmem with hmem | hmem
    · exact (h row hrow).notMem (by decide) hmem
    · exact absurd (List.mem_singleton.mp hmem) (by decide)
  rw [lines_eq hreturn, hrows]
  simp

/-- Of joined rows only an empty last one is not read back. -/
theorem lines_ofRows {rows : List Text} {last : Text} (h : ∀ row ∈ rows ++ [last], IsPlain row) :
    lines (ofRows (rows ++ [last])) = if last = [] then rows else rows ++ [last] := by
  have hreturn : '\r' ∉ ofRows (rows ++ [last]) := by
    intro hmem
    obtain hline | ⟨row, hrow, hmem⟩ := mem_ofRows hmem
    · cases hline
    · exact (h row hrow).notMem (by decide) hmem
  rw [lines_eq hreturn, rows_ofRows (by simp) fun row hrow => (h row hrow).notMem (by decide)]
  simp

end Text

namespace Styled

/-- What holds of all elements that may be missing holds of the parts if it holds of the whole. -/
theorem Parts.forall_mem_iff {α : Type} {mayMiss P : α → Prop} (hmiss : ∀ x, mayMiss x → P x)
    {parts : List (List α)} {whole : List α} (h : Parts mayMiss parts whole) :
    (∀ part ∈ parts, ∀ x ∈ part, P x) ↔ ∀ x ∈ whole, P x := by
  induction h with
  | one part => simp
  | next part _ ih => simp [or_imp, forall_and, ih]
  | miss part hx _ ih => simp [or_imp, forall_and, ih, hmiss _ hx]

variable {line row : Text} {room : Nat} (h : line.IsPlain)
include h

theorem esc_notMem_of_isPlain : esc ∉ line := h.notMem (by decide)

theorem solid_of_isPlain : Solid line := solid_of_notMem (esc_notMem_of_isPlain h)

variable (hroom : 0 < room)
include hroom

/-- The rows of a line without controls are solid, and single ones. -/
theorem solid_of_mem_wrap (hrow : row ∈ wrap line room) : Solid row ∧ '\n' ∉ row := by
  have hclosed := isClosed_of_mem_wrap (solid_of_isPlain h) hroom hrow
  exact ⟨hclosed.solid, hclosed.single⟩

/-- Nothing shows on the rows of a line without controls exactly if the line is blank. -/
theorem forall_isBlank_wrap_iff :
    (∀ row ∈ wrap line room, Text.isBlank (strip row)) ↔ Text.isBlank line := by
  have hgap : ∀ c, IsGap c → Unicode.isBlank c := by
    rintro c (rfl | rfl) <;> decide
  have hall := (parts_strip_wrap (solid_of_isPlain h) hroom).forall_mem_iff hgap
  rw [strip_of_notMem (esc_notMem_of_isPlain h)] at hall
  simpa [Text.isBlank] using hall

end Styled

/-! ### Sanitized lines -/

namespace Styled

theorem sanitize_append {a : Text} (h : Settled a) (b : Text) :
    sanitize (a ++ b) = sanitize a ++ sanitize b := by
  unfold sanitize
  rw [strip_append h, List.filter_append, List.map_append]

theorem sanitize_newline (t : Text) : sanitize ('\n' :: t) = '\n' :: sanitize t := by
  unfold sanitize
  rw [strip_cons newline_ne_esc]
  rfl

/-- Lines whose escape sequences are finished are sanitized one by one. -/
theorem sanitize_ofRows {lines : List Text} (h : ∀ line ∈ lines, Solid line) :
    sanitize (Text.ofRows lines) = Text.ofRows (lines.map sanitize) := by
  induction lines with
  | nil => rfl
  | cons line below ih =>
    have hline := (h line List.mem_cons_self).settled
    by_cases hnil : below = []
    · subst hnil
      rfl
    · rw [Text.ofRows_cons line hnil, List.map_cons, Text.ofRows_cons _ (by simpa using hnil),
        sanitize_append hline, sanitize_newline, ih fun l hl => h l (List.mem_cons_of_mem _ hl)]

/-- A blank line stays blank. -/
theorem isBlank_sanitize {t : Text} (h : Text.isBlank t) : Text.isBlank (sanitize t) := by
  refine List.all_eq_true.mpr fun c hc => ?_
  rcases Text.mem_sanitize hc with hmem | rfl
  · exact List.all_eq_true.mp h c hmem
  · rfl

/-- In a text of other characters only the tabs change. -/
theorem sanitize_eq_map {t : Text} (h : ∀ c ∈ t, c = '\t' ∨ Unicode.isControl c = false) :
    sanitize t = t.map fun c => if c = '\t' then ' ' else c := by
  have hesc : esc ∉ t := by
    intro hmem
    rcases h esc hmem with heq | heq
    · exact absurd heq (by decide)
    · exact absurd heq (by decide)
  have hkept : t.filter (fun c => c = '\n' || c = '\t' || !Unicode.isControl c) = t := by
    refine List.filter_eq_self.mpr fun c hc => ?_
    rcases h c hc with heq | heq <;> simp [heq]
  unfold sanitize
  rw [strip_of_notMem hesc, hkept]

end Styled

namespace Transcript

open Styled

/-! ### Rows of code -/

/-- The columns that a line of code has for itself. -/
def codeRoom (width : Nat) : Nat := max 1 (width - 2)

theorem codeRoom_pos (width : Nat) : 0 < codeRoom width :=
  Nat.lt_of_lt_of_le Nat.zero_lt_one (Nat.le_max_left 1 _)

/-- A width of zero is as good as one. -/
theorem codeRoom_max (width : Nat) : codeRoom (max 1 width) = codeRoom width := by
  unfold codeRoom
  omega

/-- The rows of some lines of code. -/
def codeRows (theme : Theme) (width : Nat) (code : List Text) : List Text :=
  (code.flatMap fun line => wrap line (codeRoom width)).map fun row => ' ' :: ' ' :: theme.muted row

variable {theme : Theme} {width : Nat}

theorem codeRows_max (code : List Text) :
    codeRows theme (max 1 width) code = codeRows theme width code := by
  unfold codeRows
  rw [codeRoom_max]

theorem codeRows_append (a b : List Text) :
    codeRows theme width (a ++ b) = codeRows theme width a ++ codeRows theme width b := by
  unfold codeRows
  rw [List.flatMap_append, List.map_append]

/-- A row of code is blank if and only if its line is. -/
theorem isBlankRow_muted (theme : Theme) {row : Text} (h : Solid row) :
    isBlankRow (' ' :: ' ' :: theme.muted row) = Text.isBlank (strip row) := by
  have hmuted : strip (theme.muted row) = strip row := h.strip_paint theme.dim
  unfold isBlankRow
  rw [strip_cons (by decide), strip_cons (by decide), hmuted]
  rfl

/-- A row of code is one of the rows of a line. -/
theorem exists_of_mem_codeRows {code : List Text} {row : Text}
    (h : row ∈ codeRows theme width code) :
    ∃ line ∈ code, ∃ r ∈ wrap line (codeRoom width), row = ' ' :: ' ' :: theme.muted r := by
  obtain ⟨r, hr, rfl⟩ := List.mem_map.mp h
  obtain ⟨line, hline, hmem⟩ := List.mem_flatMap.mp hr
  exact ⟨line, hline, r, hmem, rfl⟩

theorem newline_notMem_codeRows {code : List Text} (h : ∀ line ∈ code, line.IsPlain) :
    ∀ row ∈ codeRows theme width code, '\n' ∉ row := by
  intro row hrow
  obtain ⟨line, hline, r, hr, rfl⟩ := exists_of_mem_codeRows hrow
  obtain ⟨-, hsingle⟩ := solid_of_mem_wrap (h line hline) (codeRoom_pos width) hr
  have hmuted : '\n' ∉ theme.muted r := kind_flat.muted hsingle theme
  simpa using hmuted

/-- Nothing shows of some lines of code exactly if they are blank. -/
theorem forall_isBlankRow_codeRows_iff (theme : Theme) (width : Nat) {code : List Text}
    (h : ∀ line ∈ code, line.IsPlain) :
    (∀ row ∈ codeRows theme width code, isBlankRow row) ↔ ∀ line ∈ code, Text.isBlank line := by
  have hline : ∀ line ∈ code, (∀ r ∈ wrap line (codeRoom width),
      isBlankRow (' ' :: ' ' :: theme.muted r)) ↔ Text.isBlank line := by
    intro line hmem
    rw [← forall_isBlank_wrap_iff (h line hmem) (codeRoom_pos width)]
    refine forall₂_congr fun r hr => ?_
    rw [isBlankRow_muted theme (solid_of_mem_wrap (h line hmem) (codeRoom_pos width) hr).1]
  constructor
  · intro hrows line hmem
    refine (hline line hmem).mp fun r hr => hrows _ ?_
    exact List.mem_map.mpr ⟨r, List.mem_flatMap.mpr ⟨line, hmem, hr⟩, rfl⟩
  · intro hblank row hrow
    obtain ⟨line, hmem, r, hr, rfl⟩ := exists_of_mem_codeRows hrow
    exact (hline line hmem).mpr (hblank line hmem) r hr

/-- A blank row that is added at the end is left out again. -/
theorem Page.finish_blank (rs : List Text) :
    ((Page.mk rs [] 0 0 none 0).blank theme width).finish theme width
      = (rs.dropWhile isBlankRow).reverse := by
  rcases rs with - | ⟨row, below⟩
  · rfl
  · show Page.finish theme width (if isBlankRow row then _ else _) = _
    by_cases hrow : isBlankRow row
    · rw [if_pos hrow]
      rfl
    · rw [if_neg hrow]
      rfl

/-- A document that is one block of code shows the rows of its lines. -/
theorem rows_codeBlock (language : Option Text) (content : Text) :
    rows theme [.codeBlock language content] width
      = (codeRows theme width (Text.lines content)).rdropWhile isBlankRow := by
  have hrows : rows theme [.codeBlock language content] width
      = ((Page.mk ((codeRows theme (max 1 width) (Text.lines content)).reverse ++ []) [] 0 0 none
          0).blank theme (max 1 width)).finish theme (max 1 width) := rfl
  rw [hrows, Page.finish_blank, List.append_nil, codeRows_max]
  rfl

/-- A document of one block of code is one segment. -/
theorem ofText_of_code {t info content : Text}
    (h : CommonMark.Block.ofText t = ([.code info content], [])) :
    ∃ language, Segment.ofText t = [.codeBlock language content] := by
  refine ⟨if (CommonMark.unescape info).isEmpty then none else some (CommonMark.unescape info), ?_⟩
  unfold Segment.ofText CommonMark.events
  rw [h]
  rfl

section

variable {mark : Char} {length : Nat} {info : Text} {body : List Text}
  (h : CommonMark.Fence.IsOpener mark length info)
  (hbody : ∀ row ∈ body, CommonMark.IsCode (CommonMark.Fence.opened mark length info) row)
include h hbody

/-- **The rows of a fenced document.**  Up to the blank ones at the end, they are the rows of
its lines; here the fence stays open. -/
theorem rows_fenced :
    rows theme (Segment.ofText (Text.ofRows ((List.replicate length mark ++ info) :: body))) width
      = (codeRows theme width body).rdropWhile isBlankRow := by
  obtain ⟨language, hsegments⟩ := ofText_of_code (CommonMark.Block.ofText_fenced h hbody)
  rw [hsegments, rows_codeBlock]
  -- an empty last line is not read back, but its row would be a blank one at the end
  induction body using List.reverseRecOn with
  | nil => rfl
  | append_singleton before last =>
    rw [Text.lines_ofRows fun row hrow => (hbody row hrow).plain]
    by_cases hlast : last = []
    · subst hlast
      rw [if_pos rfl, codeRows_append, List.rdropWhile_append_of_all]
      refine (forall_isBlankRow_codeRows_iff theme width ?_).mpr ?_
      · simp [Text.IsPlain]
      · simp [Text.isBlank]
    · rw [if_neg hlast]

/-- It does not matter whether the fence is closed. -/
theorem rows_fenced_closed {closer : Text} (hplain : Text.IsPlain closer)
    (hcloses :
      CommonMark.Fence.after (some (CommonMark.Fence.opened mark length info)) closer = none) :
    rows theme (Segment.ofText
        (Text.ofRows ((List.replicate length mark ++ info) :: (body ++ [closer])))) width
      = (codeRows theme width body).rdropWhile isBlankRow := by
  obtain ⟨language, hsegments⟩ :=
    ofText_of_code (CommonMark.Block.ofText_fenced_closed h hbody hplain hcloses)
  rw [hsegments, rows_codeBlock, Text.lines_ended fun row hrow => (hbody row hrow).plain]

end

/-- The rows of a document are read off the joined text again, as the last of them is not blank. -/
theorem Canvas.rows_markup {t : Text} {rs : List Text}
    (hrender : render t (max 1 width) theme = rs.rdropWhile isBlankRow)
    (hflat : ∀ row ∈ rs, '\n' ∉ row) :
    Canvas.rows ⟨markup, theme, width⟩ t = rs.rdropWhile isBlankRow := by
  have hmarkup : markup t (max 1 width) theme = Text.ofRows (rs.rdropWhile isBlankRow) :=
    congrArg Text.ofRows hrender
  unfold Canvas.rows
  dsimp only
  rw [hmarkup]
  by_cases hnil : rs.rdropWhile isBlankRow = []
  · rw [hnil]
    rfl
  · have hkept := Text.rows_ofRows hnil fun row hrow =>
      hflat row ((List.rdropWhile_prefix isBlankRow rs).subset hrow)
    have hlast := List.rdropWhile_last_not isBlankRow rs hnil
    rw [if_neg, hkept]
    intro hempty
    rw [List.isEmpty_iff.mp hempty] at hkept
    -- a single empty row would be blank
    refine hlast ?_
    simp only [← hkept, Text.rows_nil]
    rfl

section

variable {mark : Char} {length : Nat} {info t : Text} {body : List Text}
  (h : CommonMark.Fence.IsOpener mark length info)
  (hbody : ∀ row ∈ body, CommonMark.IsCode (CommonMark.Fence.opened mark length info) row)
include h hbody

/-- What shows of a text that is a fenced document when it is sanitized. -/
theorem Canvas.rows_fenced
    (ht : sanitize t = Text.ofRows ((List.replicate length mark ++ info) :: body)) :
    Canvas.rows ⟨markup, theme, width⟩ t
      = (codeRows theme width body).rdropWhile isBlankRow := by
  refine Canvas.rows_markup ?_ (newline_notMem_codeRows fun row hrow => (hbody row hrow).plain)
  unfold render
  rw [ht, Transcript.rows_fenced h hbody, codeRows_max]

/-- The same, with the fence closed. -/
theorem Canvas.rows_fenced_closed {closer : Text} (hplain : Text.IsPlain closer)
    (hcloses :
      CommonMark.Fence.after (some (CommonMark.Fence.opened mark length info)) closer = none)
    (ht : sanitize t = Text.ofRows ((List.replicate length mark ++ info) :: (body ++ [closer]))) :
    Canvas.rows ⟨markup, theme, width⟩ t
      = (codeRows theme width body).rdropWhile isBlankRow := by
  refine Canvas.rows_markup ?_ (newline_notMem_codeRows fun row hrow => (hbody row hrow).plain)
  unfold render
  rw [ht, Transcript.rows_fenced_closed h hbody hplain hcloses, codeRows_max]

end

end Transcript

end AgentConsole
