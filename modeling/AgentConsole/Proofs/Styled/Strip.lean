import AgentConsole.Proofs.Styled.Splice
import AgentConsole.Proofs.Theme.Paint
import AgentConsole.Styled.Wrap

/-!
# Styling never influences layout

A text may be stripped of its escape sequences before it is laid out or after: both
come to the same plain text.  So a styled text breaks, is cut and is padded exactly
where its plain text is.

Each operation on rows reads tokens, and on the tokens there is one equation each:
what it makes of the tokens, stripped, is what it makes of their glyphs alone
(`cutTokens_shown`, `strip_before`, `strip_after`).  A wrap reads tokens one by one,
so there the styled state and the plain one go in lockstep (`Wrap.State.Shows.step`).
What an operation adds of its own are resets and replayed sequences, which show
nothing.

All this needs escape sequences that are finished and stay on their row
(`IsComplete`); `strip_commutes` is the whole of it.
-/

namespace AgentConsole

/-! ### Complete texts -/

/-- Is the token a glyph, or a finished escape sequence on a single row? -/
def Token.IsComplete : Token → Prop
  | .escape e => Styled.isFinished e ∧ '\n' ∉ e
  | .glyph _ => True

instance : DecidablePred Token.IsComplete := fun k =>
  match k with
  | .escape e => inferInstanceAs (Decidable (Styled.isFinished e ∧ '\n' ∉ e))
  | .glyph _ => inferInstanceAs (Decidable True)

namespace Styled

/-- Are all escape sequences of the text finished, each on a single row? -/
def IsComplete (t : Text) : Prop := ∀ k ∈ tokens t, k.IsComplete

instance : DecidablePred IsComplete := fun t =>
  inferInstanceAs (Decidable (∀ k ∈ tokens t, k.IsComplete))

/-- Every token of a complete text reads as itself wherever it stands. -/
theorem IsComplete.solid {t : Text} (h : IsComplete t) : Solid t := by
  have hsettled : Settled t := (settled_iff t).mpr fun e he => (h _ he).1
  intro k hk
  obtain ⟨hself, hown⟩ := forall_mem_scan (s := .ground) ⟨rfl, fun _ => rfl⟩
    (List.append_nil _).symm (.inr hsettled) k hk
  refine ⟨hself, hown, ?_⟩
  rintro e rfl
  exact (h _ hk).2

/-! ### Stripped texts -/

@[simp] theorem shown_map_glyph (t : Text) : shown (t.map .glyph) = t := by
  induction t with
  | nil => rfl
  | cons c t ih => rw [List.map_cons, shown_glyph, ih]

/-- Characters are written as themselves. -/
@[simp] theorem sources_map_glyph (t : Text) : sources (t.map .glyph) = t := by
  induction t with
  | nil => rfl
  | cons c t ih =>
    show c :: sources (t.map .glyph) = c :: t
    rw [ih]

/-- A stripped text has the glyphs of the text for its tokens. -/
theorem tokens_strip (t : Text) : tokens (strip t) = (shown (tokens t)).map .glyph :=
  tokens_of_notMem (esc_notMem_strip t)

theorem strip_sources {ts : List Token} (h : ∀ k ∈ ts, k.IsSolid) : strip (sources ts) = shown ts := by
  rw [strip_eq_shown, tokens_sources h]

theorem strip_of_notMem {t : Text} (h : esc ∉ t) : strip t = t := by
  rw [strip_eq_shown, tokens_of_notMem h, shown_map_glyph]

theorem strip_escape {e : Text} (h : (Token.escape e).IsSolid) : strip e = [] := by
  have htokens : tokens e = [.escape e] := h.1
  rw [strip_eq_shown, htokens]
  rfl

/-- An escape in front is not seen. -/
theorem strip_escape_append {e : Text} (h : (Token.escape e).IsSolid) (t : Text) :
    strip (e ++ t) = strip t := by
  have hsettled : Settled e := h.2.1
  rw [strip_append hsettled, strip_escape h]
  rfl

/-- Any other character in front is. -/
theorem strip_cons {c : Char} (hc : c ≠ esc) (t : Text) : strip (c :: t) = c :: strip t := by
  have hone : Settled [c] := (Solid.one hc).settled
  calc strip (c :: t) = strip [c] ++ strip t := strip_append hone t
    _ = c :: strip t := by
      rw [strip_of_notMem (by simpa using Ne.symm hc)]
      rfl

@[simp] theorem strip_closing (styled : Bool) : strip (closing styled) = [] := by
  cases styled <;> rfl

@[simp] theorem strip_spaces (n : Nat) : strip (Text.spaces n) = Text.spaces n :=
  strip_of_notMem (esc_notMem_spaces n)

/-! ### Widths and rows -/

/-- What is shown takes all the columns. -/
theorem columnsOf_shown (ts : List Token) :
    columnsOf ((shown ts).map .glyph) = columnsOf ts := by
  induction ts with
  | nil => rfl
  | cons k ts ih =>
    cases k with
    | escape e =>
      rw [shown_escape, columnsOf_cons, ih]
      exact (Nat.zero_add _).symm
    | glyph c => rw [shown_glyph, List.map_cons, columnsOf_cons, columnsOf_cons, ih]

/-- A text takes the room of what it shows. -/
theorem rowWidth_strip (t : Text) : rowWidth (strip t) = rowWidth t := by
  rw [rowWidth_eq, rowWidth_eq, tokens_strip, columnsOf_shown]

/-- Newlines are shown, so rows can be stripped one by one. -/
theorem rows_shown {ts : List Token} (h : ∀ k ∈ ts, k.IsSolid) :
    (shown ts).rows = (sources ts).rows.map strip := by
  induction ts with
  | nil => rfl
  | cons k ts ih =>
    have hk := h k List.mem_cons_self
    have hts := ih fun l hl => h l (List.mem_cons_of_mem _ hl)
    obtain ⟨first, below, hrows⟩ := Text.exists_rows (sources ts)
    rw [hrows, List.map_cons] at hts
    cases k with
    | escape e =>
      -- a sequence lies on the first row, where it shows nothing
      have hsources : (sources (.escape e :: ts)).rows = (e ++ first) :: below :=
        Text.rows_append (hk.2.2 e rfl) hrows
      rw [hsources, shown_escape, hts, List.map_cons, strip_escape_append hk]
    | glyph c =>
      show Text.rows (c :: shown ts) = (Text.rows (c :: sources ts)).map strip
      by_cases hc : c = '\n'
      · subst hc
        rw [Text.rows_newline, Text.rows_newline, hrows, hts]
        rfl
      · rw [Text.rows_cons hc hts, Text.rows_cons hc hrows, List.map_cons, strip_cons hk.ne_esc]

/-- The rows of a stripped text are the rows of the text, stripped. -/
theorem rows_strip {t : Text} (h : Solid t) : (strip t).rows = t.rows.map strip := by
  have hrows := rows_shown h
  rwa [sources_tokens] at hrows

theorem firstRow_strip {t : Text} (h : Solid t) : (strip t).firstRow = strip t.firstRow := by
  obtain ⟨below, hrows⟩ := Text.rows_eq_firstRow t
  obtain ⟨under, hplain⟩ := Text.rows_eq_firstRow (strip t)
  rw [rows_strip h, hrows, List.map_cons] at hplain
  exact (List.cons.inj hplain).1.symm

/-- A stripped text is as wide as before. -/
theorem width_strip {t : Text} (h : Solid t) : width (strip t) = width t := by
  have hwidths : (t.rows.map strip).map rowWidth = t.rows.map rowWidth := by
    rw [List.map_map]
    exact List.map_congr_left fun row hrow => rowWidth_strip row
  unfold width
  rw [rows_strip h, hwidths]

/-- Rows may be stripped before they are put together. -/
theorem strip_ofRows {rs : List Text} (h : ∀ row ∈ rs, Solid row) :
    strip (Text.ofRows rs) = Text.ofRows (rs.map strip) := by
  induction rs with
  | nil => rfl
  | cons row below ih =>
    have hrow := h row List.mem_cons_self
    by_cases hne : below = []
    · subst hne
      rfl
    · rw [Text.ofRows_cons row hne, List.map_cons, Text.ofRows_cons _ (by simpa using hne),
        strip_append hrow.settled, strip_cons newline_ne_esc,
        ih fun r hr => h r (List.mem_cons_of_mem _ hr)]

/-! ### Cutting and filling -/

/-- A cut keeps of the glyphs alone what it shows of the tokens, and as many columns. -/
theorem cutTokens_shown {ts : List Token} (h : ∀ k ∈ ts, k.IsSolid) (styled : Bool) (room : Nat) :
    cutTokens false room ((shown ts).map .glyph)
      = (strip (cutTokens styled room ts).1, (cutTokens styled room ts).2) := by
  induction ts generalizing styled room with
  | nil => rfl
  | cons k ts ih =>
    have hk := h k List.mem_cons_self
    have hts := ih fun l hl => h l (List.mem_cons_of_mem _ hl)
    -- escapes take no room, so both sides cut before the same character
    cases k with
    | escape e =>
      rw [shown_escape, hts (styledAfter styled e)]
      simp only [cutTokens]
      rw [strip_escape_append hk]
    | glyph c =>
      rw [shown_glyph, List.map_cons]
      simp only [cutTokens]
      split
      · rw [hts styled, strip_cons hk.ne_esc]
      · rw [strip_closing]
        rfl

theorem cut_strip {t : Text} (h : Solid t) (room : Nat) :
    cut (strip t) room = (strip (cut t room).1, (cut t room).2) := by
  unfold cut
  rw [tokens_strip, cutTokens_shown h false]

theorem strip_pad {t : Text} (h : Solid t) (room : Nat) :
    strip (pad t room) = pad (strip t) room := by
  unfold pad
  rw [strip_append h.settled, strip_spaces, rowWidth_strip]

theorem strip_fit {t : Text} (h : Solid t) (room : Nat) :
    strip (fit t room) = fit (strip t) room := by
  unfold fit
  rw [strip_pad (h.cut room).1, cut_strip h]

theorem strip_truncate {t : Text} (h : Solid t) (room : Nat) :
    strip (truncate t room) = truncate (strip t) room := by
  have hfirst := h.firstRow
  unfold truncate
  rw [width_strip h, firstRow_strip h, cut_strip hfirst, cut_strip hfirst]
  split
  · rfl
  · split
    · rfl
    · rw [strip_append (hfirst.cut _).1.settled, strip_of_notMem (t := ellipsis) (by decide)]

theorem strip_rectangle {t : Text} (h : Solid t) (width height : Nat) :
    strip (rectangle t width height) = rectangle (strip t) width height := by
  have hkept : ((strip t).rows.take height).map (fit · width)
      = ((t.rows.take height).map (fit · width)).map strip := by
    rw [rows_strip h, ← List.map_take, List.map_map, List.map_map]
    refine List.map_congr_left fun row hrow => ?_
    exact (strip_fit (h.rows row (List.mem_of_mem_take hrow)) width).symm
  have hsolid : ∀ row ∈ (t.rows.take height).map (fit · width), Solid row := by
    intro row hrow
    obtain ⟨r, hr, rfl⟩ := List.mem_map.mp hrow
    exact (h.rows r (List.mem_of_mem_take hr)).fit width
  have hblank (n : Nat) : ∀ row ∈ List.replicate n (Text.spaces width), Solid row := by
    intro row hrow
    rw [List.eq_of_mem_replicate hrow]
    exact solid_spaces width
  -- rows that are kept are fitted, rows that are missing are blank
  unfold rectangle
  dsimp only
  rw [hkept, strip_ofRows fun row hrow => (List.mem_append.mp hrow).elim (hsolid row) (hblank _ row),
    List.map_append, List.map_replicate, strip_spaces]
  simp only [List.length_map]

theorem strip_spread {left right : Text} (hl : Solid left) (hr : Solid right) (room : Nat) :
    strip (spread left right room) = spread (strip left) (strip right) room := by
  unfold spread
  rw [width_strip hr]
  split
  · exact strip_fit hl room
  · have hleft := (hl.truncate (room - (width right + 1))).fit (room - (width right + 1))
    have hright : Solid (' ' :: right) := hr.cons (by decide)
    dsimp only
    rw [strip_fit (hleft.append hright), strip_append hleft.settled, strip_cons (by decide),
      strip_fit (hl.truncate _), strip_truncate hl]

/-! ### Splicing -/

@[simp] theorem before_zero (styled : Bool) (ts : List Token) : before styled 0 ts = closing styled := by
  cases ts with
  | nil => exact List.append_nil _
  | cons k ts => rfl

/-- The part before a column, stripped, is that of the stripped text. -/
theorem strip_before {ts : List Token} (h : ∀ k ∈ ts, k.IsSolid) (styled : Bool) (room : Nat) :
    strip (before styled room ts) = before false room ((shown ts).map .glyph) := by
  induction ts generalizing styled room with
  | nil =>
    show strip (closing styled ++ Text.spaces room) = Text.spaces room
    rw [strip_append (solid_closing styled).settled, strip_closing, strip_spaces]
    rfl
  | cons k ts ih =>
    have hk := h k List.mem_cons_self
    have hts := ih fun l hl => h l (List.mem_cons_of_mem _ hl)
    by_cases hroom : room = 0
    · -- nothing is left to show, whatever the next token is
      subst hroom
      rw [before_zero, before_zero, strip_closing]
      rfl
    · cases k with
      | escape e =>
        have hbefore : before styled room (.escape e :: ts)
            = e ++ before (styledAfter styled e) room ts := if_neg hroom
        rw [hbefore, strip_escape_append hk, hts, shown_escape]
      | glyph c =>
        simp only [shown_glyph, List.map_cons, before, if_neg hroom]
        split
        · rw [List.cons_append, strip_cons (by decide), strip_append (solid_closing styled).settled,
            strip_closing, strip_spaces]
          rfl
        · rw [strip_cons hk.ne_esc, hts]

theorem strip_splice {row overlay : Text} (hr : Solid row) (column : Nat) :
    strip (splice row overlay column) = splice (strip row) (strip overlay) column := by
  unfold splice
  rw [strip_append (solid_before hr false column).settled, strip_before hr, tokens_strip]

theorem strip_after {ts : List Token} (h : ∀ k ∈ ts, k.IsSolid) {active : Text}
    (ha : Settled active) (hs : strip active = []) (room : Nat) :
    strip (after active room ts) = after [] room ((shown ts).map .glyph) := by
  induction ts generalizing active room with
  | nil => rfl
  | cons k ts ih =>
    have hk := h k List.mem_cons_self
    have hts : ∀ l ∈ ts, l.IsSolid := fun l hl => h l (List.mem_cons_of_mem _ hl)
    cases k with
    | escape e =>
      -- the styles in force afterwards show nothing either
      show strip (after (if isReset e then [] else if isRendition e then active ++ e else active) room ts)
        = after [] room ((shown ts).map .glyph)
      split
      · exact ih hts Settled.nil rfl room
      · split
        · refine ih hts (ha.append hk.2.1) ?_ room
          rw [strip_append ha, hs]
          exact strip_escape hk
        · exact ih hts ha hs room
    | glyph c =>
      simp only [shown_glyph, List.map_cons, after]
      split
      · exact ih hts ha hs _
      · split
        · rw [strip_append ha, hs, strip_sources hts, sources_map_glyph]
        · rw [strip_append ha, hs, strip_cons (by decide), strip_sources hts, sources_map_glyph]

theorem strip_skip {row : Text} (h : Solid row) (column : Nat) :
    strip (skip row column) = skip (strip row) column := by
  unfold skip
  split
  · rfl
  · rw [strip_after h Settled.nil rfl, tokens_strip]

/-! ### Painting -/

/-- A style shows nothing. -/
theorem strip_isStyle {e : Text} (h : Color.IsStyle e) : strip e = [] := by
  obtain ⟨p, hp, rfl⟩ := h
  exact strip_escape (Color.isSolid_rendition hp)

theorem Solid.strip_paint {t : Text} (h : Solid t) (c : Color) :
    Styled.strip (c.paint t) = Styled.strip t := by
  unfold Color.paint
  split
  · rename_i hempty
    rw [List.isEmpty_iff.mp hempty]
  · have hfirst := (Color.isStyle_foreground c).solid
    rw [strip_append (hfirst.append h).settled, strip_append hfirst.settled,
      strip_isStyle (Color.isStyle_foreground c), strip_isStyle Color.isStyle_foregroundEnd,
      List.append_nil]
    rfl

/-! ### Wrapping -/

/-- Is the text solid, and does it show that plain text? -/
structure Shows (t plain : Text) : Prop where
  solid : Solid t
  strip : strip t = plain

namespace Shows

theorem nil : Shows [] [] := ⟨Solid.nil, rfl⟩

theorem append {a b p q : Text} (ha : Shows a p) (hb : Shows b q) : Shows (a ++ b) (p ++ q) :=
  ⟨ha.solid.append hb.solid, by rw [strip_append ha.solid.settled, ha.strip, hb.strip]⟩

theorem one {c : Char} (hc : c ≠ esc) : Shows [c] [c] := ⟨Solid.one hc, strip_cons hc []⟩

theorem escape {e : Text} (h : (Token.escape e).IsSolid) : Shows e [] :=
  ⟨solid_source h, strip_escape h⟩

theorem closing (styled : Bool) : Shows (closing styled) [] := ⟨solid_closing styled, strip_closing styled⟩

theorem of_notMem {t : Text} (h : esc ∉ t) : Shows t t := ⟨solid_of_notMem h, strip_of_notMem h⟩

theorem style {e : Text} (h : Color.IsStyle e) : Shows e [] := ⟨h.solid, strip_isStyle h⟩

theorem paint {t p : Text} (h : Shows t p) (c : Color) : Shows (c.paint t) p :=
  ⟨h.solid.paint c, (h.solid.strip_paint c).trans h.strip⟩

theorem strong {t p : Text} (h : Shows t p) (c : Color) : Shows (c.strong t) p := by
  have hbold : Color.IsStyle (Color.rendition ['1']) :=
    Color.isStyle_rendition (by simp [Color.IsParameters])
  unfold Color.strong
  split
  · rename_i hempty
    rwa [List.isEmpty_iff.mp hempty] at h
  · have hshows := (((style (Color.isStyle_foreground c)).append (style hbold)).append h).append
      (style Color.isStyle_reset)
    simpa using hshows

/-- The width of a row, from what its two parts show. -/
theorem width_append {a b p q : Text} (ha : Shows a p) (hb : Shows b q) (hline : '\n' ∉ p ++ q) :
    width (a ++ b) = rowWidth p + rowWidth q := by
  have hboth := ha.append hb
  have hp : esc ∉ p := ha.strip ▸ esc_notMem_strip a
  rw [← width_strip hboth.solid, hboth.strip, width_of_notMem hline,
    rowWidth_append (solid_of_notMem hp).settled]

end Shows

namespace Wrap

/-- The plain head shows what the styled one does, and knows of no style. -/
structure Head.Shows (h p : Head) : Prop where
  text : Styled.Shows h.text.reverse p.text.reverse
  width : h.width = p.width
  active : Styled.Shows h.active p.active
  plain : p.active = []

/-- The plain state shows what the styled one does, and knows of no style. -/
structure State.Shows (s p : State) : Prop where
  done : p.done = s.done.map strip
  head : Option.Rel Head.Shows s.head p.head
  word : Styled.Shows s.word.reverse p.word.reverse
  width : s.width = p.width
  active : Styled.Shows s.active p.active
  plain : p.active = []

namespace State

/-- A row that is finished shows what it showed when it was open. -/
theorem strip_finished {row active q : Text} (h : Styled.Shows row.reverse q.reverse) :
    strip (finished row active) = finished q [] := by
  unfold finished
  rw [strip_append h.solid.settled, h.strip, strip_closing]
  rfl

namespace Shows

variable {s p : State} (h : s.Shows p)
include h

/-- There is a noted space on both sides or on neither. -/
theorem head_cases : (s.head = none ∧ p.head = none) ∨
    ∃ a b, s.head = some a ∧ p.head = some b ∧ a.Shows b := by
  have hrel := h.head
  generalize s.head = x at hrel
  generalize p.head = y at hrel
  cases hrel with
  | none => exact .inl ⟨rfl, rfl⟩
  | some hab => exact .inr ⟨_, _, rfl, rfl, hab⟩

/-- The open rows show the same. -/
theorem row : Styled.Shows s.row.reverse p.row.reverse := by
  have hword := h.word
  unfold State.row
  rcases h.head_cases with ⟨hs, hp⟩ | ⟨a, b, hs, hp, hab⟩
  · rw [hs, hp]
    exact hword
  · rw [hs, hp]
    dsimp only
    rw [List.reverse_append, List.reverse_append, List.reverse_cons, List.reverse_cons,
      List.append_assoc, List.append_assoc]
    exact hab.text.append ((Styled.Shows.one (by decide)).append hword)

theorem withDone {row active q : Text} (hrow : Styled.Shows row.reverse q.reverse) :
    finished q [] :: p.done = (finished row active :: s.done).map strip := by
  rw [List.map_cons, strip_finished hrow, h.done]

/-- A new row on both sides. -/
theorem newRow : s.newRow.Shows p.newRow where
  done := by
    show finished p.row p.active :: p.done = _
    rw [h.plain]
    exact h.withDone h.row
  head := .none
  word := by simpa [State.newRow] using h.active
  width := rfl
  active := h.active
  plain := h.plain

/-- The last word moves on both sides. -/
theorem breakRow : s.breakRow.Shows p.breakRow := by
  unfold State.breakRow
  rcases h.head_cases with ⟨hs, hp⟩ | ⟨a, b, hs, hp, hab⟩
  · rw [hs, hp]
    exact h.newRow
  · rw [hs, hp]
    -- the word after the space begins the next row, behind the styles in force at the space
    refine ⟨?_, .none, ?_, ?_, h.active, h.plain⟩
    · show finished b.text b.active :: p.done = _
      rw [hab.plain]
      exact h.withDone hab.text
    · simpa using hab.active.append h.word
    · show s.width - (a.width + 1) = p.width - (b.width + 1)
      rw [h.width, hab.width]

theorem put {c : Char} (hc : c ≠ esc) : (s.put c).Shows (p.put c) := by
  have hwidth : s.width + Unicode.columns c = p.width + Unicode.columns c := by rw [h.width]
  unfold State.put
  split
  · exact ⟨h.done, .some ⟨h.row, h.width, h.active, h.plain⟩, .nil, hwidth, h.active, h.plain⟩
  · refine ⟨h.done, h.head, ?_, hwidth, h.active, h.plain⟩
    simpa using h.word.append (.one hc)

/-- An escape sequence does nothing to the plain state. -/
theorem step_escape (room : Nat) {e : Text} (he : (Token.escape e).IsSolid) :
    (s.step room (.escape e)).Shows p := by
  refine ⟨h.done, h.head, ?_, h.width, ?_, h.plain⟩
  · simpa [State.step] using h.word.append (.escape he)
  · show Styled.Shows (if isReset e then [] else if isRendition e then s.active ++ e else s.active)
      p.active
    rw [h.plain]
    have hactive : Styled.Shows s.active [] := h.plain ▸ h.active
    split
    · exact .nil
    · split
      · exact hactive.append (.escape he)
      · exact hactive

/-- A glyph does to both states the same. -/
theorem step_glyph (room : Nat) {c : Char} (hc : c ≠ esc) :
    (s.step room (.glyph c)).Shows (p.step room (.glyph c)) := by
  unfold State.step
  dsimp only
  rw [h.width]
  split
  · exact h.newRow
  · split
    · split
      · exact h.newRow
      · exact h.breakRow.put hc
    · exact h.put hc

end Shows

/-- To the end of a text, the rows show the same. -/
theorem Shows.foldl {s p : State} (h : s.Shows p) (room : Nat) {ts : List Token}
    (hts : ∀ k ∈ ts, k.IsSolid) :
    (ts.foldl (State.step room) s).Shows (((shown ts).map .glyph).foldl (State.step room) p) := by
  induction ts generalizing s p with
  | nil => exact h
  | cons k ts ih =>
    have hk := hts k List.mem_cons_self
    have hrest : ∀ l ∈ ts, l.IsSolid := fun l hl => hts l (List.mem_cons_of_mem _ hl)
    cases k with
    | escape e => exact ih (h.step_escape room hk) hrest
    | glyph c => exact ih (h.step_glyph room hk.ne_esc) hrest

end State

end Wrap

/-- The rows of a stripped text, wrapped, are the rows of the wrapped text, stripped. -/
theorem map_strip_wrap {t : Text} (h : Solid t) (room : Nat) :
    (wrap t room).map strip = wrap (strip t) room := by
  unfold wrap
  split
  · exact (rows_strip h).symm
  · have hstart : Wrap.State.Shows {} {} := ⟨rfl, .none, .nil, rfl, .nil, rfl⟩
    have hend := hstart.foldl room h
    dsimp only
    rw [tokens_strip, List.map_reverse, hend.plain]
    exact congrArg List.reverse (hend.withDone hend.row).symm

/-! ### All operations -/

/-- **Styling never influences layout.**  For complete texts and all sizes, stripping
what an operation gives is the operation on stripped texts: a styled text is cut,
filled, spliced and wrapped where its plain text is, into as many columns and rows. -/
theorem strip_commutes {t u : Text} (ht : IsComplete t) (hu : IsComplete u) (room height : Nat) :
    (strip (cut t room).1, (cut t room).2) = cut (strip t) room
      ∧ strip (truncate t room) = truncate (strip t) room
      ∧ strip (pad t room) = pad (strip t) room
      ∧ strip (fit t room) = fit (strip t) room
      ∧ strip (rectangle t room height) = rectangle (strip t) room height
      ∧ strip (splice t u room) = splice (strip t) (strip u) room
      ∧ strip (skip t room) = skip (strip t) room
      ∧ strip (spread t u room) = spread (strip t) (strip u) room
      ∧ (wrap t room).map strip = wrap (strip t) room := by
  have hs := ht.solid
  exact ⟨(cut_strip hs room).symm, strip_truncate hs room, strip_pad hs room, strip_fit hs room,
    strip_rectangle hs room height, strip_splice hs room, strip_skip hs room,
    strip_spread hs hu.solid room, map_strip_wrap hs room⟩

/-- A word in red that is never closed, a link and a wide character, wrapped inside the
link, beside a second text. -/
theorem strip_commutes_red_link :
    let t : Text := "\x1b[31mred \x1b]8;;u\x07世界\x1b]8;;\x07 end".toList
    let u : Text := "\x1b[1mok\x1bM".toList
    IsComplete t ∧ IsComplete u ∧ strip (splice t u 5) = splice (strip t) (strip u) 5
      ∧ strip (spread t u 9) = spread (strip t) (strip u) 9
      ∧ (wrap t 5).map strip = wrap (strip t) 5 := by
  intro t u
  have ht : IsComplete t := by decide +kernel
  have hu : IsComplete u := by decide +kernel
  obtain ⟨-, -, -, -, -, hsplice, -, -, hwrap⟩ := strip_commutes ht hu 5 0
  obtain ⟨-, -, -, -, -, -, -, hspread, -⟩ := strip_commutes ht hu 9 0
  exact ⟨ht, hu, hsplice, hspread, hwrap⟩

end Styled

end AgentConsole
