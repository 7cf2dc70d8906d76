import AgentConsole.Proofs.Text.Inert
import AgentConsole.Proofs.Theme.Paint
import AgentConsole.Styled.Wrap

/-!
# Painted texts

A text is *painted* if all of its escape sequences are graphic renditions and all of
its other characters are inert.  Such a text can change how the terminal shows it and
nothing else.  Painting and joining keep texts painted, and so does wrapping, which
closes the styles at the end of a row and opens them again on the next
(`Painted.wrap`).
-/

namespace AgentConsole

open Styled Color

/-- Does the token only show something, or change how it is shown? -/
def Token.IsPainted : Token → Prop
  | .escape e => IsStyle e
  | .glyph c => Unicode.IsInert c

namespace Styled

/-- Is every token of the text painted? -/
def Painted (t : Text) : Prop := ∀ k ∈ tokens t, k.IsPainted

theorem esc_notMem_of_isInert {t : Text} (h : t.IsInert) : esc ∉ t := by
  intro hesc
  exact absurd (h esc hesc) (by decide)

/-- In a painted text no escape sequence is left open. -/
theorem Painted.settled {t : Text} (h : Painted t) : Settled t := by
  rw [settled_iff]
  intro e he
  obtain ⟨p, -, rfl⟩ := h _ he
  simp [isFinished, rendition, isFinal]

theorem Painted.nil : Painted [] := by
  intro k hk
  simp [tokens, scan] at hk

theorem Painted.append {a b : Text} (ha : Painted a) (hb : Painted b) : Painted (a ++ b) := by
  intro k hk
  rw [tokens_append ha.settled] at hk
  rcases List.mem_append.mp hk with hk | hk
  · exact ha k hk
  · exact hb k hk

/-- An inert text is painted: it shows as it stands. -/
theorem painted_of_isInert {t : Text} (h : t.IsInert) : Painted t := by
  intro k hk
  rw [tokens_of_notMem (esc_notMem_of_isInert h)] at hk
  obtain ⟨c, hc, rfl⟩ := List.mem_map.mp hk
  exact h c hc

/-- A style alone shows nothing, so there is nothing to hold against it. -/
theorem painted_of_isStyle {e : Text} (h : IsStyle e) : Painted e := by
  intro k hk
  obtain ⟨p, hp, rfl⟩ := h
  have htokens : tokens (rendition p) = [.escape (rendition p)] := (isSolid_rendition hp).1
  rw [htokens] at hk
  obtain rfl := List.mem_singleton.mp hk
  exact isStyle_rendition hp

/-! ### Painting -/

theorem Painted.between {t first last : Text} (h : Painted t) (hfirst : IsStyle first)
    (hlast : IsStyle last) : Painted (first ++ t ++ last) :=
  ((painted_of_isStyle hfirst).append h).append (painted_of_isStyle hlast)

theorem Painted.paint {t : Text} (h : Painted t) (c : Color) : Painted (c.paint t) := by
  unfold Color.paint
  split
  · exact Painted.nil
  · exact h.between (isStyle_foreground c) isStyle_foregroundEnd

theorem Painted.strong {t : Text} (h : Painted t) (c : Color) : Painted (c.strong t) := by
  have hbold : IsStyle (rendition ['1']) := isStyle_rendition (by simp [IsParameters])
  unfold Color.strong
  split
  · exact Painted.nil
  · rw [List.append_assoc c.foreground, List.append_assoc c.foreground]
    refine (painted_of_isStyle (isStyle_foreground c)).append ?_
    exact h.between hbold isStyle_reset

theorem Painted.muted {t : Text} (h : Painted t) (theme : Theme) : Painted (theme.muted t) :=
  h.paint theme.dim

theorem Painted.bold {t : Text} (h : Painted t) : Painted (bold t) :=
  h.between (isStyle_rendition (by simp [IsParameters])) isStyle_reset

theorem Painted.italic {t : Text} (h : Painted t) : Painted (italic t) :=
  h.between (isStyle_rendition (by simp [IsParameters])) isStyle_reset

theorem Painted.underlined {t : Text} (h : Painted t) : Painted (underlined t) :=
  h.between (isStyle_rendition (by simp [IsParameters])) isStyle_reset

theorem Painted.crossedOut {t : Text} (h : Painted t) : Painted (crossedOut t) :=
  h.between (isStyle_rendition (by simp [IsParameters])) isStyle_reset

/-- Painted rows make a painted text. -/
theorem painted_ofRows {rs : List Text} (h : ∀ row ∈ rs, Painted row) :
    Painted (Text.ofRows rs) := by
  induction rs with
  | nil => exact Painted.nil
  | cons row below ih =>
    have hrow := h row List.mem_cons_self
    by_cases hne : below = []
    · subst hne
      exact hrow
    · have hbelow := ih fun r hr => h r (List.mem_cons_of_mem _ hr)
      have hnewline : Painted ['\n'] := painted_of_isInert (Text.IsInert.nil.cons (by decide))
      rw [Text.ofRows_cons row hne]
      exact hrow.append (hnewline.append hbelow)

/-! ### What the terminal sees -/

/-- Does the text leave the terminal alone?  It may change the style of what it shows,
and once its escape sequences are taken away, no row holds a control. -/
structure IsHarmless (t : Text) : Prop where
  escapes : ∀ e, Token.escape e ∈ tokens t → IsStyle e
  rows : ∀ row ∈ (strip t).rows, ∀ c ∈ row, Unicode.isControl c = false

/-- A painted text is harmless. -/
theorem Painted.isHarmless {t : Text} (h : Painted t) : IsHarmless t := by
  refine ⟨fun e he => h _ he, ?_⟩
  intro row hrow c hc
  have hinert : Unicode.IsInert c := h _ (mem_strip.mp (Text.mem_of_mem_rows hrow hc))
  cases hcontrol : Unicode.isControl c with
  | false => rfl
  | true =>
    have hnewline := hinert hcontrol
    exact absurd (hnewline ▸ hc) (Text.newline_notMem_of_mem_rows hrow)

/-- A control between two letters is not harmless: it is shown as it is, or it begins
an escape sequence that is no graphic rendition. -/
theorem not_isHarmless_of_isControl {c : Char} (hcontrol : Unicode.isControl c)
    (hnewline : c ≠ '\n') : ¬IsHarmless ['x', c, 'x'] := by
  intro h
  by_cases hesc : c = esc
  · -- `ESC x` is a whole sequence, and no rendition
    subst hesc
    have hmem : Token.escape [esc, 'x'] ∈ tokens ['x', esc, 'x'] := by decide
    obtain ⟨p, -, heq⟩ := h.escapes _ hmem
    simp [rendition] at heq
  -- any other control is shown as it is, and is not inert
  · have hx : 'x' ≠ esc := by decide
    have hplain : esc ∉ ['x', c, 'x'] := by simp [hx.symm, Ne.symm hesc]
    have hstrip : strip ['x', c, 'x'] = ['x', c, 'x'] := by
      simp [strip, tokens_of_notMem hplain]
    have hline : '\n' ∉ ['x', c, 'x'] := by simp [Ne.symm hnewline]
    have hrow := h.rows ['x', c, 'x'] (by rw [hstrip, Text.rows_of_notMem hline]; simp) c (by simp)
    rw [hrow] at hcontrol
    cases hcontrol

/-! ### Wrapping -/

namespace Wrap

/-- Is what stands before the last space of the open row painted? -/
structure Head.IsPainted (h : Head) : Prop where
  text : Painted h.text.reverse
  active : Painted h.active

/-- Are all rows painted, the open one and the finished ones? -/
structure State.IsPainted (s : State) : Prop where
  done : ∀ row ∈ s.done, Painted row
  head : ∀ h ∈ s.head, h.IsPainted
  word : Painted s.word.reverse
  active : Painted s.active

namespace State

/-- Closing a row adds at most a reset. -/
theorem painted_finished {row active : Text} (h : Painted row.reverse) :
    Painted (finished row active) := by
  refine h.append ?_
  unfold closing
  split
  · exact painted_of_isStyle isStyle_reset
  · exact Painted.nil

namespace IsPainted

variable {s : State} (h : s.IsPainted)
include h

theorem row : Painted s.row.reverse := by
  unfold State.row
  split
  · exact h.word
  · rename_i head hhead
    have hspace : Painted [' '] := painted_of_isInert (Text.IsInert.nil.cons (by decide))
    have hjoined := (h.head head hhead).text.append (hspace.append h.word)
    simpa using hjoined

/-- A row that is closed joins those that are done. -/
theorem withDone {row active : Text} (hrow : Painted row.reverse) :
    ∀ r ∈ finished row active :: s.done, Painted r := by
  intro r hr
  rcases List.mem_cons.mp hr with rfl | hr
  · exact painted_finished hrow
  · exact h.done r hr

/-- The text before the new row is painted, and so is what is in force there. -/
theorem newRow : s.newRow.IsPainted where
  done := h.withDone h.row
  head := by simp [State.newRow]
  word := by simpa [State.newRow] using h.active
  active := h.active

theorem breakRow : s.breakRow.IsPainted := by
  unfold State.breakRow
  split
  · exact h.newRow
  · rename_i head hhead
    obtain ⟨htext, hactive⟩ := h.head head hhead
    refine ⟨h.withDone htext, by simp, ?_, h.active⟩
    simpa using hactive.append h.word

/-- An inert character may be put down anywhere. -/
theorem put {c : Char} (hc : Unicode.IsInert c) : (s.put c).IsPainted := by
  unfold State.put
  split
  · -- a space ends the word: the row so far is what a break would keep
    refine ⟨h.done, ?_, Painted.nil, h.active⟩
    intro head hhead
    obtain rfl := Option.some.inj hhead
    exact ⟨h.row, h.active⟩
  · refine ⟨h.done, h.head, ?_, h.active⟩
    have hglyph : Painted [c] := painted_of_isInert (Text.IsInert.nil.cons hc)
    simpa using h.word.append hglyph

/-- Reading a painted token keeps all rows painted. -/
theorem step (room : Nat) {k : Token} (hk : k.IsPainted) : (s.step room k).IsPainted := by
  -- an escape is a style, so it may also be in force
  cases k with
  | escape e =>
    have he : Painted e := painted_of_isStyle hk
    refine ⟨h.done, h.head, ?_, ?_⟩
    · simpa [State.step] using h.word.append he
    · show Painted (if isReset e then [] else if isRendition e then s.active ++ e else s.active)
      split
      · exact Painted.nil
      · split
        · exact h.active.append he
        · exact h.active
  | glyph c =>
    unfold State.step
    dsimp only
    split
    · exact h.newRow
    · -- where the glyph does not fit, a space gives way and anything else moves on
      split
      · split
        · exact h.newRow
        · exact h.breakRow.put hk
      · exact h.put hk

end IsPainted

/-- A text of such tokens leaves only painted rows. -/
theorem IsPainted.foldl {s : State} (h : s.IsPainted) (room : Nat) {ts : List Token}
    (hts : ∀ k ∈ ts, k.IsPainted) : (ts.foldl (State.step room) s).IsPainted := by
  induction ts generalizing s with
  | nil => exact h
  | cons k ts ih =>
    exact ih (h.step room (hts k List.mem_cons_self)) fun l hl => hts l (List.mem_cons_of_mem _ hl)

end State

end Wrap

/-- **The rows of a painted text are painted**, wherever it is wrapped. -/
theorem Painted.wrap {t : Text} (h : Painted t) {room : Nat} (hroom : 0 < room) :
    ∀ row ∈ wrap t room, Painted row := by
  have hstart : Wrap.State.IsPainted {} := ⟨by simp, by simp, Painted.nil, Painted.nil⟩
  have hend := hstart.foldl room h
  intro row hrow
  rw [Styled.wrap, if_neg (Nat.ne_of_gt hroom)] at hrow
  rcases List.mem_cons.mp (List.mem_reverse.mp hrow) with rfl | hrow
  · exact Wrap.State.painted_finished hend.row
  · exact hend.done row hrow

end Styled

end AgentConsole
