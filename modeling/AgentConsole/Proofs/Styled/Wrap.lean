import AgentConsole.Proofs.Styled.Strip
import AgentConsole.Proofs.Styled.Style

/-!
# What wrapping keeps

A wrapped text is its rows, put together again (`Parts`): between two rows a newline or
a space may be missing, and nothing else.  On its own row a character looks as it did in
the text, and no style is left in force at the end of a row.

The open row decides everything.  It begins with the styles that were in force where it
was broken off, so the styles in force at its end are always those of the text
(`Wrap.State.Follows`).  A break at the last space takes the word after it away, but what
was in force at the space was noted there, so it holds of both rows again.
-/

namespace AgentConsole.Styled

/-! ### A list in parts -/

/-- The parts make up the whole, in order.  Between two neighbours one element may be missing, if
it is of the right kind. -/
inductive Parts {α : Type} (mayMiss : α → Prop) : List (List α) → List α → Prop
  | one (part : List α) : Parts mayMiss [part] part
  | next {parts : List (List α)} {whole : List α} (part : List α) (h : Parts mayMiss parts whole) :
    Parts mayMiss (parts ++ [part]) (whole ++ part)
  | miss {parts : List (List α)} {whole : List α} {x : α} (part : List α) (hx : mayMiss x)
    (h : Parts mayMiss parts whole) : Parts mayMiss (parts ++ [part]) (whole ++ x :: part)

namespace Parts

variable {α β : Type} {mayMiss : α → Prop} {parts : List (List α)} {part whole : List α}

/-- How the last part came to the others. -/
theorem last (h : Parts mayMiss (parts ++ [part]) whole) :
    (parts = [] ∧ whole = part) ∨ ∃ before, Parts mayMiss parts before ∧
      (whole = before ++ part ∨ ∃ x, mayMiss x ∧ whole = before ++ x :: part) := by
  generalize hall : parts ++ [part] = all at h
  -- a list of one part, or the last step with or without a member that is missing
  cases h with
  | one =>
    obtain ⟨hparts, hpart⟩ := List.append_inj' (hall.trans (List.nil_append [whole]).symm) rfl
    exact .inl ⟨hparts, (List.singleton_inj.mp hpart).symm⟩
  | next p h =>
    obtain ⟨rfl, hpart⟩ := List.append_inj' hall rfl
    exact .inr ⟨_, h, .inl (List.singleton_inj.mp hpart ▸ rfl)⟩
  | miss p hx h =>
    obtain ⟨rfl, hpart⟩ := List.append_inj' hall rfl
    exact .inr ⟨_, h, .inr ⟨_, hx, List.singleton_inj.mp hpart ▸ rfl⟩⟩

/-- The last part grows with the whole. -/
theorem grow (h : Parts mayMiss (parts ++ [part]) whole) (more : List α) :
    Parts mayMiss (parts ++ [part ++ more]) (whole ++ more) := by
  obtain ⟨rfl, rfl⟩ | ⟨before, hbefore, rfl | ⟨x, hx, rfl⟩⟩ := h.last
  · exact .one _
  · rw [List.append_assoc]
    exact .next _ hbefore
  · rw [List.append_assoc]
    exact .miss _ hx hbefore

/-- The last part is split at an element that may be missing. -/
theorem split {x : α} {more : List α} (h : Parts mayMiss (parts ++ [part ++ x :: more]) whole)
    (hx : mayMiss x) : Parts mayMiss (parts ++ [part] ++ [more]) whole := by
  obtain ⟨rfl, rfl⟩ | ⟨before, hbefore, rfl | ⟨y, hy, rfl⟩⟩ := h.last
  · exact .miss more hx (.one part)
  · rw [← List.append_assoc]
    exact .miss more hx (.next part hbefore)
  · rw [← List.cons_append, ← List.append_assoc]
    exact .miss more hx (.miss part hy hbefore)

/-- Parts stay parts when every member is mapped. -/
theorem map {mayMiss' : β → Prop} (f : α → β) (hf : ∀ x, mayMiss x → mayMiss' (f x))
    (h : Parts mayMiss parts whole) : Parts mayMiss' (parts.map (List.map f)) (whole.map f) := by
  induction h with
  | one p => exact .one _
  | next p _ ih =>
    rw [List.map_append, List.map_append]
    exact .next _ ih
  | miss p hx _ ih =>
    rw [List.map_append, List.map_append]
    exact .miss _ (hf _ hx) ih

end Parts

/-- May a break take the place of the character? -/
def IsGap (c : Char) : Prop := c = '\n' ∨ c = ' '

/-- May a break take the place of the character, whatever it looks like? -/
def IsDressedGap (g : Dressed) : Prop := IsGap g.1

namespace Wrap

/-- Is the row solid, on its own, and without a style in force at its end? -/
structure IsClosed (row : Text) : Prop where
  solid : Solid row
  single : '\n' ∉ row
  styles : stylesAtEnd row = []

/-- Are the styles in force at the end of the text noted in `active`?  The text is part of a row. -/
structure Notes (row active : Text) : Prop where
  solid : Solid row
  single : '\n' ∉ row
  active : active = (stylesAtEnd row).flatten

namespace Notes

variable {row active : Text} (h : Notes row active)
include h

theorem isLasting : ∀ e ∈ stylesAtEnd row, IsLasting e :=
  forall_isLasting_inForce (fun _ he => absurd he List.not_mem_nil) h.solid

/-- A reset closes the row, if anything is in force. -/
theorem isClosed : IsClosed (row ++ closing (!active.isEmpty)) where
  solid := h.solid.append (solid_closing _)
  single hmem := (List.mem_append.mp hmem).elim h.single (newline_notMem_closing _)
  styles := by
    rw [stylesAtEnd_append h.solid.settled, h.active]
    exact inForce_closing h.isLasting

theorem glyphs_closed : glyphs (row ++ closing (!active.isEmpty)) = glyphs row := by
  rw [glyphs_append h.solid.settled, dressed_closing, List.append_nil]

end Notes

namespace State

/-- The rows in their order, the open one last. -/
def rows (s : State) : List Text := s.done.reverse ++ [s.row.reverse]

/-- After some tokens the rows hold what these show, with the styles that are in force there. -/
structure Follows (s : State) (ts : List Token) : Prop where
  done : ∀ row ∈ s.done, IsClosed row
  row : Notes s.row.reverse s.active
  styles : stylesAtEnd s.row.reverse = inForce [] ts
  head : ∀ h ∈ s.head, Notes h.text.reverse h.active
  word : Solid s.word.reverse
  parts : Parts IsDressedGap (s.rows.map glyphs) (dressed [] ts)

/-- With a last space, the row is what stands before it, the space and the word behind it. -/
theorem row_of_head {s : State} {h : Head} (hs : s.head = some h) :
    s.row.reverse = h.text.reverse ++ ' ' :: s.word.reverse := by
  simp [State.row, hs]

/-- A character comes to the end of the row. -/
theorem row_put (s : State) (c : Char) : (s.put c).row.reverse = s.row.reverse ++ [c] := by
  by_cases hc : c = ' '
  · subst hc
    exact List.reverse_cons
  · rcases hs : s.head with - | head <;> simp [State.put, State.row, hs, hc]

/-- An escape sequence comes to the end of the row. -/
theorem row_escape (room : Nat) (s : State) (e : Text) :
    (s.step room (.escape e)).row.reverse = s.row.reverse ++ e := by
  rcases hs : s.head with - | head <;> simp [State.step, State.row, hs]

/-- What a character does to the rows: it ends one, it breaks one, or it comes to the open one. -/
theorem step_glyph_cases (room : Nat) (s : State) (c : Char) :
    (IsGap c ∧ s.step room (.glyph c) = s.newRow)
      ∨ (¬IsGap c ∧ room < s.width + Unicode.columns c ∧ 0 < s.width
          ∧ s.step room (.glyph c) = s.breakRow.put c)
      ∨ (c ≠ '\n' ∧ ¬(room < s.width + Unicode.columns c ∧ 0 < s.width)
          ∧ s.step room (.glyph c) = s.put c) := by
  -- the program asks for a newline, then for room, then for a space
  by_cases hline : c = '\n'
  · exact .inl ⟨.inl hline, if_pos hline⟩
  · have hstep : s.step room (.glyph c)
        = if room < s.width + Unicode.columns c ∧ 0 < s.width then
            if c = ' ' then s.newRow else s.breakRow.put c
          else s.put c := if_neg hline
    by_cases hfull : room < s.width + Unicode.columns c ∧ 0 < s.width
    · rw [if_pos hfull] at hstep
      by_cases hspace : c = ' '
      · exact .inl ⟨.inr hspace, hstep.trans (if_pos hspace)⟩
      · have hgap : ¬IsGap c := fun hc => hc.elim hline hspace
        exact .inr (.inl ⟨hgap, hfull.1, hfull.2, hstep.trans (if_neg hspace)⟩)
    · exact .inr (.inr ⟨hline, hfull, hstep.trans (if_neg hfull)⟩)

/-- What one token keeps, a run of them keeps; `ts` are the tokens read so far. -/
theorem foldl_of_step {P : State → List Token → Prop} {Q : Token → Prop} {room : Nat}
    (hstep : ∀ {s ts k}, P s ts → Q k → P (s.step room k) (ts ++ [k])) {s : State}
    {ts us : List Token} (h : P s ts) (hus : ∀ k ∈ us, Q k) :
    P (us.foldl (State.step room) s) (ts ++ us) := by
  induction us generalizing s ts with
  | nil =>
    rw [List.append_nil]
    exact h
  | cons k us ih =>
    have hrest := ih (hstep h (hus k List.mem_cons_self)) fun l hl =>
      hus l (List.mem_cons_of_mem _ hl)
    rwa [List.append_assoc] at hrest

/-- At the start nothing has been read, and there is one empty row. -/
theorem follows_start : ({} : State).Follows [] where
  done _ hrow := absurd hrow List.not_mem_nil
  row := ⟨Solid.nil, List.not_mem_nil, rfl⟩
  styles := rfl
  head _ hh := absurd hh (by simp)
  word := Solid.nil
  parts := .one []

namespace Follows

variable {s : State} {ts : List Token} (h : s.Follows ts)
include h

/-- A token is added to the open row. -/
theorem extend {s' : State} {k : Token} (hk : k.IsSolid) (hline : '\n' ∉ k.source)
    (hdone : s'.done = s.done) (hrow : s'.row.reverse = s.row.reverse ++ k.source)
    (hactive : s'.active = (inForceAfter (inForce [] ts) k).flatten)
    (hhead : ∀ head ∈ s'.head, Notes head.text.reverse head.active)
    (hword : Solid s'.word.reverse) : s'.Follows (ts ++ [k]) := by
  -- the open row is settled, so the token is read at its end as it is read in the text
  have hsettled := h.row.solid.settled
  have hsource : Solid k.source := solid_source hk
  have hstyles : stylesAtEnd s'.row.reverse = inForce [] (ts ++ [k]) := by
    rw [hrow, stylesAtEnd_append hsettled, hk.1, h.styles, inForce_append]
  have hglyphs : glyphs s'.row.reverse = glyphs s.row.reverse ++ dressed (inForce [] ts) [k] := by
    rw [hrow, glyphs_append hsettled, hk.1, h.styles]
  have hparts := h.parts
  refine ⟨hdone ▸ h.done, ⟨?_, ?_, ?_⟩, hstyles, hhead, hword, ?_⟩
  · rw [hrow]
    exact h.row.solid.append hsource
  · rw [hrow]
    exact fun hmem => (List.mem_append.mp hmem).elim h.row.single hline
  · rw [hactive, hstyles, inForce_append]
    rfl
  · unfold State.rows at hparts ⊢
    rw [List.map_append] at hparts ⊢
    rw [hdone, dressed_append, List.map_singleton, hglyphs]
    exact hparts.grow _

/-- The row ends here; what follows begins another one under the same styles. -/
theorem newRow {us : List Token} (hstyles : inForce [] us = inForce [] ts)
    (hparts : Parts IsDressedGap (s.rows.map glyphs ++ [[]]) (dressed [] us)) :
    s.newRow.Follows us := by
  have hlasting := h.row.isLasting
  -- the new row starts with all that is in force, and shows nothing yet
  have hrow : s.newRow.row.reverse = (stylesAtEnd s.row.reverse).flatten ++ [] := by
    rw [List.append_nil, ← h.row.active]
    exact List.reverse_reverse _
  have hatEnd : stylesAtEnd s.newRow.row.reverse = stylesAtEnd s.row.reverse := by
    rw [hrow, inForce_replay hlasting]
    rfl
  have hsolid : Solid s.newRow.row.reverse := by
    rw [hrow, List.append_nil]
    exact solid_flatten hlasting
  refine ⟨?_, ⟨hsolid, ?_, ?_⟩, ?_, fun _ hh => absurd hh (by simp [State.newRow]), hsolid, ?_⟩
  · intro row hmem
    rcases List.mem_cons.mp hmem with rfl | hmem
    · exact h.row.isClosed
    · exact h.done row hmem
  · rw [hrow, List.append_nil]
    exact newline_notMem_flatten hlasting
  · exact h.row.active.trans (congrArg _ hatEnd.symm)
  · rw [hatEnd, h.styles, hstyles]
  · have hclosed : glyphs (finished s.row s.active) = glyphs s.row.reverse := h.row.glyphs_closed
    have hopen : glyphs s.newRow.row.reverse = [] := by
      rw [hrow, dressed_replay hlasting]
      rfl
    have hrows : s.newRow.rows.map glyphs = s.rows.map glyphs ++ [[]] := by
      have hdone : s.newRow.done = finished s.row s.active :: s.done := rfl
      simp [State.rows, hdone, hclosed, hopen]
    rw [hrows]
    exact hparts

/-- The word after the last space moves to the next row, and the space is gone. -/
theorem breakRow : s.breakRow.Follows ts := by
  -- without a space this is a new row; with one, the row is taken apart at the last space
  rcases hs : s.head with - | head
  · have hbreak : s.breakRow = s.newRow := by simp [State.breakRow, hs]
    rw [hbreak]
    refine h.newRow rfl ?_
    rw [← List.append_nil (dressed [] ts)]
    exact .next [] h.parts
  · have hnotes := h.head head hs
    have hlasting := hnotes.isLasting
    have hwhole := row_of_head hs
    have hspace : (Token.glyph ' ').IsSolid := Token.isSolid_glyph (by decide)
    have htokens : tokens (' ' :: s.word.reverse) = .glyph ' ' :: tokens s.word.reverse :=
      tokens_append hspace.2.1 _
    have hrow : s.breakRow.row.reverse
        = (stylesAtEnd head.text.reverse).flatten ++ s.word.reverse := by
      rw [← hnotes.active]
      simp [State.breakRow, State.row, hs]
    have hatEnd : stylesAtEnd s.breakRow.row.reverse = stylesAtEnd s.row.reverse := by
      rw [hrow, inForce_replay hlasting, hwhole, stylesAtEnd_append hnotes.solid.settled, htokens]
      rfl
    have hsolid : Solid s.breakRow.row.reverse := by
      rw [hrow]
      exact (solid_flatten hlasting).append h.word
    have hword : '\n' ∉ s.word.reverse := by
      intro hmem
      refine h.row.single ?_
      rw [hwhole]
      exact List.mem_append_right _ (List.mem_cons_of_mem _ hmem)
    have hbreak : s.breakRow.head = none ∧ s.breakRow.active = s.active
        ∧ s.breakRow.done = finished head.text head.active :: s.done := by
      simp [State.breakRow, hs]
    obtain ⟨hhead, hactive, hdone⟩ := hbreak
    refine ⟨?_, ⟨hsolid, ?_, ?_⟩, ?_, fun _ hh => absurd hh (by simp [hhead]), ?_, ?_⟩
    · rw [hdone]
      intro row hmem
      rcases List.mem_cons.mp hmem with rfl | hmem
      · exact hnotes.isClosed
      · exact h.done row hmem
    · rw [hrow]
      intro hmem
      exact (List.mem_append.mp hmem).elim (newline_notMem_flatten hlasting) hword
    · rw [hactive, hatEnd]
      exact h.row.active
    · rw [hatEnd]
      exact h.styles
    · have hself : s.breakRow.row = s.breakRow.word := by simp [State.row, hhead]
      rw [← hself]
      exact hsolid
    · -- the space is where the old row is split
      have hold : glyphs s.row.reverse = glyphs head.text.reverse
          ++ (' ', stylesAtEnd head.text.reverse) :: glyphs s.breakRow.row.reverse := by
        rw [hwhole, glyphs_append hnotes.solid.settled, htokens, hrow, dressed_replay hlasting]
        rfl
      have hclosed : glyphs (finished head.text head.active) = glyphs head.text.reverse :=
        hnotes.glyphs_closed
      have hparts := h.parts
      unfold State.rows at hparts ⊢
      rw [List.map_append, List.map_singleton, hold] at hparts
      rw [hdone, List.reverse_cons, List.map_append, List.map_append, List.map_singleton,
        List.map_singleton, hclosed]
      exact hparts.split (.inr rfl)

/-- A character that is put down is the last of the text that has been followed. -/
theorem put {c : Char} (hc : (Token.glyph c).IsSolid) (hline : c ≠ '\n') :
    (s.put c).Follows (ts ++ [.glyph c]) := by
  have hactive : s.active = (inForceAfter (inForce [] ts) (.glyph c)).flatten := by
    rw [h.row.active, h.styles]
    rfl
  have hsingle : '\n' ∉ (Token.glyph c).source := by simpa [Token.source] using hline.symm
  by_cases hspace : c = ' '
  · -- a space notes what stands before it
    subst hspace
    refine h.extend hc hsingle rfl (s.row_put ' ') hactive ?_ Solid.nil
    intro head hhead
    obtain rfl := Option.some.inj hhead
    exact h.row
  · have hrow := s.row_put c
    have hput : s.put c = { s with word := c :: s.word, width := s.width + Unicode.columns c } := by
      simp [State.put, hspace]
    rw [hput] at hrow ⊢
    refine h.extend hc hsingle rfl hrow hactive h.head ?_
    rw [List.reverse_cons]
    exact h.word.append (Solid.one hc.ne_esc)

/-- One more token is read. -/
theorem step (room : Nat) {k : Token} (hk : k.IsSolid) : (s.step room k).Follows (ts ++ [k]) := by
  -- an escape goes into the open row, and a reset or a rendition changes what is in force
  cases k with
  | escape e =>
    have hsolid : Solid e := solid_source hk
    refine h.extend hk (hk.2.2 e rfl) rfl (row_escape room s e) ?_ h.head ?_
    · show (if isReset e then [] else if isRendition e then s.active ++ e else s.active) = _
      rw [h.row.active, h.styles, flatten_inForceAfter]
    · show Solid (e.reverse ++ s.word).reverse
      rw [List.reverse_append, List.reverse_reverse]
      exact h.word.append hsolid
  | glyph c =>
    have hstyles : inForce [] (ts ++ [.glyph c]) = inForce [] ts := inForce_append
    obtain ⟨hgap, hstep⟩ | ⟨hgap, -, -, hstep⟩ | ⟨hline, -, hstep⟩ := step_glyph_cases room s c
    · -- a newline, or a space that is too much
      rw [hstep]
      refine h.newRow hstyles ?_
      rw [dressed_append]
      exact .miss [] hgap h.parts
    · -- no room is left
      rw [hstep]
      exact h.breakRow.put hk fun hc => hgap (.inl hc)
    · -- there is room
      rw [hstep]
      exact h.put hk hline

theorem foldl (room : Nat) {us : List Token} (hus : ∀ k ∈ us, k.IsSolid) :
    (us.foldl (State.step room) s).Follows (ts ++ us) :=
  foldl_of_step (fun h hk => h.step room hk) h hus

end Follows

end State

end Wrap

/-- The last state of a wrap: its rows, closed, are the rows of the text. -/
theorem wrap_eq (t : Text) {room : Nat} (hroom : 0 < room) :
    wrap t room = let s := (tokens t).foldl (Wrap.State.step room) {}
      s.done.reverse ++ [Wrap.State.finished s.row s.active] := by
  unfold wrap
  rw [if_neg (Nat.ne_of_gt hroom)]
  exact List.reverse_cons

section

variable {t : Text} (ht : Solid t) {room : Nat} (hroom : 0 < room)
include ht hroom

/-- Every row of a wrapped text stands for itself. -/
theorem isClosed_of_mem_wrap {row : Text} (h : row ∈ wrap t room) : Wrap.IsClosed row := by
  have hfollows := Wrap.State.follows_start.foldl room ht
  rw [wrap_eq t hroom] at h
  rcases List.mem_append.mp h with h | h
  · exact hfollows.done row (List.mem_reverse.mp h)
  · rw [List.mem_singleton.mp h]
    exact hfollows.row.isClosed

/-- The rows, put together, show what the text shows, with the same styles in force. -/
theorem parts_glyphs_wrap : Parts IsDressedGap ((wrap t room).map glyphs) (glyphs t) := by
  have hfollows := Wrap.State.follows_start.foldl room ht
  rw [List.nil_append] at hfollows
  have hwrap := wrap_eq t hroom
  generalize (tokens t).foldl (Wrap.State.step room) {} = s at hfollows hwrap
  have hclosed : glyphs (Wrap.State.finished s.row s.active) = glyphs s.row.reverse :=
    hfollows.row.glyphs_closed
  have hrows : (wrap t room).map glyphs = s.rows.map glyphs := by
    rw [hwrap]
    simp [Wrap.State.rows, hclosed]
  rw [hrows]
  exact hfollows.parts

/-- What the rows show are parts of what the text shows, with gaps in between that may be missing.
-/
theorem parts_strip_wrap : Parts IsGap ((wrap t room).map strip) (strip t) := by
  have hplain := (parts_glyphs_wrap ht hroom).map Prod.fst fun _ hg => hg
  have hstrip : List.map Prod.fst ∘ glyphs = strip := funext map_fst_glyphs
  rw [List.map_map, hstrip, map_fst_glyphs] at hplain
  exact hplain

end

/-- **Wrapping loses nothing, and every character keeps its looks.**  The rows, put together, are
the text, but for a newline or a space that a break may take the place of.  On its row a character
has the styles in force that it has in the text.  Every row stands for itself: it is a single one,
and no style is left in force at its end. -/
theorem wrap_keeps {t : Text} (ht : IsComplete t) {room : Nat} (hroom : 0 < room) :
    Parts IsGap ((wrap t room).map strip) (strip t)
      ∧ Parts IsDressedGap ((wrap t room).map glyphs) (glyphs t)
      ∧ ∀ row ∈ wrap t room, '\n' ∉ row ∧ stylesAtEnd row = [] := by
  refine ⟨parts_strip_wrap ht.solid hroom, parts_glyphs_wrap ht.solid hroom, fun row hrow => ?_⟩
  have hclosed := isClosed_of_mem_wrap ht.solid hroom hrow
  exact ⟨hclosed.single, hclosed.styles⟩

/-- Red and bold words around a break, the bold one closed behind a break of its own. -/
theorem wrap_keeps_red_bold :
    let t : Text := "\x1b[31mred \x1b[1mbold 世界\x1b[0m\nend".toList
    IsComplete t ∧ 0 < 6 ∧ (wrap t 6).map strip = ["red", "bold", "世界", "end"].map String.toList
      ∧ Parts IsGap ((wrap t 6).map strip) (strip t)
      ∧ Parts IsDressedGap ((wrap t 6).map glyphs) (glyphs t)
      ∧ ∀ row ∈ wrap t 6, '\n' ∉ row ∧ stylesAtEnd row = [] := by
  intro t
  have ht : IsComplete t := by decide +kernel
  exact ⟨ht, by decide, by decide +kernel, wrap_keeps ht (by decide)⟩

end AgentConsole.Styled
