import AgentConsole.Proofs.Styled.Fit
import AgentConsole.Styled.Splice

/-!
# Splicing keeps texts solid

Both halves of a row that is split at a column are made of tokens of the row,
spaces and resets; the second half starts with the sequences that were in force at
the column.  So neither half has an escape sequence that was cut in two.
-/

namespace AgentConsole.Styled

theorem solid_source {k : Token} (h : k.IsSolid) : Solid k.source := by
  intro l hl
  rw [h.1] at hl
  exact (List.mem_singleton.mp hl) ▸ h

/-- The part before the column is made of whole tokens. -/
theorem solid_before {ts : List Token} (h : ∀ k ∈ ts, k.IsSolid) (styled : Bool) (room : Nat) :
    Solid (before styled room ts) := by
  induction ts generalizing styled room with
  | nil => exact (solid_closing styled).append (solid_spaces room)
  | cons k ts ih =>
    have hts := ih fun l hl => h l (List.mem_cons_of_mem _ hl)
    have hk := h k List.mem_cons_self
    unfold before
    split
    · exact solid_closing styled
    -- a wide character across the column is no token of the result; a blank stands for it
    · cases k with
      | escape s => exact (solid_source hk).append (hts _ _)
      | glyph c =>
        dsimp only
        split
        · exact (Solid.cons (by decide) (solid_closing styled)).append (solid_spaces _)
        · exact Solid.cons hk.ne_esc (hts _ _)

theorem Solid.splice {row overlay : Text} (hr : Solid row) (ho : Solid overlay) (column : Nat) :
    Solid (Styled.splice row overlay column) :=
  (solid_before hr false column).append ho

theorem solid_after {ts : List Token} (h : ∀ k ∈ ts, k.IsSolid) {active : Text}
    (ha : Solid active) (room : Nat) : Solid (after active room ts) := by
  induction ts generalizing active room with
  | nil => exact Solid.nil
  | cons k ts ih =>
    have hts : ∀ l ∈ ts, l.IsSolid := fun l hl => h l (List.mem_cons_of_mem _ hl)
    cases k with
    | escape s =>
      have hs : Solid s := solid_source (h _ List.mem_cons_self)
      refine ih hts ?_ room
      -- the styles in force after the sequence
      split
      · exact Solid.nil
      · split
        · exact ha.append hs
        · exact ha
    | glyph c =>
      unfold after
      split
      · exact ih hts ha _
      · split
        · exact ha.append (solid_sources hts)
        · exact ha.append (Solid.cons (by decide) (solid_sources hts))

theorem Solid.skip {row : Text} (h : Solid row) (column : Nat) :
    Solid (Styled.skip row column) := by
  unfold Styled.skip
  split
  · exact h
  · exact solid_after h Solid.nil column

end AgentConsole.Styled
