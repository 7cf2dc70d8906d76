import AgentConsole.Proofs.Styled.Omits

/-!
# Reverse video

A cell is drawn in reverse by a rendition before its character and a reset behind it.  What is drawn
so in a row can be read off it again (`reversed`), and a row in which reverse video is never turned
on has none, however it is cut and filled (`IsUpright`).

A row that is too long is cut after the cell was drawn, not before.  If the character of the cell
does not fit, the two sequences stay and there is nothing between them, so whether there is a cell
depends on the columns up to the end of that character alone (`reversed_fit_inverse`).
-/

namespace AgentConsole.Styled

open Color

/-- The sequence that turns reverse video on. -/
def reverseOn : Text := rendition ['7']

/-- The characters of a text that are shown in reverse video. -/
def reversed (t : Text) : Text := ((glyphs t).filter fun d => reverseOn ∈ d.2).map Prod.fst

theorem reversed_eq_shownUnder (t : Text) : reversed t = shownUnder reverseOn t := by
  simp [reversed, shownUnder]

/-! ### Rows without reverse video -/

/-- Is reverse video never turned on? -/
structure IsUpright (t : Text) : Prop where
  solid : Solid t
  notMem : Token.escape reverseOn ∉ tokens t

theorem isUpright_iff {t : Text} : IsUpright t ↔ Omits reverseOn t :=
  ⟨fun h => ⟨h.solid, h.notMem⟩, fun h => ⟨h.solid, h.notMem⟩⟩

theorem apart_reverseOn : Apart reverseOn := apart_rendition (by decide) (by decide) []

namespace IsUpright

variable {a b t : Text}

theorem of_notMem (h : esc ∉ t) : IsUpright t := isUpright_iff.mpr (.of_notMem h)

theorem append (ha : IsUpright a) (hb : IsUpright b) : IsUpright (a ++ b) :=
  isUpright_iff.mpr ((isUpright_iff.mp ha).append (isUpright_iff.mp hb))

theorem spaces (n : Nat) : IsUpright (Text.spaces n) := of_notMem (esc_notMem_spaces n)

/-- Cutting brings in no more than a reset. -/
theorem cut (h : IsUpright t) (room : Nat) : IsUpright (Styled.cut t room).1 :=
  isUpright_iff.mpr ((isUpright_iff.mp h).cut apart_reverseOn.ne_reset room)

theorem fit (h : IsUpright t) (room : Nat) : IsUpright (Styled.fit t room) :=
  (h.cut room).append (spaces _)

/-- Colours do not turn reverse video on. -/
theorem paint (h : IsUpright t) (c : Color) : IsUpright (c.paint t) :=
  isUpright_iff.mpr ((isUpright_iff.mp h).paint apart_reverseOn.ne_foreground c)

theorem reversed_eq_nil (h : IsUpright t) : reversed t = [] := by
  rw [reversed_eq_shownUnder, (isUpright_iff.mp h).shownUnder_eq_nil]

end IsUpright

/-! ### One cell in reverse -/

/-- Behind a text that ends with nothing in force, the next is read for itself. -/
theorem reversed_append {a : Text} (ha : Settled a) (hend : stylesAtEnd a = []) (b : Text) :
    reversed (a ++ b) = reversed a ++ reversed b := by
  unfold reversed
  rw [glyphs_append ha, hend, List.filter_append, List.map_append]
  rfl

theorem reversed_cons {c : Char} (hc : c ≠ esc) (t : Text) : reversed (c :: t) = reversed t := by
  unfold reversed glyphs
  rw [tokens_cons hc]
  rfl

/-- One inverted character is three tokens. -/
theorem tokens_inverse {c : Char} (hc : c ≠ esc) (t : Text) :
    tokens (inverse [c] ++ t) = .escape reverseOn :: .glyph c :: .escape reset :: tokens t := by
  have hon : Settled reverseOn := rfl
  have hoff : Settled reset := rfl
  have hsplit : inverse [c] ++ t = reverseOn ++ c :: (reset ++ t) := by simp [inverse, reverseOn]
  rw [hsplit, tokens_append hon, tokens_cons hc, tokens_append hoff]
  rfl

/-- An inverted character is reversed, and nothing behind it is. -/
theorem reversed_inverse {c : Char} (hc : c ≠ esc) (t : Text) :
    reversed (inverse [c] ++ t) = c :: reversed t := by
  unfold reversed glyphs
  rw [tokens_inverse hc]
  rfl

theorem fst_cutTokens_escape (styled : Bool) (room : Nat) (e : Text) (ts : List Token) :
    (cutTokens styled room (.escape e :: ts)).1
      = e ++ (cutTokens (styledAfter styled e) room ts).1 := rfl

/-- A cut keeps a character if there is room, and ends with it if there is none. -/
theorem fst_cutTokens_glyph (styled : Bool) (room : Nat) (c : Char) (ts : List Token) :
    (cutTokens styled room (.glyph c :: ts)).1 = if Unicode.columns c ≤ room
      then c :: (cutTokens styled (room - Unicode.columns c) ts).1 else closing styled := by
  rw [cutTokens]
  split
  · rfl
  · rfl

/-- A row that starts with a plain character is cut behind or before it. -/
theorem cut_cons {c : Char} (hc : c ≠ esc) (t : Text) (room : Nat) :
    (cut (c :: t) room).1
      = if Unicode.columns c ≤ room then c :: (cut t (room - Unicode.columns c)).1 else [] := by
  unfold cut
  rw [tokens_cons hc, fst_cutTokens_glyph]
  rfl

/-- A row that is cut away before its cell ends has the sequences of the cell, and nothing between
them. -/
theorem cut_inverse {c : Char} (hc : c ≠ esc) (t : Text) (room : Nat) :
    (cut (inverse [c] ++ t) room).1 = if Unicode.columns c ≤ room
      then inverse [c] ++ (cut t (room - Unicode.columns c)).1 else reverseOn ++ reset := by
  have hon : styledAfter false reverseOn = true := rfl
  have hoff : styledAfter true reset = false := rfl
  unfold cut
  rw [tokens_inverse hc, fst_cutTokens_escape, hon, fst_cutTokens_glyph, fst_cutTokens_escape, hoff]
  split
  · simp [inverse, reverseOn]
  · rfl

/-- **A cell in reverse is seen exactly if its character fits.** -/
theorem reversed_fit_inverse {before after : Text} (hbefore : esc ∉ before) {c : Char} (hc : c ≠ esc)
    (hafter : IsUpright after) (room : Nat) :
    reversed (fit (before ++ inverse [c] ++ after) room)
      = if rowWidth before + Unicode.columns c ≤ room then [c] else [] := by
  -- how many spaces fill the row does not matter, so they are the same while it gets shorter
  suffices h : ∀ n, reversed ((cut (before ++ inverse [c] ++ after) room).1 ++ Text.spaces n)
      = if rowWidth before + Unicode.columns c ≤ room then [c] else [] from h _
  intro n
  induction before generalizing room with
  | nil =>
    have hnil : rowWidth [] = 0 := rfl
    rw [List.nil_append, cut_inverse hc, hnil, Nat.zero_add]
    split
    · rw [List.append_assoc, reversed_inverse hc,
        ((hafter.cut _).append (IsUpright.spaces n)).reversed_eq_nil]
    · have hsettled : Settled (reverseOn ++ reset) := rfl
      have hend : stylesAtEnd (reverseOn ++ reset) = [] := by decide
      have hnone : reversed (reverseOn ++ reset) = [] := by decide
      rw [reversed_append hsettled hend, hnone, (IsUpright.spaces n).reversed_eq_nil, List.nil_append]
  | cons b before ih =>
    obtain ⟨hb, hrest⟩ := not_or.mp (mt List.mem_cons.mpr hbefore)
    have hb : b ≠ esc := Ne.symm hb
    rw [List.cons_append, List.cons_append, cut_cons hb, rowWidth_cons hb]
    split
    · rw [List.cons_append, reversed_cons hb, ih hrest]
      congr 1
      exact propext (by omega)
    · rw [List.nil_append, (IsUpright.spaces n).reversed_eq_nil, if_neg (by omega)]

end AgentConsole.Styled
