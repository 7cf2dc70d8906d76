import AgentConsole.Frame.Overlay
import AgentConsole.Frame.Scrollback
import AgentConsole.Proofs.Styled.Splice
import AgentConsole.Proofs.Theme.Paint

/-!
# Overlays and views keep texts solid

Boxes, overlays and views over a log are put together from solid parts, so they
are solid.
-/

namespace AgentConsole

open Styled

/-! ### Numbers -/

theorem Text.esc_notMem_ofNat (n : Nat) : esc ∉ Text.ofNat n := by
  intro h
  rcases Color.isParameters_ofNat n _ h with h | h <;> simp [esc] at h

theorem Styled.solid_ofNat (n : Nat) : Solid (Text.ofNat n) :=
  solid_of_notMem (Text.esc_notMem_ofNat n)

theorem Styled.solid_times {t : Text} (h : Solid t) (n : Nat) : Solid (Text.times n t) :=
  Solid.flatten fun _ hu => List.eq_of_mem_replicate hu ▸ h

namespace Frame

/-! ### Overlays -/

/-- If every change keeps rows solid, the picture stays solid. -/
theorem solid_onRows {base overlay : Text} (hb : Solid base) (ho : Solid overlay) (y : Nat)
    {change : Text → Text → Text}
    (hchange : ∀ row line, Solid row → Solid line → Solid (change row line)) :
    Solid (onRows base overlay y change) := by
  refine solid_ofRows fun row hrow => ?_
  obtain ⟨i, hi, rfl⟩ := List.mem_mapIdx.mp hrow
  have hbase : Solid base.rows[i] := hb.rows _ (List.getElem_mem hi)
  split
  · exact hbase
  · split
    · rename_i line hline
      exact hchange _ _ hbase (ho.rows line (List.mem_of_getElem? hline))
    · exact hbase

theorem solid_floatAt {base overlay : Text} (hb : Solid base) (ho : Solid overlay) (x y : Nat) :
    Solid (floatAt base overlay x y) :=
  solid_onRows hb ho y fun _ _ hr hl => (hr.splice (hl.fit _) x).append (hr.skip _)

theorem solid_floatCentered {base overlay : Text} (hb : Solid base) (ho : Solid overlay)
    (width height : Nat) : Solid (floatCentered base overlay width height) :=
  solid_floatAt hb ho _ _

/-- A box around solid content is solid. -/
theorem solid_boxed {title content : Text} (ht : Solid title) (hc : Solid content)
    (theme : Theme) (border : Color) (inner : Nat) :
    Solid (boxed theme border title content inner) := by
  have hedge (c : Char) (h : c ≠ esc) : Solid (border.paint [c]) := (Solid.one h).paint border
  have hline (n : Nat) : Solid (border.paint (Text.times n ['─'])) :=
    (solid_times (Solid.one (by decide)) n).paint border
  have htitle : Solid (if title.isEmpty then []
      else Styled.truncate (' ' :: title ++ [' ']) inner) := by
    split
    · exact Solid.nil
    · exact ((ht.cons (by decide)).append (Solid.one (by decide))).truncate inner
  refine solid_ofRows fun row hrow => ?_
  simp only [List.cons_append, List.mem_cons, List.mem_append, List.mem_map, List.not_mem_nil,
    or_false] at hrow
  -- the upper edge with the title in it, a row between two sides, the lower edge
  rcases hrow with rfl | ⟨r, hr, rfl⟩ | rfl
  · exact (((hedge '╭' (by decide)).append (htitle.strong _)).append (hline _)).append
      (hedge '╮' (by decide))
  · exact ((hedge '│' (by decide)).append ((hc.rows r hr).fit inner)).append
      (hedge '│' (by decide))
  · exact ((hedge '╰' (by decide)).append (hline _)).append (hedge '╯' (by decide))

/-! ### Views over a log -/

theorem Window.solid_render {lines : List Text} (h : ∀ row ∈ lines, Solid row) (theme : Theme)
    (offset height : Nat) : Solid (Window.render theme lines offset height) := by
  have hmore (arrow : Char) (harrow : arrow ≠ esc) (n : Nat) :
      Solid (theme.muted (arrow :: ' ' :: Text.ofNat n ++ " more".toList)) :=
    ((((solid_ofNat n).cons (by decide)).cons harrow).append (solid_literal (by decide))).muted _
  unfold Window.render
  dsimp only
  split
  · exact Solid.nil
  · refine solid_ofRows fun row hrow => ?_
    -- the upper edge, lines of the log, the lower edge
    rcases List.mem_append.mp hrow with hrow | hrow
    · rcases List.mem_append.mp hrow with hrow | hrow
      · split at hrow
        · obtain rfl := List.mem_singleton.mp hrow
          exact hmore '▲' (by decide) _
        · simp at hrow
      · exact h row (List.mem_of_mem_drop (List.mem_of_mem_take hrow))
    · split at hrow
      · obtain rfl := List.mem_singleton.mp hrow
        exact hmore '▼' (by decide) _
      · simp at hrow

end Frame

end AgentConsole
