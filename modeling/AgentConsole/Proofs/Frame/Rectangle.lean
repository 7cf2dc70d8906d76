import AgentConsole.Proofs.Frame.Box
import AgentConsole.Proofs.Frame.Overlay
import AgentConsole.Proofs.Styled.Strip
import AgentConsole.Toast

/-!
# Exact rectangles

The panes, the boxes and the toasts line up because each of them is a rectangle: all its rows
measure the same (`IsRectangle`).

A text is solid exactly if the escape sequences on each of its rows are finished
(`solid_iff_rows`), and that is all that is asked of a content: it may be empty, it may hold
signs of two columns where it is cut, and styles that are never closed.  To cut a rectangle from
a rectangle of that size changes nothing (`rectangle_of_isRectangle`), and from this it follows
that cutting twice is cutting once.

The toasts are a box as well.  What a toast shows may take several rows, as its message may, and
the colour around them takes no room (`Solid.width_paint`), so the inside of the box is as wide
as the widest truncated message and keeps within the room that there is.
-/

namespace AgentConsole

namespace Styled

open Color

/-- Has the text that many rows, each of them that many columns wide? -/
structure IsRectangle (t : Text) (columns height : Nat) : Prop where
  rows : t.rows.length = height
  row : ∀ row ∈ t.rows, width row = columns

variable {t : Text} {columns height : Nat}

theorem isRectangle_of_rowWidth (hrows : t.rows.length = height)
    (hrow : ∀ row ∈ t.rows, rowWidth row = columns) : IsRectangle t columns height :=
  ⟨hrows, fun row h => (flat_of_mem_rows h).width.trans (hrow row h)⟩

theorem IsRectangle.rowWidth (h : IsRectangle t columns height) {row : Text} (hrow : row ∈ t.rows) :
    rowWidth row = columns := by
  rw [← (flat_of_mem_rows hrow).width]
  exact h.row row hrow

/-- No sequence runs over the end of a row of a solid text, nor is the last one of a row open. -/
theorem solid_iff_rows : Solid t ↔ ∀ row ∈ t.rows, EscapeComplete row := by
  constructor
  · intro h row hrow
    exact (h.rows row hrow).escapeComplete
  · intro h
    rw [← Text.ofRows_rows t]
    exact solid_ofRows fun row hrow => (h row hrow).solid (flat_of_mem_rows hrow)

/-! ### Cutting a rectangle -/

/-- A rectangle of the size is not touched. -/
theorem rectangle_of_isRectangle (h : IsRectangle t columns height) :
    rectangle t columns height = t := by
  have hkept : (t.rows.take height).map (fit · columns) = t.rows := by
    rw [← h.rows, List.take_length]
    calc t.rows.map (fit · columns) = t.rows.map id :=
          List.map_congr_left fun row hrow => fit_of_rowWidth (h.rowWidth hrow)
      _ = t.rows := List.map_id t.rows
  unfold rectangle
  dsimp only
  rw [hkept, h.rows, Nat.sub_self, List.replicate_zero, List.append_nil, Text.ofRows_rows]

theorem Solid.isRectangle (h : Solid t) (columns : Nat) (hh : 0 < height) :
    IsRectangle (Styled.rectangle t columns height) columns height := by
  obtain ⟨hrows, hrow⟩ := rows_rectangle h columns hh
  exact isRectangle_of_rowWidth hrows hrow

/-! ### Painted texts -/

/-- A colour takes no room, over however many rows it is painted. -/
theorem Solid.width_paint (h : Solid t) (c : Color) : Styled.width (c.paint t) = Styled.width t := by
  rw [← width_strip (h.paint c), h.strip_paint, width_strip h]

end Styled

open Styled

/-! ### Boxes -/

/-- A box is a rectangle around its content. -/
theorem Frame.isRectangle_boxed (theme : Theme) (border : Color) {title content : Text}
    (hflat : Flat title) (htitle : Solid title) (hcontent : Solid content) (inner : Nat) :
    IsRectangle (boxed theme border title content inner) (inner + 2) (content.rows.length + 2) :=
  isRectangle_of_rowWidth (length_rows_boxed theme border inner hflat)
    (rowWidth_boxed theme border inner hflat htitle hcontent)

/-! ### Toasts -/

/-- The greatest of numbers, if there is one, is one of them. -/
theorem getD_max?_le {ns : List Nat} {n : Nat} (h : ∀ m ∈ ns, m ≤ n) : ns.max?.getD 0 ≤ n := by
  rcases hmax : ns.max? with - | m
  · exact Nat.zero_le n
  · exact h m (List.max?_mem hmax)

namespace ToastQueue

variable (theme : Theme) {q : ToastQueue}

theorem solid_words {t : Toast} (h : esc ∉ t.message) :
    Solid (' ' :: t.severity.icon :: ' ' :: t.message ++ [' ']) := by
  have hicon : t.severity.icon ≠ esc := by cases t.severity <;> decide
  refine Solid.append ?_ (Solid.one (by decide))
  exact (((solid_of_notMem h).cons (by decide)).cons hicon).cons (by decide)

theorem solid_row (room : Nat) {t : Toast} (h : esc ∉ t.message) : Solid (row theme room t) :=
  ((solid_words h).truncate room).paint _

/-- A toast does not get wider than its room. -/
theorem width_row_le (room : Nat) {t : Toast} (h : esc ∉ t.message) :
    Styled.width (row theme room t) ≤ room := by
  unfold row
  rw [((solid_words h).truncate room).width_paint]
  exact width_truncate_le _ room

/-- Toasts are drawn unless there are none or there is no room. -/
theorem render?_eq_none_iff (q : ToastQueue) (maxWidth : Nat) :
    q.render? theme maxWidth = none ↔ q.toasts = [] ∨ maxWidth < 8 := by
  unfold render?
  split
  · rename_i h
    exact iff_of_true rfl (h.imp_left List.isEmpty_iff.mp)
  · rename_i h
    exact iff_of_false (by simp) fun hfew => h (hfew.imp_left List.isEmpty_iff.mpr)

/-- What is drawn of the toasts is a box of solid rows that keeps within the room. -/
theorem exists_boxed_of_render? (h : ∀ t ∈ q.toasts, esc ∉ t.message) {maxWidth : Nat}
    {block : Text} (hblock : q.render? theme maxWidth = some block) : ∃ content inner,
      block = Frame.boxed theme theme.border [] content inner ∧ Solid content
        ∧ inner + 2 ≤ maxWidth := by
  have hroom : ¬maxWidth < 8 := by
    intro hnarrow
    have hnone := (render?_eq_none_iff theme q maxWidth).mpr (.inr hnarrow)
    exact absurd (hblock.symm.trans hnone) (Option.some_ne_none block)
  unfold render? at hblock
  split at hblock
  · exact absurd hblock (by simp)
  · have hinner : (((q.toasts.map (row theme (maxWidth - 2))).map Styled.width).max?).getD 0
        ≤ maxWidth - 2 := by
      -- the widest row decides, and each of them was truncated to the room
      refine getD_max?_le fun m hm => ?_
      obtain ⟨r, hr, rfl⟩ := List.mem_map.mp hm
      obtain ⟨t, ht, rfl⟩ := List.mem_map.mp hr
      exact width_row_le theme _ (h t ht)
    refine ⟨_, _, (Option.some.inj hblock).symm, solid_ofRows fun r hr => ?_, by omega⟩
    obtain ⟨t, ht, rfl⟩ := List.mem_map.mp hr
    exact solid_row theme _ (h t ht)

theorem solid_of_render? (h : ∀ t ∈ q.toasts, esc ∉ t.message) {maxWidth : Nat} {block : Text}
    (hblock : q.render? theme maxWidth = some block) : Solid block := by
  obtain ⟨content, inner, rfl, hcontent, -⟩ := exists_boxed_of_render? theme h hblock
  exact Frame.solid_boxed Solid.nil hcontent theme _ inner

/-- What is drawn is a rectangle that fits. -/
theorem isRectangle_of_render? (h : ∀ t ∈ q.toasts, esc ∉ t.message) {maxWidth : Nat}
    {block : Text} (hblock : q.render? theme maxWidth = some block) :
    ∃ columns, columns ≤ maxWidth ∧ IsRectangle block columns block.rows.length := by
  obtain ⟨content, inner, rfl, hcontent, hroom⟩ := exists_boxed_of_render? theme h hblock
  have hbox := Frame.isRectangle_boxed theme theme.border Flat.nil Solid.nil hcontent inner
  exact ⟨inner + 2, hroom, rfl, hbox.row⟩

end ToastQueue

namespace Frame

/-! ### All of them -/

/-- **Exact rectangles.**  From a text on whose rows all escape sequences are finished, whatever
it is, a rectangle of exactly the size is cut, and cutting again changes nothing; a box around it
is exactly two rows higher than the text and two columns wider than its inside.  The toasts are
drawn if there are any and at least eight columns, as a rectangle that is no wider than asked. -/
theorem exact_rectangles (theme : Theme) {t : Text} (ht : ∀ row ∈ t.rows, EscapeComplete row) :
    (∀ width height, 1 ≤ height →
      IsRectangle (rectangle t width height) width height
        ∧ rectangle (rectangle t width height) width height = rectangle t width height)
    ∧ (∀ border title inner, Flat title → EscapeComplete title →
        IsRectangle (boxed theme border title t inner) (inner + 2) (t.rows.length + 2))
    ∧ ∀ q : ToastQueue, (∀ toast ∈ q.toasts, esc ∉ toast.message) → ∀ maxWidth,
        (q.render? theme maxWidth = none ↔ q.toasts = [] ∨ maxWidth < 8)
        ∧ ∀ block, q.render? theme maxWidth = some block →
          ∃ columns, columns ≤ maxWidth ∧ IsRectangle block columns block.rows.length := by
  have hs : Solid t := solid_iff_rows.mpr ht
  -- cutting, boxing and toasts have a lemma each; what is left is to make the text solid
  refine ⟨fun width height hh => ?_, fun border title inner hflat htitle => ?_,
    fun q hq maxWidth => ?_⟩
  · have hcut := hs.isRectangle width hh
    exact ⟨hcut, rectangle_of_isRectangle hcut⟩
  · exact isRectangle_boxed theme border hflat (htitle.solid hflat) hs inner
  · refine ⟨q.render?_eq_none_iff theme maxWidth, fun block hblock => ?_⟩
    exact ToastQueue.isRectangle_of_render? theme hq hblock

/-- A red text with an empty row, cut inside a wide character and put into a box that its title
is too long for, and a message of two rows. -/
theorem exact_rectangles_red :
    let t : Text := "\x1b[31m世界\n\nend".toList
    let title : Text := "\x1b[1mtoo long".toList
    let q : ToastQueue := { toasts := [⟨"two\nrows".toList, .error, 0⟩] }
    (∀ row ∈ t.rows, EscapeComplete row)
      ∧ rectangle t 3 4 = "\x1b[31m世\x1b[0m \n   \nend\n   ".toList
      ∧ IsRectangle (rectangle t 3 4) 3 4
      ∧ rectangle (rectangle t 3 4) 3 4 = rectangle t 3 4
      ∧ Flat title ∧ EscapeComplete title
      ∧ IsRectangle (boxed Theme.fallback .terminal title t 6) 8 5
      ∧ (∀ toast ∈ q.toasts, esc ∉ toast.message)
      ∧ q.render? Theme.fallback 7 = none
      ∧ ∃ block, q.render? Theme.fallback 12 = some block
        ∧ ∃ columns, columns ≤ 12 ∧ IsRectangle block columns block.rows.length := by
  intro t title q
  have hrows : ∀ row ∈ t.rows, IsComplete row := by decide +kernel
  have ht (row : Text) (hrow : row ∈ t.rows) : EscapeComplete row :=
    (hrows row hrow).solid.escapeComplete
  have hflat : Flat title := by decide +kernel
  have hcomplete : IsComplete title := by decide +kernel
  have htitle := hcomplete.solid.escapeComplete
  have hq : ∀ toast ∈ q.toasts, esc ∉ toast.message := by decide +kernel
  obtain ⟨hcut, hbox, htoasts⟩ := exact_rectangles Theme.fallback ht
  obtain ⟨hrectangle, hagain⟩ := hcut 3 4 (by decide)
  have hthree : t.rows.length = 3 := by decide +kernel
  have hboxed := hbox .terminal title 6 hflat htitle
  rw [hthree] at hboxed
  obtain ⟨hnarrow, -⟩ := htoasts q hq 7
  obtain ⟨hwide, hsize⟩ := htoasts q hq 12
  obtain ⟨block, hblock⟩ := Option.ne_none_iff_exists'.mp (mt hwide.mp (by decide))
  exact ⟨ht, by decide +kernel, hrectangle, hagain, hflat, htitle, hboxed, hq,
    hnarrow.mpr (.inr (by decide)), block, hblock, hsize block hblock⟩

end Frame

end AgentConsole
