import AgentConsole.Theme.Basic

/-!
# Looking back in a growing log

Lines are numbered from the oldest.  `offset` counts how many lines the view is
scrolled back from the newest; at zero it follows the log.  A view that is
scrolled back gives one row to each edge behind which there are more lines,
provided it has at least three rows.
-/

namespace AgentConsole.Frame

/-- The lines from `start` up to, but not including, `stop`, and which edges
say that there is more. -/
structure Window where
  start : Nat
  stop : Nat
  /-- The offset after it was limited to what there is. -/
  offset : Nat
  above : Bool := false
  below : Bool := false
  deriving DecidableEq, Repr

namespace Window

/-- The rows that the window takes, indicators included. -/
def rows (w : Window) : Nat := (w.stop - w.start) + w.above.toNat + w.below.toNat

/-- The largest offset that still moves the view. -/
def maxOffset (total height : Nat) : Nat :=
  if height < 3 then total - height else total - (height - 2)

/-- The lines that a view of `height` rows shows of `total` lines. -/
def «at» (total offset height : Nat) : Window :=
  if total = 0 ∨ height = 0 then ⟨0, 0, 0, false, false⟩
  else if offset = 0 then ⟨total - min height total, total, 0, false, false⟩
  else if height < 3 then
    let offset := min offset (total - min height total)
    ⟨total - offset - min height total, total - offset, offset, false, false⟩
  else
    let reach := min offset (total - (height - 2))
    let start := total - reach - (height - 2)
    if start = 0 then
      -- nothing is hidden above: that row goes to the content
      let reach := min reach (total - (height - 1))
      ⟨0, total - reach, reach, false, total - reach < total⟩
    else ⟨start, total - reach, reach, true, total - reach < total⟩

/-- The rows of a view over `lines`. -/
def render (theme : Theme) (lines : List Text) (offset height : Nat) : Text :=
  let total := lines.length
  let w := Window.at total offset height
  if w.start = w.stop then []
  else
    let more (arrow : Char) (n : Nat) : Text :=
      theme.muted (arrow :: ' ' :: Text.ofNat n ++ " more".toList)
    Text.ofRows
      ((if w.above then [more '▲' w.start] else [])
        ++ (lines.drop w.start).take (w.stop - w.start)
        ++ (if w.below then [more '▼' (total - w.stop)] else []))

end Window

end AgentConsole.Frame
