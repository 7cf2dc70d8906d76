/-!
# Layout of the main frame

A header row, the body, a footer row.  The body shows the output and, from
sixty columns on, the list of worktrees beside it.
-/

namespace AgentConsole.Frame

/-- How wide a terminal is, as far as the layout is concerned. -/
inductive Breakpoint where
  /-- Under 60 columns: no list of worktrees. -/
  | compact
  /-- Under 100 columns: a narrow list. -/
  | normal
  /-- Under 140 columns: the full list. -/
  | wide
  /-- 140 columns and more. -/
  | ultraWide
  deriving DecidableEq, Repr

namespace Breakpoint

/-- The class of a width. -/
def ofWidth (width : Nat) : Breakpoint :=
  if width < 60 then compact else if width < 100 then normal
  else if width < 140 then wide else ultraWide

/-- The place of a class among the four. -/
def rank : Breakpoint → Nat
  | compact => 0
  | normal => 1
  | wide => 2
  | ultraWide => 3

/-- Is the class at least as wide as `least`? -/
def atLeast (b least : Breakpoint) : Bool := least.rank ≤ b.rank

/-- Columns of the list of worktrees; zero where it is hidden. -/
def sidebarWidth : Breakpoint → Nat
  | compact => 0
  | normal => 24
  | wide => 30
  | ultraWide => 36

end Breakpoint

/-- The smallest frame that is laid out in full. -/
def minWidth : Nat := 20

/-- The smallest frame that is laid out in full. -/
def minHeight : Nat := 5

/-- Is the terminal too small for anything but a notice? -/
def isDegenerate (width height : Nat) : Bool := width < minWidth || height < minHeight

/-- The size of a frame, from which the sizes of its regions follow. -/
structure Layout where
  width : Nat
  height : Nat
  deriving DecidableEq, Repr

namespace Layout

/-- The class of the frame's width. -/
def breakpoint (l : Layout) : Breakpoint := .ofWidth l.width

/-- Rows between header and footer. -/
def bodyHeight (l : Layout) : Nat := l.height - 2

/-- Columns of the list of worktrees. -/
def sidebarWidth (l : Layout) : Nat := l.breakpoint.sidebarWidth

/-- Is the list of worktrees shown? -/
def hasSidebar (l : Layout) : Bool := 0 < l.sidebarWidth

/-- Columns of the output, which a divider sets apart from the list. -/
def outputWidth (l : Layout) : Nat := l.width - (l.sidebarWidth + l.hasSidebar.toNat)

/-- Columns inside a modal box. -/
def modalWidth (l : Layout) : Nat :=
  max (min (if l.breakpoint.atLeast .wide then 72 else 56) (l.width - 4)) (minWidth - 4)

/-- Rows that the content of a modal box may take. -/
def modalHeight (l : Layout) : Nat := max (l.height - 6) 1

end Layout

end AgentConsole.Frame
