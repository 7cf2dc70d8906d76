import AgentConsole.Frame.Scrollback

/-!
# Scroll positions

A view over a log that grows at its end is pinned, and then follows the log, or
scrolled back, and then keeps showing the same lines.  Every source that was
looked at remembers its own offset.
-/

namespace AgentConsole

/-- The position of a view: lines scrolled back, lines in all, rows of the view. -/
structure ScrollView where
  offset : Nat := 0
  total : Nat := 0
  viewport : Nat := 0
  deriving DecidableEq, Repr

namespace ScrollView

/-- Offsets are counted up to this number and no further. -/
def ceiling : Nat := UInt64.size - 1

/-- A view scrolled back by `offset` lines, of which nothing else is known yet. -/
def «at» (offset : Nat) : ScrollView := { offset }

/-- The largest offset that still moves the view. -/
def maxOffset (v : ScrollView) : Nat := Frame.Window.maxOffset v.total v.viewport

/-- Limits the offset to what there is; a view without rows is left alone. -/
def clamp (v : ScrollView) : ScrollView :=
  if v.viewport = 0 then v else { v with offset := min v.offset v.maxOffset }

/-- Takes over the size of the log and of the view. -/
def resize (v : ScrollView) (total viewport : Nat) : ScrollView :=
  { v with total, viewport }.clamp

/-- Lines were added at the end of the log. -/
def append (v : ScrollView) (added : Nat) : ScrollView :=
  { v with
    total := min (v.total + added) ceiling
    offset := if v.offset = 0 then 0 else min (v.offset + added) ceiling }.clamp

/-- Toward older lines. -/
def up (v : ScrollView) (lines : Nat) : ScrollView :=
  { v with offset := min (v.offset + lines) ceiling }.clamp

/-- Toward newer lines; at zero the view is pinned again. -/
def down (v : ScrollView) (lines : Nat) : ScrollView :=
  { v with offset := v.offset - lines }

/-- The lines of a page: the rows of the view without its two indicators. -/
def page (v : ScrollView) : Nat := max (v.viewport - 2) 1

/-- A page toward older lines. -/
def pageUp (v : ScrollView) : ScrollView := v.up v.page

/-- A page toward newer lines. -/
def pageDown (v : ScrollView) : ScrollView := v.down v.page

/-- To the oldest line. -/
def top (v : ScrollView) : ScrollView := { v with offset := v.maxOffset }

/-- To the newest line. -/
def pin (v : ScrollView) : ScrollView := { v with offset := 0 }

/-- Does the view follow the log? -/
def pinned (v : ScrollView) : Bool := v.offset = 0

end ScrollView

/-- The offsets that sources are remembered by. -/
structure ScrollMemory (α : Type) where
  offsets : List (α × Nat) := []

namespace ScrollMemory

variable {α : Type} [DecidableEq α]

/-- The offset remembered for a source. -/
def get? (m : ScrollMemory α) (source : α) : Option Nat := m.offsets.lookup source

/-- Remembers an offset. -/
def insert (m : ScrollMemory α) (source : α) (offset : Nat) : ScrollMemory α :=
  ⟨(source, offset) :: m.offsets.filter (·.1 ≠ source)⟩

/-- Turns from one source to another: the offset of the first is remembered,
and the view of the second starts from what is remembered of it. -/
def switch (m : ScrollMemory α) (source : Option α) (view : ScrollView) (target : α) :
    ScrollView × ScrollMemory α :=
  let m :=
    match source with
    | some s => m.insert s view.offset
    | none => m
  (ScrollView.at ((m.get? target).getD 0), m)

/-- Forgets the sources that do not satisfy `keep`. -/
def retain (m : ScrollMemory α) (keep : α → Bool) : ScrollMemory α :=
  ⟨m.offsets.filter fun entry => keep entry.1⟩

end ScrollMemory

end AgentConsole
