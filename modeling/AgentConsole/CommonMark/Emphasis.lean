import AgentConsole.CommonMark.Event

/-!
# Emphasis

Runs of `*`, `_` and `~` are matched from left to right.  A run that may close
takes back the nearest opener that fits; the openers it passes over are text.
What is left of a run, once no opener fits any more, waits as an opener itself
or is text.
-/

namespace AgentConsole.CommonMark

/-- Part of a text: what has been read, or a run of marks whose meaning is open. -/
inductive Inline where
  | read (events : List Event)
  | run (mark : Char) (count : Nat) (opens closes : Bool)
  deriving DecidableEq, Repr

namespace Emphasis

/-- A run that waits to be closed. -/
structure Opener where
  mark : Char
  /-- Marks that are left. -/
  count : Nat
  /-- Marks that there were. -/
  length : Nat
  /-- May the run also close? -/
  both : Bool
  /-- The events before the run, newest first. -/
  before : List Event

/-- The reading of a text between two of its parts. -/
structure State where
  /-- The waiting runs, innermost first. -/
  openers : List Opener := []
  /-- The events since the innermost of them, newest first. -/
  events : List Event := []
  /-- So many of the outermost openers are out of reach for tildes. -/
  tildeFloor : Nat := 0

/-- May the opener be closed by a run of this mark and length?  A run that both
opens and closes fits only if the lengths together are no multiple of three or
the closing one is. -/
def Opener.fits (o : Opener) (mark : Char) (length : Nat) (both : Bool) : Bool :=
  o.mark = mark && (mark != '~' || o.length = length) &&
    ((!both && !o.both) || (o.length + length) % 3 ≠ 0 || length % 3 = 0)

/-- Marks as text, each by itself. -/
def marks (mark : Char) (count : Nat) : List Event := List.replicate count (.text [mark])

/-- The innermost opener is text after all. -/
def State.giveUp (s : State) : State :=
  match s.openers with
  | [] => s
  | o :: outer =>
    { s with openers := outer, events := s.events ++ marks o.mark o.count ++ o.before }

/-- Gives up the `n` innermost openers. -/
def State.giveUpMany : Nat → State → State
  | 0, s => s
  | n + 1, s => giveUpMany n s.giveUp

/-- What stars or underscores around some events mean: two are strong and a
single one is weak emphasis, the innermost marks first. -/
def emphasized : Nat → List Event → List Event
  | 0, events => events
  | 1, events => Event.within .emphasis events
  | n + 2, events => emphasized n (Event.within .strong events)

/-- What `count` marks around some events mean; tildes strike through. -/
def wrap (mark : Char) (count : Nat) (events : List Event) : List Event :=
  if mark = '~' then Event.within .strikethrough events else emphasized count events

/-- The innermost opener that the run fits: how many openers lie inside of it. -/
def State.partner? (s : State) (mark : Char) (length : Nat) (both : Bool) : Option Nat :=
  let reach := s.openers.length - if mark = '~' then s.tildeFloor else 0
  (s.openers.take reach).findIdx? (·.fits mark length both)

/-- Closes as many openers as fit a run with `count` marks left; also tells how
many marks are left then.  `fuel` bounds the openers, which take a mark each. -/
def State.close (mark : Char) (length : Nat) (both : Bool) : Nat → Nat → State → Nat × State
  | 0, count, s => (count, s)
  | fuel + 1, count, s =>
    if count = 0 then (count, s)
    else
      match s.partner? mark length both with
      | none =>
        (count, if mark = '~' then { s with tildeFloor := s.openers.length } else s)
      | some inside =>
        let s := s.giveUpMany inside
        match s.openers with
        | [] => (count, s)
        | o :: outer =>
          let n := min count o.count
          let wrapped := (wrap mark n s.events.reverse).reverse
          let s :=
            if n < o.count then
              { s with openers := { o with count := o.count - n } :: outer, events := wrapped }
            else { s with openers := outer, events := wrapped ++ o.before }
          s.close mark length both fuel (count - n)

/-- Reads one part. -/
def State.step (s : State) : Inline → State
  | .read events => { s with events := events.reverse ++ s.events }
  | .run mark count opens closes =>
    let both := opens && closes
    let (left, s) := if closes then s.close mark count both count count else (count, s)
    let s := { s with tildeFloor := min s.tildeFloor s.openers.length }
    if left = 0 then s
    else if opens then
      { s with openers := ⟨mark, left, count, both, s.events⟩ :: s.openers, events := [] }
    else { s with events := marks mark left ++ s.events }

end Emphasis

/-- The events of a text whose runs are resolved. -/
def emphasize (parts : List Inline) : List Event :=
  let s := parts.foldl Emphasis.State.step {}
  (s.giveUpMany s.openers.length).events.reverse

end AgentConsole.CommonMark
