import AgentConsole.Text.Basic

/-!
# The journal

While the console owns the terminal, what it has to note goes into a journal
that keeps the newest entries.  Warnings and errors are shown when it ends.
-/

namespace AgentConsole

/-- How much a note matters. -/
inductive Level where
  | error
  | warn
  | info
  | debug
  | trace
  deriving DecidableEq, Repr

namespace Level

/-- The word for a level. -/
def label : Level → String
  | error => "ERROR"
  | warn => "WARN"
  | info => "INFO"
  | debug => "DEBUG"
  | trace => "TRACE"

/-- Is it shown when the console ends? -/
def isProblem : Level → Bool
  | error | warn => true
  | info | debug | trace => false

end Level

/-- Something the console notes. -/
structure Note where
  level : Level
  message : Text
  deriving DecidableEq, Repr

namespace Note

/-- The message as the journal keeps it: one pair of quotes around it is taken off. -/
def unquote (t : Text) : Text :=
  match t with
  | '"' :: rest => if rest.getLast? = some '"' then rest.dropLast else t
  | _ => t

/-- The note as the journal keeps it. -/
def recorded (n : Note) : Note := { n with message := unquote n.message }

end Note

/-- An entry of the journal. -/
structure Entry where
  /-- Seconds since the epoch. -/
  time : Int
  level : Level
  /-- Which part of the program speaks. -/
  target : Text
  message : Text
  deriving DecidableEq, Repr

namespace Entry

/-- A number in two digits. -/
def twoDigits (n : Nat) : Text := (if n < 10 then ['0'] else []) ++ Text.ofNat n

/-- The time of day. -/
def timeOfDay (seconds : Int) : Text :=
  let s := (seconds % 86400).toNat
  twoDigits (s / 3600) ++ ':' :: twoDigits (s / 60 % 60) ++ ':' :: twoDigits (s % 60)

/-- The entry in one line. -/
def line (e : Entry) : Text :=
  let label := e.level.label.toList
  timeOfDay e.time ++ ' ' :: label ++ Text.spaces (5 - label.length)
    ++ ' ' :: e.target ++ ':' :: ' ' :: e.message

end Entry

/-- The newest entries, oldest first. -/
structure Journal where
  capacity : Nat := 1000
  entries : List Entry := []
  deriving DecidableEq, Repr

namespace Journal

/-- An empty journal of that many entries, and at least one. -/
def ofCapacity (capacity : Nat) : Journal := { capacity := max capacity 1 }

/-- Adds an entry; a full journal gives up its oldest. -/
def add (j : Journal) (e : Entry) : Journal :=
  { j with
    entries := (if j.capacity ≤ j.entries.length then j.entries.drop 1 else j.entries) ++ [e] }

/-- Warnings and errors, oldest first. -/
def problems (j : Journal) : List Entry := j.entries.filter (·.level.isProblem)

/-- The warnings and errors as text, one in a line. -/
def replay (j : Journal) : Text := j.problems.flatMap fun e => e.line ++ ['\n']

end Journal

end AgentConsole
