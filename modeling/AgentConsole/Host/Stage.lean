import AgentConsole.Console.Events
import AgentConsole.Console.Render
import AgentConsole.Host.Rehearsal

/-!
# The console on stage

A console together with the rehearsal that carries out its requests.  What the
console asks for goes to the rehearsal, what arrives there goes to the console,
one event at a time, and what the console notes goes into the journal.
-/

namespace AgentConsole

/-- A console, what carries out its requests, and the journal. -/
structure Stage where
  console : Console
  rehearsal : Rehearsal
  journal : Journal := {}

namespace Stage

/-- How many milliseconds pass between two looks at what has arrived. -/
def beat : Nat := 50

/-- The moment on the clock of the rehearsal; the calendar begins with it. -/
def now (s : Stage) : Moment := { clock := s.rehearsal.clock, calendar := s.rehearsal.clock }

/-- A note as an entry of the journal. -/
def entry (s : Stage) (n : Note) : Entry :=
  { time := s.rehearsal.clock / 1000
    level := n.level
    target := "agentdeck".toList
    message := n.recorded.message }

/-- Does what a reaction of the console asks for. -/
def follow (s : Stage) (t : Turn) : Stage :=
  { console := t.console
    rehearsal := t.requests.foldl Rehearsal.execute s.rehearsal
    journal := t.notes.foldl (fun j n => j.add (s.entry n)) s.journal }

/-- The console reacts to an event, unless it has quit. -/
def react (s : Stage) (e : Event) : Stage :=
  if s.console.quitting then s else s.follow (s.console.handle e s.now)

/-- The console begins, in a terminal of that size. -/
def start (s : Stage) (width height : Nat) : Stage :=
  let s := s.react (.resize width height)
  s.follow s.console.start

/-- Some milliseconds pass, and the console reacts to what has arrived then. -/
def wait (s : Stage) (duration : Nat) : Stage :=
  let (rehearsal, arrivals) := s.rehearsal.wait duration false
  let events := arrivals.others ++ arrivals.session.map .session
  events.foldl react { s with rehearsal }

/-- Time passes beat by beat. -/
def pass (s : Stage) (duration : Nat) : Stage :=
  (Nat.repeat (·.wait beat) (duration / beat) s).wait (duration % beat)

end Stage

end AgentConsole
