import AgentConsole.Console.Basic

/-!
# The host

The host stands between the console and the world.  Results of what the console
asked for reach it as they come, but session events wait until the console
permits one: a permission is good for one event, and for the end of the events
as well.  Once the console has quit nothing reaches it any more.
-/

namespace AgentConsole

/-- What may reach the host. -/
inductive Message where
  /-- The result of a request. -/
  | result (event : Event)
  | session (event : SessionEvent)
  /-- No session event will come any more. -/
  | ended

/-- What the host knows about the console's wishes. -/
structure Host where
  /-- May a session event be handed on? -/
  permitted : Bool := false
  cancelled : Bool := false
  deriving DecidableEq, Repr

namespace Host

/-- Carries out a request, as far as the host itself is concerned. -/
def execute (h : Host) (r : Request) : Host :=
  match r with
  | .nextSessionEvent => { h with permitted := true }
  | .quit => { h with cancelled := true }
  | _ => h

/-- Hands a message on to the console, unless it has to wait. -/
def accept? (h : Host) (m : Message) : Option (Host × Event) :=
  if h.cancelled then none
  else
    match m with
    | .result e => some (h, e)
    | .session e => if h.permitted then some ({ h with permitted := false }, .session e) else none
    | .ended => if h.permitted then some ({ h with permitted := false }, .sessionsClosed) else none

/-- Hands session events on, and tells which it did and which wait.  With
`pull`, every event that was handed on brings the next permission. -/
def receive (pull : Bool) (h : Host) : List SessionEvent → Host × List SessionEvent × List SessionEvent
  | [] => (h, [], [])
  | e :: rest =>
    match h.accept? (.session e) with
    | none => (h, [], e :: rest)
    | some (h, _) =>
      let (h, taken, waiting) := receive pull (if pull then h.execute .nextSessionEvent else h) rest
      (h, e :: taken, waiting)

end Host

end AgentConsole
