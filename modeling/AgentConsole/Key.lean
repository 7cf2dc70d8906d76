/-!
# Keys

What a key event says: which key, with which modifiers held, and whether it was
pressed, repeated or released.  A release never does anything.
-/

namespace AgentConsole

/-- The keys of a terminal. -/
inductive KeyCode where
  | char (c : Char)
  | enter
  | escape
  | tab
  | backTab
  | backspace
  | delete
  | insert
  | left
  | right
  | up
  | down
  | home
  | «end»
  | pageUp
  | pageDown
  | function (n : Nat)
  | null
  deriving DecidableEq, Repr

/-- What happened to a key. -/
inductive KeyKind where
  | press
  | «repeat»
  | release
  deriving DecidableEq, Repr

/-- A key event. -/
structure Key where
  code : KeyCode
  control : Bool := false
  shift : Bool := false
  alt : Bool := false
  kind : KeyKind := .press
  deriving DecidableEq, Repr

end AgentConsole
