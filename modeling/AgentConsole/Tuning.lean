/-!
# Tuning

The numbers that can be tuned.  Times are in milliseconds.
-/

namespace AgentConsole

/-- What can be tuned. -/
structure Tuning where
  /-- Milliseconds between fetches of the sessions. -/
  localEvery : Nat := 2000
  /-- Milliseconds between fetches from the forge. -/
  remoteEvery : Nat := 30000
  toastLimit : Nat := 3
  /-- Milliseconds that a toast stays. -/
  toastLife : Nat := 3000
  /-- The fewest rows of an editor's view. -/
  editorMin : Nat := 3
  /-- The most rows of an editor's view. -/
  editorMax : Nat := 10
  deriving DecidableEq, Repr

end AgentConsole
