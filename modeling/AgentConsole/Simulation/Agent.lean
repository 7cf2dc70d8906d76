import AgentConsole.Simulation.Workspace

/-!
# Simulated agents

An agent wakes, says its lines one by one and goes to rest.  Before it does
anything it looks whether its session still lets it; if not, it is gone.  Every
step of an agent is done at once, so a command comes before or after it.
-/

namespace AgentConsole.Simulation

/-- What an agent does next. -/
inductive Task where
  | wake (reply : List Text)
  | say (line : Text) (more : List Text)
  | rest
  deriving DecidableEq, Repr

/-- The task after some lines have been said, or none yet. -/
def Task.saying : List Text → Task
  | [] => rest
  | line :: more => say line more

/-- How many steps the task and all after it take at most. -/
def Task.steps : Task → Nat
  | wake reply => reply.length + 2
  | say _ more => more.length + 2
  | rest => 1

/-- An agent at work. -/
structure Agent where
  session : SessionId
  worktree : WorktreeId
  task : Task
  deriving DecidableEq, Repr

/-- What an agent answers: a reply about the first line of the prompt. -/
def reply (prompt : Text) : List Text :=
  let topic := Text.trim ((Text.lines prompt).headD "the task".toList)
  ("Looking into **".toList ++ topic ++ "**.".toList)
    :: [ "",
         "## Plan",
         "- Read the modules involved",
         "- Make the change behind the existing interface",
         "- Run the test suite",
         "",
         "Reading `src/lib.rs` and `src/worker.rs`...",
         "",
         "```rust",
         "pub fn retry_delay(attempt: u32) -> Duration \x7b",
         "    Duration::from_millis(100 * 2u64.pow(attempt.min(6)))",
         "\x7d",
         "```",
         "",
         "> cargo test: 128 passed, 0 failed",
         "",
         "Done. The change is ready for review." ].map String.toList

/-- What a step of an agent leads to. -/
structure Agent.Step where
  workspace : Workspace
  /-- The agent, if it goes on. -/
  next : Option Agent := none
  event : Option SessionEvent := none

/-- A step.  Where nobody listens, an agent gives up after the first line it says. -/
def Agent.step (a : Agent) (listening : Bool) (w : Workspace) : Agent.Step :=
  match a.task with
  | .wake reply =>
    match w.setStatus? a.session .running with
    | none => { workspace := w }
    | some w =>
      { workspace := w
        next := some { a with task := .saying reply }
        event := some (.statusChanged a.session .running) }
  | .say line more =>
    if w.isRunning a.session then
      { workspace := w.record a.worktree line
        next := if listening then some { a with task := .saying more } else none
        event := some (.output a.session a.worktree line) }
    else { workspace := w }
  | .rest =>
    match w.setStatus? a.session .idle with
    | none => { workspace := w }
    | some w => { workspace := w, event := some (.statusChanged a.session .idle) }

/-- How long an agent pauses before the task that follows this one: not at all
after waking, and the usual time after a line. -/
def Task.pause (delay : Nat) : Task → Nat
  | wake _ => 0
  | say _ _ | rest => delay

end AgentConsole.Simulation
