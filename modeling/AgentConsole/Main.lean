import AgentConsole.CommandLine.Help
import AgentConsole.Host.Stage
import AgentConsole.Key.Name
import AgentConsole.Theme.File

/-!
# The program

Reads arguments, environment and files, and lets the console run with simulated
agents in real time.  Every line of input is the name of a key; after it the
screen is shown.  An empty line only lets time pass.
-/

namespace AgentConsole

namespace Program

/-- Prints a text. -/
def put (t : Text) : IO Unit := IO.print (String.ofList t)

/-- Prints a text where errors go. -/
def complain (t : Text) : IO Unit := IO.eprint (String.ofList t)

/-- What is at a path. -/
def look (path : Text) : IO File := do
  try
    let bytes ← IO.FS.readBinFile (String.ofList path)
    match String.fromUTF8? bytes with
    | some s => return .text s.toList
    | none => return .binary
  catch
    | .noFileOrDirectory .. => return .missing
    | .inappropriateType _ code _ => return if code = 21 then .directory else .blocked
    | _ => return .blocked

/-- The variable of the environment, as a text. -/
def variableOf (name : String) : IO (Option Text) := do
  return (← IO.getEnv name).map String.toList

/-- The variables that matter. -/
def readVariables : IO Config.Variables := do
  return {
    theme := ← variableOf "AGENTDECK_THEME"
    demo := ← variableOf "AGENTDECK_DEMO"
    level := ← variableOf "AGENTDECK_LOG" }

/-- Makes sure that there is a file for the configuration, if one can be written. -/
def ensureFile (home : Text) : IO Unit := do
  let path := Config.path home
  let before ← look path
  if before = .missing then
    try
      IO.FS.createDirAll (String.ofList (home ++ "/.config/agentdeck".toList))
      match (Config.ensured before).text? with
      | some t => IO.FS.writeFile (String.ofList path) (String.ofList t)
      | none => pure ()
    catch _ => pure ()

/-- The files in which the themes of these names may be. -/
def themeFiles (home : Text) (names : List String) : IO (List (Text × File)) :=
  (names.flatMap Theme.fileNames).mapM fun name => do
    return (name, ← look (Theme.directory home ++ name))

/-- Shows the screen on an empty terminal. -/
def present (s : Stage) : IO Unit := do
  put (['\x1b', '[', 'H', '\x1b', '[', '2', 'J'] ++ s.console.render ++ ['\n'])
  (← IO.getStdout).flush

/-- Reads keys until the console quits or the input ends. -/
partial def loop (input : IO.FS.Stream) (last : Nat) (s : Stage) : IO Stage := do
  present s
  let line ← input.getLine
  if line.isEmpty then return s
  let now ← IO.monoMsNow
  let s := s.pass (now - last)
  let name := Text.trim line.toList
  let s := if name.isEmpty then s else s.react (.key (Key.ofName name))
  if s.console.quitting then return s else loop input now s

/-- Runs the console with simulated agents. -/
def run (home : Text) (c : Config) : IO Unit := do
  let names := String.ofList c.theme :: Theme.bundled.map (·.name)
  let files ← themeFiles home names
  let find := Theme.find (Theme.directory home) fun name => (files.lookup name).getD .missing
  let console :=
    Console.ofTuning c.tuning (find (String.ofList c.theme)).1 find Transcript.markup
  let simulation := Simulation.begin (String.ofList home) 120
  let stage : Stage := { console, rehearsal := { backend := .simulated simulation } }
  let stage ← loop (← IO.getStdin) (← IO.monoMsNow) (stage.start 80 24)
  complain stage.journal.replay

/-- Runs the program; the exit status tells whether it did what it was asked for. -/
def start (args : List String) : IO UInt32 := do
  match CommandLine.parse (args.map String.toList) with
  | .error refusal =>
    (if refusal.status = 0 then put else complain) refusal.message
    return refusal.status.toUInt32
  | .ok invocation =>
    let home := (← variableOf "HOME").getD []
    let path := Config.path home
    let v ← readVariables
    let warn (warning : Option Config.Warning) : IO Unit :=
      for line in (warning.map (Config.Warning.lines path)).getD [] do
        complain (line ++ ['\n'])
    match invocation.report? home (← look path) v with
    | some report =>
      warn report.warning
      put report.output
      return 0
    | none =>
      ensureFile home
      let (c, warning) := Config.load (← look path) v
      warn warning
      let c := invocation.apply c
      if c.demo then
        run home c
        return 0
      else
        complain CommandLine.noAgents
        return 1

end Program

end AgentConsole

/-- The program. -/
def main (args : List String) : IO UInt32 := AgentConsole.Program.start args
