import AgentConsole.Config.Document
import AgentConsole.File

/-!
# Loading the configuration

A configuration is optional: whatever is wrong with its file, the program goes
on with what is built in, and says so.
-/

namespace AgentConsole.Config

/-- Where the configuration is kept, below the home directory. -/
def path (home : Text) : Text := home ++ "/.config/agentdeck/config.toml".toList

/-- What may be wrong with the file. -/
inductive Warning where
  /-- It states no configuration. -/
  | invalid
  | unreadable (cause : String)
  deriving DecidableEq, Repr

/-- The warning in lines. -/
def Warning.lines (path : Text) : Warning → List Text
  | invalid =>
    [ "Warning: ignoring invalid config file ".toList ++ path,
      "  It is not TOML, or a value is of the wrong kind.".toList,
      "  Using built-in defaults. Run `agentdeck config --show` to compare.".toList ]
  | unreadable cause =>
    ["Warning: cannot read config file ".toList ++ path ++ ':' :: ' ' :: cause.toList]

/-- What a file states, and what is wrong with it.  A missing file states
nothing, and nothing is wrong with that. -/
def Stated.ofFile (f : File) : Stated × Option Warning :=
  match f with
  | .text t =>
    match Stated.ofText? t with
    | some s => (s, none)
    | none => ({}, some .invalid)
  | .missing => ({}, none)
  | f => ({}, (f.trouble?).map .unreadable)

/-- The configuration in force for a file and variables. -/
def load (f : File) (v : Variables) : Config × Option Warning :=
  let (s, warning) := Stated.ofFile f
  (resolve s v, warning)

/-- What is at the path after a missing file was made from the built-in configuration. -/
def ensured (f : File) : File := if f.isThere then f else f.write ({} : Config).document

end AgentConsole.Config
