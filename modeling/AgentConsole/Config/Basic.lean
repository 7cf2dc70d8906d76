import AgentConsole.Text.Case
import AgentConsole.Tuning

/-!
# The configuration

What the user can choose.  A file states some of it and variables of the
environment some more; a variable wins over the file, the file wins over what
is built in, and numbers that would do harm are raised to the least that does
none.
-/

namespace AgentConsole

/-- How often a new log file is begun. -/
inductive Rotation where
  | hourly
  | daily
  | never
  deriving DecidableEq, Repr

namespace Rotation

/-- The word for a rotation. -/
def label : Rotation → String
  | hourly => "hourly"
  | daily => "daily"
  | never => "never"

/-- The rotation that a word names in any case; a word that names none means daily. -/
def ofText (t : Text) : Rotation :=
  if t.lower = "hourly".toList then hourly
  else if t.lower = "never".toList then never
  else daily

end Rotation

/-- What is logged, and where. -/
structure Logging where
  level : Text := "info".toList
  /-- Is there a log file? -/
  toFile : Bool := false
  directory : Text := "./logs".toList
  rotation : Rotation := .daily
  /-- What the names of log files begin with. -/
  stem : Text := "agentdeck".toList
  deriving DecidableEq, Repr

/-- The filter for the program's own notes. -/
def Logging.filter (l : Logging) : Text := "agentdeck=".toList ++ l.level

/-- The configuration. -/
structure Config where
  theme : Text := "Agentdeck Dark".toList
  /-- Are the agents simulated? -/
  demo : Bool := false
  tuning : Tuning := {}
  logging : Logging := {}
  deriving DecidableEq, Repr

namespace Config

/-- What a file states of the configuration. -/
structure Stated where
  theme : Option Text := none
  localEvery : Option Nat := none
  remoteEvery : Option Nat := none
  toastLimit : Option Nat := none
  toastLife : Option Nat := none
  editorMin : Option Nat := none
  editorMax : Option Nat := none
  level : Option Text := none
  toFile : Option Bool := none
  directory : Option Text := none
  rotation : Option Text := none
  stem : Option Text := none
  deriving DecidableEq, Repr

/-- The variables of the environment that matter. -/
structure Variables where
  theme : Option Text := none
  demo : Option Text := none
  level : Option Text := none
  deriving DecidableEq, Repr

/-- Fetching more often than this would be too much. -/
def leastPeriod : Nat := 250

/-- A variable counts unless it is blank. -/
def stated (value : Option Text) : Option Text := value.filter fun t => !t.isBlank

/-- Does the variable ask for simulated agents?  It does with `1` and, in any
case, `true`. -/
def asksForDemo (t : Text) : Bool := t = ['1'] || t.map Char.toLower = "true".toList

/-- The numbers that a file states, raised to what does no harm.  The upper
bound of an editor is never below the lower one. -/
def Stated.tuning (s : Stated) : Tuning :=
  let usual : Tuning := {}
  let editorMin := max (s.editorMin.getD usual.editorMin) 1
  { localEvery := max (s.localEvery.getD usual.localEvery) leastPeriod
    remoteEvery := max (s.remoteEvery.getD usual.remoteEvery) leastPeriod
    toastLimit := max (s.toastLimit.getD usual.toastLimit) 1
    toastLife := max (s.toastLife.getD usual.toastLife) 1
    editorMin
    editorMax := max (s.editorMax.getD usual.editorMax) editorMin }

/-- What a file states about the log. -/
def Stated.logging (s : Stated) : Logging :=
  let usual : Logging := {}
  { level := s.level.getD usual.level
    toFile := s.toFile.getD usual.toFile
    directory := s.directory.getD usual.directory
    rotation := (s.rotation.map Rotation.ofText).getD usual.rotation
    stem := s.stem.getD usual.stem }

/-- The configuration in force. -/
def resolve (s : Stated) (v : Variables) : Config :=
  let usual : Config := {}
  let logging := s.logging
  { theme := ((stated v.theme).or s.theme).getD usual.theme
    demo := v.demo.any asksForDemo
    tuning := s.tuning
    logging := { logging with level := (stated v.level).getD logging.level } }

end Config

end AgentConsole
