import AgentConsole.Text.Basic

/-!
# The command line

The arguments are read from left to right, and the first one that cannot be
right decides.  What is given twice shows when the value is complete: for an
option whose value stands in the next argument this is not before something
else follows it, or the arguments end.
-/

namespace AgentConsole.CommandLine

/-- What to show of the configuration. -/
structure Inspection where
  show? : Bool := false
  path : Bool := false
  deriving DecidableEq, Repr

/-- What the arguments ask for. -/
structure Invocation where
  /-- Simulated agents. -/
  demo : Bool := false
  theme : Option Text := none
  /-- Instead of the console, something about the configuration. -/
  inspection : Option Inspection := none
  deriving DecidableEq, Repr

/-- Why the arguments lead to no invocation. -/
inductive Refusal where
  | unknownArgument
  | missingValue
  /-- A flag was given a value. -/
  | unexpectedValue
  | repeated
  | unknownSubcommand
  /-- The help was asked for. -/
  | help
  /-- The version was asked for. -/
  | version
  deriving DecidableEq, Repr

/-- The exit status that goes with a refusal: help and version are no failures. -/
def Refusal.status : Refusal → Nat
  | help | version => 0
  | _ => 2

/-- An argument by its form. -/
inductive Word where
  /-- Two hyphens alone. -/
  | escape
  /-- Two hyphens and a name, and what stands behind `=`. -/
  | long (name : Text) (value : Option Text)
  /-- A hyphen and letters, the first and the others. -/
  | short (letter : Char) (others : Text)
  | plain (t : Text)
  deriving DecidableEq, Repr

/-- The form of an argument. -/
def Word.ofText (t : Text) : Word :=
  match t with
  | ['-', '-'] => .escape
  | '-' :: '-' :: rest =>
    match rest.dropWhile (· ≠ '=') with
    | [] => .long rest none
    | _ :: value => .long (rest.takeWhile (· ≠ '=')) (some value)
  | '-' :: c :: rest => .short c rest
  | t => .plain t

/-- The names of the subcommands. -/
def subcommands : List Text := ["config".toList, "help".toList]

/-! ### The arguments of the subcommand -/

/-- Reads the arguments of the subcommand that inspects the configuration. -/
def inspection (i : Inspection) : List Text → Except Refusal Inspection
  | [] => .ok i
  | arg :: rest =>
    match Word.ofText arg with
    | .plain _ => .error .unknownArgument
    | .escape => if rest.isEmpty then .ok i else .error .unknownArgument
    | .short c _ => .error (if c = 'h' then .help else .unknownArgument)
    | .long name value =>
      if name = "show".toList then
        if value.isSome then .error .unexpectedValue
        else if i.show? then .error .repeated
        else inspection { i with show? := true } rest
      else if name = "path".toList then
        if value.isSome then .error .unexpectedValue
        else if i.path then .error .repeated
        else inspection { i with path := true } rest
      else if name = "help".toList then
        .error (if value.isSome then .unexpectedValue else .help)
      else .error .unknownArgument

/-- The help has a topic for every subcommand, and none below them. -/
def topic (args : List Text) : Refusal :=
  match args with
  | [] => .help
  | [name] => if subcommands.contains name then .help else .unknownSubcommand
  | _ => .unknownSubcommand

/-! ### The arguments of the program -/

/-- An option whose value stands in the next argument. -/
inductive Pending where
  | none
  /-- The next argument is its value. -/
  | waiting
  /-- It has its value, but does not count yet. -/
  | given (value : Text)
  deriving DecidableEq, Repr

/-- What is read so far. -/
structure Draft where
  demo : Bool := false
  theme : Option Text := none
  /-- The theme's option, if its value stands in an argument of its own. -/
  pending : Pending := .none
  deriving DecidableEq, Repr

/-- Makes the value of a pending option count. -/
def Draft.settle (d : Draft) : Except Refusal Draft :=
  match d.pending with
  | .none => .ok d
  | .waiting => .error .missingValue
  | .given value =>
    if d.theme.isSome then .error .repeated
    else .ok { d with theme := some value, pending := .none }

/-- The invocation, when nothing follows. -/
def Draft.finish (d : Draft) (inspection : Option Inspection) : Except Refusal Invocation :=
  d.settle.map fun d => { demo := d.demo, theme := d.theme, inspection }

/-- Refuses for one reason, unless a pending option gives another. -/
def Draft.refuse (d : Draft) (r : Refusal) : Except Refusal Invocation :=
  d.settle.bind fun _ => .error r

/-- Reads the arguments that follow a draft. -/
def read (d : Draft) : List Text → Except Refusal Invocation
  | [] => d.finish none
  | arg :: rest =>
    match Word.ofText arg with
    | .plain t =>
      if d.pending = .waiting then read { d with pending := .given t } rest
      else if t = "config".toList then
        (inspection {} rest).bind fun i => d.finish (some i)
      else if t = "help".toList then .error (topic rest)
      else .error .unknownSubcommand
    | .escape =>
      match rest with
      | [] => d.finish none
      | t :: _ =>
        .error (if subcommands.contains t then .unknownArgument else .unknownSubcommand)
    | .short c _ =>
      if c = 'h' then d.refuse .help
      else if c = 'V' then d.refuse .version
      else .error .unknownArgument
    | .long name value =>
      if name = "theme".toList then
        d.settle.bind fun d =>
          match value with
          | none => read { d with pending := .waiting } rest
          | some value =>
            if d.theme.isSome then .error .repeated
            else read { d with theme := some value } rest
      else if name = "demo".toList then
        if value.isSome then .error .unexpectedValue
        else
          d.settle.bind fun d =>
            if d.demo then .error .repeated else read { d with demo := true } rest
      else if name = "help".toList then
        if value.isSome then .error .unexpectedValue else d.refuse .help
      else if name = "version".toList then
        if value.isSome then .error .unexpectedValue else d.refuse .version
      else .error .unknownArgument

/-- What arguments ask for. -/
def parse (args : List Text) : Except Refusal Invocation := read {} args

end AgentConsole.CommandLine
