import AgentConsole.Text.Basic

/-!
# TOML values

A document is a table.  How a table came to be decides what may be added to it
later: a table may be defined once, by a header, by dotted keys or inline, and
the tables on the path to it come to be by the way.
-/

namespace AgentConsole.Toml

/-- How a table came to be. -/
inductive Origin where
  /-- By a header of its own, or as the document. -/
  | header
  /-- On the path of a header. -/
  | implied
  /-- On the path of a dotted key. -/
  | dotted
  /-- Between braces. -/
  | inline
  deriving DecidableEq, Repr

/-- A value.  Of floats and of dates and times only the text is kept. -/
inductive Value where
  | string (t : Text)
  | integer (n : Int)
  | float (t : Text)
  | boolean (b : Bool)
  | moment (t : Text)
  | array (items : List Value)
  | table (origin : Origin) (entries : List (Text × Value))
  /-- The tables of one header in double brackets, oldest first. -/
  | tables (members : List Value)
  deriving Repr

namespace Value

/-- Changes the value of a key, or adds the key at the end; `none` if the change fails. -/
def updateEntry (key : Text) (f : Option Value → Option Value) :
    List (Text × Value) → Option (List (Text × Value))
  | [] => (f none).map fun v => [(key, v)]
  | (k, v) :: rest =>
    if k = key then (f (some v)).map fun v => (k, v) :: rest
    else (updateEntry key f rest).map ((k, v) :: ·)

/-- Changes the last of several tables. -/
def updateLast (f : Value → Option Value) (members : List Value) : Option (List Value) :=
  match members.getLast? with
  | none => none
  | some last => (f last).map fun v => members.dropLast ++ [v]

/-- Changes the table at the end of a path.  Tables that are missing on the way
come to be with the given origin.  A dotted key goes through no table that has
a header, and nothing goes through a table between braces. -/
def descend (origin : Origin) (f : Value → Option Value) : List Text → Value → Option Value
  | [], v => f v
  | key :: path, .table o entries =>
    (updateEntry key (fun found =>
      match found with
      | none => descend origin f path (.table origin [])
      | some (.table o' inner) =>
        if o' = .inline ∨ (origin = .dotted ∧ o' = .header) then none
        else descend origin f path (.table o' inner)
      | some (.tables members) => (updateLast (descend origin f path) members).map .tables
      | some _ => none) entries).map (.table o)
  | _ :: _, _ => none

/-- Adds an entry to a table, at the end of a path of dotted keys. -/
def insert (table : Value) (path : List Text) (key : Text) (value : Value) : Option Value :=
  descend .dotted (fun innermost =>
    match innermost with
    | .table o entries =>
      if (o = .dotted) ↔ path ≠ [] then
        (updateEntry key (fun found => if found.isNone then some value else none) entries).map
          (.table o)
      else none
    | _ => none) path table

/-- Gives a table its header: one that is new, or that came to be by the way. -/
def defineTable (found : Option Value) : Option Value :=
  match found with
  | none => some (.table .header [])
  | some (.table .implied entries) => some (.table .header entries)
  | some _ => none

/-- Adds a table to those of one header in double brackets. -/
def extendTables (found : Option Value) : Option Value :=
  match found with
  | none => some (.tables [.table .header []])
  | some (.tables members) => some (.tables (members ++ [.table .header []]))
  | some _ => none

/-- Opens a table at a path, in the way that `open?` says. -/
def openTable (open? : Option Value → Option Value) (path : List Text) (v : Value) :
    Option Value :=
  match path.getLast? with
  | none => none
  | some key =>
    descend .implied (fun v =>
      match v with
      | .table o entries => (updateEntry key open? entries).map (.table o)
      | _ => none) path.dropLast v

/-- The value of a key. -/
def get? (key : Text) : Value → Option Value
  | .table _ entries => entries.lookup key
  | _ => none

end Value

end AgentConsole.Toml
