import AgentConsole.Toml.Value

/-!
# Reading fields

How a record is taken from a value: a table gives its fields by key, an array
gives them by position.  Keys that the record does not know do not matter, but
a field that has a value of the wrong kind spoils the whole record.
-/

namespace AgentConsole.Toml

/-- The values of a record by their keys. -/
abbrev Fields := List (Text × Value)

namespace Value

/-- The fields that a value gives, for a record with these keys of which the
last `spare` may be left out of an array.  A date or time gives no field. -/
def fields? (keys : List String) (spare : Nat) : Value → Option Fields
  | .table _ entries => some entries
  | .array items =>
    if keys.length ≤ items.length + spare then some ((keys.map String.toList).zip items) else none
  | .moment _ => some []
  | _ => none

/-- The text of a string. -/
def text? : Value → Option Text
  | .string t => some t
  | _ => none

/-- The number of an integer below `bound`. -/
def natural? (bound : Nat) : Value → Option Nat
  | .integer n => if 0 ≤ n ∧ n < bound then some n.toNat else none
  | _ => none

/-- The truth value of a boolean. -/
def truth? : Value → Option Bool
  | .boolean b => some b
  | _ => none

end Value

/-- A field that has to be there. -/
def required {α : Type} (read : Value → Option α) (fields : Fields) (key : String) : Option α :=
  (fields.lookup key.toList).bind read

/-- A field that may be missing. -/
def optional {α : Type} (read : Value → Option α) (fields : Fields) (key : String) :
    Option (Option α) :=
  match fields.lookup key.toList with
  | none => some none
  | some v => (read v).map some

/-- The fields of a record within a record; a record that is missing has none. -/
def part? (fields : Fields) (key : String) (keys : List String) : Option Fields :=
  match fields.lookup key.toList with
  | none => some []
  | some v => v.fields? keys 0

end AgentConsole.Toml
