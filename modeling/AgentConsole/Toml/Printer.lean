import AgentConsole.Text.Basic

/-!
# Writing TOML

A document is written line by line: headers, and pairs of a key and a value,
with comments between and beside them.
-/

namespace AgentConsole.Toml

/-- A text between double quotes.  Quotes and backslashes are escaped, and
nothing else is. -/
def quote (t : Text) : Text :=
  '"' :: t.flatMap (fun c => if c = '\\' ∨ c = '"' then ['\\', c] else [c]) ++ ['"']

/-- The word for a truth value. -/
def ofBool (b : Bool) : Text := if b then "true" else "false"

/-- A line of a document. -/
inductive Line where
  | blank
  | comment (t : Text)
  | header (name : Text)
  /-- A key with the written form of its value, and what else stands in the line. -/
  | pair (key value remark : Text)
  deriving DecidableEq, Repr

/-- The line as it is written. -/
def Line.text : Line → Text
  | blank => []
  | comment t => '#' :: ' ' :: t
  | header name => '[' :: name ++ [']']
  | pair key value remark => key ++ ' ' :: '=' :: ' ' :: value ++ remark

/-- A document, every line of which is ended. -/
def print (lines : List Line) : Text := lines.flatMap fun line => line.text ++ ['\n']

end AgentConsole.Toml
