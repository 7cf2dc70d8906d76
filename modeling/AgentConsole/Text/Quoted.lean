import AgentConsole.Text.Basic
import AgentConsole.Unicode.Printable

/-!
# Quoted texts

The form in which a text is shown inside a message about it: between double
quotes, with quotes, backslashes and everything unprintable escaped.
-/

namespace AgentConsole.Text

/-- A character inside quotes. -/
def escapeChar (c : Char) : Text :=
  match c with
  | '\x00' => ['\\', '0']
  | '\t' => ['\\', 't']
  | '\n' => ['\\', 'n']
  | '\r' => ['\\', 'r']
  | '"' => ['\\', '"']
  | '\\' => ['\\', '\\']
  | _ =>
    if Unicode.isPrintable c then [c]
    else ['\\', 'u', '\x7b'] ++ Nat.toDigits 16 c.toNat ++ ['\x7d']

/-- The text between double quotes, escaped. -/
def quoted (t : Text) : Text := '"' :: t.flatMap escapeChar ++ ['"']

end AgentConsole.Text
