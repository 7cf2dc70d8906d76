import AgentConsole.Key
import AgentConsole.Text.Basic

/-!
# Names of keys

How a key event is written: what happened to the key, unless it was pressed,
then the modifiers, then the key.
-/

namespace AgentConsole

/-- The keys that have a name of more than one character. -/
def KeyCode.names : List (String × KeyCode) :=
  [ ("Enter", .enter), ("Esc", .escape), ("Tab", .tab), ("BackTab", .backTab),
    ("Backspace", .backspace), ("Delete", .delete), ("Insert", .insert), ("Left", .left),
    ("Right", .right), ("Up", .up), ("Down", .down), ("Home", .home), ("End", .«end»),
    ("PageUp", .pageUp), ("PageDown", .pageDown) ]

/-- The key of a name: a character, a word, or `F` and a number. -/
def KeyCode.ofName (t : Text) : KeyCode :=
  match t with
  | [c] => .char c
  | _ =>
    match names.lookup (String.ofList t) with
    | some code => code
    | none =>
      match t with
      | 'F' :: digits => ((String.ofList digits).toNat?.map function).getD null
      | _ => null

namespace Key

/-- Reads the modifiers and the name of a key.  What has nothing behind it is
no modifier. -/
def withModifiers (key : Key) : Text → Key
  | 'C' :: '-' :: c :: rest => withModifiers { key with control := true } (c :: rest)
  | 'S' :: '-' :: c :: rest => withModifiers { key with shift := true } (c :: rest)
  | 'A' :: '-' :: c :: rest => withModifiers { key with alt := true } (c :: rest)
  | name => { key with code := KeyCode.ofName name }

/-- The key event that is written so. -/
def ofName (t : Text) : Key :=
  if "release:".toList.isPrefixOf t then
    withModifiers { code := .null, kind := .release } (t.drop 8)
  else if "repeat:".toList.isPrefixOf t then
    withModifiers { code := .null, kind := .«repeat» } (t.drop 7)
  else withModifiers { code := .null } t

end Key

end AgentConsole
