import AgentConsole.Text.Basic
import AgentConsole.Unicode.Case

/-!
# Case of whole texts

Every character is mapped by itself, with one exception that looks at its
neighbours: a capital sigma that ends a word becomes the final form `ς`.
-/

namespace AgentConsole.Text

/-- Do the characters begin, after any that are passed over, with a cased one? -/
def meetsCased (t : Text) : Bool :=
  match t.dropWhile Unicode.caseIgnorable.contains with
  | [] => false
  | c :: _ => Unicode.cased.contains c

/-- Lower case of the characters that follow `before`, which is kept in reverse. -/
def lowerAfter (before : Text) : Text → Text
  | [] => []
  | c :: rest =>
    (if c = 'Σ' then [if meetsCased before && !meetsCased rest then 'ς' else 'σ']
     else Unicode.lowerChar c) ++ lowerAfter (c :: before) rest

/-- The text in lower case. -/
def lower (t : Text) : Text := lowerAfter [] t

/-- The text in upper case. -/
def upper (t : Text) : Text := t.flatMap Unicode.upperChar

/-- The text as far as the case of its letters does not matter: two texts that
differ in case alone have one folded form.  The dotless `ı` folds to itself. -/
def fold (t : Text) : Text :=
  t.flatMap fun c => if c = 'ı' then [c] else (Unicode.lowerChar c).flatMap Unicode.upperChar

end AgentConsole.Text
