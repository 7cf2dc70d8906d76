import AgentConsole.Toml.Quoted
import AgentConsole.Toml.Scalar

/-!
# Reading TOML

A document is a list of statements: headers and pairs of a key and a value.
Every reader works at the start of a text and gives what follows; `none` is a
text that is no TOML.  Tables are put together from the statements afterwards.
-/

namespace AgentConsole.Toml

/-- Values and keys nest less deep than this. -/
def nestingLimit : Nat := 80

/-- The text after blanks. -/
def skipBlanks (t : Text) : Text := t.dropWhile isBlank

/-- What follows blanks, a comment if there is one, and the end of the line or of the text. -/
def endOfLine? (t : Text) : Option Text :=
  let t := skipBlanks t
  let t :=
    match t with
    | '#' :: rest => rest.dropWhile isPlain
    | _ => t
  if t.isEmpty then some [] else afterNewline? t

/-- What follows blanks, line ends and comments; `comment` stands for being inside of one. -/
def skipGap? (comment : Bool) : Text → Option Text
  | [] => some []
  | '\r' :: '\n' :: rest => skipGap? false rest
  | c :: rest =>
    if c = '\n' then skipGap? false rest
    else if comment then if isPlain c then skipGap? true rest else none
    else if isBlank c then skipGap? false rest
    else if c = '#' then skipGap? true rest
    else some (c :: rest)

/-- The characters of keys without quotes. -/
def isKeyChar (c : Char) : Bool := c.isAlphanum || c = '_' || c = '-'

/-- A single key. -/
def key? (t : Text) : Option (Text × Text) :=
  match t with
  | '"' :: rest => basic? rest
  | '\'' :: rest => literal? rest
  | _ =>
    let k := t.takeWhile isKeyChar
    if k.isEmpty then none else some (k, t.dropWhile isKeyChar)

/-- Keys with points between them; `fuel` bounds how many. -/
def keys? : Nat → Text → Option (List Text × Text)
  | 0, _ => none
  | fuel + 1, t =>
    (key? (skipBlanks t)).bind fun (k, t) =>
      match skipBlanks t with
      | '.' :: rest => (keys? fuel rest).map fun (ks, t) => (k :: ks, t)
      | t => some ([k], t)

/-- Dotted keys. -/
def keyPath? (t : Text) : Option (List Text × Text) := keys? (nestingLimit - 1) t

/-- A table between braces, from its pairs. -/
def inlineTable? (pairs : List (List Text × Value)) : Option Value :=
  pairs.foldlM (fun table (path, v) =>
    match path.getLast? with
    | some k => table.insert path.dropLast k v
    | none => none) (.table .inline [])

mutual

/-- A value; `depth` bounds the nesting and `fuel` the length. -/
def value? : Nat → Nat → Text → Option (Value × Text)
  | 0, _, _ => none
  | fuel + 1, depth, t =>
    match t with
    | '"' :: _ | '\'' :: _ => (string? t).map fun (s, t) => (.string s, t)
    | '[' :: rest =>
      if depth ≤ 1 then none
      else (items? fuel (depth - 1) rest).map fun (items, t) => (.array items, t)
    | '\x7b' :: rest =>
      if depth ≤ 1 then none
      else
        match skipBlanks rest with
        | '\x7d' :: t => some (.table .inline [], t)
        | t =>
          (pairs? fuel (depth - 1) t).bind fun (pairs, t) =>
            (inlineTable? pairs).map fun table => (table, t)
    | _ =>
      let (w, t) := word t
      (scalar? w).map fun v => (v, t)

/-- The rest of an array, after its bracket or a comma. -/
def items? : Nat → Nat → Text → Option (List Value × Text)
  | 0, _, _ => none
  | fuel + 1, depth, t =>
    (skipGap? false t).bind fun t =>
      match t with
      | ']' :: t => some ([], t)
      | t =>
        (value? fuel depth t).bind fun (v, t) =>
          (skipGap? false t).bind fun t =>
            match t with
            | ',' :: t => (items? fuel depth t).map fun (vs, t) => (v :: vs, t)
            | ']' :: t => some ([v], t)
            | _ => none

/-- The rest of a table between braces, from a key on. -/
def pairs? : Nat → Nat → Text → Option (List (List Text × Value) × Text)
  | 0, _, _ => none
  | fuel + 1, depth, t =>
    (keyPath? t).bind fun (path, t) =>
      match t with
      | '=' :: t =>
        (value? fuel depth (skipBlanks t)).bind fun (v, t) =>
          match skipBlanks t with
          | ',' :: t => (pairs? fuel depth t).map fun (ps, t) => ((path, v) :: ps, t)
          | '\x7d' :: t => some ([(path, v)], t)
          | _ => none
      | _ => none

end

/-! ### Documents -/

/-- A statement of a document. -/
inductive Statement where
  | table (path : List Text)
  | tables (path : List Text)
  | pair (path : List Text) (key : Text) (value : Value)

/-- A header or a pair, up to the end of its line. -/
def statement? (t : Text) : Option (Statement × Text) :=
  match t with
  | '[' :: '[' :: rest =>
    (keyPath? rest).bind fun (path, t) =>
      match t with
      | ']' :: ']' :: t => (endOfLine? t).map fun t => (.tables path, t)
      | _ => none
  | '[' :: rest =>
    (keyPath? rest).bind fun (path, t) =>
      match t with
      | ']' :: t => (endOfLine? t).map fun t => (.table path, t)
      | _ => none
  | _ =>
    (keyPath? t).bind fun (path, t) =>
      match t, path.getLast? with
      | '=' :: t, some k =>
        (value? (t.length + 1) nestingLimit (skipBlanks t)).bind fun (v, t) =>
          (endOfLine? t).map fun t => (.pair path.dropLast k v, t)
      | _, _ => none

/-- The statements of a text; `fuel` bounds its lines. -/
def statements? : Nat → Text → Option (List Statement)
  | 0, t => if t.isEmpty then some [] else none
  | fuel + 1, t =>
    let t := skipBlanks t
    if t.isEmpty then some []
    else
      match endOfLine? t with
      | some rest => statements? fuel rest
      | none =>
        (statement? t).bind fun (s, rest) => (statements? fuel rest).map (s :: ·)

/-- A document and the path of the table that is open. -/
structure Builder where
  root : Value := .table .header []
  path : List Text := []

/-- Carries out a statement. -/
def Builder.step? (b : Builder) : Statement → Option Builder
  | .table path => (b.root.openTable Value.defineTable path).map (⟨·, path⟩)
  | .tables path => (b.root.openTable Value.extendTables path).map (⟨·, path⟩)
  | .pair path k v =>
    (Value.descend .implied (·.insert path k v) b.path b.root).map fun root => { b with root }

/-- Reads a document.  A mark of the byte order may stand before it. -/
def read? (t : Text) : Option Value :=
  let t :=
    match t with
    | c :: rest => if c.toNat = 0xfeff then rest else t
    | [] => t
  (statements? (t.length + 1) t).bind fun statements =>
    (statements.foldlM Builder.step? {}).map (·.root)

end AgentConsole.Toml
