import AgentConsole.Text.Basic

/-!
# HTML in markup

Tags, comments, instructions, declarations and literal sections, as far as
markup has to recognise where they begin and end.
-/

namespace AgentConsole.CommonMark.Html

/-- ASCII blanks: space, tab and the line endings of ASCII. -/
def isSpace (c : Char) : Bool := c = ' ' || (9 ≤ c.toNat && c.toNat ≤ 13)

/-- Where a reader stands inside a tag. -/
inductive Place where
  /-- After `<`. -/
  | start
  /-- In the name of an opening tag. -/
  | name
  /-- In the blanks before an attribute. -/
  | gap
  /-- In the name of an attribute. -/
  | attribute
  /-- In the blanks after the name of an attribute. -/
  | attributeGap
  /-- After `=`. -/
  | equals
  /-- In a value without quotes. -/
  | bare
  | single
  | double
  /-- After a value in quotes. -/
  | quoted
  /-- After the slash that ends a tag. -/
  | slash
  /-- After `</`. -/
  | closing
  /-- In the name of a closing tag. -/
  | closingName
  /-- In the blanks after it. -/
  | closingGap
  deriving DecidableEq, Repr

/-- May this character begin the name of an attribute? -/
def startsAttribute (c : Char) : Bool := c.isAlpha || c = '_' || c = ':'

/-- May this character go on in the name of an attribute? -/
def continuesAttribute (c : Char) : Bool :=
  c.isAlphanum || c = '_' || c = ':' || c = '.' || c = '-'

/-- After the name of a tag or of an attribute. -/
def afterName (c : Char) (blank : Place) : Option Place :=
  if isSpace c then some blank else if c = '/' then some .slash else none

/-- Reads a character that does not end the tag; `none` if no tag goes on so. -/
def Place.step (c : Char) : Place → Option Place
  | .start => if c = '/' then some .closing else if c.isAlpha then some .name else none
  | .name => if c.isAlphanum || c = '-' then some .name else afterName c .gap
  | .gap => if startsAttribute c then some .attribute else afterName c .gap
  | .attribute =>
    if continuesAttribute c then some .attribute
    else if c = '=' then some .equals
    else afterName c .attributeGap
  | .attributeGap =>
    if startsAttribute c then some .attribute
    else if c = '=' then some .equals
    else afterName c .attributeGap
  | .equals =>
    if isSpace c then some .equals
    else if c = '\'' then some .single
    else if c = '"' then some .double
    else if c = '=' || c = '<' || c = '>' || c.toNat = 0x60 then none
    else some .bare
  | .bare =>
    if isSpace c then some .gap
    else if c = '\'' || c = '"' || c = '=' || c = '<' || c.toNat = 0x60 then none
    else some .bare
  | .single => if c = '\'' then some .quoted else some .single
  | .double => if c = '"' then some .quoted else some .double
  | .quoted => afterName c .gap
  | .slash => none
  | .closing => if c.isAlpha then some .closingName else none
  | .closingName =>
    if c.isAlphanum || c = '-' then some .closingName
    else if isSpace c then some .closingGap
    else none
  | .closingGap => if isSpace c then some .closingGap else none

/-- May `>` end the tag here? -/
def Place.ends : Place → Bool
  | .name | .gap | .attribute | .attributeGap | .bare | .quoted | .slash
  | .closingName | .closingGap => true
  | .start | .equals | .single | .double | .closing => false

/-- How many characters a tag takes from here on, its `>` included. -/
def tagLength? (place : Place) : Text → Option Nat
  | [] => none
  | c :: rest =>
    if c = '>' && place.ends then some 1
    else (place.step c).bind fun next => (tagLength? next rest).map (· + 1)

/-- How many characters there are up to the end of the first occurrence of `pattern`. -/
def lengthThrough? (pattern : Text) : Text → Option Nat
  | [] => none
  | c :: rest =>
    if pattern.isPrefixOf (c :: rest) then some pattern.length
    else (lengthThrough? pattern rest).map (· + 1)

/-- How many characters a piece of HTML takes that begins after a `<`. -/
def inlineLength? (t : Text) : Option Nat :=
  match t with
  | '!' :: rest =>
    if "--".toList.isPrefixOf rest then (lengthThrough? "-->".toList rest).map (· + 1)
    else if "[CDATA[".toList.isPrefixOf rest then
      (lengthThrough? "]]>".toList (rest.drop 7)).map (· + 8)
    else if (rest.head?).any Char.isAlpha then (lengthThrough? ['>'] rest).map (· + 1)
    else none
  | '?' :: rest => (lengthThrough? "?>".toList rest).map (· + 1)
  | _ => tagLength? .start t

/-! ### Blocks -/

/-- Is the start of the text this word, whatever its case? -/
def startsWithWord (word t : Text) : Bool := (t.take word.length).map Char.toLower == word

/-- The elements whose content is left alone up to their closing tag. -/
def verbatimTags : List Text := ["pre".toList, "style".toList, "script".toList, "textarea".toList]

/-- Blocks that run to a given ending: what ends the block that begins with a
`<` and this text. -/
def ending? (t : Text) : Option Text :=
  let verbatim := verbatimTags.find? fun tag =>
    startsWithWord tag t && ((t.drop tag.length).head?.all fun c => isSpace c || c = '>')
  match verbatim with
  | some tag => some ('<' :: '/' :: tag ++ ['>'])
  | none =>
    if "!--".toList.isPrefixOf t then some "-->".toList
    else if ['?'].isPrefixOf t then some "?>".toList
    else if "![CDATA[".toList.isPrefixOf t then some "]]>".toList
    else
      match t with
      | '!' :: c :: _ => if c.isAlpha then some ['>'] else none
      | _ => none

/-- The elements that begin a block. -/
def blockTags : List String :=
  [ "address", "article", "aside", "base", "basefont", "blockquote", "body", "caption", "center",
    "col", "colgroup", "dd", "details", "dialog", "dir", "div", "dl", "dt", "fieldset",
    "figcaption", "figure", "footer", "form", "frame", "frameset", "h1", "h2", "h3", "h4", "h5",
    "h6", "head", "header", "hr", "html", "iframe", "legend", "li", "link", "main", "menu",
    "menuitem", "nav", "noframes", "ol", "optgroup", "option", "p", "param", "search", "section",
    "summary", "table", "tbody", "td", "tfoot", "th", "thead", "title", "tr", "track", "ul" ]

/-- Does a `<` and this text begin an element that begins a block? -/
def startsBlock (t : Text) : Bool :=
  let t := if ['/'].isPrefixOf t then t.drop 1 else t
  let name := t.takeWhile Char.isAlphanum
  blockTags.contains (String.ofList (name.map Char.toLower)) &&
    match t.drop name.length with
    | [] => true
    | c :: rest => c = ' ' || c = '\t' || c = '>' || (c = '/' && rest.head? == some '>')

/-- Is a line that begins with `<` and this text one tag and nothing else? -/
def isTagLine (t : Text) : Bool :=
  match tagLength? .start t with
  | some n => (t.drop n).all isSpace
  | none => false

end AgentConsole.CommonMark.Html
