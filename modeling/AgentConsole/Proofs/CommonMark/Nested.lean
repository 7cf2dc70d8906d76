import AgentConsole.CommonMark.Document
import AgentConsole.Proofs.CommonMark.Reading

/-!
# Nesting

What a reader of events may count on: what begins also ends, and inside of what it began
in.  Inside of a text there are only spans (`IsInline`); around the texts there are the
blocks of the document (`IsNested`).  The events of every document are nested
(`isNested_events`).
-/

namespace AgentConsole.CommonMark

/-- Does the tag stand around a part of a text? -/
def Tag.IsInline : Tag → Prop
  | .emphasis | .strong | .strikethrough | .link _ | .image _ => True
  | _ => False

/-- Does the tag hold other blocks, or set a text apart? -/
def Tag.IsContainer : Tag → Prop
  | .paragraph | .quote | .list _ | .item => True
  | _ => False

/-- Does the event stand by itself in a text? -/
def Event.IsLeaf : Event → Prop
  | .text _ | .code _ | .inlineHtml _ | .softBreak | .hardBreak => True
  | _ => False

/-- Events of a text: its spans are closed where they were opened. -/
inductive IsInline : List Event → Prop where
  | nil : IsInline []
  | leaf {event : Event} (h : event.IsLeaf) : IsInline [event]
  | within {tag : Tag} {events : List Event} (htag : tag.IsInline) (h : IsInline events) :
      IsInline (Event.within tag events)
  | append {xs ys : List Event} (hx : IsInline xs) (hy : IsInline ys) : IsInline (xs ++ ys)

/-- Events of blocks. -/
inductive IsNested : List Event → Prop where
  /-- A text, which in a tight item stands for itself. -/
  | text {events : List Event} (h : IsInline events) : IsNested events
  | heading (level : Nat) {events : List Event} (h : IsInline events) :
      IsNested (Event.within (.heading level) events)
  | code (info : Text) {events : List Event}
      (h : ∀ event ∈ events, ∃ content, event = .text content) :
      IsNested (Event.within (.codeBlock info) events)
  | html {events : List Event}
      (h : ∀ event ∈ events, ∃ content, event = .text content ∨ event = .html content) :
      IsNested (Event.within .htmlBlock events)
  | rule : IsNested [.rule]
  | within {tag : Tag} {events : List Event} (htag : tag.IsContainer) (h : IsNested events) :
      IsNested (Event.within tag events)
  | append {xs ys : List Event} (hx : IsNested xs) (hy : IsNested ys) : IsNested (xs ++ ys)

/-! ### Texts -/

/-- Angle brackets hold a link around one text, or HTML. -/
theorem IsInline.of_angle {source : Text} {start resume : Nat} {events : List Event}
    (h : InlineReader.angle? source start = some (events, resume)) : IsInline events := by
  unfold InlineReader.angle? at h
  dsimp only at h
  split at h
  · obtain ⟨rfl, -⟩ := Prod.mk.inj (Option.some.inj h)
    exact .within trivial (.leaf trivial)
  · obtain ⟨n, -, heq⟩ := Option.map_eq_some_iff.mp h
    obtain ⟨rfl, -⟩ := Prod.mk.inj heq
    exact .leaf trivial

/-- Reading a text opens no span that it does not close. -/
theorem IsInline.reads (source : Text) (definitions : List Link.Definition) :
    Reads IsInline (fun _ => True) source definitions where
  -- spans come in pairs with their content between them, the rest are leaves
  nil := .nil
  append := .append
  emphasis h := .within trivial h
  strong h := .within trivial h
  strikethrough h := .within trivial h
  mark _ := .leaf trivial
  text _ _ _ := .leaf trivial
  run _ _ := trivial
  sign _ := .leaf trivial
  code _ := .leaf trivial
  angle h := .of_angle h
  link _ h := .within trivial h
  image h := .within trivial h
  softBreak := .leaf trivial
  hardBreak := .leaf trivial

theorem isInline_inlineEvents (definitions : List Link.Definition) (t : Text) :
    IsInline (inlineEvents definitions t) :=
  (IsInline.reads t definitions).inlineEvents

/-! ### Blocks -/

theorem IsNested.nil : IsNested [] := .text .nil

mutual

/-- Every block stands between its ends, and holds text or further blocks. -/
theorem Block.isNested_events (definitions : List Link.Definition) (tight : Bool) :
    (block : Block) → IsNested (block.events definitions tight)
  | .paragraph content => by
    have hinner := isInline_inlineEvents definitions content
    unfold Block.events
    dsimp only
    split
    · exact .text hinner
    · exact .within trivial (.text hinner)
  | .heading level content => by
    unfold Block.events
    exact .heading level (isInline_inlineEvents definitions content)
  | .code info content => by
    unfold Block.events
    exact .code _ fun event hevent => ⟨content, List.mem_singleton.mp hevent⟩
  -- HTML stands as it was written, line by line
  | .html indent lines => by
    unfold Block.events
    apply IsNested.html
    intro event hevent
    rcases List.mem_append.mp hevent with hevent | hevent
    · -- the spaces before the first line
      split at hevent
      · simp at hevent
      · exact ⟨_, .inl (List.mem_singleton.mp hevent)⟩
    · obtain ⟨line, -, rfl⟩ := List.mem_map.mp hevent
      exact ⟨line, .inr rfl⟩
  | .rule => by
    unfold Block.events
    exact .rule
  | .quote blocks => by
    unfold Block.events
    exact .within trivial (Block.isNested_allEvents definitions false blocks)
  | .list start tight items => by
    unfold Block.events
    exact .within trivial (Block.isNested_allEvents definitions tight items)
  | .item blocks => by
    unfold Block.events
    exact .within trivial (Block.isNested_allEvents definitions tight blocks)

theorem Block.isNested_allEvents (definitions : List Link.Definition) (tight : Bool) :
    (blocks : List Block) → IsNested (Block.allEvents definitions tight blocks)
  | [] => .nil
  | block :: rest => by
    unfold Block.allEvents
    exact .append (Block.isNested_events definitions tight block)
      (Block.isNested_allEvents definitions tight rest)

end

/-- **The events of a document are nested.** -/
theorem isNested_events (t : Text) : IsNested (events t) :=
  Block.isNested_allEvents _ false _

end AgentConsole.CommonMark
