import AgentConsole.Proofs.CommonMark.Nested

/-!
# The text of events

The events of a document carry its text from start to end; a line end inside of a span or
a heading is a space (`contents`).  Whatever is nested ends at the depth at which it began
(`IsNested.foldl_depth`), so that the text of events side by side is their texts side by
side.
-/

namespace AgentConsole.CommonMark

/-- Are the lines inside of the tag joined by spaces?  Those of an image are not, unless it
stands in a span. -/
def Tag.joinsLines : Tag → Bool
  | .heading _ | .emphasis | .strong | .strikethrough | .link _ => true
  | _ => false

/-- The text that an event stands for. -/
def Event.content (inSpan : Bool) : Event → Text
  | .text content | .code content => content
  | .html content | .inlineHtml content => content.dropEndWhile (· = '\n')
  | .softBreak | .hardBreak => if inSpan then [' '] else []
  | .opening _ | .closing _ | .rule => []

/-- How many spans are open after an event, `depth` being open before it. -/
def Event.depth (depth : Nat) : Event → Nat
  | .opening tag => if tag.joinsLines then depth + 1 else depth
  | .closing tag => if tag.joinsLines then depth - 1 else depth
  | _ => depth

/-- The text of events, from first to last; `depth` spans are open before the first. -/
def contents (depth : Nat) : List Event → Text
  | [] => []
  | event :: rest => event.content (0 < depth) ++ contents (event.depth depth) rest

/-- Does the event end a line? -/
def Event.isBreak : Event → Bool
  | .softBreak | .hardBreak => true
  | _ => false

/-- Is the event HTML? -/
def Event.isHtml : Event → Bool
  | .html _ | .inlineHtml _ => true
  | _ => false

/-- The events up to the end of a tag inside of which `depth` further ones are open. -/
def inside (depth : Nat) : List Event → List Event
  | [] => []
  | .opening tag :: rest => .opening tag :: inside (depth + 1) rest
  | .closing tag :: rest =>
    match depth with
    | 0 => []
    | depth + 1 => .closing tag :: inside depth rest
  | event :: rest => event :: inside depth rest

/-- What is written of events side by side depends on the first ones through the depth only. -/
theorem contents_append (depth : Nat) (xs ys : List Event) :
    contents depth (xs ++ ys) = contents depth xs ++ contents (xs.foldl Event.depth depth) ys := by
  induction xs generalizing depth with
  | nil => rfl
  | cons event rest ih =>
    show event.content _ ++ contents _ (rest ++ ys) = (event.content _ ++ contents _ rest) ++ _
    rw [ih, List.append_assoc]
    rfl

/-- Inside of a tag, events end at the depth at which they began. -/
theorem foldl_depth_within {events : List Event}
    (h : ∀ depth, events.foldl Event.depth depth = depth) (tag : Tag) (depth : Nat) :
    (Event.within tag events).foldl Event.depth depth = depth := by
  show (events ++ [Event.closing tag]).foldl Event.depth ((Event.opening tag).depth depth) = depth
  rw [List.foldl_append, h]
  show (Event.closing tag).depth ((Event.opening tag).depth depth) = depth
  cases hlines : tag.joinsLines <;> simp [Event.depth, hlines]

/-- Every span that begins in a line of text ends in it. -/
theorem IsInline.foldl_depth {events : List Event} (h : IsInline events) (depth : Nat) :
    events.foldl Event.depth depth = depth := by
  induction h generalizing depth with
  | nil => rfl
  | @leaf event h =>
    cases event with
    | opening tag | closing tag => cases h
    | _ => rfl
  | within _ _ ih => exact foldl_depth_within ih _ depth
  | append _ _ ihx ihy => rw [List.foldl_append, ihx, ihy]

theorem foldl_depth_of_forall {events : List Event}
    (h : ∀ event ∈ events, ∀ depth, event.depth depth = depth) (depth : Nat) :
    events.foldl Event.depth depth = depth := by
  induction events with
  | nil => rfl
  | cons event rest ih =>
    rw [List.foldl_cons, h event List.mem_cons_self]
    exact ih fun e he => h e (List.mem_cons_of_mem _ he)

theorem IsNested.foldl_depth {events : List Event} (h : IsNested events) (depth : Nat) :
    events.foldl Event.depth depth = depth := by
  induction h generalizing depth with
  | text h => exact h.foldl_depth depth
  | heading level h => exact foldl_depth_within h.foldl_depth _ depth
  | code info h =>
    refine foldl_depth_within (foldl_depth_of_forall fun event hevent => ?_) _ depth
    obtain ⟨content, rfl⟩ := h event hevent
    exact fun _ => rfl
  | html h =>
    refine foldl_depth_within (foldl_depth_of_forall fun event hevent => ?_) _ depth
    obtain ⟨content, rfl | rfl⟩ := h event hevent <;> exact fun _ => rfl
  | rule => rfl
  | within _ _ ih => exact foldl_depth_within ih _ depth
  | append _ _ ihx ihy => rw [List.foldl_append, ihx, ihy]

/-- The tag itself has no text, and inside of it a span may be open. -/
theorem contents_within (tag : Tag) (events : List Event) (depth : Nat) :
    contents depth (Event.within tag events)
      = contents (if tag.joinsLines then depth + 1 else depth) events := by
  show contents ((Event.opening tag).depth depth) (events ++ [.closing tag]) = _
  rw [contents_append]
  exact List.append_nil _

/-- Only a line end stands for another text inside of a span. -/
theorem Event.content_of_not_isBreak {event : Event} (h : ¬ event.isBreak) (inner outer : Bool) :
    event.content inner = event.content outer := by
  cases event with
  | softBreak | hardBreak => exact absurd rfl h
  | _ => rfl

/-- A text does not end the tag that it stands in. -/
theorem inside_append {events : List Event} (h : IsInline events) (depth : Nat)
    (rest : List Event) : inside depth (events ++ rest) = events ++ inside depth rest := by
  induction h generalizing depth rest with
  | nil => rfl
  | @leaf event h =>
    cases event with
    | opening tag | closing tag => cases h
    | _ => rfl
  | @within tag events _ _ ih =>
    show Event.opening tag :: inside (depth + 1) ((events ++ [.closing tag]) ++ rest)
      = Event.opening tag :: ((events ++ [.closing tag]) ++ inside depth rest)
    rw [List.append_assoc, ih, List.append_assoc]
    rfl
  | append _ _ ihx ihy => rw [List.append_assoc, ihx, ihy, List.append_assoc]

theorem inside_within {events : List Event} (h : IsInline events) (tag : Tag) :
    inside 0 (events ++ [.closing tag]) = events := by
  rw [inside_append h]
  exact List.append_nil _

/-- Further events can only add to what is inside. -/
theorem inside_isPrefix (xs ys : List Event) (depth : Nat) :
    inside depth xs <+: inside depth (xs ++ ys) := by
  induction xs generalizing depth with
  | nil => exact List.nil_prefix
  | cons event rest ih =>
    cases event with
    | opening tag => exact (List.prefix_cons_inj _).mpr (ih _)
    | closing tag =>
      cases depth with
      | zero => exact List.prefix_rfl
      | succ depth => exact (List.prefix_cons_inj _).mpr (ih _)
    | _ => exact (List.prefix_cons_inj _).mpr (ih _)

end AgentConsole.CommonMark
