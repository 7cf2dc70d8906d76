import AgentConsole.Proofs.CommonMark.Inline
import AgentConsole.Transcript.Segment

/-!
# Segments of a tame document

Reading segments off events only joins the texts that the events carry, so inert
events give inert segments.  Of a block of code the language is left aside: nothing
shows it.
-/

namespace AgentConsole.Transcript

open CommonMark

/-- Is all that the screen shows of the segment inert? -/
def Segment.IsInert : Segment → Prop
  | .text content | .code content | .codeBlock _ content | .heading _ content | .bold content
  | .italic content | .strike content => content.IsInert
  | .link content url => content.IsInert ∧ url.IsInert
  | _ => True

/-- Is the address of the span, if it is a link, inert? -/
def Span.IsInert : Span → Prop
  | .link url => url.IsInert
  | _ => True

/-- A span that is closed makes a segment of what it has collected. -/
theorem Span.IsInert.segment {span : Span} (h : span.IsInert) {t : Text} (ht : t.IsInert) :
    (span.segment t).IsInert := by
  cases span with
  | link url => exact ⟨ht, h⟩
  | _ => exact ht

theorem Span.isInert_ofTag {tag : Tag} (h : tag.IsInert) :
    ∀ span ∈ Span.ofTag? tag, span.IsInert := by
  intro span hspan
  cases tag <;> cases hspan <;> exact h

namespace Reader

/-- Is all that was read inert: the open span, the open block of code and the segments? -/
structure IsInert (r : Reader) : Prop where
  span : ∀ x ∈ r.span, x.1.IsInert ∧ Text.IsInert x.2
  code : ∀ x ∈ r.code, Text.IsInert x.2
  done : ∀ segment ∈ r.done, segment.IsInert

namespace IsInert

variable {r : Reader} (h : r.IsInert)
include h

/-- One more segment. -/
theorem push (segment : Segment) (hsegment : segment.IsInert) : (r.push segment).IsInert := by
  refine ⟨h.span, h.code, ?_⟩
  intro s hs
  rcases List.mem_cons.mp hs with rfl | hs
  · exact hsegment
  · exact h.done s hs

theorem withSpan (span : Span) (t : Text) (hspan : span.IsInert) (ht : t.IsInert) :
    { r with span := some (span, t) }.IsInert := by
  refine ⟨?_, h.code, h.done⟩
  intro x hx
  obtain rfl := Option.some.inj hx
  exact ⟨hspan, ht⟩

theorem withoutSpan : { r with span := none }.IsInert := ⟨by simp, h.code, h.done⟩

theorem withCode (language : Option Text) (t : Text) (ht : t.IsInert) :
    { r with code := some (language, t) }.IsInert := by
  refine ⟨h.span, ?_, h.done⟩
  intro x hx
  obtain rfl := Option.some.inj hx
  exact ht

theorem withoutCode : { r with code := none }.IsInert := ⟨h.span, by simp, h.done⟩

theorem withLists (lists : List (Bool × Nat)) : { r with lists }.IsInert :=
  ⟨h.span, h.code, h.done⟩

/-- More text for the open span, or a segment where none is open. -/
theorem extend (t : Text) (ht : t.IsInert) (segment : Segment) (hsegment : segment.IsInert) :
    (match r.span with
      | some (span, before) => { r with span := some (span, before ++ t) }
      | none => r.push segment).IsInert := by
  split
  · rename_i span before hspan
    obtain ⟨hinert, hbefore⟩ := h.span _ hspan
    exact h.withSpan span _ hinert (hbefore.append ht)
  · exact h.push segment hsegment

/-- Text goes to the code or the span that is open, and else stands for itself. -/
theorem text (t : Text) (ht : t.IsInert) : (r.text t).IsInert := by
  unfold Reader.text
  split
  · rename_i language code hcode
    exact h.withCode language _ ((h.code _ hcode).append ht)
  · rename_i span before _ hspan
    obtain ⟨hinert, hbefore⟩ := h.span _ hspan
    exact h.withSpan span _ hinert (hbefore.append ht)
  · exact h.push (.text t) ht

/-- What begins a span or a block of code opens it with nothing in it. -/
theorem opening (tag : Tag) (htag : tag.IsInert) : (r.opening tag).IsInert := by
  cases tag
  case codeBlock info => exact h.withCode _ [] Text.IsInert.nil
  case list start => exact h.withLists _
  case item =>
    unfold Reader.opening
    dsimp only
    split
    · exact h
    · exact (h.withLists _).push _ trivial
  case quote => exact h.push .quoteStart trivial
  -- the other tags open a span or nothing
  all_goals
    unfold Reader.opening
    dsimp only
    split
    · rename_i span _ hof
      exact h.withSpan span [] (Span.isInert_ofTag htag span hof) Text.IsInert.nil
    · exact h

/-- What ends a span or a block of code makes a segment of it. -/
theorem closing (tag : Tag) : (r.closing tag).IsInert := by
  -- a tag that ends the open span gives its segment
  have hspan : (match r.span with
      | some (span, t) =>
        if span.endsWith tag then { r with span := none }.push (span.segment t) else r
      | none => r).IsInert := by
    split
    · rename_i span t hopen
      obtain ⟨hinert, ht⟩ := h.span _ hopen
      split
      · exact h.withoutSpan.push _ (hinert.segment ht)
      · exact h
    · exact h
  cases tag with
  | codeBlock info =>
    unfold Reader.closing
    dsimp only
    split
    · rename_i language code hcode
      exact h.withoutCode.push (.codeBlock language code) (h.code _ hcode)
    · exact h
  | list start => exact (h.withLists _).push .listEnd trivial
  | item => exact h.push .itemEnd trivial
  | quote => exact h.push .quoteEnd trivial
  | paragraph => exact h.push .paragraphEnd trivial
  | _ => exact hspan

/-- Reading an event keeps what was read inert. -/
theorem step {event : Event} (hevent : event.IsInert) : (r.step event).IsInert := by
  have hhtml (content : Text) (hcontent : content.IsInert) :
      (r.push (.text (content.dropEndWhile (· = '\n')))).IsInert :=
    h.push _ (hcontent.subset fun c hc => Text.mem_of_mem_dropEndWhile hc)
  have hspace : Text.IsInert [' '] := Text.IsInert.nil.cons (by decide)
  cases event with
  | opening tag => exact h.opening tag hevent
  | closing tag => exact h.closing tag
  | text content => exact h.text content hevent
  | code content => exact h.extend content hevent (.code content) hevent
  | html content => exact hhtml content hevent
  | inlineHtml content => exact hhtml content hevent
  | softBreak => exact h.extend [' '] hspace .lineEnd trivial
  | hardBreak => exact h.extend [' '] hspace .lineEnd trivial
  | rule => exact h.push .rule trivial

end IsInert

/-- The run: inert events leave only inert segments. -/
theorem IsInert.foldl {r : Reader} (h : r.IsInert) {events : List Event}
    (hevents : AllInert events) : (events.foldl Reader.step r).IsInert := by
  induction events generalizing r with
  | nil => exact h
  | cons event rest ih =>
    exact ih (h.step (hevents event List.mem_cons_self))
      fun e he => hevents e (List.mem_cons_of_mem _ he)

end Reader

/-- **The segments of a tame document are inert.** -/
theorem Segment.isInert_ofText {t : Text} (h : IsTame t) :
    ∀ segment ∈ Segment.ofText t, segment.IsInert := by
  have hstart : Reader.IsInert {} := ⟨by simp, by simp, by simp⟩
  intro segment hsegment
  exact (hstart.foldl (allInert_events h)).done segment (List.mem_reverse.mp hsegment)

end AgentConsole.Transcript
