import AgentConsole.Proofs.Transcript.Tidy

/-!
# The order of a text

The segments of a document hold the text that its events carry, in the same order, as
long as every span is tidy (`IsTidy`): HTML in a span is set before what the span has
collected, and a span inside of one of its own kind ends both, so that the line ends
after it are no spaces any more.  In any case the segments hold all the characters of the
text, apart from such spaces.  This is so for all events that are nested
(`Segment.contents_ofEvents`), and in particular for those of every document
(`Segment.contents_ofText`).

Between two events the text read so far is in the segments, or waits in the open span or
the open block of code (`Reader.content`).  An event adds its own text to that, as long as
the events to come are `Reader.Ready`; and this passes from one event to the next.
-/

namespace AgentConsole.Transcript

open CommonMark

/-! ### One event -/

/-- Does the tag stand around a text, or around a part of one? -/
def IsAround : Tag → Prop
  | .heading _ => True
  | tag => tag.IsInline

theorem IsAround.of_isInline {tag : Tag} (h : tag.IsInline) : IsAround tag := by
  cases tag with
  | heading => trivial
  | _ => exact h

namespace Reader

/-- What was read: the segments, and the text that waits to become one. -/
def content (r : Reader) : Text :=
  Segment.contents r.done.reverse ++ (r.code.elim [] (·.2) ++ r.span.elim [] (·.2))

/-- The kind of the open span. -/
def kind (r : Reader) : Option Span := r.span.map (·.1)

/-- More text for the open span, or a segment where none is open. -/
def extend (r : Reader) (t : Text) (segment : Segment) : Reader :=
  match r.span with
  | some (span, before) => { r with span := some (span, before ++ t) }
  | none => r.push segment

/-- A segment comes before the text that waits. -/
theorem content_push (r : Reader) (segment : Segment) :
    (r.push segment).content = Segment.contents r.done.reverse
      ++ (segment.content ++ (r.code.elim [] (·.2) ++ r.span.elim [] (·.2))) := by
  simp [content, push, Segment.contents]

/-- A segment without text changes nothing. -/
theorem content_push_of_empty (r : Reader) {segment : Segment} (h : segment.content = []) :
    (r.push segment).content = r.content := by
  rw [content_push, h]
  rfl

/-- Where nothing waits, a segment comes after all that was read. -/
theorem content_push_of_clear {r : Reader} (hcode : r.code = none) (hspan : r.span = none)
    (segment : Segment) : (r.push segment).content = r.content ++ segment.content := by
  rw [content_push]
  simp [content, hcode, hspan]

theorem kind_extend (r : Reader) (t : Text) (segment : Segment) :
    (r.extend t segment).code = r.code ∧ (r.extend t segment).kind = r.kind := by
  unfold extend
  split
  · rename_i span before hspan
    exact ⟨rfl, by simp [kind, hspan]⟩
  · exact ⟨rfl, rfl⟩

/-- Where no span is open, a tag around a text opens the one that it begins, if any. -/
theorem opening_cases {tag : Tag} (h : IsAround tag) (r : Reader) :
    (r.span = none ∧ r.opening tag = { r with span := (Span.ofTag? tag).map (·, []) }) ∨
      ∃ x, r.span = some x ∧ r.opening tag = r := by
  obtain ⟨span, code, lists, done⟩ := r
  rcases span with - | x
  · refine .inl ⟨rfl, ?_⟩
    cases tag with
    | codeBlock _ | list _ | item | quote => cases h
    | _ => rfl
  · refine .inr ⟨x, rfl, ?_⟩
    cases tag with
    | codeBlock _ | list _ | item | quote => cases h
    | _ => rfl

section

variable {r : Reader} (hcode : r.code = none)
include hcode

/-- More text goes behind what the open span has collected, or stands for itself. -/
theorem content_extend (t : Text) (segment : Segment) :
    (r.extend t segment).content = r.content ++ if r.span.isSome then t else segment.content := by
  unfold extend
  split
  · rename_i span before hspan
    simp [content, hspan, hcode]
  · rename_i hspan
    rw [content_push_of_clear hcode hspan, hspan]
    rfl

theorem text_eq_extend (t : Text) : r.text t = r.extend t (.text t) := by
  unfold text extend
  rw [hcode]
  rcases r.span with - | ⟨span, before⟩ <;> rfl

/-- What stands by itself opens and closes nothing. -/
theorem kind_leaf {event : Event} (h : event.IsLeaf) :
    (r.step event).code = none ∧ (r.step event).kind = r.kind := by
  have hextend (t : Text) (segment : Segment) :
      (r.extend t segment).code = none ∧ (r.extend t segment).kind = r.kind := by
    rw [← hcode]
    exact r.kind_extend t segment
  cases event with
  | text content =>
    show (r.text content).code = none ∧ (r.text content).kind = r.kind
    rw [text_eq_extend hcode]
    exact hextend content (.text content)
  | code content => exact hextend content (.code content)
  | inlineHtml content => exact ⟨hcode, rfl⟩
  | softBreak => exact hextend [' '] .lineEnd
  | hardBreak => exact hextend [' '] .lineEnd
  | _ => cases h

/-- What stands by itself adds its text, HTML only where no span is open. -/
theorem content_leaf {event : Event} (h : event.IsLeaf) (hhtml : event.isHtml → r.span = none) :
    (r.step event).content = r.content ++ event.content r.span.isSome := by
  cases event with
  | text content =>
    show (r.text content).content = r.content ++ content
    rw [text_eq_extend hcode, content_extend hcode]
    exact congrArg (r.content ++ ·) (ite_self content)
  | code content =>
    show (r.extend content (.code content)).content = r.content ++ content
    rw [content_extend hcode]
    exact congrArg (r.content ++ ·) (ite_self content)
  | inlineHtml content => exact content_push_of_clear hcode (hhtml rfl) _
  | softBreak => exact content_extend hcode [' '] .lineEnd
  | hardBreak => exact content_extend hcode [' '] .lineEnd
  | _ => cases h

/-- HTML in an open span is set before the text of the span. -/
theorem hasAll_leaf {event : Event} (h : event.IsLeaf) :
    HasAll (r.step event).content (r.content ++ event.content r.span.isSome) := by
  by_cases hhtml : event.isHtml
  · cases event with
    | inlineHtml html =>
      apply HasAll.of_perm
      show (r.content ++ _).Perm (r.push _).content
      rw [content_push]
      -- the HTML trades places with what waits
      unfold content
      rw [List.append_assoc]
      exact List.perm_append_comm.append_left _
    | html html => cases h
    | _ => cases hhtml
  · rw [content_leaf hcode h fun hevent => absurd hevent hhtml]
    exact HasAll.refl _

/-- A tag around a text opens its span where none is open, and adds no text. -/
theorem opening_around {tag : Tag} (h : IsAround tag) :
    (r.opening tag).code = none ∧ (r.opening tag).kind = r.kind.or (Span.ofTag? tag) ∧
      (r.opening tag).content = r.content := by
  obtain ⟨hspan, hopening⟩ | ⟨x, hspan, hopening⟩ := opening_cases h r
  · rw [hopening]
    refine ⟨hcode, ?_, ?_⟩
    · rcases hof : Span.ofTag? tag with - | span <;> simp [kind, hspan]
    · rcases hof : Span.ofTag? tag with - | span <;> simp [content, hspan]
  · rw [hopening]
    exact ⟨hcode, by simp [kind, hspan], rfl⟩

/-- The end of a tag around a text closes an open span of its kind, and adds no text. -/
theorem closing_around {tag : Tag} (h : IsAround tag) :
    (r.closing tag).code = none ∧ (r.closing tag).kind = r.kind.filter (!·.endsWith tag) ∧
      (r.closing tag).content = r.content := by
  have hclosing : r.closing tag = match r.span with
      | some (span, t) =>
        if span.endsWith tag then { r with span := none }.push (span.segment t) else r
      | none => r := by
    cases tag with
    | codeBlock _ | list _ | item | quote | paragraph => cases h
    | _ => rfl
  -- a span that the tag does not end stays open, and what it has collected waits on
  rw [hclosing]
  split
  · rename_i span t hspan
    split
    · rename_i hends
      refine ⟨hcode, by simp [kind, push, hspan, hends, Option.filter_some], ?_⟩
      rw [content_push, Span.content_segment]
      simp [content, hcode, hspan]
    · rename_i hends
      exact ⟨hcode, by simp [kind, hspan, hends, Option.filter_some], rfl⟩
  · rename_i hspan
    exact ⟨hcode, by simp [kind, hspan], rfl⟩

end

/-! ### Texts -/

/-- What stands between two ends is read in between. -/
theorem foldl_within (r : Reader) (tag : Tag) (events : List Event) :
    (Event.within tag events).foldl step r = (events.foldl step (r.opening tag)).closing tag := by
  show (events ++ [Event.closing tag]).foldl step (r.opening tag) = _
  rw [List.foldl_append]
  rfl

/-- Is no code open any more, and no span but one that was open before? -/
structure Leaves (r after : Reader) : Prop where
  code : after.code = none
  kind : after.kind = none ∨ after.kind = r.kind

/-- A span that the tag opens itself ends with it. -/
theorem Leaves.within {tag : Tag} (htag : IsAround tag) {r : Reader} (hcode : r.code = none)
    {events : List Event} (h : (r.opening tag).Leaves (events.foldl step (r.opening tag))) :
    r.Leaves ((Event.within tag events).foldl step r) := by
  obtain ⟨-, hopen, -⟩ := opening_around hcode htag
  obtain ⟨hclosed, hend, -⟩ := closing_around h.code htag
  rw [foldl_within]
  refine ⟨hclosed, ?_⟩
  rw [hend]
  -- what was open before stays open, unless something inside has ended it or the tag itself does
  rcases h.kind with hinner | hinner
  · left
    rw [hinner]
    rfl
  · rw [hinner, hopen]
    rcases r.kind with - | span
    · left
      rcases hof : Span.ofTag? tag with - | span
      · rfl
      · simp [Option.filter_some, Span.endsWith_of_ofTag hof]
    · show Option.filter _ (some span) = none ∨ Option.filter _ (some span) = some span
      rw [Option.filter_some]
      split
      · exact .inr rfl
      · exact .inl rfl

/-- After a text the span that was open before it is still open, or none is. -/
theorem leaves_inline {events : List Event} (h : IsInline events) {r : Reader}
    (hcode : r.code = none) : r.Leaves (events.foldl step r) := by
  -- the induction is on how the events are nested
  induction h generalizing r with
  | nil => exact ⟨hcode, .inr rfl⟩
  | leaf h =>
    obtain ⟨hread, hkind⟩ := kind_leaf hcode h
    exact ⟨hread, .inr hkind⟩
  | within htag _ ih =>
    have haround := IsAround.of_isInline htag
    exact .within haround hcode (ih (opening_around hcode haround).1)
  | append _ _ ihx ihy =>
    have hx := ihx hcode
    have hy := ihy hx.code
    rw [List.foldl_append]
    refine ⟨hy.code, ?_⟩
    rcases hy.kind with hkind | hkind
    · exact .inl hkind
    · rw [hkind]
      exact hx.kind

/-- The ends of a tag around a text have no text themselves. -/
theorem content_within {tag : Tag} (htag : IsAround tag) {events : List Event}
    (h : IsInline events) {r : Reader} (hcode : r.code = none) :
    ((Event.within tag events).foldl step r).content
      = (events.foldl step (r.opening tag)).content := by
  obtain ⟨hopened, -, -⟩ := opening_around hcode htag
  rw [foldl_within]
  exact (closing_around (leaves_inline h hopened).code htag).2.2

/-- Inside of a tag that opens no span, none is open that was not open before. -/
theorem isSome_opening {tag : Tag} (htag : IsAround tag) {r : Reader} (hcode : r.code = none)
    {depth : Nat} (hdepth : r.kind.isSome → 0 < depth) (h : (r.opening tag).kind.isSome) :
    0 < if tag.joinsLines then depth + 1 else depth := by
  obtain ⟨-, hkind, -⟩ := opening_around hcode htag
  split
  · exact Nat.succ_pos depth
  · rename_i hlines
    have hof : Span.ofTag? tag = none := by
      rw [← isSome_ofTag] at hlines
      exact Option.not_isSome_iff_eq_none.mp hlines
    rw [hkind, hof, Option.or_none] at h
    exact hdepth h

/-- A text keeps its characters, apart from spaces. -/
theorem hasAll_inline {events : List Event} (h : IsInline events) {r : Reader}
    (hcode : r.code = none) {depth : Nat} (hdepth : r.kind.isSome → 0 < depth) :
    HasAll (events.foldl step r).content (r.content ++ contents depth events) := by
  -- a span may end before the tag that opened it, so it is only said that an open span stands
  -- inside of some tag
  induction h generalizing r depth with
  | nil =>
    show HasAll r.content (r.content ++ [])
    rw [List.append_nil]
    exact .refl _
  | @leaf event h =>
    show HasAll (r.step event).content (r.content ++ (event.content (0 < depth) ++ []))
    rw [List.append_nil]
    refine (hasAll_leaf hcode h).trans (hasAll_content _ event fun hspan => ?_)
    rw [← Option.isSome_map] at hspan
    exact decide_eq_true (hdepth hspan)
  | @within tag events htag h ih =>
    have haround := IsAround.of_isInline htag
    obtain ⟨hopened, -, hcontent⟩ := opening_around hcode haround
    rw [content_within haround h hcode, contents_within, ← hcontent]
    exact ih hopened (isSome_opening haround hcode hdepth)
  | @append xs ys hx hy ihx ihy =>
    obtain ⟨hread, hkind⟩ := leaves_inline hx hcode
    rw [List.foldl_append, contents_append, hx.foldl_depth, ← List.append_assoc]
    refine (ihy hread fun hspan => ?_).trans ((ihx hcode hdepth).append_right _)
    rcases hkind with hkind | hkind
    · rw [hkind] at hspan
      cases hspan
    · exact hdepth (hkind ▸ hspan)

/-- A span that ends inside of a text is ended by one of its kind. -/
theorem exists_end {events : List Event} (h : IsInline events) {r : Reader}
    (hcode : r.code = none) {span : Span} (hkind : r.kind = some span)
    (hend : (events.foldl step r).kind = none) : ∃ event ∈ events, span.endsAt event = true := by
  -- leaves end nothing, so it is a tag, and this or another one inside of it
  induction h generalizing r with
  | nil =>
    rw [show (List.foldl step r []).kind = some span from hkind] at hend
    cases hend
  | @leaf event h =>
    rw [show (List.foldl step r [event]).kind = r.kind from (kind_leaf hcode h).2, hkind] at hend
    cases hend
  | @within tag events htag h ih =>
    have haround := IsAround.of_isInline htag
    obtain ⟨hopened, hopen, -⟩ := opening_around hcode haround
    have hstill : (r.opening tag).kind = some span := by
      rw [hopen, hkind]
      rfl
    obtain ⟨hread, hinner⟩ := leaves_inline h hopened
    rcases hinner with hinner | hinner
    · -- it was ended before the tag
      obtain ⟨event, hevent, hends⟩ := ih hopened hstill hinner
      exact ⟨event, List.mem_append_left _ (List.mem_cons_of_mem _ hevent), hends⟩
    · -- the tag itself ends the span
      obtain ⟨-, hclosed, -⟩ := closing_around hread haround
      rw [foldl_within, hclosed, hinner, hstill, Option.filter_some] at hend
      refine ⟨.closing tag, List.mem_append_right _ List.mem_cons_self, ?_⟩
      show span.endsWith tag = true
      cases hends : span.endsWith tag
      · simp [hends] at hend
      · rfl
  | append hx hy ihx ihy =>
    rw [List.foldl_append] at hend
    obtain ⟨hread, hmiddle⟩ := leaves_inline hx hcode
    rcases hmiddle with hmiddle | hmiddle
    · obtain ⟨event, hevent, hends⟩ := ihx hcode hkind hmiddle
      exact ⟨event, List.mem_append_left _ hevent, hends⟩
    · obtain ⟨event, hevent, hends⟩ := ihy hread (hmiddle.trans hkind) hend
      exact ⟨event, List.mem_append_right _ hevent, hends⟩

/-- What keeps the events to come in order, `depth` spans being open. -/
inductive Ready (r : Reader) (depth : Nat) (events : List Event) : Prop where
  /-- It does not matter where they stand. -/
  | plain (h : ∀ event ∈ events, ¬ event.isHtml ∧ ¬ event.isBreak)
  /-- The open span is tidy. -/
  | tidy {span : Span} (hkind : r.kind = some span) (hdepth : 0 < depth) (h : IsTidy span events)
  /-- No span is open, and those to come are tidy. -/
  | orderly (hkind : r.kind = none) (hdepth : depth = 0) (h : IsOrderly events)

namespace Ready

variable {r : Reader} {depth : Nat}

/-- An event without an end adds its own text. -/
theorem leaf {event : Event} (h : r.Ready depth [event]) (hcode : r.code = none)
    (hleaf : event.IsLeaf) :
    (r.step event).content = r.content ++ event.content (0 < depth) := by
  -- in an open span a line end is a space, outside of spans it is none
  cases h with
  | plain h =>
    obtain ⟨hhtml, hbreak⟩ := h event List.mem_cons_self
    rw [event.content_of_not_isBreak hbreak _ r.span.isSome]
    exact content_leaf hcode hleaf fun hevent => absurd hevent hhtml
  | @tidy span hkind hdepth h =>
    have hopen : r.span.isSome = decide (0 < depth) := by
      rw [decide_eq_true hdepth, ← Option.isSome_map]
      exact Option.isSome_of_eq_some hkind
    rw [← hopen]
    exact content_leaf hcode hleaf fun hevent => absurd hevent (h.html event List.mem_cons_self)
  | orderly hkind hdepth h =>
    have hspan : r.span = none := Option.map_eq_none_iff.mp hkind
    rw [content_leaf hcode hleaf fun _ => hspan, hspan, hdepth]
    rfl

/-- A span that the tag opens is tidy; an open one goes on. -/
theorem inside {tag : Tag} {events : List Event} (h : r.Ready depth (Event.within tag events))
    (hcode : r.code = none) (htag : IsAround tag) (hevents : IsInline events) :
    (r.opening tag).Ready (if tag.joinsLines then depth + 1 else depth) events := by
  have hpart : events <:+: Event.within tag events := ⟨[.opening tag], [.closing tag], rfl⟩
  obtain ⟨-, hopen, -⟩ := opening_around hcode htag
  cases h with
  | plain h => exact .plain fun event hevent => h event (hpart.subset hevent)
  | @tidy span hkind hdepth h =>
    have hstill : (r.opening tag).kind = some span := by
      rw [hopen, hkind]
      rfl
    refine .tidy hstill ?_ (h.of_isInfix hpart)
    split <;> omega
  | orderly hkind hdepth h =>
    -- no span is open, and so the one of the tag is opened, if it has any
    rw [hkind, Option.none_or] at hopen
    rcases hof : Span.ofTag? tag with - | span
    · have hlines : ¬ tag.joinsLines = true := by
        rw [← isSome_ofTag, hof]
        exact Bool.false_ne_true
      rw [if_neg hlines]
      exact .orderly (hopen.trans hof) hdepth h.of_within
    · have hlines : tag.joinsLines = true := by
        rw [← isSome_ofTag, hof]
        rfl
      rw [if_pos hlines]
      exact .tidy (hopen.trans hof) depth.succ_pos (h.isTidy hevents hof)

/-- What is ready for events is ready for the first of them. -/
theorem left {xs ys : List Event} (h : r.Ready depth (xs ++ ys)) : r.Ready depth xs := by
  have hpart : xs <:+: xs ++ ys := (List.prefix_append xs ys).isInfix
  cases h with
  | plain h => exact .plain fun event hevent => h event (hpart.subset hevent)
  | tidy hkind hdepth h => exact .tidy hkind hdepth (h.of_isInfix hpart)
  | orderly hkind hdepth h => exact .orderly hkind hdepth h.append_left

/-- After a tidy span that ended early only plain events follow. -/
theorem right {xs ys : List Event} (h : r.Ready depth (xs ++ ys)) (hcode : r.code = none)
    (hx : IsInline xs) : (xs.foldl step r).Ready depth ys := by
  have hpart : ys <:+: xs ++ ys := (List.suffix_append xs ys).isInfix
  obtain ⟨-, hmiddle⟩ := leaves_inline hx hcode
  -- whichever way the reader was ready, the first events may have ended the span
  cases h with
  | plain h => exact .plain fun event hevent => h event (hpart.subset hevent)
  | @tidy span hkind hdepth h =>
    rcases hmiddle with hmiddle | hmiddle
    · -- the span ended in `xs`, and so all of `ys` comes after an event that ends it
      obtain ⟨last, hlast, hends⟩ := exists_end hx hcode hkind hmiddle
      have hmore : ¬ (xs.dropWhile (!span.endsAt ·)).isEmpty := by
        rw [List.isEmpty_iff, List.dropWhile_eq_nil_iff]
        intro hall
        simpa [hends] using hall last hlast
      refine .plain fun event hevent => ⟨h.html event (hpart.subset hevent), ?_⟩
      refine h.line event ?_
      rw [List.dropWhile_append, if_neg hmore]
      exact List.mem_append_right _ hevent
    · exact .tidy (hmiddle.trans hkind) hdepth (h.of_isInfix hpart)
  | orderly hkind hdepth h =>
    refine .orderly ?_ hdepth h.append_right
    rcases hmiddle with hmiddle | hmiddle
    · exact hmiddle
    · exact hmiddle.trans hkind

end Ready

/-- A text is kept in order. -/
theorem content_inline {events : List Event} (h : IsInline events) {r : Reader}
    (hcode : r.code = none) {depth : Nat} (hready : r.Ready depth events) :
    (events.foldl step r).content = r.content ++ contents depth events := by
  -- along the nesting; what has been read leaves the rest ready
  induction h generalizing r depth with
  | nil => exact (List.append_nil _).symm
  | @leaf event h =>
    show (r.step event).content = r.content ++ (event.content (0 < depth) ++ [])
    rw [List.append_nil]
    exact hready.leaf hcode h
  | @within tag events htag h ih =>
    have haround := IsAround.of_isInline htag
    obtain ⟨hopened, -, hcontent⟩ := opening_around hcode haround
    rw [content_within haround h hcode, contents_within, ← hcontent]
    exact ih hopened (hready.inside hcode haround h)
  | @append xs ys hx hy ihx ihy =>
    obtain ⟨hread, -⟩ := leaves_inline hx hcode
    rw [List.foldl_append, contents_append, hx.foldl_depth, ← List.append_assoc,
      ← ihx hcode hready.left]
    exact ihy hread (hready.right hcode hx)

/-! ### Blocks -/

/-- Is no span and no block of code open? -/
structure IsClear (r : Reader) : Prop where
  code : r.code = none
  span : r.span = none

theorem IsClear.kind {r : Reader} (h : r.IsClear) : r.kind = none := by
  rw [Reader.kind, h.span]
  rfl

theorem IsClear.of_kind {r : Reader} (hcode : r.code = none) (hkind : r.kind = none) : r.IsClear :=
  ⟨hcode, Option.map_eq_none_iff.mp hkind⟩

/-- A line of text leaves nothing open where nothing was. -/
theorem IsClear.inline {r : Reader} (h : r.IsClear) {events : List Event}
    (hevents : IsInline events) : (events.foldl step r).IsClear := by
  obtain ⟨hread, hkind⟩ := leaves_inline hevents h.code
  rcases hkind with hkind | hkind
  · exact .of_kind hread hkind
  · exact .of_kind hread (hkind.trans h.kind)

/-- A block of code collects its lines. -/
theorem foldl_code {events : List Event} (h : ∀ event ∈ events, ∃ content, event = .text content)
    {r : Reader} {language : Option Text} {code : Text} (hcode : r.code = some (language, code))
    (depth : Nat) :
    events.foldl step r = { r with code := some (language, code ++ contents depth events) } := by
  -- the induction is on the lines, with what was collected before them
  induction events generalizing r code with
  | nil =>
    show r = { r with code := some (language, code ++ []) }
    rw [List.append_nil, ← hcode]
  | cons event rest ih =>
    obtain ⟨content, rfl⟩ := h event List.mem_cons_self
    have hrest : ∀ event ∈ rest, ∃ content, event = .text content := fun event hevent =>
      h event (List.mem_cons_of_mem _ hevent)
    have hstep : r.step (.text content) = { r with code := some (language, code ++ content) } := by
      show r.text content = _
      unfold text
      rw [hcode]
    rw [List.foldl_cons, hstep, ih hrest rfl]
    show _ = { r with code := some (language, code ++ (content ++ contents depth rest)) }
    rw [List.append_assoc]

/-- The lines of an HTML block stand for themselves. -/
theorem read_html {events : List Event}
    (h : ∀ event ∈ events, ∃ content, event = .text content ∨ event = .html content)
    {r : Reader} (hr : r.IsClear) :
    (events.foldl step r).IsClear ∧
      (events.foldl step r).content = r.content ++ contents 0 events := by
  induction events generalizing r with
  | nil => exact ⟨hr, (List.append_nil _).symm⟩
  | cons event rest ih =>
    have hrest := fun event hevent => h event (List.mem_cons_of_mem _ hevent)
    -- each line makes a segment of its own
    have hstep : ∃ segment, r.step event = r.push segment ∧
        segment.content = event.content false := by
      obtain ⟨content, rfl | rfl⟩ := h event List.mem_cons_self
      · refine ⟨.text content, ?_, rfl⟩
        show r.text content = _
        unfold text
        rw [hr.code, hr.span]
      · exact ⟨_, rfl, rfl⟩
    have hdepth : event.depth 0 = 0 := by
      obtain ⟨content, rfl | rfl⟩ := h event List.mem_cons_self <;> rfl
    obtain ⟨segment, hpush, hsegment⟩ := hstep
    obtain ⟨hclear, hcontent⟩ := ih hrest (r := r.push segment) ⟨hr.code, hr.span⟩
    rw [List.foldl_cons, hpush]
    refine ⟨hclear, hcontent.trans ?_⟩
    rw [content_push_of_clear hr.code hr.span, hsegment, List.append_assoc]
    show _ = r.content ++ (event.content false ++ contents (event.depth 0) rest)
    rw [hdepth]

/-- A paragraph and a block of HTML begin without notice. -/
theorem opening_eq_self (r : Reader) {tag : Tag} (h : tag = .paragraph ∨ tag = .htmlBlock) :
    r.opening tag = r := by
  rcases h with rfl | rfl
  · unfold opening
    simp [Span.ofTag?]
  · unfold opening
    simp [Span.ofTag?]

/-- Between blocks only what has no text is noted. -/
theorem opening_container {tag : Tag} (htag : tag.IsContainer) {r : Reader} (hr : r.IsClear) :
    (r.opening tag).IsClear ∧ (r.opening tag).content = r.content := by
  cases tag with
  | paragraph =>
    rw [r.opening_eq_self (.inl rfl)]
    exact ⟨hr, rfl⟩
  | quote => exact ⟨⟨hr.code, hr.span⟩, content_push_of_empty r rfl⟩
  | list start => exact ⟨⟨hr.code, hr.span⟩, rfl⟩
  | item =>
    unfold opening
    dsimp only
    split
    · exact ⟨hr, rfl⟩
    · exact ⟨⟨hr.code, hr.span⟩, content_push_of_empty { r with lists := _ } rfl⟩
  | _ => cases htag

theorem closing_container {tag : Tag} (htag : tag.IsContainer) {r : Reader} (hr : r.IsClear) :
    (r.closing tag).IsClear ∧ (r.closing tag).content = r.content := by
  cases tag with
  | paragraph => exact ⟨⟨hr.code, hr.span⟩, content_push_of_empty r rfl⟩
  | quote => exact ⟨⟨hr.code, hr.span⟩, content_push_of_empty r rfl⟩
  | list start => exact ⟨⟨hr.code, hr.span⟩, content_push_of_empty { r with lists := _ } rfl⟩
  | item => exact ⟨⟨hr.code, hr.span⟩, content_push_of_empty r rfl⟩
  | _ => cases htag

/-- What reading events adds, where nothing is open: all their characters apart from
spaces, and their text if they are orderly. -/
structure Adds (r : Reader) (events : List Event) : Prop where
  clear : (events.foldl step r).IsClear
  all : HasAll (events.foldl step r).content (r.content ++ contents 0 events)
  ordered : IsOrderly events → (events.foldl step r).content = r.content ++ contents 0 events

theorem Adds.of_eq {r : Reader} {events : List Event} (hclear : (events.foldl step r).IsClear)
    (h : (events.foldl step r).content = r.content ++ contents 0 events) : r.Adds events :=
  ⟨hclear, h ▸ .refl _, fun _ => h⟩

/-- Where nothing is open, a line of text adds what it says. -/
theorem Adds.inline {r : Reader} (hr : r.IsClear) {events : List Event} (h : IsInline events) :
    r.Adds events where
  clear := hr.inline h
  all := hasAll_inline h hr.code fun hopen => by simp [hr.kind] at hopen
  ordered horderly := content_inline h hr.code (.orderly hr.kind rfl horderly)

/-- A heading is a span of its own, and adds what stands in it. -/
theorem Adds.heading {r : Reader} (hr : r.IsClear) (level : Nat) {events : List Event}
    (h : IsInline events) : r.Adds (Event.within (.heading level) events) := by
  have haround : IsAround (.heading level) := trivial
  obtain ⟨hopened, -, hcontent⟩ := opening_around hr.code haround
  obtain ⟨hread, hend⟩ := Leaves.within haround hr.code (leaves_inline h hopened)
  rw [hr.kind, or_self] at hend
  refine ⟨.of_kind hread hend, ?_, fun horderly => ?_⟩
  · rw [content_within haround h hr.code, contents_within, ← hcontent]
    exact hasAll_inline h hopened fun _ => Nat.one_pos
  · have hready : r.Ready 0 (Event.within (.heading level) events) := .orderly hr.kind rfl horderly
    rw [content_within haround h hr.code, contents_within, ← hcontent]
    exact content_inline h hopened (hready.inside hr.code haround h)

/-- A block of code adds its lines. -/
theorem Adds.code {r : Reader} (hr : r.IsClear) (info : Text) {events : List Event}
    (h : ∀ event ∈ events, ∃ content, event = .text content) :
    r.Adds (Event.within (.codeBlock info) events) := by
  have hopening : r.opening (.codeBlock info)
      = { r with code := some (if info.isEmpty then none else some info, []) } := rfl
  have hread : (Event.within (.codeBlock info) events).foldl step r
      = { r with code := none }.push
        (.codeBlock (if info.isEmpty then none else some info) (contents 0 events)) := by
    rw [foldl_within, hopening, foldl_code h rfl 0]
    rfl
  have hclear : IsClear { r with code := none } := ⟨rfl, hr.span⟩
  refine .of_eq ?_ ?_
  · rw [hread]
    exact ⟨rfl, hr.span⟩
  · rw [hread, content_push_of_clear hclear.code hclear.span, contents_within]
    simp [content, hr.code, Segment.content, Tag.joinsLines]

/-- A block of HTML adds its lines, too. -/
theorem Adds.html {r : Reader} (hr : r.IsClear) {events : List Event}
    (h : ∀ event ∈ events, ∃ content, event = .text content ∨ event = .html content) :
    r.Adds (Event.within .htmlBlock events) := by
  obtain ⟨hclear, hcontent⟩ := read_html h hr
  have hread : (Event.within .htmlBlock events).foldl step r = events.foldl step r := by
    rw [foldl_within, r.opening_eq_self (.inr rfl)]
    unfold closing
    simp [hclear.span]
  refine .of_eq ?_ ?_
  · rw [hread]
    exact hclear
  · rw [hread, hcontent, contents_within]
    rfl

theorem Adds.rule {r : Reader} (hr : r.IsClear) : r.Adds [.rule] :=
  .of_eq ⟨hr.code, hr.span⟩ ((content_push_of_empty r rfl).trans (List.append_nil _).symm)

/-- What stands around blocks adds nothing. -/
theorem Adds.within {r : Reader} (hr : r.IsClear) {tag : Tag} (htag : tag.IsContainer)
    {events : List Event} (h : (r.opening tag).Adds events) : r.Adds (Event.within tag events) := by
  obtain ⟨-, hcontent⟩ := opening_container htag hr
  obtain ⟨hclosed, hend⟩ := closing_container htag h.clear
  -- what is inside a container goes through the line of the container
  have hlines : tag.joinsLines = false := by
    cases tag with
    | paragraph | quote | list _ | item => rfl
    | _ => cases htag
  have hcontents : contents 0 (Event.within tag events) = contents 0 events := by
    rw [contents_within, hlines]
    rfl
  refine ⟨?_, ?_, fun horderly => ?_⟩ <;> rw [foldl_within]
  · exact hclosed
  · rw [hend, hcontents, ← hcontent]
    exact h.all
  · rw [hend, hcontents, ← hcontent]
    exact h.ordered horderly.of_within

/-- Blocks side by side add their texts side by side. -/
theorem Adds.append {r : Reader} {xs ys : List Event} (hx : r.Adds xs) (hdepth : IsNested xs)
    (hy : (xs.foldl step r).Adds ys) : r.Adds (xs ++ ys) := by
  have hcontents : r.content ++ contents 0 (xs ++ ys)
      = (r.content ++ contents 0 xs) ++ contents 0 ys := by
    rw [contents_append, hdepth.foldl_depth, List.append_assoc]
  refine ⟨?_, ?_, fun horderly => ?_⟩ <;> rw [List.foldl_append]
  · exact hy.clear
  · rw [hcontents]
    exact hy.all.trans (hx.all.append_right _)
  · rw [hcontents, ← hx.ordered horderly.append_left]
    exact hy.ordered horderly.append_right

/-- Reading the events of blocks adds their text. -/
theorem Adds.of_isNested {events : List Event} (h : IsNested events) {r : Reader}
    (hr : r.IsClear) : r.Adds events := by
  induction h generalizing r with
  | text h => exact .inline hr h
  | heading level h => exact .heading hr level h
  | code info h => exact .code hr info h
  | html h => exact .html hr h
  | rule => exact .rule hr
  | within htag _ ih => exact .within hr htag (ih (opening_container htag hr).1)
  | append hx _ ihx ihy => exact .append (ihx hr) hx (ihy (ihx hr).clear)

end Reader

/-- **The segments of nested events hold their text**: all characters of it, apart from
spaces, and in order if every span is tidy.  Where the events come from does not matter. -/
theorem Segment.contents_ofEvents {events : List Event} (h : IsNested events) :
    HasAll (Segment.contents (Segment.ofEvents events)) (CommonMark.contents 0 events) ∧
      (IsOrderly events →
        Segment.contents (Segment.ofEvents events) = CommonMark.contents 0 events) := by
  have hclear : Reader.IsClear {} := ⟨rfl, rfl⟩
  have hadds : Reader.Adds {} events := .of_isNested h hclear
  -- nothing waits at the end, so all that was read is in the segments
  have hread : (events.foldl Reader.step {}).content
      = Segment.contents (Segment.ofEvents events) := by
    unfold Reader.content
    rw [hadds.clear.code, hadds.clear.span]
    exact List.append_nil _
  rw [← hread]
  exact ⟨hadds.all, hadds.ordered⟩

/-- **The segments of a document hold its text**, since the events of every document are
nested. -/
theorem Segment.contents_ofText (t : Text) :
    HasAll (Segment.contents (Segment.ofText t)) (CommonMark.contents 0 (events t)) ∧
      (IsOrderly (events t) →
        Segment.contents (Segment.ofText t) = CommonMark.contents 0 (events t)) :=
  Segment.contents_ofEvents (isNested_events t)

example : IsOrderly (events "a <b> **c _d_\ne** *f*".toList) := by decide +kernel

/-- HTML comes before the span that it stands in, and the end of a span in one of its own
kind lets a line end be lost. -/
theorem Segment.contents_ofText_parts_ways :
    (Segment.contents (Segment.ofText "**a<b>c**".toList) = "<b>ac".toList ∧
        CommonMark.contents 0 (events "**a<b>c**".toList) = "a<b>c".toList) ∧
      Segment.contents (Segment.ofText "*a _b_\nc*".toList) = "a bc".toList ∧
        CommonMark.contents 0 (events "*a _b_\nc*".toList) = "a b c".toList := by
  decide +kernel

end AgentConsole.Transcript
