import AgentConsole.CommonMark.Inline

/-!
# What the reading of a text keeps

A text is read in one pass that puts pieces of it side by side and around them the ends
of tags.  So a property of lists of events holds of the whole reading as soon as it
passes to lists put side by side and to a list between two ends, and holds of what the
pieces give by themselves: `Emphasis.Keeps` says this of emphasis and `Reads` of all
inline markup, with `Reads.inlineEvents` for the conclusion.
-/

namespace AgentConsole.CommonMark

variable {P : List Event → Prop} {M : Char → Prop}

/-! ### Emphasis -/

/-- Does the part have the property, or its mark the property `M`? -/
def Inline.Holds (P : List Event → Prop) (M : Char → Prop) : Inline → Prop
  | .read events => P events
  | .run mark _ _ _ => M mark

namespace Emphasis

/-- The property passes through emphasis around marks with the property `M`. -/
structure Keeps (P : List Event → Prop) (M : Char → Prop) : Prop where
  nil : P []
  append {xs ys : List Event} : P xs → P ys → P (xs ++ ys)
  emphasis {events : List Event} : P events → P (Event.within .emphasis events)
  strong {events : List Event} : P events → P (Event.within .strong events)
  strikethrough {events : List Event} : P events → P (Event.within .strikethrough events)
  mark {mark : Char} : M mark → P [.text [mark]]

/-- Has all that was read the property, before the waiting runs and after them? -/
structure State.Holds (P : List Event → Prop) (M : Char → Prop) (s : State) : Prop where
  openers : ∀ o ∈ s.openers, M o.mark ∧ P o.before.reverse
  events : P s.events.reverse

namespace Keeps

variable (h : Keeps P M)
include h

theorem marks {mark : Char} (hmark : M mark) (count : Nat) : P (marks mark count) := by
  induction count with
  | zero => exact h.nil
  | succ n ih =>
    show P ([.text [mark]] ++ Emphasis.marks mark n)
    exact h.append (h.mark hmark) ih

theorem emphasized (n : Nat) {events : List Event} (hevents : P events) :
    P (emphasized n events) := by
  fun_induction Emphasis.emphasized n events with
  | case1 => exact hevents
  | case2 => exact h.emphasis hevents
  | case3 n events ih => exact ih (h.strong hevents)

/-- Marks around events come in as many pairs as match, strong ones first. -/
theorem wrap (mark : Char) (count : Nat) {events : List Event} (hevents : P events) :
    P (wrap mark count events) := by
  unfold Emphasis.wrap
  split
  · exact h.strikethrough hevents
  · exact h.emphasized count hevents

/-- The newest events stand first: what was read before comes after them. -/
theorem append_reverse {xs ys : List Event} (hx : P xs.reverse) (hy : P ys.reverse) :
    P (xs ++ ys).reverse := by
  rw [List.reverse_append]
  exact h.append hy hx

theorem marks_reverse {mark : Char} (hmark : M mark) (count : Nat) :
    P (Emphasis.marks mark count).reverse := by
  unfold Emphasis.marks
  rw [List.reverse_replicate]
  exact h.marks hmark count

/-- Marks that match nothing are text. -/
theorem giveUp {s : State} (hs : s.Holds P M) : s.giveUp.Holds P M := by
  unfold State.giveUp
  split
  · exact hs
  · rename_i o outer hopeners
    have hold := hs.openers
    rw [hopeners] at hold
    obtain ⟨hmark, hbefore⟩ := hold o List.mem_cons_self
    refine ⟨fun p hp => hold p (List.mem_cons_of_mem _ hp), ?_⟩
    exact h.append_reverse (h.append_reverse hs.events (h.marks_reverse hmark _)) hbefore

theorem giveUpMany {s : State} (hs : s.Holds P M) (n : Nat) : (s.giveUpMany n).Holds P M := by
  induction n generalizing s with
  | zero => exact hs
  | succ n ih => exact ih (h.giveUp hs)

/-- However many openers a closing run matches, and in which order, the state holds. -/
theorem close {s : State} (hs : s.Holds P M) (mark : Char) (length : Nat) (both : Bool)
    (fuel count : Nat) : (s.close mark length both fuel count).2.Holds P M := by
  induction fuel generalizing s count with
  | zero => exact hs
  | succ fuel ih =>
    unfold State.close
    split
    · exact hs
    · split
      · -- no opener fits, which tildes remember
        dsimp only
        split
        · exact ⟨hs.openers, hs.events⟩
        · exact hs
      · rename_i inside _
        have hclosed := h.giveUpMany hs inside
        dsimp only
        split
        · exact hclosed
        · rename_i o outer hopeners
          have hold := hclosed.openers
          rw [hopeners] at hold
          obtain ⟨hmark, hbefore⟩ := hold o List.mem_cons_self
          have houter := fun p hp => hold p (List.mem_cons_of_mem _ hp)
          have hwrapped : P (Emphasis.wrap mark (min count o.count)
              (s.giveUpMany inside).events.reverse).reverse.reverse := by
            rw [List.reverse_reverse]
            exact h.wrap mark _ hclosed.events
          -- what is left of the opener waits on, or its marks are used up
          split
          · refine ih ⟨?_, hwrapped⟩ _
            intro p hp
            rcases List.mem_cons.mp hp with rfl | hp
            · exact ⟨hmark, hbefore⟩
            · exact houter p hp
          · exact ih ⟨houter, h.append_reverse hwrapped hbefore⟩ _

/-- One part: events are put behind the others, and a run closes what it can before it waits. -/
theorem step {s : State} (hs : s.Holds P M) {part : Inline} (hpart : part.Holds P M) :
    (s.step part).Holds P M := by
  cases part with
  | read events =>
    have hread : P events.reverse.reverse := by
      rw [List.reverse_reverse]
      exact hpart
    exact ⟨hs.openers, h.append_reverse hread hs.events⟩
  | run mark count opens closes =>
    -- first it closes what is open
    have hclosed : (if closes then s.close mark count (opens && closes) count count
        else (count, s)).2.Holds P M := by
      split
      · exact h.close hs _ _ _ _ _
      · exact hs
    unfold State.step
    dsimp only
    -- what was closed has its own lemma, so here it may be anything that holds
    generalize (if closes then s.close mark count (opens && closes) count count
      else (count, s)) = result at hclosed
    obtain ⟨left, s'⟩ := result
    dsimp only at hclosed ⊢
    split
    · exact ⟨hclosed.openers, hclosed.events⟩
    · -- the marks that are left wait on, or are text
      split
      · refine ⟨?_, h.nil⟩
        intro o ho
        rcases List.mem_cons.mp ho with rfl | ho
        · exact ⟨hpart, hclosed.events⟩
        · exact hclosed.openers o ho
      · exact ⟨hclosed.openers, h.append_reverse (h.marks_reverse hpart left) hclosed.events⟩

/-- A property that passes through emphasis holds of a text whose parts have it. -/
theorem emphasize {parts : List Inline} (hparts : ∀ part ∈ parts, part.Holds P M) :
    P (emphasize parts) := by
  have hfold {s : State} (hs : s.Holds P M) : (parts.foldl State.step s).Holds P M := by
    induction parts generalizing s with
    | nil => exact hs
    | cons part rest ih =>
      exact ih (fun p hp => hparts p (List.mem_cons_of_mem _ hp))
        (h.step hs (hparts part List.mem_cons_self))
  have hread := hfold (s := {}) ⟨by simp, h.nil⟩
  exact (h.giveUpMany hread _).events

end Keeps

end Emphasis

/-! ### Code, HTML and links -/

/-- The signs of markup that are text where they mean nothing else. -/
def signs : Text := [Fence.backtick, '!', '[', ']', '<']

/-- The property holds of the pieces of a text, and passes to what is made of them. -/
structure Reads (P : List Event → Prop) (M : Char → Prop) (source : Text)
    (definitions : List Link.Definition) : Prop extends Emphasis.Keeps P M where
  /-- A piece that is text, or what a link leaves of it. -/
  text {p : Piece} {content : Text} (h : p ∈ Piece.ofText source)
    (hshape : p.shape = .text content) (n : Nat) : P [.text (content.drop n)]
  run {p : Piece} {mark : Char} {count : Nat} {opens closes : Bool} (h : p ∈ Piece.ofText source)
    (hshape : p.shape = .run mark count opens closes) : M mark
  sign {t : Text} (h : t ⊆ signs) : P [.text t]
  code {raw : Text} (h : raw <:+: source) : P [.code (InlineReader.codeContent raw)]
  angle {start resume : Nat} {events : List Event}
    (h : InlineReader.angle? source start = some (events, resume)) : P events
  link {b : Bracket} {stop resume : Nat} {destination : Text} {events : List Event}
    (h : InlineReader.linkTarget? source definitions b stop = some (destination, resume)) :
    P events → P (Event.within (.link destination) events)
  image {destination : Text} {events : List Event} :
    P events → P (Event.within (.image destination) events)
  softBreak : P [.softBreak]
  hardBreak : P [.hardBreak]

namespace InlineReader

/-- Has all that was read the property, before the open brackets and after them? -/
structure Holds (P : List Event → Prop) (M : Char → Prop) (r : InlineReader) : Prop where
  brackets : ∀ b ∈ r.brackets, ∀ part ∈ b.before, part.Holds P M
  parts : ∀ part ∈ r.parts, part.Holds P M

namespace Holds

variable {r : InlineReader} (h : r.Holds P M)
include h

/-- One more part. -/
theorem add (part : Inline) (hpart : part.Holds P M) :
    { r with parts := part :: r.parts }.Holds P M := by
  refine ⟨h.brackets, ?_⟩
  intro p hp
  rcases List.mem_cons.mp hp with rfl | hp
  · exact hpart
  · exact h.parts p hp

theorem withResume (resume : Nat) : { r with resume }.Holds P M := ⟨h.brackets, h.parts⟩

theorem push (event : Event) (hevent : P [event]) : (r.push event).Holds P M :=
  h.add (.read [event]) hevent

theorem openBracket (image : Bool) (start : Nat) : (r.openBracket image start).Holds P M := by
  refine ⟨?_, by simp [InlineReader.openBracket]⟩
  intro b hb
  rcases List.mem_cons.mp hb with rfl | hb
  · exact h.parts
  · exact h.brackets b hb

end Holds

end InlineReader

namespace Reads

variable {source : Text} {definitions : List Link.Definition} (h : Reads P M source definitions)
include h

/-- A bracket that links to nothing stands as text before what it holds. -/
theorem asText {b : Bracket} (hb : ∀ part ∈ b.before, part.Holds P M) {parts : List Inline}
    (hparts : ∀ part ∈ parts, part.Holds P M) : ∀ part ∈ b.asText parts, part.Holds P M := by
  intro part hpart
  rcases List.mem_append.mp hpart with hpart | hpart
  · exact hparts part hpart
  · rcases List.mem_cons.mp hpart with rfl | hpart
    · show P [.text (if b.image then ['!', '['] else ['['])]
      apply h.sign
      split <;> simp [signs]
    · exact hb part hpart

/-- A bracket that closes makes a link of what stands before it, or is text. -/
theorem closeBracket {r : InlineReader} (hr : r.Holds P M) (stop : Nat) :
    (InlineReader.closeBracket source definitions r stop).Holds P M := by
  have hbracket : P [.text [']']] := h.sign (by simp [signs])
  unfold InlineReader.closeBracket
  split
  · exact hr.push _ hbracket
  · rename_i b outer hbrackets
    -- the innermost bracket that is open, and those around it
    have hold := hr.brackets
    rw [hbrackets] at hold
    have hbefore := hold b List.mem_cons_self
    have houter := fun c hc => hold c (List.mem_cons_of_mem _ hc)
    split
    · -- it links to nothing and is text
      have hopen : { r with brackets := outer, parts := b.asText r.parts }.Holds P M :=
        ⟨houter, h.asText hbefore hr.parts⟩
      exact hopen.push _ hbracket
    · rename_i destination resume htarget
      have hinner : P (emphasize r.parts.reverse) :=
        h.emphasize fun p hp => hr.parts p (List.mem_reverse.mp hp)
      refine ⟨?_, ?_⟩
      · -- there are no links in links, and so the brackets around this one may change
        intro c hc
        dsimp only at hc
        split at hc
        · exact houter c hc
        · obtain ⟨d, hd, rfl⟩ := List.mem_map.mp hc
          exact houter d hd
      · intro part hpart
        rcases List.mem_cons.mp hpart with rfl | hpart
        · show P (Event.within (if b.image then .image destination else .link destination) _)
          split at htarget
          · split
            · exact h.image hinner
            · exact h.link htarget hinner
          · cases htarget
        · exact hbefore part hpart

/-- Reading a piece keeps the property. -/
theorem step {r : InlineReader} (hr : r.Holds P M) {p : Piece} (hp : p ∈ Piece.ofText source)
    (below : List Piece) : (InlineReader.step source definitions r p below).Holds P M := by
  have hticks (count : Nat) : P [.text (List.replicate count Fence.backtick)] :=
    h.sign fun c hc => by simp [List.eq_of_mem_replicate hc, signs]
  unfold InlineReader.step
  split
  · exact hr
  · -- one case for each shape of a piece
    split
    · rename_i content hshape
      exact hr.push _ (h.text hp hshape _)
    · rename_i mark count opens closes hshape
      exact hr.add (.run mark count opens closes) (h.run hp hshape)
    · dsimp only
      split
      · -- backticks that nothing closes are text
        exact hr.push _ (hticks _)
      · rename_i close _
        -- what stands between the backticks is a piece of the source
        have hraw : (source.drop p.stop).take (close.start - p.stop) <:+: source :=
          (List.take_prefix _ _).isInfix.trans (List.drop_suffix _ _).isInfix
        refine InlineReader.Holds.withResume (InlineReader.Holds.push ?_ _ (h.code hraw)) _
        split
        · exact hr.push _ (hticks 1)
        · exact hr
    · split
      · exact hr.push _ (h.sign (by simp [signs]))
      · rename_i events resume hangle
        exact (hr.add (.read events) (h.angle hangle)).withResume resume
    · exact hr.openBracket _ _
    · exact hr.openBracket _ _
    · exact h.closeBracket hr _
    · exact hr.push _ h.softBreak
    · exact hr.push _ h.hardBreak

/-- The run: piece by piece, what was read holds. -/
theorem readAll {r : InlineReader} (hr : r.Holds P M) {pieces : List Piece}
    (hpieces : pieces ⊆ Piece.ofText source) :
    (InlineReader.readAll source definitions pieces r).Holds P M := by
  induction pieces generalizing r with
  | nil => exact hr
  | cons p below ih =>
    have hrest : below ⊆ Piece.ofText source := fun q hq => hpieces (List.mem_cons_of_mem _ hq)
    exact ih (h.step hr (hpieces List.mem_cons_self) below) hrest

/-- Brackets that are open at the end are text. -/
theorem finish {r : InlineReader} (hr : r.Holds P M) : ∀ part ∈ r.finish, part.Holds P M := by
  obtain ⟨hbrackets, hparts⟩ := hr
  intro part hpart
  have hmem := List.mem_reverse.mp hpart
  clear hpart
  -- from the innermost bracket outwards, with what is text by then
  generalize r.brackets = brackets at hbrackets hmem
  generalize r.parts = parts at hparts hmem
  induction brackets generalizing parts with
  | nil => exact hparts part hmem
  | cons b outer ih =>
    refine ih (fun c hc => hbrackets c (List.mem_cons_of_mem _ hc)) (b.asText parts) ?_ hmem
    exact h.asText (hbrackets b List.mem_cons_self) hparts

/-- **What passes through the reading of a text holds of its events.** -/
theorem inlineEvents : P (inlineEvents definitions source) := by
  have hstart : InlineReader.Holds P M {} := ⟨by simp, by simp⟩
  exact h.emphasize (h.finish (h.readAll hstart (List.Subset.refl _)))

end Reads

end AgentConsole.CommonMark
