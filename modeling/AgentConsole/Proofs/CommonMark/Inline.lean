import AgentConsole.CommonMark.Document
import AgentConsole.Proofs.CommonMark.Block
import AgentConsole.Proofs.CommonMark.Reading

/-!
# Events of a tame document

Reading a tame text yields events that carry inert texts only.  Code, HTML and addresses
are pieces of the text as it stands; everything else was resolved once, from the tame
text itself, and is never resolved again (`IsTame.reads`, `allInert_inlineEvents`).
-/

namespace AgentConsole.CommonMark

open Unicode

/-! ### Events -/

/-- Is the destination of a link inert? -/
def Tag.IsInert : Tag → Prop
  | .link destination => destination.IsInert
  | _ => True

/-- Is the text that an event carries inert? -/
def Event.IsInert : Event → Prop
  | .opening tag | .closing tag => tag.IsInert
  | .text content | .code content | .html content | .inlineHtml content => content.IsInert
  | .softBreak | .hardBreak | .rule => True

/-- Are all events inert? -/
def AllInert (events : List Event) : Prop := ∀ event ∈ events, event.IsInert

namespace AllInert

theorem nil : AllInert [] := by
  intro event hevent
  simp at hevent

theorem cons {event : Event} {events : List Event} (h : AllInert events)
    (hevent : event.IsInert) : AllInert (event :: events) := by
  intro e he
  rcases List.mem_cons.mp he with rfl | he
  · exact hevent
  · exact h e he

theorem one (event : Event) (h : event.IsInert) : AllInert [event] := nil.cons h

theorem append {xs ys : List Event} (hx : AllInert xs) (hy : AllInert ys) : AllInert (xs ++ ys) := by
  intro e he
  rcases List.mem_append.mp he with he | he
  · exact hx e he
  · exact hy e he

theorem within {events : List Event} (h : AllInert events) (tag : Tag) (htag : tag.IsInert) :
    AllInert (Event.within tag events) := by
  have hopening : (Event.opening tag).IsInert := htag
  have hclosing : (Event.closing tag).IsInert := htag
  exact (h.cons hopening).append (one _ hclosing)

end AllInert

/-! ### Pieces -/

namespace Piece

/-- Is the text or the mark of the piece inert? -/
def IsInert (p : Piece) : Prop :=
  match p.shape with
  | .text content => content.IsInert
  | .run mark _ _ _ => Unicode.IsInert mark
  | _ => True

/-- Text that waits goes into a piece of its own. -/
theorem isInert_flush {pending : Text} (h : pending.IsInert) (stop : Nat) {pieces : List Piece}
    (hpieces : ∀ p ∈ pieces, p.IsInert) : ∀ p ∈ flush pending stop pieces, p.IsInert := by
  unfold flush
  split
  · exact hpieces
  · intro p hp
    rcases List.mem_cons.mp hp with rfl | hp
    · have hback : Text.IsInert pending.reverse :=
        h.subset (List.reverse_subset.mpr (List.Subset.refl _))
      exact hback
    · exact hpieces p hp

theorem isInert_flush_cons {pending : Text} (h : pending.IsInert) (stop : Nat) {p : Piece}
    {pieces : List Piece} (hpieces : ∀ p ∈ pieces, p.IsInert) (hp : p.IsInert) :
    ∀ q ∈ flush pending stop (p :: pieces), q.IsInert := by
  refine isInert_flush h stop fun q hq => ?_
  rcases List.mem_cons.mp hq with rfl | hq
  · exact hp
  · exact hpieces q hq

/-- The pieces of a tame text are inert: a reference is resolved here, and what it
names is a piece of its own, which is not read again. -/
theorem isInert_scan {t : Text} (h : IsTame t) (mode : Mode) (before : Char) (here : Nat)
    {pending : Text} (hpending : pending.IsInert) :
    ∀ p ∈ scan mode before here pending t, p.IsInert := by
  induction t generalizing mode before here pending with
  | nil => exact isInert_flush hpending here (by simp)
  | cons c rest ih =>
    have hc : Unicode.IsInert c := h.inert c List.mem_cons_self
    have hskip (mode : Mode) (here : Nat) := ih h.tail mode c here Text.IsInert.nil
    have hkeep (mode : Mode) (here : Nat) := ih h.tail mode c here (hpending.cons hc)
    -- a piece without a text of its own
    have hmark {p : Piece} (hp : p.IsInert) (mode : Mode) (here stop : Nat) :
        ∀ q ∈ flush pending stop (p :: scan mode c here [] rest), q.IsInert :=
      isInert_flush_cons hpending stop (hskip mode here) hp
    unfold scan
    split
    · exact hskip _ _
    · exact hkeep _ _
    · dsimp only
      by_cases hnewline : c = '\n'
      · -- blanks before the end of a line are dropped
        have hcontent : Text.IsInert (pending.dropWhile isLineBlank) :=
          hpending.subset (List.dropWhile_suffix _).subset
        rw [if_pos hnewline]
        refine isInert_flush_cons hcontent _ (hskip _ _) ?_
        split <;> trivial
      rw [if_neg hnewline]
      by_cases hslash : c = '\\'
      · rw [if_pos hslash]
        split
        · -- before the end of a line: a hard break
          apply hmark; trivial
        · split
          · -- before backticks, of which it takes one away
            apply hmark; trivial
          · -- before punctuation, which it makes literal
            split
            · exact isInert_flush hpending _ (hskip _ _)
            · exact hkeep _ _
        · exact hkeep _ _
      rw [if_neg hslash]
      by_cases hrun : c = '*' ∨ c = '_' ∨ c = '~'
      · rw [if_pos hrun]
        split
        · apply hmark; exact hc
        · exact hkeep _ _
      rw [if_neg hrun]
      by_cases hticks : c = Fence.backtick
      · rw [if_pos hticks]
        apply hmark; trivial
      rw [if_neg hticks]
      by_cases hangle : c = '<' ∧ rest.head? ≠ some '\\'
      · rw [if_pos hangle]
        apply hmark; trivial
      rw [if_neg hangle]
      by_cases hbang : c = '!' ∧ rest.head? = some '['
      · rw [if_pos hbang]
        apply hmark; trivial
      rw [if_neg hbang]
      by_cases hopen : c = '['
      · rw [if_pos hopen]
        apply hmark; trivial
      rw [if_neg hopen]
      by_cases hclose : c = ']'
      · rw [if_pos hclose]
        apply hmark; trivial
      rw [if_neg hclose]
      by_cases hamp : c = '&'
      · rw [if_pos hamp]
        split
        · -- the one place where a text is decoded; what `h` allows is inert
          rename_i value n hread
          have hvalue : Text.IsInert value :=
            h.names rest value n (hamp ▸ List.infix_rfl) hread
          apply hmark
          exact hvalue
        · exact hkeep _ _
      · rw [if_neg hamp]
        exact hkeep _ _

theorem isInert_ofText {t : Text} (h : IsTame t) : ∀ p ∈ ofText t, p.IsInert :=
  isInert_scan h .normal '\n' 0 Text.IsInert.nil

end Piece

/-! ### Code, HTML and links -/

namespace InlineReader

/-- Code keeps its characters, apart from blanks at its ends and line ends. -/
theorem isInert_codeContent {raw : Text} (h : raw.IsInert) : (codeContent raw).IsInert := by
  have hspaced : Text.IsInert (raw.map fun c => if c = '\n' then ' ' else c) := by
    intro c hc
    obtain ⟨d, hd, rfl⟩ := List.mem_map.mp hc
    split
    · decide
    · exact h d hd
  unfold codeContent
  dsimp only
  split
  · refine hspaced.subset fun c hc => ?_
    exact List.mem_of_mem_drop (List.dropLast_subset _ hc)
  · exact hspaced

/-- A link leads to what stands behind it, or to what a definition says; both are inert. -/
theorem isInert_linkTarget {source : Text} (hsource : IsTame source)
    {definitions : List Link.Definition}
    (hdefinitions : ∀ definition ∈ definitions, definition.destination.IsInert) {b : Bracket}
    {stop resume : Nat} {destination : Text}
    (h : linkTarget? source definitions b stop = some (destination, resume)) :
    destination.IsInert := by
  have hlookup {key : Text} {n : Nat}
      (h : ((definitions.find? (·.key = key)).map (·.destination)).map (·, n)
        = some (destination, resume)) : destination.IsInert := by
    obtain ⟨found, hfound, heq⟩ := Option.map_eq_some_iff.mp h
    obtain ⟨rfl, -⟩ := Prod.mk.inj heq
    obtain ⟨definition, hmem, rfl⟩ := Option.map_eq_some_iff.mp hfound
    exact hdefinitions definition (List.mem_of_find?_eq_some hmem)
  have hinner {label : Option (Text × Nat)} {length taken : Nat}
      (h : (label.bind fun x =>
        if x.2 = length then
          ((definitions.find? (·.key = x.1)).map (·.destination)).map (·, stop + 1 + taken)
        else none) = some (destination, resume)) : destination.IsInert := by
    obtain ⟨x, -, hread⟩ := Option.bind_eq_some_iff.mp h
    split at hread
    · exact hlookup hread
    · cases hread
  unfold linkTarget? at h
  dsimp only at h
  -- a destination in parentheses, `[]`, a label, or the text of the link itself
  split at h
  · rename_i found n hfound
    obtain ⟨rfl, -⟩ := Prod.mk.inj (Option.some.inj h)
    exact Link.isInert_target (hsource.drop _) hfound
  · split at h
    · exact hinner h
    · split at h
      · exact hlookup h
      · exact hinner h

/-- What stands between angle brackets, a link of its own or HTML, is a piece of the text. -/
theorem allInert_angle {source : Text} (hsource : IsTame source) {start resume : Nat}
    {events : List Event} (h : angle? source start = some (events, resume)) : AllInert events := by
  have hrest (n : Nat) : Text.IsInert ((source.drop start).take n) :=
    ((hsource.drop start).take n).inert
  unfold angle? at h
  dsimp only at h
  split at h
  · rename_i n _
    obtain ⟨rfl, -⟩ := Prod.mk.inj (Option.some.inj h)
    exact (AllInert.one (.text _) (hrest n)).within _ (hrest n)
  · obtain ⟨n, -, heq⟩ := Option.map_eq_some_iff.mp h
    obtain ⟨rfl, -⟩ := Prod.mk.inj heq
    exact AllInert.one (.inlineHtml _) ((hrest n).cons (by decide))

end InlineReader

theorem isInert_signs : signs.IsInert := by
  intro c hc
  simp only [signs, List.mem_cons, List.not_mem_nil, or_false] at hc
  rcases hc with rfl | rfl | rfl | rfl | rfl <;> decide

/-- Reading a tame text keeps events inert: what is decoded on the way is inert, and all
else is a piece of the text or a sign of markup. -/
theorem IsTame.reads {t : Text} (h : IsTame t) {definitions : List Link.Definition}
    (hdefinitions : ∀ definition ∈ definitions, definition.destination.IsInert) :
    Reads AllInert Unicode.IsInert t definitions where
  nil := AllInert.nil
  append := AllInert.append
  emphasis hevents := hevents.within _ trivial
  strong hevents := hevents.within _ trivial
  strikethrough hevents := hevents.within _ trivial
  mark hmark := AllInert.one (.text _) (Text.IsInert.nil.cons hmark)
  -- pieces are inert, and what they hold is read off their shape
  text {p content} hp hshape n := by
    have hcontent : Text.IsInert content := by
      have hinert := Piece.isInert_ofText h p hp
      unfold Piece.IsInert at hinert
      rwa [hshape] at hinert
    exact AllInert.one (.text _) (hcontent.subset (List.drop_subset _ _))
  run {p _ _ _ _} hp hshape := by
    have hinert := Piece.isInert_ofText h p hp
    unfold Piece.IsInert at hinert
    rwa [hshape] at hinert
  sign hsigns := AllInert.one (.text _) (isInert_signs.subset hsigns)
  code hraw :=
    AllInert.one (.code _) (InlineReader.isInert_codeContent (h.inert.subset hraw.subset))
  angle hangle := InlineReader.allInert_angle h hangle
  -- a target is inert by its own lemma, since it is unescaped
  link htarget hevents :=
    hevents.within _ (InlineReader.isInert_linkTarget h hdefinitions htarget)
  image hevents := hevents.within _ trivial
  softBreak := AllInert.one .softBreak trivial
  hardBreak := AllInert.one .hardBreak trivial

/-! ### Documents -/

theorem allInert_allEvents {definitions : List Link.Definition} {blocks : List Block} (tight : Bool)
    (h : ∀ block ∈ blocks, AllInert (block.events definitions tight)) :
    AllInert (Block.allEvents definitions tight blocks) := by
  induction blocks with
  | nil => exact AllInert.nil
  | cons block rest ih =>
    exact (h block List.mem_cons_self).append (ih fun b hb => h b (List.mem_cons_of_mem _ hb))

section

variable {definitions : List Link.Definition}
  (hdefinitions : ∀ definition ∈ definitions, definition.destination.IsInert)
include hdefinitions

/-- **The events of a tame text are inert.** -/
theorem allInert_inlineEvents {t : Text} (h : IsTame t) : AllInert (inlineEvents definitions t) := by
  exact (h.reads hdefinitions).inlineEvents

/-- The events of a tame block are inert. -/
theorem Block.IsTame.allInert_events {block : Block} (h : block.IsTame) (tight : Bool) :
    AllInert (block.events definitions tight) := by
  -- along the blocks; whether a list is tight changes on the way down
  induction h generalizing tight with
  | paragraph h =>
    have hinner := allInert_inlineEvents hdefinitions h
    unfold Block.events
    dsimp only
    split
    · exact hinner
    · exact hinner.within _ trivial
  | heading h => exact (allInert_inlineEvents hdefinitions h).within _ trivial
  | code h => exact (AllInert.one (.text _) h).within _ trivial
  | html h =>
    refine AllInert.within (AllInert.append ?_ ?_) _ trivial
    · split
      · exact AllInert.nil
      · exact AllInert.one (.text _) (Text.isInert_spaces _)
    · intro event hevent
      obtain ⟨line, hline, rfl⟩ := List.mem_map.mp hevent
      exact h line hline
  | rule => exact AllInert.one .rule trivial
  | quote _ ih =>
    exact (allInert_allEvents _ fun b hb => ih b hb false).within _ trivial
  | list _ ih =>
    exact (allInert_allEvents _ fun b hb => ih b hb _).within _ trivial
  | item _ ih =>
    exact (allInert_allEvents _ fun b hb => ih b hb tight).within _ trivial

end

/-- **The events of a tame document are inert**: nothing that the reader decodes on its
way turns into a control. -/
theorem allInert_events {t : Text} (h : IsTame t) : AllInert (events t) := by
  obtain ⟨hblocks, hdefinitions⟩ := Block.isTame_ofText h
  exact allInert_allEvents false fun block hblock =>
    (hblocks block hblock).allInert_events hdefinitions false

end AgentConsole.CommonMark
