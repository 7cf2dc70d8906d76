import AgentConsole.CommonMark.Block
import AgentConsole.Proofs.CommonMark.Entity

/-!
# Blocks of a tame document

The block reader only cuts a document into pieces.  What is read further is a piece
of the document, or rows of it joined again, and so it is tame; what is shown as it
stands is inert (`Block.IsTame`).  One line keeps this of the outline that is being
read (`Outline.IsTame.read`), and so do all lines (`Block.isTame_ofText`).
-/

namespace AgentConsole.CommonMark

open Unicode

/-! ### Links -/

namespace Link

/-- The destination of a link is resolved, and inert. -/
theorem isInert_destination {limit n : Nat} {t destination : Text} (ht : IsTame t)
    (h : destination? limit t = some (destination, n)) : destination.IsInert := by
  unfold destination? at h
  split at h
  · obtain ⟨k, -, heq⟩ := Option.map_eq_some_iff.mp h
    obtain ⟨rfl, -⟩ := Prod.mk.inj heq
    exact (ht.tail.take k).unescape
  · obtain ⟨k, -, heq⟩ := Option.map_eq_some_iff.mp h
    obtain ⟨rfl, -⟩ := Prod.mk.inj heq
    exact (ht.take k).unescape

theorem isInert_target {n : Nat} {t destination : Text} (ht : IsTame t)
    (h : target? t = some (destination, n)) : destination.IsInert := by
  unfold target? at h
  split at h
  · dsimp only at h
    split at h
    · cases h
    · rename_i found _ hfound
      simp only [Option.ite_none_right_eq_some, Option.some.injEq, Prod.mk.injEq] at h
      obtain ⟨-, rfl, -⟩ := h
      exact isInert_destination (ht.drop _) hfound
  · cases h

/-- Where a definition leads to is inert, since it stands in the text. -/
theorem isInert_definition {n : Nat} {t : Text} {definition : Definition} (ht : IsTame t)
    (h : definition? t = some (definition, n)) : definition.destination.IsInert := by
  -- the reader gives up in four places, and hands the destination on in two
  unfold definition? at h
  split at h
  · cases h
  · split at h
    · cases h
    · dsimp only at h
      split at h
      · cases h
      · cases h
      · -- a label and a destination; a title may follow, and does not matter here
        rename_i found _ _ hfound
        have hinert := isInert_destination (ht.drop _) hfound
        split at h
        · obtain ⟨rfl, -⟩ := Prod.mk.inj (Option.some.inj h)
          exact hinert
        · split at h
          · obtain ⟨rfl, -⟩ := Prod.mk.inj (Option.some.inj h)
            exact hinert
          · cases h

end Link

/-! ### Lines and places in them -/

/-- Is the line one of a tame document? -/
structure Line.IsTame (line : Line) : Prop where
  text : CommonMark.IsTame line.text
  ending : line.ending = [] ∨ line.ending = ['\n']

namespace Line

/-- A line is a piece of the document, and the first line begins it. -/
theorem isInfix_ofText {t : Text} (h : '\r' ∉ t) :
    (∀ line ∈ ofText t, line.text <:+: t ∧ (line.ending = [] ∨ line.ending = ['\n'])) ∧
      ∀ line ∈ (ofText t).head?, line.text <+: t := by
  induction t with
  | nil => simp [ofText]
  | cons c rest ih =>
    simp only [List.mem_cons, not_or] at h
    obtain ⟨hall, hhead⟩ := ih h.2
    by_cases hc : c = '\n'
    · -- an empty line, and then the lines of the rest
      subst hc
      rw [ofText.eq_def]
      simp only [if_true]
      refine ⟨?_, by simp⟩
      intro line hline
      rcases List.mem_cons.mp hline with rfl | hline
      · exact ⟨List.nil_infix, .inr rfl⟩
      · exact ⟨List.infix_cons (hall line hline).1, (hall line hline).2⟩
    · -- `c` goes to the front of the first line, which is why that one is a prefix
      rw [ofText.eq_def]
      simp only [hc, if_false, Ne.symm h.1]
      rcases hlines : ofText rest with - | ⟨first, below⟩
      · simpa using List.prefix_append [c] rest |>.isInfix
      · rw [hlines] at hall hhead
        have hfirst : c :: first.text <+: c :: rest :=
          List.cons_prefix_cons.mpr ⟨rfl, hhead first rfl⟩
        refine ⟨?_, by simpa using hfirst⟩
        intro line hline
        rcases List.mem_cons.mp hline with rfl | hline
        · exact ⟨hfirst.isInfix, (hall first List.mem_cons_self).2⟩
        · have hlater := hall line (List.mem_cons_of_mem _ hline)
          exact ⟨List.infix_cons hlater.1, hlater.2⟩

/-- The lines of a tame text are tame, as each of them is a piece of it. -/
theorem isTame_of_mem_ofText {t : Text} (h : CommonMark.IsTame t) :
    ∀ line ∈ ofText t, line.IsTame := by
  intro line hline
  obtain ⟨htext, hending⟩ := (isInfix_ofText (Text.return_notMem_of_isInert h.inert)).1 line hline
  exact ⟨h.piece htext, hending⟩

/-- Without carriage returns no line runs on. -/
theorem IsTame.tail_eq {line : Line} (h : line.IsTame) (below : List Line) :
    line.tail below = (line.ending, 0) := by
  have hending : line.ending ≠ ['\r'] := by
    rcases h.ending with heq | heq <;> simp [heq]
  cases below <;> simp [tail, hending]

/-- A line ends in nothing or in a newline. -/
theorem IsTame.ending_isInert {line : Line} (h : line.IsTame) : line.ending.IsInert := by
  rcases h.ending with heq | heq
  · rw [heq]
    exact Text.IsInert.nil
  · rw [heq]
    exact Text.IsInert.nil.cons (by decide)

end Line

/-- What is kept of a line as it stands is inert, also if it falls into two pieces. -/
theorem isInert_of_mem_verbatim {t : Text} (h : t.IsInert) : ∀ piece ∈ verbatim t, piece.IsInert := by
  intro piece hpiece
  have hback : Text.IsInert t.reverse := h.subset (List.reverse_subset.mpr (List.Subset.refl t))
  unfold verbatim at hpiece
  split at hpiece
  · rename_i c before heq
    rw [heq] at hback
    split at hpiece
    · -- the carriage return is left out, and what follows it stands apart
      simp only [List.mem_cons, List.not_mem_nil, or_false] at hpiece
      rcases hpiece with rfl | rfl
      · refine hback.subset fun d hd => ?_
        exact List.mem_cons_of_mem _ (List.mem_cons_of_mem _ (List.mem_reverse.mp hd))
      · exact hback.subset (by simp)
    · obtain rfl := List.mem_singleton.mp hpiece
      exact h
  · obtain rfl := List.mem_singleton.mp hpiece
    exact h

/-- Is what is left of the line a piece of a tame document? -/
def Cursor.IsTame (c : Cursor) : Prop := CommonMark.IsTame c.rest

namespace Cursor.IsTame

/-- Without tabs there is nothing to expand. -/
theorem expand_eq {c : Cursor} (h : c.IsTame) : c.expand = c := by
  unfold Cursor.expand
  split
  · rename_i rest hrest
    have htab := Text.tab_notMem_of_isInert h.inert
    rw [hrest] at htab
    exact absurd List.mem_cons_self htab
  · rfl

/-- Skipped blanks leave the end of what is left to read, however tabs are expanded. -/
theorem skip {c : Cursor} (h : c.IsTame) (n : Nat) : (c.skip n).2.IsTame := by
  induction n generalizing c with
  | zero => exact h
  | succ n ih =>
    unfold Cursor.skip
    rw [h.expand_eq]
    split
    · rename_i rest hrest
      have hmore : (⟨rest, c.column + 1⟩ : Cursor).IsTame := by
        have := CommonMark.IsTame.tail (hrest ▸ h : CommonMark.IsTame (' ' :: rest))
        exact this
      exact ih hmore
    · exact h

theorem drop {c : Cursor} (h : c.IsTame) (n : Nat) : (c.drop n).IsTame :=
  CommonMark.IsTame.drop h n

theorem text {c : Cursor} (h : c.IsTame) : CommonMark.IsTame c.text :=
  CommonMark.IsTame.dropWhile h _

/-- What stands behind the marker of an item is an end of the line. -/
theorem itemMarker {c inside : Cursor} {m : ItemMarker} {indent : Nat} (h : c.IsTame)
    (hitem : c.itemMarker? = some (m, indent, inside)) : inside.IsTame := by
  unfold Cursor.itemMarker? at hitem
  dsimp only at hitem
  split at hitem
  · cases hitem
  · split at hitem
    · cases hitem
    · rename_i found _
      have hafter := ((h.skip 4).drop found.length).skip 1
      split at hitem
      · cases hitem
      · -- what stands behind the marker says where the content begins
        split at hitem
        · obtain ⟨-, -, rfl⟩ := hitem
          exact hafter
        · split at hitem
          · obtain ⟨-, -, rfl⟩ := hitem
            exact hafter.skip 4
          · obtain ⟨-, -, rfl⟩ := hitem
            exact hafter

theorem quote {c inside : Cursor} (h : c.IsTame) (hquote : c.quote? = some inside) :
    inside.IsTame := by
  unfold Cursor.quote? at hquote
  dsimp only at hquote
  split at hquote
  · obtain rfl := Option.some.inj hquote
    exact ((h.skip 4).drop 1).skip 1
  · cases hquote

/-- Whichever container goes on, the line goes on in it as an end of itself. -/
theorem inside {c inside : Cursor} (h : c.IsTame) {container : Container}
    (hinside : container.continue? c = some inside) : inside.IsTame := by
  -- a quote takes its sign away, a list takes nothing, an item takes its indentation
  cases container with
  | quote => exact h.quote hinside
  | list =>
    obtain rfl := Option.some.inj hinside
    exact h
  | item indent =>
    unfold Container.continue? at hinside
    dsimp only at hinside
    split at hinside
    · obtain rfl := Option.some.inj hinside
      exact h.skip indent
    · cases hinside

theorem continued {c : Cursor} (h : c.IsTame) (containers : List Container) :
    (Container.continued c containers).2.IsTame := by
  induction containers generalizing c with
  | nil => exact h
  | cons container inner ih =>
    unfold Container.continued
    split
    · exact h
    · rename_i inside hinside
      exact ih (h.inside hinside)

end Cursor.IsTame

/-! ### Blocks -/

/-- Is what the block holds tame where it is read further, and inert where it stands
as it is? -/
inductive Block.IsTame : Block → Prop
  | paragraph {content : Text} (h : CommonMark.IsTame content) : IsTame (.paragraph content)
  | heading {level : Nat} {content : Text} (h : CommonMark.IsTame content) :
    IsTame (.heading level content)
  | code {info content : Text} (h : content.IsInert) : IsTame (.code info content)
  | html {indent : Nat} {lines : List Text} (h : ∀ line ∈ lines, line.IsInert) :
    IsTame (.html indent lines)
  | rule : IsTame .rule
  | quote {blocks : List Block} (h : ∀ block ∈ blocks, block.IsTame) : IsTame (.quote blocks)
  | list {start : Option Nat} {tight : Bool} {items : List Block}
    (h : ∀ block ∈ items, block.IsTame) : IsTame (.list start tight items)
  | item {blocks : List Block} (h : ∀ block ∈ blocks, block.IsTame) : IsTame (.item blocks)

/-- A container that is closed holds the blocks that were collected in it. -/
theorem Container.isTame_close {blocks : List Block} (h : ∀ block ∈ blocks, block.IsTame)
    (container : Container) : (container.close blocks).IsTame := by
  cases container with
  | quote => exact .quote h
  | list => exact .list h
  | item => exact .item h

theorem isTame_headingContent {t : Text} (h : IsTame t) : IsTame (headingContent t) := by
  have hcontent := (h.dropWhile isLineBlank).dropEndWhile (· = ' ')
  unfold headingContent
  dsimp only
  split
  · exact IsTame.nil
  · split
    · exact (hcontent.dropEndWhile _).dropEndWhile _
    · exact hcontent

/-! ### Leaves -/

namespace Leaf

/-- Are the lines of the open leaf tame where they are read further, and inert where
they stand as they are? -/
def IsTame : Leaf → Prop
  | none => True
  | paragraph lines => ∀ line ∈ lines, CommonMark.IsTame line
  | fenced _ _ lines => ∀ line ∈ lines, line.IsInert
  | indented lines blanks => ∀ line ∈ blanks ++ lines, line.IsInert
  | html _ _ lines => ∀ line ∈ lines, line.IsInert

theorem isTame_paragraphText {lines : List Text} (h : ∀ line ∈ lines, CommonMark.IsTame line) :
    CommonMark.IsTame (paragraphText lines) :=
  (CommonMark.IsTame.ofRows fun line hline => h line (List.mem_reverse.mp hline)).dropEndWhile _

/-- Closing a leaf makes a block of the lines that it has collected. -/
theorem IsTame.close {leaf : Leaf} (h : leaf.IsTame) : ∀ block ∈ leaf.close?, block.IsTame := by
  intro block hblock
  -- what was collected in reverse is closed into one block
  cases leaf with
  | none => cases hblock
  | paragraph lines =>
    obtain rfl := Option.some.inj hblock
    exact .paragraph (isTame_paragraphText h)
  | fenced indent fence lines =>
    obtain rfl := Option.some.inj hblock
    exact .code (Text.IsInert.flatten fun line hline => h line (List.mem_reverse.mp hline))
  | indented lines blanks =>
    obtain rfl := Option.some.inj hblock
    refine .code (Text.IsInert.flatten fun line hline => ?_)
    exact h line (List.mem_append_right _ (List.mem_reverse.mp hline))
  | html ending indent lines =>
    obtain rfl := Option.some.inj hblock
    exact .html fun line hline => h line (List.mem_reverse.mp hline)

/-- Is what a line does to a leaf tame? -/
def Outcome.IsTame : Outcome → Prop
  | more leaf _ => leaf.IsTame
  | last leaf _ => leaf.IsTame
  | heading _ content => CommonMark.IsTame content
  | apart => True

/-- A line goes into the leaf that is open, or ends it, and the leaf stays tame. -/
theorem IsTame.line {leaf : Leaf} (h : leaf.IsTame) {c : Cursor} (hc : c.IsTame) {tail : Text}
    (htail : tail.IsInert) (inside : Bool) (further : Nat) (next : Option Text) :
    (leaf.line inside c tail further next).IsTame := by
  have hkept {c : Cursor} (hc : c.IsTame) : Text.IsInert (verbatim (c.rest ++ tail)).flatten :=
    Text.IsInert.flatten (isInert_of_mem_verbatim (hc.inert.append htail))
  -- every leaf takes its lines in its own way, and some end with one
  cases leaf with
  | none => exact trivial
  | paragraph lines =>
    unfold Leaf.line
    dsimp only
    split
    · -- it is underlined, and so a heading
      exact isTame_paragraphText h
    · split
      · exact trivial
      · intro line hline
        rcases List.mem_cons.mp hline with rfl | hline
        · exact (hc.skip 4).text
        · exact h line hline
  | fenced indent fence lines =>
    unfold Leaf.line
    dsimp only
    split
    · exact trivial
    · split
      · -- the closing fence
        exact h
      · intro line hline
        rcases List.mem_cons.mp hline with rfl | hline
        · exact hkept (hc.skip indent)
        · exact h line hline
  | indented lines blanks =>
    unfold Leaf.line
    dsimp only
    split
    · exact trivial
    · -- a blank line waits for more code, and is kept as it stands until then
      split
      · intro line hline
        rcases List.mem_cons.mp hline with rfl | hline
        · exact hkept (hc.skip 4)
        · exact h line hline
      · intro line hline
        rcases List.mem_cons.mp hline with rfl | hline
        · exact hkept (hc.skip 4)
        · exact h line hline
  | html closing indent lines =>
    have hmore : (html closing indent ((verbatim (c.rest ++ tail)).reverse ++ lines)).IsTame := by
      intro line hline
      rcases List.mem_append.mp hline with hline | hline
      · exact isInert_of_mem_verbatim (hc.inert.append htail) line (List.mem_reverse.mp hline)
      · exact h line hline
    unfold Leaf.line
    dsimp only
    split
    · exact trivial
    · split
      · split
        · exact hmore
        · exact hmore
      · exact hmore

end Leaf

/-! ### The outline -/

/-- Is all that the outline holds between two lines tame? -/
structure Outline.IsTame (s : Outline) : Prop where
  levels : ∀ level ∈ s.levels, ∀ block ∈ level.blocks, block.IsTame
  root : ∀ block ∈ s.root, block.IsTame
  leaf : s.leaf.IsTame
  definitions : ∀ definition ∈ s.definitions, definition.destination.IsInert

namespace Outline

theorem isTame_empty : IsTame {} where
  levels := by simp
  root := by simp
  leaf := trivial
  definitions := by simp

namespace IsTame

variable {s : Outline} (h : s.IsTame)
include h

/-- A block goes into the innermost container, or into the document where none is open. -/
theorem add {block : Block} (hblock : block.IsTame) : (s.add block).IsTame := by
  unfold Outline.add
  split
  · -- no container is open
    refine ⟨h.levels, ?_, h.leaf, h.definitions⟩
    intro b hb
    rcases List.mem_cons.mp hb with rfl | hb
    · exact hblock
    · exact h.root b hb
  · rename_i level outer hlevels
    -- the block goes to the front of the innermost container
    have hold := h.levels
    rw [hlevels] at hold
    refine ⟨?_, h.root, h.leaf, h.definitions⟩
    intro l hl b hb
    rcases List.mem_cons.mp hl with rfl | hl
    · rcases List.mem_cons.mp hb with rfl | hb
      · exact hblock
      · exact hold level List.mem_cons_self b hb
    · exact hold l (List.mem_cons_of_mem _ hl) b hb

theorem withLeaf (leaf : Leaf) (hleaf : leaf.IsTame) : { s with leaf }.IsTame :=
  ⟨h.levels, h.root, hleaf, h.definitions⟩

/-- What is remembered besides does not matter. -/
theorem withMemory (lastBlank bareItem : Bool) (skip : Nat) :
    { s with lastBlank, bareItem, skip }.IsTame := ⟨h.levels, h.root, h.leaf, h.definitions⟩

theorem closeLeaf : s.closeLeaf.IsTame := by
  unfold Outline.closeLeaf
  split
  · exact h
  · rename_i block hblock
    exact (h.add (h.leaf.close block hblock)).withLeaf .none trivial

theorem enter (container : Container) : (s.enter container).IsTame := by
  refine ⟨?_, h.root, h.leaf, h.definitions⟩
  intro l hl b hb
  rcases List.mem_cons.mp hl with rfl | hl
  · simp at hb
  · exact h.levels l hl b hb

/-- Leaving a container makes a block of it, which goes to the one around it. -/
theorem leave : s.leave.IsTame := by
  unfold Outline.leave
  split
  · exact h
  · rename_i level outer hlevels
    have hold := h.levels
    rw [hlevels] at hold
    have houter : { s with levels := outer }.IsTame :=
      ⟨fun l hl => hold l (List.mem_cons_of_mem _ hl), h.root, h.leaf, h.definitions⟩
    have hblocks : ∀ block ∈ level.blocks.reverse, block.IsTame := fun b hb =>
      hold level List.mem_cons_self b (List.mem_reverse.mp hb)
    -- the blocks of the level were collected from last to first
    have hclosed := houter.add (Container.isTame_close hblocks level.container)
    dsimp only
    split
    · exact hclosed.withMemory _ _ _
    · exact hclosed

theorem leaveMany (n : Nat) : (s.leaveMany n).IsTame := by
  induction n generalizing s with
  | zero => exact h
  | succ n ih => exact ih h.leave

/-- What kinds of containers are open does not matter. -/
theorem withLevels {levels : List Level}
    (hlevels : ∀ level ∈ levels, ∀ block ∈ level.blocks, block.IsTame) :
    { s with levels }.IsTame := ⟨hlevels, h.root, h.leaf, h.definitions⟩

/-- A list that becomes loose changes nothing but a flag. -/
theorem loosenOuter : s.loosenOuter.IsTame := by
  unfold Outline.loosenOuter
  split
  · rename_i inner mark start tight blocks outer hlevels
    have hold := h.levels
    rw [hlevels] at hold
    refine h.withLevels ?_
    -- the two innermost levels keep their blocks, and so do those around them
    intro l hl b hb
    rcases List.mem_cons.mp hl with rfl | hl
    · exact hold l List.mem_cons_self b hb
    · rcases List.mem_cons.mp hl with rfl | hl
      · exact hold _ (List.mem_cons_of_mem _ List.mem_cons_self) b hb
      · exact hold l (List.mem_cons_of_mem _ (List.mem_cons_of_mem _ hl)) b hb
  · exact h

theorem endList : s.endList.IsTame := by
  have hloosened {s : Outline} (h : s.IsTame) :
      (if s.lastBlank then { s.loosenOuter with lastBlank := false } else s).IsTame := by
    split
    · exact h.loosenOuter.withMemory _ _ _
    · exact h
  unfold Outline.endList
  dsimp only
  split
  · exact hloosened h.leave
  · exact hloosened h

/-- An item goes on in the list that is open, or begins another one. -/
theorem continueList (m : ItemMarker) : (s.continueList m).IsTame := by
  have hfresh {s : Outline} (h : s.IsTame) :
      { s.enter (.list m.mark m.number true) with lastBlank := false }.IsTame :=
    (h.enter _).withMemory _ _ _
  unfold Outline.continueList
  dsimp only
  split
  · rename_i mark start tight blocks outer hlevels
    have hold := h.levels
    rw [hlevels] at hold
    split
    · -- the marker is that of the list: the list may only become loose
      split
      · refine (h.withLevels ?_).withMemory _ _ _
        intro l hl b hb
        rcases List.mem_cons.mp hl with rfl | hl
        · exact hold _ List.mem_cons_self b hb
        · exact hold l (List.mem_cons_of_mem _ hl) b hb
      · exact h
    · exact hfresh h.endList
  · exact hfresh h.endList
  · exact hfresh h

theorem blankLine : s.blankLine.IsTame := by
  unfold Outline.blankLine
  split
  · exact h
  · exact h
  · dsimp only
    split
    · exact (h.leave.withMemory _ _ _).withMemory _ _ _
    · exact h.withMemory _ _ _
  · exact h.withMemory _ _ _

end IsTame

/-- The lines that a paragraph could go on with are lines of the document, without the signs of the
containers around it. -/
theorem isTame_paragraphLines (containers : List Container) {below : List Line}
    (hbelow : ∀ line ∈ below, line.IsTame) :
    ∀ t ∈ paragraphLines containers below, CommonMark.IsTame t := by
  induction below with
  | nil => simp [paragraphLines]
  | cons line below ih =>
    intro t ht
    unfold paragraphLines at ht
    dsimp only at ht
    split at ht
    · simp at ht
    · rcases List.mem_cons.mp ht with rfl | ht
      · have hline : (⟨line.text, 0⟩ : Cursor).IsTame := (hbelow line List.mem_cons_self).text
        exact ((hline.continued containers).skip 4).text
      · exact ih (fun l hl => hbelow l (List.mem_cons_of_mem _ hl)) t ht

namespace IsTame

variable {s : Outline} (h : s.IsTame) {line : Line} (hline : line.IsTame) {below : List Line}
include h hline

/-- The piece of the document on which a block begins, with what ends its line. -/
theorem startLeaf (hbelow : ∀ line ∈ below, line.IsTame) (indent : Nat) {c : Cursor}
    (hc : c.IsTame) : (s.startLeaf indent c line below).IsTame := by
  have hhtml (ending : Option Text) (skip : Nat) :
      { s with leaf := .html ending indent (verbatim (c.rest ++ line.ending)).reverse, skip }.IsTame := by
    refine (h.withLeaf (.html ending indent (verbatim (c.rest ++ line.ending)).reverse) ?_).withMemory
      _ _ _
    intro t ht
    exact isInert_of_mem_verbatim (hc.inert.append hline.ending_isInert) t (List.mem_reverse.mp ht)
  unfold Outline.startLeaf
  rw [hline.tail_eq]
  dsimp only
  split
  · -- HTML, perhaps of this line only
    split
    · split
      · exact (hhtml _ _).closeLeaf
      · exact hhtml _ _
    · exact hhtml _ _
  · split
    · exact h.add .rule
    · split
      · exact h.add (.heading (isTame_headingContent (hc.drop _)))
      · split
        · -- the code behind a fence begins on the next line
          rename_i fence _
          refine (h.withLeaf (.fenced indent fence []) ?_).withMemory _ _ _
          exact fun t ht => absurd ht List.not_mem_nil
        · -- a definition may need lines that were not read yet
          have hcontent : CommonMark.IsTame
              (Text.ofRows (c.rest :: paragraphLines s.containers below)) := by
            refine CommonMark.IsTame.ofRows fun row hrow => ?_
            rcases List.mem_cons.mp hrow with rfl | hrow
            · exact hc
            · exact isTame_paragraphLines _ hbelow row hrow
          split
          · rename_i definition n hdefinition
            refine ⟨h.levels, h.root, h.leaf, ?_⟩
            intro d hd
            rcases List.mem_append.mp hd with hd | hd
            · exact h.definitions d hd
            · obtain rfl := List.mem_singleton.mp hd
              exact Link.isInert_definition hcontent hdefinition
          · refine h.withLeaf (.paragraph [c.rest]) ?_
            exact fun t ht => (List.mem_singleton.mp ht) ▸ hc

/-- However many containers begin on a line, what is left of it begins a leaf. -/
theorem startBlocks (hbelow : ∀ line ∈ below, line.IsTame) (fuel : Nat) {c : Cursor}
    (hc : c.IsTame) : (Outline.startBlocks line below fuel s c).IsTame := by
  -- the fuel is for the containers that begin on the line, one inside the other
  induction fuel generalizing s c with
  | zero => exact h
  | succ fuel ih =>
    unfold Outline.startBlocks
    split
    · rename_i m indent inside hitem
      have hopened := (h.continueList m).enter (.item indent)
      dsimp only
      split
      · exact hopened.withMemory _ _ _
      · exact ih hopened (hc.itemMarker hitem)
    · split
      · rename_i inside hquote
        exact ih (h.endList.enter .quote) (hc.quote hquote)
      · split
        · exact h.blankLine
        · have hended := h.endList.withMemory s.endList.lastBlank false s.endList.skip
          dsimp only
          split
          · exact hended.startLeaf hline hbelow _ (hc.skip 4)
          · -- four columns in: indented code
            rw [hline.tail_eq]
            refine (hended.withLeaf (.indented _ []) ?_).withMemory _ _ _
            intro t ht
            obtain rfl := List.mem_singleton.mp ht
            exact Text.IsInert.flatten
              (isInert_of_mem_verbatim ((hc.skip 4).inert.append hline.ending_isInert))

/-- One line keeps the outline tame. -/
theorem read (hbelow : ∀ line ∈ below, line.IsTame) : (s.read line below).IsTame := by
  unfold Outline.read
  split
  · exact h.withMemory _ _ _
  · have hcursor : (⟨line.text, 0⟩ : Cursor).IsTame := hline.text
    have hinside := hcursor.continued s.containers
    rw [hline.tail_eq]
    dsimp only
    have hleaf := h.leaf.line hinside hline.ending_isInert
      (decide ((Container.continued ⟨line.text, 0⟩ s.containers).1 = s.levels.length)) 0
      (below.head?.map (·.text))
    -- the open leaf may take the line, end with it, become a heading, or be left
    split <;> rename_i heq <;> rw [heq] at hleaf
    · exact (h.withLeaf _ hleaf).withMemory _ _ _
    · exact ((h.withLeaf _ hleaf).withMemory _ _ _).closeLeaf
    · exact (h.withLeaf .none trivial).add (.heading hleaf)
    · exact (h.closeLeaf.leaveMany _).startBlocks hline hbelow _ hinside

end IsTame

/-- The run: line by line, the outline stays tame. -/
theorem IsTame.readAll {s : Outline} (h : s.IsTame) {lines : List Line}
    (hlines : ∀ line ∈ lines, line.IsTame) : (Outline.readAll lines s).IsTame := by
  induction lines generalizing s with
  | nil => exact h
  | cons line below ih =>
    have hbelow : ∀ l ∈ below, l.IsTame := fun l hl => hlines l (List.mem_cons_of_mem _ hl)
    exact ih (h.read (hlines line List.mem_cons_self) hbelow) hbelow

end Outline

/-- **The blocks of a tame document are tame**, and the destinations that it defines
are inert. -/
theorem Block.isTame_ofText {t : Text} (h : CommonMark.IsTame t) :
    (∀ block ∈ (Block.ofText t).1, block.IsTame) ∧
      ∀ definition ∈ (Block.ofText t).2, definition.destination.IsInert := by
  have hread := Outline.isTame_empty.readAll (Line.isTame_of_mem_ofText h)
  have hend := hread.closeLeaf.leaveMany (Outline.readAll (Line.ofText t) {}).closeLeaf.levels.length
  exact ⟨fun block hblock => hend.root block (List.mem_reverse.mp hblock), hend.definitions⟩

end AgentConsole.CommonMark
