import AgentConsole.CommonMark.Document
import AgentConsole.Proofs.CommonMark.Fence
import AgentConsole.Proofs.Text.Inert
import Mathlib.Data.List.Induction

/-!
# A document that is one block of code

A document whose first line opens a fence, and in which no later line but the last one closes it,
has a single block: the code between the fences.  It holds the lines as they stand, up to a newline
each, and the words after the fence (`Block.ofText_fenced`, `Block.ofText_fenced_closed`).

The lines are without controls, so a newline is all that ends one, and no tab is left to be counted.
Between two of them the document is an open fence and the code so far (`Outline.inFence`); a line
comes to that code, or closes the fence if the rule of `Fence.after` says so (`read_inFence`).
-/

namespace AgentConsole.CommonMark

/-! ### Lines without controls -/

namespace Line

/-- A line as it stands in the document. -/
def source (line : Line) : Text := line.text ++ line.ending

/-- Does the line hold no controls, and does a newline end it, if anything does? -/
structure IsPlain (line : Line) : Prop where
  text : Text.IsPlain line.text
  ending : line.ending = [] ∨ line.ending = ['\n']

/-- Within a line, a character goes to the front of the first line of the rest. -/
theorem ofText_cons {c : Char} (hline : c ≠ '\n') (hreturn : c ≠ '\r') (t : Text) :
    ofText (c :: t) = match ofText t with
      | [] => [⟨[c], []⟩]
      | line :: below => ⟨c :: line.text, line.ending⟩ :: below := by
  rw [ofText.eq_def]
  exact (if_neg hline).trans (if_neg hreturn)

/-- Nothing is lost between the lines of a document. -/
theorem flatMap_source {t : Text} (h : '\r' ∉ t) : (ofText t).flatMap source = t := by
  induction t with
  | nil => rfl
  | cons c rest ih =>
    obtain ⟨hreturn, hrest⟩ := not_or.mp fun hmem => h (List.mem_cons.mpr hmem)
    have hlines := ih hrest
    -- a newline ends an empty line, and any other character is put in front of what follows
    by_cases hline : c = '\n'
    · subst hline
      rw [ofText.eq_def]
      simp only [if_true, List.flatMap_cons, hlines]
      rfl
    · rw [ofText_cons hline (Ne.symm hreturn)]
      rcases heq : ofText rest with - | ⟨first, below⟩
      · rw [heq] at hlines
        subst hlines
        rfl
      · rw [heq] at hlines
        subst hlines
        rfl

variable {t row : Text} {rows : List Text}

/-- A newline ends a line. -/
theorem ofText_newline (h : Text.IsPlain row) (t : Text) :
    ofText (row ++ '\n' :: t) = ⟨row, ['\n']⟩ :: ofText t := by
  induction row with
  | nil =>
    show ofText ('\n' :: t) = _
    rw [ofText.eq_def]
    simp only [if_true]
  | cons c row ih =>
    have hc := h c List.mem_cons_self
    have hline : c ≠ '\n' := by rintro rfl; cases hc
    have hreturn : c ≠ '\r' := by rintro rfl; cases hc
    rw [List.cons_append, ofText_cons hline hreturn, ih fun d hd => h d (List.mem_cons_of_mem _ hd)]

/-- The last line of a document ends with it. -/
theorem ofText_last (h : Text.IsPlain row) (hne : row ≠ []) : ofText row = [⟨row, []⟩] := by
  induction row with
  | nil => exact absurd rfl hne
  | cons c row ih =>
    have hc := h c List.mem_cons_self
    have hline : c ≠ '\n' := by rintro rfl; cases hc
    have hreturn : c ≠ '\r' := by rintro rfl; cases hc
    have hrow : Text.IsPlain row := fun d hd => h d (List.mem_cons_of_mem _ hd)
    rw [ofText_cons hline hreturn]
    by_cases hnil : row = []
    · subst hnil
      rfl
    · rw [ih hrow hnil]

/-- All rows but the last one are lines that a newline ends. -/
theorem ofText_ofRows (h : ∀ row ∈ rows, Text.IsPlain row) (last : Text) :
    ofText (Text.ofRows (rows ++ [last])) = rows.map (⟨·, ['\n']⟩) ++ ofText last := by
  induction rows with
  | nil => rfl
  | cons row below ih =>
    have hbelow : below ++ [last] ≠ [] := by simp
    rw [List.cons_append, Text.ofRows_cons row hbelow, ofText_newline (h row List.mem_cons_self),
      ih fun r hr => h r (List.mem_cons_of_mem _ hr)]
    rfl

/-- A document of such rows has no other lines. -/
theorem mem_of_mem_ofText (h : ∀ row ∈ rows, Text.IsPlain row) {line : Line}
    (hline : line ∈ ofText (Text.ofRows rows)) :
    line.text ∈ rows ∧ (line.ending = [] ∨ line.ending = ['\n']) := by
  induction rows using List.reverseRecOn with
  | nil => cases hline
  | append_singleton rows last =>
    rw [ofText_ofRows fun row hrow => h row (List.mem_append_left _ hrow)] at hline
    -- all rows but the last are ended by a newline
    rcases List.mem_append.mp hline with hmem | hmem
    · obtain ⟨row, hrow, rfl⟩ := List.mem_map.mp hmem
      exact ⟨List.mem_append_left _ hrow, .inr rfl⟩
    · have hlast : last ∈ rows ++ [last] := by simp
      by_cases hne : last = []
      · subst hne
        cases hmem
      · rw [ofText_last (h last hlast) hne, List.mem_singleton] at hmem
        subst hmem
        exact ⟨hlast, .inl rfl⟩

/-- Behind a plain line stands its own end and nothing that was expanded. -/
theorem tail_eq {line : Line} (h : line.IsPlain) (below : List Line) :
    line.tail below = (line.ending, 0) := by
  have hending : line.ending ≠ ['\r'] := by
    rcases h.ending with heq | heq <;> simp [heq]
  cases below <;> simp [tail, hending]

/-- Nothing is left out of the line. -/
theorem verbatim_source {line : Line} (h : line.IsPlain) :
    verbatim line.source = [line.source] := by
  have hreturn : '\r' ∉ line.source := by
    intro hmem
    rcases List.mem_append.mp hmem with hmem | hmem
    · exact h.text.notMem (by decide) hmem
    · rcases h.ending with heq | heq <;> simp [heq] at hmem
  -- only a carriage return at the end would be set apart
  unfold verbatim
  split
  · rename_i c before heq
    refine absurd ?_ hreturn
    rw [← List.mem_reverse, heq]
    exact List.mem_cons_of_mem _ List.mem_cons_self
  · rfl

end Line

/-! ### Inside the fence -/

namespace Fence

/-- On a line without tabs only spaces can follow the run that closes a fence. -/
theorem closedBy_eq {t : Text} (h : '\t' ∉ t) (f : Fence) : f.closedBy t = f.endedBy t := by
  have hall : ((t.drop (runLength f.mark t)).all fun c => c = ' ')
      = (t.drop (runLength f.mark t)).all fun c => c = ' ' || c = '\t' := by
    rw [Bool.eq_iff_iff, List.all_eq_true, List.all_eq_true]
    refine forall₂_congr fun c hc => ?_
    have htab : c ≠ '\t' := fun heq => h (heq ▸ List.mem_of_mem_drop hc)
    simp [htab]
  unfold closedBy endedBy
  dsimp only
  rw [hall]

end Fence

namespace Outline

/-- A document inside a fence at its very start, after some lines of code, the newest first. -/
def inFence (f : Fence) (code : List Text) : Outline := { leaf := .fenced 0 f code }

variable {f : Fence} {code : List Text} {line : Line} {lines : List Line}

/-- What a line does inside the fence: it closes the fence by the rule, or is code. -/
theorem line_inFence (f : Fence) (code : List Text) (h : line.IsPlain) (below : List Line)
    (next : Option Text) :
    Leaf.line true ⟨line.text, 0⟩ (line.tail below).1 (line.tail below).2 next (.fenced 0 f code)
      = if Fence.after (some f) line.text = none then .last (.fenced 0 f code) 0
        else .more (.fenced 0 f (line.source :: code)) 0 := by
  rw [Line.tail_eq h]
  have hverbatim : (verbatim (line.text ++ line.ending)).flatten = line.source := by
    have hone := Line.verbatim_source h
    unfold Line.source at hone
    rw [hone]
    exact List.append_nil _
  have hline : Leaf.line true ⟨line.text, 0⟩ line.ending 0 next (.fenced 0 f code)
      = if (Cursor.skip 4 ⟨line.text, 0⟩).1 < 4
            && f.closedBy (Cursor.skip 4 ⟨line.text, 0⟩).2.rest then
          .last (.fenced 0 f code) 0
        else .more (.fenced 0 f ((verbatim (line.text ++ line.ending)).flatten :: code)) 0 := rfl
  -- up to three columns are passed over before the marks are looked for
  rw [hline, hverbatim]
  rcases Cursor.skip_cases line.text (Nat.le_refl 4) with hall | ⟨k, hk, rest, heq, hrest⟩
  · -- four columns of indentation: the line is code
    have hall : (Cursor.skip 4 ⟨line.text, 0⟩).1 = 4 := hall
    have hafter : Fence.after (some f) line.text = some f := by
      unfold Fence.after
      dsimp only
      rw [hall]
      exact if_neg fun hboth => Nat.lt_irrefl 4 hboth.1
    rw [hall, hafter]
    rfl
  · have htab : '\t' ∉ rest := by
      intro hmem
      refine h.text.notMem (c := '\t') (by decide) ?_
      rw [heq]
      exact List.mem_append_right _ hmem
    rw [heq, Fence.after_some_spaces hk hrest, Cursor.skip_spaces hrest hk]
    dsimp only
    rw [Fence.closedBy_eq htab]
    simp [hk]

/-- A line that does not close the fence comes to the code. -/
theorem read_inFence (h : line.IsPlain) (hopen : Fence.after (some f) line.text ≠ none)
    (below : List Line) : (inFence f code).read line below = inFence f (line.source :: code) := by
  have hline := line_inFence f code h below
  simp only [if_neg hopen] at hline
  unfold read inFence
  simp [containers, Container.continued, hline]

/-- A line that closes the fence ends the block. -/
theorem read_inFence_of_closes (h : line.IsPlain) (hcloses : Fence.after (some f) line.text = none)
    (below : List Line) :
    (inFence f code).read line below = { root := [.code f.info code.reverse.flatten] } := by
  have hline := line_inFence f code h below
  simp only [if_pos hcloses] at hline
  unfold read inFence
  simp [containers, Container.continued, hline, closeLeaf, Leaf.close?, add]

/-- Lines of code, one after the other. -/
theorem readAll_inFence (code : List Text)
    (h : ∀ line ∈ lines, line.IsPlain ∧ Fence.after (some f) line.text ≠ none) (below : List Line) :
    readAll (lines ++ below) (inFence f code)
      = readAll below (inFence f ((lines.map Line.source).reverse ++ code)) := by
  induction lines generalizing code with
  | nil => rfl
  | cons line rest ih =>
    obtain ⟨hplain, hopen⟩ := h line List.mem_cons_self
    have hrest := ih (line.source :: code) fun l hl => h l (List.mem_cons_of_mem _ hl)
    rw [List.cons_append, readAll, read_inFence hplain hopen, hrest, List.map_cons,
      List.reverse_cons, List.append_assoc]
    rfl

end Outline

/-! ### The opening fence -/

namespace Fence

/-- The fence that a run of marks opens, with these words behind it. -/
def opened (mark : Char) (length : Nat) (info : Text) : Fence :=
  ⟨mark, length, Text.dropEndWhile Html.isSpace (info.dropWhile isLineBlank)⟩

/-- Does a run of marks open a fence, with these words behind it?  They hold no controls. -/
structure IsOpener (mark : Char) (length : Nat) (info : Text) : Prop
    extends IsRun mark length info where
  words : mark = backtick → backtick ∉ info
  plain : Text.IsPlain info

variable {mark : Char} {length : Nat} {info : Text}

theorem IsOpener.plain_line (h : IsOpener mark length info) :
    Text.IsPlain (List.replicate length mark ++ info) := by
  intro c hc
  rcases List.mem_append.mp hc with hc | hc
  · rw [List.eq_of_mem_replicate hc]
    rcases h.isMark with hmark | hmark <;> rw [hmark] <;> rfl
  · exact h.plain c hc

/-- A newline is no word. -/
theorem opened_newline (mark : Char) (length : Nat) (info : Text) :
    opened mark length (info ++ ['\n']) = opened mark length info := by
  have hend (t : Text) :
      Text.dropEndWhile Html.isSpace (t ++ ['\n']) = Text.dropEndWhile Html.isSpace t := by
    unfold Text.dropEndWhile
    rw [List.reverse_append]
    rfl
  -- a newline behind the info is blank, as all that is cut away there
  unfold opened
  rw [List.dropWhile_append]
  split
  · rename_i hempty
    rw [List.isEmpty_iff.mp hempty]
    rfl
  · rw [hend]

/-- The line that opens a fence is read as such, whether or not a newline ends it. -/
theorem IsOpener.read? (h : IsOpener mark length info) {ending : Text}
    (hending : ending = [] ∨ ending = ['\n']) :
    Fence.read? (List.replicate length mark ++ info ++ ending)
      = some (opened mark length info) := by
  have hnewline : ∀ c ∈ ending, c = '\n' := by
    rcases hending with rfl | rfl <;> simp
  have hends : (info ++ ending).head? ≠ some mark := by
    rcases info with - | ⟨c, rest⟩
    · intro hhead
      have hmark := hnewline mark (List.mem_of_mem_head? hhead)
      rcases h.isMark with heq | heq <;> exact absurd (heq.symm.trans hmark) (by decide)
    · exact h.ends
  -- the newline at the end brings in no backtick
  have hgood : ¬(mark = backtick ∧ backtick ∈ info ++ ending) := by
    rintro ⟨hmark, hmem⟩
    rcases List.mem_append.mp hmem with hmem | hmem
    · exact h.words hmark hmem
    · exact absurd (hnewline _ hmem) (by decide)
  have hrun : IsRun mark length (info ++ ending) := ⟨h.isMark, h.long, hends⟩
  rw [List.append_assoc, hrun.read?, if_neg hgood]
  rcases hending with rfl | rfl
  · rw [List.append_nil]
    rfl
  · exact congrArg some (opened_newline mark length info)

end Fence

/-- Does no other block begin with the text? -/
structure StartsFence (t : Text) : Prop where
  isRule : isRule t = false
  headingLevel : headingLevel? t = none
  item : ItemMarker.read? t = none
  quote : t.head? ≠ some '>'
  html : t.head? ≠ some '<'
  blank : isBlankLine t = false

/-- What begins with such a run is nothing else that a line could begin. -/
theorem Fence.IsRun.startsFence {mark : Char} {length : Nat} {info : Text}
    (h : Fence.IsRun mark length info) : StartsFence (List.replicate length mark ++ info) := by
  obtain ⟨n, rfl⟩ := Nat.exists_eq_add_of_le' h.long
  rw [List.replicate_succ]
  rcases h.isMark with rfl | rfl <;> exact ⟨rfl, rfl, rfl, nofun, nofun, rfl⟩

/-- The first line of the document opens its fence. -/
theorem Outline.read_opener {mark : Char} {length : Nat} {info ending : Text}
    (h : Fence.IsOpener mark length info) (hending : ending = [] ∨ ending = ['\n'])
    (below : List Line) :
    Outline.read {} ⟨List.replicate length mark ++ info, ending⟩ below
      = inFence (Fence.opened mark length info) [] := by
  have hplain : Line.IsPlain ⟨List.replicate length mark ++ info, ending⟩ := ⟨h.plain_line, hending⟩
  have hstarts := h.toIsRun.startsFence
  have hindent := h.toIsRun.not_isIndented
  have hread := h.read? hending
  generalize List.replicate length mark ++ info = t at hplain hstarts hindent hread ⊢
  have hskip (n : Nat) : Cursor.skip n ⟨t, 0⟩ = (0, ⟨t, 0⟩) :=
    Cursor.skip_of_not_isIndented n hindent 0
  -- the line begins no item and no quote, and of all leaves it begins the fence
  have hitem : Cursor.itemMarker? ⟨t, 0⟩ = none := by
    simp [Cursor.itemMarker?, hskip, hstarts.isRule, hstarts.item]
  have hquote : Cursor.quote? ⟨t, 0⟩ = none := by
    simp [Cursor.quote?, hskip, hstarts.quote]
  have hleaf : startLeaf {} 0 ⟨t, 0⟩ ⟨t, ending⟩ below
      = inFence (Fence.opened mark length info) [] := by
    unfold startLeaf
    rw [Line.tail_eq hplain]
    simp only [hstarts.isRule, hstarts.headingLevel, hread, Bool.false_eq_true, if_false]
    split
    · -- no HTML begins here
      rename_i hhtml
      split at hhtml
      · exact absurd rfl hstarts.html
      · cases hhtml
    · rfl
  have hblocks : Outline.read {} ⟨t, ending⟩ below
      = startBlocks ⟨t, ending⟩ below (t.length + 1) {} ⟨t, 0⟩ := rfl
  rw [hblocks, startBlocks]
  simp only [hitem, hquote, hstarts.blank, hskip]
  exact hleaf

/-! ### The whole document -/

/-- The lines of a document, the first of which is `opener`. -/
theorem Line.ofText_opener {opener : Text} (h : Text.IsPlain opener) (hne : opener ≠ [])
    (rows : List Text) :
    ∃ ending, (ending = [] ∨ ending = ['\n']) ∧
      ofText (Text.ofRows (opener :: rows)) = ⟨opener, ending⟩ :: ofText (Text.ofRows rows) := by
  by_cases hrows : rows = []
  · subst hrows
    exact ⟨[], .inl rfl, ofText_last h hne⟩
  · refine ⟨['\n'], .inr rfl, ?_⟩
    rw [Text.ofRows_cons opener hrows, ofText_newline h]

/-- Can the line stand in a block of code?  It holds no controls, and does not close the fence. -/
structure IsCode (f : Fence) (row : Text) : Prop where
  plain : Text.IsPlain row
  stays : Fence.after (some f) row ≠ none

variable {f : Fence} {body : List Text}

/-- The lines of some code are read as code. -/
theorem isCode_of_mem_ofText (h : ∀ row ∈ body, IsCode f row) {line : Line}
    (hline : line ∈ Line.ofText (Text.ofRows body)) :
    line.IsPlain ∧ Fence.after (some f) line.text ≠ none := by
  obtain ⟨hmem, hending⟩ := Line.mem_of_mem_ofText (fun row hrow => (h row hrow).plain) hline
  exact ⟨⟨(h _ hmem).plain, hending⟩, (h _ hmem).stays⟩

/-- What a fence that stays open makes of the lines of some code. -/
theorem Outline.closeLeaf_readAll (h : ∀ row ∈ body, IsCode f row) :
    (readAll (Line.ofText (Text.ofRows body)) (inFence f [])).closeLeaf
      = { root := [.code f.info (Text.ofRows body)] } := by
  have hread := readAll_inFence [] (fun line hline => isCode_of_mem_ofText h hline) []
  have hreturn : '\r' ∉ Text.ofRows body := by
    intro hmem
    obtain hline | ⟨row, hrow, hmem⟩ := Text.mem_ofRows hmem
    · cases hline
    · exact (h row hrow).plain.notMem (by decide) hmem
  rw [List.append_nil, List.append_nil] at hread
  rw [hread]
  show Outline.mk [] [.code f.info _] .none false false 0 [] = _
  rw [List.reverse_reverse, ← List.flatMap_def, Line.flatMap_source hreturn]

/-- What a fence makes of the lines of some code and of the line that closes it. -/
theorem Outline.readAll_closed (h : ∀ row ∈ body, IsCode f row) {closer : Text}
    (hplain : Text.IsPlain closer) (hne : closer ≠ [])
    (hcloses : Fence.after (some f) closer = none) :
    readAll (Line.ofText (Text.ofRows (body ++ [closer]))) (inFence f [])
      = { root := [.code f.info (body.flatMap (· ++ ['\n']))] } := by
  have hlines : ∀ line ∈ body.map fun row => Line.mk row ['\n'],
      line.IsPlain ∧ Fence.after (some f) line.text ≠ none := by
    intro line hline
    obtain ⟨row, hrow, rfl⟩ := List.mem_map.mp hline
    exact ⟨⟨(h row hrow).plain, .inr rfl⟩, (h row hrow).stays⟩
  have hlast : Line.IsPlain ⟨closer, []⟩ := ⟨hplain, .inl rfl⟩
  -- all rows but the closer are lines of code, and then the fence ends
  rw [Line.ofText_ofRows fun row hrow => (h row hrow).plain, Line.ofText_last hplain hne,
    readAll_inFence [] hlines, readAll, read_inFence_of_closes hlast hcloses, List.append_nil,
    List.reverse_reverse, List.map_map, ← List.flatMap_def]
  rfl

section

variable {mark : Char} {length : Nat} {info : Text} (h : Fence.IsOpener mark length info)
include h

/-- The lines of the document: its fence is open after the first of them. -/
theorem readAll_ofRows (rows : List Text) :
    Outline.readAll (Line.ofText (Text.ofRows ((List.replicate length mark ++ info) :: rows))) {}
      = Outline.readAll (Line.ofText (Text.ofRows rows))
          (Outline.inFence (Fence.opened mark length info) []) := by
  have hne : List.replicate length mark ++ info ≠ [] := by
    obtain ⟨n, rfl⟩ := Nat.exists_eq_add_of_le' h.long
    simp [List.replicate_succ]
  obtain ⟨ending, hending, hlines⟩ := Line.ofText_opener h.plain_line hne rows
  rw [hlines, Outline.readAll, Outline.read_opener h hending]

/-- An empty line closes no fence. -/
theorem ne_nil_of_closes {closer : Text}
    (hcloses : Fence.after (some (Fence.opened mark length info)) closer = none) : closer ≠ [] := by
  rintro rfl
  have hshort : (Fence.opened mark length info).endedBy [] = false := by
    have hlong : ¬length ≤ 0 := Nat.not_le.mpr (Nat.lt_of_lt_of_le (by decide) h.long)
    exact congrArg (· && true) (decide_eq_false hlong)
  unfold Fence.after at hcloses
  simp [Cursor.skip, Cursor.expand, hshort] at hcloses

variable (hbody : ∀ row ∈ body, IsCode (Fence.opened mark length info) row)
include hbody

/-- **A fence that is never closed**: all of the document is code. -/
theorem Block.ofText_fenced :
    Block.ofText (Text.ofRows ((List.replicate length mark ++ info) :: body))
      = ([.code (Fence.opened mark length info).info (Text.ofRows body)], []) := by
  unfold Block.ofText
  rw [readAll_ofRows h, Outline.closeLeaf_readAll hbody]
  rfl

/-- **A fence that the last line closes**: each line between the two is code, up to a newline. -/
theorem Block.ofText_fenced_closed {closer : Text} (hplain : Text.IsPlain closer)
    (hcloses : Fence.after (some (Fence.opened mark length info)) closer = none) :
    Block.ofText (Text.ofRows ((List.replicate length mark ++ info) :: (body ++ [closer])))
      = ([.code (Fence.opened mark length info).info (body.flatMap (· ++ ['\n']))], []) := by
  unfold Block.ofText
  rw [readAll_ofRows h, Outline.readAll_closed hbody hplain (ne_nil_of_closes h hcloses) hcloses]
  rfl

end

end AgentConsole.CommonMark
