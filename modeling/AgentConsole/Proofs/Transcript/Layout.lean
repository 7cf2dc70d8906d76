import AgentConsole.Proofs.Transcript.Code

/-!
# What a segment does to a page

There are sixteen kinds of segments, but only six things that are done to a page (`Page.Act`).  A
segment does some of them, one after the other (`Page.step_eq_foldl_act`), and which ones depends on
nothing but the segment and its place in quotes and lists.  So whatever a page keeps under these six
it keeps under every document.

Most rows come out where the open line ends.  Under any theme they show the rows of its plain text
behind a plain margin (`Page.map_strip_openRows`), whose columns are those of its place.
-/

namespace AgentConsole.Transcript

open Styled

/-! ### Places -/

/-- Where a line stands: in how many quotes and lists, and how far the rows of its item are
indented. -/
structure Place where
  quotes : Nat := 0
  lists : Nat := 0
  indent : Nat := 0

/-- The marker of an item. -/
def itemMarker (ordered : Bool) (number : Nat) : Text :=
  if ordered then Text.ofNat number ++ ['.', ' '] else ['•', ' ']

/-- Markers are made of digits and signs. -/
theorem clean_itemMarker (ordered : Bool) (number : Nat) : Clean (itemMarker ordered number) := by
  unfold itemMarker
  split
  · exact (Clean.ofNat number).append (by decide)
  · decide

namespace Place

/-- The columns before a row: two for each quote, two for each list inside of another one, and the
indentation of the item. -/
def columns (a : Place) : Nat := 2 * a.quotes + 2 * (a.lists - 1) + a.indent

/-- The place behind a segment. -/
def after (a : Place) : Segment → Place
  | .itemStart ordered number depth =>
    { a with lists := depth, indent := Styled.width (itemMarker ordered number) }
  | .listEnd => { a with lists := a.lists - 1, indent := if a.lists - 1 = 0 then 0 else 2 }
  | .quoteStart => { a with quotes := a.quotes + 1 }
  | .quoteEnd => { a with quotes := a.quotes - 1 }
  | _ => a

/-! ### Rows without their colours -/

/-- The bars of the quotes, and the indentation of the lists. -/
def margin (a : Place) : Text :=
  Text.times a.quotes ['│', ' '] ++ Text.spaces (2 * (a.lists - 1))

/-- What stands before the later rows of a line. -/
def continuation (a : Place) : Text := a.margin ++ Text.spaces a.indent

/-- What stands before the first row of a line. -/
def lead (a : Place) : Option Text → Text
  | some marker => a.margin ++ marker
  | none => a.continuation

/-- The rows of a line. -/
def rows (a : Place) (marker : Option Text) (line : Text) (width : Nat) : List Text :=
  (wrap line (max 1 (width - a.columns))).mapIdx fun i row =>
    (if i = 0 then a.lead marker else a.continuation) ++ row

theorem clean_margin (a : Place) : Clean a.margin := by
  have hbars {c : Char} (hc : c ∉ ['│', ' ']) : c ∉ Text.times a.quotes ['│', ' '] :=
    fun h => hc (Text.mem_times h)
  exact Clean.append ⟨hbars (by decide), hbars (by decide)⟩ (Clean.spaces _)

theorem clean_continuation (a : Place) : Clean a.continuation :=
  a.clean_margin.append (Clean.spaces _)

theorem clean_lead (a : Place) {marker : Option Text} (h : ∀ m ∈ marker, Clean m) :
    Clean (a.lead marker) := by
  cases marker with
  | some m => exact a.clean_margin.append (h m rfl)
  | none => exact a.clean_continuation

/-- Each quote takes two columns, and each list but the innermost takes two. -/
theorem rowWidth_margin (a : Place) : rowWidth a.margin = 2 * a.quotes + 2 * (a.lists - 1) := by
  have hbar : Solid ['│', ' '] := solid_of_notMem (by decide)
  have hwidth : rowWidth ['│', ' '] = 2 := by decide +kernel
  unfold margin
  rw [rowWidth_append (solid_times hbar _).settled, rowWidth_times hbar, hwidth, rowWidth_spaces,
    Nat.mul_comm]

theorem rowWidth_continuation (a : Place) : rowWidth a.continuation = a.columns := by
  unfold continuation
  rw [rowWidth_append (solid_of_notMem a.clean_margin.1).settled, rowWidth_margin, rowWidth_spaces]
  rfl

end Place

namespace Page

/-- The place of the open line. -/
def place (p : Page) : Place := ⟨p.quotes, p.lists, p.indent⟩

/-! ### The end of a line -/

/-- The rows that come out when the open line ends. -/
def openRows (theme : Theme) (width : Nat) (p : Page) : List Text :=
  if p.line.isEmpty && p.marker.isNone then []
  else
    (wrap p.line (max 1 (width - Styled.width (p.continuation theme)))).mapIdx fun i row =>
      (if i = 0 then p.lead theme else p.continuation theme) ++ row

section

variable (theme : Theme) (width : Nat) (p : Page)

/-- Flushing a row changes the rows and what waits to be one, and nothing else. -/
theorem flush_eq : p.flush theme width =
    { p with rows := (p.openRows theme width).reverse ++ p.rows, line := [], marker := none } := by
  unfold flush openRows
  split
  · rename_i h
    obtain ⟨hline, hmarker⟩ := Bool.and_eq_true_iff.mp h
    rw [List.isEmpty_iff] at hline
    rw [Option.isNone_iff_eq_none] at hmarker
    cases p
    subst hline hmarker
    rfl
  · rfl

@[simp] theorem place_flush : (p.flush theme width).place = p.place := by rw [flush_eq]; rfl

/-- Painted or not, the margin shows the same signs. -/
theorem shows_margin : Styled.Shows (p.margin theme) p.place.margin := by
  have hbars : Styled.Shows (if p.quotes = 0 then [] else theme.muted (Text.times p.quotes ['│', ' ']))
      (Text.times p.quotes ['│', ' ']) := by
    split
    · rename_i h
      rw [h]
      exact .nil
    · have hplain : esc ∉ Text.times p.quotes ['│', ' '] := fun h =>
        absurd (Text.mem_times h) (by decide)
      exact (Styled.Shows.of_notMem hplain).paint theme.dim
  exact hbars.append (.of_notMem (esc_notMem_spaces _))

theorem shows_continuation : Styled.Shows (p.continuation theme) p.place.continuation :=
  (p.shows_margin theme).append (.of_notMem (esc_notMem_spaces _))

theorem width_continuation : Styled.width (p.continuation theme) = p.place.columns := by
  have hshows := p.shows_continuation theme
  rw [← width_strip hshows.solid, hshows.strip, width_of_notMem p.place.clean_continuation.2,
    p.place.rowWidth_continuation]

end

section

variable {p : Page} {line : Text} (hline : Styled.Shows p.line line)
  (hmarker : ∀ m ∈ p.marker, Clean m) (theme : Theme) (width : Nat)
include hmarker

theorem shows_lead : Styled.Shows (p.lead theme) (p.place.lead p.marker) := by
  unfold lead
  split
  · rename_i m hm
    rw [hm]
    exact (p.shows_margin theme).append ((Styled.Shows.of_notMem (hmarker m hm).1).paint theme.accent)
  · rename_i hm
    rw [hm]
    exact p.shows_continuation theme

include hline

/-- Under any theme the rows of the open line show those of its plain text. -/
theorem map_strip_openRows : (p.openRows theme width).map strip
    = if p.line.isEmpty && p.marker.isNone then [] else p.place.rows p.marker line width := by
  unfold openRows
  split
  · rfl
  · have hbefore (i : Nat) : Styled.Shows (if i = 0 then p.lead theme else p.continuation theme)
        (if i = 0 then p.place.lead p.marker else p.place.continuation) := by
      split
      · exact shows_lead hmarker theme
      · exact p.shows_continuation theme
    -- row by row: the margin shows its signs, and the text what is left of it
    unfold Place.rows
    rw [p.width_continuation, ← hline.strip, ← map_strip_wrap hline.solid]
    refine List.ext_getElem? fun i => ?_
    simp only [List.getElem?_map, List.getElem?_mapIdx, Option.map_map]
    refine congrArg (Option.map · _) (funext fun row => ?_)
    show strip (_ ++ row) = _ ++ strip row
    rw [strip_append (hbefore i).solid.settled, (hbefore i).strip]

end

/-! ### What is done to a page -/

/-- What can be done to a page. -/
inductive Act where
  /-- The open line goes on. -/
  | write (t : Theme → Text)
  /-- The open line ends. -/
  | flush
  /-- A blank row follows. -/
  | blank
  /-- Lines of code follow. -/
  | code (content : Text)
  /-- A rule follows. -/
  | rule
  /-- The next line stands at another place, and behind a marker if there is one. -/
  | enter (place : Place) (marker : Option Text)

/-- The page after an act. -/
def act (theme : Theme) (width : Nat) (p : Page) : Act → Page
  | .write t => p.write (t theme)
  | .flush => p.flush theme width
  | .blank => p.blank theme width
  | .code content =>
    let p := p.flush theme width
    { p with rows := (codeRows theme width (Text.lines content)).reverse ++ p.rows }
  | .rule =>
    let p := p.flush theme width
    { p with rows := theme.border.paint (List.replicate width '─') :: p.rows }
  | .enter place marker =>
    let p := p.flush theme width
    { p with quotes := place.quotes, lists := place.lists, indent := place.indent, marker }

/-- The place after an act. -/
def Act.place (a : Place) : Act → Place
  | .enter place _ => place
  | _ => a

end Page

/-- What is written of a heading. -/
def headline (level : Nat) (t : Text) (theme : Theme) : Text :=
  match level with
  | 1 => theme.accent.strong t.upper
  | 2 => theme.accent.strong t
  | _ => theme.foreground.strong t

/-- What is written of a link: its text, and its address where that says more. -/
def linkText (t url : Text) (theme : Theme) : Text :=
  Styled.underlined t ++
    if url.isEmpty || url = t then [] else theme.muted (' ' :: '(' :: url ++ [')'])

/-- What a segment does to a page, at a place. -/
def Segment.acts (a : Place) : Segment → List Page.Act
  | .text t =>
    match t.rows with
    | [] => []
    | row :: below =>
      .write (fun _ => row) :: below.flatMap fun row => [.flush, .write fun _ => row]
  | .code t => [.write fun theme => theme.accent.paint t]
  | .bold t => [.write fun _ => Styled.bold t]
  | .italic t => [.write fun _ => Styled.italic t]
  | .strike t => [.write fun _ => Styled.crossedOut t]
  | .link t url => [.write (linkText t url)]
  | .lineEnd | .itemEnd => [.flush]
  | .paragraphEnd => if a.lists = 0 ∧ a.quotes = 0 then [.blank] else [.flush]
  | .heading level t => [.blank, .write (headline level t), .flush, .blank]
  | .codeBlock _ content => .code content :: if a.lists = 0 then [.blank] else []
  | .itemStart ordered number depth =>
    [.enter (a.after (.itemStart ordered number depth)) (some (itemMarker ordered number))]
  | .listEnd => .enter (a.after .listEnd) none :: if a.lists - 1 = 0 then [.blank] else []
  | .quoteStart => [.enter (a.after .quoteStart) none]
  | .quoteEnd => .enter (a.after .quoteEnd) none :: if a.quotes - 1 = 0 then [.blank] else []
  | .rule => [.rule, .blank]

namespace Page

variable (theme : Theme) (width : Nat) (p : Page)

/-- A segment does its acts, one after the other. -/
theorem step_eq_foldl_act (s : Segment) :
    p.step theme width s = (s.acts p.place).foldl (Page.act theme width) p := by
  -- ending the line leaves the place, on which it depends whether a blank row follows
  have hflush := p.flush_eq theme width
  cases s with
  | text t =>
    obtain ⟨row, below, hrows⟩ := Text.exists_rows t
    unfold step
    simp only [writeRows, Segment.acts, hrows, List.foldl_cons, List.foldl_flatMap]
    rfl
  | paragraphEnd =>
    show (if p.lists = 0 ∧ p.quotes = 0 then p.blank theme width else p.flush theme width)
      = List.foldl _ p (if p.lists = 0 ∧ p.quotes = 0 then [Act.blank] else [Act.flush])
    split <;> rfl
  | codeBlock language content =>
    unfold step
    simp only [Segment.acts, List.foldl_cons, hflush]
    by_cases h : p.lists = 0
    · simp [place, act, hflush, codeRows, codeRoom, h]
    · simp [place, act, hflush, codeRows, codeRoom, h]
  | itemStart ordered number depth =>
    unfold step
    simp only [Segment.acts, List.foldl_cons, List.foldl_nil, act, hflush, Place.after, place]
    rfl
  | itemEnd =>
    unfold step
    simp only [Segment.acts, List.foldl_cons, List.foldl_nil, act, hflush]
  | listEnd =>
    unfold step
    simp only [Segment.acts, List.foldl_cons, hflush]
    by_cases h : p.lists - 1 = 0
    · simp [place, act, hflush, Place.after, h]
    · simp [place, act, hflush, Place.after, h]
  | quoteStart =>
    unfold step
    simp only [Segment.acts, List.foldl_cons, List.foldl_nil, act, hflush, Place.after, place]
  | quoteEnd =>
    unfold step
    simp only [Segment.acts, List.foldl_cons, hflush]
    by_cases h : p.quotes - 1 = 0
    · simp [place, act, hflush, Place.after, h]
    · simp [place, act, hflush, Place.after, h]
  | _ => rfl

/-! ### Where a page stands -/

/-- An act moves the place as if nothing was written. -/
@[simp] theorem place_act (x : Act) : (p.act theme width x).place = x.place p.place := by
  have hflush := p.place_flush theme width
  cases x with
  | flush => exact hflush
  | blank =>
    simp only [act, blank]
    split
    · split
      · exact hflush
      · exact hflush
    · exact hflush
  | code content => exact hflush
  | rule => exact hflush
  | write t => rfl
  | enter place marker => rfl

/-- What a segment does leaves the place alone, or leads to the place behind the segment. -/
theorem place_of_mem_acts (s : Segment) (a : Place) :
    ∀ x ∈ s.acts a, ∀ b, x.place b = b ∨ x.place b = a.after s := by
  -- a segment that ends something may leave a blank row, which moves nothing
  cases s with
  | text t =>
    obtain ⟨row, below, hrows⟩ := Text.exists_rows t
    simp only [Segment.acts, hrows, List.mem_cons, List.mem_flatMap, List.not_mem_nil, or_false]
    rintro x (rfl | ⟨r, -, rfl | rfl⟩) b <;> exact .inl rfl
  | paragraphEnd =>
    simp only [Segment.acts]
    split <;> simp [Act.place]
  | codeBlock language content =>
    simp only [Segment.acts]
    split <;> simp [Act.place]
  | listEnd =>
    simp only [Segment.acts]
    split <;> simp [Act.place]
  | quoteEnd =>
    simp only [Segment.acts]
    split <;> simp [Act.place]
  | _ => simp [Segment.acts, Act.place]

/-- The acts of a segment lead to the place behind it. -/
theorem foldl_place_acts (s : Segment) (a : Place) : (s.acts a).foldl Act.place a = a.after s := by
  -- blank rows at the end move nothing
  cases s with
  | text t =>
    obtain ⟨row, below, hrows⟩ := Text.exists_rows t
    simp [Segment.acts, hrows, Act.place, Place.after, List.foldl_flatMap]
  | paragraphEnd =>
    simp only [Segment.acts]
    split <;> rfl
  | codeBlock language content =>
    simp only [Segment.acts]
    split <;> rfl
  | listEnd =>
    simp only [Segment.acts]
    split <;> rfl
  | quoteEnd =>
    simp only [Segment.acts]
    split <;> rfl
  | _ => rfl

/-- Where a page stands behind a segment does not depend on its rows. -/
theorem place_step (s : Segment) : (p.step theme width s).place = p.place.after s := by
  rw [step_eq_foldl_act, ← foldl_place_acts]
  exact (List.foldl_hom place fun q x => (q.place_act theme width x).symm).symm

end Page

end AgentConsole.Transcript
