import AgentConsole.Proofs.Styled.Painted
import AgentConsole.Proofs.Transcript.Segment
import AgentConsole.Transcript.Log

/-!
# What agent output can do to the terminal

Agent output is sanitized before it is read, but references in it are resolved
afterwards.  Laying out inert segments gives painted rows (`Page.IsPainted.step`), so
the output is harmless as long as its references name no control; and each control
that a reference can name, the newline apart, gets through (`isHarmless_markup_iff`).
-/

namespace AgentConsole.Transcript

open CommonMark Styled

/-! ### Pages -/

namespace Page

/-- Are the rows, the open line and the waiting marker painted? -/
structure IsPainted (p : Page) : Prop where
  rows : ∀ row ∈ p.rows, Painted row
  line : Painted p.line
  marker : ∀ marker ∈ p.marker, Painted marker

theorem painted_margin (theme : Theme) (p : Page) : Painted (p.margin theme) := by
  have hbar : Text.IsInert ['│', ' '] := (Text.IsInert.nil.cons (by decide)).cons (by decide)
  unfold margin
  refine Painted.append ?_ (painted_of_isInert (Text.isInert_spaces _))
  split
  · exact Painted.nil
  · exact (painted_of_isInert (hbar.times _)).muted theme

theorem painted_continuation (theme : Theme) (p : Page) : Painted (p.continuation theme) :=
  (painted_margin theme p).append (painted_of_isInert (Text.isInert_spaces _))

namespace IsPainted

variable {p : Page} (h : p.IsPainted)
include h

theorem lead (theme : Theme) : Painted (p.lead theme) := by
  unfold Page.lead
  split
  · rename_i marker hmarker
    exact (painted_margin theme p).append ((h.marker marker hmarker).paint _)
  · exact painted_continuation theme p

/-- The depth of the place does not matter. -/
theorem withPlace (quotes lists indent : Nat) : { p with quotes, lists, indent }.IsPainted :=
  ⟨h.rows, h.line, h.marker⟩

theorem withoutMarker : { p with marker := none }.IsPainted := ⟨h.rows, h.line, by simp⟩

theorem addRows {rows : List Text} (hrows : ∀ row ∈ rows, Painted row) :
    { p with rows := rows ++ p.rows }.IsPainted := by
  refine ⟨?_, h.line, h.marker⟩
  intro row hrow
  rcases List.mem_append.mp hrow with hrow | hrow
  · exact hrows row hrow
  · exact h.rows row hrow

theorem write {t : Text} (ht : Painted t) : (p.write t).IsPainted :=
  ⟨h.rows, h.line.append ht, h.marker⟩

variable (theme : Theme) (width : Nat)

/-- What waits becomes rows behind the margin. -/
theorem flush : (p.flush theme width).IsPainted := by
  unfold Page.flush
  split
  · exact h
  · dsimp only
    refine ⟨?_, Painted.nil, by simp⟩
    intro row hrow
    rcases List.mem_append.mp hrow with hrow | hrow
    · -- the first row has the lead, the others have the continuation
      obtain ⟨i, hi, rfl⟩ := List.mem_mapIdx.mp (List.mem_reverse.mp hrow)
      have hroom : 0 < max 1 (width - Styled.width (p.continuation theme)) := by omega
      refine Painted.append ?_ (h.line.wrap hroom _ (List.getElem_mem hi))
      split
      · exact h.lead theme
      · exact painted_continuation theme p
    · exact h.rows row hrow

theorem blank : (p.blank theme width).IsPainted := by
  have hflushed := h.flush theme width
  unfold Page.blank
  dsimp only
  split
  · split
    · exact hflushed
    · have hempty : ∀ row ∈ [[]], Painted row := by simpa using Painted.nil
      exact hflushed.addRows hempty
  · exact hflushed

/-- An inert text is written row by row. -/
theorem writeRows {t : Text} (ht : t.IsInert) : (p.writeRows theme width t).IsPainted := by
  have hrows : ∀ row ∈ t.rows, Painted row := fun row hrow =>
    painted_of_isInert fun c hc => ht c (Text.mem_of_mem_rows hrow hc)
  obtain ⟨first, below, heq⟩ := Text.exists_rows t
  rw [heq] at hrows
  -- only the first row goes on with the open line
  have hfold {p : Page} (h : p.IsPainted) :
      (below.foldl (fun p row => (p.flush theme width).write row) p).IsPainted := by
    have hbelow : ∀ row ∈ below, Painted row := fun row hrow =>
      hrows row (List.mem_cons_of_mem _ hrow)
    clear heq hrows
    induction below generalizing p with
    | nil => exact h
    | cons row rest ih =>
      refine ih ((h.flush theme width).write (hbelow row List.mem_cons_self)) ?_
      exact fun r hr => hbelow r (List.mem_cons_of_mem _ hr)
  unfold Page.writeRows
  rw [heq]
  exact hfold (h.write (hrows first List.mem_cons_self))

/-- Rows of code are painted as well. -/
theorem codeBlock {code : Text} (hcode : code.IsInert) (language : Option Text) :
    (p.step theme width (.codeBlock language code)).IsPainted := by
  have hindent : Text.IsInert [' ', ' '] := (Text.IsInert.nil.cons (by decide)).cons (by decide)
  have hrows : ∀ row ∈ ((Text.lines code).flatMap fun line => Styled.wrap line (max 1 (width - 2))).map
      fun row => ' ' :: ' ' :: theme.muted row, Painted row := by
    intro row hrow
    obtain ⟨r, hr, rfl⟩ := List.mem_map.mp hrow
    obtain ⟨line, hline, hrline⟩ := List.mem_flatMap.mp hr
    have hinert : Text.IsInert line := fun c hc => hcode c (Text.mem_of_mem_lines hline hc)
    have hwrapped := (painted_of_isInert hinert).wrap (by omega) r hrline
    exact (painted_of_isInert hindent).append (hwrapped.muted theme)
  have hadded := (h.flush theme width).addRows fun row hrow => hrows row (List.mem_reverse.mp hrow)
  -- at the end of a document there is no blank row behind the code
  unfold Page.step
  dsimp only
  split
  · exact hadded.blank theme width
  · exact hadded

/-- Laying out an inert segment keeps the page painted. -/
theorem step {segment : Segment} (hsegment : segment.IsInert) :
    (p.step theme width segment).IsPainted := by
  have hflushed := h.flush theme width
  -- what a segment shows is inert, and the page adds only signs and styles of its own
  cases segment with
  | text t => exact h.writeRows theme width hsegment
  | code t => exact h.write ((painted_of_isInert hsegment).paint _)
  | bold t => exact h.write (painted_of_isInert hsegment).bold
  | italic t => exact h.write (painted_of_isInert hsegment).italic
  | strike t => exact h.write (painted_of_isInert hsegment).crossedOut
  | link t url =>
    obtain ⟨ht, hurl⟩ := hsegment
    have haddress : Text.IsInert (' ' :: '(' :: url ++ [')']) :=
      ((hurl.cons (by decide)).cons (by decide)).append (Text.IsInert.nil.cons (by decide))
    refine h.write ((painted_of_isInert ht).underlined.append ?_)
    split
    · exact Painted.nil
    · exact (painted_of_isInert haddress).muted theme
  | lineEnd => exact hflushed
  | paragraphEnd =>
    unfold Page.step
    dsimp only
    split
    · exact h.blank theme width
    · exact hflushed
  -- upper case brings in nothing that is not inert
  | heading level t =>
    refine (((h.blank theme width).write ?_).flush theme width).blank theme width
    split
    · exact (painted_of_isInert (Text.IsInert.upper hsegment)).strong _
    · exact (painted_of_isInert hsegment).strong _
    · exact (painted_of_isInert hsegment).strong _
  | codeBlock language code => exact h.codeBlock theme width hsegment language
  -- a marker is a number or a bullet
  | itemStart ordered number depth =>
    have hmarker : Text.IsInert (if ordered then Text.ofNat number ++ ['.', ' '] else ['•', ' ']) := by
      split
      · refine (Text.isInert_ofNat number).append ?_
        exact (Text.IsInert.nil.cons (by decide)).cons (by decide)
      · exact (Text.IsInert.nil.cons (by decide)).cons (by decide)
    refine ⟨hflushed.rows, hflushed.line, ?_⟩
    intro marker hmem
    obtain rfl := Option.some.inj hmem
    exact painted_of_isInert hmarker
  | itemEnd => exact hflushed.withoutMarker
  | listEnd =>
    unfold Page.step
    dsimp only
    split
    · exact (hflushed.withPlace _ _ _).blank theme width
    · exact hflushed.withPlace _ _ _
  | quoteStart => exact hflushed.withPlace _ _ _
  | quoteEnd =>
    unfold Page.step
    dsimp only
    split
    · exact (hflushed.withPlace _ _ _).blank theme width
    · exact hflushed.withPlace _ _ _
  | rule =>
    have hline : Text.IsInert (List.replicate width '─') := Text.isInert_replicate (by decide) width
    have hrow : ∀ row ∈ [theme.border.paint (List.replicate width '─')], Painted row := by
      intro row hrow
      obtain rfl := List.mem_singleton.mp hrow
      exact (painted_of_isInert hline).paint _
    exact (hflushed.addRows hrow).blank theme width

end IsPainted

/-- The run over all segments. -/
theorem IsPainted.foldl {p : Page} (h : p.IsPainted) (theme : Theme) (width : Nat)
    {segments : List Segment} (hsegments : ∀ segment ∈ segments, segment.IsInert) :
    (segments.foldl (Page.step theme width) p).IsPainted := by
  induction segments generalizing p with
  | nil => exact h
  | cons segment rest ih =>
    exact ih (h.step theme width (hsegments segment List.mem_cons_self))
      fun s hs => hsegments s (List.mem_cons_of_mem _ hs)

/-- At the end all rows are painted. -/
theorem IsPainted.finish {p : Page} (h : p.IsPainted) (theme : Theme) (width : Nat) :
    ∀ row ∈ p.finish theme width, Painted row := by
  intro row hrow
  have hmem := (List.dropWhile_sublist _).subset (List.mem_reverse.mp hrow)
  exact (h.flush theme width).rows row hmem

end Page

/-- **Tame output is painted**: what is sanitized, and names inert characters only. -/
theorem painted_markup {t : Text} (h : IsTame (Styled.sanitize t)) (width : Nat) (theme : Theme) :
    Painted (markup t width theme) := by
  have hstart : Page.IsPainted {} := ⟨by simp, Painted.nil, by simp⟩
  have hpage := hstart.foldl theme (max 1 width) (Segment.isInert_ofText h)
  refine painted_ofRows ?_
  exact hpage.finish theme (max 1 width)

/-! ### What references let through -/

/-- The reference to a character by its number, after the ampersand. -/
def reference (n : Nat) : Text := '#' :: Text.ofNat n ++ [';']

/-- A reference between two letters. -/
def probe (n : Nat) : Text := 'x' :: '&' :: (reference n ++ ['x'])

/-- A reference gets any control onto the screen, apart from the newline and the
character zero. -/
theorem markup_probe : ∀ n < 0xA0, Unicode.isControl (Char.ofNat n) ∧ n ≠ 0 ∧ n ≠ 10 →
    sanitize (probe n) = probe n ∧ markup (probe n) 80 Theme.fallback = ['x', Char.ofNat n, 'x'] := by
  decide +kernel

theorem read?_reference : ∀ n < 0xA0, Unicode.isControl (Char.ofNat n) ∧ n ≠ 0 →
    (Entity.read? (reference n ++ ['x'])).map (·.1) = some [Char.ofNat n] ∧
      '&' ∉ reference n ++ ['x'] := by
  decide +kernel

/-- The only reference in a probe is the one it is made of. -/
theorem namesOnly_probe {K : Char → Prop} {n : Nat} (hn : n < 0xA0)
    (hcontrol : Unicode.isControl (Char.ofNat n)) (hzero : n ≠ 0) (hK : K (Char.ofNat n)) :
    Entity.NamesOnly K (probe n) := by
  obtain ⟨hread, hamp⟩ := read?_reference n hn ⟨hcontrol, hzero⟩
  intro r value k hr hvalue c hc
  have hprefix : r <+: reference n ++ ['x'] := by
    rcases List.infix_cons_iff.mp hr with hx | hr
    · exact absurd (List.cons_prefix_cons.mp hx).1 (by decide)
    · rcases List.infix_cons_iff.mp hr with hfirst | hlater
      · exact (List.cons_prefix_cons.mp hfirst).2
      · exact absurd (hlater.subset List.mem_cons_self) hamp
  -- what follows a reference does not matter, so it is the whole one that was read
  obtain ⟨rest, hrest⟩ := hprefix
  obtain ⟨body, tail, rfl, -, hagain⟩ := Entity.exists_body hvalue
  have hwhole : Entity.read? (reference n ++ ['x']) = some (value, k) := by
    rw [← hrest, List.append_assoc, List.cons_append]
    exact hagain (tail ++ rest)
  rw [hwhole] at hread
  obtain rfl : value = [Char.ofNat n] := Option.some.inj hread
  obtain rfl := List.mem_singleton.mp hc
  exact hK

/-- **What the output of an agent can do to the terminal is what its references name.**
For all texts whose references name only characters of `K` the output is harmless, at
every width and in every theme, if and only if `K` has no controls but the newline,
which ends a row, and the character zero, which no reference names. -/
theorem isHarmless_markup_iff (K : Char → Prop) :
    (∀ t, Entity.NamesOnly K (sanitize t) → ∀ width theme, IsHarmless (markup t width theme)) ↔
      ∀ c, K c → Unicode.isControl c → c = '\n' ∨ c = '\x00' := by
  constructor
  · -- any other control in `K` would get out by its number
    intro h c hK hcontrol
    refine Decidable.byContradiction fun hne => ?_
    obtain ⟨hnewline, hnul⟩ := not_or.mp hne
    have hcode : Char.ofNat c.toNat = c := Char.ofNat_toNat c
    have hlt : c.toNat < 0xA0 := by
      simp only [Unicode.isControl, Bool.or_eq_true, Bool.and_eq_true, decide_eq_true_eq] at hcontrol
      omega
    have hzero : c.toNat ≠ 0 := fun hz => hnul (by rw [← hcode, hz])
    have hten : c.toNat ≠ 10 := fun ht => hnewline (by rw [← hcode, ht])
    have hcontrol' : Unicode.isControl (Char.ofNat c.toNat) := by rwa [hcode]
    obtain ⟨hsanitize, hmarkup⟩ := markup_probe c.toNat hlt ⟨hcontrol', hzero, hten⟩
    have hnames : Entity.NamesOnly K (sanitize (probe c.toNat)) := by
      rw [hsanitize]
      exact namesOnly_probe hlt hcontrol' hzero (by rwa [hcode])
    have hharmless := h (probe c.toNat) hnames 80 Theme.fallback
    rw [hmarkup, hcode] at hharmless
    exact not_isHarmless_of_isControl hcontrol hnewline hharmless
  · -- no other control is named, so the text is tame
    intro hK t hnames width theme
    have htame : IsTame (sanitize t) := ⟨Text.isInert_sanitize t, hnames.inert hK⟩
    exact (painted_markup htame width theme).isHarmless

/-- An agent can clear the screen: the reference is resolved after the text was
sanitized. -/
theorem reference_clears_screen :
    ¬IsHarmless (markup "x&#27;[2Jx".toList 80 Theme.fallback) := by
  have hmarkup : markup "x&#27;[2Jx".toList 80 Theme.fallback = ['x', esc, '[', '2', 'J', 'x'] := by
    decide +kernel
  rw [hmarkup]
  intro h
  have hclear : Token.escape [esc, '[', '2', 'J'] ∈ tokens ['x', esc, '[', '2', 'J', 'x'] := by
    decide
  obtain ⟨p, -, heq⟩ := h.escapes _ hclear
  -- a rendition ends in another letter
  have hlast := congrArg List.getLast? heq
  rw [show Color.rendition p = (esc :: '[' :: p) ++ ['m'] from rfl, List.getLast?_concat] at hlast
  exact absurd hlast (by decide)

end AgentConsole.Transcript
