import AgentConsole.Proofs.Transcript.Layout

/-!
# What is drawn of a document

A theme has its say in one place only: in the texts that are written on a page.  Under every theme
such a text shows the same characters, and it is empty under all themes or under none
(`Drawn`).  The second is no consequence of the first: nothing shows of an empty text in bold, and
yet it begins a line.

The texts of a segment are drawn from its own characters, their upper case, and what surrounds an
address (`Segment.isDrawn_acts`).
-/

namespace AgentConsole.Transcript

open Styled

/-- Does the text show the same characters of `K` under every theme, and is it empty under all of
them or under none? -/
structure Drawn (K : Char → Prop) (t : Theme → Text) : Prop where
  shows : ∃ plain, (∀ c ∈ plain, K c) ∧ ∀ theme, Styled.Shows (t theme) plain
  eq_nil : ∀ a b, t a = [] → t b = []

namespace Drawn

variable {K : Char → Prop}

/-- What is drawn of two texts is drawn side by side. -/
theorem append {s t : Theme → Text} (hs : Drawn K s) (ht : Drawn K t) :
    Drawn K fun theme => s theme ++ t theme := by
  obtain ⟨p, hp, hshows⟩ := hs.shows
  obtain ⟨q, hq, hshowt⟩ := ht.shows
  refine ⟨⟨p ++ q, fun c hc => ?_, fun theme => (hshows theme).append (hshowt theme)⟩, ?_⟩
  · exact (List.mem_append.mp hc).elim (hp c) (hq c)
  · intro a b hnil
    obtain ⟨hsnil, htnil⟩ := List.append_eq_nil_iff.mp hnil
    exact List.append_eq_nil_iff.mpr ⟨hs.eq_nil a b hsnil, ht.eq_nil a b htnil⟩

theorem style {e : Text} (h : Color.IsStyle e) : Drawn K fun _ => e :=
  ⟨⟨[], by simp, fun _ => .style h⟩, fun _ _ hnil => hnil⟩

variable (hesc : ¬K esc) {t : Text} (ht : ∀ c ∈ t, K c)
include hesc ht

theorem plain : Drawn K fun _ => t :=
  ⟨⟨t, ht, fun _ => .of_notMem fun hmem => hesc (ht esc hmem)⟩, fun _ _ hnil => hnil⟩

/-- A text between two renditions. -/
theorem between {first last : Text} (hfirst : Color.IsStyle first) (hlast : Color.IsStyle last) :
    Drawn K fun _ => first ++ t ++ last :=
  ((style hfirst).append (plain hesc ht)).append (style hlast)

/-- Painting shows the text, and leaves an empty one empty. -/
theorem paint (color : Theme → Color) : Drawn K fun theme => (color theme).paint t := by
  have hshows : Styled.Shows t t := .of_notMem fun hmem => hesc (ht esc hmem)
  refine ⟨⟨t, ht, fun theme => hshows.paint (color theme)⟩, fun a b hnil => ?_⟩
  rw [(color a).paint_eq_nil_iff] at hnil
  exact (color b).paint_eq_nil_iff.mpr hnil

/-- Strong text is painted, between two sequences. -/
theorem strong (color : Theme → Color) : Drawn K fun theme => (color theme).strong t := by
  have hshows : Styled.Shows t t := .of_notMem fun hmem => hesc (ht esc hmem)
  refine ⟨⟨t, ht, fun theme => hshows.strong (color theme)⟩, fun a b hnil => ?_⟩
  rw [(color a).strong_eq_nil_iff] at hnil
  exact (color b).strong_eq_nil_iff.mpr hnil

end Drawn

/-- Is what the act brings to the page drawn from characters of `K`?  A marker has to take the
columns that are left for it. -/
def Page.Act.IsDrawn (K : Char → Prop) : Page.Act → Prop
  | .write t => Drawn K t
  | .code content => ∀ c ∈ content, K c
  | .enter place marker => ∀ m ∈ marker, Clean m ∧ Styled.width m = place.indent
  | _ => True

namespace Segment

/-- All text that a segment has for the screen.  The language of a block of code is not shown. -/
def shown : Segment → Text
  | .text t | .code t | .codeBlock _ t | .heading _ t | .bold t | .italic t | .strike t => t
  | .link t url => t ++ url
  | _ => []

variable {K : Char → Prop} (hesc : ¬K esc)
include hesc

/-- A heading of the first level is set in upper case, so the characters there count as well. -/
theorem drawn_headline {t : Text} (ht : ∀ c ∈ t, K c ∧ ∀ d ∈ Unicode.upperChar c, K d)
    (level : Nat) : Drawn K (headline level t) := by
  have hself : ∀ c ∈ t, K c := fun c hc => (ht c hc).1
  have hupper : ∀ c ∈ t.upper, K c := by
    intro c hc
    obtain ⟨d, hd, hcd⟩ := List.mem_flatMap.mp hc
    exact (ht d hd).2 c hcd
  unfold headline
  split
  · exact Drawn.strong hesc hupper Theme.accent
  · exact Drawn.strong hesc hself Theme.accent
  · exact Drawn.strong hesc hself Theme.foreground

/-- A link is its text and, unless that is its address, the address in brackets. -/
theorem drawn_linkText (hmarks : K ' ' ∧ K '(' ∧ K ')') {t url : Text} (ht : ∀ c ∈ t, K c)
    (hurl : ∀ c ∈ url, K c) : Drawn K (linkText t url) := by
  have haddress : ∀ c ∈ ' ' :: '(' :: url ++ [')'], K c := by
    obtain ⟨hspace, hopen, hclose⟩ := hmarks
    intro c hc
    simp only [List.cons_append, List.mem_cons, List.mem_append, List.not_mem_nil, or_false] at hc
    rcases hc with rfl | rfl | hc | rfl
    · exact hspace
    · exact hopen
    · exact hurl c hc
    · exact hclose
  -- the text is underlined, and the address is dim
  have htext : Drawn K fun _ => underlined t :=
    Drawn.between hesc ht (Color.isStyle_rendition (by simp [Color.IsParameters]))
      Color.isStyle_reset
  refine htext.append ?_
  split
  · exact Drawn.plain hesc (t := []) (by simp)
  · exact Drawn.paint hesc haddress Theme.dim

/-- What a segment does is drawn from its characters, and from those of their upper case. -/
theorem isDrawn_acts (hmarks : K ' ' ∧ K '(' ∧ K ')') {s : Segment}
    (hs : ∀ c ∈ s.shown, K c ∧ ∀ d ∈ Unicode.upperChar c, K d) (a : Place) :
    ∀ x ∈ s.acts a, x.IsDrawn K := by
  have hself : ∀ c ∈ s.shown, K c := fun c hc => (hs c hc).1
  have hend {c : Prop} [Decidable c] {x : Page.Act}
      (hx : x ∈ if c then [Page.Act.blank] else []) : x.IsDrawn K := by
    split at hx
    · rw [List.mem_singleton.mp hx]
      trivial
    · cases hx
  have hspan {n : Char} (hn : n.isDigit) : Color.IsStyle (Color.rendition [n]) :=
    Color.isStyle_rendition (by simp [Color.IsParameters, hn])
  intro x hx
  cases s with
  -- a text is written row by row, with a break in front of every row but the first
  | text t =>
    obtain ⟨row, below, hrows⟩ := Text.exists_rows t
    have hplain : ∀ r ∈ row :: below, (Page.Act.write fun _ => r).IsDrawn K := fun r hr =>
      Drawn.plain hesc fun c hc => hself c (Text.mem_of_mem_rows (hrows ▸ hr) hc)
    simp only [acts, hrows] at hx
    rcases List.mem_cons.mp hx with rfl | hx
    · exact hplain row List.mem_cons_self
    · obtain ⟨r, hr, hx⟩ := List.mem_flatMap.mp hx
      rcases List.mem_cons.mp hx with rfl | hx
      · trivial
      · rw [List.mem_singleton.mp hx]
        exact hplain r (List.mem_cons_of_mem _ hr)
  -- spans are written at once, in a colour or between two sequences
  | code t =>
    rw [List.mem_singleton.mp hx]
    exact Drawn.paint hesc hself Theme.accent
  | bold t =>
    rw [List.mem_singleton.mp hx]
    exact Drawn.between hesc hself (hspan (by decide)) Color.isStyle_reset
  | italic t =>
    rw [List.mem_singleton.mp hx]
    exact Drawn.between hesc hself (hspan (by decide)) Color.isStyle_reset
  | strike t =>
    rw [List.mem_singleton.mp hx]
    exact Drawn.between hesc hself (hspan (by decide)) Color.isStyle_reset
  | link t url =>
    rw [List.mem_singleton.mp hx]
    exact drawn_linkText hesc hmarks (fun c hc => hself c (List.mem_append_left _ hc))
      fun c hc => hself c (List.mem_append_right _ hc)
  -- a heading is the only segment that is not written as it stands, between two blank rows
  | heading level t =>
    simp only [acts, List.mem_cons, List.not_mem_nil, or_false] at hx
    rcases hx with rfl | rfl | rfl | rfl
    · trivial
    · exact drawn_headline hesc hs level
    · trivial
    · trivial
  -- lines of code are taken as they are
  | codeBlock language content =>
    rcases List.mem_cons.mp hx with rfl | hx
    · exact hself
    · exact hend hx
  -- lists and quotes change the margin, and only the marker of an item shows
  | itemStart ordered number depth =>
    rw [List.mem_singleton.mp hx]
    intro m hm
    obtain rfl := Option.some.inj hm
    exact ⟨clean_itemMarker ordered number, rfl⟩
  | listEnd =>
    rcases List.mem_cons.mp hx with rfl | hx
    · exact fun m hm => by cases hm
    · exact hend hx
  | quoteStart =>
    rw [List.mem_singleton.mp hx]
    exact fun m hm => by cases hm
  | quoteEnd =>
    rcases List.mem_cons.mp hx with rfl | hx
    · exact fun m hm => by cases hm
    · exact hend hx
  -- all that is left ends a row or draws the one of a rule
  | paragraphEnd =>
    simp only [acts] at hx
    split at hx <;> rw [List.mem_singleton.mp hx] <;> trivial
  | lineEnd | itemEnd =>
    rw [List.mem_singleton.mp hx]
    trivial
  | rule =>
    rcases List.mem_cons.mp hx with rfl | hx
    · trivial
    · rw [List.mem_singleton.mp hx]
      trivial

end Segment

end AgentConsole.Transcript
