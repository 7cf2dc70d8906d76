import AgentConsole.Proofs.Frame.Overlay

/-!
# What painters keep

A painter puts together words and numbers of its own with the strings that it is given, paints them
and fits them into a row.  What holds of every text without some character, and is kept by all of
this, holds of whatever is drawn of strings without that character (`Kind`).  So texts are solid as
long as no string holds an ESC (`kind_solid`), and they are single rows as long as none holds a
newline (`kind_flat`).
-/

namespace AgentConsole.Styled

open Color

/-- Does the text hold neither an ESC nor a newline?  All words of the console's own are clean. -/
def Clean (t : Text) : Prop := esc ∉ t ∧ '\n' ∉ t

instance (t : Text) : Decidable (Clean t) := inferInstanceAs (Decidable (_ ∧ _))

namespace Clean

variable {a b : Text}

theorem append (ha : Clean a) (hb : Clean b) : Clean (a ++ b) :=
  ⟨fun h => (List.mem_append.mp h).elim ha.1 hb.1, fun h => (List.mem_append.mp h).elim ha.2 hb.2⟩

theorem one {c : Char} (hc : c ≠ esc ∧ c ≠ '\n') : Clean [c] :=
  ⟨fun h => hc.1 (List.mem_singleton.mp h).symm, fun h => hc.2 (List.mem_singleton.mp h).symm⟩

theorem ofNat (n : Nat) : Clean (Text.ofNat n) := by
  refine ⟨Text.esc_notMem_ofNat n, fun hmem => ?_⟩
  rcases isParameters_ofNat n _ hmem with h | h <;> simp at h

theorem spaces (n : Nat) : Clean (Text.spaces n) :=
  ⟨esc_notMem_spaces n, fun h => absurd (Text.mem_spaces h) (by decide)⟩

end Clean

/-- A property of the texts without a character `x` that no painter breaks.  The words of the
painters themselves are clean. -/
structure Kind (x : Char) (P : Text → Prop) : Prop where
  foreign : x = esc ∨ x = '\n'
  of_notMem : ∀ {t : Text}, x ∉ t → P t
  append : ∀ {a b : Text}, P a → P b → P (a ++ b)
  style : ∀ {e : Text}, IsStyle e → P e
  cut : ∀ {t : Text}, P t → ∀ room, P (Styled.cut t room).1
  firstRow : ∀ {t : Text}, P t → P t.firstRow

/-- Solid texts are a kind, as colours are complete escapes. -/
theorem kind_solid : Kind esc Solid where
  foreign := .inl rfl
  of_notMem := solid_of_notMem
  append := Solid.append
  style := IsStyle.solid
  cut h room := (h.cut room).1
  firstRow := Solid.firstRow

namespace Kind

variable {x : Char} {P : Text → Prop} (k : Kind x P) {t : Text}
include k

/-! ### Words and numbers -/

theorem notMem_words (h : Clean t) : x ∉ t := by
  rcases k.foreign with rfl | rfl
  · exact h.1
  · exact h.2

/-- A word that the painter itself puts in. -/
theorem words (h : Clean t) : P t := k.of_notMem (k.notMem_words h)

theorem notMem_literal (h : Clean t) : x ∉ (String.ofList t).toList :=
  Text.notMem_literal (k.notMem_words h)

/-- The words of a literal: `decide` need not decode them. -/
theorem literal (h : Clean t) : P (String.ofList t).toList :=
  k.of_notMem (k.notMem_literal h)

theorem nil : P [] := k.of_notMem List.not_mem_nil

theorem one {c : Char} (hc : c ≠ esc ∧ c ≠ '\n') : P [c] := k.words (.one hc)

theorem cons {c : Char} (hc : c ≠ esc ∧ c ≠ '\n') (h : P t) : P (c :: t) :=
  k.append (k.one hc) h

theorem ofNat (n : Nat) : P (Text.ofNat n) := k.words (.ofNat n)

theorem spaces (n : Nat) : P (Text.spaces n) := k.words (.spaces n)

theorem times (h : P t) (n : Nat) : P (Text.times n t) := by
  induction n with
  | zero => exact k.nil
  | succ n ih =>
    have htimes : Text.times (n + 1) t = t ++ Text.times n t := by
      simp [Text.times, List.replicate_succ]
    exact htimes ▸ k.append h ih

theorem join {ts : List Text} (h : ∀ t ∈ ts, P t) : P (Text.join [' '] ts) := by
  induction ts with
  | nil => exact k.nil
  | cons t rest ih =>
    have hrest := ih fun u hu => h u (List.mem_cons_of_mem _ hu)
    cases rest with
    | nil => exact h t List.mem_cons_self
    | cons u rest =>
      exact k.append (k.append (h t List.mem_cons_self) (k.one (by decide))) hrest

/-! ### Painting -/

theorem between {first last : Text} (h : P t) (hfirst : IsStyle first) (hlast : IsStyle last) :
    P (first ++ t ++ last) := k.append (k.append (k.style hfirst) h) (k.style hlast)

theorem paint (h : P t) (c : Color) : P (c.paint t) := by
  unfold Color.paint
  split
  · exact k.nil
  · exact k.between h (isStyle_foreground c) isStyle_foregroundEnd

theorem strong (h : P t) (c : Color) : P (c.strong t) := by
  have hbold : IsStyle (rendition ['1']) := isStyle_rendition (by simp [IsParameters])
  unfold Color.strong
  split
  · exact k.nil
  · exact k.append (k.append (k.append (k.style (isStyle_foreground c)) (k.style hbold)) h)
      (k.style isStyle_reset)

theorem inverse (h : P t) : P (Styled.inverse t) :=
  k.between h (isStyle_rendition (by simp [IsParameters])) isStyle_reset

theorem muted (h : P t) (theme : Theme) : P (theme.muted t) := k.paint h theme.dim

theorem selected (h : P t) (theme : Theme) : P (theme.selected t) := by
  unfold Theme.selected
  split
  · exact k.nil
  · exact k.append (k.append (k.append (k.append (k.style (isStyle_background _))
      (k.style (isStyle_foreground _))) h) (k.style isStyle_backgroundEnd))
      (k.style isStyle_foregroundEnd)

/-! ### Fitting -/

theorem fit (h : P t) (room : Nat) : P (Styled.fit t room) := k.append (k.cut h room) (k.spaces _)

theorem truncate (h : P t) (room : Nat) : P (Styled.truncate t room) := by
  have hfirst := k.firstRow h
  unfold Styled.truncate
  split
  · exact h
  · split
    · exact k.cut hfirst room
    · exact k.append (k.cut hfirst _) (k.words (by decide))

/-- Two texts of a kind, pushed apart, are of that kind. -/
theorem spread {left right : Text} (hl : P left) (hr : P right) (room : Nat) :
    P (Styled.spread left right room) := by
  unfold Styled.spread
  split
  · exact k.fit hl room
  · exact k.fit (k.append (k.fit (k.truncate hl _) _) (k.cons (by decide) hr)) room

end Kind

end AgentConsole.Styled
