import AgentConsole.Proofs.Styled.Strip
import AgentConsole.Proofs.Styled.Style

/-!
# Sequences that are never turned on

A rendition shows at the characters behind it (`shownUnder`), so a text that omits it shows it nowhere
(`Omits.shownUnder_eq_nil`).  Painters put in foreground colours, and a cut puts in a reset; a
sequence that is none of these (`Apart`) stays out of everything that is painted, cut and fitted of
texts without it.

A text without sequences that is put behind some renditions shows all of them, and nothing else
(`glyphs_replay`).
-/

namespace AgentConsole

namespace Color

/-- Everything that selects a foreground colour begins with a three. -/
theorem exists_foreground_eq (c : Color) :
    ∃ p, IsParameters ('3' :: p) ∧ c.foreground = rendition ('3' :: p) := by
  unfold foreground
  split
  · rename_i p hp
    have hlead : IsParameters ['3', '8', ';'] := by simp [IsParameters]
    exact ⟨'8' :: ';' :: p, hlead.append (isParameters_parameters hp), rfl⟩
  · exact ⟨['9'], by simp [IsParameters], rfl⟩

/-- Everything that selects a background colour begins with a four. -/
theorem exists_background_eq (c : Color) :
    ∃ p, IsParameters ('4' :: p) ∧ c.background = rendition ('4' :: p) := by
  unfold background
  split
  · rename_i p hp
    have hlead : IsParameters ['4', '8', ';'] := by simp [IsParameters]
    exact ⟨'8' :: ';' :: p, hlead.append (isParameters_parameters hp), rfl⟩
  · exact ⟨['9'], by simp [IsParameters], rfl⟩

theorem rendition_inj {p q : Text} (h : rendition p = rendition q) : p = q :=
  (List.cons.inj (List.cons.inj (List.append_cancel_right h)).2).2

end Color

namespace Styled

open Color

/-- The characters of a text at which a sequence is in force. -/
def shownUnder (e t : Text) : Text := ((glyphs t).filter fun d => d.2.contains e).map Prod.fst

/-- Does the text not hold the sequence? -/
structure Omits (e t : Text) : Prop where
  solid : Solid t
  notMem : Token.escape e ∉ tokens t

/-- Is the sequence neither a reset nor one that has to do with a foreground colour? -/
structure Apart (e : Text) : Prop where
  ne_reset : reset ≠ e
  ne_foreground : ∀ p, rendition ('3' :: p) ≠ e

theorem apart_rendition {c : Char} (hreset : '0' ≠ c) (hforeground : '3' ≠ c) (p : Text) :
    Apart (rendition (c :: p)) where
  ne_reset h := hreset (List.cons.inj (@rendition_inj ['0'] (c :: p) h)).1
  ne_foreground _ h := hforeground (List.cons.inj (rendition_inj h)).1

theorem apart_background (c : Color) : Apart c.background := by
  obtain ⟨p, -, hp⟩ := exists_background_eq c
  rw [hp]
  exact apart_rendition (by decide) (by decide) p

/-! ### What a text omits it does not show -/

/-- A sequence that is neither in force nor among the tokens dresses no character. -/
theorem notMem_dressed {e : Text} {styles : List Text} (hstyles : e ∉ styles) {ts : List Token}
    (hts : Token.escape e ∉ ts) : ∀ d ∈ dressed styles ts, e ∉ d.2 := by
  induction ts generalizing styles with
  | nil => exact nofun
  | cons k ts ih =>
    obtain ⟨hk, hrest⟩ := not_or.mp (mt List.mem_cons.mpr hts)
    -- a character is shown in what is in force; an escape may add to that, but is not `e`
    cases k with
    | glyph c =>
      intro d hd
      rcases List.mem_cons.mp hd with rfl | hd
      · exact hstyles
      · exact ih hstyles hrest d hd
    | escape s =>
      refine ih ?_ hrest
      intro hmem
      unfold inForceAfter at hmem
      dsimp only at hmem
      split at hmem
      · exact List.not_mem_nil hmem
      · split at hmem
        · rcases List.mem_append.mp hmem with hmem | hmem
          · exact hstyles hmem
          · exact hk (congrArg Token.escape (List.mem_singleton.mp hmem))
        · exact hstyles hmem

namespace Omits

variable {e a b t : Text}

/-- Nothing is shown under a sequence that is not there. -/
theorem shownUnder_eq_nil (h : Omits e t) : shownUnder e t = [] := by
  unfold shownUnder
  rw [List.map_eq_nil_iff, List.filter_eq_nil_iff]
  intro d hd
  have hd := notMem_dressed (@List.not_mem_nil _ _) h.notMem d hd
  simpa using hd

theorem of_notMem (h : esc ∉ t) : Omits e t where
  solid := solid_of_notMem h
  notMem hmem := by
    rw [tokens_of_notMem h] at hmem
    obtain ⟨c, -, hc⟩ := List.mem_map.mp hmem
    exact absurd hc nofun

theorem append (ha : Omits e a) (hb : Omits e b) : Omits e (a ++ b) where
  solid := ha.solid.append hb.solid
  notMem hmem := by
    rw [tokens_append ha.solid.settled] at hmem
    exact (List.mem_append.mp hmem).elim ha.notMem hb.notMem

theorem cons {c : Char} (hc : esc ≠ c) (h : Omits e t) : Omits e (c :: t) :=
  append (of_notMem fun hmem => hc (List.mem_singleton.mp hmem)) h

theorem spaces (n : Nat) : Omits e (Text.spaces n) := of_notMem (esc_notMem_spaces n)

/-- A sequence is not another one. -/
theorem style {s : Text} (hs : IsStyle s) (hne : s ≠ e) : Omits e s where
  solid := hs.solid
  notMem hmem := by
    obtain ⟨p, hp, rfl⟩ := hs
    have htokens : tokens (rendition p) = [.escape (rendition p)] := (isSolid_rendition hp).1
    rw [htokens] at hmem
    exact hne (Token.escape.inj (List.mem_singleton.mp hmem)).symm

/-! #### What painters and cuts put in -/

theorem closing (he : reset ≠ e) (styled : Bool) : Omits e (Styled.closing styled) := by
  cases styled with
  | false => exact of_notMem List.not_mem_nil
  | true => exact style isStyle_reset he

/-- Cutting brings in no more than a reset. -/
theorem cut (he : reset ≠ e) (h : Omits e t) (room : Nat) : Omits e (Styled.cut t room).1 := by
  obtain ⟨-, hcut⟩ | ⟨us, c, vs, hts, -, -, hcut⟩ := cut_cases t room
  · rw [hcut]
    exact h
  · rw [hcut]
    have hus : ∀ k ∈ us, k ∈ tokens t := fun k hk => hts ▸ List.mem_append_left _ hk
    have hsolid : ∀ k ∈ us, k.IsSolid := fun k hk => h.solid k (hus k hk)
    refine append ⟨solid_sources hsolid, fun hmem => ?_⟩ (closing he _)
    rw [tokens_sources hsolid] at hmem
    exact h.notMem (hus _ hmem)

theorem fit (he : reset ≠ e) (h : Omits e t) (room : Nat) : Omits e (Styled.fit t room) :=
  (h.cut he room).append (spaces _)

theorem firstRow (h : Omits e t) : Omits e t.firstRow where
  solid := h.solid.firstRow
  notMem hmem := by
    have hsplit : t = t.firstRow ++ t.dropWhile (· ≠ '\n') := List.takeWhile_append_dropWhile.symm
    apply h.notMem
    rw [hsplit, tokens_append h.solid.firstRow.settled]
    exact List.mem_append_left _ hmem

theorem truncate (he : reset ≠ e) (h : Omits e t) (room : Nat) : Omits e (Styled.truncate t room) := by
  have hfirst := h.firstRow
  unfold Styled.truncate
  split
  · exact h
  · split
    · exact hfirst.cut he room
    · exact (hfirst.cut he _).append (of_notMem (by decide))

theorem spread (he : reset ≠ e) (ha : Omits e a) (hb : Omits e b) (room : Nat) :
    Omits e (Styled.spread a b room) := by
  unfold Styled.spread
  split
  · exact ha.fit he room
  · exact (((ha.truncate he _).fit he _).append (hb.cons (by decide))).fit he room

/-- Painting brings in a foreground colour. -/
theorem paint (he : ∀ p, rendition ('3' :: p) ≠ e) (h : Omits e t) (c : Color) :
    Omits e (c.paint t) := by
  have hbegin : Omits e c.foreground := by
    obtain ⟨p, hp, hforeground⟩ := exists_foreground_eq c
    rw [hforeground]
    exact style (isStyle_rendition hp) (he p)
  unfold Color.paint
  split
  · exact of_notMem List.not_mem_nil
  · exact (hbegin.append h).append (style isStyle_foregroundEnd (he ['9']))

theorem muted (he : ∀ p, rendition ('3' :: p) ≠ e) (h : Omits e t) (theme : Theme) :
    Omits e (theme.muted t) := h.paint he theme.dim

end Omits

/-! ### Plain texts -/

theorem esc_notMem_of_strip_eq {t : Text} (h : strip t = t) : esc ∉ t := h ▸ esc_notMem_strip t

/-- A plain text that is cut or filled is plain. -/
theorem esc_notMem_fit {t : Text} (h : esc ∉ t) (room : Nat) : esc ∉ fit t room := by
  apply esc_notMem_of_strip_eq
  rw [strip_fit (solid_of_notMem h), strip_of_notMem h]

theorem esc_notMem_truncate {t : Text} (h : esc ∉ t) (room : Nat) : esc ∉ truncate t room := by
  apply esc_notMem_of_strip_eq
  rw [strip_truncate (solid_of_notMem h), strip_of_notMem h]

/-- A rendition that does not start with `0` lasts until a reset. -/
theorem isLasting_rendition {c : Char} {p : Text} (hp : IsParameters (c :: p)) (hc : '0' ≠ c) :
    IsLasting (rendition (c :: p)) where
  solid := isSolid_rendition hp
  rendition := by
    have hlast : (Color.rendition (c :: p)).getLast? = some 'm' := List.getLast?_concat
    unfold isRendition
    rw [hlast]
    rfl
  -- a reset is `0` or has no parameters at all
  notReset := by
    have hreset : Color.rendition (c :: p) ≠ Color.rendition ['0'] :=
      fun h => hc (List.cons.inj (rendition_inj h)).1.symm
    have hempty : Color.rendition (c :: p) ≠ Color.rendition [] :=
      fun h => List.cons_ne_nil c p (rendition_inj h)
    exact Bool.or_eq_false_iff.mpr ⟨beq_eq_false_iff_ne.mpr hreset, beq_eq_false_iff_ne.mpr hempty⟩

theorem dressed_glyphs (styles : List Text) (t : Text) :
    dressed styles (t.map .glyph) = t.map fun c => (c, styles) := by
  induction t with
  | nil => rfl
  | cons c t ih => exact congrArg ((c, styles) :: ·) ih

/-- A plain text behind renditions shows all of them, whatever follows it and shows nothing. -/
theorem glyphs_replay {es ends : List Text} (hes : ∀ e ∈ es, IsLasting e) {t : Text} (ht : esc ∉ t)
    (hends : ∀ e ∈ ends, IsLasting e) :
    glyphs (es.flatten ++ (t ++ ends.flatten)) = t.map fun c => (c, es) := by
  rw [dressed_replay hes, tokens_append (solid_of_notMem ht).settled, dressed_append,
    tokens_of_notMem ht, dressed_glyphs, tokens_flatten hends, dressed_renditions, List.append_nil]

end Styled

end AgentConsole
