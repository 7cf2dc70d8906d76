import AgentConsole.Proofs.Styled.Fit
import AgentConsole.Theme.Basic

/-!
# Painting keeps texts solid

Everything that is painted stands between two graphic renditions, whose parameters
are digits and semicolons.  Such a sequence is a solid token (`isSolid_rendition`),
so a painted text is solid whenever the text is.
-/

namespace AgentConsole

open Styled

namespace Color

/-- Does the text consist of what the parameters of a rendition are made of? -/
def IsParameters (p : Text) : Prop := ∀ c ∈ p, c.isDigit ∨ c = ';'

/-- Parameters may be put one behind another. -/
theorem IsParameters.append {p q : Text} (hp : IsParameters p) (hq : IsParameters q) :
    IsParameters (p ++ q) := by
  intro c hc
  rcases List.mem_append.mp hc with hc | hc
  · exact hp c hc
  · exact hq c hc

theorem isParameters_ofNat (n : Nat) : IsParameters (Text.ofNat n) := fun _ hc =>
  .inl (Nat.isDigit_of_mem_toDigits (by decide) (by decide) hc)

/-- No parameter ends a control sequence. -/
theorem not_isFinal_of_isParameters {p : Text} (hp : IsParameters p) :
    ∀ c ∈ p, isFinal c = false := by
  intro c hc
  rcases hp c hc with hc | rfl
  · simp only [Char.isDigit, Bool.and_eq_true, decide_eq_true_eq, UInt32.le_iff_toNat_le] at hc
    have hle : c.toNat ≤ 57 := hc.2
    simp [isFinal]
    omega
  · decide

/-- Inside a control sequence the reader goes on up to a final character. -/
theorem scan_control (read p : Text) (hp : ∀ c ∈ p, isFinal c = false) (t : Text) :
    scan (.control read) (p ++ 'm' :: t) = .escape (read.reverse ++ p ++ ['m']) :: scan .ground t := by
  induction p generalizing read with
  | nil => simp [scan, isFinal]
  | cons c p ih =>
    have hc : isFinal c = false := hp c List.mem_cons_self
    have := ih (c :: read) fun d hd => hp d (List.mem_cons_of_mem _ hd)
    simpa [scan, hc] using this

/-- The letter `m` does. -/
theorem after_control (read p : Text) (hp : ∀ c ∈ p, isFinal c = false) :
    (Scan.control read).after (p ++ ['m']) = .ground := by
  induction p generalizing read with
  | nil => rfl
  | cons c p ih =>
    have hc : isFinal c = false := hp c List.mem_cons_self
    have := ih (c :: read) fun d hd => hp d (List.mem_cons_of_mem _ hd)
    simpa [Scan.next, hc] using this

theorem isSolid_rendition {p : Text} (hp : IsParameters p) :
    (Token.escape (rendition p)).IsSolid := by
  have hfinal := not_isFinal_of_isParameters hp
  refine ⟨?_, after_control ['[', esc] p hfinal, ?_⟩
  · have := scan_control ['[', esc] p hfinal []
    simpa [tokens, rendition, scan, Token.source] using this
  · rintro s ⟨rfl⟩ hmem
    have hp' : '\n' ∉ p := fun h => by simpa using hp _ h
    simp [rendition, esc, hp'] at hmem

theorem solid_rendition {p : Text} (hp : IsParameters p) : Solid (rendition p) := by
  have hone : Solid (sources [.escape (rendition p)]) :=
    solid_sources (by simpa using isSolid_rendition hp)
  simpa [sources, Token.source] using hone

/-- What a colour is written as are parameters. -/
theorem isParameters_parameters {c : Color} {p : Text} (h : c.parameters = some p) :
    IsParameters p := by
  have hhead (d : Char) (hd : d.isDigit) : IsParameters [d, ';'] := by simp [IsParameters, hd]
  have hnext (n : Nat) : IsParameters (';' :: Text.ofNat n) :=
    IsParameters.append (p := [';']) (by simp [IsParameters]) (isParameters_ofNat n)
  cases c with
  | terminal => simp [parameters] at h
  | palette i =>
    obtain rfl := Option.some.inj h
    exact (hhead '5' (by decide)).append (isParameters_ofNat _)
  | rgb r g b =>
    obtain rfl := Option.some.inj h
    exact (((hhead '2' (by decide)).append (isParameters_ofNat _)).append (hnext _)).append (hnext _)

theorem rendition_ne_nil (p : Text) : rendition p ≠ [] := List.cons_ne_nil _ _

/-- What a rendition ends is not empty, so nothing is left only of a text that was empty. -/
theorem ended_eq_nil_iff {t painted : Text} (p : Text) :
    (if t.isEmpty then [] else painted ++ rendition p) = [] ↔ t = [] := by
  split
  · rename_i h
    exact iff_of_true rfl (List.isEmpty_iff.mp h)
  · rename_i h
    refine iff_of_false (fun hnil => ?_) fun hnil => h (List.isEmpty_iff.mpr hnil)
    exact rendition_ne_nil p (List.append_eq_nil_iff.mp hnil).2

/-- Painting a text leaves nothing exactly if there is nothing to paint. -/
theorem paint_eq_nil_iff (c : Color) {t : Text} : c.paint t = [] ↔ t = [] :=
  ended_eq_nil_iff ['3', '9']

theorem strong_eq_nil_iff (c : Color) {t : Text} : c.strong t = [] ↔ t = [] :=
  ended_eq_nil_iff ['0']

/-- Is the sequence a graphic rendition: digits and semicolons between `ESC [` and `m`? -/
def IsStyle (e : Text) : Prop := ∃ p, IsParameters p ∧ e = rendition p

theorem isStyle_rendition {p : Text} (hp : IsParameters p) : IsStyle (rendition p) := ⟨p, hp, rfl⟩

theorem IsStyle.solid {e : Text} (h : IsStyle e) : Solid e := by
  obtain ⟨p, hp, rfl⟩ := h
  exact solid_rendition hp

theorem isStyle_foregroundEnd : IsStyle foregroundEnd := isStyle_rendition (by simp [IsParameters])

theorem isStyle_backgroundEnd : IsStyle backgroundEnd := isStyle_rendition (by simp [IsParameters])

theorem isStyle_reset : IsStyle reset := ⟨['0'], by simp [IsParameters], rfl⟩

theorem isStyle_foreground (c : Color) : IsStyle c.foreground := by
  unfold foreground
  split
  · rename_i p hp
    have hlead : IsParameters ['3', '8', ';'] := by simp [IsParameters]
    exact isStyle_rendition (hlead.append (isParameters_parameters hp))
  · exact isStyle_foregroundEnd

theorem isStyle_background (c : Color) : IsStyle c.background := by
  unfold background
  split
  · rename_i p hp
    have hlead : IsParameters ['4', '8', ';'] := by simp [IsParameters]
    exact isStyle_rendition (hlead.append (isParameters_parameters hp))
  · exact isStyle_backgroundEnd

end Color

namespace Styled

open Color

/-- Painting a solid text leaves it solid. -/
theorem Solid.paint {t : Text} (h : Solid t) (c : Color) : Solid (c.paint t) := by
  unfold Color.paint
  split
  · exact Solid.nil
  · exact ((isStyle_foreground c).solid.append h).append isStyle_foregroundEnd.solid

theorem Solid.strong {t : Text} (h : Solid t) (c : Color) : Solid (c.strong t) := by
  unfold Color.strong
  split
  · exact Solid.nil
  · exact (((isStyle_foreground c).solid.append (solid_rendition (by simp [IsParameters]))).append
      h).append isStyle_reset.solid

theorem Solid.muted {t : Text} (h : Solid t) (theme : Theme) : Solid (theme.muted t) :=
  h.paint theme.dim

end Styled

end AgentConsole
