import AgentConsole.Proofs.Styled.Token
import AgentConsole.Proofs.Text.Rows
import AgentConsole.Styled.Plain
import AgentConsole.Text.Case

/-!
# Inert texts

A character is *inert* if it does nothing to a terminal: it is no control, or it is
the newline between two rows.  Sanitizing a text leaves inert characters only
(`isInert_sanitize`), and texts stay inert when they are cut, joined or put in upper
case (`IsInert.upper`).
-/

namespace AgentConsole

/-- Does the character leave the terminal alone, apart from ending a row? -/
def Unicode.IsInert (c : Char) : Prop := Unicode.isControl c → c = '\n'

instance (c : Char) : Decidable (Unicode.IsInert c) :=
  inferInstanceAs (Decidable (Unicode.isControl c → c = '\n'))

namespace Text

open Unicode

/-- Are all characters of the text inert? -/
def IsInert (t : Text) : Prop := ∀ c ∈ t, Unicode.IsInert c

/-! ### Cutting and joining -/

theorem IsInert.nil : IsInert [] := by
  intro c hc
  simp at hc

theorem IsInert.subset {s t : Text} (h : IsInert t) (hs : s ⊆ t) : IsInert s :=
  fun c hc => h c (hs hc)

theorem IsInert.cons {c : Char} {t : Text} (h : IsInert t) (hc : Unicode.IsInert c) :
    IsInert (c :: t) := by
  intro d hd
  rcases List.mem_cons.mp hd with rfl | hd
  · exact hc
  · exact h d hd

theorem IsInert.append {s t : Text} (hs : IsInert s) (ht : IsInert t) : IsInert (s ++ t) := by
  intro c hc
  rcases List.mem_append.mp hc with hc | hc
  · exact hs c hc
  · exact ht c hc

theorem IsInert.flatten {ts : List Text} (h : ∀ t ∈ ts, IsInert t) : IsInert ts.flatten := by
  intro c hc
  obtain ⟨t, ht, hct⟩ := List.mem_flatten.mp hc
  exact h t ht c hct

theorem isInert_replicate {c : Char} (hc : Unicode.IsInert c) (n : Nat) :
    IsInert (List.replicate n c) := by
  intro d hd
  obtain rfl := List.eq_of_mem_replicate hd
  exact hc

theorem isInert_spaces (n : Nat) : IsInert (spaces n) := isInert_replicate (by decide) n

theorem IsInert.times {t : Text} (h : IsInert t) (n : Nat) : IsInert (times n t) :=
  fun c hc => h c (mem_times hc)

/-- Numbers are inert. -/
theorem isInert_ofNat (n : Nat) : IsInert (ofNat n) := by
  intro c hc hcontrol
  have hdigit := Nat.isDigit_of_mem_toDigits (by decide) (by decide) hc
  simp only [Char.isDigit, Bool.and_eq_true, decide_eq_true_eq, UInt32.le_iff_toNat_le] at hdigit
  have hlow : 48 ≤ c.toNat := hdigit.1
  have hhigh : c.toNat ≤ 57 := hdigit.2
  simp [isControl] at hcontrol
  omega

/-! ### Foreign text -/

/-- Nothing of a sanitized text acts on the terminal. -/
theorem isInert_sanitize (t : Text) : IsInert (Styled.sanitize t) := by
  intro c hc
  obtain ⟨d, hd, rfl⟩ := List.mem_map.mp hc
  have hkept := (List.mem_filter.mp hd).2
  simp only [Bool.or_eq_true, decide_eq_true_eq, Bool.not_eq_true'] at hkept
  rcases hkept with (rfl | rfl) | hcontrol
  · decide
  · decide
  · intro h
    by_cases htab : d = '\t'
    · subst htab
      simp [isControl] at hcontrol
    · simp [htab, hcontrol] at h

/-- Does the text hold no controls at all? -/
def IsPlain (t : Text) : Prop := ∀ c ∈ t, Unicode.isControl c = false

theorem IsPlain.notMem {t : Text} (h : IsPlain t) {c : Char} (hc : Unicode.isControl c) : c ∉ t := by
  intro hmem
  rw [h c hmem] at hc
  cases hc

/-- Sanitizing a text brings in nothing but the spaces that tabs become. -/
theorem mem_sanitize {t : Text} {c : Char} (h : c ∈ Styled.sanitize t) : c ∈ t ∨ c = ' ' := by
  obtain ⟨d, hd, rfl⟩ := List.mem_map.mp h
  by_cases htab : d = '\t'
  · exact .inr (if_pos htab)
  · rw [if_neg htab]
    exact .inl (Styled.mem_of_mem_strip (List.mem_filter.mp hd).1)

/-- A sanitized line holds no controls. -/
theorem isPlain_sanitize {t : Text} (h : '\n' ∉ t) : IsPlain (Styled.sanitize t) := by
  have hinert := isInert_sanitize t
  intro c hc
  refine Bool.eq_false_iff.mpr fun hcontrol => ?_
  obtain rfl := hinert c hc hcontrol
  rcases mem_sanitize hc with hmem | hspace
  · exact h hmem
  · exact absurd hspace (by decide)

theorem tab_notMem_of_isInert {t : Text} (h : IsInert t) : '\t' ∉ t := by
  intro htab
  exact absurd (h '\t' htab) (by decide)

theorem return_notMem_of_isInert {t : Text} (h : IsInert t) : '\r' ∉ t := by
  intro hreturn
  exact absurd (h '\r' hreturn) (by decide)

/-! ### Upper case -/

/-- Are all images of a rule characters that are no controls? -/
def landsInert : Nat × Nat × Nat × Int → Bool
  | (first, last, _, shift) =>
    let low := first + shift
    let high := last + shift
    (0x20 ≤ low && high < 0x7F) || (0xA0 ≤ low && high < 0xD800) || (0xDFFF < low && high < 0x110000)

theorem landsInert_upperMap : ∀ rule ∈ upperMap.rules.toList, landsInert rule := by
  decide +kernel

theorem isInert_long_upperMap : ∀ entry ∈ upperMap.long, IsInert (entry.2.map Char.ofNat) := by
  have h : ∀ entry ∈ upperMap.long, ∀ n ∈ entry.2, Unicode.IsInert (Char.ofNat n) := by
    decide +kernel
  intro entry hentry c hc
  obtain ⟨n, hn, rfl⟩ := List.mem_map.mp hc
  exact h entry hentry n hn

/-- The rule that is found is one of the map, and `n` is in its range. -/
theorem mem_of_find {m : CaseMap} {n lo hi : Nat} {r : CaseRule} (h : m.find n lo hi = some r) :
    (r.first, r.last, r.step, r.shift) ∈ m.rules.toList ∧ r.first ≤ n ∧ n ≤ r.last := by
  fun_induction CaseMap.find m n lo hi with
  | case1 => simp at h
  | case2 _ _ _ _ _ _ _ _ _ _ ih => exact ih h
  | case3 _ _ _ _ _ _ _ _ _ _ _ ih => exact ih h
  | case4 lo hi hlt mid first last step shift hrule hfirst hlast =>
    obtain rfl := Option.some.inj h
    refine ⟨?_, Nat.le_of_not_lt hfirst, Nat.le_of_not_lt hlast⟩
    exact Array.mem_toList_iff.mpr (Array.mem_of_getElem? hrule)
  | case5 => simp at h

/-- Where the ends of a rule land outside the controls, all of it does. -/
theorem isInert_ofNat_of_landsInert {r : CaseRule} {n : Nat}
    (h : landsInert (r.first, r.last, r.step, r.shift)) (hfirst : r.first ≤ n) (hlast : n ≤ r.last) :
    Unicode.IsInert (Char.ofNat (n + r.shift).toNat) := by
  intro hcontrol
  simp only [landsInert, Bool.or_eq_true, Bool.and_eq_true, decide_eq_true_eq] at h
  have hvalid : (n + r.shift).toNat.isValidChar := by
    simp only [Nat.isValidChar]
    omega
  have hcode : (Char.ofNat (n + r.shift).toNat).toNat = (n + r.shift).toNat := by
    rw [Char.ofNat, dif_pos hvalid]
    rfl
  simp only [isControl, hcode, Bool.or_eq_true, Bool.and_eq_true, decide_eq_true_eq] at hcontrol
  omega

/-- The images of a character are inert, where they are other characters. -/
theorem mem_apply_upperMap {c d : Char} (h : d ∈ upperMap.apply c) : d = c ∨ Unicode.IsInert d := by
  unfold CaseMap.apply at h
  split at h
  · rename_i image hfind
    exact .inr (isInert_long_upperMap _ (List.mem_of_find?_eq_some hfind) d h)
  · split at h
    · rename_i r hfind
      obtain ⟨hrule, hfirst, hlast⟩ := mem_of_find hfind
      split at h
      · obtain rfl := List.mem_singleton.mp h
        exact .inr (isInert_ofNat_of_landsInert (landsInert_upperMap _ hrule) hfirst hlast)
      · exact .inl (List.mem_singleton.mp h)
    · exact .inl (List.mem_singleton.mp h)

/-- An ASCII character is inert in upper case, or stays. -/
theorem toUpper_eq_or_isInert {c : Char} (hsmall : c.toNat < 0x80) :
    c.toUpper = c ∨ Unicode.IsInert c.toUpper := by
  have hall : ∀ n < 0x80, (Char.ofNat n).toUpper = Char.ofNat n
      ∨ Unicode.IsInert (Char.ofNat n).toUpper := by
    decide
  have := hall c.toNat hsmall
  rwa [Char.ofNat_toNat] at this

/-- Upper case brings in inert characters only. -/
theorem mem_upperChar {c d : Char} (h : d ∈ Unicode.upperChar c) : d = c ∨ Unicode.IsInert d := by
  unfold upperChar at h
  split at h
  · rename_i hsmall
    obtain rfl := List.mem_singleton.mp h
    exact toUpper_eq_or_isInert hsmall
  · exact mem_apply_upperMap h

/-- Upper case brings in no escape. -/
theorem ne_esc_of_mem_upperChar {c d : Char} (hc : c ≠ Styled.esc) (h : d ∈ Unicode.upperChar c) :
    d ≠ Styled.esc := by
  rintro rfl
  rcases mem_upperChar h with heq | hinert
  · exact hc heq.symm
  · exact absurd hinert (by decide)

/-- Upper case makes no control of a character that is none. -/
theorem IsInert.upper {t : Text} (h : IsInert t) : IsInert t.upper := by
  intro c hc
  obtain ⟨d, hd, hcd⟩ := List.mem_flatMap.mp hc
  rcases mem_upperChar hcd with rfl | hinert
  · exact h _ hd
  · exact hinert

end Text

end AgentConsole
