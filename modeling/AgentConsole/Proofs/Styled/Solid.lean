import AgentConsole.Proofs.Styled.Token
import AgentConsole.Proofs.Text.Rows

/-!
# Solid texts

A text is *solid* if every token of it reads as itself wherever it stands: its
escape sequences are finished, and none of them runs over a newline.  Solid texts
may be put side by side, cut between two tokens and split into rows, and what
comes out is solid again.  All that is drawn is built in this way, so whatever a
painter does to solid texts, no sequence is ever left open.
-/

namespace AgentConsole

open Styled

namespace Token

/-- Does the token read as itself, whatever follows it, and on one row? -/
def IsSolid (k : Token) : Prop :=
  tokens k.source = [k] ∧ Settled k.source ∧ ∀ s, k = .escape s → '\n' ∉ s

theorem isSolid_glyph {c : Char} (h : c ≠ esc) : (glyph c).IsSolid :=
  ⟨by simp [source, tokens, scan, h], by simp [source, Settled, Scan.next, h], by simp⟩

theorem IsSolid.ne_esc {c : Char} (h : (glyph c).IsSolid) : c ≠ esc := by
  rintro rfl
  simpa [source, Settled, Scan.next] using h.2.1

end Token

namespace Styled

/-- Is every token of the text solid? -/
def Solid (t : Text) : Prop := ∀ k ∈ tokens t, k.IsSolid

/-! ### Solid tokens side by side -/

/-- Whole tokens leave nothing open. -/
theorem settled_sources {ts : List Token} (h : ∀ k ∈ ts, k.IsSolid) : Settled (sources ts) := by
  induction ts with
  | nil => exact Settled.nil
  | cons k ts ih =>
    exact (h k List.mem_cons_self).2.1.append (ih fun l hl => h l (List.mem_cons_of_mem _ hl))

/-- Solid tokens are read back as they are. -/
theorem tokens_sources {ts : List Token} (h : ∀ k ∈ ts, k.IsSolid) : tokens (sources ts) = ts := by
  induction ts with
  | nil => rfl
  | cons k ts ih =>
    obtain ⟨hk, hsettled, -⟩ := h k List.mem_cons_self
    have hts := ih fun l hl => h l (List.mem_cons_of_mem _ hl)
    show tokens (k.source ++ sources ts) = k :: ts
    rw [tokens_append hsettled, hk, hts]
    rfl

theorem solid_sources {ts : List Token} (h : ∀ k ∈ ts, k.IsSolid) : Solid (sources ts) := by
  intro k hk
  rw [tokens_sources h] at hk
  exact h k hk

theorem Solid.settled {t : Text} (h : Solid t) : Settled t := by
  have := settled_sources h
  rwa [sources_tokens] at this

theorem Solid.nil : Solid [] := by
  intro k hk
  simp [tokens, scan] at hk

/-- Solid texts can be put one behind another. -/
theorem Solid.append {a b : Text} (ha : Solid a) (hb : Solid b) : Solid (a ++ b) := by
  intro k hk
  rw [tokens_append ha.settled] at hk
  rcases List.mem_append.mp hk with hk | hk
  · exact ha k hk
  · exact hb k hk

theorem Solid.cons {c : Char} {t : Text} (hc : c ≠ esc) (h : Solid t) : Solid (c :: t) := by
  have hone : Solid (sources [.glyph c]) := solid_sources (by simpa using Token.isSolid_glyph hc)
  exact hone.append h

theorem Solid.one {c : Char} (hc : c ≠ esc) : Solid [c] := Solid.nil.cons hc

/-- Any number of them can. -/
theorem Solid.flatten {ts : List Text} (h : ∀ t ∈ ts, Solid t) : Solid ts.flatten := by
  induction ts with
  | nil => exact Solid.nil
  | cons t ts ih =>
    exact (h t List.mem_cons_self).append (ih fun u hu => h u (List.mem_cons_of_mem _ hu))

/-- A text without escape characters is solid: all of it is shown. -/
theorem solid_of_notMem {t : Text} (h : esc ∉ t) : Solid t := by
  induction t with
  | nil => exact Solid.nil
  | cons c t ih =>
    simp only [List.mem_cons, not_or] at h
    exact Solid.cons (Ne.symm h.1) (ih h.2)

/-- The words of a literal: `decide` need not decode them. -/
theorem solid_literal {t : Text} (h : esc ∉ t) : Solid (String.ofList t).toList :=
  solid_of_notMem (Text.notMem_literal h)

/-- Without escapes, each character is a token. -/
theorem tokens_of_notMem {t : Text} (h : esc ∉ t) : tokens t = t.map .glyph := by
  induction t with
  | nil => rfl
  | cons c t ih =>
    simp only [List.mem_cons, not_or] at h
    simp [tokens, scan, Ne.symm h.1]
    exact ih h.2

theorem tokens_cons {c : Char} (hc : c ≠ esc) (t : Text) : tokens (c :: t) = .glyph c :: tokens t :=
  if_neg hc

theorem rowWidth_cons {c : Char} (hc : c ≠ esc) (t : Text) :
    rowWidth (c :: t) = Unicode.columns c + rowWidth t := by
  rw [rowWidth_eq, tokens_cons hc]
  rfl

/-! ### Settled rows -/

/-- Has the reader come to this state by reading what is pending? -/
def Scan.IsReached (s : Scan) : Prop :=
  Scan.ground.after s.pending = s ∧ ∀ t, scan .ground (s.pending ++ t) = scan s t

/-- Within an escape, each character that is read is remembered. -/
theorem Scan.pending_next {s : Scan} {c : Char} (h : s.next c ≠ .ground) :
    (s.next c).pending = s.pending ++ [c] := by
  -- each state looks at other characters, and all of them append what they do not end at
  cases s with
  | ground => by_cases hc : c = esc <;> simp_all [Scan.next, Scan.pending]
  | introduced =>
    by_cases hc : c = '['
    · simp [Scan.next, Scan.pending, hc]
    · by_cases hc' : c = ']' <;> simp_all [Scan.next, Scan.pending]
  | control read => cases hc : isFinal c <;> simp_all [Scan.next, Scan.pending]
  | command read =>
    by_cases hc : c = '\x07'
    · simp [Scan.next, hc] at h
    · by_cases hc' : c = esc
      · subst hc'
        simp [Scan.next, Scan.pending, hc]
      · simp [Scan.next, Scan.pending, hc, hc']
  | commandEscape read =>
    by_cases hc : c = '\x07' ∨ c = '\\'
    · simp [Scan.next, hc] at h
    · by_cases hc' : c = esc
      · subst hc'
        simp_all [Scan.next, Scan.pending]
      · simp_all [Scan.next, Scan.pending]

/-- What can be reached can be reached from there. -/
theorem Scan.IsReached.next {s : Scan} (hs : s.IsReached) {c : Char} (hc : s.next c ≠ .ground) :
    (s.next c).IsReached := by
  refine ⟨?_, fun t => ?_⟩
  · rw [Scan.pending_next hc, Scan.after_append, hs.1]
    rfl
  · rw [Scan.pending_next hc, List.append_assoc, List.singleton_append, hs.2, scan_cons_open hc]

theorem Scan.source_token (s : Scan) (c : Char) : (s.token c).source = s.pending ++ [c] := by
  cases s <;> rfl

/-- A token at whose end the reader is back at `ground` reads as itself. -/
theorem Scan.IsReached.token {s : Scan} (hs : s.IsReached) {c : Char} (hc : s.next c = .ground) :
    tokens (s.token c).source = [s.token c] ∧ Settled (s.token c).source := by
  rw [Scan.source_token]
  refine ⟨?_, ?_⟩
  · unfold tokens
    rw [hs.2, scan_cons_ground hc]
    rfl
  · unfold Settled
    rw [Scan.after_append, hs.1, Scan.after_cons, hc]
    rfl

/-- A token reads as itself if another one stands behind it, or if the text ends between two tokens. -/
theorem forall_mem_scan {s : Scan} (hs : s.IsReached) {t : Text} {us vs : List Token}
    (hsplit : scan s t = us ++ vs) (hend : vs ≠ [] ∨ s.after t = .ground) :
    ∀ k ∈ us, tokens k.source = [k] ∧ Settled k.source := by
  -- from one token to the next, `s` being reached by what is pending of the token
  induction t generalizing s us with
  | nil =>
    rcases us with - | ⟨k, us⟩
    · simp
    · -- one sequence is left open at the most, and it is the last token
      exfalso
      cases s with
      | ground => simp [scan] at hsplit
      | _ => simp [scan] at hsplit; simp [hsplit] at hend
  | cons c t ih =>
    by_cases hc : s.next c = .ground
    · rw [Scan.after_cons, hc] at hend
      rw [scan_cons_ground hc] at hsplit
      rcases us with - | ⟨k, us⟩
      · simp
      · obtain ⟨rfl, hrest⟩ := List.cons.inj hsplit
        intro l hl
        rcases List.mem_cons.mp hl with rfl | hl
        · exact hs.token hc
        · exact ih ⟨rfl, fun _ => rfl⟩ hrest hend l hl
    · rw [scan_cons_open hc] at hsplit
      exact ih (hs.next hc) hsplit hend

/-- An escape sequence on a single row holds no newline. -/
theorem newline_notMem_escape {t : Text} (ht : '\n' ∉ t) {e : Text} (he : Token.escape e ∈ tokens t) :
    '\n' ∉ e := by
  intro hmem
  have : '\n' ∈ sources (tokens t) := List.mem_flatMap.mpr ⟨_, he, hmem⟩
  exact ht (sources_tokens t ▸ this)

/-- Only the last token of a single row may be anything but solid. -/
theorem forall_isSolid_of_split {t : Text} (ht : '\n' ∉ t) {us vs : List Token}
    (hsplit : tokens t = us ++ vs) (hend : vs ≠ [] ∨ Settled t) : ∀ k ∈ us, k.IsSolid := by
  intro k hk
  obtain ⟨hself, hsettled⟩ := forall_mem_scan (s := .ground) ⟨rfl, fun _ => rfl⟩ hsplit hend k hk
  refine ⟨hself, hsettled, ?_⟩
  rintro e rfl
  exact newline_notMem_escape ht (by simp [hsplit, hk])

/-- On a single row, settled is all there is to solid. -/
theorem Settled.solid {t : Text} (h : Settled t) (ht : '\n' ∉ t) : Solid t :=
  forall_isSolid_of_split ht (List.append_nil _).symm (.inr h)

theorem EscapeComplete.solid {t : Text} (h : EscapeComplete t) (ht : '\n' ∉ t) : Solid t :=
  ((settled_iff t).mpr h).solid ht

theorem Solid.escapeComplete {t : Text} (h : Solid t) : EscapeComplete t := (settled_iff t).mp h.settled

/-! ### Rows -/

/-- The rows of whole tokens are made of whole tokens. -/
theorem solid_rows_sources {ts : List Token} (h : ∀ k ∈ ts, k.IsSolid) :
    ∀ row ∈ (sources ts).rows, Solid row := by
  induction ts with
  | nil =>
    intro row hrow
    obtain rfl : row = [] := by simpa [sources] using hrow
    exact Solid.nil
  | cons k ts ih =>
    have hk := h k List.mem_cons_self
    have hts := ih fun l hl => h l (List.mem_cons_of_mem _ hl)
    obtain ⟨first, below, hrows⟩ := Text.exists_rows (sources ts)
    rw [hrows] at hts
    show ∀ row ∈ (k.source ++ sources ts).rows, Solid row
    -- a newline ends the first row; any other token stands in front of it
    by_cases hnl : k = .glyph '\n'
    · subst hnl
      intro row hrow
      rcases List.mem_cons.mp (Text.rows_newline _ ▸ hrow) with rfl | hrow
      · exact Solid.nil
      · exact hts row (hrows ▸ hrow)
    · have hsource : '\n' ∉ k.source := by
        cases k with
        | escape s => exact hk.2.2 s rfl
        | glyph c => simpa [Token.source, eq_comm] using hnl
      rw [Text.rows_append hsource hrows]
      intro row hrow
      rcases List.mem_cons.mp hrow with rfl | hrow
      · have hself : Solid k.source := by
          intro l hl
          rw [hk.1] at hl
          exact (List.mem_singleton.mp hl) ▸ hk
        exact hself.append (hts first List.mem_cons_self)
      · exact hts row (List.mem_cons_of_mem _ hrow)

/-- The rows of a solid text are solid. -/
theorem Solid.rows {t : Text} (h : Solid t) : ∀ row ∈ t.rows, Solid row := by
  have := solid_rows_sources h
  rwa [sources_tokens] at this

theorem newline_ne_esc : '\n' ≠ esc := by decide

theorem solid_ofRows {rs : List Text} (h : ∀ row ∈ rs, Solid row) : Solid (Text.ofRows rs) := by
  induction rs with
  | nil => exact Solid.nil
  | cons row below ih =>
    have hrow := h row List.mem_cons_self
    by_cases hne : below = []
    · subst hne
      exact hrow
    · rw [Text.ofRows_cons row hne]
      exact hrow.append (Solid.cons newline_ne_esc (ih fun r hr => h r (List.mem_cons_of_mem _ hr)))

end Styled

end AgentConsole
