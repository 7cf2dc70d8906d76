import AgentConsole.Proofs.Styled.Fit

/-!
# Styles in force

What a character looks like is decided by the renditions that stand before it, back to
the last reset.  `inForce` is the list of them after some tokens, and `dressed` shows
the characters of some tokens, each with the renditions that are in force at it.

A piece of a styled text looks the same elsewhere if the renditions in force at its
start are replayed there (`inForce_replay`, `dressed_replay`), and a reset in the right
place makes it end as it began (`inForce_closing`).
-/

namespace AgentConsole.Styled

/-- The renditions in force after one more token. -/
def inForceAfter (styles : List Text) : Token → List Text
  | .escape e => if isReset e then [] else if isRendition e then styles ++ [e] else styles
  | .glyph _ => styles

/-- The renditions in force after some tokens, the oldest first. -/
def inForce (styles : List Text) (ts : List Token) : List Text := ts.foldl inForceAfter styles

/-- A character, and the renditions in force at it. -/
abbrev Dressed := Char × List Text

/-- The characters that some tokens show, with the renditions in force at them. -/
def dressed (styles : List Text) : List Token → List Dressed
  | [] => []
  | .escape e :: ts => dressed (inForceAfter styles (.escape e)) ts
  | .glyph c :: ts => (c, styles) :: dressed styles ts

/-- The renditions in force at the end of a text that begins without any. -/
def stylesAtEnd (t : Text) : List Text := inForce [] (tokens t)

/-- The characters of a text that begins without renditions. -/
def glyphs (t : Text) : List Dressed := dressed [] (tokens t)

variable {styles : List Text} {ts us : List Token}

@[simp] theorem inForce_nil : inForce styles [] = styles := rfl

@[simp] theorem inForce_cons (k : Token) :
    inForce styles (k :: ts) = inForce (inForceAfter styles k) ts := rfl

@[simp] theorem inForce_append : inForce styles (ts ++ us) = inForce (inForce styles ts) us :=
  List.foldl_append

@[simp] theorem dressed_nil : dressed styles [] = [] := rfl

/-- The second part is dressed in what the first leaves in force. -/
theorem dressed_append :
    dressed styles (ts ++ us) = dressed styles ts ++ dressed (inForce styles ts) us := by
  induction ts generalizing styles with
  | nil => rfl
  | cons k ts ih =>
    cases k with
    | escape e => exact ih
    | glyph c => exact congrArg ((c, styles) :: ·) ih

/-- Undressed, the characters are what is shown. -/
theorem map_fst_dressed : (dressed styles ts).map Prod.fst = shown ts := by
  induction ts generalizing styles with
  | nil => rfl
  | cons k ts ih =>
    cases k with
    | escape e => exact ih
    | glyph c => exact congrArg (c :: ·) ih

theorem map_fst_glyphs (t : Text) : (glyphs t).map Prod.fst = strip t := map_fst_dressed

theorem stylesAtEnd_append {a : Text} (ha : Settled a) (b : Text) :
    stylesAtEnd (a ++ b) = inForce (stylesAtEnd a) (tokens b) := by
  unfold stylesAtEnd
  rw [tokens_append ha, inForce_append]

/-- The dressed characters, for texts put together. -/
theorem glyphs_append {a : Text} (ha : Settled a) (b : Text) :
    glyphs (a ++ b) = glyphs a ++ dressed (stylesAtEnd a) (tokens b) := by
  unfold glyphs
  rw [tokens_append ha, dressed_append]
  rfl

/-! ### Replaying -/

/-- Does the sequence stay in force until the next reset? -/
structure IsLasting (e : Text) : Prop where
  solid : (Token.escape e).IsSolid
  rendition : isRendition e = true
  notReset : isReset e = false

theorem IsLasting.ne_nil {e : Text} (h : IsLasting e) : e ≠ [] := by
  rintro rfl
  exact absurd h.rendition (by decide)

/-- What is in force after solid tokens came from renditions among them. -/
theorem forall_isLasting_inForce (hstyles : ∀ e ∈ styles, IsLasting e)
    (hts : ∀ k ∈ ts, k.IsSolid) : ∀ e ∈ inForce styles ts, IsLasting e := by
  induction ts generalizing styles with
  | nil => exact hstyles
  | cons k ts ih =>
    refine ih ?_ fun l hl => hts l (List.mem_cons_of_mem _ hl)
    cases k with
    | glyph c => exact hstyles
    | escape e =>
      intro d hd
      simp only [inForceAfter] at hd
      -- a reset leaves none, and of the others only a rendition joins them
      split at hd
      · exact absurd hd List.not_mem_nil
      · split at hd
        · rename_i hreset hrendition
          rcases List.mem_append.mp hd with hd | hd
          · exact hstyles d hd
          · obtain rfl := List.mem_singleton.mp hd
            exact ⟨hts _ List.mem_cons_self, hrendition, by simpa using hreset⟩
        · exact hstyles d hd

theorem newline_notMem_flatten {es : List Text} (h : ∀ e ∈ es, IsLasting e) : '\n' ∉ es.flatten := by
  intro hmem
  obtain ⟨e, he, hnewline⟩ := List.mem_flatten.mp hmem
  exact (h e he).solid.2.2 e rfl hnewline

/-- The styles in force, written out, are what the program keeps as one string. -/
theorem flatten_inForceAfter (e : Text) :
    (inForceAfter styles (.escape e)).flatten
      = if isReset e then [] else if isRendition e then styles.flatten ++ e else styles.flatten := by
  unfold inForceAfter
  dsimp only
  split
  · rfl
  · split <;> simp

/-- Renditions in a row are in force one after the other. -/
theorem inForce_renditions {es : List Text} (h : ∀ e ∈ es, IsLasting e) :
    inForce styles (es.map .escape) = styles ++ es := by
  induction es generalizing styles with
  | nil => exact (List.append_nil styles).symm
  | cons e es ih =>
    have he := h e List.mem_cons_self
    have hafter : inForceAfter styles (.escape e) = styles ++ [e] := by
      simp [inForceAfter, he.rendition, he.notReset]
    rw [List.map_cons, inForce_cons, hafter, ih fun d hd => h d (List.mem_cons_of_mem _ hd),
      List.append_assoc]
    rfl

theorem dressed_renditions (es : List Text) : dressed styles (es.map .escape) = [] := by
  induction es generalizing styles with
  | nil => rfl
  | cons e es ih => exact ih

/-- Lasting styles, written out, are read as these styles. -/
theorem tokens_flatten {es : List Text} (h : ∀ e ∈ es, IsLasting e) :
    tokens es.flatten = es.map .escape := by
  have hsources : sources (es.map .escape) = es.flatten := by
    induction es with
    | nil => rfl
    | cons e es ih =>
      show e ++ sources (es.map .escape) = _
      rw [ih fun d hd => h d (List.mem_cons_of_mem _ hd), List.flatten_cons]
  rw [← hsources]
  refine tokens_sources fun k hk => ?_
  obtain ⟨e, he, rfl⟩ := List.mem_map.mp hk
  exact (h e he).solid

theorem solid_flatten {es : List Text} (h : ∀ e ∈ es, IsLasting e) : Solid es.flatten := by
  intro k hk
  rw [tokens_flatten h] at hk
  obtain ⟨e, he, rfl⟩ := List.mem_map.mp hk
  exact (h e he).solid

/-- Where the renditions are replayed, the same ones are in force at the end. -/
theorem inForce_replay {es : List Text} (h : ∀ e ∈ es, IsLasting e) (t : Text) :
    stylesAtEnd (es.flatten ++ t) = inForce es (tokens t) := by
  unfold stylesAtEnd
  rw [tokens_append (solid_flatten h).settled, inForce_append, tokens_flatten h,
    inForce_renditions h, List.nil_append]

/-- Where the renditions are replayed, a text looks as it did where they were in force. -/
theorem dressed_replay {es : List Text} (h : ∀ e ∈ es, IsLasting e) (t : Text) :
    glyphs (es.flatten ++ t) = dressed es (tokens t) := by
  unfold glyphs
  rw [tokens_append (solid_flatten h).settled, dressed_append, tokens_flatten h, dressed_renditions,
    inForce_renditions h, List.nil_append]
  rfl

/-- What closes a row gives up whatever is in force at its end. -/
theorem inForce_closing (h : ∀ e ∈ styles, IsLasting e) :
    inForce styles (tokens (closing (!styles.flatten.isEmpty))) = [] := by
  rcases styles with - | ⟨e, es⟩
  · rfl
  · have hne : (e :: es).flatten.isEmpty = false := by
      simp [(h e List.mem_cons_self).ne_nil]
    rw [hne]
    have hreset : tokens (closing true) = [.escape reset] := isSolid_reset.1
    simp only [Bool.not_false, hreset]
    rfl

/-- A row has to be closed if a rendition is in force. -/
theorem styledAfter_isEmpty (e : Text) : styledAfter (!styles.flatten.isEmpty) e
    = !(inForceAfter styles (.escape e)).flatten.isEmpty := by
  rw [flatten_inForceAfter]
  unfold styledAfter
  by_cases hreset : isReset e
  · simp [hreset]
  · by_cases hrendition : isRendition e
    · have hne : e ≠ [] := by
        rintro rfl
        exact absurd hrendition (by decide)
      simp [hreset, hrendition, hne]
    · simp [hreset, hrendition]

/-- The flag of the program says whether any style is in force. -/
theorem styledOver_isEmpty : styledOver (!styles.flatten.isEmpty) ts
    = !(inForce styles ts).flatten.isEmpty := by
  induction ts generalizing styles with
  | nil => rfl
  | cons k ts ih =>
    cases k with
    | escape e =>
      show styledOver (styledAfter (!styles.flatten.isEmpty) e) ts = _
      rw [styledAfter_isEmpty, ih, inForce_cons]
    | glyph c => exact ih

/-- Solid tokens that are closed leave no style in force. -/
theorem stylesAtEnd_closed (h : ∀ k ∈ ts, k.IsSolid) :
    stylesAtEnd (sources ts ++ closing (styledOver false ts)) = [] := by
  have hlasting : ∀ e ∈ inForce [] ts, IsLasting e :=
    forall_isLasting_inForce (fun _ he => absurd he List.not_mem_nil) h
  have hstyled : styledOver false ts = !(inForce [] ts).flatten.isEmpty := @styledOver_isEmpty [] ts
  rw [stylesAtEnd_append (settled_sources h), stylesAtEnd, tokens_sources h, hstyled]
  exact inForce_closing hlasting

theorem dressed_closing (styled : Bool) : dressed styles (tokens (closing styled)) = [] := by
  cases styled <;> rfl

end AgentConsole.Styled
