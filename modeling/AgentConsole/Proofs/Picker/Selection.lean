import AgentConsole.Proofs.Picker.Keys

/-!
# What a picker shows and what it has selected

The selection of a picker is a place in what it shows, and what it shows changes
with the query, so every operation has to bring the two together again.  Three
things are kept by all of them:

* the filter is the list of the rows that match the query (`IsCoherent.filter`),
  and there is none while the query is empty;
* an entry is selected, unless there is none to select (`IsCoherent.selected`,
  `IsCoherent.unselected`);
* the view holds the selected row and does not run past the end (`IsInView`).

Dropping the filter goes back to places in the whole list.  For that the anchor
counts too: where nothing matches, it is what gets selected, and so it is always the
place of an entry (`IsPointed.anchor`).

The main result is `isConsistent_run`: whatever is done to a picker, in whatever order, the
filter, the selection and the view are as its user sees them described
(`Picker.IsConsistent`).
-/

namespace AgentConsole

/-! ### Infixes -/

/-- A text has exactly its infixes. -/
theorem Text.hasInfix_iff {t pattern : Text} : t.hasInfix pattern ↔ pattern <:+: t := by
  induction t with
  | nil => simp [hasInfix]
  | cons c rest ih => simp [hasInfix, List.infix_cons_iff, ih]

namespace Picker

variable {p : Picker}

/-! ### Looking for an entry -/

/-- What a search upwards finds lies ahead and is right. -/
theorem seek_eq_some {q : Nat → Bool} {i n j : Nat} (h : seek q i n = some j) :
    q j ∧ i ≤ j ∧ j < i + n := by
  induction n generalizing i with
  | zero => exact absurd h (Option.some_ne_none j).symm
  | succ n ih =>
    unfold seek at h
    split at h
    · rename_i hi
      obtain rfl := Option.some.inj h
      exact ⟨hi, Nat.le_refl i, by omega⟩
    · obtain ⟨hq, hle, hlt⟩ := ih h
      exact ⟨hq, by omega, by omega⟩

/-- If it finds nothing, nothing right lies ahead. -/
theorem seek_eq_none {q : Nat → Bool} {i n : Nat} (h : seek q i n = none) {j : Nat}
    (hle : i ≤ j) (hlt : j < i + n) : ¬ q j := by
  induction n generalizing i with
  | zero => omega
  | succ n ih =>
    unfold seek at h
    split at h
    · exact absurd h (Option.some_ne_none i)
    · rename_i hi
      rcases Nat.eq_or_lt_of_le hle with rfl | hlt'
      · exact hi
      · exact ih h hlt' (by omega)

/-- What a search downwards finds lies behind and is right. -/
theorem seekBack_eq_some {q : Nat → Bool} {i j : Nat} (h : seekBack q i = some j) :
    q j ∧ j < i := by
  induction i with
  | zero => exact absurd h (Option.some_ne_none j).symm
  | succ i ih =>
    unfold seekBack at h
    split at h
    · rename_i hi
      obtain rfl := Option.some.inj h
      exact ⟨hi, Nat.lt_succ_self i⟩
    · obtain ⟨hq, hlt⟩ := ih h
      exact ⟨hq, Nat.lt_succ_of_lt hlt⟩

/-- If it finds nothing, nothing right lies behind. -/
theorem seekBack_eq_none {q : Nat → Bool} {i j : Nat} (h : seekBack q i = none) (hlt : j < i) :
    ¬ q j := by
  induction i with
  | zero => omega
  | succ i ih =>
    unfold seekBack at h
    split at h
    · exact absurd h (Option.some_ne_none i)
    · rename_i hi
      rcases Nat.eq_or_lt_of_le (Nat.le_of_lt_succ hlt) with rfl | hlt'
      · exact hi
      · exact ih h hlt'

/-! ### Entries -/

/-- Is there an entry at this place of the whole list? -/
def isEntry (p : Picker) (k : Nat) : Bool := (p.items[k]?).any Item.isChoice

/-- Only shown rows are entries to select. -/
theorem lt_size_of_isChoiceAt {i : Nat} (h : p.isChoiceAt i) : i < p.size := by
  obtain ⟨item, hitem, -⟩ := (Option.any_eq_true _ _).mp h
  obtain ⟨k, hk, -⟩ := Option.bind_eq_some_iff.mp hitem
  unfold position? at hk
  unfold size
  split at hk
  · exact (Array.getElem?_eq_some_iff.mp hk).1
  · split at hk
    · assumption
    · exact absurd hk (Option.some_ne_none k).symm

/-- A shown row is an entry where its place in the whole list is one. -/
theorem isChoiceAt_iff {i : Nat} :
    p.isChoiceAt i ↔ ∃ k, p.position? i = some k ∧ p.isEntry k := by
  unfold isChoiceAt item? isEntry
  rcases p.position? i with - | k
  · simp
  · simp

theorem isChoiceAt_of_filter_none (h : p.filter = none) (i : Nat) :
    p.isChoiceAt i = p.isEntry i := by
  unfold isChoiceAt item? position? isEntry
  rw [h]
  by_cases hi : i < p.items.size
  · simp [hi]
  · simp [hi]

/-- What is found near a place is an entry. -/
theorem isChoiceAt_of_nearest {i j : Nat} (h : p.nearest i = some j) : p.isChoiceAt j := by
  rcases Option.or_eq_some_iff.mp h with h | ⟨-, h⟩
  · exact (seek_eq_some h).1
  · exact (seekBack_eq_some h).1

/-- Where nothing is found there is no entry at all. -/
theorem not_isChoiceAt_of_nearest {i : Nat} (h : p.nearest i = none) (j : Nat) :
    ¬ p.isChoiceAt j := by
  obtain ⟨hafter, hbefore⟩ := Option.or_eq_none_iff.mp h
  intro hj
  have hlt := lt_size_of_isChoiceAt hj
  by_cases hij : i ≤ j
  · exact seek_eq_none hafter hij (by omega) hj
  · exact seekBack_eq_none hbefore (by omega) hj

/-- Steps from entry to entry end at an entry. -/
theorem isChoiceAt_walk {next : Nat → Option Nat}
    (hnext : ∀ i j, next i = some j → p.isChoiceAt j) (n : Nat) {i : Nat} (hi : p.isChoiceAt i) :
    p.isChoiceAt (walk next n i) := by
  induction n generalizing i with
  | zero => exact hi
  | succ n ih =>
    unfold walk
    split
    · exact hi
    · exact ih (hnext _ _ ‹_›)

/-! ### What all operations keep -/

/-- The places in the whole list whose rows match the query. -/
def matching (p : Picker) : Array Nat :=
  (Array.range p.items.size).filter fun i => (p.items[i]?).any (Matches p.query.lower)

/-- The selection and the anchor are places of entries, and the view has a row. -/
structure IsPointed (p : Picker) : Prop where
  selected : ∀ i, p.selected = some i → p.isChoiceAt i
  anchor : ∀ k, p.anchor = some k → p.isEntry k
  capacity : 0 < p.capacity

/-- The filter goes with the query, and the selection with what is shown. -/
structure IsCoherent (p : Picker) : Prop extends p.IsPointed where
  filter : p.filter = if p.query = [] then none else some p.matching
  unselected : p.selected = none → ∀ i, ¬ p.isChoiceAt i

/-- The view holds the selected row and does not run past the end. -/
structure IsInView (p : Picker) : Prop where
  scroll_le : p.scroll ≤ p.size - p.capacity
  visible : ∀ i, p.selected = some i → p.scroll ≤ i ∧ i < p.scroll + p.capacity

/-- What all operations keep. -/
structure IsOrderly (p : Picker) : Prop extends p.IsCoherent, p.IsInView

/-- There is a filter if something is typed. -/
theorem IsCoherent.filter_eq_none_iff (h : p.IsCoherent) : p.filter = none ↔ p.query = [] := by
  rw [h.filter]
  split
  · exact iff_of_true rfl ‹_›
  · exact iff_of_false (Option.some_ne_none _) ‹_›

theorem IsCoherent.eq_matching (h : p.IsCoherent) {rows : Array Nat} (hrows : p.filter = some rows) :
    rows = p.matching := by
  have hquery : p.query ≠ [] := mt h.filter_eq_none_iff.mpr (hrows ▸ Option.some_ne_none rows)
  rw [h.filter, if_neg hquery] at hrows
  exact (Option.some.inj hrows).symm

/-- A selection that the filter, the query and the anchor know nothing of. -/
theorem IsCoherent.withSelected (hfilter : p.filter = if p.query = [] then none else some p.matching)
    (hanchor : ∀ k, p.anchor = some k → p.isEntry k) (hcapacity : 0 < p.capacity)
    {selected : Option Nat} (hselected : ∀ i, selected = some i → p.isChoiceAt i)
    (hnone : selected = none → ∀ i, ¬ p.isChoiceAt i) : IsCoherent { p with selected } where
  selected := hselected
  anchor := hanchor
  capacity := hcapacity
  filter := hfilter
  unselected := hnone

/-- What is preferred if it is an entry, and else the first entry. -/
theorem IsCoherent.preferring
    (hfilter : p.filter = if p.query = [] then none else some p.matching)
    (hanchor : ∀ k, p.anchor = some k → p.isEntry k) (hcapacity : 0 < p.capacity)
    {preferred : Option Nat} (h : ∀ i, preferred = some i → p.isChoiceAt i) :
    IsCoherent { p with selected := preferred.or (p.nearest 0) } := by
  refine .withSelected hfilter hanchor hcapacity (fun i hi => ?_) fun hnone => ?_
  · rcases Option.or_eq_some_iff.mp hi with hi | ⟨-, hi⟩
    · exact h i hi
    · exact isChoiceAt_of_nearest hi
  · exact not_isChoiceAt_of_nearest (Option.or_eq_none_iff.mp hnone).2

/-- What is nearest to a place. -/
theorem IsCoherent.nearest (h : p.IsCoherent) (i : Nat) :
    IsCoherent { p with selected := p.nearest i } :=
  .withSelected h.filter h.anchor h.capacity (fun _ => isChoiceAt_of_nearest)
    not_isChoiceAt_of_nearest

/-- Moving the view brings the selected row into it. -/
theorem IsCoherent.reveal (h : p.IsCoherent) : p.reveal.IsOrderly := by
  refine { h with scroll_le := Nat.min_le_right _ _, visible := fun i hi => ?_ }
  have hlt : i < p.size := lt_size_of_isChoiceAt (h.selected i hi)
  have hcapacity := h.capacity
  have hselected : p.selected = some i := hi
  show min _ (p.size - p.capacity) ≤ i ∧ i < min _ (p.size - p.capacity) + p.capacity
  rw [hselected]
  dsimp only
  split
  · omega
  · split
    · omega
    · omega

/-! ### The filter -/

/-- An entry matches if its label has the query in it, both in lower case. -/
theorem mem_matching {k : Nat} :
    k ∈ p.matching ↔
      ∃ entry, p.items[k]? = some (.choice entry) ∧ p.query.lower <:+: entry.label.lower := by
  unfold matching
  rw [Array.mem_filter, Array.mem_range]
  -- headings never match, whatever is typed
  constructor
  · rintro ⟨-, hmatches⟩
    obtain ⟨item, hitem, hmatches⟩ := (Option.any_eq_true _ _).mp hmatches
    obtain ⟨hchoice, hinfix⟩ := Bool.and_eq_true_iff.mp hmatches
    cases item with
    | heading label => exact absurd hchoice Bool.false_ne_true
    | choice entry => exact ⟨entry, hitem, Text.hasInfix_iff.mp hinfix⟩
  · rintro ⟨entry, hitem, hinfix⟩
    refine ⟨(Array.getElem?_eq_some_iff.mp hitem).1, ?_⟩
    rw [hitem]
    exact Bool.and_eq_true_iff.mpr ⟨rfl, Text.hasInfix_iff.mpr hinfix⟩

theorem isEntry_of_mem_matching {k : Nat} (h : k ∈ p.matching) : p.isEntry k := by
  obtain ⟨entry, hentry, -⟩ := mem_matching.mp h
  unfold isEntry
  rw [hentry]
  rfl

/-- The matching rows are listed from the top. -/
theorem pairwise_matching (p : Picker) : p.matching.toList.Pairwise (· < ·) := by
  unfold matching
  rw [Array.toList_filter, Array.toList_range]
  exact List.pairwise_lt_range.filter _

/-- A new filter shows what matches and selects the first of it. -/
theorem IsPointed.refilter (h : p.IsPointed) (hquery : p.query ≠ []) : p.refilter.IsOrderly := by
  have hentry {i k : Nat} (hk : p.matching[i]? = some k) : p.refilter.isChoiceAt i :=
    isChoiceAt_iff.mpr ⟨k, hk, isEntry_of_mem_matching (Array.mem_of_getElem? hk)⟩
  have hselected : p.refilter.selected = if p.matching.isEmpty then none else some 0 := rfl
  -- a new filter selects its first row, or none if it is empty
  refine
    { anchor := h.anchor
      capacity := h.capacity
      filter := (if_neg hquery).symm
      selected := fun i hi => ?_
      unselected := fun hnone i hi => ?_
      scroll_le := Nat.zero_le _
      visible := fun i hi => ?_ }
  · rw [hselected] at hi
    split at hi
    · exact absurd hi (Option.some_ne_none i).symm
    · rename_i hsome
      obtain rfl := Option.some.inj hi
      have hpos : 0 < p.matching.size := by
        rw [Array.isEmpty_iff_size_eq_zero] at hsome
        exact Nat.pos_of_ne_zero hsome
      exact hentry (Array.getElem?_eq_getElem hpos)
  · rw [hselected] at hnone
    split at hnone
    · rename_i hempty
      have hlt : i < p.matching.size := lt_size_of_isChoiceAt hi
      rw [Array.isEmpty_iff_size_eq_zero] at hempty
      omega
    · exact absurd hnone (Option.some_ne_none 0)
  · rw [hselected] at hi
    split at hi
    · exact absurd hi (Option.some_ne_none i).symm
    · obtain rfl := Option.some.inj hi
      exact ⟨Nat.le_refl 0, Nat.lt_of_lt_of_eq h.capacity (Nat.zero_add _).symm⟩

/-- The place in the whole list of what is selected is that of an entry. -/
theorem IsPointed.selectedPosition (h : p.IsPointed) {k : Nat} (hk : p.selectedPosition? = some k) :
    p.isEntry k := by
  obtain ⟨i, hi, hposition⟩ := Option.bind_eq_some_iff.mp hk
  obtain ⟨l, hl, hentry⟩ := isChoiceAt_iff.mp (h.selected i hi)
  obtain rfl : l = k := Option.some.inj (hl.symm.trans hposition)
  exact hentry

/-- Typing keeps a list orderly. -/
theorem IsOrderly.typeChar (h : p.IsOrderly) (c : Char) : (p.typeChar c).IsOrderly := by
  refine IsPointed.refilter { h with anchor := fun k hk => ?_ } (by simp)
  dsimp only at hk
  split at hk
  · exact h.selectedPosition hk
  · exact h.anchor k hk

/-- Dropping a filter, whatever has become of the query: what was selected stays so, and the
anchor is selected where nothing was. -/
theorem IsPointed.clearFilter (h : p.IsPointed) {rows : Array Nat} (hrows : p.filter = some rows) :
    p.clearFilter.IsOrderly := by
  have hentry : ∀ k, (p.selected.bind (rows[·]?)).or p.anchor = some k → p.isEntry k := by
    intro k hk
    rcases Option.or_eq_some_iff.mp hk with hk | ⟨-, hk⟩
    · refine h.selectedPosition ?_
      unfold selectedPosition? position?
      rw [hrows]
      exact hk
    · exact h.anchor k hk
  unfold Picker.clearFilter
  rw [hrows]
  -- without the filter, the entry that is kept is a row of the list, and is scrolled to
  refine (IsCoherent.preferring (p := { p with filter := none, query := [], anchor := none }) rfl
    nofun h.capacity fun k hk => ?_).reveal
  rw [isChoiceAt_of_filter_none rfl]
  exact hentry k (Option.filter_eq_some_iff.mp hk).1

theorem IsOrderly.clearFilter (h : p.IsOrderly) : p.clearFilter.IsOrderly := by
  rcases hrows : p.filter with - | rows
  · -- without a filter the query is empty already
    have hquery : p.query = [] := h.filter_eq_none_iff.mp hrows
    have hsame : p.clearFilter = p := by
      unfold Picker.clearFilter
      rw [hrows]
      dsimp only
      rw [← hquery, ← hrows]
    rw [hsame]
    exact h
  · exact h.toIsPointed.clearFilter hrows

/-- After the filter is dropped there is none. -/
theorem filter_clearFilter (p : Picker) : p.clearFilter.filter = none := by
  unfold clearFilter
  split
  · assumption
  · rfl

theorem IsOrderly.backspace (h : p.IsOrderly) : p.backspace.IsOrderly := by
  unfold Picker.backspace
  split
  · exact h
  · rename_i hsome
    obtain ⟨rows, hrows⟩ := Option.ne_none_iff_exists'.mp (mt Option.isNone_iff_eq_none.mpr hsome)
    have hpointed : IsPointed { p with query := p.query.dropLast } := { h with }
    dsimp only
    split
    · exact hpointed.clearFilter hrows
    · rename_i hquery
      exact hpointed.refilter fun heq => hquery (List.isEmpty_iff.mpr heq)

/-! ### The other operations -/

theorem IsOrderly.move (h : p.IsOrderly) (delta : Int) : (p.move delta).IsOrderly := by
  unfold Picker.move
  split
  · exact (h.toIsCoherent.nearest 0).reveal
  · rename_i i hi
    refine IsCoherent.reveal (.withSelected h.filter h.anchor h.capacity (fun j hj => ?_) nofun)
    obtain rfl := Option.some.inj hj
    refine isChoiceAt_walk (fun k l hl => ?_) _ (h.selected i hi)
    split at hl
    · exact (seekBack_eq_some hl).1
    · exact (seek_eq_some hl).1

/-- New entries make an orderly list, whatever it was before. -/
theorem isOrderly_setItems (h : 0 < p.capacity) (items : List Item) :
    (p.setItems items).IsOrderly := by
  refine (IsCoherent.preferring
    (p := { p with items := items.toArray, query := [], filter := none, anchor := none }) rfl
    nofun h fun i hi => ?_).reveal
  obtain ⟨k, -, hk⟩ := Option.bind_eq_some_iff.mp hi
  exact isChoiceAt_of_nearest hk

theorem IsOrderly.open (h : p.IsOrderly) : p.open.IsOrderly := by
  have hclear := h.clearFilter
  exact (IsCoherent.preferring (p := { p.clearFilter with isOpen := true }) hclear.filter
    hclear.anchor hclear.capacity hclear.selected).reveal

/-- An entry of the whole list is selected, the filter being dropped. -/
theorem IsOrderly.selectEntry (h : p.IsOrderly) {k : Nat} (hk : p.clearFilter.isEntry k) :
    (Picker.reveal { p.clearFilter with selected := some k }).IsOrderly := by
  have hclear := h.clearFilter
  refine IsCoherent.reveal
    (.withSelected hclear.filter hclear.anchor hclear.capacity (fun i hi => ?_) nofun)
  obtain rfl := Option.some.inj hi
  rw [isChoiceAt_of_filter_none p.filter_clearFilter]
  exact hk

theorem IsOrderly.selectId (h : p.IsOrderly) (id : String) : (p.selectId id).1.IsOrderly := by
  unfold Picker.selectId
  dsimp only
  split
  · rename_i k hk
    obtain ⟨hlt, hentry, -⟩ := Array.findIdx?_eq_some_iff_getElem.mp hk
    refine h.selectEntry ?_
    unfold isEntry
    rw [Array.getElem?_eq_getElem hlt]
    exact (Bool.and_eq_true_iff.mp hentry).1
  · exact h.clearFilter

theorem IsOrderly.selectIndex (h : p.IsOrderly) (k : Nat) : (p.selectIndex k).1.IsOrderly := by
  unfold Picker.selectIndex
  dsimp only
  split
  · exact h.selectEntry ‹_›
  · exact h.clearFilter

theorem IsOrderly.setCapacity (h : p.IsOrderly) (capacity : Nat) :
    (p.setCapacity capacity).IsOrderly :=
  IsCoherent.reveal { h with capacity := Nat.lt_of_lt_of_le Nat.zero_lt_one (Nat.le_max_right _ _) }

/-- Whatever a key comes to, the list stays orderly. -/
theorem Reads.isOrderly {q : Picker} {key : Key} {outcome : Outcome} (hread : p.Reads key q outcome)
    (h : p.IsOrderly) : q.IsOrderly := by
  cases hread with
  | ignore | confirm | dismiss => exact h
  | move delta => exact h.move delta
  | selectFirst => exact (h.toIsCoherent.nearest 0).reveal
  | selectLast => exact (h.toIsCoherent.nearest _).reveal
  | clearFilter => exact h.clearFilter
  | backspace => exact h.backspace
  | typeChar x => exact h.typeChar x

theorem IsOrderly.handle (h : p.IsOrderly) (key : Key) : (p.handle key).1.IsOrderly :=
  (p.reads_handle key).isOrderly h

/-! ### Runs -/

/-- What can be done to a picker. -/
inductive Operation where
  | setItems (items : List Item)
  | «open»
  | close
  | typeChar (c : Char)
  | backspace
  | clearFilter
  | move (delta : Int)
  | selectFirst
  | selectLast
  | selectId (id : String)
  | selectIndex (k : Nat)
  | setCapacity (capacity : Nat)
  | key (key : Key)

/-- Does it. -/
def apply (p : Picker) : Operation → Picker
  | .setItems items => p.setItems items
  | .open => p.open
  | .close => p.close
  | .typeChar c => p.typeChar c
  | .backspace => p.backspace
  | .clearFilter => p.clearFilter
  | .move delta => p.move delta
  | .selectFirst => p.selectFirst
  | .selectLast => p.selectLast
  | .selectId id => (p.selectId id).1
  | .selectIndex k => (p.selectIndex k).1
  | .setCapacity capacity => p.setCapacity capacity
  | .key key => (p.handle key).1

/-- Every operation keeps the picker orderly. -/
theorem IsOrderly.apply (h : p.IsOrderly) (op : Operation) : (p.apply op).IsOrderly := by
  cases op with
  | setItems items => exact isOrderly_setItems h.capacity items
  | «open» => exact h.open
  | close => exact { h with }
  | typeChar c => exact h.typeChar c
  | backspace => exact h.backspace
  | clearFilter => exact h.clearFilter
  | move delta => exact h.move delta
  | selectFirst => exact (h.toIsCoherent.nearest 0).reveal
  | selectLast => exact (h.toIsCoherent.nearest _).reveal
  | selectId id => exact h.selectId id
  | selectIndex k => exact h.selectIndex k
  | setCapacity capacity => exact h.setCapacity capacity
  | key key => exact h.handle key

theorem isOrderly_empty (title : Text) : IsOrderly { title } where
  selected := nofun
  anchor := nofun
  capacity := Nat.zero_lt_succ 7
  filter := rfl
  unselected _ i hi := absurd (lt_size_of_isChoiceAt hi) (Nat.not_lt_zero i)
  scroll_le := Nat.zero_le _
  visible := nofun

/-- After any operations a list is orderly. -/
theorem isOrderly_run (title : Text) (ops : List Operation) :
    (ops.foldl apply { title }).IsOrderly := by
  suffices h : ∀ p : Picker, p.IsOrderly → (ops.foldl apply p).IsOrderly from
    h _ (isOrderly_empty title)
  induction ops with
  | nil => exact fun _ hp => hp
  | cons op rest ih => exact fun p hp => ih (p.apply op) (hp.apply op)

/-! ### What the user sees -/

/-- Every place that is shown has its row. -/
theorem IsCoherent.isSome_item? (h : p.IsCoherent) {i : Nat} (hi : i < p.size) :
    (p.item? i).isSome := by
  unfold item? position?
  unfold size at hi
  rcases hrows : p.filter with - | rows
  · rw [hrows] at hi
    dsimp only at hi ⊢
    simp [hi]
  · rw [hrows] at hi
    dsimp only at hi ⊢
    obtain rfl := h.eq_matching hrows
    obtain ⟨entry, hentry, -⟩ := mem_matching.mp (Array.getElem_mem hi)
    simp [Array.getElem?_eq_getElem hi, hentry]

/-- The shown rows are those of the places that are shown, from the top. -/
theorem IsCoherent.shown_eq (h : p.IsCoherent) :
    p.shown.length = p.size ∧ ∀ i, i < p.size → p.shown[i]? = p.item? i := by
  -- by induction on how many rows are looked up; none of them is missing
  suffices hfirst : ∀ n, n ≤ p.size → ((List.range n).filterMap p.item?).length = n ∧
      ∀ i, i < n → ((List.range n).filterMap p.item?)[i]? = p.item? i from
    hfirst p.size (Nat.le_refl _)
  intro n
  induction n with
  | zero => exact fun _ => ⟨rfl, nofun⟩
  | succ n ih =>
    intro hn
    obtain ⟨hlength, hrows⟩ := ih (by omega)
    obtain ⟨item, hitem⟩ := Option.isSome_iff_exists.mp (h.isSome_item? hn)
    rw [List.range_succ, List.filterMap_append, List.filterMap_cons_some hitem]
    refine ⟨by simp [hlength], fun i hi => ?_⟩
    rcases Nat.eq_or_lt_of_le (Nat.le_of_lt_succ hi) with rfl | hlt
    · rw [List.getElem?_append_right (by omega), hlength, hitem]
      simp
    · rw [List.getElem?_append_left (by omega)]
      exact hrows i hlt

/-- The filter, the selection and the view of a picker, as its user sees them. -/
structure IsConsistent (p : Picker) : Prop where
  /-- There is a filter exactly while there is a query. -/
  filter_iff : p.filter.isSome ↔ p.query ≠ []
  /-- The filter lists, from the top, the places of exactly those entries whose label holds
  the query, both in lower case. -/
  filter : ∀ rows, p.filter = some rows → rows.toList.Pairwise (· < ·) ∧ ∀ k, k ∈ rows ↔
    ∃ entry, p.items[k]? = some (.choice entry) ∧ p.query.lower <:+: entry.label.lower
  /-- Something is selected exactly if an entry is shown. -/
  selected_iff : p.selected.isSome ↔ ∃ entry, .choice entry ∈ p.shown
  /-- What is selected is shown, and it is an entry. -/
  selected : ∀ i, p.selected = some i →
    i < p.shown.length ∧ ∃ entry, p.shown[i]? = some (.choice entry)
  /-- The view does not run past the end of what is shown. -/
  scroll_le : p.scroll ≤ p.shown.length - p.capacity
  /-- The selected row is in the view. -/
  visible : ∀ i, p.selected = some i → p.scroll ≤ i ∧ i < p.scroll + p.capacity

/-- Which of the shown rows are entries. -/
theorem IsCoherent.isChoiceAt_iff_shown (h : p.IsCoherent) (i : Nat) :
    p.isChoiceAt i ↔ ∃ entry, p.shown[i]? = some (.choice entry) := by
  -- rows that are shown are looked up at their places
  constructor
  · intro hi
    rw [h.shown_eq.2 i (lt_size_of_isChoiceAt hi)]
    obtain ⟨item, hitem, hchoice⟩ := (Option.any_eq_true _ _).mp hi
    cases item with
    | heading label => exact absurd hchoice Bool.false_ne_true
    | choice entry => exact ⟨entry, hitem⟩
  · rintro ⟨entry, hentry⟩
    have hlt := (List.getElem?_eq_some_iff.mp hentry).1
    rw [h.shown_eq.1] at hlt
    rw [h.shown_eq.2 i hlt] at hentry
    unfold isChoiceAt
    rw [hentry]
    rfl

/-- An orderly list, as those see it who look at what is shown. -/
theorem IsOrderly.isConsistent (h : p.IsOrderly) : p.IsConsistent where
  filter_iff := Option.isSome_iff_ne_none.trans (not_congr h.filter_eq_none_iff)
  filter rows hrows := by
    obtain rfl := h.eq_matching hrows
    exact ⟨p.pairwise_matching, fun _ => mem_matching⟩
  selected_iff := by
    constructor
    · intro hsome
      obtain ⟨i, hi⟩ := Option.isSome_iff_exists.mp hsome
      obtain ⟨entry, hentry⟩ := (h.isChoiceAt_iff_shown i).mp (h.selected i hi)
      exact ⟨entry, List.mem_of_getElem? hentry⟩
    · rintro ⟨entry, hentry⟩
      obtain ⟨i, hi⟩ := List.mem_iff_getElem?.mp hentry
      -- nothing is selected only where there is no entry
      rcases hnone : p.selected with - | k
      · exact absurd ((h.isChoiceAt_iff_shown i).mpr ⟨entry, hi⟩) (h.unselected hnone i)
      · rfl
  selected i hi := by
    rw [h.shown_eq.1]
    exact ⟨lt_size_of_isChoiceAt (h.selected i hi), (h.isChoiceAt_iff_shown i).mp (h.selected i hi)⟩
  scroll_le := by
    rw [h.shown_eq.1]
    exact h.scroll_le
  visible := h.visible

/-- **What is selected goes with what is shown.**  Whatever is done to a picker, in whatever
order: the filter lists what matches the query, an entry is selected if one is shown, and the
view holds it. -/
theorem isConsistent_run (title : Text) (ops : List Operation) :
    (ops.foldl apply { title }).IsConsistent := (isOrderly_run title ops).isConsistent

/-- Two entries under a heading: the query leaves the second, which stays selected when the
query goes. -/
example :
    let p := [Operation.setItems [.heading "a".toList, .choice { id := "1", label := "b".toList },
        .choice { id := "2", label := "C".toList }], .key { code := .char 'c' }].foldl apply {}
    p.selected = some 0 ∧ p.backspace.selected = some 2 := by
  decide +kernel

end Picker

end AgentConsole
