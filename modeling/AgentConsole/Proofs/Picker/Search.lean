import AgentConsole.Proofs.Picker.Filter
import AgentConsole.Proofs.Text.Case

/-!
# Searching without case

A picker compares its query with the labels of its entries, both in lower case, and shows the entries
whose label holds the query (`IsCoherent.shown_of_query`).  That finds every label in which the query
stands as it was typed, and it takes queries that differ in case for the same one, as long as lower
case does not look at what stands around a letter.  It does for a capital sigma.  A query is lowered
by itself, and so a sigma at its end is taken for the end of a word, which it need not be in the label.

Whether a query is found wherever it stands is a matter of the query alone: of its sigmas, and whether
it decides about them itself.  A label in which it is not found is the query with one letter more.

The main result is `finds_iff`.
-/

namespace AgentConsole.Picker

variable {p : Picker} {q r : Text} {entry : Choice}

/-! ### What is shown under a query -/

/-- Looking up all places of a list gives the list. -/
theorem filterMap_getElem?_range {α : Type} (l : List α) :
    (List.range l.length).filterMap (fun i => l[i]?) = l := by
  induction l using List.reverseRecOn with
  | nil => rfl
  | append_singleton l a ih =>
    have hfront : (List.range l.length).filterMap (fun i => (l ++ [a])[i]?) = l :=
      (List.filterMap_congr fun i hi => List.getElem?_append_left (List.mem_range.mp hi)).trans ih
    rw [List.length_append, List.length_singleton, List.range_succ, List.filterMap_append, hfront]
    simp

/-- Under a query the entries are shown whose label holds it, both in lower case. -/
theorem IsCoherent.shown_of_query (h : p.IsCoherent) (hquery : p.query ≠ []) :
    p.shown = p.items.toList.filter (Matches p.query.lower) := by
  have hfilter : p.filter = some p.matching := by rw [h.filter, if_neg hquery]
  have hitem : p.item? = fun i => (p.matching.toList[i]?).bind fun k => p.items.toList[k]? := by
    funext i
    unfold item? position?
    rw [hfilter]
    simp
  have hsize : p.size = p.matching.toList.length := by
    unfold size
    rw [hfilter]
    rfl
  have hmatching : p.matching.toList = (List.range p.items.toList.length).filter fun i =>
      (p.items.toList[i]?).any (Matches p.query.lower) := by
    unfold matching
    simp
  -- looking up the rows that match is filtering the list
  unfold shown
  rw [hitem, hsize, ← List.filterMap_filterMap, filterMap_getElem?_range, hmatching,
    List.filterMap_filter]
  conv_rhs => rw [← filterMap_getElem?_range p.items.toList, List.filter_filterMap]
  refine List.filterMap_congr fun i _ => ?_
  rcases p.items.toList[i]? with - | item
  · rfl
  · simp [Option.filter]

/-- The picker after a text was typed into it. -/
def typed (p : Picker) (q : Text) : Picker := q.foldl typeChar p

theorem query_typed (p : Picker) (q : Text) : (p.typed q).query = p.query ++ q := by
  induction q generalizing p with
  | nil => exact (List.append_nil _).symm
  | cons c q ih => exact (ih (p.typeChar c)).trans (List.append_assoc _ [c] q)

theorem items_typed (p : Picker) (q : Text) : (p.typed q).items = p.items := by
  induction q generalizing p with
  | nil => rfl
  | cons c q ih => exact ih (p.typeChar c)

theorem IsOrderly.typed (h : p.IsOrderly) (q : Text) : (p.typed q).IsOrderly := by
  induction q generalizing p with
  | nil => exact h
  | cons c q ih => exact ih (h.typeChar c)

/-- What typing a query into a picker without one shows. -/
theorem IsOrderly.shown_typed (h : p.IsOrderly) (hquery : p.query = []) (q : Text) :
    (p.typed q).shown
      = if q = [] then p.items.toList else p.items.toList.filter (Matches q.lower) := by
  have htyped : (p.typed q).query = q := by rw [query_typed, hquery, List.nil_append]
  split
  · rename_i hq
    subst hq
    exact h.shown_of_filter_none (h.filter_eq_none_iff.mpr hquery)
  · rename_i hq
    rw [(h.typed q).shown_of_query (by rwa [htyped]), htyped, items_typed]

/-- An entry is shown if its label has the query in it, both in lower case. -/
theorem IsOrderly.mem_shown_typed_iff (h : p.IsOrderly) (hquery : p.query = [])
    (hentry : .choice entry ∈ p.items) :
    .choice entry ∈ (p.typed q).shown ↔ q.lower <:+: entry.label.lower := by
  rw [h.shown_typed hquery]
  split
  · rename_i hq
    subst hq
    exact iff_of_true (Array.mem_toList_iff.mpr hentry) List.nil_infix
  · rw [List.mem_filter]
    have hmatches : Matches q.lower (.choice entry) ↔ q.lower <:+: entry.label.lower := Text.hasInfix_iff
    rw [hmatches]
    exact and_iff_right (Array.mem_toList_iff.mpr hentry)

/-! ### Without case -/

/-- Is the query found wherever it stands in the label of an entry? -/
def Finds (q : Text) : Prop :=
  ∀ (title : Text) (ops : List Operation) (entry : Choice),
    (ops.foldl apply { title }).query = [] → .choice entry ∈ (ops.foldl apply { title }).items →
      q <:+: entry.label → .choice entry ∈ ((ops.foldl apply { title }).typed q).shown

/-- Do the two queries show the same of every list? -/
def FindsAlike (q r : Text) : Prop :=
  ∀ (title : Text) (ops : List Operation), (ops.foldl apply { title }).query = [] →
    ((ops.foldl apply { title }).typed q).shown = ((ops.foldl apply { title }).typed r).shown

/-- A list of one entry with that label. -/
def listing (label : Text) : List Operation := [.setItems [.choice { id := "", label }]]

theorem mem_items_listing (label : Text) :
    .choice { id := "", label } ∈ ((listing label).foldl apply {}).items := List.mem_toArray.mpr
  List.mem_cons_self

theorem mem_shown_listing_iff (label q : Text) :
    .choice { id := "", label } ∈ (((listing label).foldl apply {}).typed q).shown
      ↔ q.lower <:+: Text.lower label :=
  (isOrderly_run [] (listing label)).mem_shown_typed_iff rfl (mem_items_listing label)

theorem finds_iff_forall_label : Finds q ↔ ∀ label, q <:+: label → q.lower <:+: Text.lower label := by
  constructor
  · intro hfinds label hlabel
    rw [← mem_shown_listing_iff]
    exact hfinds [] (listing label) _ rfl (mem_items_listing label) hlabel
  · intro hall title ops entry hquery hentry hlabel
    rw [(isOrderly_run title ops).mem_shown_typed_iff hquery hentry]
    exact hall entry.label hlabel

/-- Two queries find the same where they are the same in lower case. -/
theorem findsAlike_iff : FindsAlike q r ↔ q.lower = r.lower := by
  constructor
  · intro halike
    have hsame (label : Text) : q.lower <:+: label.lower ↔ r.lower <:+: label.lower := by
      rw [← mem_shown_listing_iff, ← mem_shown_listing_iff, halike [] (listing label) rfl]
    have hq : r.lower <:+: q.lower := (hsame q).mp (List.infix_refl _)
    have hr : q.lower <:+: r.lower := (hsame r).mpr (List.infix_refl _)
    exact hr.eq_of_length (Nat.le_antisymm hr.length_le hq.length_le)
  · intro hlower title ops hquery
    have hempty : q = [] ↔ r = [] := by
      rw [← Text.lower_eq_nil_iff, hlower, Text.lower_eq_nil_iff]
    have horderly := isOrderly_run title ops
    rw [horderly.shown_typed hquery, horderly.shown_typed hquery, hlower]
    simp only [hempty]

/-- **When case does not matter.**  A query is found wherever it stands if and only if it decides about
its capital sigmas, and two queries whose characters have the same lower case show the same if and
only if that is the lower case of both.  Queries without a sigma that ends a word do, and without a
capital sigma there is nothing to decide about. -/
theorem finds_iff (q : Text) :
    (Finds q ↔ q.DecidesSigmas) ∧
      (∀ r, q.lowerEach = r.lowerEach → (FindsAlike q r ↔ q.lower = r.lower) ∧
        (q.LacksFinalSigma → r.LacksFinalSigma → FindsAlike q r)) ∧
      ('Σ' ∉ q → q.DecidesSigmas ∧ q.LacksFinalSigma) := by
  refine ⟨?_, fun r heach => ⟨findsAlike_iff, fun hq hr => ?_⟩, fun hsigma => ?_⟩
  · rw [finds_iff_forall_label, Text.forall_lower_infix_iff]
  · rw [findsAlike_iff, Text.lower_eq_lowerEach_iff.mpr hq, heach, Text.lower_eq_lowerEach_iff.mpr hr]
  · exact ⟨Text.aroundSigmas_of_notMem hsigma, Text.aroundSigmas_of_notMem hsigma⟩

/-- A sigma in the middle of a word is at the end of the query: the entry is not found, although the
query stands in its label, and is found if the query is typed in lower case. -/
theorem sigma_inside_not_found :
    let entry : Choice := { id := "1", label := "ΑΣΑ".toList }
    let p := [Operation.setItems [.choice entry]].foldl apply {}
    let query : Text := "ΑΣ".toList
    let small : Text := "ασ".toList
    p.query = [] ∧ .choice entry ∈ p.items ∧ query <:+: entry.label ∧ query.lowerEach = small.lowerEach
      ∧ (p.typed query).shown = [] ∧ (p.typed small).shown = [.choice entry] := by
  decide +kernel

end AgentConsole.Picker
