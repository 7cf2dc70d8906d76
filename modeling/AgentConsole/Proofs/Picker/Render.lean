import AgentConsole.Picker.Render
import AgentConsole.Proofs.Picker.Keys
import AgentConsole.Proofs.Styled.Flat

/-!
# How pickers are drawn

The title of a picker and the signs of its entries are the console's own and are
clean; they change only when the picker is given another list.  So every
operation on a picker keeps it furnished (`Picker.IsFurnished`), and a furnished
picker whose labels and query hold no ESC is drawn solid (`Picker.solid_render`).  If
they hold no newline, it takes the line of its query and at most as many rows as its
view has (`Picker.length_rows_render_le`).
-/

namespace AgentConsole

open Styled

/-- The signs of a row are clean. -/
def Item.HasCleanSigns : Item → Prop
  | heading _ => True
  | choice entry => (∀ t ∈ entry.icon, Clean t) ∧ ∀ t ∈ entry.badge, Clean t

instance : (item : Item) → Decidable item.HasCleanSigns
  | .heading _ => inferInstanceAs (Decidable True)
  | .choice entry => inferInstanceAs
      (Decidable ((∀ t ∈ entry.icon, Clean t) ∧ ∀ t ∈ entry.badge, Clean t))

/-- The label of a row and what stands beside it hold no ESC. -/
def Item.IsPlain : Item → Prop
  | heading label => esc ∉ label
  | choice entry => esc ∉ entry.label ∧ ∀ t ∈ entry.subtitle, esc ∉ t

/-- The label of a row and what stands beside it do not hold a character. -/
def Item.LabelsLack (x : Char) : Item → Prop
  | heading label => x ∉ label
  | choice entry => x ∉ entry.label ∧ ∀ t ∈ entry.subtitle, x ∉ t

instance (x : Char) : (item : Item) → Decidable (item.LabelsLack x)
  | .heading label => inferInstanceAs (Decidable (x ∉ label))
  | .choice entry => inferInstanceAs (Decidable (x ∉ entry.label ∧ ∀ t ∈ entry.subtitle, x ∉ t))

theorem Item.labelsLack_esc_iff {item : Item} : item.LabelsLack esc ↔ item.IsPlain := by
  cases item <;> exact Iff.rfl

namespace Picker

/-- What the console itself puts into the picker is clean. -/
structure IsFurnished (p : Picker) : Prop where
  title : Clean p.title
  signs : ∀ item ∈ p.items, item.HasCleanSigns

/-- What comes from outside holds no ESC. -/
structure IsPlain (p : Picker) : Prop where
  query : esc ∉ p.query
  items : ∀ item ∈ p.items, item.IsPlain

/-- What comes from outside does not hold a character. -/
structure Lacks (x : Char) (p : Picker) : Prop where
  query : x ∉ p.query
  items : ∀ item ∈ p.items, item.LabelsLack x

theorem lacks_esc_iff {p : Picker} : p.Lacks esc ↔ p.IsPlain :=
  ⟨fun h => ⟨h.query, fun item hitem => Item.labelsLack_esc_iff.mp (h.items item hitem)⟩,
    fun h => ⟨h.query, fun item hitem => Item.labelsLack_esc_iff.mpr (h.items item hitem)⟩⟩

/-! ### What the operations leave alone -/

/-- The title and the list, and how many rows the view has. -/
def stock (p : Picker) : Text × Array Item × Nat := (p.title, p.items, p.capacity)

/-- Whether a list is furnished depends on its stock alone. -/
theorem IsFurnished.of_stock {p q : Picker} (h : p.IsFurnished) (hq : q.stock = p.stock) :
    q.IsFurnished := by
  simp only [stock, Prod.mk.injEq] at hq
  obtain ⟨htitle, hitems, -⟩ := hq
  exact ⟨htitle ▸ h.title, hitems ▸ h.signs⟩

/-- A picker whose view is as high as that of another, and which is furnished if the other is. -/
structure Refits (p q : Picker) : Prop where
  furnished : p.IsFurnished → q.IsFurnished
  capacity : q.capacity = p.capacity

theorem Refits.of_stock {p q : Picker} (h : q.stock = p.stock) : p.Refits q :=
  ⟨fun hp => hp.of_stock h, congrArg (·.2.2) h⟩

theorem IsFurnished.setCapacity {p : Picker} (h : p.IsFurnished) (capacity : Nat) :
    (p.setCapacity capacity).IsFurnished := ⟨h.title, h.signs⟩

@[simp] theorem stock_move (p : Picker) (delta : Int) : (p.move delta).stock = p.stock := by
  unfold move
  split <;> rfl

@[simp] theorem stock_clearFilter (p : Picker) : p.clearFilter.stock = p.stock := by
  unfold clearFilter
  split <;> rfl

@[simp] theorem stock_backspace (p : Picker) : p.backspace.stock = p.stock := by
  unfold backspace
  split
  · rfl
  · dsimp only
    split
    · exact stock_clearFilter _
    · rfl

@[simp] theorem stock_open (p : Picker) : p.open.stock = p.stock := stock_clearFilter p

@[simp] theorem stock_selectId (p : Picker) (id : String) : (p.selectId id).1.stock = p.stock := by
  unfold selectId
  dsimp only
  split <;> exact stock_clearFilter p

/-- Keys move the selection and change the query; the list and the size of the view stay. -/
theorem Reads.stock {p q : Picker} {key : Key} {outcome : Outcome} (h : p.Reads key q outcome) :
    q.stock = p.stock := by
  cases h with
  | ignore | confirm | dismiss | selectFirst | selectLast | typeChar => rfl
  | move delta => exact p.stock_move delta
  | clearFilter => exact p.stock_clearFilter
  | backspace => exact p.stock_backspace

/-- New entries with clean signs furnish a list. -/
theorem IsFurnished.setItems {p : Picker} (h : Clean p.title) {items : List Item}
    (hitems : ∀ item ∈ items, item.HasCleanSigns) : (p.setItems items).IsFurnished where
  title := h
  signs := by
    intro item hitem
    exact hitems item (List.mem_toArray.mp hitem)

/-! ### Drawing -/

theorem mem_of_item? {p : Picker} {i : Nat} {item : Item} (h : p.item? i = some item) :
    item ∈ p.items := by
  obtain ⟨k, -, hk⟩ := Option.bind_eq_some_iff.mp h
  exact Array.mem_of_getElem? hk

section

variable {x : Char} {P : Text → Prop} (k : Kind x P)
include k

section

variable {entry : Choice} (h : (Item.choice entry).LabelsLack x) (hs : (Item.choice entry).HasCleanSigns)
include h hs

theorem kind_lead {marker : Char} (hm : marker ≠ esc ∧ marker ≠ '\n') : P (lead entry marker) := by
  have hicon : P ((entry.icon.map (· ++ [' '])).getD []) := by
    rcases hi : entry.icon with - | t
    · exact k.nil
    · exact k.append (k.words (hs.1 t hi)) (k.one (by decide))
  exact k.append (k.append (k.cons hm (k.one (by decide))) hicon) (k.of_notMem h.1)

omit h in
theorem kind_badge : P (entry.badge.getD []) := by
  rcases hb : entry.badge with - | t
  · exact k.nil
  · exact k.words (hs.2 t hb)

/-- The row of an entry is of a kind that its label is of. -/
theorem kind_choiceRow (theme : Theme) (width : Nat) : P (choiceRow theme entry width) := by
  refine k.spread (k.append (kind_lead k h hs (by decide)) ?_) (k.muted (kind_badge k hs) theme) width
  rcases hb : entry.subtitle with - | t
  · exact k.nil
  · exact k.cons (by decide) (k.cons (by decide) (k.muted (k.of_notMem (h.2 t hb)) theme))

theorem kind_selectedRow (theme : Theme) (width : Nat) : P (selectedRow theme entry width) := by
  have hplain : P (lead entry '›' ++ (entry.subtitle.map (' ' :: ' ' :: ·)).getD []) := by
    refine k.append (kind_lead k h hs (by decide)) ?_
    rcases hb : entry.subtitle with - | t
    · exact k.nil
    · exact k.cons (by decide) (k.cons (by decide) (k.of_notMem (h.2 t hb)))
  have hbody := k.fit (k.truncate hplain (width - (Styled.width (entry.badge.getD []) + 1)))
    (width - (Styled.width (entry.badge.getD []) + 1))
  exact k.selected (k.fit (k.append hbody (k.cons (by decide) (kind_badge k hs))) width) theme

end

theorem kind_row (theme : Theme) {item : Item} (h : item.LabelsLack x) (hs : item.HasCleanSigns)
    (selected : Bool) (width : Nat) : P (row theme item selected width) := by
  cases item with
  | heading label =>
    have hlabel : P ("── ".toList ++ label ++ [' ']) :=
      k.append (k.append (k.literal (by decide)) (k.of_notMem h)) (k.one (by decide))
    exact k.fit (k.muted (k.append hlabel (k.times (k.one (by decide)) _)) theme) width
  | choice entry =>
    unfold row
    dsimp only
    split
    · exact kind_selectedRow k h hs theme width
    · exact kind_choiceRow k h hs theme width

variable {p : Picker} (h : p.Lacks x)
include h

theorem kind_queryRow (theme : Theme) (width : Nat) : P (p.queryRow theme width) := by
  have hcount : P (Text.ofNat p.size ++ '/' :: Text.ofNat p.items.size) :=
    k.append (k.ofNat _) (k.cons (by decide) (k.ofNat _))
  refine k.spread ?_ (k.muted hcount theme) width
  split
  · exact k.muted (k.literal (by decide)) theme
  · exact k.append (k.paint (k.one (by decide)) _) (k.cons (by decide) (k.of_notMem h.query))

/-- The picker is drawn in rows of a kind: one for the query, one where nothing matches, else as
many as the view has at most. -/
theorem exists_rows_render (hf : p.IsFurnished) (theme : Theme) (width : Nat) :
    ∃ first below, p.render theme width = Text.ofRows (first :: below) ∧
      (∀ row ∈ first :: below, P row) ∧ below.length ≤ max p.capacity 1 := by
  have htop : P (p.queryRow theme width) := kind_queryRow k h theme width
  unfold render
  dsimp only
  -- an empty list says so in one row; otherwise each row is that of an entry or a heading
  split
  · refine ⟨_, _, rfl, fun row hrow => ?_, Nat.le_max_right _ _⟩
    rcases List.mem_cons.mp hrow with rfl | hrow
    · exact htop
    · obtain rfl := List.mem_singleton.mp hrow
      exact k.fit (k.muted (k.literal (by decide)) theme) width
  · refine ⟨_, _, rfl, fun row hrow => ?_, ?_⟩
    · rcases List.mem_cons.mp hrow with rfl | hrow
      · exact htop
      · obtain ⟨i, -, hi⟩ := List.mem_filterMap.mp hrow
        obtain ⟨item, hitem, rfl⟩ := Option.map_eq_some_iff.mp hi
        have hmem := mem_of_item? hitem
        exact kind_row k theme (h.items item hmem) (hf.signs item hmem) _ width
    · refine Nat.le_trans (List.length_filterMap_le _ _) ?_
      rw [List.length_range']
      omega

end

/-- A furnished picker over plain labels is drawn solid. -/
theorem solid_render {p : Picker} (hf : p.IsFurnished) (h : p.IsPlain) (theme : Theme)
    (width : Nat) : Solid (p.render theme width) := by
  obtain ⟨first, below, hrender, hrows, -⟩ :=
    exists_rows_render kind_solid (lacks_esc_iff.mpr h) hf theme width
  rw [hrender]
  exact solid_ofRows hrows

/-- A furnished picker is drawn in the line of its query and the rows of its view. -/
theorem length_rows_render_le {p : Picker} (hf : p.IsFurnished) (h : p.Lacks '\n') (theme : Theme)
    (width : Nat) : (p.render theme width).rows.length ≤ max p.capacity 1 + 1 := by
  obtain ⟨first, below, hrender, hrows, hlength⟩ := exists_rows_render kind_flat h hf theme width
  rw [hrender, Text.rows_ofRows (List.cons_ne_nil first below) hrows, List.length_cons]
  exact Nat.add_le_add_right hlength 1

end Picker

end AgentConsole
