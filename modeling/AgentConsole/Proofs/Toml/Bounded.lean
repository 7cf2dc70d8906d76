import AgentConsole.Toml.Fields
import AgentConsole.Toml.Reader

/-!
# Integers in documents

A word is an integer only if it has 64 bits (`checked?`), and there is no other way for an integer
to come into a document.  So a number that is read from a field has 63 bits, although 64 would be
accepted.

This has to be followed through all that makes or changes a table.  Each of these is a partial
function on values that keeps them bounded (`Keeps`), and is built from ones that do.
-/

namespace AgentConsole.Toml

/-- The integers of 64 bits. -/
def IsLong (n : Int) : Prop := -0x8000000000000000 ≤ n ∧ n ≤ 0x7fffffffffffffff

namespace Value

/-- All integers in the value have 64 bits. -/
inductive IsBounded : Value → Prop where
  | string (t : Text) : IsBounded (.string t)
  | integer {n : Int} (h : IsLong n) : IsBounded (.integer n)
  | float (t : Text) : IsBounded (.float t)
  | boolean (b : Bool) : IsBounded (.boolean b)
  | moment (t : Text) : IsBounded (.moment t)
  | array {items : List Value} (h : ∀ v ∈ items, IsBounded v) : IsBounded (.array items)
  | table (origin : Origin) {entries : List (Text × Value)} (h : ∀ e ∈ entries, IsBounded e.2) :
    IsBounded (.table origin entries)
  | tables {members : List Value} (h : ∀ v ∈ members, IsBounded v) : IsBounded (.tables members)

/-- A change that keeps values bounded. -/
def Keeps (f : Value → Option Value) : Prop :=
  ∀ v w, v.IsBounded → f v = some w → w.IsBounded

/-- The same of what happens to the value of a key, which may be missing. -/
def KeepsFound (f : Option Value → Option Value) : Prop :=
  ∀ found w, (∀ v ∈ found, v.IsBounded) → f found = some w → w.IsBounded

variable {f : Value → Option Value}

theorem isBounded_empty (origin : Origin) : (table origin []).IsBounded :=
  .table origin fun _ h => absurd h List.not_mem_nil

/-- Changing one entry of a table keeps the others, and the changed one is bounded as the change
says. -/
theorem isBounded_updateEntry {key : Text} {f : Option Value → Option Value} (hf : KeepsFound f)
    {entries out : List (Text × Value)} (hentries : ∀ e ∈ entries, e.2.IsBounded)
    (h : updateEntry key f entries = some out) : ∀ e ∈ out, e.2.IsBounded := by
  induction entries generalizing out with
  | nil =>
    obtain ⟨v, hv, rfl⟩ := Option.map_eq_some_iff.mp h
    intro e he
    obtain rfl := List.mem_singleton.mp he
    exact hf none v (fun _ h => absurd h (Option.not_mem_none _)) hv
  | cons entry rest ih =>
    obtain ⟨k, v⟩ := entry
    have hv := hentries (k, v) List.mem_cons_self
    have hrest := fun e he => hentries e (List.mem_cons_of_mem (k, v) he)
    -- the key is that of the first entry, or it is looked for further on
    unfold updateEntry at h
    split at h
    · obtain ⟨w, hw, rfl⟩ := Option.map_eq_some_iff.mp h
      intro e he
      rcases List.mem_cons.mp he with rfl | he
      · exact hf (some v) w (fun u hu => Option.mem_some.mp hu ▸ hv) hw
      · exact hrest e he
    · obtain ⟨changed, hchanged, rfl⟩ := Option.map_eq_some_iff.mp h
      intro e he
      rcases List.mem_cons.mp he with rfl | he
      · exact hv
      · exact ih hrest hchanged e he

theorem isBounded_updateLast (hf : Keeps f) {members out : List Value}
    (hmembers : ∀ v ∈ members, v.IsBounded) (h : updateLast f members = some out) :
    ∀ v ∈ out, v.IsBounded := by
  unfold updateLast at h
  split at h
  · exact absurd h (by simp)
  · rename_i last hlast
    obtain ⟨w, hw, rfl⟩ := Option.map_eq_some_iff.mp h
    intro v hv
    rcases List.mem_append.mp hv with hv | hv
    · exact hmembers v (List.dropLast_subset _ hv)
    · obtain rfl := List.mem_singleton.mp hv
      exact hf last v (hmembers last (List.mem_of_getLast? hlast)) hw

/-- Changing the entry of a table. -/
theorem keeps_onEntry {origin : Origin} {key : Text} {f : Option Value → Option Value}
    (hf : KeepsFound f) {entries : List (Text × Value)} {w : Value}
    (hv : (table origin entries).IsBounded)
    (h : (updateEntry key f entries).map (.table origin) = some w) : w.IsBounded := by
  obtain ⟨out, hout, rfl⟩ := Option.map_eq_some_iff.mp h
  cases hv with
  | table _ hentries => exact .table origin (isBounded_updateEntry hf hentries hout)

/-- A change deep inside of a table is a change of the table. -/
theorem keeps_descend (origin : Origin) (hf : Keeps f) (path : List Text) :
    Keeps (descend origin f path) := by
  induction path with
  | nil => exact hf
  | cons key path ih =>
    intro v w hv h
    cases v with
    | table o entries =>
      refine keeps_onEntry ?_ hv h
      intro found w hfound h
      dsimp only at h
      -- the key may be missing, or lead to a table or to the last of several
      split at h
      · exact ih _ w (isBounded_empty origin) h
      · rename_i o' inner
        split at h
        · exact absurd h (by simp)
        · exact ih _ w (hfound _ rfl) h
      · rename_i members
        obtain ⟨out, hout, rfl⟩ := Option.map_eq_some_iff.mp h
        cases hfound _ rfl with
        | tables hmembers => exact .tables (isBounded_updateLast ih hmembers hout)
      · exact absurd h (by simp)
    | _ => exact absurd h (by simp [descend])

/-- A bounded value can be put anywhere into a bounded table. -/
theorem isBounded_insert {t v w : Value} {path : List Text} {key : Text} (ht : t.IsBounded)
    (hv : v.IsBounded) (h : t.insert path key v = some w) : w.IsBounded := by
  refine keeps_descend .dotted ?_ path t w ht h
  intro innermost w hinnermost h
  dsimp only at h
  split at h
  · split at h
    · refine keeps_onEntry ?_ hinnermost h
      intro found w _ h
      dsimp only at h
      split at h
      · exact Option.some.inj h ▸ hv
      · exact absurd h (by simp)
    · exact absurd h (by simp)
  · exact absurd h (by simp)

/-- What defines a table makes an empty one, or opens one that a longer header made. -/
theorem keepsFound_defineTable : KeepsFound defineTable := by
  intro found w hfound h
  unfold defineTable at h
  split at h
  · exact Option.some.inj h ▸ isBounded_empty .header
  · obtain rfl := Option.some.inj h
    cases hfound _ rfl with
    | table _ hentries => exact .table .header hentries
  · exact absurd h (by simp)

theorem keepsFound_extendTables : KeepsFound extendTables := by
  intro found w hfound h
  unfold extendTables at h
  -- a first header of this name, one more, or a name that is taken by something else
  split at h
  · obtain rfl := Option.some.inj h
    refine .tables fun v hv => ?_
    rw [List.mem_singleton.mp hv]
    exact isBounded_empty .header
  · obtain rfl := Option.some.inj h
    cases hfound _ rfl with
    | tables hmembers =>
      refine .tables fun v hv => ?_
      rcases List.mem_append.mp hv with hv | hv
      · exact hmembers v hv
      · rw [List.mem_singleton.mp hv]
        exact isBounded_empty .header
  · exact absurd h (by simp)

theorem keeps_openTable {open? : Option Value → Option Value} (hopen : KeepsFound open?)
    (path : List Text) : Keeps (openTable open? path) := by
  intro v w hv h
  unfold openTable at h
  split at h
  · exact absurd h (by simp)
  · refine keeps_descend .implied ?_ _ v w hv h
    intro innermost w hinnermost h
    dsimp only at h
    split at h
    · exact keeps_onEntry hopen hinnermost h
    · exact absurd h (by simp)

end Value

/-! ### Reading -/

/-- An integer that is read fits into sixty-four bits, as it was checked. -/
theorem isLong_of_checked? {n m : Int} (h : checked? n = some m) : IsLong m := by
  unfold checked? at h
  split at h
  · rename_i hn
    exact Option.some.inj h ▸ hn
  · exact absurd h (by simp)

theorem isLong_of_integer? {t : Text} {n : Int} (h : integer? t = some n) : IsLong n := by
  unfold integer? at h
  split at h
  all_goals
    obtain ⟨digits, -, hchecked⟩ := Option.bind_eq_some_iff.mp h
    exact isLong_of_checked? hchecked

/-- Of what stands without quotes only integers have a bound. -/
theorem isBounded_of_scalar? {t : Text} {v : Value} (h : scalar? t = some v) : v.IsBounded := by
  unfold scalar? at h
  repeat' split at h
  · exact Option.some.inj h ▸ .boolean true
  · exact Option.some.inj h ▸ .boolean false
  · exact Option.some.inj h ▸ .moment t
  · exact Option.some.inj h ▸ .float t
  · obtain ⟨n, hn, rfl⟩ := Option.map_eq_some_iff.mp h
    exact .integer (isLong_of_integer? hn)

/-- What every step of a fold keeps. -/
theorem foldlM_induction {α β : Type} {f : β → α → Option β} {P : β → Prop} {items : List α}
    (hstep : ∀ b a c, a ∈ items → P b → f b a = some c → P c) {b c : β} (hb : P b)
    (h : items.foldlM f b = some c) : P c := by
  induction items generalizing b with
  | nil => exact Option.some.inj h ▸ hb
  | cons a items ih =>
    obtain ⟨next, hnext, hrest⟩ := Option.bind_eq_some_iff.mp h
    refine ih (fun b a c ha => hstep b a c (List.mem_cons_of_mem _ ha)) ?_ hrest
    exact hstep b a next List.mem_cons_self hb hnext

theorem isBounded_of_inlineTable? {pairs : List (List Text × Value)} {v : Value}
    (hpairs : ∀ p ∈ pairs, p.2.IsBounded) (h : inlineTable? pairs = some v) : v.IsBounded := by
  refine foldlM_induction ?_ (Value.isBounded_empty .inline) h
  rintro table ⟨path, item⟩ next hmem htable hnext
  dsimp only at hnext
  split at hnext
  · exact Value.isBounded_insert htable (hpairs _ hmem) hnext
  · exact absurd hnext (by simp)

/-- With so much fuel, all that is read is bounded.  Values, the items of arrays and the pairs
between braces are read by one another, so it is said of all three. -/
structure ReadsBounded (fuel : Nat) : Prop where
  value : ∀ {depth t v rest}, value? fuel depth t = some (v, rest) → v.IsBounded
  items : ∀ {depth t vs rest}, items? fuel depth t = some (vs, rest) → ∀ v ∈ vs, v.IsBounded
  pairs : ∀ {depth t ps rest}, pairs? fuel depth t = some (ps, rest) → ∀ p ∈ ps, p.2.IsBounded

namespace ReadsBounded

variable {fuel depth : Nat} {t rest : Text} (hreads : ReadsBounded fuel)
include hreads

/-- A value is bounded if all that is nested in it is, one level of fuel below. -/
theorem value_succ {v : Value} (h : value? (fuel + 1) depth t = some (v, rest)) : v.IsBounded := by
  unfold value? at h
  split at h
  · -- a string between double quotes
    obtain ⟨⟨s, t⟩, -, hout⟩ := Option.map_eq_some_iff.mp h
    obtain ⟨rfl, rfl⟩ := Prod.mk.inj hout
    exact .string s
  · -- a string between single quotes
    obtain ⟨⟨s, t⟩, -, hout⟩ := Option.map_eq_some_iff.mp h
    obtain ⟨rfl, rfl⟩ := Prod.mk.inj hout
    exact .string s
  · -- an array
    split at h
    · exact absurd h (by simp)
    · obtain ⟨⟨items, t⟩, hitems, hout⟩ := Option.map_eq_some_iff.mp h
      obtain ⟨rfl, rfl⟩ := Prod.mk.inj hout
      exact .array (hreads.items hitems)
  · -- an inline table
    split at h
    · exact absurd h (by simp)
    · split at h
      · obtain ⟨rfl, rfl⟩ := Prod.mk.inj (Option.some.inj h)
        exact Value.isBounded_empty .inline
      · obtain ⟨⟨pairs, t⟩, hpairs, hout⟩ := Option.bind_eq_some_iff.mp h
        obtain ⟨table, htable, hout⟩ := Option.map_eq_some_iff.mp hout
        obtain ⟨rfl, rfl⟩ := Prod.mk.inj hout
        exact isBounded_of_inlineTable? (hreads.pairs hpairs) htable
  · -- a word
    obtain ⟨w, hw, hout⟩ := Option.map_eq_some_iff.mp h
    obtain ⟨rfl, rfl⟩ := Prod.mk.inj hout
    exact isBounded_of_scalar? hw

/-- The items of an array, likewise. -/
theorem items_succ {vs : List Value} (h : items? (fuel + 1) depth t = some (vs, rest)) :
    ∀ v ∈ vs, v.IsBounded := by
  unfold items? at h
  obtain ⟨t', -, h⟩ := Option.bind_eq_some_iff.mp h
  -- the array ends here, or with the next value, or goes on behind a comma
  split at h
  · obtain ⟨rfl, rfl⟩ := Prod.mk.inj (Option.some.inj h)
    exact fun v hv => absurd hv List.not_mem_nil
  · obtain ⟨⟨v, t''⟩, hv, h⟩ := Option.bind_eq_some_iff.mp h
    obtain ⟨u, -, h⟩ := Option.bind_eq_some_iff.mp h
    have hbounded := hreads.value hv
    split at h
    · obtain ⟨⟨items, t⟩, hitems, hout⟩ := Option.map_eq_some_iff.mp h
      obtain ⟨rfl, rfl⟩ := Prod.mk.inj hout
      exact List.forall_mem_cons.mpr ⟨hbounded, hreads.items hitems⟩
    · obtain ⟨rfl, rfl⟩ := Prod.mk.inj (Option.some.inj h)
      exact List.forall_mem_singleton.mpr hbounded
    · exact absurd h (by simp)

theorem pairs_succ {ps : List (List Text × Value)}
    (h : pairs? (fuel + 1) depth t = some (ps, rest)) : ∀ p ∈ ps, p.2.IsBounded := by
  unfold pairs? at h
  obtain ⟨⟨path, t'⟩, -, h⟩ := Option.bind_eq_some_iff.mp h
  dsimp only at h
  split at h
  · obtain ⟨⟨v, t''⟩, hv, h⟩ := Option.bind_eq_some_iff.mp h
    have hbounded := hreads.value hv
    dsimp only at h
    -- behind an entry, the table goes on or ends
    split at h
    · obtain ⟨⟨items, t⟩, hitems, hout⟩ := Option.map_eq_some_iff.mp h
      obtain ⟨rfl, rfl⟩ := Prod.mk.inj hout
      exact List.forall_mem_cons.mpr ⟨hbounded, hreads.pairs hitems⟩
    · obtain ⟨rfl, rfl⟩ := Prod.mk.inj (Option.some.inj h)
      exact List.forall_mem_singleton.mpr hbounded
    · exact absurd h (by simp)
  · exact absurd h (by simp)

end ReadsBounded

/-- The induction: whatever fuel there is, what is read is bounded. -/
theorem readsBounded (fuel : Nat) : ReadsBounded fuel := by
  induction fuel with
  | zero =>
    -- without fuel nothing is read
    constructor
    all_goals
      intro depth t out rest h
      exact absurd h (by simp [value?, items?, pairs?])
  | succ fuel ih => exact ⟨ih.value_succ, ih.items_succ, ih.pairs_succ⟩

/-! ### Documents -/

/-- A value that a statement brings in has no integer but those of 64 bits. -/
def Statement.IsBounded : Statement → Prop
  | .pair _ _ v => v.IsBounded
  | .table _ | .tables _ => True

/-- Only a pair brings in a value; headers bring in names. -/
theorem isBounded_of_statement? {t rest : Text} {s : Statement}
    (h : statement? t = some (s, rest)) : s.IsBounded := by
  -- a header of a list, a header of a table, and a pair
  unfold statement? at h
  split at h
  · obtain ⟨⟨path, t⟩, -, h⟩ := Option.bind_eq_some_iff.mp h
    dsimp only at h
    split at h
    · obtain ⟨t, -, hout⟩ := Option.map_eq_some_iff.mp h
      obtain ⟨rfl, rfl⟩ := Prod.mk.inj hout
      trivial
    · exact absurd h (by simp)
  · obtain ⟨⟨path, t⟩, -, h⟩ := Option.bind_eq_some_iff.mp h
    dsimp only at h
    split at h
    · obtain ⟨t, -, hout⟩ := Option.map_eq_some_iff.mp h
      obtain ⟨rfl, rfl⟩ := Prod.mk.inj hout
      trivial
    · exact absurd h (by simp)
  · obtain ⟨⟨path, t⟩, -, h⟩ := Option.bind_eq_some_iff.mp h
    dsimp only at h
    split at h
    · obtain ⟨⟨v, t⟩, hv, h⟩ := Option.bind_eq_some_iff.mp h
      obtain ⟨t, -, hout⟩ := Option.map_eq_some_iff.mp h
      obtain ⟨rfl, rfl⟩ := Prod.mk.inj hout
      exact (readsBounded _).value hv
    · exact absurd h (by simp)

/-- The run: every statement of a document is bounded. -/
theorem isBounded_of_statements? {fuel : Nat} {t : Text} {statements : List Statement}
    (h : statements? fuel t = some statements) : ∀ s ∈ statements, s.IsBounded := by
  induction fuel generalizing t statements with
  | zero =>
    unfold statements? at h
    split at h
    · exact Option.some.inj h ▸ fun s hs => absurd hs List.not_mem_nil
    · exact absurd h (by simp)
  | succ fuel ih =>
    unfold statements? at h
    dsimp only at h
    split at h
    · exact Option.some.inj h ▸ fun s hs => absurd hs List.not_mem_nil
    -- a line without a statement, or one with
    · split at h
      · exact ih h
      · obtain ⟨⟨s, rest⟩, hs, h⟩ := Option.bind_eq_some_iff.mp h
        obtain ⟨more, hmore, rfl⟩ := Option.map_eq_some_iff.mp h
        exact List.forall_mem_cons.mpr ⟨isBounded_of_statement? hs, ih hmore⟩

/-- A statement that is carried out keeps the document bounded. -/
theorem isBounded_of_step? {b c : Builder} {s : Statement} (hs : s.IsBounded)
    (hb : b.root.IsBounded) (h : b.step? s = some c) : c.root.IsBounded := by
  cases s with
  | table path =>
    obtain ⟨root, hroot, rfl⟩ := Option.map_eq_some_iff.mp h
    exact Value.keeps_openTable Value.keepsFound_defineTable path _ _ hb hroot
  | tables path =>
    obtain ⟨root, hroot, rfl⟩ := Option.map_eq_some_iff.mp h
    exact Value.keeps_openTable Value.keepsFound_extendTables path _ _ hb hroot
  | pair path key v =>
    obtain ⟨root, hroot, rfl⟩ := Option.map_eq_some_iff.mp h
    refine Value.keeps_descend .implied ?_ b.path _ _ hb hroot
    exact fun t w ht h => Value.isBounded_insert ht hs h

/-- **The integers of a document have 64 bits.** -/
theorem isBounded_of_read? {t : Text} {v : Value} (h : read? t = some v) : v.IsBounded := by
  unfold read? at h
  obtain ⟨statements, hstatements, h⟩ := Option.bind_eq_some_iff.mp h
  obtain ⟨b, hb, rfl⟩ := Option.map_eq_some_iff.mp h
  have hall := isBounded_of_statements? hstatements
  refine foldlM_induction (P := fun b => b.root.IsBounded) ?_ ?_ hb
  · exact fun b s c hmem hroot hstep => isBounded_of_step? (hall s hmem) hroot hstep
  · exact Value.isBounded_empty .header

/-! ### Fields -/

/-- The fields that a program knows are entries of the table. -/
theorem isBounded_of_fields? {keys : List String} {spare : Nat} {v : Value} {fields : Fields}
    (hv : v.IsBounded) (h : v.fields? keys spare = some fields) : ∀ e ∈ fields, e.2.IsBounded := by
  cases hv with
  | table _ hentries => exact Option.some.inj h ▸ hentries
  | array hitems =>
    simp only [Value.fields?] at h
    split at h
    · obtain rfl := Option.some.inj h
      exact fun e he => hitems e.2 (List.of_mem_zip he).2
    · exact absurd h (by simp)
  | moment => exact Option.some.inj h ▸ fun e he => absurd he List.not_mem_nil
  | _ => exact absurd h (by simp [Value.fields?])

theorem isBounded_of_lookup {fields : Fields} {key : Text} {v : Value}
    (hfields : ∀ e ∈ fields, e.2.IsBounded) (h : fields.lookup key = some v) : v.IsBounded := by
  obtain ⟨before, after, rfl, -⟩ := List.lookup_eq_some_iff.mp h
  exact hfields (key, v) (List.mem_append_right before List.mem_cons_self)

/-- A table in a table has bounded entries itself. -/
theorem isBounded_of_part? {fields part : Fields} {key : String} {keys : List String}
    (hfields : ∀ e ∈ fields, e.2.IsBounded) (h : part? fields key keys = some part) :
    ∀ e ∈ part, e.2.IsBounded := by
  unfold part? at h
  split at h
  · exact Option.some.inj h ▸ fun e he => absurd he List.not_mem_nil
  · rename_i v hv
    exact isBounded_of_fields? (isBounded_of_lookup hfields hv) h

/-- A number that a field states has 63 bits. -/
theorem lt_of_optional_natural? {bound : Nat} {fields : Fields} {key : String} {n : Option Nat}
    (hfields : ∀ e ∈ fields, e.2.IsBounded)
    (h : optional (Value.natural? bound) fields key = some n) : ∀ m ∈ n, m < 0x8000000000000000 := by
  unfold optional at h
  split at h
  · exact Option.some.inj h ▸ fun m hm => absurd hm (Option.not_mem_none m)
  · rename_i v hv
    obtain ⟨m, hm, rfl⟩ := Option.map_eq_some_iff.mp h
    intro k hk
    obtain rfl := Option.mem_some.mp hk
    -- only an integer is read as a number
    cases isBounded_of_lookup hfields hv with
    | integer hlong =>
      simp only [Value.natural?] at hm
      split at hm
      · obtain rfl := Option.some.inj hm
        unfold IsLong at hlong
        omega
      · exact absurd hm (by simp)
    | _ => exact absurd hm (by simp [Value.natural?])

end AgentConsole.Toml
