/-!
# Tables

Finite tables: at most one value for a key.  What a table says is `get?`; the
lemmas give it after every operation.
-/

namespace AgentConsole

/-- Values by key. -/
structure Table (κ α : Type) where
  entries : List (κ × α) := []
  deriving Repr

namespace Table

variable {κ α β : Type} [DecidableEq κ]

/-- The value of a key. -/
def get? (t : Table κ α) (k : κ) : Option α := (t.entries.find? (·.1 = k)).map (·.2)

/-- Gives a key a value. -/
def set (t : Table κ α) (k : κ) (a : α) : Table κ α :=
  ⟨(k, a) :: t.entries.filter (·.1 ≠ k)⟩

/-- Takes over all values of another table. -/
def merge (t u : Table κ α) : Table κ α :=
  ⟨u.entries ++ t.entries.filter fun e => (u.get? e.1).isNone⟩

/-- Drops the keys that do not satisfy `keep`. -/
def retain (t : Table κ α) (keep : κ → Bool) : Table κ α := ⟨t.entries.filter (keep ·.1)⟩

/-- Changes every value. -/
def map (t : Table κ α) (f : α → β) : Table κ β := ⟨t.entries.map fun e => (e.1, f e.2)⟩

/-- Where no key occurs twice, every entry is found by its own. -/
theorem find?_key_of_mem {key : α → κ} {entries : List α} {a : α}
    (hkeys : (entries.map key).Nodup) (ha : a ∈ entries) :
    entries.find? (key · = key a) = some a := by
  induction entries with
  | nil => exact absurd ha List.not_mem_nil
  | cons b rest ih =>
    obtain ⟨hb, hrest⟩ := List.nodup_cons.mp hkeys
    rcases List.mem_cons.mp ha with rfl | ha
    · exact List.find?_cons_of_pos (by simp)
    · have hne : key b ≠ key a := fun heq => hb (heq ▸ List.mem_map_of_mem ha)
      rw [List.find?_cons_of_neg (by simpa using hne)]
      exact ih hrest ha

@[simp] theorem get?_empty (k : κ) : ({} : Table κ α).get? k = none := rfl

/-- Dropping entries by their key leaves the search for a kept key as it was. -/
theorem find?_filter_key (entries : List (κ × α)) (keep : κ → Bool) (k : κ) :
    (entries.filter fun e => keep e.1).find? (·.1 = k)
      = if keep k then entries.find? (·.1 = k) else none := by
  induction entries with
  | nil => simp
  | cons e rest ih =>
    -- the first entry is the one that is looked for, or it is passed over, kept or not
    by_cases hk : e.1 = k
    · subst hk
      cases hb : keep e.1 with
      | true => simp [hb]
      | false => rw [List.filter_cons_of_neg (by simp [hb]), ih]; simp [hb]
    · cases hb : keep e.1 with
      | true => simp [hb, hk, ih]
      | false => rw [List.filter_cons_of_neg (by simp [hb]), ih]; simp [hk]

/-- Only the key that was set has another entry. -/
theorem get?_set (t : Table κ α) (k l : κ) (a : α) :
    (t.set k a).get? l = if k = l then some a else t.get? l := by
  unfold set get?
  have h := find?_filter_key t.entries (fun x => !decide (x = k)) l
  by_cases hkl : k = l
  · simp [hkl]
  · have : ¬l = k := fun e => hkl e.symm
    simp only [List.find?_cons, decide_eq_false hkl, if_neg hkl]
    simp only [this, decide_false, Bool.not_false, if_true] at h
    simpa using congrArg (Option.map (·.2)) h

/-- What is not kept is gone, and the rest stays. -/
theorem get?_retain (t : Table κ α) (keep : κ → Bool) (k : κ) :
    (t.retain keep).get? k = if keep k then t.get? k else none := by
  unfold retain get?
  rw [find?_filter_key]
  split <;> rfl

/-- What the other table says goes first. -/
theorem get?_merge (t u : Table κ α) (k : κ) : (t.merge u).get? k = (u.get? k).or (t.get? k) := by
  have hkept := find?_filter_key t.entries (fun l => (u.get? l).isNone) k
  have hmerge : (t.merge u).get? k = ((u.entries ++ t.entries.filter fun e =>
      (u.get? e.1).isNone).find? (·.1 = k)).map (·.2) := rfl
  rw [hmerge, List.find?_append, hkept]
  cases hu : u.entries.find? (·.1 = k) with
  | none => simp [get?, hu]
  | some e => simp [get?, hu]

theorem get?_map (t : Table κ α) (f : α → β) (k : κ) :
    (t.map f).get? k = (t.get? k).map f := by
  unfold map get?
  induction t.entries with
  | nil => rfl
  | cons e rest ih => by_cases hk : e.1 = k <;> simp_all

end Table

end AgentConsole
