import AgentConsole.Config.Load
import AgentConsole.Proofs.Toml.Bounded
import AgentConsole.Proofs.Toml.Printed

/-!
# The configuration, written and read

A configuration that is in force can be written out as a document.  Read again, the document states
every field that was written (`Stated.ofToml?_toml`), and the configuration it leads to is the one
that was written: its numbers are already as large as they have to be, and have 63 bits, since they
come from a document or are built in (`Tuning.IsSettled`).

This needs the four texts of the configuration to be plain.  A text may come from a variable of the
environment, or from an escape in a file, and then it may hold a control character that no written
string can hold.  Such a document is no TOML at all, and nothing is read from it
(`Stated.ofText?_document`).
-/

namespace AgentConsole

/-- The numbers do no harm, and can be written as integers of a document. -/
structure Tuning.IsSettled (t : Tuning) : Prop where
  localEvery : Config.leastPeriod ≤ t.localEvery ∧ t.localEvery < 0x8000000000000000
  remoteEvery : Config.leastPeriod ≤ t.remoteEvery ∧ t.remoteEvery < 0x8000000000000000
  toastLimit : 1 ≤ t.toastLimit ∧ t.toastLimit < 0x8000000000000000
  toastLife : 1 ≤ t.toastLife ∧ t.toastLife < 0x8000000000000000
  editorMin : 1 ≤ t.editorMin ∧ t.editorMin < 0x8000000000000000
  editorMax : t.editorMin ≤ t.editorMax ∧ t.editorMax < 0x8000000000000000

namespace Config

open Toml (Line Value Statement Builder Spells)

variable {c : Config} {s : Stated}

/-- Can all texts of the configuration stand in a document as they are written? -/
def isPlain (c : Config) : Bool :=
  c.theme.all Toml.isPlain && c.logging.level.all Toml.isPlain
    && c.logging.directory.all Toml.isPlain && c.logging.stem.all Toml.isPlain

/-! ### Reading the lines -/

/-- What the pair of a text is read as. -/
def textPair (key : String) (t : Text) : Option (List Statement) :=
  if t.all Toml.isPlain then some [.pair [] key.toList (.string t)] else none

/-- What the pair of a number is read as. -/
def numberPair (key : String) (n : Nat) : Option (List Statement) :=
  some [.pair [] key.toList (.integer n)]

/-- What the lines of the document are read as. -/
def results (c : Config) : List (Option (List Statement)) :=
  [ some [], some [], some [], some [], some [],
    textPair "theme" c.theme,
    some [], some [],
    some [.table ["refresh".toList]],
    numberPair "local_status_ms" c.tuning.localEvery,
    numberPair "remote_status_ms" c.tuning.remoteEvery,
    some [], some [],
    some [.table ["toasts".toList]],
    numberPair "max" c.tuning.toastLimit,
    numberPair "ttl_ms" c.tuning.toastLife,
    some [], some [],
    some [.table ["editor".toList]],
    numberPair "min_height" c.tuning.editorMin,
    numberPair "max_height" c.tuning.editorMax,
    some [], some [],
    some [.table ["logging".toList]],
    textPair "level" c.logging.level,
    some [],
    some [.pair [] "file_enabled".toList (.boolean c.logging.toFile)],
    textPair "file_dir" c.logging.directory,
    textPair "file_rotation" c.logging.rotation.label.toList,
    textPair "file_prefix" c.logging.stem ]

/-- A line with a key and a quoted text is read as this pair, unless the text has a character that
is forbidden. -/
theorem reads_text {key : String} (hkey : Toml.IsBareKey key.toList) {remark : Text}
    (hremark : Toml.IsRemark remark) (t : Text) :
    (Line.pair key.toList (Toml.quote t) remark).Reads (textPair key t) := by
  have hread := Toml.reads_pair hkey (Toml.spells_quote t) hremark
  unfold textPair
  split at hread <;> simpa [*] using hread

theorem reads_number {key : String} (hkey : Toml.IsBareKey key.toList) {remark : Text}
    (hremark : Toml.IsRemark remark) {n : Nat} (hn : n < 0x8000000000000000) :
    (Line.pair key.toList (Text.ofNat n) remark).Reads (numberPair key n) :=
  Toml.reads_pair hkey (Toml.spells_ofNat hn) hremark

/-- Every line of the document is read as what it was written for. -/
theorem reads_lines (hc : c.tuning.IsSettled) : List.Forall₂ Line.Reads c.lines c.results := by
  have hlocal : Toml.IsRemark "    # worktrees and sessions".toList :=
    .comment "   ".toList " worktrees and sessions".toList (by decide) (by decide)
  have hremote : Toml.IsRemark "  # pull requests and checks".toList :=
    .comment " ".toList " pull requests and checks".toList (by decide) (by decide)
  have hrotation : Toml.IsRemark "  # hourly, daily, never".toList :=
    .comment " ".toList " hourly, daily, never".toList (by decide) (by decide)
  -- in the order in which the lines are written
  exact .cons (Toml.reads_comment (by decide)) <| .cons Toml.reads_blank <|
    .cons (Toml.reads_comment (by decide)) <| .cons (Toml.reads_comment (by decide)) <|
    .cons (Toml.reads_comment (by decide)) <|
    .cons (reads_text ⟨by decide, by decide⟩ .nothing c.theme) <|
    .cons Toml.reads_blank <| .cons (Toml.reads_comment (by decide)) <|
    .cons (Toml.reads_header ⟨by decide, by decide⟩) <|
    .cons (reads_number ⟨by decide, by decide⟩ hlocal hc.localEvery.2) <|
    .cons (reads_number ⟨by decide, by decide⟩ hremote hc.remoteEvery.2) <|
    .cons Toml.reads_blank <| .cons (Toml.reads_comment (by decide)) <|
    .cons (Toml.reads_header ⟨by decide, by decide⟩) <|
    .cons (reads_number ⟨by decide, by decide⟩ .nothing hc.toastLimit.2) <|
    .cons (reads_number ⟨by decide, by decide⟩ .nothing hc.toastLife.2) <|
    .cons Toml.reads_blank <| .cons (Toml.reads_comment (by decide)) <|
    .cons (Toml.reads_header ⟨by decide, by decide⟩) <|
    .cons (reads_number ⟨by decide, by decide⟩ .nothing hc.editorMin.2) <|
    .cons (reads_number ⟨by decide, by decide⟩ .nothing hc.editorMax.2) <|
    .cons Toml.reads_blank <| .cons (Toml.reads_comment (by decide)) <|
    .cons (Toml.reads_header ⟨by decide, by decide⟩) <|
    .cons (reads_text ⟨by decide, by decide⟩ .nothing c.logging.level) <|
    .cons (Toml.reads_comment (by decide)) <|
    .cons (Toml.reads_pair ⟨by decide, by decide⟩ (Toml.spells_ofBool c.logging.toFile) .nothing) <|
    .cons (reads_text ⟨by decide, by decide⟩ .nothing c.logging.directory) <|
    .cons (reads_text ⟨by decide, by decide⟩ hrotation _) <|
    .cons (reads_text ⟨by decide, by decide⟩ .nothing c.logging.stem) .nil

/-! ### Putting the tables together -/

/-- The statements of the document. -/
def statements (c : Config) : List Statement :=
  [ .pair [] "theme".toList (.string c.theme),
    .table ["refresh".toList],
    .pair [] "local_status_ms".toList (.integer c.tuning.localEvery),
    .pair [] "remote_status_ms".toList (.integer c.tuning.remoteEvery),
    .table ["toasts".toList],
    .pair [] "max".toList (.integer c.tuning.toastLimit),
    .pair [] "ttl_ms".toList (.integer c.tuning.toastLife),
    .table ["editor".toList],
    .pair [] "min_height".toList (.integer c.tuning.editorMin),
    .pair [] "max_height".toList (.integer c.tuning.editorMax),
    .table ["logging".toList],
    .pair [] "level".toList (.string c.logging.level),
    .pair [] "file_enabled".toList (.boolean c.logging.toFile),
    .pair [] "file_dir".toList (.string c.logging.directory),
    .pair [] "file_rotation".toList (.string c.logging.rotation.label.toList),
    .pair [] "file_prefix".toList (.string c.logging.stem) ]

/-- The document as a table. -/
def toml (c : Config) : Value :=
  .table .header
    [ ("theme".toList, .string c.theme),
      ("refresh".toList, .table .header
        [ ("local_status_ms".toList, .integer c.tuning.localEvery),
          ("remote_status_ms".toList, .integer c.tuning.remoteEvery) ]),
      ("toasts".toList, .table .header
        [ ("max".toList, .integer c.tuning.toastLimit),
          ("ttl_ms".toList, .integer c.tuning.toastLife) ]),
      ("editor".toList, .table .header
        [ ("min_height".toList, .integer c.tuning.editorMin),
          ("max_height".toList, .integer c.tuning.editorMax) ]),
      ("logging".toList, .table .header
        [ ("level".toList, .string c.logging.level),
          ("file_enabled".toList, .boolean c.logging.toFile),
          ("file_dir".toList, .string c.logging.directory),
          ("file_rotation".toList, .string c.logging.rotation.label.toList),
          ("file_prefix".toList, .string c.logging.stem) ]) ]

/-- What the document states. -/
def written (c : Config) : Stated where
  theme := some c.theme
  localEvery := some c.tuning.localEvery
  remoteEvery := some c.tuning.remoteEvery
  toastLimit := some c.tuning.toastLimit
  toastLife := some c.tuning.toastLife
  editorMin := some c.tuning.editorMin
  editorMax := some c.tuning.editorMax
  level := some c.logging.level
  toFile := some c.logging.toFile
  directory := some c.logging.directory
  rotation := some c.logging.rotation.label.toList
  stem := some c.logging.stem

/-- All lines are read if and only if no text has a character that is forbidden. -/
theorem collect_results (c : Config) :
    Toml.collect c.results = if c.isPlain then some c.statements else none := by
  have hlabel : c.logging.rotation.label.toList.all Toml.isPlain = true := by
    cases c.logging.rotation <;> decide
  unfold results isPlain textPair
  rw [hlabel]
  cases c.theme.all Toml.isPlain <;> cases c.logging.level.all Toml.isPlain <;>
    cases c.logging.directory.all Toml.isPlain <;> cases c.logging.stem.all Toml.isPlain <;> rfl

theorem foldlM_statements (c : Config) :
    c.statements.foldlM Builder.step? {} = some ⟨c.toml, ["logging".toList]⟩ :=
  rfl

theorem natural?_integer {n : Nat} (h : n < 0x8000000000000000) :
    natural? (.integer n) = some n := by
  have hsize : UInt64.size = 0x10000000000000000 := rfl
  show (if 0 ≤ (n : Int) ∧ (n : Int) < UInt64.size then some (n : Int).toNat else none) = some n
  rw [if_pos ⟨by omega, by omega⟩, Int.toNat_natCast]

theorem optional_of_lookup {α : Type} {read : Value → Option α} {fields : Toml.Fields} {key : String}
    {v : Value} {a : α} (hv : fields.lookup key.toList = some v) (ha : read v = some a) :
    Toml.optional read fields key = some (some a) := by
  unfold Toml.optional
  rw [hv]
  dsimp only
  rw [ha]
  rfl

theorem bind_of_eq_some {α β : Type} {x : Option α} {f : α → Option β} {a : α} {b : β}
    (hx : x = some a) (hf : f a = some b) : x >>= f = some b :=
  Option.bind_eq_some_iff.mpr ⟨a, hx, hf⟩

/-- Every field that was written is read. -/
theorem Stated.ofToml?_toml (hc : c.tuning.IsSettled) : Stated.ofToml? c.toml = some c.written := by
  have hnumber {fields : Toml.Fields} {key : String} {n : Nat}
      (hn : fields.lookup key.toList = some (.integer n)) (hshort : n < 0x8000000000000000) :
      Toml.optional natural? fields key = some (some n) :=
    optional_of_lookup hn (natural?_integer hshort)
  unfold toml Stated.ofToml?
  -- the tables first, then the fields in the order of the record
  refine bind_of_eq_some rfl <| bind_of_eq_some rfl <| bind_of_eq_some rfl <|
    bind_of_eq_some rfl <| bind_of_eq_some rfl ?_
  refine bind_of_eq_some (optional_of_lookup rfl rfl) <|
    bind_of_eq_some (hnumber rfl hc.localEvery.2) <|
    bind_of_eq_some (hnumber rfl hc.remoteEvery.2) <|
    bind_of_eq_some (hnumber rfl hc.toastLimit.2) <|
    bind_of_eq_some (hnumber rfl hc.toastLife.2) <|
    bind_of_eq_some (hnumber rfl hc.editorMin.2) <|
    bind_of_eq_some (hnumber rfl hc.editorMax.2) <|
    bind_of_eq_some (optional_of_lookup rfl rfl) <|
    bind_of_eq_some (optional_of_lookup rfl rfl) <|
    bind_of_eq_some (optional_of_lookup rfl rfl) <|
    bind_of_eq_some (optional_of_lookup rfl rfl) <|
    bind_of_eq_some (optional_of_lookup rfl rfl) rfl

/-- Numbers that do no harm are not raised. -/
theorem tuning_written (hc : c.tuning.IsSettled) : c.written.tuning = c.tuning := by
  have hmin : max c.tuning.editorMin 1 = c.tuning.editorMin := Nat.max_eq_left hc.editorMin.1
  unfold Stated.tuning written
  simp only [Option.getD_some, hmin, Nat.max_eq_left hc.localEvery.1,
    Nat.max_eq_left hc.remoteEvery.1, Nat.max_eq_left hc.toastLimit.1,
    Nat.max_eq_left hc.toastLife.1, Nat.max_eq_left hc.editorMax.1]

/-- What was written resolves to the configuration, since nothing is left to defaults or limits. -/
theorem resolve_written (hc : c.tuning.IsSettled) (hdemo : c.demo = false) :
    resolve c.written {} = c := by
  have hrotation : Rotation.ofText c.logging.rotation.label.toList = c.logging.rotation := by
    cases c.logging.rotation <;> decide
  have hlogging : c.written.logging = c.logging := by
    unfold Stated.logging written
    simp only [Option.getD_some, Option.map_some, hrotation]
  unfold resolve
  rw [hlogging, tuning_written hc]
  show (⟨c.theme, false, c.tuning, c.logging⟩ : Config) = c
  rw [← hdemo]

/-! ### Configurations in force -/

/-- The numbers that a file states have 63 bits. -/
structure Stated.IsShort (s : Stated) : Prop where
  localEvery : ∀ n ∈ s.localEvery, n < 0x8000000000000000
  remoteEvery : ∀ n ∈ s.remoteEvery, n < 0x8000000000000000
  toastLimit : ∀ n ∈ s.toastLimit, n < 0x8000000000000000
  toastLife : ∀ n ∈ s.toastLife, n < 0x8000000000000000
  editorMin : ∀ n ∈ s.editorMin, n < 0x8000000000000000
  editorMax : ∀ n ∈ s.editorMax, n < 0x8000000000000000

theorem Stated.isShort_empty : ({} : Stated).IsShort := by
  constructor
  all_goals exact fun n hn => absurd hn (Option.not_mem_none n)

/-- Numbers that are read from a document fit into sixty-four bits. -/
theorem Stated.isShort_of_ofToml? {document : Value} (hdocument : document.IsBounded)
    (h : Stated.ofToml? document = some s) : s.IsShort := by
  unfold Stated.ofToml? at h
  obtain ⟨fields, hfields, h⟩ := Option.bind_eq_some_iff.mp h
  obtain ⟨refresh, hrefresh, h⟩ := Option.bind_eq_some_iff.mp h
  obtain ⟨toasts, htoasts, h⟩ := Option.bind_eq_some_iff.mp h
  obtain ⟨editor, heditor, h⟩ := Option.bind_eq_some_iff.mp h
  obtain ⟨logging, -, h⟩ := Option.bind_eq_some_iff.mp h
  obtain ⟨theme, -, h⟩ := Option.bind_eq_some_iff.mp h
  obtain ⟨localEvery, hlocal, h⟩ := Option.bind_eq_some_iff.mp h
  obtain ⟨remoteEvery, hremote, h⟩ := Option.bind_eq_some_iff.mp h
  obtain ⟨toastLimit, hlimit, h⟩ := Option.bind_eq_some_iff.mp h
  obtain ⟨toastLife, hlife, h⟩ := Option.bind_eq_some_iff.mp h
  obtain ⟨editorMin, hmin, h⟩ := Option.bind_eq_some_iff.mp h
  obtain ⟨editorMax, hmax, h⟩ := Option.bind_eq_some_iff.mp h
  obtain ⟨level, -, h⟩ := Option.bind_eq_some_iff.mp h
  obtain ⟨toFile, -, h⟩ := Option.bind_eq_some_iff.mp h
  obtain ⟨directory, -, h⟩ := Option.bind_eq_some_iff.mp h
  obtain ⟨rotation, -, h⟩ := Option.bind_eq_some_iff.mp h
  obtain ⟨stem, -, h⟩ := Option.bind_eq_some_iff.mp h
  obtain rfl := Option.some.inj h
  -- only six of the fields that were read are numbers
  have hbounded := Toml.isBounded_of_fields? hdocument hfields
  have hpart {part : Toml.Fields} {key : String} {keys : List String} {n : Option Nat} {name : String}
      (hpart : Toml.part? fields key keys = some part)
      (hn : Toml.optional natural? part name = some n) : ∀ m ∈ n, m < 0x8000000000000000 :=
    Toml.lt_of_optional_natural? (Toml.isBounded_of_part? hbounded hpart) hn
  exact ⟨hpart hrefresh hlocal, hpart hrefresh hremote, hpart htoasts hlimit, hpart htoasts hlife,
    hpart heditor hmin, hpart heditor hmax⟩

/-- A file that cannot be read states nothing. -/
theorem Stated.isShort_ofFile (f : File) : (Stated.ofFile f).1.IsShort := by
  cases f with
  | text t =>
    unfold Stated.ofFile
    dsimp only
    split
    · rename_i s hs
      obtain ⟨document, hdocument, hs⟩ := Option.bind_eq_some_iff.mp hs
      exact Stated.isShort_of_ofToml? (Toml.isBounded_of_read? hdocument) hs
    · exact Stated.isShort_empty
  | _ => exact Stated.isShort_empty

/-- A number that a file states or that is built in is raised to what does no harm. -/
theorem settled {stated : Option Nat} {usual least : Nat}
    (hstated : ∀ n ∈ stated, n < 0x8000000000000000) (husual : usual < 0x8000000000000000)
    (hleast : least < 0x8000000000000000) :
    least ≤ max (stated.getD usual) least ∧ max (stated.getD usual) least < 0x8000000000000000 := by
  refine ⟨Nat.le_max_right _ _, Nat.max_lt.mpr ⟨?_, hleast⟩⟩
  cases stated with
  | none => exact husual
  | some n => exact hstated n rfl

theorem Stated.IsShort.isSettled (hs : s.IsShort) : s.tuning.IsSettled := by
  have heditorMin := settled hs.editorMin (by decide : 3 < 0x8000000000000000) (by decide : 1 < _)
  exact ⟨settled hs.localEvery (by decide) (by decide),
    settled hs.remoteEvery (by decide) (by decide),
    settled hs.toastLimit (by decide) (by decide), settled hs.toastLife (by decide) (by decide),
    heditorMin, settled hs.editorMax (by decide) heditorMin.2⟩

theorem isSettled_load (f : File) (v : Variables) : (load f v).1.tuning.IsSettled :=
  (Stated.isShort_ofFile f).isSettled

/-! ### Written and read -/

/-- What is stated by the document of a configuration. -/
theorem Stated.ofText?_document (hc : c.tuning.IsSettled) :
    Stated.ofText? c.document = if c.isPlain then some c.written else none := by
  have hlines := reads_lines hc
  unfold lines at hlines
  unfold Stated.ofText? document lines
  rw [Toml.read?_print hlines, collect_results]
  split
  · rw [Option.bind_some, foldlM_statements, Option.map_some, Option.bind_some]
    exact Stated.ofToml?_toml hc
  · rfl

/-- **A configuration in force is read again from its own document** if its texts are plain, and
only then. -/
theorem reread_document (f : File) (v : Variables) (hdemo : (load f v).1.demo = false) :
    (Stated.ofText? (load f v).1.document).map (resolve · {})
      = if (load f v).1.isPlain then some (load f v).1 else none := by
  have hc := isSettled_load f v
  rw [Stated.ofText?_document hc]
  split
  · rw [Option.map_some, resolve_written hc hdemo]
  · rfl

/-- A file that states a theme and how many toasts there may be. -/
theorem reread_document_nord :
    let c := (load (.text "theme = \"Nord\"\n[toasts]\nmax = 9\n".toList) {}).1
    c.tuning.toastLimit = 9 ∧ (Stated.ofText? c.document).map (resolve · {}) = some c :=
  ⟨by decide +kernel, (reread_document _ {} rfl).trans (if_pos (by decide +kernel))⟩

/-- A newline in a variable is written as it is. -/
theorem document_newline :
    let c := (load .missing { theme := some "a\nb".toList }).1
    c.demo = false ∧ Stated.ofText? c.document = none :=
  ⟨rfl, (Stated.ofText?_document (isSettled_load _ _)).trans (if_neg (by decide))⟩

end Config

end AgentConsole
