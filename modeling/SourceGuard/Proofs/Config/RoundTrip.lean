import SourceGuard.Config.Storage
import SourceGuard.Proofs.Address.RoundTrip
import SourceGuard.Proofs.Config.Partial
import SourceGuard.Proofs.Files
import SourceGuard.Proofs.Toml.Documents

/-!
# Configurations read back

A configuration is written section by section, and every section is read back: its texts whatever
quotes, backslashes, line ends and control characters they hold, its lists of addresses, its choices
by their names, and its numbers if they fit into 64 bits with a sign. So what is saved in a file
system that keeps what is written is loaded again; a configuration with a larger number is refused
before anything is touched.

## Main definitions

* `Config.Fits`: the configurations whose numbers fit
* `Config.table`: a configuration as a table

## Main results

* `Config.isPlain_of_mem_sections`: the sections can be written
* `Config.ofStatements?_sections`, `Config.ofTable?_table`: they make the table, and it says the
  configuration
* `Config.ofText?_toText`: a written configuration is read back
* `Config.store_of_no_folder`, `Config.store_of_folder`: what storing a text does, step by step
* `Config.load_of_read`: a file with a written configuration is loaded
* `Config.save_exact`: what saving does and refuses, and that what was saved is loaded
-/

namespace SourceGuard

open Toml (Section Value Table Document)

/-! ## The sections of a configuration -/

/-- The number that a setting holds, if it holds one. -/
def Toml.Field.count? : Field → Option Nat
  | count n => some n
  | _ => none

namespace Config

/-- The headers of the sections of a configuration, each with the keys below it. -/
def layout (c : Config) : List (List String × List String) :=
  c.sections.map fun s => (s.path, s.fields.map (·.1))

/-- Every configuration has the sections and keys of the default one. -/
theorem layout_eq (c : Config) : c.layout = ({} : Config).layout := rfl

/-- Headers and keys stand without quotes, and no key stands twice below one header. -/
theorem plain_layout : ∀ x ∈ ({} : Config).layout,
    (x.1 ≠ [] ∧ x.1.length ≤ Toml.depth ∧ ∀ key ∈ x.1, Toml.isBareKey key = true) ∧
      (∀ key ∈ x.2, Toml.isBareKey key = true) ∧ x.2.Nodup := by
  decide +kernel

theorem mem_layout {c : Config} {s : Section} (hs : s ∈ c.sections) :
    (s.path, s.fields.map (·.1)) ∈ ({} : Config).layout := by
  rw [← layout_eq c]
  exact List.mem_map_of_mem hs

/-- The numbers of a configuration as they are written: those of 64 bits, and the size band. -/
theorem filterMap_count? (c : Config) :
    (c.sections.flatMap (·.fields)).filterMap (·.2.count?) =
      c.counts.map (·.toNat) ++
        [c.rules.pattern.band.above.toNat, c.rules.pattern.band.below.toNat] :=
  rfl

/-- A configuration fits if its numbers have at most 64 bits with a sign. -/
def Fits (c : Config) : Prop := ∀ n ∈ c.counts, n.toNat < 0x8000000000000000

theorem isWritable_iff (c : Config) : c.isWritable = true ↔ c.Fits := by
  rw [isWritable, List.all_eq_true]
  exact forall₂_congr fun n _ => decide_eq_true_iff

/-- **A configuration whose numbers fit** has sections that can be written. -/
theorem isPlain_of_mem_sections {c : Config} (hc : c.Fits) : ∀ s ∈ c.sections, s.IsPlain := by
  intro s hs
  obtain ⟨⟨hnamed, hshort, hpath⟩, hkeys, -⟩ := plain_layout _ (mem_layout hs)
  constructor
  case named => exact hnamed
  case short => exact hshort
  case path => exact hpath
  case keys => exact fun field hfield => hkeys field.1 (List.mem_map_of_mem hfield)
  case fits =>
    intro field hfield
    cases hcount : field.2 with
    | count n =>
      -- the number is one of 64 bits, which fit, or of 32
      have hmem : n ∈ (c.sections.flatMap (·.fields)).filterMap (·.2.count?) := by
        refine List.mem_filterMap.mpr ⟨field, List.mem_flatMap.mpr ⟨s, hs, hfield⟩, ?_⟩
        rw [hcount]
        rfl
      rw [filterMap_count?, List.mem_append, List.mem_map] at hmem
      change n < 0x8000000000000000
      rcases hmem with ⟨word, hword, rfl⟩ | hband
      · exact hc word hword
      · have habove := c.rules.pattern.band.above.toNat_lt
        have hbelow := c.rules.pattern.band.below.toNat_lt
        simp only [List.mem_cons, List.not_mem_nil, or_false] at hband
        omega
    | _ => trivial

end Config

/-! ## The document of a configuration -/

/-- The volume rule as a table. -/
def VolumeSettings.table (v : VolumeSettings) : Table :=
  Toml.entries [("enabled", .flag v.enabled), ("byte_threshold", .count v.threshold.toNat)]

/-- The size band as a table. -/
def SizeBand.table (band : SizeBand) : Table :=
  Toml.entries [("above", .count band.above.toNat), ("below", .count band.below.toNat)]

/-- The pattern rule as a table. -/
def PatternSettings.table (p : PatternSettings) : Table :=
  Toml.entries [("enabled", .flag p.enabled), ("limit", .count p.limit.toNat),
    ("comparison", .text p.comparison.name)] ++ [("band", .table .headed p.band.table)]

/-- The rules as a table, with the tables of the single rules. -/
def RuleSettings.table (r : RuleSettings) : Table :=
  Toml.entries [("combine", .text r.combine.name)] ++
    [("volume", .table .headed r.volume.table), ("pattern", .table .headed r.pattern.table)]

namespace Config

/-- A configuration as a table. -/
def table (c : Config) : Table :=
  [("monitor", .table .headed (Toml.entries c.monitor.fields)),
    ("rules", .table .headed c.rules.table),
    ("sources", .table .headed (Toml.entries c.sources.fields)),
    ("enforcement", .table .headed (Toml.entries c.enforcement.fields)),
    ("report", .table .headed (Toml.entries [("mode", .text c.report.mode.name)])),
    ("logging", .table .headed (Toml.entries c.logging.fields))]

open Toml.Table (Leads) in
/-- **The sections of a configuration** make its table. -/
theorem ofStatements?_sections (c : Config) :
    Document.ofStatements? (c.sections.flatMap Section.statements) =
      some ⟨c.table, ["logging"]⟩ := by
  have hdistinct : ∀ s ∈ c.sections, (s.fields.map (·.1)).Nodup :=
    fun s hs => (plain_layout _ (mem_layout hs)).2.2
  simp only [sections, RuleSettings.sections, List.cons_append, List.nil_append,
    List.forall_mem_cons] at hdistinct
  obtain ⟨hmonitor, hrules, hvolume, hpattern, hband, hsources, henforcement, hreport, hlogging,
    -⟩ := hdistinct
  -- every look-up in the document so far is computed
  refine (Document.foldlM_cons [] "monitor" rfl (.here _) rfl hmonitor).trans ?_
  refine (Document.foldlM_cons [] "rules" rfl (.here _) rfl hrules).trans ?_
  -- the tables of the single rules stand in the table of the rules
  refine (Document.foldlM_cons ["rules"] "volume" rfl (.further rfl (.here _)) rfl hvolume).trans ?_
  refine (Document.foldlM_cons ["rules"] "pattern" rfl (.further rfl (.here _)) rfl hpattern).trans ?_
  refine (Document.foldlM_cons ["rules", "pattern"] "band" rfl
    (.further rfl (.further rfl (.here _))) rfl hband).trans ?_
  refine (Document.foldlM_cons [] "sources" rfl (.here _) rfl hsources).trans ?_
  refine (Document.foldlM_cons [] "enforcement" rfl (.here _) rfl henforcement).trans ?_
  refine (Document.foldlM_cons [] "report" rfl (.here _) rfl hreport).trans ?_
  refine (Document.foldlM_cons [] "logging" rfl (.here _) rfl hlogging).trans ?_
  rfl

end Config

/-! ## Sections read back -/

section Sections

open Toml.Value Schema

theorem Toml.Value.spellsList_texts (texts : List String) :
    SpellsList SpellsText (.list (texts.map .text)) texts := by
  refine .list (List.forall₂_map_left_iff.mpr (List.forall₂_same.mpr ?_))
  exact fun s _ => rfl

theorem Toml.Value.spellsList_addresses (sources : List Address) :
    SpellsList SpellsAddress (.list ((sources.map Address.toText).map .text)) sources := by
  rw [List.map_map]
  refine .list (List.forall₂_map_left_iff.mpr (List.forall₂_same.mpr ?_))
  exact fun source _ => ⟨source.toText, rfl, source.ofText?_toText⟩

theorem MonitorSettings.follows_fields (m d : MonitorSettings) :
    schema.Follows (some (.table .headed (Toml.entries m.fields))) d m := by
  refine follows_table ?_
  simp only [List.forall_mem_cons]
  exact ⟨follows_given rfl (spellsList_texts m.interfaces), follows_given rfl rfl,
    follows_given rfl rfl, follows_given rfl rfl, follows_given rfl rfl, follows_given rfl rfl,
    List.forall_mem_nil _⟩

theorem VolumeSettings.follows_table (v d : VolumeSettings) :
    schema.Follows (some (.table .headed v.table)) d v := by
  refine Schema.follows_table ?_
  simp only [List.forall_mem_cons]
  exact ⟨follows_given rfl rfl, follows_given rfl rfl, List.forall_mem_nil _⟩

theorem SizeBand.spellsBand_table (band : SizeBand) :
    SpellsBand (.table .headed band.table) band :=
  ⟨_, _, rfl, rfl, rfl, rfl⟩

theorem PatternSettings.follows_table (p d : PatternSettings) :
    schema.Follows (some (.table .headed p.table)) d p := by
  refine Schema.follows_table ?_
  simp only [List.forall_mem_cons]
  exact ⟨follows_given rfl rfl, follows_given rfl rfl, follows_given rfl (.name p.comparison),
    follows_given rfl p.band.spellsBand_table, List.forall_mem_nil _⟩

theorem RuleSettings.follows_table (r d : RuleSettings) :
    schema.Follows (some (.table .headed r.table)) d r := by
  refine Schema.follows_table ?_
  simp only [List.forall_mem_cons]
  exact ⟨follows_given rfl (.name r.combine), follows_within rfl (r.volume.follows_table _),
    follows_within rfl (r.pattern.follows_table _), List.forall_mem_nil _⟩

theorem SourceSettings.follows_fields (s d : SourceSettings) :
    schema.Follows (some (.table .headed (Toml.entries s.fields))) d s := by
  refine follows_table ?_
  simp only [List.forall_mem_cons]
  exact ⟨follows_given rfl (spellsList_addresses s.exempt),
    follows_given rfl (spellsList_addresses s.watched), List.forall_mem_nil _⟩

theorem EnforcementSettings.follows_fields (e d : EnforcementSettings) :
    schema.Follows (some (.table .headed (Toml.entries e.fields))) d e := by
  refine follows_table ?_
  simp only [List.forall_mem_cons]
  exact ⟨follows_given rfl (.name e.backend), follows_given rfl rfl, follows_given rfl rfl,
    follows_given rfl rfl, List.forall_mem_nil _⟩

theorem LoggingSettings.follows_fields (l d : LoggingSettings) :
    schema.Follows (some (.table .headed (Toml.entries l.fields))) d l := by
  refine follows_table ?_
  simp only [List.forall_mem_cons]
  exact ⟨follows_given rfl rfl, follows_given rfl rfl, follows_given rfl rfl,
    follows_given rfl rfl, List.forall_mem_nil _⟩

end Sections

namespace Config

open Schema in
/-- **The table of a configuration** says the configuration. -/
theorem ofTable?_table (c : Config) : ofTable? c.table = some c := by
  have hmode : ReportSettings.schema.Follows
      (some (.table .headed (Toml.entries [("mode", .text c.report.mode.name)]))) {} c.report := by
    refine follows_table ?_
    simp only [List.forall_mem_cons]
    exact ⟨follows_given rfl (.name c.report.mode), List.forall_mem_nil _⟩
  refine (isReadBy.reads _ c).mpr (follows_table ?_)
  simp only [List.forall_mem_cons]
  exact ⟨follows_within rfl (c.monitor.follows_fields _),
    follows_within rfl (c.rules.follows_table _), follows_within rfl (c.sources.follows_fields _),
    follows_within rfl (c.enforcement.follows_fields _), follows_within rfl hmode,
    follows_within rfl (c.logging.follows_fields _), List.forall_mem_nil _⟩

/-- **A written configuration** is read back, whatever its texts are, if its numbers fit. -/
theorem ofText?_toText {c : Config} (hc : c.Fits) : ofText? c.toText = some c := by
  have hread : Toml.read? c.toText = some c.table := by
    rw [Toml.read?, toText, String.toList_ofList, Toml.statements?_write (isPlain_of_mem_sections hc)]
    simp only [Option.bind_eq_bind, Option.bind_some, ofStatements?_sections]
  rw [ofText?, hread, Option.bind_some, ofTable?_table]

/-! ## Saving and loading -/

section Saving

variable {m : Type → Type} [Monad m] [LawfulMonad m]

/-- The last step of storing is to write, with the fault told by the path. -/
theorem mapError_write (fs : FileSystem m) (path text : String) :
    (do
      match ← fs.write path text with
      | .error fault => pure (.error (ConfigError.notWritten path fault))
      | .ok () => pure (.ok ())) =
      Except.mapError (ConfigError.notWritten path) <$> fs.write path text := by
  rw [map_eq_pure_bind]
  refine congrArg _ (funext fun written => ?_)
  cases written <;> rfl

/-- Storing a text in a file of the current folder only writes it. -/
theorem store_of_no_folder (fs : FileSystem m) {path : String} (h : Path.folder? path = none)
    (text : String) :
    store fs path text = Except.mapError (.notWritten path) <$> fs.write path text := by
  rw [store, h, ← mapError_write]
  refine (pure_bind _ _).trans ?_
  rfl

/-- Storing a text in a file of another folder makes the folder first, and does not write if this
fails. -/
theorem store_of_folder (fs : FileSystem m) {path folder : String}
    (h : Path.folder? path = some folder) (text : String) :
    store fs path text = (do
      match ← fs.makeFolders folder with
      | .error fault => pure (.error (.notWritten folder fault))
      | .ok () => Except.mapError (.notWritten path) <$> fs.write path text) := by
  rw [store, h, ← mapError_write]
  dsimp only
  refine congrArg _ (funext fun made => ?_)
  cases made with
  | error fault => exact pure_bind _ _
  | ok => exact pure_bind _ _

end Saving

section Keeping

variable {σ : Type} {s s' : σ}

theorem run_of_mapError {x : StateM σ (Except FileFault Unit)} {f : FileFault → ConfigError}
    (h : (Except.mapError f <$> x).run s = (.ok (), s')) : x.run s = (.ok (), s') := by
  rw [StateT.run_map] at h
  rcases hx : x.run s with ⟨fault | _, s₁⟩
  · rw [hx] at h
    cases h
  · rw [hx] at h
    cases h
    rfl

variable {fs : FileSystem (StateM σ)}

/-- **What was stored** in a file system that keeps what is written is read. -/
theorem read_of_store (hfs : fs.Keeps) {path text : String}
    (h : (store fs path text).run s = (.ok (), s')) : ((fs.read path).run s').1 = .ok text := by
  cases hfolder : Path.folder? path with
  | none =>
    rw [store_of_no_folder fs hfolder] at h
    exact hfs path text s s' (run_of_mapError h)
  | some folder =>
    rw [store_of_folder fs hfolder, StateT.run_bind] at h
    rcases hmade : (fs.makeFolders folder).run s with ⟨fault | _, s₁⟩
    · -- nothing is written when the folder cannot be made
      rw [hmade] at h
      cases h
    · rw [hmade] at h
      exact hfs path text s₁ s' (run_of_mapError h)

/-- A file whose text says a configuration is loaded as this configuration. -/
theorem load_of_read {path text : String} {c : Config} (htext : ofText? text = some c)
    (h : ((fs.read path).run s).1 = .ok text) : ((load fs path).run s).1 = .ok c := by
  rw [load, StateT.run_bind]
  rcases hread : (fs.read path).run s with ⟨r, s₁⟩
  rw [hread] at h
  cases h
  change parse text = .ok c
  rw [parse, htext]

end Keeping

/-- **Saving and loading loses nothing.** A configuration whose numbers fit into 64 bits with a sign
is saved as a text that says the same configuration: the folder of the file is made, if the file is
not in the current one, then the text is written, and the first fault ends the saving. Whatever is
saved in a file system that keeps what is written is loaded from it. Any other configuration is not
saved, and no file or folder is touched. -/
theorem save_exact (c : Config) :
    (c.Fits → ∃ text, ofText? text = some c ∧
      (∀ {m : Type → Type} [Monad m] [LawfulMonad m] (fs : FileSystem m) (path : String),
        (Path.folder? path = none →
          c.save fs path = Except.mapError (.notWritten path) <$> fs.write path text) ∧
        ∀ folder, Path.folder? path = some folder →
          c.save fs path = (do
            match ← fs.makeFolders folder with
            | .error fault => pure (.error (.notWritten folder fault))
            | .ok () => Except.mapError (.notWritten path) <$> fs.write path text)) ∧
      ∀ {σ : Type} (fs : FileSystem (StateM σ)), fs.Keeps → ∀ (path : String) (s s' : σ),
        (c.save fs path).run s = (.ok (), s') → ((load fs path).run s').1 = .ok c) ∧
    (¬ c.Fits → ∀ {m : Type → Type} [Monad m] (fs : FileSystem m) (path : String),
      c.save fs path = pure (.error .tooLarge)) := by
  constructor
  · intro hc
    have htext := ofText?_toText hc
    have hsave : ∀ {m : Type → Type} [Monad m] (fs : FileSystem m) (path : String),
        c.save fs path = store fs path c.toText := by
      intro m _ fs path
      rw [save, toText?, if_pos (c.isWritable_iff.mpr hc)]
    refine ⟨c.toText, htext, ?_, ?_⟩
    · intro m _ _ fs path
      rw [hsave]
      exact ⟨fun h => store_of_no_folder fs h _, fun folder h => store_of_folder fs h _⟩
    · intro σ fs hfs path s s' h
      rw [hsave] at h
      exact load_of_read htext (read_of_store hfs h)
  · intro hc m _ fs path
    refine save_of_not_isWritable fs path ?_
    rw [← Bool.not_eq_true, isWritable_iff]
    exact hc

/-- A configuration with the largest number that fits and texts that need every kind of quotes and
escapes is saved in a folder that is not there yet and loaded again; one with the next number is
refused by every file system. -/
theorem save_exact_of_quotes :
    let monitor : MonitorSettings :=
      { interfaces := ["\"", "\x27", "\"\x27", "\\", "\n\"\"\"\x01", "\r\n",
          "\\\x27\x27\x27\"\"\"\x7f", ""]
        tickMillis := 9223372036854775807 }
    let c : Config := { monitor, sources := { exempt := [.v6 0x20010db8000000000000000000000001] } }
    let larger : Config := { c with monitor := { monitor with tickMillis := 9223372036854775808 } }
    let fs := FileTree.system []
    c.Fits ∧
      (∃ tree, (c.save fs "conf/guard.toml").run .empty = (.ok (), tree) ∧
        ((load fs "conf/guard.toml").run tree).1 = .ok c) ∧
      ¬ larger.Fits ∧
      ∀ {m : Type → Type} [Monad m] (fs : FileSystem m),
        larger.save fs "conf/guard.toml" = pure (.error .tooLarge) := by
  intro monitor c larger fs
  have hc : c.Fits := c.isWritable_iff.mp (by decide +kernel)
  have hlarger : ¬ larger.Fits := mt larger.isWritable_iff.mpr (by decide +kernel)
  have hfolder : Path.folder? "conf/guard.toml" = some "conf" := by decide +kernel
  obtain ⟨text, -, hsave, hload⟩ := (save_exact c).1 hc
  have hsaved : ∃ tree, (c.save fs "conf/guard.toml").run .empty = (.ok (), tree) := by
    rw [(hsave fs "conf/guard.toml").2 "conf" hfolder]
    exact ⟨_, rfl⟩
  obtain ⟨tree, htree⟩ := hsaved
  have hloaded := hload fs (FileTree.keeps_system []) _ _ _ htree
  exact ⟨hc, ⟨tree, htree, hloaded⟩, hlarger, fun fs => (save_exact larger).2 hlarger fs _⟩

end Config

end SourceGuard
