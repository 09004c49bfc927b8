import SourceGuard.Proofs.Config.Schema

/-!
# Partial configurations

A document may give any of the settings and leave out the others, with their sections or without
them. It says the default configuration with exactly these settings replaced: the default of a
section that is left out agrees with the defaults of its settings. Whatever else the document holds
is passed over. One value that spells no content of its setting makes the whole document unreadable.

The kinds of values are wider than the natural ones. A section and a size band may also be lists of
their settings, a date or a time stands for a section without any, and a choice may be the only key
of a table.

## Main definitions

* `Config.DefaultsAgree`: the defaults of settings and those of sections
* `Config.schema`: the sections and settings of a configuration

## Main results

* `Config.defaultsAgree`: they never disagree
* `Config.isReadBy`: configurations are read by their schema
* `Config.ofTable?_eq_of_given`: only what is given to the settings counts
* `Config.ofText?_partial`: what partial documents say
* `Config.ofText?_of_other_kinds`: documents with values of other kinds
-/

namespace SourceGuard

open Toml (Value Table)
open Toml.Value Schema ReadsParts

/-! ## Defaults -/

/-- The defaults of the settings of a section are together the default section, at all three
levels. -/
structure Config.DefaultsAgree : Prop where
  monitor : MonitorSettings.omitted = {}
  volume : VolumeSettings.omitted = {}
  pattern : PatternSettings.omitted = {}
  rules : RuleSettings.omitted = {}
  sources : SourceSettings.omitted = {}
  enforcement : EnforcementSettings.omitted = {}
  report : ReportSettings.omitted = {}
  logging : LoggingSettings.omitted = {}
  config : Config.omitted = {}

/-- **The two kinds of defaults never disagree.** -/
theorem Config.defaultsAgree : DefaultsAgree := by
  constructor <;> rfl

/-! ## The sections of a configuration -/

/-- The capture settings. -/
def MonitorSettings.schema : Schema MonitorSettings := .ofParts
  [.below (0, "interfaces") interfaces (.leaf (SpellsList SpellsText)),
    .below (1, "tick_interval_ms") tickMillis (.leaf (SpellsCount UInt64.toNat)),
    .below (2, "window_secs") windowSeconds (.leaf (SpellsCount UInt64.toNat)),
    .below (3, "block_secs") blockSeconds (.leaf (SpellsCount UInt64.toNat)),
    .below (4, "reconcile_interval_secs") reconcileSeconds (.leaf (SpellsCount UInt64.toNat)),
    .below (5, "tcp_only") tcpOnly (.leaf SpellsFlag)]

theorem MonitorSettings.isReadBy : schema.IsReadBy ofValue? omitted := by
  refine isReadBy_ofParts (cons interfaces (isReadBy_leaf reads_asText.asList _) fun _ => ?_)
  refine cons tickMillis (isReadBy_leaf reads_asCount64 _) fun _ => ?_
  refine cons windowSeconds (isReadBy_leaf reads_asCount64 _) fun _ => ?_
  refine cons blockSeconds (isReadBy_leaf reads_asCount64 _) fun _ => ?_
  refine cons reconcileSeconds (isReadBy_leaf reads_asCount64 _) fun _ => ?_
  refine cons tcpOnly (isReadBy_leaf reads_asBool _) fun _ => nil fun c => ?_
  cases c
  simp [and_assoc]

/-- The settings of the volume rule. -/
def VolumeSettings.schema : Schema VolumeSettings := .ofParts
  [.below (0, "enabled") enabled (.leaf SpellsFlag),
    .below (1, "byte_threshold") threshold (.leaf (SpellsCount UInt64.toNat))]

theorem VolumeSettings.isReadBy : schema.IsReadBy ofValue? omitted := by
  refine isReadBy_ofParts (cons enabled (isReadBy_leaf reads_asBool _) fun _ => ?_)
  refine cons threshold (isReadBy_leaf reads_asCount64 _) fun _ => nil fun c => ?_
  cases c
  simp

/-- The settings of the pattern rule. -/
def PatternSettings.schema : Schema PatternSettings := .ofParts
  [.below (0, "enabled") enabled (.leaf SpellsFlag),
    .below (1, "limit") limit (.leaf (SpellsCount UInt64.toNat)),
    .below (2, "comparison") comparison (.leaf (SpellsChoice Comparison.name)),
    .below (3, "band") band (.leaf SpellsBand)]

theorem PatternSettings.isReadBy : schema.IsReadBy ofValue? omitted := by
  have hcomparison : Reads (asChoice? [.exact, .atLeast] Comparison.name)
      (SpellsChoice Comparison.name) :=
    reads_asChoice (fun a => by cases a <;> decide) fun a b => by cases a <;> cases b <;> decide
  refine isReadBy_ofParts (cons enabled (isReadBy_leaf reads_asBool _) fun _ => ?_)
  refine cons limit (isReadBy_leaf reads_asCount64 _) fun _ => ?_
  refine cons comparison (isReadBy_leaf hcomparison _) fun _ => ?_
  refine cons band (isReadBy_leaf reads_band _) fun _ => nil fun c => ?_
  cases c
  simp [and_assoc]

/-- The rules. -/
def RuleSettings.schema : Schema RuleSettings := .ofParts
  [.below (0, "combine") combine (.leaf (SpellsChoice Combine.name)),
    .below (1, "volume") volume VolumeSettings.schema,
    .below (2, "pattern") pattern PatternSettings.schema]

theorem RuleSettings.isReadBy : schema.IsReadBy ofValue? omitted := by
  have hcombine : Reads (asChoice? [.any, .all] Combine.name) (SpellsChoice Combine.name) :=
    reads_asChoice (fun a => by cases a <;> decide) fun a b => by cases a <;> cases b <;> decide
  refine isReadBy_ofParts (cons combine (isReadBy_leaf hcombine _) fun _ => ?_)
  -- a rule that is left out is the default one, which its settings agree with
  refine cons volume (VolumeSettings.isReadBy.of_eq Config.defaultsAgree.volume) fun _ => ?_
  refine cons pattern (PatternSettings.isReadBy.of_eq Config.defaultsAgree.pattern) fun _ => nil fun c => ?_
  cases c
  simp [and_assoc]

/-- The source lists. -/
def SourceSettings.schema : Schema SourceSettings := .ofParts
  [.below (0, "exempt") exempt (.leaf (SpellsList SpellsAddress)),
    .below (1, "watched") watched (.leaf (SpellsList SpellsAddress))]

theorem SourceSettings.isReadBy : schema.IsReadBy ofValue? omitted := by
  refine isReadBy_ofParts (cons exempt (isReadBy_leaf reads_asAddress.asList _) fun _ => ?_)
  refine cons watched (isReadBy_leaf reads_asAddress.asList _) fun _ => nil fun c => ?_
  cases c
  simp

/-- The enforcement settings. -/
def EnforcementSettings.schema : Schema EnforcementSettings := .ofParts
  [.below (0, "backend") backend (.leaf (SpellsChoice Backend.name)),
    .below (1, "iptables_path") iptables (.leaf SpellsText),
    .below (2, "ip6tables_path") ip6tables (.leaf SpellsText),
    .below (3, "chain") chain (.leaf SpellsText)]

theorem EnforcementSettings.isReadBy : schema.IsReadBy ofValue? omitted := by
  have hbackend : Reads (asChoice? [.iptables, .dryRun] Backend.name)
      (SpellsChoice Backend.name) :=
    reads_asChoice (fun a => by cases a <;> decide) fun a b => by cases a <;> cases b <;> decide
  refine isReadBy_ofParts (cons backend (isReadBy_leaf hbackend _) fun _ => ?_)
  refine cons iptables (isReadBy_leaf reads_asText _) fun _ => ?_
  refine cons ip6tables (isReadBy_leaf reads_asText _) fun _ => ?_
  refine cons chain (isReadBy_leaf reads_asText _) fun _ => nil fun c => ?_
  cases c
  simp [and_assoc]

/-- The report settings. -/
def ReportSettings.schema : Schema ReportSettings := .ofParts
  [.below (0, "mode") mode (.leaf (SpellsChoice ReportMode.name))]

theorem ReportSettings.isReadBy : schema.IsReadBy ofValue? omitted := by
  have hmode : Reads (asChoice? [.table, .json, .log, .off] ReportMode.name)
      (SpellsChoice ReportMode.name) :=
    reads_asChoice (fun a => by cases a <;> decide) fun a b => by cases a <;> cases b <;> decide
  refine isReadBy_ofParts (cons mode (isReadBy_leaf hmode _) fun _ => nil fun c => ?_)
  cases c
  simp

/-- The logging settings. -/
def LoggingSettings.schema : Schema LoggingSettings := .ofParts
  [.below (0, "level") level (.leaf SpellsText),
    .below (1, "format") format (.leaf SpellsText),
    .below (2, "output") output (.leaf SpellsText),
    .below (3, "file_path") file (.leaf SpellsText)]

theorem LoggingSettings.isReadBy : schema.IsReadBy ofValue? omitted := by
  refine isReadBy_ofParts (cons level (isReadBy_leaf reads_asText _) fun _ => ?_)
  refine cons format (isReadBy_leaf reads_asText _) fun _ => ?_
  refine cons output (isReadBy_leaf reads_asText _) fun _ => ?_
  refine cons file (isReadBy_leaf reads_asText _) fun _ => nil fun c => ?_
  cases c
  simp [and_assoc]

/-! ## Partial documents -/

namespace Config

/-- The sections and settings of a configuration. -/
def schema : Schema Config := .ofParts
  [.below (0, "monitor") monitor MonitorSettings.schema,
    .below (1, "rules") rules RuleSettings.schema,
    .below (2, "sources") sources SourceSettings.schema,
    .below (3, "enforcement") enforcement EnforcementSettings.schema,
    .below (4, "report") report ReportSettings.schema,
    .below (5, "logging") logging LoggingSettings.schema]

/-- **Configurations** are read by their schema, with the default one where nothing is given. A
section that is left out is the default section, which its settings agree with. -/
theorem isReadBy : schema.IsReadBy ofValue? {} := by
  have hd := defaultsAgree
  refine IsReadBy.of_eq ?_ hd.config
  refine isReadBy_ofParts (cons monitor (MonitorSettings.isReadBy.of_eq hd.monitor) fun _ => ?_)
  refine cons rules (RuleSettings.isReadBy.of_eq hd.rules) fun _ => ?_
  refine cons sources (SourceSettings.isReadBy.of_eq hd.sources) fun _ => ?_
  refine cons enforcement (EnforcementSettings.isReadBy.of_eq hd.enforcement) fun _ => ?_
  refine cons report (ReportSettings.isReadBy.of_eq hd.report) fun _ => ?_
  refine cons logging (LoggingSettings.isReadBy.of_eq hd.logging) fun _ => nil fun c => ?_
  cases c
  simp [and_assoc]

example : schema.settings.map (fun x => x.path.map (·.2)) =
    [["monitor", "interfaces"], ["monitor", "tick_interval_ms"], ["monitor", "window_secs"],
      ["monitor", "block_secs"], ["monitor", "reconcile_interval_secs"], ["monitor", "tcp_only"],
      ["rules", "combine"], ["rules", "volume", "enabled"], ["rules", "volume", "byte_threshold"],
      ["rules", "pattern", "enabled"], ["rules", "pattern", "limit"],
      ["rules", "pattern", "comparison"], ["rules", "pattern", "band"], ["sources", "exempt"],
      ["sources", "watched"], ["enforcement", "backend"], ["enforcement", "iptables_path"],
      ["enforcement", "ip6tables_path"], ["enforcement", "chain"], ["report", "mode"],
      ["logging", "level"], ["logging", "format"], ["logging", "output"],
      ["logging", "file_path"]] := rfl

/-- **Only what is given to the settings counts**, if what stands for the sections are sections. -/
theorem ofTable?_eq_of_given {t t' : Table} (ht : schema.HasSections (some (.table .headed t)))
    (ht' : schema.HasSections (some (.table .headed t')))
    (h : ∀ x ∈ schema.settings,
      x.given? (some (.table .headed t')) = x.given? (some (.table .headed t))) :
    ofTable? t' = ofTable? t := by
  have hfollows : ∀ c, schema.Follows (some (.table .headed t')) {} c ↔
      schema.Follows (some (.table .headed t)) {} c := fun c =>
    and_congr (iff_of_true ht' ht) (forall₂_congr fun x hx => by
      rw [Setting.Follows, Setting.Follows, h x hx])
  refine Option.ext fun c => ?_
  exact (isReadBy.reads _ c).trans ((hfollows c).trans (isReadBy.reads _ c).symm)

/-- **Partial documents.** The defaults of the single settings agree with those of the sections. A
document whose sections are sections and whose given settings are well-typed says the default
configuration with exactly these settings replaced, and so does any other that gives the same to the
settings, whatever else it holds. One given setting that is not well-typed, or one section that is
none, makes a document unreadable, whatever else it holds. -/
theorem ofText?_partial (text : String) :
    DefaultsAgree ∧ (Toml.read? text = none → ofText? text = none) ∧
      ∀ t, Toml.read? text = some t →
        let document := some (Value.table .headed t)
        (schema.WellTyped document →
          ∃ c, ofText? text = some c ∧ schema.Follows document {} c ∧
            (∀ c', schema.Follows document {} c' → c' = c) ∧
            ∀ t', schema.HasSections (some (.table .headed t')) →
              (∀ x ∈ schema.settings,
                x.given? (some (.table .headed t')) = x.given? document) → ofTable? t' = some c) ∧
        (∀ x ∈ schema.settings, ∀ v, x.given? document = some v → (∀ a, ¬ x.Spells v a) →
          ofText? text = none) ∧
        ∀ path ∈ schema.sections, ∀ v, (Value.table .headed t).at? path = some v →
          ¬ v.IsSection → ofText? text = none := by
  refine ⟨defaultsAgree, fun h => by rw [ofText?, h]; rfl, fun t ht => ?_⟩
  intro document
  have htext : ofText? text = ofTable? t := by
    rw [ofText?, ht]
    rfl
  have hwell : ∀ c, ofText? text = some c → schema.WellTyped document := fun c hc =>
    isReadBy.wellTyped_of_read (htext.symm.trans hc)
  refine ⟨fun hdocument => ?_, fun x hx v hv hspells => ?_, fun path hpath v hv hsection => ?_⟩
  · obtain ⟨c, hc⟩ := isReadBy.exists_read hdocument
    have hfollows := (isReadBy.reads _ c).mp hc
    refine ⟨c, htext.trans hc, hfollows, fun c' hc' => isReadBy.eq_of_follows hc' hfollows, ?_⟩
    intro t' ht' hgiven
    exact (ofTable?_eq_of_given hdocument.1 ht' hgiven).trans hc
  · by_contra hread
    obtain ⟨c, hc⟩ := Option.ne_none_iff_exists'.mp hread
    obtain ⟨a, ha⟩ := (hwell c hc).2 x hx v hv
    exact hspells a ha
  · by_contra hread
    obtain ⟨c, hc⟩ := Option.ne_none_iff_exists'.mp hread
    exact hsection ((hwell c hc).1 path hpath v hv)

/-- A document that gives one setting beside an empty section and a strange key, and another one that
does so in another way; documents with half of a size band and with a text for a section; and one
that breaks off. -/
theorem ofText?_partial_of_strangers :
    let t : Table :=
      [("z", .integer 1), ("sources", .table .headed []),
        ("monitor", .table .headed [("window_secs", .integer 9)])]
    let t' : Table :=
      [("rules", .table .headed [("pattern", .table .dotted [("z", .text "")])]),
        ("monitor", .table .inline [("z", .list []), ("window_secs", .integer 9)]),
        ("report", .moment "07:32:00")]
    let c : Config := { monitor := { windowSeconds := 9 } }
    let band : Setting Config :=
      ⟨SizeBand, [(1, "rules"), (2, "pattern"), (3, "band")], SpellsBand, (·.rules.pattern.band)⟩
    (Toml.read? "z = 1\n[sources]\n[monitor]\nwindow_secs = 9\n" = some t ∧
        schema.WellTyped (some (.table .headed t)) ∧
        schema.HasSections (some (.table .headed t')) ∧
        ofText? "z = 1\n[sources]\n[monitor]\nwindow_secs = 9\n" = some c ∧
        schema.Follows (some (.table .headed t)) {} c ∧ ofTable? t' = some c) ∧
      (band ∈ schema.settings ∧ ofText? "rules.pattern.band.above = 40" = none) ∧
      ofText? "logging = \"\"\n[z]" = none ∧ ofText? "monitor = " = none := by
  intro t t' c band
  have hread : Toml.read? "z = 1\n[sources]\n[monitor]\nwindow_secs = 9\n" = some t := rfl
  have htable : ofTable? t = some c := rfl
  have hwell : schema.WellTyped (some (.table .headed t)) := isReadBy.wellTyped_of_read htable
  have hsections : schema.HasSections (some (.table .headed t')) :=
    (isReadBy.wellTyped_of_read (show ofTable? t' = some c from rfl)).1
  have hgiven : ∀ x ∈ schema.settings,
      x.given? (some (.table .headed t')) = x.given? (some (.table .headed t)) :=
    List.map_inj_left.mp rfl
  obtain ⟨c', hc', hfollows, -, hsame⟩ := ((ofText?_partial _).2.2 t hread).1 hwell
  have hc : some c' = some c := by
    rw [← hc', ofText?, hread]
    exact htable
  cases Option.some.inj hc
  have hband : band ∈ schema.settings :=
    List.mem_of_getElem? (show schema.settings[12]? = some band from rfl)
  have hhalf : ofText? "rules.pattern.band.above = 40" = none := by
    have hread : Toml.read? "rules.pattern.band.above = 40" =
        some [("rules", .table .dotted [("pattern", .table .dotted
          [("band", .table .dotted [("above", .integer 40)])])])] := rfl
    refine ((ofText?_partial _).2.2 _ hread).2.1 band hband _ rfl ?_
    rintro a ⟨above, below, -, hbelow, -⟩
    cases hbelow
  have hline : ofText? "logging = \"\"\n[z]" = none := by
    have hread : Toml.read? "logging = \"\"\n[z]" =
        some [("logging", .text ""), ("z", .table .headed [])] := rfl
    refine ((ofText?_partial _).2.2 _ hread).2.2 [(5, "logging")] (by decide) _ rfl ?_
    intro hsection
    cases hsection
  exact ⟨⟨hread, hwell, hsections, hc', hfollows, hsame t' hsections hgiven⟩, ⟨hband, hhalf⟩, hline,
    (ofText?_partial "monitor = ").2.1 rfl⟩

/-- **Values of other kinds** than the natural ones are read all the same: a date for a section, a
list for the size band, and a table for a choice. -/
theorem ofText?_of_other_kinds :
    let monitor := [(0, "monitor")]
    let band := [(1, "rules"), (2, "pattern"), (3, "band")]
    let mode := [(4, "report"), (0, "mode")]
    (¬ ∀ text t v, Toml.read? text = some t → (Value.table .headed t).at? monitor = some v →
        (∀ origin entries, v ≠ .table origin entries) → ofText? text = none) ∧
      (¬ ∀ text t v, Toml.read? text = some t → (Value.table .headed t).at? band = some v →
        (∀ origin entries, v ≠ .table origin entries) → ofText? text = none) ∧
      ¬ ∀ text t v, Toml.read? text = some t → (Value.table .headed t).at? mode = some v →
        (∀ s, v ≠ .text s) → ofText? text = none := by
  intro monitor band mode
  have hmoment : Toml.read? "monitor = 1979-05-27\n[report]\nmode = \x7b json = [] \x7d" =
      some [("monitor", .moment "1979-05-27"),
        ("report", .table .headed [("mode", .table .inline [("json", .list [])])])] := rfl
  have hbounds : Toml.read? "rules.pattern.band = [40, 80]" =
      some [("rules", .table .dotted [("pattern", .table .dotted
        [("band", .list [.integer 40, .integer 80])])])] := rfl
  have hsaid : ofText? "monitor = 1979-05-27\n[report]\nmode = \x7b json = [] \x7d" =
      some { report := { mode := .json } } := rfl
  have hsaid' : ofText? "rules.pattern.band = [40, 80]" =
      some { rules := { pattern := { band := ⟨40, 80⟩ } } } := rfl
  refine ⟨fun h => ?_, fun h => ?_, fun h => ?_⟩
  · have hnone := h _ _ _ hmoment rfl fun origin entries heq => by cases heq
    cases hnone.symm.trans hsaid
  · have hnone := h _ _ _ hbounds rfl fun origin entries heq => by cases heq
    cases hnone.symm.trans hsaid'
  · have hnone := h _ _ _ hmoment rfl fun s heq => by cases heq
    cases hnone.symm.trans hsaid

end Config

end SourceGuard
