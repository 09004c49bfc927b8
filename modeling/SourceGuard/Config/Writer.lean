import SourceGuard.Address.Printer
import SourceGuard.Config
import SourceGuard.Toml.Section

/-!
# Writing a configuration

A configuration is written with every setting, in sections. The written form has whole numbers of
64 bits with a sign only, so a configuration with a larger number has none.

## Main definitions

* `Config.sections`: the sections of a configuration
* `Config.toText?`: its written form
-/

namespace SourceGuard

namespace MonitorSettings

/-- The capture settings as they are written. -/
def fields (m : MonitorSettings) : List (String × Toml.Field) :=
  [("interfaces", .texts m.interfaces), ("tick_interval_ms", .count m.tickMillis.toNat),
    ("window_secs", .count m.windowSeconds.toNat), ("block_secs", .count m.blockSeconds.toNat),
    ("reconcile_interval_secs", .count m.reconcileSeconds.toNat), ("tcp_only", .flag m.tcpOnly)]

end MonitorSettings

namespace RuleSettings

/-- The sections of the rules. -/
def sections (r : RuleSettings) : List Toml.Section :=
  [⟨["rules"], [("combine", .text r.combine.name)]⟩,
    ⟨["rules", "volume"],
      [("enabled", .flag r.volume.enabled), ("byte_threshold", .count r.volume.threshold.toNat)]⟩,
    ⟨["rules", "pattern"],
      [("enabled", .flag r.pattern.enabled), ("limit", .count r.pattern.limit.toNat),
        ("comparison", .text r.pattern.comparison.name)]⟩,
    ⟨["rules", "pattern", "band"],
      [("above", .count r.pattern.band.above.toNat), ("below", .count r.pattern.band.below.toNat)]⟩]

end RuleSettings

namespace SourceSettings

/-- The source lists as they are written. -/
def fields (s : SourceSettings) : List (String × Toml.Field) :=
  [("exempt", .texts (s.exempt.map Address.toText)),
    ("watched", .texts (s.watched.map Address.toText))]

end SourceSettings

namespace EnforcementSettings

/-- The enforcement settings as they are written. -/
def fields (e : EnforcementSettings) : List (String × Toml.Field) :=
  [("backend", .text e.backend.name), ("iptables_path", .text e.iptables),
    ("ip6tables_path", .text e.ip6tables), ("chain", .text e.chain)]

end EnforcementSettings

namespace LoggingSettings

/-- The logging settings as they are written. -/
def fields (l : LoggingSettings) : List (String × Toml.Field) :=
  [("level", .text l.level), ("format", .text l.format), ("output", .text l.output),
    ("file_path", .text l.file)]

end LoggingSettings

namespace Config

/-- The sections of a configuration. -/
def sections (c : Config) : List Toml.Section :=
  ⟨["monitor"], c.monitor.fields⟩ :: c.rules.sections ++
    [⟨["sources"], c.sources.fields⟩, ⟨["enforcement"], c.enforcement.fields⟩,
      ⟨["report"], [("mode", .text c.report.mode.name)]⟩, ⟨["logging"], c.logging.fields⟩]

/-- The settings of 64 bits. -/
def counts (c : Config) : List UInt64 :=
  [c.monitor.tickMillis, c.monitor.windowSeconds, c.monitor.blockSeconds,
    c.monitor.reconcileSeconds, c.rules.volume.threshold, c.rules.pattern.limit]

/-- Whether every number of a configuration can be written. -/
def isWritable (c : Config) : Bool := c.counts.all (·.toNat < UInt64.size / 2)

/-- The written form of a configuration. -/
def toText (c : Config) : String := String.ofList (Toml.write c.sections)

/-- The written form of a configuration, if its numbers have one. -/
def toText? (c : Config) : Option String := if c.isWritable then some c.toText else none

end Config

end SourceGuard
