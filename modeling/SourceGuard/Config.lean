import SourceGuard.Clock
import SourceGuard.Report.Mode
import SourceGuard.Rule

/-!
# The configuration

The configuration has six sections. Every section has a default, which is that of its structure, and
the default configuration has the default sections. Apart from that, every setting has a default of
its own, for sections that are there but leave it out.

## Main definitions

* `Config`: the configuration
* `Config.omitted`, `MonitorSettings.omitted` and so on: the defaults of the single settings
* `Config.ruleSet`, `Config.policy`: what the guard makes of it
-/

namespace SourceGuard

/-! ### Values for defaults -/

namespace Default

def interfaces : List String := ["eth1", "eth2"]
def tickMillis : UInt64 := 1000
def windowSeconds : UInt64 := 30
def blockSeconds : UInt64 := 30
def enabled : Bool := true
def threshold : UInt64 := 20000
def limit : UInt64 := 2
def iptables : String := "iptables"
def ip6tables : String := "ip6tables"
def chain : String := "FORWARD"
def level : String := "info"
def format : String := "pretty"
def output : String := "stderr"
def file : String := "./logs/gatewarden.log"

end Default

/-! ### Sections -/

/-- How blocks are put into force. -/
inductive Backend where
  /-- By the rules of a packet filter. -/
  | iptables
  /-- Not at all; the guard reports what it would do. -/
  | dryRun
deriving DecidableEq, Repr, Inhabited

/-- What is captured, and the cadences of the monitor. -/
structure MonitorSettings where
  /-- The interfaces to capture on. -/
  interfaces : List String := Default.interfaces
  /-- The milliseconds between two ticks. -/
  tickMillis : UInt64 := Default.tickMillis
  /-- The seconds that the window spans. -/
  windowSeconds : UInt64 := Default.windowSeconds
  /-- The seconds that a block lasts. -/
  blockSeconds : UInt64 := Default.blockSeconds
  /-- The seconds between two re-assertions of the blocks; none for zero. -/
  reconcileSeconds : UInt64 := 0
  /-- Whether only TCP packets count. -/
  tcpOnly : Bool := false
deriving DecidableEq, Repr

/-- The volume rule. -/
structure VolumeSettings where
  /-- Whether the rule is in use. -/
  enabled : Bool := true
  /-- The number of bytes above which it fires. -/
  threshold : UInt64 := Default.threshold
deriving DecidableEq, Repr

/-- The pattern rule. -/
structure PatternSettings where
  /-- Whether the rule is in use. -/
  enabled : Bool := true
  /-- The number of packets at which it fires. -/
  limit : UInt64 := Default.limit
  /-- How the number is compared with the limit. -/
  comparison : Comparison := default
  /-- The lengths of the packets that count. -/
  band : SizeBand := default
deriving DecidableEq, Repr

/-- The rules. -/
structure RuleSettings where
  /-- How the rules make a violation. -/
  combine : Combine := default
  /-- The volume rule. -/
  volume : VolumeSettings := {}
  /-- The pattern rule. -/
  pattern : PatternSettings := {}
deriving DecidableEq, Repr

/-- Who may be blocked. -/
structure SourceSettings where
  /-- The sources that are never blocked. -/
  exempt : List Address := []
  /-- If there are any, the only sources that are blocked. -/
  watched : List Address := []
deriving DecidableEq, Repr

/-- How blocks are put into force. -/
structure EnforcementSettings where
  /-- The way. -/
  backend : Backend := default
  /-- The program for IPv4 rules. -/
  iptables : String := Default.iptables
  /-- The program for IPv6 rules. -/
  ip6tables : String := Default.ip6tables
  /-- The name of the chain. -/
  chain : String := Default.chain
deriving DecidableEq, Repr

/-- How snapshots are shown. -/
structure ReportSettings where
  /-- The mode. -/
  mode : ReportMode := default
deriving DecidableEq, Repr

/-- What is logged, how and where. -/
structure LoggingSettings where
  /-- The events that are logged. -/
  level : String := Default.level
  /-- The form of an event. -/
  format : String := Default.format
  /-- Where events are written. -/
  output : String := Default.output
  /-- The file for events. -/
  file : String := Default.file
deriving DecidableEq, Repr

/-- The configuration. -/
structure Config where
  monitor : MonitorSettings := {}
  rules : RuleSettings := {}
  sources : SourceSettings := {}
  enforcement : EnforcementSettings := {}
  report : ReportSettings := {}
  logging : LoggingSettings := {}
deriving DecidableEq, Repr

/-! ### Settings that are left out

The settings that a section has if it gives none of them, each with the default of its own. Where
a section stands below another, the default of the setting is the default section. -/

/-- The capture settings of a section that gives none. -/
def MonitorSettings.omitted : MonitorSettings where
  interfaces := Default.interfaces
  tickMillis := Default.tickMillis
  windowSeconds := Default.windowSeconds
  blockSeconds := Default.blockSeconds
  reconcileSeconds := default
  tcpOnly := default

/-- The volume rule of a section that gives nothing of it. -/
def VolumeSettings.omitted : VolumeSettings where
  enabled := Default.enabled
  threshold := Default.threshold

/-- The pattern rule of a section that gives nothing of it. -/
def PatternSettings.omitted : PatternSettings where
  enabled := Default.enabled
  limit := Default.limit
  comparison := default
  band := default

/-- The rules of a section that gives none. -/
def RuleSettings.omitted : RuleSettings where
  combine := default
  volume := {}
  pattern := {}

/-- The source lists of a section that gives none. -/
def SourceSettings.omitted : SourceSettings where
  exempt := default
  watched := default

/-- The enforcement settings of a section that gives none. -/
def EnforcementSettings.omitted : EnforcementSettings where
  backend := default
  iptables := Default.iptables
  ip6tables := Default.ip6tables
  chain := Default.chain

/-- The report settings of a section that gives none. -/
def ReportSettings.omitted : ReportSettings where
  mode := default

/-- The logging settings of a section that gives none. -/
def LoggingSettings.omitted : LoggingSettings where
  level := Default.level
  format := Default.format
  output := Default.output
  file := Default.file

/-- The configuration of a document without sections. -/
def Config.omitted : Config where
  monitor := {}
  rules := {}
  sources := {}
  enforcement := {}
  report := {}
  logging := {}

/-! ### Names -/

/-- The name of a way to combine rules. -/
def Combine.name : Combine → String
  | any => "any"
  | all => "all"

/-- The name of a comparison. -/
def Comparison.name : Comparison → String
  | exact => "exact"
  | atLeast => "at_least"

/-- The name of a way to put blocks into force. -/
def Backend.name : Backend → String
  | iptables => "iptables"
  | dryRun => "dry_run"

namespace Config

/-- The length of the window. -/
def windowSpan (c : Config) : Span := Span.ofSeconds c.monitor.windowSeconds.toNat

/-- The length of a block. -/
def blockSpan (c : Config) : Span := Span.ofSeconds c.monitor.blockSeconds.toNat

/-- The time between two ticks. -/
def tickSpan (c : Config) : Span := Span.ofMillis c.monitor.tickMillis.toNat

/-- The time between two re-assertions, if there are any. -/
def reconcileSpan? (c : Config) : Option Span :=
  if 0 < c.monitor.reconcileSeconds then some (Span.ofSeconds c.monitor.reconcileSeconds.toNat)
  else none

/-- The rules in use, the volume rule first. -/
def ruleSet (c : Config) : RuleSet where
  combine := c.rules.combine
  rules :=
    (if c.rules.volume.enabled then [Rule.volume c.rules.volume.threshold] else []) ++
      if c.rules.pattern.enabled then [Rule.pattern c.rules.pattern.limit c.rules.pattern.comparison]
      else []

/-- Who may be blocked. -/
def policy (c : Config) : SourcePolicy where
  exempt := c.sources.exempt
  watched := c.sources.watched

/-- Whether blocks are only reported. -/
def isDryRun (c : Config) (asked : Bool) : Bool := asked || c.enforcement.backend = .dryRun

/-- The name of the firewall in use. -/
def enforcerName (c : Config) (asked : Bool) : String :=
  if c.isDryRun asked then "dry-run" else "iptables"

end Config

end SourceGuard
