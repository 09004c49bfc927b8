import SourceGuard.Address.Reader
import SourceGuard.Config
import SourceGuard.Toml.Reader

/-!
# Reading a configuration

A section is a table of its settings or a list of them in their order. Settings that are left out
have the defaults of their own, and unknown ones are passed over; a setting of another kind than its
own makes the whole configuration unreadable. The bounds of the size band are given together.

## Main definitions

* `Settings`: the settings of a section
* `Config.ofTable?`: the configuration that a table says
* `Config.ofText?`: the configuration that a text says
-/

namespace SourceGuard

open Toml (Value Table)

/-- The settings of a section. -/
inductive Settings where
  /-- By their names. -/
  | named (entries : Table)
  /-- By their positions. -/
  | listed (items : List Value)

namespace Settings

/-- The settings that a value holds; a moment holds none. -/
def ofValue? : Value → Option Settings
  | .table _ entries => some (named entries)
  | .list items => some (listed items)
  | .tables elements => some (listed (elements.map (.table .headed)))
  | .moment _ => some (named [])
  | _ => none

/-- The value of a setting, if it is given. -/
def find (s : Settings) (position : Nat) (name : String) : Option Value :=
  match s with
  | named entries => Table.find name entries
  | listed items => items[position]?

/-- A setting, or its default if it is left out. -/
def get {α : Type} (s : Settings) (position : Nat) (name : String) (read : Value → Option α)
    (default : α) : Option α :=
  match s.find position name with
  | some v => read v
  | none => some default

/-- A setting that has to be given. -/
def need {α : Type} (s : Settings) (position : Nat) (name : String) (read : Value → Option α) :
    Option α :=
  (s.find position name).bind read

end Settings

namespace Toml.Value

/-- The text that a value is. -/
def asText? : Value → Option String
  | text s => some s
  | _ => none

/-- The truth value that a value is. -/
def asBool? : Value → Option Bool
  | boolean b => some b
  | _ => none

/-- The number below a bound that a value is. -/
def asCount? (bound : Nat) : Value → Option Nat
  | integer n => if 0 ≤ n ∧ n < bound then some n.toNat else none
  | _ => none

/-- The number of 64 bits that a value is. -/
def asCount64? (v : Value) : Option UInt64 := (v.asCount? UInt64.size).map UInt64.ofNat

/-- The number of 32 bits that a value is. -/
def asCount32? (v : Value) : Option UInt32 := (v.asCount? UInt32.size).map UInt32.ofNat

/-- The items that a value lists. -/
def asList? {α : Type} (read : Value → Option α) : Value → Option (List α)
  | list items => items.mapM read
  | tables elements => (elements.map (table .headed)).mapM read
  | _ => none

/-- The address that a value spells. -/
def asAddress? (v : Value) : Option Address := v.asText?.bind Address.ofText?

/-- Whether a value holds nothing. -/
def isEmpty : Value → Bool
  | table _ [] => true
  | list [] => true
  | _ => false

/-- The name that a value is, also as the only key of a table that holds nothing below it. -/
def asName? : Value → Option String
  | text s => some s
  | table _ [(name, v)] => if v.isEmpty then some name else none
  | _ => none

/-- The choice whose name a value is. -/
def asChoice? {α : Type} (choices : List α) (name : α → String) (v : Value) : Option α :=
  v.asName?.bind fun s => choices.find? (name · = s)

end Toml.Value

/-! ### Sections -/

/-- The size band that a value says. -/
def SizeBand.ofValue? (v : Value) : Option SizeBand := do
  let s ← Settings.ofValue? v
  let above ← s.need 0 "above" Value.asCount32?
  let below ← s.need 1 "below" Value.asCount32?
  some { above, below }

/-- The capture settings that a value says. -/
def MonitorSettings.ofValue? (v : Value) : Option MonitorSettings := do
  let s ← Settings.ofValue? v
  let interfaces ← s.get 0 "interfaces" (Value.asList? Value.asText?) omitted.interfaces
  let tickMillis ← s.get 1 "tick_interval_ms" Value.asCount64? omitted.tickMillis
  let windowSeconds ← s.get 2 "window_secs" Value.asCount64? omitted.windowSeconds
  let blockSeconds ← s.get 3 "block_secs" Value.asCount64? omitted.blockSeconds
  let reconcileSeconds ← s.get 4 "reconcile_interval_secs" Value.asCount64? omitted.reconcileSeconds
  let tcpOnly ← s.get 5 "tcp_only" Value.asBool? omitted.tcpOnly
  some { interfaces, tickMillis, windowSeconds, blockSeconds, reconcileSeconds, tcpOnly }

/-- The volume rule that a value says. -/
def VolumeSettings.ofValue? (v : Value) : Option VolumeSettings := do
  let s ← Settings.ofValue? v
  let enabled ← s.get 0 "enabled" Value.asBool? omitted.enabled
  let threshold ← s.get 1 "byte_threshold" Value.asCount64? omitted.threshold
  some { enabled, threshold }

/-- The pattern rule that a value says. -/
def PatternSettings.ofValue? (v : Value) : Option PatternSettings := do
  let s ← Settings.ofValue? v
  let enabled ← s.get 0 "enabled" Value.asBool? omitted.enabled
  let limit ← s.get 1 "limit" Value.asCount64? omitted.limit
  let comparison ←
    s.get 2 "comparison" (Value.asChoice? [.exact, .atLeast] Comparison.name) omitted.comparison
  let band ← s.get 3 "band" SizeBand.ofValue? omitted.band
  some { enabled, limit, comparison, band }

/-- The rules that a value says. -/
def RuleSettings.ofValue? (v : Value) : Option RuleSettings := do
  let s ← Settings.ofValue? v
  let combine ← s.get 0 "combine" (Value.asChoice? [.any, .all] Combine.name) omitted.combine
  let volume ← s.get 1 "volume" VolumeSettings.ofValue? omitted.volume
  let pattern ← s.get 2 "pattern" PatternSettings.ofValue? omitted.pattern
  some { combine, volume, pattern }

/-- The source lists that a value says. -/
def SourceSettings.ofValue? (v : Value) : Option SourceSettings := do
  let s ← Settings.ofValue? v
  let exempt ← s.get 0 "exempt" (Value.asList? Value.asAddress?) omitted.exempt
  let watched ← s.get 1 "watched" (Value.asList? Value.asAddress?) omitted.watched
  some { exempt, watched }

/-- The enforcement settings that a value says. -/
def EnforcementSettings.ofValue? (v : Value) : Option EnforcementSettings := do
  let s ← Settings.ofValue? v
  let backend ←
    s.get 0 "backend" (Value.asChoice? [.iptables, .dryRun] Backend.name) omitted.backend
  let iptables ← s.get 1 "iptables_path" Value.asText? omitted.iptables
  let ip6tables ← s.get 2 "ip6tables_path" Value.asText? omitted.ip6tables
  let chain ← s.get 3 "chain" Value.asText? omitted.chain
  some { backend, iptables, ip6tables, chain }

/-- The report settings that a value says. -/
def ReportSettings.ofValue? (v : Value) : Option ReportSettings := do
  let s ← Settings.ofValue? v
  let mode ←
    s.get 0 "mode" (Value.asChoice? [.table, .json, .log, .off] ReportMode.name) omitted.mode
  some { mode }

/-- The logging settings that a value says. -/
def LoggingSettings.ofValue? (v : Value) : Option LoggingSettings := do
  let s ← Settings.ofValue? v
  let level ← s.get 0 "level" Value.asText? omitted.level
  let format ← s.get 1 "format" Value.asText? omitted.format
  let output ← s.get 2 "output" Value.asText? omitted.output
  let file ← s.get 3 "file_path" Value.asText? omitted.file
  some { level, format, output, file }

/-! ### The configuration -/

namespace Config

/-- The configuration that a value says. -/
def ofValue? (v : Value) : Option Config := do
  let s ← Settings.ofValue? v
  let monitor ← s.get 0 "monitor" MonitorSettings.ofValue? omitted.monitor
  let rules ← s.get 1 "rules" RuleSettings.ofValue? omitted.rules
  let sources ← s.get 2 "sources" SourceSettings.ofValue? omitted.sources
  let enforcement ← s.get 3 "enforcement" EnforcementSettings.ofValue? omitted.enforcement
  let report ← s.get 4 "report" ReportSettings.ofValue? omitted.report
  let logging ← s.get 5 "logging" LoggingSettings.ofValue? omitted.logging
  some { monitor, rules, sources, enforcement, report, logging }

/-- The configuration that a table says. -/
def ofTable? (entries : Table) : Option Config := ofValue? (.table .headed entries)

/-- The configuration that a text says. -/
def ofText? (text : String) : Option Config := (Toml.read? text).bind ofTable?

end Config

end SourceGuard
