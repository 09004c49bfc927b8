import SourceGuard.Config
import SourceGuard.Address.Printer
import SourceGuard.Text.Blank
import SourceGuard.Text.Quoted

/-!
# Valid configurations

A configuration is valid if the guard can work with it: it has interfaces to capture on, its
cadences lie in their ranges, some rule can fire, and no source is in both lists. Of several faults
the first is reported. Warnings are for settings that are valid but likely not what was meant.

## Main definitions

* `Invalid`: the faults
* `Config.fault?`: the first fault of a configuration
* `Config.warnings`: what is likely not meant
-/

namespace SourceGuard

/-- A setting that has a range. -/
inductive Ranged where
  | tick
  | window
  | block
  | reconcile
deriving DecidableEq, Repr

namespace Ranged

/-- The name of a setting. -/
def field : Ranged → String
  | tick => "monitor.tick_interval_ms"
  | window => "monitor.window_secs"
  | block => "monitor.block_secs"
  | reconcile => "monitor.reconcile_interval_secs"

/-- The least value of a setting. -/
def low : Ranged → Nat
  | reconcile => 0
  | _ => 1

/-- The greatest value of a setting: an hour of milliseconds, or a year of seconds. -/
def high : Ranged → Nat
  | tick => 3600000
  | _ => 31536000

/-- The value of a setting. -/
def value (m : MonitorSettings) : Ranged → UInt64
  | tick => m.tickMillis
  | window => m.windowSeconds
  | block => m.blockSeconds
  | reconcile => m.reconcileSeconds

/-- All settings with a range, in the order in which they are checked. -/
def all : List Ranged := [tick, window, block, reconcile]

/-- Whether a setting lies outside its range. -/
def isOutside (m : MonitorSettings) (r : Ranged) : Bool :=
  (r.value m).toNat < r.low || r.high < (r.value m).toNat

end Ranged

/-- Why a configuration is not valid. -/
inductive Invalid where
  | noInterface
  | blankInterface (name : String)
  | repeatedInterface (name : String)
  | outOfRange (setting : Ranged) (value : UInt64)
  | noRule
  | zeroThreshold
  | zeroLimit
  | emptyBand (band : SizeBand)
  | exemptAndWatched (source : Address)
  | blankChain
  | unknownFormat (name : String)
  | unknownOutput (name : String)
deriving DecidableEq, Repr

namespace Invalid

/-- The setting at fault. -/
def field : Invalid → String
  | noInterface => "monitor.interfaces"
  | blankInterface _ => "monitor.interfaces"
  | repeatedInterface _ => "monitor.interfaces"
  | outOfRange setting _ => setting.field
  | noRule => "rules"
  | zeroThreshold => "rules.volume.byte_threshold"
  | zeroLimit => "rules.pattern.limit"
  | emptyBand _ => "rules.pattern.band"
  | exemptAndWatched _ => "sources"
  | blankChain => "enforcement.chain"
  | unknownFormat _ => "logging.format"
  | unknownOutput _ => "logging.output"

/-- The fault in words. -/
def reason : Invalid → String
  | noInterface => "at least one interface is required"
  | blankInterface name => "empty interface name " ++ Text.quoted name
  | repeatedInterface name => name ++ " is listed twice"
  | outOfRange setting value =>
    toString value.toNat ++ " is outside " ++ toString setting.low ++ "..=" ++ toString setting.high
  | noRule => "no rule is enabled"
  | zeroThreshold => "must be > 0"
  | zeroLimit => "must be > 0"
  | emptyBand band =>
    "no size lies strictly between " ++ toString band.above.toNat ++ " and " ++
      toString band.below.toNat
  | exemptAndWatched source => source.toText ++ " is both exempt and watched"
  | blankChain => "must not be empty"
  | unknownFormat name => "unknown format '" ++ name ++ "' (must be pretty/json)"
  | unknownOutput name => "unknown output '" ++ name ++ "' (must be stderr/file)"

end Invalid

/-- The first item of a list that occurs again after an occurrence of its own. -/
def firstRepeated : (seen : List String) → List String → Option String
  | _, [] => none
  | seen, name :: rest => if seen.contains name then some name else firstRepeated (name :: seen) rest

namespace MonitorSettings

/-- The first fault of the interfaces. -/
def interfaceFault? (m : MonitorSettings) : Option Invalid :=
  if m.interfaces.isEmpty then some .noInterface
  else ((m.interfaces.find? Text.isBlankText).map .blankInterface).or
    ((firstRepeated [] m.interfaces).map .repeatedInterface)

/-- The first setting outside its range. -/
def rangeFault? (m : MonitorSettings) : Option Invalid :=
  (Ranged.all.find? (·.isOutside m)).map fun r => .outOfRange r (r.value m)

end MonitorSettings

namespace RuleSettings

/-- The first fault of the rules. -/
def fault? (r : RuleSettings) : Option Invalid :=
  if !r.volume.enabled && !r.pattern.enabled then some .noRule
  else if r.volume.enabled && r.volume.threshold = 0 then some .zeroThreshold
  else if r.pattern.enabled && r.pattern.limit = 0 then some .zeroLimit
  else if r.pattern.enabled && !r.pattern.band.isSatisfiable then some (.emptyBand r.pattern.band)
  else none

end RuleSettings

namespace SourceSettings

/-- The first source in both lists. -/
def fault? (s : SourceSettings) : Option Invalid :=
  (s.exempt.find? s.watched.contains).map .exemptAndWatched

end SourceSettings

namespace LoggingSettings

/-- The first fault of the logging settings. -/
def fault? (l : LoggingSettings) : Option Invalid :=
  if l.format ≠ "pretty" ∧ l.format ≠ "json" then some (.unknownFormat l.format)
  else if l.output ≠ "stderr" ∧ l.output ≠ "file" then some (.unknownOutput l.output)
  else none

end LoggingSettings

namespace Config

/-- The fault of the name of the chain. -/
def chainFault? (c : Config) : Option Invalid :=
  if Text.isBlankText c.enforcement.chain then some .blankChain else none

/-- The first fault of a configuration. -/
def fault? (c : Config) : Option Invalid :=
  c.monitor.interfaceFault?
    |>.or c.monitor.rangeFault?
    |>.or c.rules.fault?
    |>.or c.sources.fault?
    |>.or c.chainFault?
    |>.or c.logging.fault?

/-- Whether a configuration is valid. -/
def isValid (c : Config) : Bool := c.fault?.isNone

/-- A block ends before the traffic that caused it has left the window. -/
def blockWarning (c : Config) : List String :=
  if c.monitor.blockSeconds < c.monitor.windowSeconds then
    ["block_secs (" ++ toString c.monitor.blockSeconds.toNat ++ ") is shorter than window_secs (" ++
      toString c.monitor.windowSeconds.toNat ++
      "): released sources may be re-blocked on their old traffic"]
  else []

/-- A burst can jump past the limit of the pattern rule. -/
def patternWarning (c : Config) : List String :=
  if c.rules.pattern.enabled && c.rules.pattern.comparison = .exact then
    ["pattern rule uses exact comparison: a source exceeding " ++
      toString c.rules.pattern.limit.toNat ++ " matches within one tick is not blocked"]
  else []

/-- Table and log are written to one screen. -/
def displayWarning (c : Config) : List String :=
  if c.report.mode = .table && c.logging.output = "stderr" then
    ["table report and stderr logging share the terminal; set logging.output = \"file\" for a " ++
      "clean display"]
  else []

/-- What is likely not meant. -/
def warnings (c : Config) : List String := c.blockWarning ++ c.patternWarning ++ c.displayWarning

end Config

end SourceGuard
