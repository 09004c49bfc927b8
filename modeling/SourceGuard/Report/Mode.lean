import SourceGuard.Report.JsonLine
import SourceGuard.Report.LogSummary
import SourceGuard.Report.Table
import SourceGuard.Text.LowerCase

/-!
# Report modes

How snapshots are shown: as a table, as JSON lines, through the log, or not at all.

## Main definitions

* `ReportMode`, `ReportMode.name`
* `ReportMode.ofText`: the mode that a text asks for, in any case of letters
* `ReportMode.present`: what a mode prints and logs
-/

namespace SourceGuard

/-- How snapshots are shown. -/
inductive ReportMode where
  | table
  | json
  | log
  | off
deriving DecidableEq, Repr, Inhabited

namespace ReportMode

/-- The name of a mode. -/
def name : ReportMode → String
  | table => "table"
  | json => "json"
  | log => "log"
  | off => "off"

/-- A text that asks for no mode, in lower case. -/
structure Unknown where
  /-- The text in lower case. -/
  text : String
deriving DecidableEq, Repr

/-- The complaint about a text that asks for no mode. -/
def Unknown.message (u : Unknown) : String :=
  "unknown report mode '" ++ u.text ++ "' (must be table/json/log/off)"

/-- The mode that a text asks for, in any case of letters. -/
def ofText (text : String) : Except Unknown ReportMode :=
  let lower := Text.lowerCase text
  if lower = "table" then .ok table
  else if lower = "json" then .ok json
  else if lower = "log" then .ok log
  else if lower = "off" ∨ lower = "none" then .ok off
  else .error ⟨lower⟩

/-- What a mode makes of a snapshot: what it prints, and what it logs. -/
def present (mode : ReportMode) (clear : Bool) (s : Snapshot) : String × List Event :=
  match mode with
  | table => (TableReport.render clear s, [])
  | json => (JsonReport.render s, [])
  | log => ("", LogReport.events s)
  | off => ("", [])

end ReportMode

end SourceGuard
