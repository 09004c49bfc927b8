import SourceGuard.Address.Reader
import SourceGuard.Json.Reader
import SourceGuard.Snapshot

/-!
# Reading the JSON report

A consumer of the report looks up the fields of an object by their names, in any order and among
other fields. A field counts only if its name occurs once. Counters are numbers of 64 bits, and a
status is told by its field `state`. What is left behind the last line end is not a line yet.

## Main definitions

* `Json.valueOf?`: the value of a field
* `JsonReport.snapshot?`: the snapshot that a value tells
* `JsonReport.lines`: the lines of a report
* `JsonReport.ofLine?`: the snapshot that a line tells
-/

namespace SourceGuard

namespace Json

/-- The value of the only field with a name. -/
def valueOf? (name : String) : Json → Option Json
  | object fields =>
    match fields.filter (·.1 = name) with
    | [(_, v)] => some v
    | _ => none
  | _ => none

/-- A value that is a text. -/
def asText? : Json → Option String
  | text s => some s
  | _ => none

/-- A value that is a whole number. -/
def asNumber? : Json → Option Int
  | number n => some n
  | _ => none

/-- A value that is a whole number without a sign. -/
def asNatural? : Json → Option Nat
  | number (.ofNat n) => some n
  | _ => none

/-- A value that is a whole number of 64 bits without a sign. -/
def asWord? (j : Json) : Option UInt64 := do
  let n ← j.asNatural?
  if n < UInt64.size then some (.ofNat n) else none

/-- A value that is a list. -/
def asList? : Json → Option (List Json)
  | list items => some items
  | _ => none

end Json

namespace JsonReport

/-- An address by its text. -/
def address? (j : Json) : Option Address := j.asText? >>= Address.ofText?

/-- The status of a row. -/
def status? (j : Json) : Option RowStatus := do
  let state ← j.valueOf? "state" >>= Json.asText?
  if state = "ok" then return .ok
  if state = "warning" then return .warning
  if state = "blocked" then return .blocked (← j.valueOf? "remaining_secs" >>= Json.asNatural?)
  none

/-- A row. -/
def row? (j : Json) : Option Row := do
  return {
    source := ← j.valueOf? "source" >>= address?
    packets := ← j.valueOf? "packets" >>= Json.asWord?
    bytes := ← j.valueOf? "bytes" >>= Json.asWord?
    matching := ← j.valueOf? "pattern_matches" >>= Json.asWord?
    status := ← j.valueOf? "status" >>= status? }

/-- A blocked source. -/
def blocked? (j : Json) : Option BlockStatus := do
  return {
    source := ← j.valueOf? "source" >>= address?
    seconds := ← j.valueOf? "remaining_secs" >>= Json.asNatural?
    reason := ← j.valueOf? "reason" >>= Json.asText? }

/-- Totals. -/
def totals? (j : Json) : Option Totals := do
  return {
    packets := ← j.valueOf? "packets" >>= Json.asWord?
    bytes := ← j.valueOf? "bytes" >>= Json.asWord?
    matching := ← j.valueOf? "pattern_matches" >>= Json.asWord? }

/-- The snapshot that a value tells. -/
def snapshot? (j : Json) : Option Snapshot := do
  return {
    takenAt := ← j.valueOf? "generated_at" >>= Json.asNumber?
    windowSeconds := ← j.valueOf? "window_secs" >>= Json.asNatural?
    summary := ← j.valueOf? "rule_summary" >>= Json.asText?
    rows := ← (← j.valueOf? "rows" >>= Json.asList?).mapM row?
    blocked := ← (← j.valueOf? "blocked" >>= Json.asList?).mapM blocked?
    totals := ← j.valueOf? "totals" >>= totals? }

/-- The lines of a report: what stands before each of its line ends. -/
def lines (report : String) : List String :=
  (report.toList.splitOn '\n').dropLast.map String.ofList

/-- The snapshot that a line tells. -/
def ofLine? (line : String) : Option Snapshot := Json.read? line >>= snapshot?

end JsonReport

end SourceGuard
