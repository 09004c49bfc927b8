import SourceGuard.Address.Printer
import SourceGuard.Json
import SourceGuard.Snapshot

/-!
# The JSON report

A snapshot as one JSON object on a line of its own.

## Main definitions

* `JsonReport.value`: a snapshot as a JSON value
* `JsonReport.render`: its line
-/

namespace SourceGuard.JsonReport

/-- A status, told by its field `state`. -/
def status : RowStatus → Json
  | .ok => .object [("state", .text "ok")]
  | .warning => .object [("state", .text "warning")]
  | .blocked seconds =>
    .object [("state", .text "blocked"), ("remaining_secs", .number seconds)]

/-- A row. -/
def row (r : Row) : Json :=
  .object [("source", .text r.source.toText), ("packets", .number r.packets.toNat),
    ("bytes", .number r.bytes.toNat), ("pattern_matches", .number r.matching.toNat),
    ("status", status r.status)]

/-- A blocked source. -/
def blocked (b : BlockStatus) : Json :=
  .object [("source", .text b.source.toText), ("remaining_secs", .number b.seconds),
    ("reason", .text b.reason)]

/-- Totals. -/
def totals (t : Totals) : Json :=
  .object [("packets", .number t.packets.toNat), ("bytes", .number t.bytes.toNat),
    ("pattern_matches", .number t.matching.toNat)]

/-- A snapshot. -/
def value (s : Snapshot) : Json :=
  .object [("generated_at", .number s.takenAt), ("window_secs", .number s.windowSeconds),
    ("rule_summary", .text s.summary), ("rows", .list (s.rows.map row)),
    ("blocked", .list (s.blocked.map blocked)), ("totals", totals s.totals)]

/-- The line of a snapshot, as characters. -/
def chars (s : Snapshot) : List Char := (value s).chars ++ ['\n']

/-- The line of a snapshot. -/
def render (s : Snapshot) : String := String.ofList (chars s)

end SourceGuard.JsonReport
