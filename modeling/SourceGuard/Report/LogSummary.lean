import SourceGuard.Address.Printer
import SourceGuard.Event
import SourceGuard.Snapshot

/-!
# The log report

A snapshot as one event with its totals, and one event for every row with a warning.

## Main definitions

* `LogReport.events`
-/

namespace SourceGuard.LogReport

/-- The event with the totals. -/
def summary (s : Snapshot) : Event :=
  ⟨.info, "📊 Window summary",
    [("sources", .number s.rows.length), ("packets", .number s.totals.packets.toNat),
      ("bytes", .number s.totals.bytes.toNat), ("pattern", .number s.totals.matching.toNat),
      ("blocked", .number s.blocked.length)]⟩

/-- The event of a row with a warning. -/
def warning (row : Row) : Event :=
  ⟨.warn, "⚠️  Source approaching limits",
    [("source", .plain row.source.toText), ("bytes", .number row.bytes.toNat),
      ("pattern", .number row.matching.toNat)]⟩

/-- The events of a snapshot. -/
def events (s : Snapshot) : List Event :=
  summary s :: (s.rows.filter (·.status = .warning)).map warning

end SourceGuard.LogReport
