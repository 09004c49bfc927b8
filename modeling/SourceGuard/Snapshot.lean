import SourceGuard.Traffic

/-!
# Snapshots

A snapshot is what one tick shows: a row for every source with traffic in the window, the busiest
first, the blocked sources, and the totals of the rows.

## Main definitions

* `Row`, `RowStatus`, `BlockStatus`, `Totals`, `Snapshot`
* `Snapshot.make`: the snapshot of given rows
-/

namespace SourceGuard

/-- How a source stands. -/
inductive RowStatus where
  /-- Nothing to report. -/
  | ok
  /-- Some rule is close to firing. -/
  | warning
  /-- Blocked for so many seconds more. -/
  | blocked (seconds : Nat)
deriving DecidableEq, Repr, Inhabited

/-- The traffic of one source. -/
structure Row where
  /-- The source. -/
  source : Address
  /-- The number of its packets. -/
  packets : UInt64
  /-- The sum of their lengths. -/
  bytes : UInt64
  /-- The number of its packets in the size band. -/
  matching : UInt64
  /-- How the source stands. -/
  status : RowStatus
deriving DecidableEq, Repr

/-- A blocked source. -/
structure BlockStatus where
  /-- The source. -/
  source : Address
  /-- The whole seconds until its release. -/
  seconds : Nat
  /-- Why it is blocked. -/
  reason : String
deriving DecidableEq, Repr

/-- The sums of the rows. -/
structure Totals where
  /-- The number of packets. -/
  packets : UInt64 := 0
  /-- The sum of their lengths. -/
  bytes : UInt64 := 0
  /-- The number of packets in the size band. -/
  matching : UInt64 := 0
deriving DecidableEq, Repr, Inhabited

namespace Totals

/-- The totals with one more row. -/
def add (t : Totals) (row : Row) : Totals where
  packets := t.packets + row.packets
  bytes := t.bytes + row.bytes
  matching := t.matching + row.matching

/-- The totals of rows. -/
def ofRows (rows : List Row) : Totals := rows.foldl add {}

end Totals

/-- Busier rows come first, and of two equally busy ones the lower address. -/
def Row.comesFirst (a b : Row) : Bool :=
  b.packets < a.packets || (a.packets = b.packets && a.source ≤ b.source)

/-- What one tick shows. -/
structure Snapshot where
  /-- The seconds of the calendar clock at which the snapshot was taken. -/
  takenAt : Int
  /-- The whole seconds that the window spans. -/
  windowSeconds : Nat
  /-- The rules, in words. -/
  summary : String
  /-- The traffic, the busiest source first. -/
  rows : List Row
  /-- The blocked sources. -/
  blocked : List BlockStatus
  /-- The sums of the rows. -/
  totals : Totals
deriving DecidableEq, Repr

/-- The snapshot of given rows, in the order of display and with their totals. -/
def Snapshot.make (takenAt : Int) (windowSeconds : Nat) (summary : String) (rows : List Row)
    (blocked : List BlockStatus) : Snapshot :=
  let sorted := rows.mergeSort Row.comesFirst
  { takenAt, windowSeconds, summary, rows := sorted, blocked, totals := Totals.ofRows sorted }

end SourceGuard
