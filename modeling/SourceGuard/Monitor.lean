import SourceGuard.Blocks
import SourceGuard.Rule
import SourceGuard.Window

/-!
# The monitor

The monitor accounts the packets of sources that are not blocked. A tick releases the blocks that
have expired, prunes the window, and blocks every source that may be blocked, is not, and violates
the rules; then it shows what it found.

## Main definitions

* `Monitor`: window, rules, policy, blocks and counters
* `Monitor.ingest`, `Monitor.append`: account a packet, if its source is not blocked or in any case
* `Monitor.tick`: one evaluation
-/

namespace SourceGuard

/-- The state of the monitor. -/
structure Monitor where
  /-- The records of the recent past. -/
  window : Window
  /-- When a source violates. -/
  rules : RuleSet
  /-- Who may be blocked. -/
  policy : SourcePolicy
  /-- Who is blocked. -/
  blocks : Blocks
  /-- The number of packets accounted by `ingest`. -/
  accepted : UInt64 := 0
  /-- The number of packets that `ingest` refused. -/
  discarded : UInt64 := 0

/-- What a tick did. -/
structure TickReport where
  /-- The sources whose block had expired. -/
  released : List Address
  /-- The sources that violate, with what became of the request to block them. -/
  blocked : List (Address × RequestOutcome)
  /-- What the tick shows. -/
  snapshot : Snapshot

namespace Monitor

/-! ### Accounting -/

/-- Account a packet unless its source is blocked; whether it was accounted. -/
def ingest (m : Monitor) (r : Record) : Bool × Monitor :=
  if m.blocks.isBlocked r.source then (false, { m with discarded := m.discarded + 1 })
  else (true, { m with window := m.window.append r, accepted := m.accepted + 1 })

/-- Account a packet whether its source is blocked or not. -/
def append (m : Monitor) (r : Record) : Monitor := { m with window := m.window.append r }

/-! ### Evaluation -/

variable {σ : Type}

/-- A source that violates the rules. -/
structure Offender where
  /-- The source. -/
  source : Address
  /-- What its records add up to. -/
  sum : Aggregate
  /-- The names of the rules that fired. -/
  fired : List String
deriving DecidableEq

/-- The offender that an aggregate makes, if its source may be blocked and is not. -/
def offender? (m : Monitor) (entry : Address × Aggregate) : Option Offender :=
  if m.blocks.isBlocked entry.1 || !m.policy.isEligible entry.1 then none
  else (m.rules.violation? entry.2).map fun fired => ⟨entry.1, entry.2, fired⟩

/-- The offenders among aggregates, by ascending address. -/
def offenders (m : Monitor) (sums : List (Address × Aggregate)) : List Offender :=
  (sums.filterMap m.offender?).mergeSort fun a b => a.source ≤ b.source

/-- The event of a violation. -/
def violationEvent (o : Offender) : Event :=
  ⟨.debug, "Rule violation",
    [("source", .plain o.source.toText), ("packets", .number o.sum.packets.toNat),
      ("bytes", .number o.sum.bytes.toNat), ("pattern", .number o.sum.matching.toNat)]⟩

/-- Request a block for every offender. -/
def blockEach (E : Enforcer σ) (now : Instant) :
    List Offender → Blocks → Action σ (List (Address × RequestOutcome) × Blocks)
  | [], b => pure ([], b)
  | o :: rest, b => do
    Action.emit (violationEvent o)
    let (outcome, b) ← b.request E o.source now (RuleSet.reason o.fired)
    let (outcomes, b) ← blockEach E now rest b
    pure ((o.source, outcome) :: outcomes, b)

/-- How a source stands. -/
def status (m : Monitor) (now : Instant) (entry : Address × Aggregate) : RowStatus :=
  match m.blocks.table.get? entry.1 with
  | some e => .blocked (e.secondsLeft now)
  | none => if m.rules.approaching entry.2 then .warning else .ok

/-- The row of a source. -/
def row (m : Monitor) (now : Instant) (entry : Address × Aggregate) : Row where
  source := entry.1
  packets := entry.2.packets
  bytes := entry.2.bytes
  matching := entry.2.matching
  status := m.status now entry

/-- What the monitor shows of aggregates. The monitor has no calendar, so the snapshot carries the
start of the calendar clock. -/
def snapshot (m : Monitor) (now : Instant) (sums : List (Address × Aggregate)) : Snapshot :=
  Snapshot.make 0 m.window.span.wholeSeconds m.rules.describe (sums.map (m.row now))
    (m.blocks.statuses now)

/-- The event of a pruning that dropped records. -/
def pruneEvent (evicted remaining : Nat) : Event :=
  ⟨.trace, "Pruned accounting window",
    [("evicted", .number evicted), ("remaining", .number remaining)]⟩

/-- Prune the window. -/
def prune (m : Monitor) (now : Instant) : Action σ Monitor := do
  let next := { m with window := m.window.prune now }
  if 0 < m.window.evicted now then
    Action.emit (pruneEvent (m.window.evicted now) next.window.size)
  pure next

/-- The evaluation of aggregates: block the offenders among them and show them all. -/
def evaluate (E : Enforcer σ) (m : Monitor) (now : Instant) (sums : List (Address × Aggregate)) :
    Action σ ((List (Address × RequestOutcome) × Snapshot) × Monitor) := do
  let (outcomes, blocks) ← blockEach E now (m.offenders sums) m.blocks
  let next := { m with blocks }
  pure ((outcomes, next.snapshot now sums), next)

/-- One evaluation at an instant. -/
def tick (E : Enforcer σ) (m : Monitor) (now : Instant) : Action σ (TickReport × Monitor) := do
  let (released, blocks) ← m.blocks.releaseExpired E now
  let m ← prune { m with blocks } now
  let ((blocked, snapshot), m) ← evaluate E m now m.window.aggregates.entries
  pure (⟨released, blocked, snapshot⟩, m)

end Monitor

end SourceGuard
