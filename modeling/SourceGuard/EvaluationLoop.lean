import SourceGuard.Fault
import SourceGuard.Monitor

/-!
# The evaluation loop

The loop ticks until it is cancelled. After each tick it hands the snapshot to the report, and when
re-assertion is wanted and due it asks the firewall once more for every block. After cancellation
it releases every block.

## Main definitions

* `LoopEvent`: a tick, or a packet between two ticks
* `EvaluationLoop.step`, `EvaluationLoop.run`: one event, and a whole execution
* `EvaluationLoop.finish`: what happens after cancellation
-/

namespace SourceGuard

/-- What happens to the loop before its cancellation. -/
inductive LoopEvent where
  /-- A packet arrives. -/
  | packet (r : Record)
  /-- A tick, whose report may fail. -/
  | tick (now : Instant) (failure : Option FileFault)

/-- The loop between two events. -/
structure EvaluationLoop where
  /-- The monitor. -/
  monitor : Monitor
  /-- How often blocks are re-asserted, if at all. -/
  every : Option Span
  /-- When re-assertion was last due, at first the start of the loop. -/
  lastDue : Instant

namespace EvaluationLoop

variable {σ : Type}

/-- Whether re-assertion is due. -/
def isDue (loop : EvaluationLoop) (now : Instant) : Bool :=
  match loop.every with
  | none => false
  | some every => every ≤ Instant.until loop.lastDue now

/-- Re-assert the blocks, if there are any. -/
def reassert (E : Enforcer σ) (m : Monitor) : Action σ Unit := do
  if m.blocks.table.isEmpty then pure ()
  else
    let failures ← m.blocks.reconcile E
    Action.emit
      ⟨.debug, "Reconciled firewall rules",
        [("active", .number m.blocks.table.size), ("failures", .number failures)]⟩

/-- A tick of the loop. -/
def tick (E : Enforcer σ) (loop : EvaluationLoop) (now : Instant) (failure : Option FileFault) :
    Action σ (TickReport × EvaluationLoop) := do
  let (report, m) ← loop.monitor.tick E now
  Action.report report.snapshot
  match failure with
  | some f => Action.emit ⟨.warn, "⚠️  Failed to render report: " ++ f.message, []⟩
  | none => pure ()
  if loop.isDue now then
    reassert E m
    pure (report, { loop with monitor := m, lastDue := now })
  else pure (report, { loop with monitor := m })

/-- One event of the loop. -/
def step (E : Enforcer σ) (loop : EvaluationLoop) : LoopEvent → Action σ EvaluationLoop
  | .packet r => pure { loop with monitor := (loop.monitor.ingest r).2 }
  | .tick now failure => do
    let (_, next) ← loop.tick E now failure
    pure next

/-- What the loop does after its cancellation: release every block. -/
def finish (E : Enforcer σ) (loop : EvaluationLoop) : Action σ (Nat × EvaluationLoop) := do
  Action.emit ⟨.debug, "🛑 Evaluation loop shutting down", []⟩
  let blocks := loop.monitor.blocks
  if !blocks.table.isEmpty then
    Action.emit
      ⟨.info, "🧹 Removing firewall rules before exit", [("active", .number blocks.table.size)]⟩
  let (released, blocks) ← blocks.releaseAll E
  pure (released, { loop with monitor := { loop.monitor with blocks } })

/-- A whole execution: events, then the cancellation. -/
def run (E : Enforcer σ) : List LoopEvent → EvaluationLoop → Action σ (Nat × EvaluationLoop)
  | [], loop => finish E loop
  | event :: rest, loop => do
    let loop ← step E loop event
    run E rest loop

end EvaluationLoop

end SourceGuard
