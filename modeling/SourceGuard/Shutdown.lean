import SourceGuard.Clock
import SourceGuard.Event

/-!
# Shutting down

When the program is to stop, all tasks are cancelled and awaited one after another, in the order in
which they were registered, until a grace period has passed. A task that failed is reported when it
is awaited; tasks that are still at work when the period is over are left alone. A task that had
ended before the waiting began is in time whatever the period.

## Main definitions

* `Task`: when and how a task ends
* `Shutdown.await`: the events of waiting, and whether all tasks ended in time
* `Shutdown.run`: a shutdown for a reason
-/

namespace SourceGuard

/-- When a task ends. -/
inductive Ending where
  /-- Before the waiting begins. -/
  | before
  /-- A time after the waiting began. -/
  | after (time : Span)
  | never
deriving DecidableEq, Repr

/-- Whether an end comes before a grace period is over. -/
def Ending.isWithin (grace : Span) : Ending → Bool
  | before => true
  | after time => time < grace
  | never => false

/-- When and how a task ends. -/
structure Task where
  /-- When it ends. -/
  ending : Ending
  /-- The cause, if it fails. -/
  failure? : Option String := none
deriving DecidableEq, Repr

namespace Task

/-- Whether a task ends before a grace period is over. -/
def endsWithin (task : Task) (grace : Span) : Bool := task.ending.isWithin grace

/-- The events of a task that has ended. -/
def events (task : Task) : List Event :=
  match task.failure? with
  | some cause => [⟨.error, "Task failed during shutdown: " ++ cause, []⟩]
  | none => []

end Task

/-- Why the program is to stop. -/
inductive ShutdownReason where
  /-- A signal of the system. -/
  | signal
  /-- A task of its own. -/
  | internal
deriving DecidableEq, Repr

namespace Shutdown

/-- The event of a reason. -/
def reasonEvent : ShutdownReason → Event
  | .signal => ⟨.info, "🛑 Shutdown signal received", []⟩
  | .internal => ⟨.warn, "🛑 Shutdown requested internally", []⟩

/-- The event of the end, when all tasks ended in time or some did not. -/
def endEvent : (inTime : Bool) → Event
  | true => ⟨.info, "✓ All tasks shut down gracefully", []⟩
  | false => ⟨.warn, "⏱️  Shutdown timeout: Some tasks did not complete", []⟩

/-- The events of waiting for tasks one after another, and whether all of them ended in time. -/
def await (grace : Span) : List Task → List Event × Bool
  | [] => ([], true)
  | task :: rest =>
    if task.endsWithin grace then
      let (events, inTime) := await grace rest
      (task.events ++ events, inTime)
    else ([], false)

/-- The events of cancelling and awaiting tasks. -/
def events (grace : Span) (tasks : List Task) : List Event :=
  let (failures, inTime) := await grace tasks
  failures ++ [endEvent inTime]

/-- The events of a shutdown, for a reason or on demand. -/
def run (reason : Option ShutdownReason) (grace : Span) (tasks : List Task) : List Event :=
  reason.toList.map reasonEvent ++ events grace tasks

/-- All tasks ended in time exactly when each did. -/
theorem snd_await (grace : Span) (tasks : List Task) :
    (await grace tasks).2 = tasks.all (·.endsWithin grace) := by
  induction tasks with
  | nil => rfl
  | cons task rest ih => by_cases h : task.endsWithin grace <;> simp [await, h, ih]

end Shutdown

end SourceGuard
