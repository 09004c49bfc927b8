import SourceGuard.Capture
import SourceGuard.EvaluationLoop
import SourceGuard.Shutdown

/-!
# The daemon

The daemon has a capture task for each of its interfaces, an evaluation loop, and a main task that
waits for all of them. They share the monitor and one cancellation. A capture that fails cancels all
of them; a signal is seen by the main task, which cancels the others. Then the captures are awaited
until a grace period is over, and the evaluation loop for as long as it takes to release every
block. The tasks take their steps in any order: what the daemon does is told for a list of
occurrences, one after another.

## Main definitions

* `CaptureTask`, `MainStage`, `Daemon`: the tasks, and what they share
* `MainStage.code?`: the exit code of a daemon that has left
* `Occurrence`, `Daemon.step`: what can happen, and what the daemon does then
* `Daemon.run`: occurrences one after another
-/

namespace SourceGuard

/-- How far a capture task has come. -/
inductive CaptureStage where
  /-- It has not begun. -/
  | spawned
  /-- It is about to look at the cancellation. -/
  | looking
  /-- It waits for a read of its channel to return. -/
  | reading
  /-- It saw the cancellation and has ended. -/
  | stopped
  /-- Its channel failed, and it has ended. -/
  | failed (e : CaptureError)
deriving DecidableEq, Repr

namespace CaptureStage

/-- Whether the task has ended. -/
def hasEnded : CaptureStage → Bool
  | stopped | failed _ => true
  | spawned | looking | reading => false

/-- The stage after a turn of the task: it begins, or looks at the cancellation. -/
def turn (cancelled : Bool) : CaptureStage → CaptureStage
  | spawned => looking
  | looking => if cancelled then stopped else reading
  | stage => stage

/-- The stage after a read that returned. -/
def after : Polled → CaptureStage
  | .packet _ | .nothing => looking
  | .failed e => failed e

end CaptureStage

/-- A capture task. -/
structure CaptureTask where
  /-- The interface that it reads. -/
  interface : String
  /-- How far it has come. -/
  stage : CaptureStage := .spawned
deriving DecidableEq, Repr

/-- How far the main task has come. -/
inductive MainStage where
  /-- It waits for a signal or for a cancellation. -/
  | waiting
  /-- It waits until the captures have ended or the grace period is over. -/
  | stopping (reason : ShutdownReason)
  /-- It waits until the evaluation loop has ended. -/
  | releasing (reason : ShutdownReason)
  /-- It has left. -/
  | left (reason : ShutdownReason)
deriving DecidableEq, Repr

namespace MainStage

/-- Why the task stopped waiting, if it has. -/
def reason? : MainStage → Option ShutdownReason
  | waiting => none
  | stopping reason | releasing reason | left reason => some reason

/-- The exit code, if the task has left: zero if it stopped for a signal. -/
def code? : MainStage → Option Nat
  | left .signal => some 0
  | left .internal => some 1
  | waiting | stopping _ | releasing _ => none

end MainStage

/-- The tasks and what they share. -/
structure Daemon where
  /-- Whether only packets with TCP behind them are captured. -/
  tcpOnly : Bool
  /-- The capture tasks. -/
  captures : List CaptureTask
  /-- The evaluation loop, with the monitor. -/
  loop : EvaluationLoop
  /-- How many blocks the evaluation loop released when it ended, if it has. -/
  released? : Option Nat := none
  /-- Whether everything is cancelled. -/
  cancelled : Bool := false
  /-- Whether a capture has failed. -/
  failed : Bool := false
  /-- How far the main task has come. -/
  main : MainStage := .waiting

/-- What can happen. -/
inductive Occurrence where
  /-- A capture task begins, or looks at the cancellation. -/
  | turn (task : Nat)
  /-- A read of a capture task returns. -/
  | read (task : Nat) (reading : Reading)
  /-- The evaluation loop ticks, and its report may fail. -/
  | tick (now : Instant) (failure : Option FileFault)
  /-- The evaluation loop sees the cancellation. -/
  | finish
  /-- The machine asks the daemon to stop. -/
  | signal
  /-- The main task goes on, if what it waits for has come. -/
  | proceed

namespace Daemon

variable {σ : Type}

/-! ### Captures -/

/-- The daemon with a capture task in another stage. -/
def place (d : Daemon) (task : Nat) (stage : CaptureStage) : Daemon :=
  { d with captures := d.captures.modify task ({ · with stage }) }

/-- What a capture task logs in its turn. -/
def turnEvents (cancelled : Bool) (task : CaptureTask) : List Event :=
  match task.stage with
  | .spawned => [CaptureRun.startedEvent task.interface]
  | .looking => if cancelled then [CaptureRun.stoppedEvent task.interface] else []
  | .reading | .stopped | .failed _ => []

/-- The turn of a capture task. -/
def turn (d : Daemon) (task : Nat) : List Event × Daemon :=
  match d.captures[task]? with
  | none => ([], d)
  | some capture =>
    (turnEvents d.cancelled capture, d.place task (capture.stage.turn d.cancelled))

/-- The return of a read: a packet is accounted, and an error cancels everything. -/
def read (d : Daemon) (task : Nat) (reading : Reading) : List Event × Daemon :=
  match d.captures[task]? with
  | none => ([], d)
  | some capture =>
    if capture.stage = .reading then
      let polled := reading.polled capture.interface d.tcpOnly
      let next := d.place task (.after polled)
      match polled with
      | .packet r => ([], { next with loop.monitor := (d.loop.monitor.ingest r).2 })
      | .nothing => ([], next)
      | .failed e =>
        ([CaptureRun.failedEvent capture.interface e], { next with failed := true, cancelled := true })
    else ([], d)

/-! ### The main task -/

/-- The event about the blocks that the evaluation loop released when it ended. -/
def releasedEvent (released : Nat) : Event :=
  ⟨.info, "✓ Released all blocks", [("released", .number released)]⟩

/-- The event about the packets that were ingested. -/
def countsEvent (m : Monitor) : Event :=
  ⟨.info, "📊 Packets ingested",
    [("accepted", .number m.accepted.toNat), ("discarded", .number m.discarded.toNat)]⟩

/-- The begin of a shutdown for a reason. -/
def stop (d : Daemon) (reason : ShutdownReason) : List Event × Daemon :=
  ([Shutdown.reasonEvent reason], { d with cancelled := true, main := .stopping reason })

/-- What the main task does next. Captures that have not ended when it goes on have used up the
grace period. The evaluation loop has no such period. -/
def proceed (d : Daemon) : List Event × Daemon :=
  match d.main with
  | .waiting => if d.cancelled then d.stop .internal else ([], d)
  | .stopping reason =>
    ([Shutdown.endEvent (d.captures.all (·.stage.hasEnded))], { d with main := .releasing reason })
  | .releasing reason =>
    match d.released? with
    | none => ([], d)
    | some released =>
      ([releasedEvent released, countsEvent d.loop.monitor],
        { d with main := .left (if d.failed then .internal else reason) })
  | .left _ => ([], d)

/-! ### All tasks -/

/-- Report events, one after another, and go on with a daemon. -/
def report (r : List Event × Daemon) : Action σ Daemon := fun s => ⟨r.2, s, r.1.map .event⟩

/-- What the daemon does at an occurrence. What cannot happen does nothing: a turn or a read of a
task that is not there or not at it, a tick of an evaluation loop that has ended. -/
def step (E : Enforcer σ) (d : Daemon) : Occurrence → Action σ Daemon
  | .turn task => report (d.turn task)
  | .read task reading => report (d.read task reading)
  | .tick now failure =>
    if d.released?.isSome then pure d
    else do
      let loop ← d.loop.step E (.tick now failure)
      pure { d with loop }
  | .finish =>
    if d.cancelled && d.released?.isNone then do
      let (released, loop) ← d.loop.finish E
      pure { d with loop, released? := some released }
    else pure d
  | .signal => report (if d.main = .waiting then d.stop .signal else ([], d))
  | .proceed => report d.proceed

/-- Occurrences one after another. -/
def run (E : Enforcer σ) : List Occurrence → Daemon → Action σ Daemon
  | [], d => pure d
  | x :: rest, d => do
    let d ← d.step E x
    run E rest d

end Daemon

end SourceGuard
