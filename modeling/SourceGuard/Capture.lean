import SourceGuard.Capture.Frame
import SourceGuard.Fault
import SourceGuard.Monitor

/-!
# Capturing

An interface is opened by its name, if the machine has it and gives a channel of frames for it. The
open interface is polled again and again, each poll yielding a packet, nothing, or an error. The
loop looks at the cancellation before each poll, accounts every packet, and ends at the first
cancellation it sees or at the first error.

## Main definitions

* `Interface.fault?`: why an interface cannot be opened
* `Frame.record?`: the record of a frame
* `Reading.polled`: what one read of a channel yields
* `Poll`: what one poll yields, and whether the loop is cancelled by then
* `capture`: the loop
-/

namespace SourceGuard

/-! ### Interfaces -/

/-- What the system gives for an interface that is to be opened. -/
inductive Channel where
  /-- A channel of frames. -/
  | frames
  /-- A channel of another kind. -/
  | other
  /-- No channel, for a cause. -/
  | refused (cause : FileFault)
deriving DecidableEq, Repr

/-- An interface of a machine. -/
structure Interface where
  /-- Its name. -/
  name : String
  /-- What the system gives for it. -/
  channel : Channel := .frames
deriving DecidableEq, Repr

namespace Interface

/-- Why a machine with some interfaces cannot open the one of a name, if it cannot. -/
def fault? (interfaces : List Interface) (name : String) : Option CaptureError :=
  match interfaces.find? (·.name = name) with
  | none => some (.interfaceNotFound name)
  | some interface =>
    match interface.channel with
    | .frames => none
    | .other => some (.unsupportedChannel name)
    | .refused cause => some (.notOpened name cause)

/-- The first of some names of which a machine cannot open the interface, and why. -/
def firstFault? (interfaces : List Interface) (names : List String) :
    Option (String × CaptureError) :=
  names.findSome? fun name => (fault? interfaces name).map (name, ·)

end Interface

/-! ### Polls -/

/-- The record of a frame that was seen at an instant, if its packet has a sender. -/
def Frame.record? (frame : Frame) (tcpOnly : Bool) (seen : Instant) : Option Record :=
  (frame.source? tcpOnly).map fun source => { source, size := frame.size, seen }

/-- What a poll of a capture source yields. -/
inductive Polled where
  /-- A packet. -/
  | packet (r : Record)
  /-- No packet in time. -/
  | nothing
  /-- An error. -/
  | failed (e : CaptureError)
deriving DecidableEq

/-- What a read of a channel gives. -/
inductive Reading where
  /-- A frame, seen at an instant. -/
  | frame (bytes : Frame) (seen : Instant)
  /-- No frame in time. -/
  | nothing
  /-- No frame, for a cause. -/
  | failed (cause : FileFault)

/-- What a read of the channel of an interface yields: a frame whose packet has no sender yields
nothing. -/
def Reading.polled (interface : String) (tcpOnly : Bool) : Reading → Polled
  | .frame bytes seen =>
    match bytes.record? tcpOnly seen with
    | some r => .packet r
    | none => .nothing
  | .nothing => .nothing
  | .failed cause => .failed (.notRead interface cause)

/-! ### The loop -/

/-- One poll. -/
structure Poll where
  /-- What it yields. -/
  yields : Polled
  /-- Whether the loop is cancelled when it returns. -/
  cancels : Bool := false
deriving DecidableEq

/-- How the loop stands. -/
inductive CaptureEnd where
  /-- It saw the cancellation. -/
  | stopped
  /-- The source failed. -/
  | failed (e : CaptureError)
  /-- It waits for the next poll. -/
  | waiting
deriving DecidableEq

/-- What the loop did. -/
structure CaptureRun where
  /-- How it stands. -/
  ended : CaptureEnd
  /-- The number of polls. -/
  polls : Nat
  /-- Whether the loop is cancelled. -/
  cancelled : Bool
  /-- The monitor afterwards. -/
  monitor : Monitor

/-- The loop over a script of polls. -/
def capture : (cancelled : Bool) → List Poll → Monitor → CaptureRun
  | true, _, m => ⟨.stopped, 0, true, m⟩
  | false, [], m => ⟨.waiting, 0, false, m⟩
  | false, poll :: rest, m =>
    match poll.yields with
    | .failed e => ⟨.failed e, 1, poll.cancels, m⟩
    | .nothing =>
      let run := capture poll.cancels rest m
      { run with polls := run.polls + 1 }
    | .packet r =>
      let run := capture poll.cancels rest (m.ingest r).2
      { run with polls := run.polls + 1 }

namespace CaptureRun

/-- The event of the start of the loop on an interface. -/
def startedEvent (interface : String) : Event :=
  ⟨.info, "📡 Capture started", [("interface", .plain interface)]⟩

/-- The event of a cancellation that the loop saw. -/
def stoppedEvent (interface : String) : Event :=
  ⟨.info, "🛑 Capture stopped", [("interface", .plain interface)]⟩

/-- The event of an error. -/
def failedEvent (interface : String) (e : CaptureError) : Event :=
  ⟨.error, "❌ Capture failed: " ++ e.message, [("interface", .plain interface)]⟩

/-- The events of the loop on an interface. -/
def events (run : CaptureRun) (interface : String) : List Event :=
  match run.ended with
  | .stopped => [startedEvent interface, stoppedEvent interface]
  | .failed e => [startedEvent interface, failedEvent interface e]
  | .waiting => [startedEvent interface]

end CaptureRun

end SourceGuard
