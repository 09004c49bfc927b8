import SourceGuard.Address.Printer
import SourceGuard.Event
import SourceGuard.Snapshot

/-!
# Enforcement

The guard asks a firewall to add and remove blocks. A firewall is a machine with states of its own:
it answers each call with success or with a reason of failure, may report events, and moves on to
its next state, so an answer can depend on all calls before it. An action against a firewall
produces a value and leaves a trace: the calls made, the events reported and the snapshots handed
to the report, in order.

## Main definitions

* `Call`, `EnforcementError`, `Enforcer`: calls, failures, firewalls
* `Emission`, `Action`: traces and actions
* `Enforcer.perform`, `Action.emit`: one call, one event

## Main results

* `Action.trace_bind`: the trace of two actions is the trace of the first, then of the second
-/

namespace SourceGuard

/-- What the guard asks of a firewall. -/
inductive Call where
  /-- Drop the traffic of a source. -/
  | add (source : Address)
  /-- Let the traffic of a source pass. -/
  | remove (source : Address)
deriving DecidableEq, Repr

namespace Call

/-- The source of a call. -/
def source : Call → Address
  | add source => source
  | remove source => source

end Call

/-- Why a call failed. -/
inductive EnforcementError where
  /-- A command could not be started. -/
  | spawn (command cause : String)
  /-- A command ended with another status than success. -/
  | rejected (command status complaint : String)
deriving DecidableEq, Repr

namespace EnforcementError

/-- A failure in words. -/
def message : EnforcementError → String
  | spawn command cause => "Failed to run `" ++ command ++ "`: " ++ cause
  | rejected command status complaint =>
    "`" ++ command ++ "` exited with " ++ status ++ ": " ++ complaint

end EnforcementError

/-- What a firewall answers to a call. -/
structure Response where
  /-- The reason of failure, if the call failed. -/
  failure : Option EnforcementError := none
  /-- The events that the firewall itself reports. -/
  events : List Event := []

/-- A firewall with states `σ`. -/
structure Enforcer (σ : Type) where
  /-- The name of the firewall. -/
  name : String
  /-- The answer to a call, and the next state. -/
  answer : Call → σ → Response × σ

/-- One item of a trace. -/
inductive Emission where
  /-- A call, with the reason of its failure if it failed. -/
  | call (call : Call) (failure : Option EnforcementError)
  /-- An event of the log. -/
  | event (event : Event)
  /-- A snapshot handed to the report. -/
  | report (snapshot : Snapshot)
deriving DecidableEq

namespace Emission

/-- The calls of a trace, with their failures. -/
def calls (trace : List Emission) : List (Call × Option EnforcementError) :=
  trace.filterMap fun
    | call c failure => some (c, failure)
    | _ => none

/-- The events of a trace. -/
def events (trace : List Emission) : List Event :=
  trace.filterMap fun
    | event e => some e
    | _ => none

@[simp] theorem calls_append (t u : List Emission) : calls (t ++ u) = calls t ++ calls u :=
  List.filterMap_append

@[simp] theorem events_append (t u : List Emission) : events (t ++ u) = events t ++ events u :=
  List.filterMap_append

end Emission

/-- The outcome of an action. -/
structure Outcome (σ α : Type) where
  /-- What the action produced. -/
  value : α
  /-- The state in which it left the firewall. -/
  firewall : σ
  /-- What it did on the way. -/
  trace : List Emission := []

/-- A computation that may call a firewall with states `σ`. -/
def Action (σ α : Type) : Type := σ → Outcome σ α

namespace Action

variable {σ α β : Type}

/-- The action that does nothing. -/
protected def pure (a : α) : Action σ α := fun s => ⟨a, s, []⟩

/-- One action after another. -/
protected def bind (x : Action σ α) (f : α → Action σ β) : Action σ β := fun s =>
  let first := x s
  let second := f first.value first.firewall
  ⟨second.value, second.firewall, first.trace ++ second.trace⟩

instance : Monad (Action σ) where
  pure := Action.pure
  bind := Action.bind

/-- Report an event. -/
def emit (e : Event) : Action σ Unit := fun s => ⟨(), s, [.event e]⟩

/-- Hand a snapshot to the report. -/
def report (snapshot : Snapshot) : Action σ Unit := fun s => ⟨(), s, [.report snapshot]⟩

@[simp] theorem pure_apply (a : α) (s : σ) : (pure a : Action σ α) s = ⟨a, s, []⟩ := rfl

@[simp] theorem value_bind (x : Action σ α) (f : α → Action σ β) (s : σ) :
    ((x >>= f) s).value = (f (x s).value (x s).firewall).value := rfl

@[simp] theorem firewall_bind (x : Action σ α) (f : α → Action σ β) (s : σ) :
    ((x >>= f) s).firewall = (f (x s).value (x s).firewall).firewall := rfl

/-- **The trace of two actions** is the trace of the first, then of the second. -/
@[simp] theorem trace_bind (x : Action σ α) (f : α → Action σ β) (s : σ) :
    ((x >>= f) s).trace = (x s).trace ++ (f (x s).value (x s).firewall).trace := rfl

@[simp] theorem emit_apply (e : Event) (s : σ) : emit e s = ⟨(), s, [.event e]⟩ := rfl

@[simp] theorem report_apply (snapshot : Snapshot) (s : σ) :
    report snapshot s = ⟨(), s, [.report snapshot]⟩ := rfl

end Action

namespace Enforcer

variable {σ : Type}

/-- One call, yielding the reason of its failure if it failed. -/
def perform (E : Enforcer σ) (c : Call) : Action σ (Option EnforcementError) := fun s =>
  let (response, next) := E.answer c s
  ⟨response.failure, next, .call c response.failure :: response.events.map .event⟩

@[simp] theorem value_perform (E : Enforcer σ) (c : Call) (s : σ) :
    (E.perform c s).value = (E.answer c s).1.failure := rfl

@[simp] theorem firewall_perform (E : Enforcer σ) (c : Call) (s : σ) :
    (E.perform c s).firewall = (E.answer c s).2 := rfl

/-- The firewall without states that refuses the calls for which it has a reason. -/
def refusing (name : String) (refusal : Call → Option EnforcementError) : Enforcer Unit where
  name
  answer c s := ({ failure := refusal c }, s)

/-- The firewall that changes nothing and reports what it would do. -/
def dryRun : Enforcer σ where
  name := "dry-run"
  answer c s :=
    let message := match c with
      | .add _ => "[dry-run] would insert DROP rule"
      | .remove _ => "[dry-run] would delete DROP rule"
    ({ events := [⟨.info, message, [("source", .plain c.source.toText)]⟩] }, s)

end Enforcer

end SourceGuard
