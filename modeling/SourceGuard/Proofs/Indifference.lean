import Mathlib.Data.List.Forall2
import SourceGuard.Proofs.Orders

/-!
# The answers of the firewall leave no mark

Two firewalls may answer the same calls differently: one accepts what the other refuses, and what a
firewall answers may depend on every call before. Two runs of the same operations, begun in the same
monitor, are nevertheless alike. They go through the same monitors, ask for the same calls in the
same order, and yield the same answers, up to whether a block that was begun is in force and to the
number of re-assertions that were refused. This holds for the runs by ascending address, and for any
other orders in which both go through their tables.

## Main definitions

* `RequestOutcome.Alike`, `TickReport.Alike`, `Answer.Alike`: what may differ between two answers
* `Step.Alike`, `Run.Alike`: what may differ between two steps and two runs
* `Run.asked`: the calls of a run

## Main results

* `Monitor.alike_operateThrough`: one operation is answered alike by any two firewalls
* `Monitor.alike_run`: two runs of the same operations are alike
-/

namespace SourceGuard

open Emission (asked)

variable {σ τ : Type}

/-! ## What may differ -/

/-- Either request found an entry, or neither did; whether the firewall accepted the block may
differ. -/
def RequestOutcome.Alike (o o' : RequestOutcome) : Prop :=
  o = .alreadyBlocked ↔ o' = .alreadyBlocked

/-- Two reports of a tick that release and list the same sources and show the same snapshot. -/
structure TickReport.Alike (r r' : TickReport) : Prop where
  /-- The same sources are released. -/
  released : r.released = r'.released
  /-- The same sources are listed as blocked, in the same order. -/
  blocked : List.Forall₂ (fun x x' => x.1 = x'.1 ∧ x.2.Alike x'.2) r.blocked r'.blocked
  /-- The snapshots agree. -/
  snapshot : r.snapshot = r'.snapshot

/-- Two answers that agree in all but what the firewall decides. -/
inductive Answer.Alike : Answer → Answer → Prop where
  /-- Answers that the firewall has no part in agree. -/
  | same (a : Answer) : Alike a a
  /-- The reports of two ticks are alike. -/
  | report {r r' : TickReport} : r.Alike r' → Alike (.report r) (.report r')
  /-- The outcomes of two requests are alike. -/
  | requested {o o' : RequestOutcome} : o.Alike o' → Alike (.requested o) (.requested o')
  /-- The number of refused re-assertions may differ. -/
  | refused (n n' : Nat) : Alike (.refused n) (.refused n')

/-- Two steps that agree in all but what the firewall decides and what is logged. -/
structure Step.Alike (x x' : Step) : Prop where
  /-- The operations agree. -/
  operation : x.operation = x'.operation
  /-- The monitors before them agree. -/
  before : x.before = x'.before
  /-- The answers are alike. -/
  answer : x.answer.Alike x'.answer
  /-- The calls agree. -/
  asked : asked x.trace = asked x'.trace
  /-- The monitors after them agree. -/
  after : x.after = x'.after

/-- The calls of a run, in order and without the answers. -/
def Run.asked (run : Run σ) : List Call := run.steps.flatMap fun x => Emission.asked x.trace

/-- Two runs that agree in all but what the firewall decides and what is logged. -/
structure Run.Alike (r : Run σ) (r' : Run τ) : Prop where
  /-- The steps are alike, one by one. -/
  steps : List.Forall₂ Step.Alike r.steps r'.steps
  /-- The same calls are made, in the same order. -/
  asked : r.asked = r'.asked
  /-- The monitors after them agree. -/
  monitor : r.monitor = r'.monitor

/-! ## One operation -/

namespace Monitor

/-- **Requests for the same offenders** are answered alike. -/
theorem alike_blockEach (E : Enforcer σ) (E' : Enforcer τ) (now : Instant) (os : List Offender)
    (b : Blocks) (s : σ) (s' : τ) :
    List.Forall₂ (fun x x' => x.1 = x'.1 ∧ x.2.Alike x'.2)
      (blockEach E now os b s).value.1 (blockEach E' now os b s').value.1 := by
  induction os generalizing b s s' with
  | nil => exact .nil
  | cons o rest ih =>
    let reason := RuleSet.reason o.fired
    have houtcome := Blocks.outcome_request E b o.source now reason s
    have houtcome' := Blocks.outcome_request E' b o.source now reason s'
    -- both requests leave the same table, so the rest is requested of the same blocks
    have hnext := Blocks.value_request E b o.source now reason s
    have hnext' := Blocks.value_request E' b o.source now reason s'
    refine .cons ⟨rfl, houtcome.trans houtcome'.symm⟩ ?_
    change List.Forall₂ _
      (blockEach E now rest (b.request E o.source now reason s).value.2 _).value.1
      (blockEach E' now rest (b.request E' o.source now reason s').value.2 _).value.1
    rw [hnext, hnext']
    exact ih _ _ _

/-- **A tick** releases and lists the same sources and shows the same snapshot, whatever the
firewall answers. -/
theorem alike_tickThrough (E : Enforcer σ) (E' : Enforcer τ) (o : Orders) (m : Monitor)
    (now : Instant) (s : σ) (s' : τ) :
    (m.tickThrough E now (o.traversal m now) s).value.1.Alike
      (m.tickThrough E' now (o.traversal m now) s').value.1 := by
  rw [tickThrough_apply, tickThrough_apply]
  exact ⟨rfl, alike_blockEach E E' now (m.culprits now) (m.settled now).blocks _ _, rfl⟩

/-- **An operation** is answered alike by any two firewalls. -/
theorem alike_operateThrough (E : Enforcer σ) (E' : Enforcer τ) (o : Orders) (m : Monitor)
    (op : Operation) (s : σ) (s' : τ) :
    (m.operateThrough E o op s).value.1.Alike (m.operateThrough E' o op s').value.1 := by
  cases op with
  | tick now => exact .report (alike_tickThrough E E' o m now s s')
  | request source now reason =>
    have houtcome := Blocks.outcome_request E m.blocks source now reason s
    have houtcome' := Blocks.outcome_request E' m.blocks source now reason s'
    exact .requested (houtcome.trans houtcome'.symm)
  | reconcile => exact .refused _ _
  -- which sources are released, and how many, is told by the orders and the table alone
  | _ => exact .same _

/-! ## Runs -/

/-- Two runs with the same orders are alike. -/
theorem alike_runThrough (E : Enforcer σ) (E' : Enforcer τ) (o : Nat → Orders) (m : Monitor)
    (ops : List Operation) (s : σ) (s' : τ) :
    (m.runThrough E o ops s).Alike (m.runThrough E' o ops s') := by
  induction ops generalizing o m s s' with
  | nil => exact ⟨.nil, rfl, rfl⟩
  | cons op rest ih =>
    have hasked : asked (m.operateThrough E (o 0) op s).trace =
        asked (m.operateThrough E' (o 0) op s').trace := by
      rw [asked_operateThrough, asked_operateThrough]
    -- both operations leave the same monitor, from which the rest of the two runs goes on
    have hnext : (m.operateThrough E (o 0) op s).value.2 =
        (m.operateThrough E' (o 0) op s').value.2 := by
      rw [value_operateThrough, value_operateThrough]
    have hanswer := alike_operateThrough E E' (o 0) m op s s'
    have hrest := ih (fun k => o (k + 1)) (m.operateThrough E (o 0) op s).value.2
      (m.operateThrough E (o 0) op s).firewall (m.operateThrough E' (o 0) op s').firewall
    simp only [runThrough, ← hnext]
    constructor
    · exact .cons ⟨rfl, rfl, hanswer, hasked, rfl⟩ hrest.steps
    · exact congrArg₂ (· ++ ·) hasked hrest.asked
    · exact hrest.monitor

/-- **Two runs of the same operations** are alike, whatever the two firewalls answer: they go through
the same monitors, ask for the same calls and yield answers that differ in nothing but what the
firewalls decided. So they are in whatever orders both go through their tables, which may differ
from one operation to the next. -/
theorem alike_run (E : Enforcer σ) (E' : Enforcer τ) (m : Monitor) (ops : List Operation) (s : σ)
    (s' : τ) :
    (m.run E ops s).Alike (m.run E' ops s') ∧
      ∀ o : Nat → Orders, (m.runThrough E o ops s).Alike (m.runThrough E' o ops s') := by
  refine ⟨?_, fun o => alike_runThrough E E' o m ops s s'⟩
  rw [run_eq_runThrough, run_eq_runThrough]
  exact alike_runThrough E E' (fun _ => .ascending) m ops s s'

end Monitor

end SourceGuard
