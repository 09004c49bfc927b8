import SourceGuard.Proofs.Evaluation

/-!
# Runs of the monitor

The operations on a monitor, performed one after another against a firewall, make a run. What an
operation asks of the firewall and the monitor that it leaves are functions of the monitor alone;
the answers of the firewall decide only what is reported.

## Main definitions

* `Operation`, `Answer`, `Monitor.operate`: one operation and what it yields
* `Monitor.next`, `Monitor.demands`: the monitor after an operation, and what the operation asks
* `Step`, `Run`, `Monitor.run`: operations one after another

## Main results

* `Monitor.value_operate`, `Monitor.asked_operate`: operations do not depend on the answers of the
  firewall
* `Monitor.run_append`, `Monitor.exists_of_steps_eq_append`: runs compose, and come apart at every
  step
-/

namespace SourceGuard

open Emission (asked)

variable {σ : Type}

/-! ## Operations -/

/-- What can be done with a monitor. -/
inductive Operation where
  /-- A packet arrives. -/
  | ingest (r : Record)
  /-- A record is put into the window, whether its source is blocked or not. -/
  | append (r : Record)
  /-- The window is pruned. -/
  | prune (now : Instant)
  /-- The monitor evaluates. -/
  | tick (now : Instant)
  /-- A block is requested. -/
  | request (source : Address) (now : Instant) (reason : String)
  /-- The expired blocks are released. -/
  | releaseExpired (now : Instant)
  /-- All blocks are released. -/
  | releaseAll
  /-- All blocks are re-asserted. -/
  | reconcile
  /-- The blocks are shown. -/
  | statuses (now : Instant)
  /-- A source is looked up. -/
  | lookUp (source : Address)
deriving DecidableEq

/-- What an operation yields. -/
inductive Answer where
  /-- Whether the packet was accounted. -/
  | accounted (accepted : Bool)
  /-- Nothing. -/
  | done
  /-- The number of records that were dropped. -/
  | evicted (count : Nat)
  /-- What the tick did. -/
  | report (report : TickReport)
  /-- What became of the request. -/
  | requested (outcome : RequestOutcome)
  /-- The sources that were released. -/
  | released (sources : List Address)
  /-- The number of sources that were released. -/
  | cleared (count : Nat)
  /-- The number of refused re-assertions. -/
  | refused (count : Nat)
  /-- The blocks as a report shows them. -/
  | shown (statuses : List BlockStatus)
  /-- Whether the source has no entry. -/
  | unblocked (free : Bool)

namespace Monitor

/-- One operation. -/
def operate (E : Enforcer σ) (m : Monitor) : Operation → Action σ (Answer × Monitor)
  | .ingest r => pure (.accounted (m.ingest r).1, (m.ingest r).2)
  | .append r => pure (.done, m.append r)
  | .prune now =>
    pure (.evicted (m.window.evicted now), { m with window := m.window.prune now })
  | .tick now => do
    let (report, m) ← m.tick E now
    pure (.report report, m)
  | .request source now reason => do
    let (outcome, blocks) ← m.blocks.request E source now reason
    pure (.requested outcome, { m with blocks })
  | .releaseExpired now => do
    let (released, blocks) ← m.blocks.releaseExpired E now
    pure (.released released, { m with blocks })
  | .releaseAll => do
    let (count, blocks) ← m.blocks.releaseAll E
    pure (.cleared count, { m with blocks })
  | .reconcile => do
    let failures ← m.blocks.reconcile E
    pure (.refused failures, m)
  | .statuses now => pure (.shown (m.blocks.statuses now), m)
  | .lookUp source => pure (.unblocked (!m.blocks.isBlocked source), m)

/-- The monitor after an operation. -/
def next (m : Monitor) : Operation → Monitor
  | .ingest r => (m.ingest r).2
  | .append r => m.append r
  | .prune now => { m with window := m.window.prune now }
  | .tick now => m.ticked now
  | .request source now reason => { m with blocks := m.blocks.grant source now reason }
  | .releaseExpired now => { m with blocks := m.blocks.drop (m.blocks.expired now) }
  | .releaseAll => { m with blocks := { m.blocks with table := .empty } }
  | .reconcile | .statuses _ | .lookUp _ => m

/-- What an operation asks of the firewall. -/
def demands (m : Monitor) : Operation → List Call
  | .tick now => (m.blocks.expired now).map .remove ++ (m.culprits now).map (.add ·.source)
  | .request source _ _ => if m.blocks.isBlocked source then [] else [.add source]
  | .releaseExpired now => (m.blocks.expired now).map .remove
  | .releaseAll => m.blocks.table.sources.map .remove
  | .reconcile => m.blocks.table.sources.map .add
  | .ingest _ | .append _ | .prune _ | .statuses _ | .lookUp _ => []

/-- **The monitor after an operation** does not depend on the answers of the firewall. -/
theorem value_operate (E : Enforcer σ) (m : Monitor) (op : Operation) (s : σ) :
    (m.operate E op s).value.2 = m.next op := by
  cases op with
  | tick now => exact congrArg Prod.snd (value_tick E m now s)
  | request source now reason =>
    exact congrArg (fun blocks => { m with blocks })
      (Blocks.value_request E m.blocks source now reason s)
  | releaseExpired now =>
    exact congrArg (fun r => { m with blocks := r.2 }) (Blocks.value_releaseExpired E m.blocks now s)
  | releaseAll =>
    exact congrArg (fun r => { m with blocks := r.2 }) (Blocks.value_releaseAll E m.blocks s)
  | _ => rfl

/-- **What an operation asks** does not depend on the answers of the firewall. -/
theorem asked_operate (E : Enforcer σ) (m : Monitor) (op : Operation) (s : σ) :
    asked (m.operate E op s).trace = m.demands op := by
  cases op with
  | tick now => rw [operate, Action.trace_bind_pure, asked_tick, demands]
  | request source now reason =>
    rw [operate, Action.trace_bind_pure, Blocks.asked_request, demands]
  | releaseExpired now => rw [operate, Action.trace_bind_pure, Blocks.asked_releaseExpired, demands]
  | releaseAll => rw [operate, Action.trace_bind_pure, Blocks.asked_releaseAll, demands]
  | reconcile => rw [operate, Action.trace_bind_pure, Blocks.asked_reconcile, demands]
  | _ => rfl

@[simp] theorem requested_next (m : Monitor) (op : Operation) :
    (m.next op).blocks.requested = m.blocks.requested := by
  cases op with
  | ingest r =>
    change (m.ingest r).2.blocks.requested = m.blocks.requested
    unfold ingest
    split <;> rfl
  | tick now => exact requested_grantEach now (m.culprits now) (m.settled now).blocks
  | request source now reason => exact Blocks.requested_grant m.blocks source now reason
  | _ => rfl

end Monitor

/-! ## Runs -/

/-- What is found in a list is what is found in its head and then what is found in its tail. -/
theorem filterMap_cons_toList {α β : Type} (f : α → Option β) (a : α) (l : List α) :
    (a :: l).filterMap f = (f a).toList ++ l.filterMap f := by
  rw [List.filterMap_cons]
  cases f a <;> rfl

/-- One operation of a run. -/
structure Step where
  /-- The operation. -/
  operation : Operation
  /-- The monitor before it. -/
  before : Monitor
  /-- What it yielded. -/
  answer : Answer
  /-- What it did on the way. -/
  trace : List Emission
  /-- The monitor after it. -/
  after : Monitor

/-- Operations performed one after another. -/
structure Run (σ : Type) where
  /-- The operations, the first one first. -/
  steps : List Step
  /-- The monitor after them. -/
  monitor : Monitor
  /-- The state in which they left the firewall. -/
  firewall : σ

namespace Monitor

/-- Operations performed one after another against a firewall. -/
def run (E : Enforcer σ) : List Operation → Monitor → σ → Run σ
  | [], m, s => ⟨[], m, s⟩
  | op :: rest, m, s =>
    let out := m.operate E op s
    let later := run E rest out.value.2 out.firewall
    { later with steps := ⟨op, m, out.value.1, out.trace, out.value.2⟩ :: later.steps }

/-- **A run of operations and more operations** is a run of the first, then a run of the others. -/
theorem run_append (E : Enforcer σ) (ops ops' : List Operation) (m : Monitor) (s : σ) :
    m.run E (ops ++ ops') s =
      let first := m.run E ops s
      let second := first.monitor.run E ops' first.firewall
      { second with steps := first.steps ++ second.steps } := by
  induction ops generalizing m s with
  | nil => rfl
  | cons op rest ih =>
    rw [List.cons_append, run, ih]
    rfl

/-- **A run comes apart** wherever its steps do. -/
theorem exists_of_steps_eq_append (E : Enforcer σ) {ops : List Operation} {m : Monitor} {s : σ}
    {before after : List Step} (h : (m.run E ops s).steps = before ++ after) :
    ∃ first second, ops = first ++ second ∧ (m.run E first s).steps = before ∧
      ((m.run E first s).monitor.run E second (m.run E first s).firewall).steps = after := by
  induction before generalizing ops m s with
  | nil => exact ⟨[], ops, rfl, rfl, h⟩
  | cons step before ih =>
    cases ops with
    | nil => cases h
    | cons op rest =>
      obtain ⟨hstep, hrest⟩ := List.cons.inj h
      obtain ⟨first, second, rfl, hfirst, hsecond⟩ := ih hrest
      exact ⟨op :: first, second, rfl, List.cons_eq_cons.mpr ⟨hstep, hfirst⟩, hsecond⟩

/-- The monitor after a run is the one after its last step. -/
theorem monitor_run (E : Enforcer σ) (ops : List Operation) (m : Monitor) (s : σ) :
    (m.run E ops s).monitor = ((m.run E ops s).steps.getLast?.map (·.after)).getD m := by
  induction ops generalizing m s with
  | nil => rfl
  | cons op rest ih =>
    let out := m.operate E op s
    have hlater := ih out.value.2 out.firewall
    change (out.value.2.run E rest out.firewall).monitor =
      ((_ :: (out.value.2.run E rest out.firewall).steps).getLast?.map (·.after)).getD m
    rw [hlater, List.getLast?_cons, Option.map_some, Option.getD_some]
    cases (out.value.2.run E rest out.firewall).steps.getLast? <;> rfl

/-- A run whose steps begin with a step begins with its operation. -/
theorem exists_of_steps_eq_cons (E : Enforcer σ) {ops : List Operation} {m : Monitor} {s : σ}
    {step : Step} {later : List Step} (h : (m.run E ops s).steps = step :: later) :
    ∃ rest s', ops = step.operation :: rest ∧ step.before = m ∧
      step.answer = (m.operate E step.operation s).value.1 ∧
      step.trace = (m.operate E step.operation s).trace ∧ step.after = m.next step.operation ∧
      (step.after.run E rest s').steps = later := by
  cases ops with
  | nil => cases h
  | cons op rest =>
    obtain ⟨rfl, hlater⟩ := List.cons.inj h
    exact ⟨rest, _, rfl, rfl, rfl, rfl, value_operate E m op s, hlater⟩

/-- Every step of a run is its operation, performed on the monitor before it. -/
theorem exists_of_mem (E : Enforcer σ) {ops : List Operation} {m : Monitor} {s : σ} {step : Step}
    (h : step ∈ (m.run E ops s).steps) :
    ∃ s', step.answer = (step.before.operate E step.operation s').value.1 ∧
      step.trace = (step.before.operate E step.operation s').trace ∧
      step.after = step.before.next step.operation := by
  obtain ⟨before, after, hsplit⟩ := List.append_of_mem h
  obtain ⟨first, second, -, -, hsecond⟩ := exists_of_steps_eq_append E hsplit
  obtain ⟨rest, s', -, hbefore, hstep⟩ := exists_of_steps_eq_cons E hsecond
  rw [← hbefore] at hstep
  obtain ⟨hanswer, htrace, hafter, -⟩ := hstep
  exact ⟨_, hanswer, htrace, hafter⟩

/-- Every step of a run leaves the next monitor and asks what its operation demands. -/
theorem step_of_mem (E : Enforcer σ) {ops : List Operation} {m : Monitor} {s : σ} {step : Step}
    (h : step ∈ (m.run E ops s).steps) :
    step.after = step.before.next step.operation ∧
      asked step.trace = step.before.demands step.operation := by
  obtain ⟨s', -, htrace, hafter⟩ := exists_of_mem E h
  rw [htrace]
  exact ⟨hafter, asked_operate E step.before step.operation s'⟩

theorem map_operation_run (E : Enforcer σ) (ops : List Operation) (m : Monitor) (s : σ) :
    (m.run E ops s).steps.map (·.operation) = ops := by
  induction ops generalizing m s with
  | nil => rfl
  | cons op rest ih => exact congrArg (op :: ·) (ih _ _)

/-- The length of a block stays as it is in a run. -/
theorem requested_of_mem (E : Enforcer σ) {ops : List Operation} {m : Monitor} {s : σ} {step : Step}
    (h : step ∈ (m.run E ops s).steps) : step.before.blocks.requested = m.blocks.requested := by
  induction ops generalizing m s with
  | nil => cases h
  | cons op rest ih =>
    rcases List.mem_cons.mp h with rfl | h
    · rfl
    · rw [ih h, value_operate, requested_next]

end Monitor

end SourceGuard
