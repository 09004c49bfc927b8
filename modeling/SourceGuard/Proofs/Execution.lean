import SourceGuard.EvaluationLoop
import SourceGuard.Proofs.Audit
import SourceGuard.Proofs.Firewall.Replay

/-!
# Executions of the evaluation loop

An execution of the loop is a run of the monitor. Each tick of the loop is a tick of the monitor,
followed by one reconciliation where one is due and somebody is blocked, and the cancellation is a
release of all blocks. Reports that fail leave a warning in the log and no other trace. So what
holds of runs holds of executions, and an execution that begins without blocks ends without blocks:
every source was unblocked as often as it was blocked.

## Main definitions

* `EvaluationLoop.Due`, `EvaluationLoop.duePoint`: when a re-assertion is due
* `EvaluationLoop.operations`: the operations that the events of an execution amount to
* `Outcome.Matches`: an action does what a run does
* `Orderly`: what holds of an execution

## Main results

* `EvaluationLoop.matches_step`, `EvaluationLoop.matches_drive`: events amount to their operations
* `EvaluationLoop.agrees_run`: reports that fail change nothing
* `EvaluationLoop.orderly_run`: executions are orderly
-/

namespace SourceGuard

open Emission (asked)

variable {σ : Type}

/-! ## Actions that do what a run does -/

/-- An action that leaves a monitor does what a run does: it leaves the same monitor, leaves the
firewall in the same state and makes the same calls, with the same answers. -/
structure Outcome.Matches {α : Type} (out : Outcome σ α) (left : Monitor) (run : Run σ) : Prop where
  /-- The monitors agree. -/
  monitor : left = run.monitor
  /-- The firewalls agree. -/
  firewall : out.firewall = run.firewall
  /-- The calls agree. -/
  calls : Emission.calls out.trace = run.calls

/-- An action that does what a run does, and then one that does what the rest of the run does. -/
theorem Outcome.Matches.bind {α β : Type} {x : Action σ α} {f : α → Action σ β} {E : Enforcer σ}
    {ops ops' : List Operation} {m left left' : Monitor} {s : σ}
    (h : (x s).Matches left (m.run E ops s))
    (h' : (f (x s).value (x s).firewall).Matches left' (left.run E ops' (x s).firewall)) :
    ((x >>= f) s).Matches left' (m.run E (ops ++ ops') s) := by
  -- the second run begins where the first one ended
  rw [h.monitor, h.firewall] at h'
  rw [Monitor.run_append]
  constructor
  case monitor => exact h'.monitor
  case firewall =>
    rw [Action.firewall_bind, h.firewall]
    exact h'.firewall
  case calls =>
    rw [Action.trace_bind, Emission.calls_append, h.calls, h.firewall, h'.calls]
    exact List.flatMap_append.symm

/-- The instant of a tick. -/
def LoopEvent.tick? : LoopEvent → Option Instant
  | packet _ => none
  | tick now _ => some now

namespace EvaluationLoop

/-! ## Operations of an execution -/

/-- A re-assertion is due at an instant if re-assertions are wanted and as much time as is wanted
between two of them has passed since a point. -/
def Due (every : Option Span) (point now : Instant) : Prop :=
  ∃ span, every = some span ∧ span ≤ Instant.until point now

instance (every : Option Span) (point now : Instant) : Decidable (Due every point now) :=
  decidable_of_iff (every.any fun span => decide (span ≤ Instant.until point now)) (by
    cases every <;> simp [Due])

/-- The point from which time is counted after ticks at some instants: the last of them at which a
re-assertion was due, or the start of the loop. -/
def duePoint (every : Option Span) (start : Instant) (ticks : List Instant) : Instant :=
  ticks.foldl (fun point now => if Due every point now then now else point) start

/-- The operations that an event amounts to after ticks at some instants: a packet is ingested, and
a tick is followed by a reconciliation if a re-assertion is due and somebody is blocked then. -/
def turn (every : Option Span) (start : Instant) (past : List Instant) (m : Monitor) :
    LoopEvent → List Operation
  | .packet r => [.ingest r]
  | .tick now _ =>
    .tick now ::
      if Due every (duePoint every start past) now ∧ (m.ticked now).blocks.table.isEmpty = false then
        [.reconcile]
      else []

/-- The operations that events amount to after ticks at some instants. -/
def operationsFrom (every : Option Span) (start : Instant) :
    (past : List Instant) → Monitor → List LoopEvent → List Operation
  | _, _, [] => []
  | past, m, event :: rest =>
    let ops := turn every start past m event
    ops ++ operationsFrom every start (past ++ event.tick?.toList) (ops.foldl Monitor.next m) rest

/-- The operations that the events of an execution amount to. -/
def operations (loop : EvaluationLoop) (events : List LoopEvent) : List Operation :=
  operationsFrom loop.every loop.lastDue [] loop.monitor events

/-! ## Before the cancellation -/

/-- Events one after another, without a cancellation. -/
def drive (E : Enforcer σ) : List LoopEvent → EvaluationLoop → Action σ EvaluationLoop
  | [], loop => pure loop
  | event :: rest, loop => do
    let loop ← step E loop event
    drive E rest loop

/-- **An execution** is its events, then what the loop does after its cancellation. -/
theorem run_apply (E : Enforcer σ) (events : List LoopEvent) (loop : EvaluationLoop) (s : σ) :
    run E events loop s = (drive E events loop >>= finish E) s := by
  induction events generalizing loop s with
  | nil => rfl
  | cons event rest ih =>
    -- the first event, and then an execution from the loop that it leaves
    have hrest := ih (step E loop event s).value (step E loop event s).firewall
    change Outcome.mk (run E rest _ _).value (run E rest _ _).firewall
      ((step E loop event s).trace ++ (run E rest _ _).trace) = _
    rw [hrest]
    exact congrArg (Outcome.mk _ _) (List.append_assoc ..).symm

theorem isDue_eq (loop : EvaluationLoop) (now : Instant) :
    loop.isDue now = decide (Due loop.every loop.lastDue now) := by
  unfold isDue
  cases h : loop.every <;> simp [Due]

/-- What the loop logs about a report: that it failed, if it did. -/
def complaints : Option FileFault → List Event
  | none => []
  | some f => [⟨.warn, "⚠️  Failed to render report: " ++ f.message, []⟩]

/-- The re-assertion after a tick, if one is due. -/
def aftermath (E : Enforcer σ) (loop : EvaluationLoop) (now : Instant) (m : Monitor) :
    Action σ Unit :=
  if Due loop.every loop.lastDue now then reassert E m else pure ()

/-- **A tick of the loop** is a tick of the monitor, a report, and what follows. -/
theorem step_tick_apply (E : Enforcer σ) (loop : EvaluationLoop) (now : Instant)
    (failure : Option FileFault) (s : σ) :
    let out := loop.monitor.tick E now s
    let again := aftermath E loop now out.value.2 out.firewall
    loop.step E (.tick now failure) s =
      ⟨{ loop with
          monitor := out.value.2
          lastDue := if Due loop.every loop.lastDue now then now else loop.lastDue },
        again.firewall,
        out.trace ++ (.report out.value.1.snapshot :: (complaints failure).map .event ++
          again.trace)⟩ := by
  intro out again
  change ((loop.tick E now failure >>= fun r => pure r.2) s) = _
  by_cases hdue : Due loop.every loop.lastDue now <;> cases failure <;>
    simp [tick, isDue_eq, hdue, again, aftermath, complaints, bind, Action.bind, out]

/-! ## Events as operations -/

theorem run_foldl (E : Enforcer σ) (ops : List Operation) (m : Monitor) (s : σ) :
    (m.run E ops s).monitor = ops.foldl Monitor.next m := by
  induction ops generalizing m s with
  | nil => rfl
  | cons op rest ih =>
    rw [List.foldl_cons, ← Monitor.value_operate E m op s]
    exact ih _ _

/-- An operation by itself is a run. -/
theorem matches_operate (E : Enforcer σ) (m : Monitor) (op : Operation) (s : σ) :
    (m.operate E op s).Matches (m.operate E op s).value.2 (m.run E [op] s) :=
  ⟨rfl, rfl, (List.append_nil _).symm⟩

/-- A re-assertion is a reconciliation, if somebody is blocked. -/
theorem matches_reassert (E : Enforcer σ) (m : Monitor) (s : σ) :
    (reassert E m s).Matches m
      (m.run E (if m.blocks.table.isEmpty = false then [.reconcile] else []) s) := by
  unfold reassert
  by_cases hempty : m.blocks.table.isEmpty = true
  · rw [if_pos hempty, if_neg (by simp [hempty])]
    exact ⟨rfl, rfl, rfl⟩
  · rw [if_neg hempty, if_pos (by simpa using hempty)]
    refine ⟨rfl, rfl, ?_⟩
    -- the event of a re-assertion makes no call
    change Emission.calls ((m.blocks.reconcile E s).trace ++ [.event _]) =
      Emission.calls ((m.blocks.reconcile E s).trace ++ []) ++ []
    simp only [Emission.calls_append, List.append_nil]
    exact List.append_nil _

/-- What follows a tick is a reconciliation, if one is due and somebody is blocked. -/
theorem matches_aftermath (E : Enforcer σ) {loop : EvaluationLoop} {point : Instant}
    (hpoint : loop.lastDue = point) (now : Instant) (m : Monitor) (s : σ) :
    (aftermath E loop now m s).Matches m
      (m.run E (if Due loop.every point now ∧ m.blocks.table.isEmpty = false then [.reconcile]
        else []) s) := by
  rw [aftermath, hpoint]
  by_cases hdue : Due loop.every point now
  · simp only [hdue, true_and, if_true]
    exact matches_reassert E m s
  · simp only [hdue, false_and, if_false]
    exact ⟨rfl, rfl, rfl⟩

/-- **An event amounts to its operations.** -/
theorem matches_step (E : Enforcer σ) (loop : EvaluationLoop) {start : Instant}
    {past : List Instant} (hpoint : loop.lastDue = duePoint loop.every start past)
    (event : LoopEvent) (s : σ) :
    (loop.step E event s).Matches (loop.step E event s).value.monitor
      (loop.monitor.run E (turn loop.every start past loop.monitor event) s) := by
  cases event with
  | packet r => exact ⟨rfl, rfl, rfl⟩
  | tick now failure =>
    have hticked : (loop.monitor.tick E now s).value.2 = loop.monitor.ticked now :=
      congrArg Prod.snd (Monitor.value_tick E loop.monitor now s)
    -- the tick, and then a reconciliation if there is one
    have hfirst := matches_operate E loop.monitor (.tick now) s
    rw [Monitor.value_operate] at hfirst
    have hagain := matches_aftermath E hpoint now (loop.monitor.ticked now)
      (loop.monitor.tick E now s).firewall
    have hboth := hfirst.bind (f := fun _ => aftermath E loop now (loop.monitor.ticked now)) hagain
    rw [step_tick_apply, hticked]
    refine ⟨hboth.monitor, hboth.firewall, Eq.trans ?_ hboth.calls⟩
    -- neither the report nor a complaint about it makes a call
    have hquiet : Emission.calls ((complaints failure).map .event) = [] :=
      Emission.calls_map_event _
    rw [Action.trace_bind, Monitor.operate, Action.trace_bind_pure]
    change Emission.calls ((loop.monitor.tick E now s).trace ++ ([.report _] ++ _ ++ _)) = _
    simp only [Emission.calls_append, hquiet]
    rfl

@[simp] theorem duePoint_concat (every : Option Span) (start now : Instant) (past : List Instant) :
    duePoint every start (past ++ [now]) =
      if Due every (duePoint every start past) now then now else duePoint every start past := by
  rw [duePoint, List.foldl_append]
  rfl

/-- An event leaves the interval between re-assertions as it is and moves the point from which the
next one is counted. -/
theorem every_lastDue_step (E : Enforcer σ) (loop : EvaluationLoop) {start : Instant}
    {past : List Instant} (hpoint : loop.lastDue = duePoint loop.every start past)
    (event : LoopEvent) (s : σ) :
    (loop.step E event s).value.every = loop.every ∧
      (loop.step E event s).value.lastDue =
        duePoint loop.every start (past ++ event.tick?.toList) := by
  cases event with
  | packet r => exact ⟨rfl, hpoint.trans (congrArg _ (List.append_nil past).symm)⟩
  | tick now failure =>
    rw [step_tick_apply]
    refine ⟨rfl, ?_⟩
    change (if Due loop.every loop.lastDue now then now else loop.lastDue) =
      duePoint loop.every start (past ++ [now])
    rw [duePoint_concat, hpoint]

/-- **Events amount to their operations.** -/
theorem matches_drive (E : Enforcer σ) {loop : EvaluationLoop} {start : Instant}
    {past : List Instant} (hpoint : loop.lastDue = duePoint loop.every start past)
    (events : List LoopEvent) (s : σ) :
    (drive E events loop s).Matches (drive E events loop s).value.monitor
      (loop.monitor.run E (operationsFrom loop.every start past loop.monitor events) s) := by
  induction events generalizing loop past s with
  | nil => exact ⟨rfl, rfl, rfl⟩
  | cons event rest ih =>
    -- the invariant is that the loop counts from the last tick at which a re-assertion was due
    have hfirst := matches_step E loop hpoint event s
    obtain ⟨hevery, hlater⟩ := every_lastDue_step E loop hpoint event s
    rw [← hevery] at hlater
    have hrest := ih hlater (loop.step E event s).firewall
    rw [hevery] at hrest
    have hmonitor := hfirst.monitor
    rw [run_foldl] at hmonitor
    rw [operationsFrom, ← hmonitor]
    exact hfirst.bind hrest

/-! ## The cancellation -/

/-- **What the loop does after its cancellation** is a release of all blocks. -/
theorem finish_apply (E : Enforcer σ) (loop : EvaluationLoop) (s : σ) :
    ∃ notes : List Event, loop.finish E s =
      ⟨(loop.monitor.blocks.table.size,
          { loop with monitor := loop.monitor.next .releaseAll }),
        (loop.monitor.blocks.releaseAll E s).firewall,
        notes.map .event ++ (loop.monitor.blocks.releaseAll E s).trace⟩ := by
  have hrelease := Blocks.value_releaseAll E loop.monitor.blocks s
  by_cases hempty : loop.monitor.blocks.table.isEmpty = true
  · refine ⟨[⟨.debug, "🛑 Evaluation loop shutting down", []⟩], ?_⟩
    simp [finish, hempty, bind, Action.bind, hrelease, Monitor.next]
  · refine ⟨[⟨.debug, "🛑 Evaluation loop shutting down", []⟩,
      ⟨.info, "🧹 Removing firewall rules before exit",
        [("active", .number loop.monitor.blocks.table.size)]⟩], ?_⟩
    simp [finish, hempty, bind, Action.bind, hrelease, Monitor.next]

theorem matches_finish (E : Enforcer σ) (loop : EvaluationLoop) (s : σ) :
    (loop.finish E s).Matches (loop.finish E s).value.2.monitor
      (loop.monitor.run E [.releaseAll] s) := by
  obtain ⟨notes, hfinish⟩ := finish_apply E loop s
  have hoperate := matches_operate E loop.monitor .releaseAll s
  rw [Monitor.value_operate] at hoperate
  rw [hfinish]
  refine ⟨hoperate.monitor, hoperate.firewall, Eq.trans ?_ hoperate.calls⟩
  rw [Emission.calls_append, Emission.calls_map_event, Monitor.operate, Action.trace_bind_pure]
  rfl

end EvaluationLoop

/-! ## Reports that fail -/

/-- The event with a report that does not fail. -/
def LoopEvent.reported : LoopEvent → LoopEvent
  | packet r => .packet r
  | tick now _ => .tick now none

/-- Whether an emission is the warning that a report failed. -/
def Emission.isComplaint : Emission → Bool
  | event e => e.announces .warn "⚠️  Failed to render report: "
  | _ => false

/-- A trace without the warnings that reports failed. -/
def Emission.undisturbed (trace : List Emission) : List Emission := trace.filter (!·.isComplaint)

/-- Two actions that differ in nothing but the warnings that reports failed. -/
structure Outcome.Agrees {α : Type} (out out' : Outcome σ α) : Prop where
  /-- They yield the same. -/
  value : out.value = out'.value
  /-- They leave the firewall in the same state. -/
  firewall : out.firewall = out'.firewall
  /-- Their traces agree but for the warnings. -/
  trace : Emission.undisturbed out.trace = Emission.undisturbed out'.trace

theorem Outcome.Agrees.bind {α β : Type} {x x' : Action σ α} {f f' : α → Action σ β} {s : σ}
    (h : (x s).Agrees (x' s))
    (h' : (f (x s).value (x s).firewall).Agrees (f' (x s).value (x s).firewall)) :
    ((x >>= f) s).Agrees ((x' >>= f') s) := by
  have hvalue := h.value
  have hfirewall := h.firewall
  rw [hvalue, hfirewall] at h'
  constructor
  case value =>
    rw [Action.value_bind, hvalue, hfirewall]
    exact h'.value
  case firewall =>
    rw [Action.firewall_bind, hvalue, hfirewall]
    exact h'.firewall
  case trace =>
    have htrace := h.trace
    have htrace' := h'.trace
    unfold Emission.undisturbed at htrace htrace' ⊢
    rw [Action.trace_bind, Action.trace_bind, List.filter_append, List.filter_append, hvalue,
      hfirewall, htrace, htrace']

theorem Outcome.Agrees.symm {α : Type} {out out' : Outcome σ α} (h : out.Agrees out') :
    out'.Agrees out := ⟨h.value.symm, h.firewall.symm, h.trace.symm⟩

theorem Outcome.Agrees.trans {α : Type} {out out' out'' : Outcome σ α} (h : out.Agrees out')
    (h' : out'.Agrees out'') : out.Agrees out'' :=
  ⟨h.value.trans h'.value, h.firewall.trans h'.firewall, h.trace.trans h'.trace⟩

namespace EvaluationLoop

theorem isComplaint_of_mem_complaints {failure : Option FileFault} {e : Event}
    (h : e ∈ complaints failure) : (Emission.event e).isComplaint = true := by
  cases failure with
  | none => cases h
  | some f =>
    obtain rfl := List.mem_singleton.mp h
    change Event.announces _ .warn "⚠️  Failed to render report: " = true
    rw [Event.announces, Bool.and_eq_true, String.toList_append, List.isPrefixOf_iff_prefix]
    exact ⟨rfl, List.prefix_append _ _⟩

/-- A report that fails leaves nothing but its warning. -/
theorem agrees_step (E : Enforcer σ) (loop : EvaluationLoop) (event : LoopEvent) (s : σ) :
    (loop.step E event.reported s).Agrees (loop.step E event s) := by
  cases event with
  | packet r => exact ⟨rfl, rfl, rfl⟩
  | tick now failure =>
    have hdropped : ((complaints failure).map Emission.event).filter (!·.isComplaint) = [] := by
      rw [List.filter_eq_nil_iff]
      intro x hx
      obtain ⟨e, he, rfl⟩ := List.mem_map.mp hx
      simp [isComplaint_of_mem_complaints he]
    rw [LoopEvent.reported, step_tick_apply, step_tick_apply]
    refine ⟨rfl, rfl, ?_⟩
    unfold Emission.undisturbed
    simp only [List.filter_append, List.filter_cons, hdropped]
    rfl

theorem agrees_drive (E : Enforcer σ) (events : List LoopEvent) (loop : EvaluationLoop) (s : σ) :
    (drive E (events.map (·.reported)) loop s).Agrees (drive E events loop s) := by
  induction events generalizing loop s with
  | nil => exact ⟨rfl, rfl, rfl⟩
  | cons event rest ih => exact (agrees_step E loop event s).bind (ih _ _)

/-- **Reports that fail change nothing** in an execution but the warnings about them. -/
theorem agrees_run (E : Enforcer σ) (events : List LoopEvent) (loop : EvaluationLoop) (s : σ) :
    (run E (events.map (·.reported)) loop s).Agrees (run E events loop s) := by
  rw [run_apply, run_apply]
  exact (agrees_drive E events loop s).bind ⟨rfl, rfl, rfl⟩

end EvaluationLoop

/-! ## Blocks that begin and end -/

/-- Every removal ends a block, and nothing else does. -/
theorem Operation.count_unblock (op : Operation) (source : Address) (calls : List Call) :
    (op.movesOf source calls).count .unblock = calls.count (.remove source) := by
  -- whatever the operation, an addition is not the end of a block
  have hmove : ∀ c : Call, op.move c = .unblock ∧ c.source = source ↔ c = .remove source := by
    intro c
    cases c <;> cases op <;> simp [move, Call.source]
  rw [movesOf, List.count, List.countP_map, List.countP_filter, List.count]
  refine List.countP_congr fun c _ => ?_
  simpa using hmove c

theorem Run.count_unblock (run : Run σ) (source : Address) :
    (run.moves source).count .unblock = (run.calls.map (·.1)).count (.remove source) := by
  have hmoves : run.moves source = run.steps.flatMap (·.moves source) := List.map_flatMap
  have hcalls : run.calls.map (·.1) = run.steps.flatMap (asked ·.trace) := List.map_flatMap
  rw [hmoves, hcalls, List.count_flatMap, List.count_flatMap]
  congr 1
  refine List.map_congr_left fun step _ => ?_
  change (step.moves source).count .unblock = (asked step.trace).count (.remove source)
  rw [Step.moves_eq, Operation.count_unblock]

/-! ## Order -/

namespace EvaluationLoop

/-- **A whole execution** amounts to the operations of its events, then a release of all blocks. -/
theorem matches_run (E : Enforcer σ) (loop : EvaluationLoop) (events : List LoopEvent) (s : σ) :
    (run E events loop s).Matches (run E events loop s).value.2.monitor
      (loop.monitor.run E (loop.operations events ++ [.releaseAll]) s) := by
  rw [run_apply]
  exact (matches_drive E rfl events s).bind (matches_finish E _ _)

/-- The calls after the cancellation remove every block. -/
theorem asked_finish (E : Enforcer σ) (loop : EvaluationLoop) (s : σ) :
    asked (loop.finish E s).trace = loop.monitor.blocks.table.sources.map .remove := by
  have hcalls := (matches_finish E loop s).calls.trans
    (matches_operate E loop.monitor .releaseAll s).calls.symm
  rw [asked, hcalls]
  exact Monitor.asked_operate E loop.monitor .releaseAll s

/-- Nobody is blocked after the cancellation, and the number that is returned is the number of the
blocks that there were. -/
theorem value_finish (E : Enforcer σ) (loop : EvaluationLoop) (s : σ) :
    (loop.finish E s).value.1 = loop.monitor.blocks.table.size ∧
      (loop.finish E s).value.2.monitor.blocks.table = .empty := by
  obtain ⟨notes, hfinish⟩ := finish_apply E loop s
  rw [hfinish]
  exact ⟨rfl, rfl⟩

end EvaluationLoop

/-- Removals of all sources of a table remove each of them once. -/
theorem AddressMap.count_remove_sources {α : Type} (table : AddressMap α) (source : Address) :
    (table.sources.map Call.remove).count (.remove source) =
      if table.contains source then 1 else 0 := by
  have hnodup : (table.sources.map Call.remove).Nodup := by
    refine List.Nodup.map (fun _ _ h => Call.remove.inj h) ?_
    exact table.sources_ascending.imp fun h => Address.ne_of_lt h
  have hmem : Call.remove source ∈ table.sources.map .remove ↔ table.contains source = true := by
    rw [List.mem_map_of_injective fun _ _ h => Call.remove.inj h, AddressMap.mem_sources]
  rw [hnodup.count]
  simp only [hmem]

/-- What holds of an execution that begins without blocks. -/
structure Orderly (E : Enforcer σ) (loop : EvaluationLoop) (events : List LoopEvent) (s : σ) :
    Prop where
  /-- After any of the events, monitor and firewall are as after their operations, and the same
  calls were made. -/
  evolved : ∀ past future, events = past ++ future →
    (loop.drive E past s).Matches (loop.drive E past s).value.monitor
      (loop.monitor.run E (loop.operations past) s)
  /-- In the end they are as after the operations of all events and a release of all blocks. -/
  completed : (loop.run E events s).Matches (loop.run E events s).value.2.monitor
    (loop.monitor.run E (loop.operations events ++ [.releaseAll]) s)
  /-- Whichever reports fail, nothing differs but the warnings about them. -/
  undisturbed : ∀ events', events'.map (·.reported) = events.map (·.reported) →
    (loop.run E events' s).Agrees (loop.run E events s)
  /-- Nobody is blocked in the end. -/
  cleared : (loop.run E events s).value.2.monitor.blocks.table = .empty
  /-- The cancellation asks once for the removal of each block that there is then, and for nothing
  else, and the number of these blocks is returned. -/
  released :
    let last := loop.drive E events s
    let table := last.value.monitor.blocks.table
    ∃ notes, (loop.run E events s).trace = last.trace ++ notes ∧
      asked notes = table.sources.map .remove ∧
      (∀ source, (asked notes).count (.remove source) = if table.contains source then 1 else 0) ∧
      (loop.run E events s).value.1 = table.size
  /-- Every source is unblocked as often as it is blocked, re-assertions apart. -/
  balanced : ∀ source, (asked (loop.run E events s).trace).count (.remove source) =
    ((loop.monitor.run E (loop.operations events ++ [.releaseAll]) s).moves source).count .block

namespace EvaluationLoop

/-- **Executions are orderly**, whatever the firewall answers and whichever reports fail. -/
theorem orderly_run (E : Enforcer σ) (loop : EvaluationLoop)
    (hempty : loop.monitor.blocks.table = .empty) (events : List LoopEvent) (s : σ) :
    Orderly E loop events s := by
  have hcompleted := matches_run E loop events s
  have hcleared : (run E events loop s).value.2.monitor.blocks.table = .empty := by
    rw [run_apply]
    exact (value_finish E _ _).2
  constructor
  case evolved =>
    intro past future _
    exact matches_drive E rfl past s
  case completed => exact hcompleted
  case undisturbed =>
    intro events' hevents
    -- both executions agree with the one in which no report fails
    have hreported := agrees_run E events' loop s
    rw [hevents] at hreported
    exact hreported.symm.trans (agrees_run E events loop s)
  case cleared => exact hcleared
  case released =>
    intro last table
    have hasked := asked_finish E last.value last.firewall
    refine ⟨(last.value.finish E last.firewall).trace, ?_, hasked, ?_, ?_⟩
    · rw [run_apply]
      rfl
    · intro source
      rw [hasked]
      exact AddressMap.count_remove_sources table source
    · rw [run_apply]
      exact (value_finish E last.value last.firewall).1
  case balanced =>
    intro source
    let whole := loop.monitor.run E (loop.operations events ++ [.releaseAll]) s
    have hlife := Monitor.lifecycle_run_of_empty E hempty
      (loop.operations events ++ [.releaseAll]) s source
    -- nobody is blocked in the end, so blocks ended as often as they began
    have hfree : whole.monitor.blocks.isBlocked source = false := by
      rw [← hcompleted.monitor, Blocks.isBlocked_eq_false_iff, hcleared, AddressMap.get?_empty]
    rw [hfree] at hlife
    have hcount := hlife.count_eq
    rw [asked, hcompleted.calls, ← Run.count_unblock]
    exact hcount.symm

/-- A tick that blocks a source, whose report fails; the tick at which the block is re-asserted; and
the cancellation, at which the firewall refuses to remove it. -/
theorem orderly_run_of_refusals :
    let E := Enforcer.refusing "recorder" fun c => match c with
      | .add _ => none
      | .remove _ => some (.rejected "remove" "exit status: 4" "denied")
    let m : Monitor :=
      { window := { span := 30, band := default }, rules := ⟨.any, [Rule.volume 100]⟩, policy := {}
        blocks := { requested := 30 } }
    let source := Address.v4 0x0a000001
    let loop : EvaluationLoop := { monitor := m, every := some 10, lastDue := 0 }
    let events := [.packet ⟨source, 200, 0⟩, .tick 5 (some .permissionDenied), .tick 12 none,
      .tick 20 none]
    loop.monitor.blocks.table = .empty ∧
      loop.operations events =
        [.ingest ⟨source, 200, 0⟩, .tick 5, .tick 12, .reconcile, .tick 20] ∧
      asked (loop.run E events ()).trace = [.add source, .add source, .remove source] ∧
      Orderly E loop events () :=
  ⟨rfl, by decide +kernel, by decide +kernel, orderly_run _ _ rfl _ ()⟩

end EvaluationLoop

end SourceGuard
