import SourceGuard.Proofs.Run

/-!
# Answers of a firewall, replayed

A monitor reaches a firewall by its calls only. The answers in the trace of an operation are
therefore those that the firewall gives when it is asked the same calls from the same state, and
the operation leaves the firewall in the state in which these calls leave it. What a firewall does
call by call carries over to runs in this way.

## Main definitions

* `Enforcer.replay`: the answers of a firewall to calls, and the state in which they leave it
* `Action.Follows`: an action reaches a firewall by its calls only
* `Run.calls`: the calls of a run

## Main results

* `Monitor.follows_operate`: operations reach the firewall by their calls only
* `Monitor.replay_run`: so do runs
-/

namespace SourceGuard

open Emission (asked)

variable {σ α β : Type}

/-! ## Replays -/

/-- The answers of a firewall to calls, made one after another, and the state in which they leave
it. -/
def Enforcer.replay (E : Enforcer σ) :
    List Call → σ → List (Call × Option EnforcementError) × σ
  | [], s => ([], s)
  | c :: rest, s =>
    let later := E.replay rest (E.answer c s).2
    ((c, (E.answer c s).1.failure) :: later.1, later.2)

/-- **Calls and more calls** are replayed as the first, then the others. -/
theorem Enforcer.replay_append (E : Enforcer σ) (calls calls' : List Call) (s : σ) :
    E.replay (calls ++ calls') s =
      let first := E.replay calls s
      let second := E.replay calls' first.2
      (first.1 ++ second.1, second.2) := by
  induction calls generalizing s with
  | nil => rfl
  | cons c rest ih => rw [List.cons_append, replay, ih]; rfl

/-- A call among replayed calls has the answer that it has in the state in which the calls before it
leave the firewall. -/
theorem Enforcer.failure_of_replay (E : Enforcer σ)
    {past future : List (Call × Option EnforcementError)} {c : Call}
    {failure : Option EnforcementError} {s s' : σ}
    (h : E.replay ((past ++ (c, failure) :: future).map (·.1)) s =
      (past ++ (c, failure) :: future, s')) :
    (E.answer c (E.replay (past.map (·.1)) s).2).1.failure = failure := by
  induction past generalizing s with
  | nil =>
    obtain ⟨hcalls, -⟩ := Prod.mk.inj h
    obtain ⟨hhead, -⟩ := List.cons.inj hcalls
    exact (Prod.mk.inj hhead).2
  | cons x past ih =>
    obtain ⟨hcalls, hstate⟩ := Prod.mk.inj h
    obtain ⟨-, hlater⟩ := List.cons.inj hcalls
    exact ih (Prod.ext hlater hstate)

/-! ## Actions that follow a firewall -/

/-- An action reaches a firewall by its calls only. -/
def Action.Follows (E : Enforcer σ) (x : Action σ α) : Prop :=
  ∀ s, E.replay (asked (x s).trace) s = (Emission.calls (x s).trace, (x s).firewall)

namespace Action.Follows

variable {E : Enforcer σ}

theorem pure (a : α) : Follows E (Pure.pure a : Action σ α) := fun _ => rfl

theorem emit (e : Event) : Follows E (Action.emit (σ := σ) e) := fun _ => rfl

theorem perform (c : Call) : Follows E (E.perform c) := by
  intro s
  rw [Enforcer.asked_perform, Enforcer.calls_perform]
  rfl

theorem bind {x : Action σ α} {f : α → Action σ β} (hx : Follows E x) (hf : ∀ a, Follows E (f a)) :
    Follows E (x >>= f) := by
  intro s
  rw [Action.trace_bind, Emission.asked_append, Enforcer.replay_append, hx s, Emission.calls_append]
  simp only [hf (x s).value (x s).firewall]
  rfl

end Action.Follows

/-! ## Operations -/

namespace Blocks

variable (E : Enforcer σ)

theorem follows_request (b : Blocks) (source : Address) (now : Instant) (reason : String) :
    (b.request E source now reason).Follows E := by
  unfold request
  split
  · exact .pure _
  · refine .bind (.perform _) fun failure => ?_
    cases failure with
    | none => exact .bind (.emit _) fun _ => .pure _
    | some e => exact .bind (.emit _) fun _ => .pure _

theorem follows_releaseEach (cause : ReleaseCause) (sources : List Address) (b : Blocks) :
    (releaseEach E cause sources b).Follows E := by
  -- each release leaves another table to the rest
  induction sources generalizing b with
  | nil => exact .pure b
  | cons source rest ih =>
    refine .bind ?_ fun b => ih b
    exact .bind (.perform _) fun _ => .bind (.emit _) fun _ => .pure _

theorem follows_releaseExpired (b : Blocks) (now : Instant) :
    (b.releaseExpired E now).Follows E :=
  .bind (follows_releaseEach E .expired (b.expired now) b) fun _ => .pure _

theorem follows_releaseAll (b : Blocks) : (b.releaseAll E).Follows E :=
  .bind (follows_releaseEach E .shutdown b.table.sources b) fun _ => .pure _

theorem follows_assertEach (sources : List Address) : (assertEach E sources).Follows E := by
  induction sources with
  | nil => exact .pure 0
  | cons source rest ih =>
    refine .bind (.perform _) fun failure => ?_
    cases failure with
    | none => exact ih
    | some e => exact .bind (.emit _) fun _ => .bind ih fun _ => .pure _

end Blocks

namespace Monitor

variable (E : Enforcer σ)

theorem follows_blockEach (now : Instant) (os : List Offender) (b : Blocks) :
    (blockEach E now os b).Follows E := by
  induction os generalizing b with
  | nil => exact .pure _
  | cons o rest ih =>
    refine .bind (.emit _) fun _ => .bind (Blocks.follows_request E b _ now _) fun out => ?_
    exact .bind (ih out.2) fun _ => .pure _

theorem follows_prune (m : Monitor) (now : Instant) : (m.prune now).Follows E := by
  unfold Monitor.prune
  -- the event of a pruning that drops something is not a call
  split
  · exact .bind (.emit _) fun _ => .pure _
  · exact .pure _

theorem follows_tick (m : Monitor) (now : Instant) : (m.tick E now).Follows E := by
  refine .bind (Blocks.follows_releaseExpired E m.blocks now) fun out => ?_
  refine .bind (follows_prune E _ now) fun m => .bind ?_ fun _ => .pure _
  exact .bind (follows_blockEach E now _ m.blocks) fun _ => .pure _

/-- **Operations** reach the firewall by their calls only. -/
theorem follows_operate (m : Monitor) (op : Operation) : (m.operate E op).Follows E := by
  cases op with
  | tick now => exact .bind (follows_tick E m now) fun _ => .pure _
  | request source now reason =>
    exact .bind (Blocks.follows_request E m.blocks source now reason) fun _ => .pure _
  | releaseExpired now =>
    exact .bind (Blocks.follows_releaseExpired E m.blocks now) fun _ => .pure _
  | releaseAll => exact .bind (Blocks.follows_releaseAll E m.blocks) fun _ => .pure _
  | reconcile => exact .bind (Blocks.follows_assertEach E m.blocks.table.sources) fun _ => .pure _
  | _ => exact .pure _

end Monitor

/-! ## Runs -/

/-- The calls of a run, with the answers of the firewall. -/
def Run.calls (run : Run σ) : List (Call × Option EnforcementError) :=
  run.steps.flatMap fun step => Emission.calls step.trace

/-- **Runs** reach the firewall by their calls only. -/
theorem Monitor.replay_run (E : Enforcer σ) (ops : List Operation) (m : Monitor) (s : σ) :
    E.replay ((m.run E ops s).calls.map (·.1)) s = ((m.run E ops s).calls, (m.run E ops s).firewall) := by
  induction ops generalizing m s with
  | nil => rfl
  | cons op rest ih =>
    have hfirst := follows_operate E m op s
    have hlater := ih (m.operate E op s).value.2 (m.operate E op s).firewall
    -- the calls of the first step, then those of the others, from where the first step left off
    have hcalls : (m.run E (op :: rest) s).calls = Emission.calls (m.operate E op s).trace ++
        ((m.operate E op s).value.2.run E rest (m.operate E op s).firewall).calls :=
      List.flatMap_cons
    rw [hcalls, List.map_append, Enforcer.replay_append]
    rw [asked] at hfirst
    simp only [hfirst, hlater]
    rfl

end SourceGuard
