import SourceGuard.Proofs.Blocks.Lifetime
import SourceGuard.Proofs.Execution
import SourceGuard.Proofs.Watch
import SourceGuard.Setup

/-!
# Why sources are blocked

Who has no entry gets one from a request or from a tick, and a tick asks the policy and the rules. So
as long as nobody requests a block, every entry goes back to a tick at which the records of its source
violated the rules, and the firewall hears of no source that the configuration does not allow to
block: not from a tick, nor from a release, a re-assertion or the end of the evaluation loop.

## Main definitions

* `Config.Allows`: the sources that may be blocked
* `Step.Condemns`: a tick makes an entry, for a violation
* `Justified`: entries that are allowed and go back to violations

## Main results

* `Justified.after_step`, `Monitor.justified_of_run`: entries stay justified
* `Monitor.justified_run`: whatever is done with the monitor of a configuration, short of a request,
  and whatever its loop then does, blocks are justified
-/

namespace SourceGuard

open Emission (asked)

variable {σ : Type}

/-! ## What the configuration says -/

/-- A configuration allows to block a source. -/
structure Config.Allows (c : Config) (source : Address) : Prop where
  /-- The source is not exempt. -/
  notExempt : source ∉ c.sources.exempt
  /-- If any sources are watched, the source is one of them. -/
  watched : c.sources.watched ≠ [] → source ∈ c.sources.watched

theorem Config.isEligible_policy (c : Config) (source : Address) :
    c.policy.isEligible source = true ↔ c.Allows source := by
  have hlists : c.policy.isEligible source = true ↔
      source ∉ c.sources.exempt ∧ (c.sources.watched = [] ∨ source ∈ c.sources.watched) := by
    simp [SourcePolicy.isEligible, Config.policy]
  rw [hlists]
  constructor
  · rintro ⟨hexempt, hwatched⟩
    exact ⟨hexempt, hwatched.resolve_left⟩
  · rintro ⟨hexempt, hwatched⟩
    exact ⟨hexempt, Decidable.or_iff_not_imp_left.mpr hwatched⟩

/-- Whether an operation requests a block without asking anybody. -/
def Operation.isRequest : Operation → Bool
  | request .. => true
  | _ => false

/-! ## Entries and violations -/

/-- A step condemns a source at an instant: it is a tick at which the records of the source in the
window violate the rules of the configuration, and it makes an entry that names the rules that
fired. -/
structure Step.Condemns (c : Config) (step : Step) (now : Instant) (source : Address) (e : Entry) :
    Prop where
  /-- The step is a tick. -/
  tick : step.operation = .tick now
  /-- It makes the entry. -/
  begins : step.Begins source e
  /-- The window spans the time that the configuration says, and counts the lengths that it says. -/
  window : step.before.window.span = c.windowSpan ∧ step.before.window.band = c.rules.pattern.band
  /-- The source has records in the window. -/
  seen : (step.before.window.prune now).recordsOf source ≠ []
  /-- They violate the rules. -/
  violates : c.ruleSet.Violates ((step.before.window.prune now).sum source)
  /-- The reason of the entry names the rules that fired. -/
  reason : e.reason =
    String.intercalate "+" (c.ruleSet.fired ((step.before.window.prune now).sum source))

/-- The entries of a monitor are justified by the steps that led to it: the source of each may be
blocked and was condemned at one of the steps, and the entry that this step made has been there ever
since. -/
def Justified (c : Config) (steps : List Step) (m : Monitor) : Prop :=
  ∀ source e, m.blocks.table.get? source = some e →
    c.Allows source ∧ ∃ earlier step later now, steps = earlier ++ step :: later ∧
      step.Condemns c now source e ∧
      ∀ x ∈ later, x.after.blocks.table.get? source = some e

/-- A source that the firewall is called for has an entry or gets one. -/
theorem Passage.concerned {m : Monitor} {op : Operation} {source : Address}
    {before after : Option Entry} {moves : List Move} (h : Passage m op source before moves after)
    (hmoves : moves ≠ []) : before.isSome = true ∨ ∃ e, m.Grants op source e := by
  cases h with
  | absent | kept => exact absurd rfl hmoves
  | reasserted | released | renewed => exact Or.inl rfl
  | blocked e hgrant => exact Or.inr ⟨e, hgrant⟩

namespace Monitor

/-- Short of a request, only a tick makes entries, and only for culprits. -/
theorem Grants.culprit {m : Monitor} {op : Operation} {source : Address} {e : Entry}
    (h : m.Grants op source e) (hop : op.isRequest = false) :
    ∃ now, op = .tick now ∧ m.IsCulprit now source ∧ e = m.sentence now source := by
  cases op with
  | tick now => exact ⟨now, rfl, h⟩
  | request => cases hop
  | _ => exact h.elim

/-- A culprit of a monitor that is set to a configuration may be blocked. -/
theorem IsCulprit.allowed {c : Config} {m : Monitor} {now : Instant} {source : Address}
    (h : m.IsCulprit now source) (hsettings : m.settings = (ofConfig c).settings) :
    c.Allows source := by
  have hpolicy : m.policy = c.policy := congrArg Settings.policy hsettings
  have heligible := h.eligible
  rw [hpolicy] at heligible
  exact (c.isEligible_policy source).mp heligible

end Monitor

namespace Justified

variable {E : Enforcer σ} {c : Config} {ops : List Operation} {m : Monitor} {s : σ}
  {past : List Step} {step : Step}

/-- **A step** leaves justified entries, if it found justified ones. -/
theorem after_step (h : Justified c past step.before) (hmem : step ∈ (m.run E ops s).steps)
    (hop : step.operation.isRequest = false)
    (hsettings : step.before.settings = (Monitor.ofConfig c).settings) :
    Justified c (past ++ [step]) step.after := by
  intro source e he
  have hpassage := Monitor.passage_of_mem E hmem source
  rw [he] at hpassage
  -- the entry was there before, or the step is a tick that made it
  rcases hpassage.origin with hbefore | hblock
  · -- it goes back to the same tick, and this step kept it
    obtain ⟨hallowed, earlier, x, later, now, rfl, hcondemns, hkept⟩ := h source e hbefore
    refine ⟨hallowed, earlier, x, later ++ [step], now, by simp, hcondemns, ?_⟩
    intro y hy
    rcases List.mem_append.mp hy with hy | hy
    · exact hkept y hy
    · exact List.mem_singleton.mp hy ▸ he
  · obtain ⟨now, htick, hculprit, hentry⟩ := (hpassage.granted hblock).culprit hop
    refine ⟨hculprit.allowed hsettings, past, step, [], now, rfl, ?_, List.forall_mem_nil _⟩
    have hrules : step.before.rules = c.ruleSet := congrArg Monitor.Settings.rules hsettings
    constructor
    case tick => exact htick
    case begins => exact ⟨hblock, he⟩
    case window =>
      exact ⟨congrArg Monitor.Settings.span hsettings, congrArg Monitor.Settings.band hsettings⟩
    case seen => exact hculprit.seen
    case violates => exact hrules ▸ hculprit.violates
    case reason =>
      rw [hentry, ← hrules]
      rfl

/-- Whoever the firewall is called for in a step may be blocked, if the step found justified
entries. -/
theorem allowed_of_asked (h : Justified c past step.before) (hmem : step ∈ (m.run E ops s).steps)
    (hop : step.operation.isRequest = false)
    (hsettings : step.before.settings = (Monitor.ofConfig c).settings) {call : Call}
    (hcall : call ∈ asked step.trace) : c.Allows call.source := by
  have hpassage := Monitor.passage_of_mem E hmem call.source
  have hmoves : step.operation.move call ∈ step.moves call.source := by
    rw [Step.moves_eq, Operation.movesOf]
    exact List.mem_map_of_mem (List.mem_filter.mpr ⟨hcall, decide_eq_true rfl⟩)
  -- a release or a re-assertion finds an entry, and a tick that makes one finds a culprit
  rcases hpassage.concerned (List.ne_nil_of_mem hmoves) with hbefore | ⟨e, hgrant⟩
  · obtain ⟨e, he⟩ := Option.isSome_iff_exists.mp hbefore
    exact (h call.source e he).1
  · obtain ⟨now, -, hculprit, -⟩ := hgrant.culprit hop
    exact hculprit.allowed hsettings

end Justified

namespace Monitor

variable {E : Enforcer σ} {c : Config} {past : List Step} {m : Monitor} {ops : List Operation}

/-- **A run short of requests** leaves justified entries, if it found justified ones, and calls the
firewall only for sources that may be blocked. -/
theorem justified_of_run (h : Justified c past m) (hops : ∀ op ∈ ops, op.isRequest = false)
    (hsettings : m.settings = (ofConfig c).settings) (s : σ) :
    Justified c (past ++ (m.run E ops s).steps) (m.run E ops s).monitor ∧
      ∀ call ∈ (m.run E ops s).calls.map (·.1), c.Allows call.source := by
  induction ops generalizing past m s with
  | nil => exact ⟨by simpa [run] using h, nofun⟩
  | cons op rest ih =>
    -- the first operation is a step that found `m`, and the others go on from what it leaves
    let out := m.operate E op s
    let step : Step := ⟨op, m, out.value.1, out.trace, out.value.2⟩
    have hmem : step ∈ (m.run E (op :: rest) s).steps := List.mem_cons_self
    have hop : step.operation.isRequest = false := hops op List.mem_cons_self
    have hnext : out.value.2.settings = (ofConfig c).settings := by
      rw [value_operate, settings_next, hsettings]
    obtain ⟨hlater, hcalls⟩ := ih (h.after_step hmem hop hsettings)
      (fun x hx => hops x (List.mem_cons_of_mem _ hx)) hnext out.firewall
    constructor
    · rw [List.append_assoc] at hlater
      exact hlater
    · intro call hcall
      have hsplit : (m.run E (op :: rest) s).calls.map (·.1) =
          asked step.trace ++ (out.value.2.run E rest out.firewall).calls.map (·.1) :=
        List.map_append
      rw [hsplit, List.mem_append] at hcall
      exact hcall.elim (h.allowed_of_asked hmem hop hsettings) (hcalls call)

end Monitor

/-! ## The loop -/

/-- The events of an execution request no block. -/
theorem EvaluationLoop.isRequest_operationsFrom {every : Option Span} {start : Instant}
    {past : List Instant} {m : Monitor} {events : List LoopEvent} {op : Operation}
    (h : op ∈ operationsFrom every start past m events) : op.isRequest = false := by
  induction events generalizing past m with
  | nil => cases h
  | cons event rest ih =>
    rcases List.mem_append.mp h with h | h
    · cases event with
      | packet r => exact List.mem_singleton.mp h ▸ rfl
      | tick now failure =>
        rcases List.mem_cons.mp h with rfl | h
        · rfl
        · split at h
          · exact List.mem_singleton.mp h ▸ rfl
          · cases h
    · exact ih h

/-- What holds of a run that began in the monitor of a configuration, and of an execution of the
evaluation loop on the monitor that the run left. -/
structure Warranted (E : Enforcer σ) (c : Config) (ops : List Operation) (s : σ)
    (every : Option Span) (start : Instant) (events : List LoopEvent) : Prop where
  /-- After any of the operations every entry is justified. -/
  held : ∀ past future, ops = past ++ future →
    let run := (Monitor.ofConfig c).run E past s
    Justified c run.steps run.monitor
  /-- The operations call the firewall only for sources that may be blocked. -/
  called : ∀ call ∈ ((Monitor.ofConfig c).run E ops s).calls.map (·.1), c.Allows call.source
  /-- After any of the events of the loop every entry is justified, by what was done before the loop
  or by a tick of the loop. -/
  heldInLoop :
    let run := (Monitor.ofConfig c).run E ops s
    let loop : EvaluationLoop := ⟨run.monitor, every, start⟩
    ∀ past future, events = past ++ future →
      Justified c (run.steps ++ (run.monitor.run E (loop.operations past) run.firewall).steps)
        (loop.drive E past run.firewall).value.monitor
  /-- After the cancellation of the loop there is no entry left. -/
  ended :
    let run := (Monitor.ofConfig c).run E ops s
    let loop : EvaluationLoop := ⟨run.monitor, every, start⟩
    (loop.run E events run.firewall).value.2.monitor.blocks.table = .empty
  /-- The loop calls the firewall only for sources that may be blocked, its end included. -/
  calledInLoop :
    let run := (Monitor.ofConfig c).run E ops s
    let loop : EvaluationLoop := ⟨run.monitor, every, start⟩
    ∀ call ∈ asked (loop.run E events run.firewall).trace, c.Allows call.source

namespace Monitor

/-- **Every block is justified**: whatever is done with the monitor of a configuration, short of a
request, whatever its loop then does, and whatever the firewall answers. -/
theorem justified_run (E : Enforcer σ) (c : Config) {ops : List Operation}
    (hops : ∀ op ∈ ops, op.isRequest = false) (s : σ) (every : Option Span) (start : Instant)
    (events : List LoopEvent) : Warranted E c ops s every start events := by
  have hstart : Justified c [] (ofConfig c) := by
    intro source e he
    rw [table_ofConfig, AddressMap.get?_empty] at he
    cases he
  let first := (ofConfig c).run E ops s
  have hfirst := justified_of_run hstart hops rfl s (E := E)
  have hsettings : first.monitor.settings = (ofConfig c).settings :=
    settings_run E (ofConfig c) ops s
  constructor
  case held =>
    intro past future hsplit
    refine (justified_of_run hstart (fun op hop => hops op ?_) rfl s).1
    rw [hsplit]
    exact List.mem_append_left future hop
  case called => exact hfirst.2
  case heldInLoop =>
    intro run loop past future _
    have hdrive : (loop.drive E past run.firewall).Matches
        (loop.drive E past run.firewall).value.monitor
        (run.monitor.run E (loop.operations past) run.firewall) :=
      EvaluationLoop.matches_drive E rfl past run.firewall
    rw [hdrive.monitor]
    refine (justified_of_run hfirst.1 (fun op hop => ?_) hsettings run.firewall).1
    exact EvaluationLoop.isRequest_operationsFrom hop
  case ended =>
    intro run loop
    rw [EvaluationLoop.run_apply]
    exact (EvaluationLoop.value_finish E _ _).2
  case calledInLoop =>
    intro run loop call hcall
    have hmatches := EvaluationLoop.matches_run E loop events run.firewall
    rw [asked, hmatches.calls] at hcall
    refine (justified_of_run hfirst.1 (fun op hop => ?_) hsettings run.firewall).2 call hcall
    -- the cancellation requests no block either
    rcases List.mem_append.mp hop with hop | hop
    · exact EvaluationLoop.isRequest_operationsFrom hop
    · exact List.mem_singleton.mp hop ▸ rfl

/-- Three sources send too much. One is on both lists and one on neither, so only the third is blocked,
by the first tick; the loop re-asserts its block and ends it. -/
theorem justified_run_of_lists :
    let watched := Address.v4 0x0a000001
    let exempt := Address.v4 0x0a000002
    let other := Address.v6 0x20010db8000000000000000000000001
    let c : Config := { sources := { exempt := [exempt], watched := [watched, exempt] } }
    let E := Enforcer.refusing "recorder" fun _ => some (.rejected "block" "exit status: 4" "denied")
    let ops := [.ingest ⟨watched, 30000, 0⟩, .ingest ⟨exempt, 30000, 0⟩, .ingest ⟨other, 30000, 0⟩,
      .tick 5]
    let events := [.tick 20 none]
    let run := (ofConfig c).run E ops ()
    (∀ op ∈ ops, op.isRequest = false) ∧
      run.monitor.blocks.table.entries = [(watched, ⟨30000000005, "volume"⟩)] ∧
      asked (EvaluationLoop.run E events ⟨run.monitor, some 10, 5⟩ ()).trace =
        [.add watched, .remove watched] ∧
      Warranted E c ops () (some 10) 5 events :=
  ⟨by decide, by decide +kernel, by decide +kernel, justified_run _ _ (by decide) () _ _ _⟩

end Monitor

end SourceGuard
