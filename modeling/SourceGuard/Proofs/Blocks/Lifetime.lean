import SourceGuard.Proofs.Blocks.Passage

/-!
# How long a block lasts

An entry is made with its expiry and its reason, and neither ever changes. It stays through whatever
else happens, until all blocks are released or the expired ones are released at its expiry or later.
The release lists its source, once, whatever the firewall answers. Where instants never decrease,
this makes the expiry of an entry the only thing that decides when it goes.

## Main definitions

* `Operation.clock?`: the instant at which an operation makes or releases entries
* `Answer.listed`: the sources that an operation reports as released
* `Step.Begins`: a step makes an entry
* `Lasts`: what becomes of an entry after the step that made it
* `Timely`: what holds of the entries in a run

## Main results

* `Monitor.listed_of_mem`: a release lists the expired sources
* `Monitor.get?_before_of_stays`: an entry stays until an operation ends it
* `Monitor.timely_run`: runs are timely
-/

namespace SourceGuard

variable {σ : Type}

/-! ## Clocks and lists -/

/-- The instant at which an operation makes or releases entries, if it does so by the clock. -/
def Operation.clock? : Operation → Option Instant
  | .tick now | .request _ now _ | .releaseExpired now => some now
  | _ => none

/-- A release of the expired blocks reads the clock. -/
theorem Operation.clock?_of_sweep {op : Operation} {now : Instant} (h : op.sweep? = some now) :
    op.clock? = some now := by
  cases op with
  | tick | releaseExpired => exact h
  | _ => cases h

/-- The sources that an operation reports as released by the clock. -/
def Answer.listed : Answer → List Address
  | .report r => r.released
  | .released sources => sources
  | _ => []

/-- A step makes an entry for a source: one of its calls begins a block, and the entry is there
afterwards. -/
def Step.Begins (step : Step) (source : Address) (e : Entry) : Prop :=
  .block ∈ step.moves source ∧ step.after.blocks.table.get? source = some e

namespace Monitor

/-- **A release lists the expired sources**, and no other operation lists any. -/
theorem listed_of_mem (E : Enforcer σ) {ops : List Operation} {m : Monitor} {s : σ} {step : Step}
    (h : step ∈ (m.run E ops s).steps) :
    step.answer.listed = (step.operation.sweep?.map step.before.blocks.expired).getD [] := by
  obtain ⟨s', hanswer, -, -⟩ := exists_of_mem E h
  rw [hanswer]
  cases step.operation with
  | tick now =>
    change ((step.before.tick E now s').value.1).released = _
    rw [value_tick]
    rfl
  | releaseExpired now =>
    change (step.before.blocks.releaseExpired E now s').value.1 = _
    rw [Blocks.value_releaseExpired]
    rfl
  | _ => rfl

/-- A release of the expired blocks lists a source once if its entry has expired, and else not at
all. -/
theorem count_listed (E : Enforcer σ) {ops : List Operation} {m : Monitor} {s : σ} {step : Step}
    (h : step ∈ (m.run E ops s).steps) {now : Instant} (hsweep : step.operation.sweep? = some now)
    {source : Address} {e : Entry} (he : step.before.blocks.table.get? source = some e) :
    step.answer.listed.count source = if e.expiry ≤ now then 1 else 0 := by
  have hlisted : step.answer.listed = step.before.blocks.expired now := by
    rw [listed_of_mem E h, hsweep]
    rfl
  have hnodup : (step.before.blocks.expired now).Nodup :=
    (Blocks.expired_ascending _ now).imp fun hlt => Address.ne_of_lt hlt
  have hmem : source ∈ step.before.blocks.expired now ↔ e.expiry ≤ now := by
    rw [Blocks.mem_expired, he]
    simp
  rw [hlisted, hnodup.count]
  simp only [hmem]

/-- The clock of a run has not passed the instant of a step before the step. -/
theorem clock_le (E : Enforcer σ) {ops : List Operation} {m : Monitor} {s : σ}
    (hclock : (ops.filterMap Operation.clock?).Pairwise (· ≤ ·)) {before later : List Step}
    {step x : Step} (hsplit : (m.run E ops s).steps = before ++ step :: later)
    {now then' : Instant} (hnow : step.operation.clock? = some now) (hx : x ∈ before)
    (hthen : x.operation.clock? = some then') : then' ≤ now := by
  -- the operations split where the steps do
  have hops : ops = before.map (·.operation) ++ step.operation :: later.map (·.operation) := by
    rw [← map_operation_run E ops m s, hsplit, List.map_append, List.map_cons]
  rw [hops, List.filterMap_append, List.filterMap_cons_some hnow, List.pairwise_append] at hclock
  have hmem : then' ∈ (before.map (·.operation)).filterMap Operation.clock? :=
    List.mem_filterMap.mpr ⟨_, List.mem_map_of_mem hx, hthen⟩
  exact hclock.2.2 then' hmem now List.mem_cons_self

/-! ## Staying -/

/-- **An entry stays** until an operation ends it. -/
theorem get?_before_of_stays (E : Enforcer σ) {ops : List Operation} {m : Monitor} {s : σ}
    {during after : List Step} {step : Step}
    (h : (m.run E ops s).steps = during ++ step :: after) {source : Address} {e : Entry}
    (he : m.blocks.table.get? source = some e) (hstays : ∀ x ∈ during, ¬ x.operation.Ends e) :
    step.before.blocks.table.get? source = some e := by
  induction during generalizing ops m s with
  | nil =>
    obtain ⟨rest, s', -, hbefore, -⟩ := exists_of_steps_eq_cons E h
    rw [hbefore]
    exact he
  | cons x during ih =>
    have hx : x ∈ (m.run E ops s).steps := by rw [h]; exact List.mem_cons_self
    obtain ⟨rest, s', -, hbefore, -, -, -, hlater⟩ := exists_of_steps_eq_cons E h
    have hpassage := passage_of_mem E hx source
    rw [hbefore, he] at hpassage
    have hafter := hpassage.stays (hstays x List.mem_cons_self)
    exact ih hlater hafter fun y hy => hstays y (List.mem_cons_of_mem _ hy)

/-- **An entry was made** in the run, unless it was there from the start. -/
theorem origin_of_get? (E : Enforcer σ) {ops : List Operation} {m : Monitor} {s : σ}
    {before later : List Step} {step : Step}
    (h : (m.run E ops s).steps = before ++ step :: later) {source : Address} {e : Entry}
    (he : step.after.blocks.table.get? source = some e) :
    m.blocks.table.get? source = some e ∨ ∃ x ∈ before ++ [step], x.Begins source e := by
  -- the first step either made the entry or found it, wherever its own later came from
  have hfirst : ∀ {ops : List Operation} {m : Monitor} {s : σ} {x : Step} {later : List Step},
      (m.run E ops s).steps = x :: later → x.after.blocks.table.get? source = some e →
        m.blocks.table.get? source = some e ∨ x.Begins source e := by
    intro ops m s x later h hx
    have hmem : x ∈ (m.run E ops s).steps := by rw [h]; exact List.mem_cons_self
    obtain ⟨rest, s', -, hbefore, -⟩ := exists_of_steps_eq_cons E h
    have hpassage := passage_of_mem E hmem source
    rw [hbefore, hx] at hpassage
    exact hpassage.origin.imp id fun hblock => ⟨hblock, hx⟩
  induction before generalizing ops m s with
  | nil => exact (hfirst h he).imp id fun hbegins => ⟨step, List.mem_cons_self, hbegins⟩
  | cons x before ih =>
    obtain ⟨rest, s', -, -, -, -, -, hlater⟩ := exists_of_steps_eq_cons E h
    rcases ih hlater with hx | ⟨y, hy, hbegins⟩
    · exact (hfirst h hx).imp id fun hbegins => ⟨x, List.mem_cons_self, hbegins⟩
    · exact Or.inr ⟨y, List.mem_cons_of_mem _ hy, hbegins⟩

end Monitor

/-- What becomes of an entry in the steps after the one that made it. -/
structure Lasts (source : Address) (e : Entry) (later : List Step) : Prop where
  /-- As long as nothing ends it, the entry is there as it was made, and its source is not listed. -/
  kept : ∀ during step after, later = during ++ step :: after →
    (∀ x ∈ during ++ [step], ¬ x.operation.Ends e) →
      step.after.blocks.table.get? source = some e ∧ source ∉ step.answer.listed
  /-- It is there after every release at an instant before its expiry, unless all blocks were
  released. -/
  present : ∀ during step after now, later = during ++ step :: after →
    (∀ x ∈ during, x.operation ≠ .releaseAll) → step.operation.sweep? = some now →
      now < e.expiry → step.after.blocks.table.get? source = some e
  /-- The first release at its expiry or later removes it and lists its source, which nothing before
  did. If the source has an entry afterwards, the step has made it. -/
  released : ∀ during step after now, later = during ++ step :: after →
    (∀ x ∈ during, ¬ x.operation.Ends e) → step.operation.sweep? = some now → e.expiry ≤ now →
      ((during ++ [step]).flatMap (·.answer.listed)).count source = 1 ∧
        (step.moves source).head? = some .unblock ∧
        ∀ e', step.after.blocks.table.get? source = some e' → step.Begins source e'

namespace Monitor

/-- An entry in the table lasts. -/
theorem lasts_run (E : Enforcer σ) {ops : List Operation} {m : Monitor} (s : σ)
    (hclock : (ops.filterMap Operation.clock?).Pairwise (· ≤ ·)) {source : Address} {e : Entry}
    (he : m.blocks.table.get? source = some e) : Lasts source e (m.run E ops s).steps := by
  have hkept : ∀ during step after, (m.run E ops s).steps = during ++ step :: after →
      (∀ x ∈ during ++ [step], ¬ x.operation.Ends e) →
        step.after.blocks.table.get? source = some e ∧ source ∉ step.answer.listed := by
    intro during step after hsplit hstays
    have hstep : step ∈ (m.run E ops s).steps := by simp [hsplit]
    have hends : ¬ step.operation.Ends e := hstays step (by simp)
    have hbefore := get?_before_of_stays E hsplit he fun x hx => hstays x (by simp [hx])
    have hpassage := passage_of_mem E hstep source
    rw [hbefore] at hpassage
    refine ⟨hpassage.stays hends, ?_⟩
    -- a release that does not end the entry does not list its source
    cases hsweep : step.operation.sweep? with
    | none => simp [listed_of_mem E hstep, hsweep]
    | some now =>
      rw [← List.count_eq_zero, count_listed E hstep hsweep hbefore, if_neg]
      exact mt (Operation.ends_iff_of_sweep hsweep e).mpr hends
  constructor
  case kept => exact hkept
  case present =>
    intro during step after now hsplit hall hsweep hlt
    refine (hkept during step after hsplit fun x hx => ?_).1
    -- releases before the step were no later than it, and the step itself is before the expiry
    rcases List.mem_append.mp hx with hx | hx
    · rintro (h | ⟨then', hthen, hexpiry⟩)
      · exact hall x hx h
      · have hle := clock_le E hclock hsplit (Operation.clock?_of_sweep hsweep) hx
          (Operation.clock?_of_sweep hthen)
        exact Int.not_lt.mpr (Int.le_trans hexpiry hle) hlt
    · obtain rfl := List.mem_singleton.mp hx
      rw [Operation.ends_iff_of_sweep hsweep]
      exact Int.not_le.mpr hlt
  case released =>
    intro during step after now hsplit hstays hsweep hle
    have hstep : step ∈ (m.run E ops s).steps := by simp [hsplit]
    have hbefore := get?_before_of_stays E hsplit he hstays
    have hpassage := passage_of_mem E hstep source
    rw [hbefore] at hpassage
    obtain ⟨hhead, hrenewed⟩ := hpassage.goes ((Operation.ends_iff_of_sweep hsweep e).mpr hle)
    -- what was kept was not listed
    have hunlisted : source ∉ during.flatMap (·.answer.listed) := by
      rw [List.mem_flatMap]
      rintro ⟨x, hx, hlisted⟩
      obtain ⟨first, second, rfl⟩ := List.append_of_mem hx
      refine (hkept first x (second ++ step :: after) (by simp [hsplit]) fun y hy => ?_).2 hlisted
      rcases List.mem_append.mp hy with hy | hy
      · exact hstays y (List.mem_append_left _ hy)
      · exact hstays y (List.mem_singleton.mp hy ▸ hx)
    refine ⟨?_, hhead, fun e' he' => ⟨hrenewed (by simp [he']), he'⟩⟩
    rw [List.flatMap_append, List.count_append, List.count_eq_zero.mpr hunlisted,
      List.flatMap_singleton, count_listed E hstep hsweep hbefore, if_pos hle]

/-! ## Times -/

/-- The entry that an operation makes lasts from the instant of the operation for the length of a
block, and its reason is the requested one or names the rules that fired. -/
theorem Grants.times {m : Monitor} {op : Operation} {source : Address} {e : Entry}
    (h : m.Grants op source e) :
    ∃ now, e.expiry = now + min m.blocks.requested Blocks.longest ∧ op.clock? = some now ∧
      (op = .request source now e.reason ∨ op = .tick now ∧
        e.reason = RuleSet.reason (m.rules.fired ((m.window.prune now).sum source))) := by
  cases op with
  | request target now reason =>
    obtain ⟨rfl, rfl⟩ := h
    exact ⟨now, rfl, rfl, Or.inl rfl⟩
  | tick now =>
    obtain ⟨-, rfl⟩ := h
    exact ⟨now, rfl, rfl, Or.inr ⟨rfl, rfl⟩⟩
  | _ => exact h.elim

end Monitor

/-- What holds of the entries in a run, where blocks last as long as `requested` or a year. -/
structure Timely (requested : Span) (run : Run σ) : Prop where
  /-- A request or a tick makes an entry, which expires when its block has lasted its length. -/
  begun : ∀ step ∈ run.steps, ∀ source e, step.Begins source e →
    ∃ now, e.expiry = now + min requested Blocks.longest ∧
      (step.operation = .request source now e.reason ∨ step.operation = .tick now ∧
        e.reason = RuleSet.reason
          (step.before.rules.fired ((step.before.window.prune now).sum source)))
  /-- An entry lasts from the step that makes it. -/
  lasts : ∀ before step later source e, run.steps = before ++ step :: later →
    step.Begins source e → Lasts source e later
  /-- After a tick no entry has expired, unless blocks last no time, and none expires later than the
  length of a block after the tick. -/
  current : ∀ step ∈ run.steps, ∀ now, step.operation = .tick now → ∀ source e,
    step.after.blocks.table.get? source = some e →
      (now < e.expiry ∨ requested = 0) ∧ e.expiry ≤ now + min requested Blocks.longest

namespace Monitor

/-- The entry that a step makes is the one that its operation makes. -/
theorem times_of_begins (E : Enforcer σ) {ops : List Operation} {m : Monitor} {s : σ} {step : Step}
    (hstep : step ∈ (m.run E ops s).steps) {source : Address} {e : Entry}
    (h : step.Begins source e) :
    ∃ now, e.expiry = now + min m.blocks.requested Blocks.longest ∧
      step.operation.clock? = some now ∧
      (step.operation = .request source now e.reason ∨ step.operation = .tick now ∧
        e.reason = RuleSet.reason
          (step.before.rules.fired ((step.before.window.prune now).sum source))) := by
  have hpassage := passage_of_mem E hstep source
  rw [h.2] at hpassage
  rw [← requested_of_mem E hstep]
  exact (hpassage.granted h.1).times

/-- After a tick no entry has expired, unless blocks last no time. -/
theorem lt_expiry_of_tick (E : Enforcer σ) {ops : List Operation} {m : Monitor} {s : σ} {step : Step}
    (hstep : step ∈ (m.run E ops s).steps) {now : Instant} (htick : step.operation = .tick now)
    {source : Address} {e : Entry} (he : step.after.blocks.table.get? source = some e) :
    now < e.expiry ∨ m.blocks.requested = 0 := by
  rw [(step_of_mem E hstep).1, htick] at he
  rcases Nat.eq_zero_or_pos m.blocks.requested with hzero | hpos
  · exact Or.inr hzero
  · rw [← requested_of_mem E hstep] at hpos
    exact Or.inl (lt_expiry_ticked hpos he)

/-- In a run from an empty table, no entry expires later than the length of a block from now. -/
theorem expiry_le (E : Enforcer σ) {ops : List Operation} {m : Monitor} {s : σ}
    (hm : m.blocks.table = .empty) (hclock : (ops.filterMap Operation.clock?).Pairwise (· ≤ ·))
    {step : Step} (hstep : step ∈ (m.run E ops s).steps) {now : Instant}
    (hnow : step.operation.clock? = some now) {source : Address} {e : Entry}
    (he : step.after.blocks.table.get? source = some e) :
    e.expiry ≤ now + min m.blocks.requested Blocks.longest := by
  obtain ⟨before, later, hsplit⟩ := List.append_of_mem hstep
  -- some step made the entry, no later than this one
  rcases origin_of_get? E hsplit he with hstart | ⟨x, hx, hbegins⟩
  · rw [hm, AddressMap.get?_empty] at hstart
    cases hstart
  · have hmem : x ∈ (m.run E ops s).steps := by
      rw [hsplit, List.append_cons]
      exact List.mem_append_left _ hx
    obtain ⟨then', hexpiry, hthen, -⟩ := times_of_begins E hmem hbegins
    have hle : then' ≤ now := by
      rcases List.mem_append.mp hx with hx | hx
      · exact clock_le E hclock hsplit hnow hx hthen
      · rw [List.mem_singleton.mp hx, hnow] at hthen
        exact Int.le_of_eq (Option.some.inj hthen).symm
    rw [hexpiry]
    exact Int.add_le_add_right hle _

/-- **Runs are timely**, whatever the firewall answers, if they begin with an empty table and their
instants never decrease. -/
theorem timely_run (E : Enforcer σ) (m : Monitor) (hm : m.blocks.table = .empty)
    (ops : List Operation) (hclock : (ops.filterMap Operation.clock?).Pairwise (· ≤ ·)) (s : σ) :
    Timely m.blocks.requested (m.run E ops s) := by
  constructor
  case begun =>
    intro step hstep source e hbegins
    obtain ⟨now, hexpiry, -, hoperation⟩ := times_of_begins E hstep hbegins
    exact ⟨now, hexpiry, hoperation⟩
  case lasts =>
    intro before step later source e hsplit hbegins
    -- what follows the step is a run of its own, from the monitor that the step leaves
    obtain ⟨first, second, rfl, -, hsecond⟩ := exists_of_steps_eq_append E hsplit
    obtain ⟨rest, s', rfl, -, -, -, -, hlater⟩ := exists_of_steps_eq_cons E hsecond
    rw [← hlater]
    refine lasts_run E s' (hclock.sublist (List.Sublist.filterMap _ ?_)) hbegins.2
    exact (List.sublist_cons_self _ rest).trans (List.sublist_append_right first _)
  case current =>
    intro step hstep now htick source e he
    have hnow : step.operation.clock? = some now := by rw [htick]; rfl
    exact ⟨lt_expiry_of_tick E hstep htick he, expiry_le E hm hclock hstep hnow he⟩

/-- A block of thirty nanoseconds that the firewall refuses to end: it is listed at its expiry, by
the tick that makes the next one, and all blocks that are there in the end are of the last tick. -/
theorem timely_run_at_deadline :
    let E := Enforcer.refusing "recorder" fun c => match c with
      | .add _ => none
      | .remove _ => some (.rejected "remove" "exit status: 4" "denied")
    let m : Monitor :=
      { window := { span := 40, band := default }, rules := ⟨.any, [Rule.volume 100]⟩, policy := {}
        blocks := { requested := 30 } }
    let source := Address.v4 0x0a000001
    let ops := [.ingest ⟨source, 200, 0⟩, .tick 5, .request source 10 "pattern", .reconcile,
      .releaseExpired 34, .tick 35, .lookUp source]
    let run := m.run E ops ()
    m.blocks.table = .empty ∧ (ops.filterMap Operation.clock?).Pairwise (· ≤ ·) ∧
      run.steps.map (·.answer.listed) = [[], [], [], [], [], [source], []] ∧
      run.monitor.blocks.table.get? source = some ⟨65, "volume"⟩ ∧
      Timely m.blocks.requested run :=
  ⟨rfl, by decide +kernel, by decide +kernel, by decide +kernel,
    timely_run _ _ rfl _ (by decide +kernel) ()⟩

end Monitor

end SourceGuard
