import SourceGuard.Proofs.Blocks.Lifecycle
import SourceGuard.Proofs.Watch

/-!
# Where the packets go

Every packet is accounted or refused, and every accounted record is in the window until a pruning or
a tick drops it. So the books balance: the records that were put into the window are, in their
order, those that were dropped so far and then those that the window holds. Nothing is lost, nothing
is counted twice, and from the call that blocks a source to the call that unblocks it none of its
packets is accounted.

Capture threads share one monitor, so it makes no difference which of them takes a packet. The
counters of the monitor have 64 bits, so that they are exact for fewer than `2 ^ 64` packets.

## Main definitions

* `Step.arrival?`, `Step.dropped`: the record that a step puts into the window, and those it drops
* `Run.arrivals`, `Run.dropped`: the same for a run
* `Run.taken`, `Run.refused`: the packets that a run accounts, and those it refuses
* `Ledger`: what holds of the records in a run

## Main results

* `Monitor.balanced_operate`: one operation keeps the balance
* `Monitor.balanced_run`: so does a run
* `Monitor.isBlocked_of_begun`: a block lasts from the call that begins it to the call that ends it
* `Monitor.ledger_run`: the records of every run are in the ledger
-/

namespace SourceGuard

variable {σ : Type}

/-! ## What comes and what goes -/

/-- The packet that an operation takes, if it takes one. -/
def Operation.packet? : Operation → Option Record
  | .ingest r => some r
  | _ => none

/-- The record that an operation puts into the window whether its source is blocked or not. -/
def Operation.direct? : Operation → Option Record
  | .append r => some r
  | _ => none

/-- The instant at which an operation prunes the window, if it does. -/
def Operation.prunes? : Operation → Option Instant
  | .prune now | .tick now => some now
  | _ => none

/-- The records that pruning drops. -/
def Window.dropped (w : Window) (now : Instant) : List Record := w.records.takeWhile (w.isStale now)

/-- The record that a step puts into the window: a packet that was accounted, or a record that was
appended in any case. -/
def Step.arrival? (step : Step) : Option Record :=
  match step.operation, step.answer with
  | .ingest r, .accounted true => some r
  | .append r, _ => some r
  | _, _ => none

/-- The packet that a step accounts. -/
def Step.taken? (step : Step) : Option Record :=
  match step.operation, step.answer with
  | .ingest r, .accounted true => some r
  | _, _ => none

/-- The packet that a step refuses. -/
def Step.refused? (step : Step) : Option Record :=
  match step.operation, step.answer with
  | .ingest r, .accounted false => some r
  | _, _ => none

/-- The records that a step drops from the window. -/
def Step.dropped (step : Step) : List Record :=
  (step.operation.prunes?.map step.before.window.dropped).getD []

namespace Run

/-- The records that a run puts into the window, in order. -/
def arrivals (run : Run σ) : List Record := run.steps.filterMap (·.arrival?)

/-- The records that a run drops from the window, in order. -/
def dropped (run : Run σ) : List Record := run.steps.flatMap (·.dropped)

/-- The packets that a run takes. -/
def packets (run : Run σ) : List Record := run.steps.filterMap (·.operation.packet?)

/-- The packets that a run accounts. -/
def taken (run : Run σ) : List Record := run.steps.filterMap (·.taken?)

/-- The packets that a run refuses. -/
def refused (run : Run σ) : List Record := run.steps.filterMap (·.refused?)

/-- The records that a run puts into the window in any case. -/
def direct (run : Run σ) : List Record := run.steps.filterMap (·.operation.direct?)

end Run

/-- What holds of the records in a run that began with nothing accounted. -/
structure Ledger (run : Run σ) : Prop where
  /-- A packet is accounted exactly if its source has no entry at that moment, and then becomes the
  last record of the window. If it has one, the window stays as it is. Entries stay as they are, and
  the firewall is not asked. -/
  accounted : ∀ step ∈ run.steps, ∀ r, step.operation = .ingest r →
    ∃ accepted, step.answer = .accounted accepted ∧
      (accepted = true ↔ step.before.blocks.table.get? r.source = none) ∧
      step.after.window.records = step.before.window.records ++ (if accepted then [r] else []) ∧
      step.after.blocks = step.before.blocks ∧ step.trace = []
  /-- Every packet is accounted or refused, and counted once, in 64 bits. -/
  counted : run.packets.length = run.taken.length + run.refused.length ∧
    run.monitor.accepted = UInt64.ofNat run.taken.length ∧
    run.monitor.discarded = UInt64.ofNat run.refused.length
  /-- A pruning answers with the number of records that it drops. -/
  reported : ∀ step ∈ run.steps, ∀ now, step.operation = .prune now →
    step.answer = .evicted step.dropped.length
  /-- A tick that drops records logs their number and the number of those left. -/
  logged : ∀ step ∈ run.steps, ∀ now, step.operation = .tick now → 0 < step.dropped.length →
    .event (Monitor.pruneEvent step.dropped.length step.after.window.size) ∈ step.trace
  /-- The packets accounted and the records appended in any case are as many as the records in the
  window and those dropped so far. -/
  balanced : run.taken.length + run.direct.length = run.monitor.window.size + run.dropped.length
  /-- So the counters tell the number of packets and balance with the window, unless one of them has
  gone round. -/
  exact : run.packets.length < UInt64.size →
    run.monitor.accepted.toNat + run.monitor.discarded.toNat = run.packets.length ∧
      run.monitor.accepted.toNat + run.direct.length =
        run.monitor.window.size + run.dropped.length
  /-- The records put into the window are those dropped so far and then those in the window. -/
  complete : run.arrivals = run.dropped ++ run.monitor.window.records
  /-- From the call that blocks a source to the call that unblocks it, a packet of the source is not
  accounted, and leaves the window as it is. -/
  closed : ∀ past begun during step future source r,
    run.steps = past ++ begun :: (during ++ step :: future) → .block ∈ begun.moves source →
      (∀ x ∈ during, .unblock ∉ x.moves source) → step.operation = .ingest r → r.source = source →
        step.answer = .accounted false ∧ step.after.window = step.before.window

/-! ## Books -/

/-- What is written down of an operation or a run: the records that come into the window and those
that go, in order, and of those that come, the ones that are put in any case; and the packets, those
that are accounted and those that are refused. -/
structure Books where
  arrivals : List Record
  dropped : List Record
  direct : List Record
  packets : List Record
  taken : List Record
  refused : List Record

/-- Books continued by others. -/
def Books.append (b b' : Books) : Books where
  arrivals := b.arrivals ++ b'.arrivals
  dropped := b.dropped ++ b'.dropped
  direct := b.direct ++ b'.direct
  packets := b.packets ++ b'.packets
  taken := b.taken ++ b'.taken
  refused := b.refused ++ b'.refused

/-- The books of a step. -/
def Step.books (step : Step) : Books where
  arrivals := step.arrival?.toList
  dropped := step.dropped
  direct := step.operation.direct?.toList
  packets := step.operation.packet?.toList
  taken := step.taken?.toList
  refused := step.refused?.toList

/-- The books of a run. -/
def Run.books (run : Run σ) : Books where
  arrivals := run.arrivals
  dropped := run.dropped
  direct := run.direct
  packets := run.packets
  taken := run.taken
  refused := run.refused

namespace Monitor

/-! ## One operation -/

/-- The books between a monitor and a later one balance. -/
structure Balanced (m m' : Monitor) (b : Books) : Prop where
  /-- The records that came follow those of the window, and those that went came first. -/
  records : m.window.records ++ b.arrivals = b.dropped ++ m'.window.records
  /-- The records that came were accounted or put in any case. -/
  came : b.arrivals.length = b.taken.length + b.direct.length
  /-- Every packet was accounted or refused. -/
  asked : b.packets.length = b.taken.length + b.refused.length
  /-- The packets that were accounted were counted. -/
  accepted : m'.accepted = m.accepted + UInt64.ofNat b.taken.length
  /-- The packets that were refused were counted. -/
  discarded : m'.discarded = m.discarded + UInt64.ofNat b.refused.length

/-- Books that balance are continued by books that balance. -/
theorem Balanced.trans {m m' m'' : Monitor} {b b' : Books} (h : Balanced m m' b)
    (h' : Balanced m' m'' b') : Balanced m m'' (b.append b') where
  records := by
    rw [Books.append, ← List.append_assoc, h.records, List.append_assoc, h'.records,
      List.append_assoc]
  came := by
    have hfirst := h.came
    have hsecond := h'.came
    simp only [Books.append, List.length_append]
    omega
  asked := by
    have hfirst := h.asked
    have hsecond := h'.asked
    simp only [Books.append, List.length_append]
    omega
  accepted := by
    rw [h'.accepted, h.accepted, UInt64.add_assoc, ← UInt64.ofNat_add, Books.append,
      List.length_append]
  discarded := by
    rw [h'.discarded, h.discarded, UInt64.add_assoc, ← UInt64.ofNat_add, Books.append,
      List.length_append]

/-- Books without packets balance if nothing but the window changes, and what came into it was put
there in any case. -/
theorem Balanced.of_no_packet {m m' : Monitor} {b : Books} (hpackets : b.packets = [])
    (htaken : b.taken = []) (hrefused : b.refused = []) (hcame : b.arrivals = b.direct)
    (haccepted : m'.accepted = m.accepted) (hdiscarded : m'.discarded = m.discarded)
    (hrecords : m.window.records ++ b.arrivals = b.dropped ++ m'.window.records) :
    Balanced m m' b where
  records := hrecords
  came := by simp [hcame, htaken]
  asked := by simp [hpackets, htaken, hrefused]
  accepted := by simp [haccepted, htaken]
  discarded := by simp [hdiscarded, hrefused]

/-- **One operation keeps the balance.** -/
theorem balanced_operate (E : Enforcer σ) (m : Monitor) (op : Operation) (s : σ) :
    let out := m.operate E op s
    Balanced m out.value.2
      (Step.books ⟨op, m, out.value.1, out.trace, out.value.2⟩) := by
  intro out
  have hnext : out.value.2 = m.next op := value_operate E m op s
  rw [hnext]
  cases op with
  | ingest r =>
    change Balanced m (m.ingest r).2
      (Step.books ⟨.ingest r, m, .accounted (m.ingest r).1, [], (m.ingest r).2⟩)
    by_cases hblocked : m.blocks.isBlocked r.source = true
    · rw [ingest, if_pos hblocked]
      exact ⟨List.append_nil _, rfl, rfl, (UInt64.add_zero _).symm, rfl⟩
    · rw [ingest, if_neg hblocked]
      exact ⟨(Window.records_append m.window r).symm, rfl, rfl, rfl, (UInt64.add_zero _).symm⟩
  | append r =>
    exact .of_no_packet rfl rfl rfl rfl rfl rfl (Window.records_append m.window r).symm
  | prune now | tick now =>
    refine .of_no_packet rfl rfl rfl rfl rfl rfl ?_
    exact (List.append_nil _).trans (m.window.takeWhile_append_records_prune now).symm
  | _ => exact .of_no_packet rfl rfl rfl rfl rfl rfl (List.append_nil _)

/-! ## Runs -/

/-- **A run keeps the balance.** -/
theorem balanced_run (E : Enforcer σ) (ops : List Operation) (m : Monitor) (s : σ) :
    let run := m.run E ops s
    Balanced m run.monitor run.books := by
  induction ops generalizing m s with
  | nil =>
    exact ⟨List.append_nil _, rfl, rfl, (UInt64.add_zero _).symm, (UInt64.add_zero _).symm⟩
  | cons op rest ih =>
    -- what a run moves is what its first step moves, and then what the others move
    simp only [Run.books, Run.arrivals, Run.direct, Run.packets, Run.taken, Run.refused, run,
      filterMap_cons_toList]
    exact (balanced_operate E m op s).trans (ih _ _)

/-- **A block lasts** from the call that begins it to the call that ends it. -/
theorem isBlocked_of_begun (E : Enforcer σ) {ops : List Operation} {m : Monitor} {s : σ}
    {begun step : Step} {during future : List Step} {source : Address}
    (h : (m.run E ops s).steps = begun :: (during ++ step :: future))
    (hblock : .block ∈ begun.moves source) (hstays : ∀ x ∈ during, .unblock ∉ x.moves source) :
    step.before.blocks.isBlocked source = true := by
  have hmem : begun ∈ (m.run E ops s).steps := by rw [h]; exact List.mem_cons_self
  have hblocked : begun.after.blocks.isBlocked source = true :=
    (passage_of_mem E hmem source).isSome_of_block hblock
  -- the steps between the two calls are a run of their own, in which no block ends
  obtain ⟨rest, s', -, -, -, -, -, hlater⟩ := exists_of_steps_eq_cons E h
  obtain ⟨first, second, -, hfirst, hsecond⟩ := exists_of_steps_eq_append E hlater
  obtain ⟨-, -, -, hbefore, -⟩ := exists_of_steps_eq_cons E hsecond
  have hlife := lifecycle_run E first begun.after s' source
  rw [hblocked, ← hbefore] at hlife
  refine hlife.eq_true_of_unblock_notMem fun hmove => ?_
  obtain ⟨x, hx, hmove⟩ := Run.mem_moves.mp hmove
  exact hstays x (hfirst ▸ hx) hmove

/-- **A packet** is accounted exactly if its source has no entry, and does nothing else. -/
theorem ingest_of_mem (E : Enforcer σ) {ops : List Operation} {m : Monitor} {s : σ} {step : Step}
    (h : step ∈ (m.run E ops s).steps) {r : Record} (hop : step.operation = .ingest r) :
    step.answer = .accounted (!step.before.blocks.isBlocked r.source) ∧
      step.after.window =
        (if step.before.blocks.isBlocked r.source then step.before.window
          else step.before.window.append r) ∧
      step.after.blocks = step.before.blocks ∧ step.trace = [] := by
  obtain ⟨s', hanswer, htrace, hafter⟩ := exists_of_mem E h
  rw [hop] at hanswer htrace hafter
  rw [hanswer, htrace, hafter, ← accepted_ingest]
  exact ⟨rfl, window_ingest step.before r, blocks_ingest step.before r, rfl⟩

/-- **The records of every run are in the ledger**, if nothing was accounted before, whatever the
operations are and whatever the firewall answers. -/
theorem ledger_run (E : Enforcer σ) (m : Monitor) (hwindow : m.window.records = [])
    (haccepted : m.accepted = 0) (hdiscarded : m.discarded = 0) (ops : List Operation) (s : σ) :
    Ledger (m.run E ops s) := by
  have hbooks := balanced_run E ops m s
  have hcomplete := hbooks.records
  have htaken := hbooks.accepted
  have hrefused := hbooks.discarded
  rw [hwindow, List.nil_append] at hcomplete
  rw [haccepted, UInt64.zero_add] at htaken
  rw [hdiscarded, UInt64.zero_add] at hrefused
  have hbalanced : (m.run E ops s).taken.length + (m.run E ops s).direct.length =
      (m.run E ops s).monitor.window.size + (m.run E ops s).dropped.length := by
    have hlength := congrArg List.length hcomplete
    rw [List.length_append, hbooks.came, Window.length_records] at hlength
    exact hlength.trans (Nat.add_comm _ _)
  constructor
  case accounted =>
    intro step hstep r hop
    obtain ⟨hanswer, hafter, hblocks, htrace⟩ := ingest_of_mem E hstep hop
    refine ⟨_, hanswer, ?_, ?_, hblocks, htrace⟩
    · rw [Bool.not_eq_true', Blocks.isBlocked_eq_false_iff]
    · rw [hafter]
      cases step.before.blocks.isBlocked r.source
      · exact Window.records_append _ _
      · exact (List.append_nil _).symm
  case counted => exact ⟨hbooks.asked, htaken, hrefused⟩
  case reported =>
    intro step hstep now hop
    obtain ⟨s', hanswer, -, -⟩ := exists_of_mem E hstep
    rw [hanswer, Step.dropped, hop]
    rfl
  case logged =>
    intro step hstep now hop hdropped
    obtain ⟨s', -, htrace, hafter⟩ := exists_of_mem E hstep
    have hcount : step.dropped.length = step.before.window.evicted now := by
      rw [Step.dropped, hop]
      rfl
    rw [hcount] at hdropped
    rw [htrace, hafter, hcount, hop, operate, Action.trace_bind_pure, (firewall_trace_tick ..).2]
    refine List.mem_append_right _ (List.mem_append_left _ (List.mem_map_of_mem ?_))
    rw [pruneEvents, if_pos hdropped]
    exact List.mem_singleton.mpr rfl
  case balanced => exact hbalanced
  case exact =>
    intro hfew
    have hasked := hbooks.asked
    have htaken' : (m.run E ops s).monitor.accepted.toNat = (m.run E ops s).taken.length := by
      rw [htaken]
      exact UInt64.toNat_ofNat_of_lt' (Nat.lt_of_le_of_lt (hasked ▸ Nat.le_add_right ..) hfew)
    have hrefused' : (m.run E ops s).monitor.discarded.toNat = (m.run E ops s).refused.length := by
      rw [hrefused]
      exact UInt64.toNat_ofNat_of_lt' (Nat.lt_of_le_of_lt (hasked ▸ Nat.le_add_left ..) hfew)
    rw [htaken', hrefused']
    exact ⟨hasked.symm, hbalanced⟩
  case complete => exact hcomplete
  case closed =>
    intro past begun during step future source r hsplit hblock hstays hop hsource
    have hstep : step ∈ (m.run E ops s).steps := by simp [hsplit]
    -- what follows the call that begins the block is a run of its own
    obtain ⟨first, second, -, -, hsecond⟩ := exists_of_steps_eq_append E hsplit
    have hblocked := isBlocked_of_begun E hsecond hblock hstays
    obtain ⟨hanswer, hafter, -, -⟩ := ingest_of_mem E hstep hop
    rw [← hsource] at hblocked
    rw [hblocked] at hanswer hafter
    exact ⟨hanswer, hafter⟩

/-- Packets before a block, while it lasts and after it, beside a record that is appended while the
source is blocked and a pruning that drops the first two. -/
theorem ledger_run_across_block :
    let E := Enforcer.refusing "recorder" fun _ =>
      some (.rejected "block" "exit status: 4" "denied")
    let m : Monitor :=
      { window := { span := 30, band := default }, rules := ⟨.any, [Rule.volume 100]⟩, policy := {}
        blocks := { requested := 40 } }
    let source := Address.v4 0x0a000001
    let other := Address.v4 0x0a000002
    let ops := [.ingest ⟨source, 200, 0⟩, .ingest ⟨other, 60, 1⟩, .tick 5, .ingest ⟨source, 70, 6⟩,
      .append ⟨source, 80, 7⟩, .reconcile, .ingest ⟨other, 61, 8⟩, .prune 32, .tick 45,
      .ingest ⟨source, 90, 46⟩]
    let run := m.run E ops ()
    (m.window.records = [] ∧ m.accepted = 0 ∧ m.discarded = 0) ∧
      run.moves source = [.block, .reassert, .unblock] ∧
      (run.monitor.accepted, run.monitor.discarded, run.direct.length) = (4, 1, 1) ∧
      run.dropped = [⟨source, 200, 0⟩, ⟨other, 60, 1⟩, ⟨source, 80, 7⟩, ⟨other, 61, 8⟩] ∧
      run.monitor.window.records = [⟨source, 90, 46⟩] ∧ Ledger run :=
  ⟨⟨rfl, rfl, rfl⟩, by decide +kernel, by decide +kernel, by decide +kernel, by decide +kernel,
    ledger_run _ _ rfl rfl rfl _ ()⟩

end Monitor

end SourceGuard
