import SourceGuard.Monitor
import SourceGuard.Proofs.Aggregates
import SourceGuard.Proofs.Blocks.Effect

/-!
# What a tick does

A tick releases the blocks that have expired, prunes the window and blocks the culprits: the sources
with a record left in the window that may be blocked, have no entry any more, and violate the rules.
Each culprit is asked for once, by ascending address, after every release.

## Main definitions

* `Monitor.IsCulprit`: a source that a tick blocks
* `Monitor.settled`, `Monitor.ticked`: the monitor before the requests of a tick, and after them

## Main results

* `Monitor.mem_culprits`: the offenders that a tick finds are the culprits
* `Monitor.value_tick`, `Monitor.asked_tick`: what a tick leaves and asks, whatever the firewall
  answers
* `Monitor.firewall_trace_tick`: the trace of a tick, part by part
* `Monitor.mem_map_blocked_tick`: what a tick lists as blocked are the culprits
* `Monitor.get?_ticked`, `Monitor.free_of_isBlocked_ticked`: the entry of a source after a tick, and
  what it says that there is none
* `Monitor.tick_exact`: a tick, by its report, its calls and the table it leaves
-/

namespace SourceGuard

open Emission (asked)

variable {σ : Type}

namespace Monitor

/-! ## Culprits -/

/-- The monitor after the releases and the pruning of a tick. -/
def settled (m : Monitor) (now : Instant) : Monitor :=
  { m with blocks := m.blocks.drop (m.blocks.expired now), window := m.window.prune now }

/-- The offenders that a tick finds. -/
def culprits (m : Monitor) (now : Instant) : List Offender :=
  (m.settled now).offenders (m.settled now).window.aggregates.entries

/-- A source that a tick blocks. -/
structure IsCulprit (m : Monitor) (now : Instant) (source : Address) : Prop where
  /-- It has a record left in the window. -/
  seen : (m.window.prune now).recordsOf source ≠ []
  /-- It may be blocked. -/
  eligible : m.policy.isEligible source = true
  /-- Its block, if it had one, has expired. -/
  free : ∀ e, m.blocks.table.get? source = some e → e.expiry ≤ now
  /-- Its records violate the rules. -/
  violates : m.rules.Violates ((m.window.prune now).sum source)

theorem offender?_eq_some_iff (m : Monitor) (entry : Address × Aggregate) (o : Offender) :
    m.offender? entry = some o ↔
      m.blocks.isBlocked entry.1 = false ∧ m.policy.isEligible entry.1 = true ∧
        m.rules.Violates entry.2 ∧ o = ⟨entry.1, entry.2, m.rules.fired entry.2⟩ := by
  unfold offender?
  split
  · rename_i h
    rcases Bool.or_eq_true _ _ ▸ h with h | h <;> simp_all
  · rename_i h
    obtain ⟨hfree, heligible⟩ : m.blocks.isBlocked entry.1 = false ∧
        m.policy.isEligible entry.1 = true := by simpa using h
    rw [Option.map_eq_some_iff]
    constructor
    · rintro ⟨fired, hfired, rfl⟩
      obtain ⟨hviolates, rfl⟩ := (RuleSet.violation?_eq_some_iff _ _ _).mp hfired
      exact ⟨hfree, heligible, hviolates, rfl⟩
    · rintro ⟨-, -, hviolates, rfl⟩
      exact ⟨_, (RuleSet.violation?_eq_some_iff _ _ _).mpr ⟨hviolates, rfl⟩, rfl⟩

theorem isBlocked_settled (m : Monitor) (now : Instant) (source : Address) :
    (m.settled now).blocks.isBlocked source = false ↔
      ∀ e, m.blocks.table.get? source = some e → e.expiry ≤ now := by
  rw [Blocks.isBlocked_eq_false_iff, settled, Blocks.get?_drop_expired, Option.filter_eq_none_iff]
  simp

/-- Aggregates by ascending address yield their offenders by ascending address. -/
theorem offenders_of_ascending (m : Monitor) {sums : List (Address × Aggregate)}
    (h : sums.Pairwise fun a b => a.1 < b.1) :
    m.offenders sums = sums.filterMap m.offender? ∧
      (m.offenders sums).Pairwise fun a b => a.source < b.source := by
  have hascending : (sums.filterMap m.offender?).Pairwise fun a b => a.source < b.source := by
    refine h.filterMap _ fun a b hab o ho p hp => ?_
    obtain ⟨-, -, -, rfl⟩ := (offender?_eq_some_iff m a o).mp ho
    obtain ⟨-, -, -, rfl⟩ := (offender?_eq_some_iff m b p).mp hp
    exact hab
  -- the offenders are found in order, so sorting them changes nothing
  have hsorted : m.offenders sums = sums.filterMap m.offender? :=
    List.mergeSort_of_pairwise (hascending.imp fun hab => decide_eq_true (Nat.le_of_lt hab))
  exact ⟨hsorted, hsorted ▸ hascending⟩

theorem culprits_ascending (m : Monitor) (now : Instant) :
    (m.culprits now).Pairwise fun a b => a.source < b.source :=
  (offenders_of_ascending _ (m.settled now).window.aggregates.ascending).2

/-- **The offenders that a tick finds** are the culprits, each with what its records add up to and
the rules that fired on that. -/
theorem mem_culprits (m : Monitor) (now : Instant) (o : Offender) :
    o ∈ m.culprits now ↔
      m.IsCulprit now o.source ∧ o.sum = (m.window.prune now).sum o.source ∧
        o.fired = m.rules.fired o.sum := by
  rw [culprits, (offenders_of_ascending _ (m.settled now).window.aggregates.ascending).1,
    List.mem_filterMap]
  constructor
  -- the aggregates of the window say which sources were seen, and what their records add up to
  · rintro ⟨⟨source, sum⟩, hmem, ho⟩
    obtain ⟨hfree, heligible, hviolates, rfl⟩ := (offender?_eq_some_iff _ _ _).mp ho
    obtain ⟨hseen, rfl⟩ := (Window.mem_aggregates _ source sum).mp hmem
    exact ⟨⟨hseen, heligible, (isBlocked_settled m now source).mp hfree, hviolates⟩, rfl, rfl⟩
  · rintro ⟨h, hsum, hfired⟩
    refine ⟨(o.source, o.sum), (Window.mem_aggregates _ _ _).mpr ⟨h.seen, hsum⟩, ?_⟩
    refine (offender?_eq_some_iff _ _ _).mpr
      ⟨(isBlocked_settled m now o.source).mpr h.free, h.eligible, hsum ▸ h.violates, ?_⟩
    change o = ⟨o.source, o.sum, m.rules.fired o.sum⟩
    rw [← hfired]

theorem mem_map_source_culprits (m : Monitor) (now : Instant) (source : Address) :
    source ∈ (m.culprits now).map (·.source) ↔ m.IsCulprit now source := by
  rw [List.mem_map]
  constructor
  · rintro ⟨o, ho, rfl⟩
    exact ((mem_culprits m now o).mp ho).1
  · intro h
    let sum := (m.window.prune now).sum source
    exact ⟨⟨source, sum, m.rules.fired sum⟩, (mem_culprits m now _).mpr ⟨h, rfl, rfl⟩, rfl⟩

/-! ## Requests for offenders -/

/-- The blocks after a request for each of some offenders. -/
def grantEach (now : Instant) (os : List Offender) (b : Blocks) : Blocks :=
  os.foldl (fun b o => b.grant o.source now (RuleSet.reason o.fired)) b

@[simp] theorem requested_grantEach (now : Instant) (os : List Offender) (b : Blocks) :
    (grantEach now os b).requested = b.requested := by
  induction os generalizing b with
  | nil => rfl
  | cons o rest ih => rw [grantEach, List.foldl_cons, ← grantEach, ih, Blocks.requested_grant]

/-- **The entry of a source after the requests** is the one it had, or else that of the first
offender from there. -/
theorem get?_grantEach (now : Instant) (os : List Offender) (b : Blocks) (source : Address) :
    (grantEach now os b).table.get? source =
      (b.table.get? source).or
        ((os.find? (·.source = source)).map fun o => b.entryAt now (RuleSet.reason o.fired)) := by
  induction os generalizing b with
  | nil => exact (Option.or_none).symm
  | cons o rest ih =>
    rw [grantEach, List.foldl_cons, ← grantEach, ih, Blocks.get?_grant, Option.or_assoc]
    simp only [Blocks.entryAt_grant]
    by_cases h : o.source = source
    · rw [if_pos h.symm, List.find?_cons_of_pos (by simpa using h), Option.some_or]
      rfl
    · rw [if_neg (Ne.symm h), List.find?_cons_of_neg (by simpa using h), Option.none_or]

theorem value_blockEach (E : Enforcer σ) (now : Instant) (os : List Offender) (b : Blocks) (s : σ) :
    (blockEach E now os b s).value.2 = grantEach now os b ∧
      (blockEach E now os b s).value.1.map (·.1) = os.map (·.source) := by
  induction os generalizing b s with
  | nil => exact ⟨rfl, rfl⟩
  | cons o rest ih =>
    have hnext := Blocks.value_request E b o.source now (RuleSet.reason o.fired) s
    constructor
    · exact (ih _ _).1.trans (congrArg (grantEach now rest) hnext)
    · exact congrArg (o.source :: ·) (ih _ _).2

/-- **Requests for different sources without entries** are asked for one by one, and none finds an
entry. -/
theorem asked_blockEach (E : Enforcer σ) (now : Instant) {os : List Offender}
    (hdistinct : os.Pairwise fun a b => a.source ≠ b.source) {b : Blocks}
    (hfree : ∀ o ∈ os, b.isBlocked o.source = false) (s : σ) :
    asked (blockEach E now os b s).trace = os.map (.add ·.source) ∧
      ∀ x ∈ (blockEach E now os b s).value.1, x.2 ≠ .alreadyBlocked := by
  induction os generalizing b s with
  | nil => exact ⟨rfl, fun x hx => absurd hx List.not_mem_nil⟩
  | cons o rest ih =>
    obtain ⟨hhead, htail⟩ := List.pairwise_cons.mp hdistinct
    have hopen : b.isBlocked o.source = false := hfree o List.mem_cons_self
    have hnext := Blocks.value_request E b o.source now (RuleSet.reason o.fired) s
    -- the request for the head leaves the sources of the tail without entries
    have hrest : ∀ p ∈ rest, (b.grant o.source now (RuleSet.reason o.fired)).isBlocked p.source =
        false := by
      intro p hp
      rw [Blocks.isBlocked_eq_false_iff, Blocks.get?_grant, if_neg (hhead p hp).symm, Option.or_none,
        ← Blocks.isBlocked_eq_false_iff]
      exact hfree p (List.mem_cons_of_mem _ hp)
    obtain ⟨hasked, houtcome⟩ := ih htail (hnext ▸ hrest)
      (b.request E o.source now (RuleSet.reason o.fired) s).firewall
    constructor
    · -- the event of the violation asks nothing, so the first call is that of the request
      have hcall := Blocks.asked_request E b o.source now (RuleSet.reason o.fired) s
      rw [hopen] at hcall
      simp only [blockEach, Action.trace_bind, Action.emit_apply, Action.pure_apply,
        Emission.asked_append, Emission.asked_event, Emission.asked_nil, List.nil_append,
        List.append_nil, hasked, hcall]
      rfl
    · intro x hx
      rcases List.mem_cons.mp hx with rfl | hx
      · intro h
        have := (Blocks.outcome_request E b o.source now (RuleSet.reason o.fired) s).mp h
        rw [hopen] at this
        cases this
      · exact houtcome x hx

/-! ## The tick -/

/-- The monitor after a tick. -/
def ticked (m : Monitor) (now : Instant) : Monitor :=
  { m.settled now with blocks := grantEach now (m.culprits now) (m.settled now).blocks }

/-- The events of a pruning: one, if it drops records. -/
def pruneEvents (w : Window) (now : Instant) : List Event :=
  if 0 < w.evicted now then [pruneEvent (w.evicted now) (w.prune now).size] else []

/-- **A pruning** changes the window alone, and asks the firewall nothing. -/
theorem prune_apply (m : Monitor) (now : Instant) (s : σ) :
    m.prune now s =
      ⟨{ m with window := m.window.prune now }, s, (pruneEvents m.window now).map .event⟩ := by
  unfold prune pruneEvents
  split <;> rfl

/-- The requests of a tick, begun in the state in which its releases left the firewall. -/
def requests (E : Enforcer σ) (m : Monitor) (now : Instant) (s : σ) :
    Outcome σ (List (Address × RequestOutcome) × Blocks) :=
  blockEach E now (m.culprits now) (m.settled now).blocks (m.blocks.releaseExpired E now s).firewall

/-- **A tick** is its releases, then its pruning, then its requests. -/
theorem value_tick (E : Enforcer σ) (m : Monitor) (now : Instant) (s : σ) :
    (m.tick E now s).value =
      (⟨m.blocks.expired now, (m.requests E now s).value.1,
        (m.ticked now).snapshot now (m.window.prune now).aggregates.entries⟩, m.ticked now) := by
  have hrelease := Blocks.value_releaseExpired E m.blocks now s
  have hblocks : (m.requests E now s).value.2 = (m.ticked now).blocks := (value_blockEach ..).1
  simp only [tick, Action.value_bind, Action.firewall_bind, Action.pure_apply, hrelease,
    prune_apply, evaluate]
  -- only the table that the requests leave depends on more than the monitor, and that not at all
  have hnext : ({ m.settled now with blocks := (m.requests E now s).value.2 } : Monitor) =
      m.ticked now := congrArg (fun blocks => { m.settled now with blocks }) hblocks
  exact Prod.ext (congrArg (fun next => TickReport.mk _ _ (snapshot next now _)) hnext) hnext

/-- **What a tick lists as blocked** are the culprits. -/
theorem mem_map_blocked_tick (E : Enforcer σ) (m : Monitor) (now : Instant) (s : σ)
    (source : Address) :
    source ∈ (m.tick E now s).value.1.blocked.map (·.1) ↔ m.IsCulprit now source := by
  have hlisted : (m.requests E now s).value.1.map (·.1) = (m.culprits now).map (·.source) :=
    (value_blockEach ..).2
  rw [value_tick, hlisted, mem_map_source_culprits]

/-- The requests of a tick ask for every culprit, and none of them finds an entry. -/
theorem asked_requests (E : Enforcer σ) (m : Monitor) (now : Instant) (s : σ) :
    asked (m.requests E now s).trace = (m.culprits now).map (.add ·.source) ∧
      ∀ x ∈ (m.requests E now s).value.1, x.2 ≠ .alreadyBlocked := by
  have hfree : ∀ o ∈ m.culprits now, (m.settled now).blocks.isBlocked o.source = false := by
    intro o ho
    exact (isBlocked_settled m now o.source).mpr ((mem_culprits m now o).mp ho).1.free
  have hdistinct := (culprits_ascending m now).imp fun h => Address.ne_of_lt h
  exact asked_blockEach E now hdistinct hfree _

/-- **What a tick leaves of the firewall** is what its requests leave after its releases, and its
trace is that of its releases, then the events of its pruning, then the trace of its requests. -/
theorem firewall_trace_tick (E : Enforcer σ) (m : Monitor) (now : Instant) (s : σ) :
    (m.tick E now s).firewall = (m.requests E now s).firewall ∧
      (m.tick E now s).trace = (m.blocks.releaseExpired E now s).trace ++
        ((pruneEvents m.window now).map .event ++ (m.requests E now s).trace) := by
  simp only [tick, Action.trace_bind, Action.firewall_bind, Action.pure_apply,
    Blocks.value_releaseExpired, prune_apply, evaluate, List.append_nil]
  exact ⟨rfl, rfl⟩

/-- **What a tick asks**: the release of every expired block, then a block of every culprit. -/
theorem asked_tick (E : Enforcer σ) (m : Monitor) (now : Instant) (s : σ) :
    asked (m.tick E now s).trace =
      (m.blocks.expired now).map .remove ++ (m.culprits now).map (.add ·.source) := by
  have hquiet : asked ((pruneEvents m.window now).map .event) = [] :=
    congrArg (List.map Prod.fst) (Emission.calls_map_event _)
  rw [(firewall_trace_tick E m now s).2, Emission.asked_append, Emission.asked_append, hquiet,
    List.nil_append, Blocks.asked_releaseExpired, (asked_requests E m now s).1]

/-- The entry that a tick makes for a culprit. -/
def sentence (m : Monitor) (now : Instant) (source : Address) : Entry :=
  m.blocks.entryAt now (RuleSet.reason (m.rules.fired ((m.window.prune now).sum source)))

theorem find?_culprits (m : Monitor) (now : Instant) (source : Address) (e : Entry) :
    ((m.culprits now).find? (·.source = source)).map
        (fun o => m.blocks.entryAt now (RuleSet.reason o.fired)) = some e ↔
      m.IsCulprit now source ∧ e = m.sentence now source := by
  rw [Option.map_eq_some_iff]
  constructor
  · rintro ⟨o, ho, rfl⟩
    obtain rfl : o.source = source := by simpa using List.find?_some ho
    obtain ⟨h, hsum, hfired⟩ := (mem_culprits m now o).mp (List.mem_of_find?_eq_some ho)
    exact ⟨h, by rw [sentence, hfired, hsum]⟩
  · rintro ⟨h, rfl⟩
    obtain ⟨p, hp, rfl⟩ := List.mem_map.mp ((mem_map_source_culprits m now source).mpr h)
    obtain ⟨o, ho⟩ := Option.isSome_iff_exists.mp
      (List.find?_isSome (p := fun q => decide (q.source = p.source)).mpr ⟨p, hp, by simp⟩)
    have hsource : o.source = p.source := by simpa using List.find?_some ho
    obtain ⟨-, hsum, hfired⟩ := (mem_culprits m now o).mp (List.mem_of_find?_eq_some ho)
    exact ⟨o, ho, by rw [sentence, hfired, hsum, hsource]⟩

/-- **The entry of a source after a tick** is the one it had, if that has not expired, or else the
one that it got as a culprit. -/
theorem get?_ticked (m : Monitor) (now : Instant) (source : Address) (e : Entry) :
    (m.ticked now).blocks.table.get? source = some e ↔
      m.blocks.table.get? source = some e ∧ now < e.expiry ∨
        m.IsCulprit now source ∧ e = m.sentence now source := by
  change (grantEach now (m.culprits now) (m.settled now).blocks).table.get? source = some e ↔ _
  have hkept : (m.settled now).blocks.table.get? source =
      (m.blocks.table.get? source).filter fun e => now < e.expiry :=
    Blocks.get?_drop_expired m.blocks now source
  rw [get?_grantEach, Option.or_eq_some_iff]
  simp only [settled, Blocks.entryAt_drop, find?_culprits]
  change (m.settled now).blocks.table.get? source = some e ∨
    (m.settled now).blocks.table.get? source = none ∧ _ ↔ _
  rw [hkept, Option.filter_eq_some_iff, decide_eq_true_eq, Option.filter_eq_none_iff]
  refine or_congr Iff.rfl ⟨fun h => h.2, fun h => ⟨fun e he => ?_, h⟩⟩
  rw [decide_eq_true_eq]
  exact Int.not_lt.mpr (h.1.free e he)

/-- A source that a tick leaves without an entry had no block that lasts on, and was no culprit of
that tick. -/
theorem free_of_isBlocked_ticked {m : Monitor} {now : Instant} {source : Address}
    (h : (m.ticked now).blocks.isBlocked source = false) :
    (∀ e, m.blocks.table.get? source = some e → e.expiry ≤ now) ∧ ¬ m.IsCulprit now source := by
  have hnone : ∀ e, (m.ticked now).blocks.table.get? source ≠ some e := by
    intro e he
    rw [(Blocks.isBlocked_eq_false_iff _ source).mp h] at he
    cases he
  constructor
  · intro e he
    exact Int.not_lt.mp fun hlasts =>
      hnone e ((get?_ticked m now source e).mpr (Or.inl ⟨he, hlasts⟩))
  · intro hculprit
    exact hnone _ ((get?_ticked m now source _).mpr (Or.inr ⟨hculprit, rfl⟩))

/-- After a tick no entry has expired, if blocks last for some time at all. -/
theorem lt_expiry_ticked {m : Monitor} {now : Instant} {source : Address} {e : Entry}
    (hpos : 0 < m.blocks.requested) (he : (m.ticked now).blocks.table.get? source = some e) :
    now < e.expiry := by
  have hspan : 0 < m.blocks.span := Nat.lt_min.mpr ⟨hpos, by decide⟩
  -- the entry outlived the release, or the tick made it
  rcases (get?_ticked m now source e).mp he with ⟨-, hlt⟩ | ⟨-, rfl⟩
  · exact hlt
  · exact Int.lt_add_of_pos_right now (Int.natCast_pos.mpr hspan)

/-! ## The tick, exactly -/

/-- **A tick** releases precisely the entries that have expired, blocks precisely the culprits, each
for the first time, asks for all releases before all blocks, and leaves the entries that have not
expired beside one new entry for each culprit. -/
theorem tick_exact (E : Enforcer σ) (m : Monitor) (now : Instant) (s : σ) :
    let report := (m.tick E now s).value.1
    let after := (m.tick E now s).value.2
    let listed := report.blocked.map (·.1)
    (report.released.Nodup ∧
        ∀ a, a ∈ report.released ↔ ∃ e, (a, e) ∈ m.blocks.table.entries ∧ e.expiry ≤ now) ∧
      (listed.Pairwise (· < ·) ∧ (∀ a, a ∈ listed ↔ m.IsCulprit now a) ∧
        ∀ x ∈ report.blocked, x.2 ≠ .alreadyBlocked) ∧
      asked (m.tick E now s).trace = report.released.map .remove ++ listed.map .add ∧
      after.window = m.window.prune now ∧
      ∀ a e, (a, e) ∈ after.blocks.table.entries ↔
        (a, e) ∈ m.blocks.table.entries ∧ now < e.expiry ∨
          a ∈ listed ∧ e.expiry = now + min m.blocks.requested Blocks.longest ∧
            e.reason = String.intercalate "+" ((m.rules.rules.filter
              (·.fires ((m.window.prune now).sum a))).map (·.name)) := by
  have hlisted : (m.requests E now s).value.1.map (·.1) = (m.culprits now).map (·.source) :=
    (value_blockEach ..).2
  simp only [value_tick, hlisted]
  refine ⟨⟨?_, fun a => ?_⟩, ⟨?_, fun a => ?_, (asked_requests E m now s).2⟩, ?_, rfl, fun a e => ?_⟩
  · exact (Blocks.expired_ascending m.blocks now).imp fun h => Address.ne_of_lt h
  · rw [Blocks.mem_expired]
    simp only [AddressMap.get?_eq_some_iff]
  · exact List.pairwise_map.mpr (culprits_ascending m now)
  · exact mem_map_source_culprits m now a
  · rw [asked_tick, List.map_map]
    rfl
  · rw [← AddressMap.get?_eq_some_iff, ← AddressMap.get?_eq_some_iff, get?_ticked,
      mem_map_source_culprits]
    refine or_congr Iff.rfl (and_congr Iff.rfl ⟨?_, ?_⟩)
    · rintro rfl
      exact ⟨rfl, rfl⟩
    · rintro ⟨hexpiry, hreason⟩
      obtain ⟨expiry, reason⟩ := e
      obtain rfl : expiry = _ := hexpiry
      obtain rfl : reason = _ := hreason
      rfl

end Monitor

end SourceGuard
