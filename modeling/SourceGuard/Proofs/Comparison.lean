import Mathlib.Data.List.Basic
import SourceGuard.Proofs.Ageing
import SourceGuard.Proofs.Orders

/-!
# Counting up to a limit and counting from it on

A pattern rule that fires on one exact count misses a burst that jumps past it; one that fires from
the limit on does not. If ticks are so frequent that between two of them no source sends more than
one packet in the size band, no count can jump. At each tick the count of every source that may be
blocked is at most the limit: below it after the tick before, if the source was left without an
entry then, and one packet more; or what it was when the source was blocked, since a blocked source
gets no more records. Up to the limit the two rules agree, so the two monitors do the same, step by
step, in whatever orders both go through their tables. Sources that are never blocked may have higher
counts, for which no rule is consulted.

## Main definitions

* `Config.comparing`: a configuration with another comparison
* `Happening.Sparse`: at most one packet in the size band of each source before every tick
* `Monitor.Bounded`: counts do not exceed the limit when the next tick comes
* `Run.under`: a run as it would be written with other rules
* `Monitor.watchThrough`: a run of packets and ticks with given orders

## Main results

* `Monitor.culprits_under`: rules that agree on the sources that may be blocked find the same
  culprits
* `Monitor.bounded_next`: every happening keeps the counts bounded
* `Monitor.watch_atLeast_eq`: under sparse packets the two rules lead to the same run
-/

namespace SourceGuard

variable {σ : Type}

/-! ## Two comparisons -/

/-- The configuration with another comparison of the pattern rule. -/
def Config.comparing (c : Config) (comparison : Comparison) : Config :=
  { c with rules := { c.rules with pattern := { c.rules.pattern with comparison } } }

/-- Up to the limit, the two comparisons agree. -/
theorem Comparison.holds_of_le {count limit : UInt64} (h : count ≤ limit) :
    atLeast.holds count limit = exact.holds count limit := by
  simp only [holds, decide_eq_decide]
  exact ⟨UInt64.le_antisymm h, fun heq => heq ▸ UInt64.le_refl _⟩

namespace RuleSet

variable {set set' : RuleSet} {a : Aggregate}

/-- The names of the rules of a set, and whether each of them fires. -/
def verdicts (set : RuleSet) (a : Aggregate) : List (String × Bool) :=
  set.rules.map fun rule => (rule.name, rule.fires a)

theorem fired_eq (set : RuleSet) (a : Aggregate) :
    set.fired a = ((set.verdicts a).filter (·.2)).map (·.1) := by
  rw [fired, verdicts, List.filter_map, List.map_map]
  rfl

theorem isViolated_eq (set : RuleSet) (a : Aggregate) :
    set.isViolated a = match set.combine with
      | .any => (set.verdicts a).any (·.2)
      | .all => !(set.verdicts a).isEmpty && (set.verdicts a).all (·.2) := by
  rw [isViolated, verdicts, List.any_map, List.all_map, List.isEmpty_map]
  rfl

/-- **Rules of the same names that fire alike** on an aggregate make the same violation of it. -/
theorem violation?_congr (hcombine : set.combine = set'.combine)
    (h : set.verdicts a = set'.verdicts a) : set.violation? a = set'.violation? a := by
  rw [violation?, violation?, isViolated_eq, isViolated_eq, fired_eq, fired_eq, h, hcombine]

end RuleSet

namespace Config

variable {c : Config} {k k' : Comparison} {a : Aggregate}

/-- What does not tell the two pattern rules apart does not tell the rule sets apart. -/
theorem map_rules_comparing {α : Type} (f : Rule → α)
    (h : f (Rule.pattern c.rules.pattern.limit k) = f (Rule.pattern c.rules.pattern.limit k')) :
    (c.comparing k).ruleSet.rules.map f = (c.comparing k').ruleSet.rules.map f := by
  change ((if c.rules.volume.enabled then _ else _) ++
      if c.rules.pattern.enabled then [Rule.pattern c.rules.pattern.limit k] else []).map f =
    ((if c.rules.volume.enabled then _ else _) ++
      if c.rules.pattern.enabled then [Rule.pattern c.rules.pattern.limit k'] else []).map f
  rw [List.map_append, List.map_append]
  congr 1
  split
  · exact congrArg ([·]) h
  · rfl

/-- Comparisons that agree on an aggregate make the same violation of it. -/
theorem violation?_comparing
    (h : k.holds a.matching c.rules.pattern.limit = k'.holds a.matching c.rules.pattern.limit) :
    (c.comparing k).ruleSet.violation? a = (c.comparing k').ruleSet.violation? a :=
  RuleSet.violation?_congr rfl (map_rules_comparing _ (congrArg (Prod.mk "pattern") h))

/-- Whether a rule is close to firing does not depend on the comparison. -/
theorem approaching_comparing (c : Config) (k k' : Comparison) (a : Aggregate) :
    (c.comparing k).ruleSet.approaching a = (c.comparing k').ruleSet.approaching a := by
  have h : (c.comparing k).ruleSet.rules.map (·.approaching a) =
      (c.comparing k').ruleSet.rules.map (·.approaching a) := map_rules_comparing _ rfl
  have hany : ∀ rules : List Rule,
      rules.any (·.approaching a) = (rules.map (·.approaching a)).any id := fun rules => by
    rw [List.any_map]; rfl
  rw [RuleSet.approaching, RuleSet.approaching, hany, h, ← hany]

end Config

/-! ## Sparse packets -/

namespace Happening

/-- The packets that arrive before the next tick, if there is one. -/
def untilTick? : List Happening → Option (List Record)
  | [] => none
  | .tick _ :: _ => some []
  | .packet r :: rest => (untilTick? rest).map (r :: ·)

/-- Before every tick, the packets in the size band come from different sources. -/
def Sparse (band : SizeBand) : List Happening → Prop
  | [] => True
  | x :: rest =>
    (∀ packets ∈ untilTick? (x :: rest),
      ((packets.filter fun r => band.contains r.size).map (·.source)).Nodup) ∧ Sparse band rest

instance decidableSparse (band : SizeBand) : (hs : List Happening) → Decidable (Sparse band hs)
  | [] => inferInstanceAs (Decidable True)
  | _ :: rest =>
    have := decidableSparse band rest
    inferInstanceAs (Decidable (_ ∧ _))

variable {band : SizeBand} {packets : List Record}

/-- The packets before the next tick are those of the first stretch. -/
theorem Sparse.nodup_of_untilTick {hs : List Happening} (h : Sparse band hs)
    (hpackets : packets ∈ untilTick? hs) :
    ((packets.filter fun r => band.contains r.size).map (·.source)).Nodup := by
  cases hs with
  | nil => cases hpackets
  | cons x rest => exact h.1 packets hpackets

/-- Of packets in the size band from different sources, at most one is from a given source. -/
theorem hits_filter_le_one
    (h : ((packets.filter fun r => band.contains r.size).map (·.source)).Nodup) (source : Address) :
    Aggregate.hits band (packets.filter fun r => r.source = source) ≤ 1 := by
  have hcount := List.nodup_iff_count.mp h source
  rw [List.count, List.countP_map, List.countP_filter] at hcount
  rw [Aggregate.hits, List.countP_filter]
  refine Nat.le_trans (Nat.le_of_eq (List.countP_congr fun r _ => ?_)) hcount
  simp [and_comm]

end Happening

namespace Monitor

/-! ## Bounded counts -/

variable {m : Monitor} {now : Instant} {source : Address}

/-- The records that a source has when packets have arrived and nothing has been dropped. -/
def expected (m : Monitor) (source : Address) (packets : List Record) : List Record :=
  m.window.recordsOf source ++
    if m.blocks.isBlocked source then [] else packets.filter fun r => r.source = source

/-- When the next tick comes, the count of no source that may be blocked exceeds the limit. -/
def Bounded (c : Config) (m : Monitor) (hs : List Happening) : Prop :=
  ∀ packets ∈ Happening.untilTick? hs, ∀ source, c.policy.isEligible source = true →
    Aggregate.hits c.rules.pattern.band (m.expected source packets) ≤ c.rules.pattern.limit.toNat

theorem expected_ingest (m : Monitor) (r : Record) (source : Address) (packets : List Record) :
    (m.ingest r).2.expected source packets = m.expected source (r :: packets) := by
  unfold expected
  rw [blocks_ingest, window_ingest]
  by_cases hsource : r.source = source
  · rw [hsource]
    cases m.blocks.isBlocked source with
    | true => rfl
    | false =>
      have hcons : (r :: packets).filter (fun r => r.source = source) =
          r :: packets.filter fun r => r.source = source :=
        List.filter_cons_of_pos (by simpa using hsource)
      simp only [Bool.false_eq_true, if_false, hcons, Window.recordsOf_append, if_pos hsource,
        List.append_assoc, List.singleton_append]
  · have hcons : (r :: packets).filter (fun r => r.source = source) =
        packets.filter fun r => r.source = source :=
      List.filter_cons_of_neg (by simpa using hsource)
    rw [hcons]
    split <;> simp [Window.recordsOf_append_of_ne hsource]

/-- The records of a source that has no entry after a tick, if it may be blocked: their count is
below the limit, since it was no higher and a count at the limit would have blocked the source. -/
theorem hits_lt_of_free {c : Config} (hany : c.rules.combine = .any)
    (henabled : c.rules.pattern.enabled = true) (hlimit : 0 < c.rules.pattern.limit)
    (hm : m.settings = (ofConfig (c.comparing .exact)).settings)
    (hfree : (m.ticked now).blocks.isBlocked source = false)
    (heligible : c.policy.isEligible source = true)
    (hle : Aggregate.hits c.rules.pattern.band ((m.window.prune now).recordsOf source) ≤
      c.rules.pattern.limit.toNat) :
    Aggregate.hits c.rules.pattern.band ((m.window.prune now).recordsOf source) <
      c.rules.pattern.limit.toNat := by
  refine Nat.lt_of_le_of_ne hle fun hreached => ?_
  obtain ⟨hexpired, hnot⟩ := free_of_isBlocked_ticked hfree
  -- a count at the limit is a record left on which the pattern rule fires
  refine hnot ((isCulprit_iff_of_settings hm now source).mpr
    ⟨fun hnone => ?_, heligible, hexpired, ?_⟩)
  · rw [hnone] at hreached
    exact Nat.ne_of_lt (UInt64.lt_iff_toNat_lt.mp hlimit) hreached
  · have hfits := Nat.lt_of_le_of_lt hle c.rules.pattern.limit.toNat_lt
    have hcombine : (c.comparing .exact).ruleSet.combine = .any := hany
    have hmem : Rule.pattern c.rules.pattern.limit .exact ∈ (c.comparing .exact).ruleSet.rules :=
      ((c.comparing .exact).mem_ruleSet _).mpr (Or.inr ⟨henabled, rfl⟩)
    simp only [RuleSet.Violates, hcombine]
    refine ⟨_, hmem, ?_⟩
    simp only [Rule.pattern, Comparison.holds, decide_eq_true_eq, ← UInt64.toNat_inj]
    exact (Aggregate.toNat_matching_of_hits_lt hfits).trans hreached

/-- When a tick comes, what it leaves of the records of a source that may be blocked is bounded. -/
theorem Bounded.hits_prune_le {c : Config} {rest : List Happening}
    (h : m.Bounded c (.tick now :: rest)) (heligible : c.policy.isEligible source = true) :
    Aggregate.hits c.rules.pattern.band ((m.window.prune now).recordsOf source) ≤
      c.rules.pattern.limit.toNat := by
  have hbefore := h [] rfl source heligible
  rw [expected, List.filter_nil, ite_self, List.append_nil] at hbefore
  have hfewer := (Window.recordsOf_prune_suffix m.window now source).sublist
  exact Nat.le_trans (Aggregate.hits_le_of_sublist hfewer) hbefore

/-- **Every happening** keeps the counts bounded, if packets are sparse. -/
theorem bounded_next {c : Config} (hany : c.rules.combine = .any)
    (henabled : c.rules.pattern.enabled = true) (hlimit : 0 < c.rules.pattern.limit)
    (hm : m.settings = (ofConfig (c.comparing .exact)).settings) {x : Happening}
    {rest : List Happening} (h : m.Bounded c (x :: rest))
    (hsparse : Happening.Sparse c.rules.pattern.band (x :: rest)) :
    (m.next x.operation).Bounded c rest := by
  intro packets hpackets source heligible
  cases x with
  | packet r =>
    have huntil : r :: packets ∈ Happening.untilTick? (.packet r :: rest) :=
      Option.mem_map_of_mem _ hpackets
    change Aggregate.hits _ ((m.ingest r).2.expected source packets) ≤ _
    rw [expected_ingest]
    exact h (r :: packets) huntil source heligible
  | tick now =>
    have hleft := h.hits_prune_le heligible
    change Aggregate.hits _ ((m.window.prune now).recordsOf source ++
      if (m.ticked now).blocks.isBlocked source then [] else _) ≤ _
    cases hfree : (m.ticked now).blocks.isBlocked source with
    | true =>
      rw [if_pos rfl, List.append_nil]
      exact hleft
    | false =>
      have hbelow := hits_lt_of_free hany henabled hlimit hm hfree heligible hleft
      have hnew := Happening.hits_filter_le_one (hsparse.2.nodup_of_untilTick hpackets) source
      rw [if_neg Bool.false_ne_true, Aggregate.hits, List.countP_append]
      exact Nat.le_trans (Nat.add_le_add_left hnew _) hbelow

end Monitor

/-! ## The same run with other rules -/

/-- The monitor with other rules. -/
def Monitor.under (m : Monitor) (set : RuleSet) : Monitor := { m with rules := set }

/-- The report of a tick with other rules in its summary. -/
def TickReport.under (r : TickReport) (set : RuleSet) : TickReport :=
  { r with snapshot := { r.snapshot with summary := set.describe } }

/-- The answer with other rules in the summary of its snapshot, if it has one. -/
def Answer.under (a : Answer) (set : RuleSet) : Answer :=
  match a with
  | .report r => .report (r.under set)
  | a => a

/-- The step with other rules in its monitors and in the summary of its snapshot. All else is the
same: the window, the blocks and the counters, what the step yields, and its trace. -/
def Step.under (step : Step) (set : RuleSet) : Step where
  operation := step.operation
  before := step.before.under set
  answer := step.answer.under set
  trace := step.trace
  after := step.after.under set

/-- The run with other rules in all its steps. -/
def Run.under (run : Run σ) (set : RuleSet) : Run σ where
  steps := run.steps.map (·.under set)
  monitor := run.monitor.under set
  firewall := run.firewall

namespace Monitor

variable {m : Monitor} {now : Instant} {set : RuleSet}

/-- **Rules that agree on the sources that may be blocked** find the same culprits. -/
theorem culprits_under (h : ∀ source, m.policy.isEligible source = true →
      set.violation? ((m.window.prune now).sum source) =
        m.rules.violation? ((m.window.prune now).sum source)) :
    (m.under set).culprits now = m.culprits now := by
  change List.mergeSort (List.filterMap ((m.settled now).under set).offender? _) _ =
    List.mergeSort (List.filterMap (m.settled now).offender? _) _
  congr 1
  refine List.filterMap_congr fun ⟨source, sum⟩ hmem => ?_
  -- the aggregates are those of the records left, so the rules agree on them
  obtain ⟨-, hsum⟩ := (Window.mem_aggregates (m.window.prune now) source sum).mp hmem
  unfold offender?
  change (if (m.settled now).blocks.isBlocked source || !m.policy.isEligible source then none
      else (set.violation? sum).map _) =
    if (m.settled now).blocks.isBlocked source || !m.policy.isEligible source then none
      else (m.rules.violation? sum).map _
  by_cases heligible : m.policy.isEligible source = true
  · rw [hsum, h source heligible]
  · rw [Bool.not_eq_true] at heligible
    simp [heligible]

/-- Rules that warn of the same sources show the same but for their description. -/
theorem snapshot_under (hwarn : ∀ a, set.approaching a = m.rules.approaching a) (now : Instant)
    (sums : List (Address × Aggregate)) :
    (m.under set).snapshot now sums = { m.snapshot now sums with summary := set.describe } := by
  have hrow : (m.under set).row now = m.row now := by
    funext entry
    simp only [row, status, under, hwarn]
  simp only [snapshot, hrow]
  rfl

section

variable (hculprits : (m.under set).culprits now = m.culprits now)
include hculprits

/-- Other rules that find the same culprits leave the same monitor but for the rules. -/
theorem ticked_under : (m.under set).ticked now = (m.ticked now).under set := by
  rw [ticked, hculprits]
  rfl

/-- Other rules that find the same culprits make the same requests. -/
theorem requestsThrough_under (E : Enforcer σ) (o : Orders) (s : σ) :
    (m.under set).requestsThrough E o now s = m.requestsThrough E o now s := by
  rw [requestsThrough, hculprits]
  rfl

/-- **A tick with other rules** that find the same culprits and warn of the same sources does the
same and shows the same but for their description. -/
theorem tickThrough_under (E : Enforcer σ) (o : Orders)
    (hwarn : ∀ a, set.approaching a = m.rules.approaching a) (s : σ) :
    let out := m.tickThrough E now (o.traversal m now) s
    (m.under set).tickThrough E now (o.traversal (m.under set) now) s =
      ⟨(out.value.1.under set, out.value.2.under set), out.firewall, out.trace⟩ := by
  intro out
  have hshown := snapshot_under (m := m.ticked now) hwarn now
  rw [show out = _ from tickThrough_apply E o m now s, tickThrough_apply,
    requestsThrough_under hculprits, ticked_under hculprits, hshown]
  rfl

end

/-- **An operation of a monitor that watches**, with such rules. -/
theorem operateThrough_under (E : Enforcer σ) (o : Orders) {x : Happening}
    (hculprits : ∀ now, x = .tick now → (m.under set).culprits now = m.culprits now)
    (hwarn : ∀ a, set.approaching a = m.rules.approaching a) (s : σ) :
    let out := m.operateThrough E o x.operation s
    (m.under set).operateThrough E o x.operation s =
      ⟨(out.value.1.under set, out.value.2.under set), out.firewall, out.trace⟩ := by
  cases x with
  | packet r =>
    have hingest : (m.under set).ingest r = ((m.ingest r).1, (m.ingest r).2.under set) := by
      unfold ingest
      change (if m.blocks.isBlocked r.source then _ else _) = _
      split <;> rfl
    change Outcome.mk
      (Answer.accounted ((m.under set).ingest r).1, ((m.under set).ingest r).2) s [] = _
    rw [hingest]
    rfl
  | tick now =>
    have htick := tickThrough_under (hculprits now rfl) E o hwarn s
    simp only [Happening.operation, operateThrough, bind, Action.bind, htick]
    rfl

/-- A run of packets and ticks, each with its own orders. -/
def watchThrough (E : Enforcer σ) (m : Monitor) (o : Nat → Orders) (hs : List Happening) (s : σ) :
    Run σ :=
  m.runThrough E o (hs.map (·.operation)) s

/-! ## The same run -/

/-- As long as the count of a source does not exceed the limit, its records make the same violation
whether counts are compared up to the limit or from it on. -/
theorem violation?_of_le {c : Config} (hm : m.settings = (ofConfig (c.comparing .exact)).settings)
    {source : Address}
    (h : Aggregate.hits c.rules.pattern.band ((m.window.prune now).recordsOf source) ≤
      c.rules.pattern.limit.toNat) :
    (c.comparing .atLeast).ruleSet.violation? ((m.window.prune now).sum source) =
      (c.comparing .exact).ruleSet.violation? ((m.window.prune now).sum source) := by
  have hband : (m.window.prune now).band = c.rules.pattern.band := congrArg Settings.band hm
  refine Config.violation?_comparing (Comparison.holds_of_le ?_)
  rw [Window.sum, hband, UInt64.le_iff_toNat_le, Aggregate.toNat_matching_of_hits_lt]
  · exact h
  · exact Nat.lt_of_le_of_lt h c.rules.pattern.limit.toNat_lt

/-- **Under sparse packets** a monitor that counts from the limit on goes through the same run as
one that counts up to it, if counts are bounded to begin with. -/
theorem watchThrough_under (E : Enforcer σ) {c : Config} (hany : c.rules.combine = .any)
    (henabled : c.rules.pattern.enabled = true) (hlimit : 0 < c.rules.pattern.limit)
    {hs : List Happening} (hsparse : Happening.Sparse c.rules.pattern.band hs) {m : Monitor}
    (hm : m.settings = (ofConfig (c.comparing .exact)).settings) (hbounded : m.Bounded c hs)
    (o : Nat → Orders) (s : σ) :
    (m.under (c.comparing .atLeast).ruleSet).watchThrough E o hs s =
      (m.watchThrough E o hs s).under (c.comparing .atLeast).ruleSet := by
  induction hs generalizing o m s with
  | nil => rfl
  | cons x rest ih =>
    have hrules : m.rules = (c.comparing .exact).ruleSet := congrArg Settings.rules hm
    have hwarn : ∀ a, (c.comparing .atLeast).ruleSet.approaching a = m.rules.approaching a := by
      rw [hrules]
      exact c.approaching_comparing .atLeast .exact
    have hculprits : ∀ now, x = .tick now →
        (m.under (c.comparing .atLeast).ruleSet).culprits now = m.culprits now := by
      rintro now rfl
      refine culprits_under fun source heligible => ?_
      rw [show m.policy = c.policy from congrArg Settings.policy hm] at heligible
      rw [hrules]
      exact violation?_of_le hm (hbounded.hits_prune_le heligible)
    -- the first happening does the same, and the others go on from monitors that differ as before
    let out := m.operateThrough E (o 0) x.operation s
    have hnext : out.value.2 = m.next x.operation := value_operateThrough ..
    have hlater := ih hsparse.2 (m := out.value.2)
      (by rw [hnext, settings_next, hm])
      (by rw [hnext]; exact bounded_next hany henabled hlimit hm hbounded hsparse)
      (fun k => o (k + 1)) out.firewall
    simp only [watchThrough, List.map_cons, runThrough,
      operateThrough_under E (o 0) hculprits hwarn s] at hlater ⊢
    rw [hlater]
    rfl

/-- **With sparse packets, counting up to the limit is as good as counting from it on.** If one rule
that fires is a violation, the pattern rule is in use and its limit is not zero, the two runs are
the same in all but the rules: at every step the same window, blocks and counters, the same answers,
snapshots and traces, and in the end the same monitor and firewall. So they are in whatever orders
both go through their tables. -/
theorem watch_atLeast_eq (c : Config) (hany : c.rules.combine = .any)
    (henabled : c.rules.pattern.enabled = true) (hlimit : 0 < c.rules.pattern.limit)
    (E : Enforcer σ) (hs : List Happening)
    (hsparse : Happening.Sparse c.rules.pattern.band hs) (s : σ) :
    (ofConfig (c.comparing .atLeast)).watch E hs s =
        ((ofConfig (c.comparing .exact)).watch E hs s).under (c.comparing .atLeast).ruleSet ∧
      ∀ o : Nat → Orders, (ofConfig (c.comparing .atLeast)).watchThrough E o hs s =
        ((ofConfig (c.comparing .exact)).watchThrough E o hs s).under
          (c.comparing .atLeast).ruleSet := by
  have hbounded : (ofConfig (c.comparing .exact)).Bounded c hs := by
    intro packets hpackets source _
    -- nothing is accounted and nobody is blocked, so only the packets before the first tick count
    have hone := Happening.hits_filter_le_one (hsparse.nodup_of_untilTick hpackets) source
    exact Nat.le_trans hone (UInt64.lt_iff_toNat_lt.mp hlimit)
  have hall : ∀ o : Nat → Orders, (ofConfig (c.comparing .atLeast)).watchThrough E o hs s =
      ((ofConfig (c.comparing .exact)).watchThrough E o hs s).under
        (c.comparing .atLeast).ruleSet := fun o =>
    watchThrough_under E hany henabled hlimit hsparse rfl hbounded o s
  refine ⟨?_, hall⟩
  rw [watch, watch, run_eq_runThrough, run_eq_runThrough]
  exact hall fun _ => .ascending

/-- A source that reaches the limit at the second tick and is blocked, packets of it while it is
blocked, and a source that may not be blocked and exceeds the limit: tables gone through forwards,
and backwards. -/
theorem watch_atLeast_eq_past_limit :
    let source := Address.v4 0x0a000001
    let exempt := Address.v4 0x0a000002
    let c : Config := { sources := { exempt := [exempt] } }
    let E := Enforcer.refusing "recorder" fun _ =>
      some (.rejected "block" "exit status: 4" "denied")
    let hs : List Happening := [.packet ⟨source, 120, 0⟩, .packet ⟨exempt, 120, 0⟩, .tick 1,
      .packet ⟨source, 120, 2⟩, .packet ⟨source, 60, 2⟩, .packet ⟨exempt, 120, 2⟩, .tick 3,
      .packet ⟨source, 120, 4⟩, .packet ⟨exempt, 120, 4⟩, .tick 5, .packet ⟨exempt, 120, 6⟩,
      .packet ⟨exempt, 120, 6⟩]
    let run := (ofConfig (c.comparing .exact)).watch E hs ()
    let run' := (ofConfig (c.comparing .atLeast)).watch E hs ()
    let backwards : Orders :=
      { held := (·.entries.reverse), sums := (·.entries.reverse), left := (·.entries.reverse)
        held_perm := fun _ => List.reverse_perm _, sums_perm := fun _ => List.reverse_perm _
        left_perm := fun _ => List.reverse_perm _ }
    (c.rules.combine = .any ∧ c.rules.pattern.enabled = true ∧ 0 < c.rules.pattern.limit ∧
        Happening.Sparse c.rules.pattern.band hs) ∧
      run.monitor.blocks.table.get? source = some ⟨30000000003, "pattern"⟩ ∧
      (run.monitor.window.recordsOf exempt).length = 5 ∧ run.monitor.discarded = 1 ∧
      run' = run.under (c.comparing .atLeast).ruleSet ∧
      (ofConfig (c.comparing .atLeast)).watchThrough E (fun _ => backwards) hs () =
        ((ofConfig (c.comparing .exact)).watchThrough E (fun _ => backwards) hs ()).under
          (c.comparing .atLeast).ruleSet := by
  intro source exempt c E hs run run' backwards
  have hsparse : Happening.Sparse c.rules.pattern.band hs := by decide
  obtain ⟨hsame, hthrough⟩ := watch_atLeast_eq c rfl rfl (by decide) E hs hsparse ()
  refine ⟨⟨rfl, rfl, by decide, hsparse⟩, ?_, ?_, ?_, hsame, hthrough _⟩
  · decide +kernel
  · decide +kernel
  · decide +kernel

end Monitor

end SourceGuard
