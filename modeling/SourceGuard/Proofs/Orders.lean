import SourceGuard.Proofs.Run
import SourceGuard.Proofs.Traversal

/-!
# Runs that go through their tables in any order

An operation finds the entries of a table in some order, which may differ from one operation to the
next and depend on all that came before. A run can be made with such orders, one of them for each
operation: the sources of a release and of a re-assertion are then asked for in their order, and
what is shown is made from lists in their order. The monitors that such a run goes through are those
of any other run of the same operations. A run as defined without orders is the one that goes
through every table by ascending address.

## Main definitions

* `Orders`: an order for each of the tables that an operation goes through
* `Monitor.operateThrough`, `Monitor.runThrough`: an operation and a run with given orders
* `Monitor.demandsThrough`: what an operation with given orders asks

## Main results

* `Monitor.tickThrough_apply`: a tick with given orders, part by part
* `Monitor.value_operateThrough`, `Monitor.asked_operateThrough`: operations with given orders do
  not depend on the answers of the firewall
* `Monitor.run_eq_runThrough`: a run goes through its tables by ascending address
-/

namespace SourceGuard

open Emission (asked)

variable {σ : Type}

/-! ## Orders -/

/-- The orders in which an operation goes through the tables that it finds and that it leaves. -/
structure Orders where
  /-- The entries of the blocks that it finds. -/
  held : AddressMap Entry → List (Address × Entry)
  /-- The aggregates. -/
  sums : AddressMap Aggregate → List (Address × Aggregate)
  /-- The entries of the blocks that it leaves. -/
  left : AddressMap Entry → List (Address × Entry)
  /-- No entry that it finds is left out or repeated. -/
  held_perm : ∀ table, (held table).Perm table.entries
  /-- No aggregate is left out or repeated. -/
  sums_perm : ∀ table, (sums table).Perm table.entries
  /-- No entry that it leaves is left out or repeated. -/
  left_perm : ∀ table, (left table).Perm table.entries

namespace Orders

/-- The order by ascending address in every table. -/
def ascending : Orders where
  held := (·.entries)
  sums := (·.entries)
  left := (·.entries)
  held_perm := fun _ => .refl _
  sums_perm := fun _ => .refl _
  left_perm := fun _ => .refl _

/-- The tables of a tick in these orders. -/
def traversal (o : Orders) (m : Monitor) (now : Instant) : Monitor.Traversal m now where
  held := o.held m.blocks.table
  sums := o.sums (m.window.prune now).aggregates
  left := o.left (m.ticked now).blocks.table
  held_perm := o.held_perm _
  sums_perm := o.sums_perm _
  left_perm := o.left_perm _

/-- The blocked sources in these orders. -/
def sources (o : Orders) (b : Blocks) : List Address := (o.held b.table).map (·.1)

/-- The sources whose block has expired in these orders. -/
def expired (o : Orders) (b : Blocks) (now : Instant) : List Address :=
  Blocks.expiredAmong (o.held b.table) now

theorem sources_perm (o : Orders) (b : Blocks) : (o.sources b).Perm b.table.sources :=
  (o.held_perm b.table).map _

theorem expired_perm (o : Orders) (b : Blocks) (now : Instant) :
    (o.expired b now).Perm (b.expired now) :=
  ((o.held_perm b.table).filter _).map _

/-- A release of all sources in any order leaves no entry. -/
theorem drop_sources (o : Orders) (b : Blocks) :
    b.drop (o.sources b) = { b with table := .empty } := by
  rw [b.drop_eq_of_perm (o.sources_perm b), b.drop_sources]

/-- A release of the expired sources in any order leaves the same entries. -/
theorem drop_expired (o : Orders) (b : Blocks) (now : Instant) :
    b.drop (o.expired b now) = b.drop (b.expired now) :=
  b.drop_eq_of_perm (o.expired_perm b now)

end Orders

/-! ## Ticks -/

namespace Monitor

section Tick

variable (E : Enforcer σ) (o : Orders) (m : Monitor) (now : Instant) (s : σ)

/-- The releases of a tick with given orders. -/
def releasesThrough : Outcome σ Blocks :=
  Blocks.releaseEach E .expired (o.expired m.blocks now) m.blocks s

/-- The requests of a tick with given orders, begun in the state in which its releases left the
firewall. -/
def requestsThrough : Outcome σ (List (Address × RequestOutcome) × Blocks) :=
  blockEach E now (m.culprits now) (m.settled now).blocks (m.releasesThrough E o now s).firewall

/-- **A tick with given orders** is its releases in their order, then its pruning, then its
requests, which come in the same order as ever. -/
theorem tickThrough_apply :
    m.tickThrough E now (o.traversal m now) s =
      ⟨(⟨o.expired m.blocks now, (m.requestsThrough E o now s).value.1,
          (m.ticked now).snapshot now (m.window.prune now).aggregates.entries⟩, m.ticked now),
        (m.requestsThrough E o now s).firewall,
        (m.releasesThrough E o now s).trace ++
          ((pruneEvents m.window now).map .event ++ (m.requestsThrough E o now s).trace)⟩ := by
  have hrelease : (Blocks.releaseEach E .expired
      (Blocks.expiredAmong (o.traversal m now).held now) m.blocks s).value =
        (m.settled now).blocks :=
    (Blocks.value_releaseEach ..).trans (o.drop_expired m.blocks now)
  have hoffenders := (o.traversal m now).offenders_sums
  simp only [settled] at hrelease hoffenders
  refine Outcome.ext (value_tickThrough E (o.traversal m now) s) ?_ ?_
  · simp only [tickThrough, Action.firewall_bind, Action.pure_apply, prune_apply, hrelease,
      hoffenders]
    rfl
  · simp only [tickThrough, Action.trace_bind, Action.pure_apply, prune_apply, hrelease,
      hoffenders, List.append_nil]
    rfl

/-- What a tick with given orders asks: the release of every expired block in their order, then a
block of every culprit. -/
theorem asked_tickThrough :
    asked (m.tickThrough E now (o.traversal m now) s).trace =
      (o.expired m.blocks now).map .remove ++ (m.culprits now).map (.add ·.source) := by
  have hreleases : asked (m.releasesThrough E o now s).trace =
      (o.expired m.blocks now).map .remove := Blocks.asked_releaseEach ..
  have hrequests : asked (m.requestsThrough E o now s).trace =
      (m.culprits now).map (.add ·.source) := by
    have hdistinct := (culprits_ascending m now).imp fun h => Address.ne_of_lt h
    refine (asked_blockEach E now hdistinct (fun c hc => ?_) _).1
    exact (isBlocked_settled m now c.source).mpr ((mem_culprits m now c).mp hc).1.free
  have hquiet : asked ((pruneEvents m.window now).map .event) = [] :=
    congrArg (List.map Prod.fst) (Emission.calls_map_event _)
  rw [tickThrough_apply, Emission.asked_append, Emission.asked_append, hreleases, hquiet,
    hrequests, List.nil_append]

end Tick

/-! ## Operations -/

/-- One operation that goes through its tables in given orders. -/
def operateThrough (E : Enforcer σ) (o : Orders) (m : Monitor) :
    Operation → Action σ (Answer × Monitor)
  | .tick now => do
    let (report, m) ← m.tickThrough E now (o.traversal m now)
    pure (.report report, m)
  | .releaseExpired now => do
    let blocks ← Blocks.releaseEach E .expired (o.expired m.blocks now) m.blocks
    pure (.released (o.expired m.blocks now), { m with blocks })
  | .releaseAll => do
    let blocks ← Blocks.releaseEach E .shutdown (o.sources m.blocks) m.blocks
    pure (.cleared (o.sources m.blocks).length, { m with blocks })
  | .reconcile => do
    let failures ← Blocks.assertEach E (o.sources m.blocks)
    pure (.refused failures, m)
  | .statuses now => pure (.shown (Blocks.statusesOf (o.held m.blocks.table) now), m)
  | op => m.operate E op

/-- What an operation with given orders asks of the firewall. -/
def demandsThrough (o : Orders) (m : Monitor) : Operation → List Call
  | .tick now =>
    (o.expired m.blocks now).map .remove ++ (m.culprits now).map (.add ·.source)
  | .releaseExpired now => (o.expired m.blocks now).map .remove
  | .releaseAll => (o.sources m.blocks).map .remove
  | .reconcile => (o.sources m.blocks).map .add
  | op => m.demands op

/-- **The monitor after an operation** depends on no order, and not on the answers of the
firewall. -/
theorem value_operateThrough (E : Enforcer σ) (o : Orders) (m : Monitor) (op : Operation) (s : σ) :
    (m.operateThrough E o op s).value.2 = m.next op := by
  cases op with
  | tick now => exact congrArg (·.value.2) (tickThrough_apply E o m now s)
  | releaseExpired now =>
    have hdrop := (Blocks.value_releaseEach E .expired (o.expired m.blocks now) m.blocks s).trans
      (o.drop_expired m.blocks now)
    exact congrArg (fun blocks => { m with blocks }) hdrop
  | releaseAll =>
    have hdrop := (Blocks.value_releaseEach E .shutdown (o.sources m.blocks) m.blocks s).trans
      (o.drop_sources m.blocks)
    exact congrArg (fun blocks => { m with blocks }) hdrop
  | reconcile | statuses now => rfl
  | _ => exact value_operate E m _ s

/-- **What an operation asks** with given orders does not depend on the answers of the firewall. -/
theorem asked_operateThrough (E : Enforcer σ) (o : Orders) (m : Monitor) (op : Operation) (s : σ) :
    asked (m.operateThrough E o op s).trace = m.demandsThrough o op := by
  cases op with
  | tick now => exact (congrArg asked (Action.trace_bind_pure ..)).trans (asked_tickThrough ..)
  | releaseExpired now | releaseAll =>
    exact (congrArg asked (Action.trace_bind_pure ..)).trans (Blocks.asked_releaseEach ..)
  | reconcile =>
    exact (congrArg asked (Action.trace_bind_pure ..)).trans (Blocks.asked_assertEach ..)
  | statuses now => rfl
  | _ => exact asked_operate E m _ s

/-- **An operation** goes through its tables by ascending address. -/
theorem operate_eq_operateThrough (E : Enforcer σ) (m : Monitor) (op : Operation) :
    m.operate E op = m.operateThrough E .ascending op := by
  cases op with
  | tick now =>
    simp only [operate, operateThrough, tick_eq_tickThrough]
    rfl
  | releaseExpired now =>
    -- the sources that are released are handed on once more, which leaves no trace
    funext s
    exact Outcome.ext rfl rfl (List.append_nil _)
  | releaseAll =>
    have hcount : (Orders.ascending.sources m.blocks).length = m.blocks.table.size :=
      List.length_map _
    funext s
    refine Outcome.ext (congrArg (fun n => (Answer.cleared n, _)) hcount.symm) rfl ?_
    exact List.append_nil _
  | _ => rfl

/-! ## Runs -/

/-- Operations performed one after another, each with its own orders. -/
def runThrough (E : Enforcer σ) : (Nat → Orders) → List Operation → Monitor → σ → Run σ
  | _, [], m, s => ⟨[], m, s⟩
  | o, op :: rest, m, s =>
    let out := m.operateThrough E (o 0) op s
    let later := runThrough E (fun k => o (k + 1)) rest out.value.2 out.firewall
    { later with steps := ⟨op, m, out.value.1, out.trace, out.value.2⟩ :: later.steps }

/-- **A run** goes through its tables by ascending address. -/
theorem run_eq_runThrough (E : Enforcer σ) (m : Monitor) (ops : List Operation) (s : σ) :
    m.run E ops s = m.runThrough E (fun _ => .ascending) ops s := by
  induction ops generalizing m s with
  | nil => rfl
  | cons op rest ih =>
    simp only [run, runThrough, operate_eq_operateThrough, ih]

end Monitor

end SourceGuard
