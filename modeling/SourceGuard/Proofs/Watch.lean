import SourceGuard.Proofs.Horizon
import SourceGuard.Proofs.Run

/-!
# Watching

A monitor that is left to itself watches: packets arrive, and it ticks. What holds of the packets to
come, such as that they arrive in time order, is passed on from the monitor before one of them to the
monitor after it, and so on to the end of the run. What the monitor was set to never changes.

## Main definitions

* `Happening`: a packet or a tick
* `Monitor.watch`: a run of packets and ticks
* `Monitor.Settings`: what a monitor is set to

## Main results

* `Monitor.settings_run`: a run leaves the settings as they are
* `Monitor.watch_induction`: what each happening passes on holds in the end
* `Monitor.precedes_next`, `Monitor.precedes_next_of_instants`: time order is passed on
-/

namespace SourceGuard

variable {σ : Type}

/-! ## Happenings -/

/-- What happens to a monitor that watches. -/
inductive Happening where
  /-- A packet arrives. -/
  | packet (r : Record)
  /-- The monitor evaluates. -/
  | tick (now : Instant)
deriving DecidableEq

namespace Happening

/-- The operation that a happening is. -/
def operation : Happening → Operation
  | packet r => .ingest r
  | tick now => .tick now

/-- When a happening takes place: a packet is seen, or a tick is made. -/
def instant : Happening → Instant
  | packet r => r.seen
  | tick now => now

/-- When a packet was seen. -/
def arrival? : Happening → Option Instant
  | packet r => some r.seen
  | tick _ => none

end Happening

namespace Monitor

/-- A run of packets and ticks. -/
def watch (E : Enforcer σ) (m : Monitor) (hs : List Happening) (s : σ) : Run σ :=
  m.run E (hs.map (·.operation)) s

/-- **What each happening passes on** from the monitor before it to the monitor after it holds when
all have happened. -/
theorem watch_induction (E : Enforcer σ) {P : Monitor → List Happening → Prop}
    (hstep : ∀ m x rest, P m (x :: rest) → P (m.next x.operation) rest) {m : Monitor}
    {hs : List Happening} (h : P m hs) (s : σ) : P (m.watch E hs s).monitor [] := by
  induction hs generalizing m s with
  | nil => exact h
  | cons x rest ih =>
    have hnext := value_operate E m x.operation s
    exact ih (hnext ▸ hstep m x rest h) _

/-! ## Settings -/

/-- What a monitor is set to. -/
structure Settings where
  /-- How long a record stays in the window. -/
  span : Span
  /-- The lengths counted as matching. -/
  band : SizeBand
  /-- When a source violates. -/
  rules : RuleSet
  /-- Who may be blocked. -/
  policy : SourcePolicy
  /-- How long a block was asked to last. -/
  requested : Span

/-- The settings of a monitor. -/
def settings (m : Monitor) : Settings where
  span := m.window.span
  band := m.window.band
  rules := m.rules
  policy := m.policy
  requested := m.blocks.requested

/-- An operation leaves the settings as they are. -/
@[simp] theorem settings_next (m : Monitor) (op : Operation) :
    (m.next op).settings = m.settings := by
  have hrequested := requested_next m op
  cases op with
  | ingest r =>
    change (m.ingest r).2.settings = m.settings
    unfold ingest
    split <;> rfl
  | tick now | request source now reason =>
    exact congrArg (Settings.mk m.window.span m.window.band m.rules m.policy) hrequested
  | _ => rfl

/-- **A run leaves the settings as they are.** -/
theorem settings_run (E : Enforcer σ) (m : Monitor) (ops : List Operation) (s : σ) :
    (m.run E ops s).monitor.settings = m.settings := by
  induction ops generalizing m s with
  | nil => rfl
  | cons op rest ih =>
    have hnext := value_operate E m op s
    exact (ih _ _).trans (hnext ▸ settings_next m op)

/-! ## Packets -/

/-- A packet leaves the blocks as they are. -/
@[simp] theorem blocks_ingest (m : Monitor) (r : Record) : (m.ingest r).2.blocks = m.blocks := by
  unfold ingest
  split <;> rfl

/-- A packet is accounted exactly if its source has no entry. -/
theorem accepted_ingest (m : Monitor) (r : Record) :
    (m.ingest r).1 = !m.blocks.isBlocked r.source := by
  unfold ingest
  split <;> simp [*]

theorem window_ingest (m : Monitor) (r : Record) :
    (m.ingest r).2.window =
      if m.blocks.isBlocked r.source then m.window else m.window.append r := by
  unfold ingest
  split <;> rfl

/-- A packet of another source leaves the records of a source as they are. -/
theorem recordsOf_ingest_of_ne {r : Record} {source : Address} (h : r.source ≠ source)
    (m : Monitor) : (m.ingest r).2.window.recordsOf source = m.window.recordsOf source := by
  rw [window_ingest]
  split
  · rfl
  · exact Window.recordsOf_append_of_ne h m.window

/-! ## Time order -/

variable {m : Monitor} {later : List Instant}

theorem precedes_ingest {r : Record} (h : m.window.Precedes (r.seen :: later)) :
    (m.ingest r).2.window.Precedes later := by
  rw [window_ingest]
  split
  · exact h.tail
  · exact h.append

/-- **Packets in time order** stay so, one after another. -/
theorem precedes_next {x : Happening} {rest : List Happening}
    (h : m.window.Precedes ((x :: rest).filterMap (·.arrival?))) :
    (m.next x.operation).window.Precedes (rest.filterMap (·.arrival?)) := by
  cases x with
  | packet r => exact precedes_ingest h
  | tick now => exact h.prune now

/-- **Packets and ticks in time order** stay so, one after another. -/
theorem precedes_next_of_instants {x : Happening} {rest : List Happening}
    (h : m.window.Precedes ((x :: rest).map (·.instant) ++ later)) :
    (m.next x.operation).window.Precedes (rest.map (·.instant) ++ later) := by
  cases x with
  | packet r => exact precedes_ingest h
  | tick now => exact h.tail.prune now

end Monitor

end SourceGuard
