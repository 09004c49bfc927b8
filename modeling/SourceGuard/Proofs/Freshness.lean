import SourceGuard.Proofs.Config.Validity
import SourceGuard.Proofs.Watch
import SourceGuard.Setup

/-!
# What a released source starts from

While a source is blocked none of its packets is accounted, so all its records in the window were
seen by the tick that blocked it. If a block lasts longer than a record stays, they are gone when the
source is released, and it starts from nothing. If a block lasts exactly as long, one thing can go
wrong: a record seen at the very instant of the block is still inside the horizon at the very instant
at which the block expires. A tick at that instant releases the source, finds the record, and may
block the source again on traffic for which it was blocked before.

## Main definitions

* `Monitor.Sealed`: all records of a blocked source were seen by the tick that blocked it

## Main results

* `Monitor.sealed_next`: every happening keeps the records of blocked sources sealed
* `Monitor.left_of_sealed`: which records a released source has left
* `Monitor.fresh_watch`: what a released source starts from, in every run
* `Monitor.stale_at_deadline`: a source that is blocked again on its old traffic
-/

namespace SourceGuard

variable {σ : Type}

namespace Monitor

/-! ## Sealed records -/

/-- Every entry was made by one of some ticks, and all records of its source were seen by then. -/
def Sealed (m : Monitor) (ticks : List Happening) : Prop :=
  ∀ source e, m.blocks.table.get? source = some e →
    ∃ begun, .tick begun ∈ ticks ∧ e.expiry = begun + m.blocks.span ∧
      ∀ r ∈ m.window.recordsOf source, r.seen ≤ begun

variable {m : Monitor} {ticks : List Happening} {now : Instant} {later : List Instant}

/-- The length of a block stays as it is. -/
theorem span_next (m : Monitor) (op : Operation) : (m.next op).blocks.span = m.blocks.span := by
  rw [Blocks.span, Blocks.span, requested_next]

/-- A packet of a blocked source is not accounted, and one of another source is no record of it. -/
theorem sealed_ingest (h : m.Sealed ticks) (r : Record) : (m.ingest r).2.Sealed ticks := by
  intro source e he
  rw [blocks_ingest] at he ⊢
  obtain ⟨begun, hbegun, hexpiry, hseen⟩ := h source e he
  refine ⟨begun, hbegun, hexpiry, ?_⟩
  by_cases hsource : r.source = source
  · have hblocked : m.blocks.isBlocked r.source = true :=
      hsource ▸ (Blocks.isBlocked_iff ..).mpr ⟨e, he⟩
    rw [window_ingest, if_pos hblocked]
    exact hseen
  · rw [recordsOf_ingest_of_ne hsource]
    exact hseen

/-- A tick keeps an entry or makes one, and no record was seen after the tick. -/
theorem sealed_ticked (h : m.Sealed ticks) (hwindow : m.window.Precedes (now :: later))
    (hnow : .tick now ∈ ticks) : (m.ticked now).Sealed ticks := by
  intro source e he
  have hspan : (m.ticked now).blocks.span = m.blocks.span := span_next m (.tick now)
  have hleft : ∀ r ∈ (m.window.prune now).recordsOf source, r ∈ m.window.recordsOf source :=
    fun r hr => (Window.recordsOf_prune_suffix m.window now source).mem hr
  rcases (get?_ticked m now source e).mp he with ⟨hold, -⟩ | ⟨-, rfl⟩
  · obtain ⟨begun, hbegun, hexpiry, hseen⟩ := h source e hold
    exact ⟨begun, hbegun, hspan ▸ hexpiry, fun r hr => hseen r (hleft r hr)⟩
  · refine ⟨now, hnow, hspan ▸ rfl, fun r hr => ?_⟩
    exact hwindow.seen_le (List.mem_filter.mp (hleft r hr)).1 List.mem_cons_self

/-- **Every happening** keeps the records of blocked sources sealed. -/
theorem sealed_next {x : Happening} (h : m.Sealed ticks)
    (hwindow : m.window.Precedes (x.instant :: later)) (hx : x ∈ ticks) :
    (m.next x.operation).Sealed ticks := by
  cases x with
  | packet r => exact sealed_ingest h r
  | tick now => exact sealed_ticked h hwindow hx

/-- **In every run** the records of blocked sources are sealed, and the instants to come after the run
come after all records. -/
theorem sealed_watch (E : Enforcer σ) {hs : List Happening}
    (hclock : (hs.map (·.instant) ++ later).Pairwise (· ≤ ·)) (c : Config) (s : σ) :
    ((ofConfig c).watch E hs s).monitor.Sealed hs ∧
      ((ofConfig c).watch E hs s).monitor.window.Precedes later := by
  let P := fun (m : Monitor) (rest : List Happening) =>
    m.Sealed hs ∧ m.window.Precedes (rest.map (·.instant) ++ later) ∧ rest ⊆ hs
  have hstart : P (ofConfig c) hs := by
    refine ⟨fun source e he => ?_, Window.precedes_empty hclock _ _, List.Subset.refl hs⟩
    rw [table_ofConfig, AddressMap.get?_empty] at he
    cases he
  have hstep : ∀ m x rest, P m (x :: rest) → P (m.next x.operation) rest := by
    rintro m x rest ⟨hsealed, hwindow, hsub⟩
    have hx : x ∈ hs := hsub List.mem_cons_self
    refine ⟨sealed_next hsealed hwindow hx, precedes_next_of_instants hwindow, ?_⟩
    exact fun y hy => hsub (List.mem_cons_of_mem x hy)
  obtain ⟨hsealed, hwindow, -⟩ := watch_induction E hstep hstart s
  exact ⟨hsealed, hwindow⟩

/-! ## Released sources -/

/-- Where a block lasts at least as long as a record stays, the deadline of the block and the horizon
of the window leave one instant between them at most. -/
theorem deadline_meets_horizon {seen begun now : Int} {stay block : Nat} (hspan : stay ≤ block)
    (hseen : seen ≤ begun) (hdeadline : begun + block ≤ now) (hhorizon : now - stay ≤ seen) :
    seen = begun ∧ now = begun + block ∧ stay = block := by
  refine ⟨?_, ?_, ?_⟩ <;> omega

/-- **The records that a released source has left**, where a block lasts at least as long as a record
stays: all were seen at the instant of its block, and then it is released at the instant at which the
block expires, and blocks last exactly as long as records stay. -/
theorem left_of_sealed {begun : Instant} {block : Span} {source : Address}
    (hwindow : m.window.Precedes later) (hspan : m.window.span ≤ block)
    (hseen : ∀ r ∈ m.window.recordsOf source, r.seen ≤ begun) (hexpired : begun + block ≤ now)
    {r : Record} (hr : r ∈ (m.window.prune now).recordsOf source) :
    r.seen = begun ∧ now = begun + block ∧ m.window.span = block := by
  rw [hwindow.recordsOf_prune] at hr
  obtain ⟨hmem, hinside⟩ := List.mem_filter.mp hr
  exact deadline_meets_horizon hspan (hseen r hmem) hexpired (of_decide_eq_true hinside)

/-- A source that a tick lists as blocked has a record left. -/
theorem notMem_blocked_of_recordsOf_eq_nil (E : Enforcer σ) {source : Address}
    (h : (m.window.prune now).recordsOf source = []) (s : σ) :
    source ∉ (m.tick E now s).value.1.blocked.map (·.1) :=
  fun hlisted => ((mem_map_blocked_tick E m now s source).mp hlisted).seen h

/-- **What a released source starts from**, if a block lasts at least as long as a record stays and
nothing is seen out of time. Its block was begun by an earlier tick, and what it has left in the
window was seen at the instant of that tick. It has something left only if it is released at the very
instant at which its block expires and blocks last exactly as long as records stay; in all other
cases it starts from nothing, and is not blocked again. -/
theorem fresh_watch (c : Config) (hvalid : c.isValid = true)
    (hlong : c.monitor.windowSeconds ≤ c.monitor.blockSeconds) (E : Enforcer σ)
    (hs : List Happening) (now : Instant)
    (hclock : (hs.map (·.instant) ++ [now]).Pairwise (· ≤ ·)) (s : σ) (source : Address) :
    let run := (ofConfig c).watch E hs s
    let out := run.monitor.tick E now run.firewall
    source ∈ out.value.1.released →
      ∃ begun, .tick begun ∈ hs ∧ begun + c.blockSpan ≤ now ∧
        (∃ reason, run.monitor.blocks.table.get? source = some ⟨begun + c.blockSpan, reason⟩) ∧
        (∀ r ∈ out.value.2.window.recordsOf source,
          r.seen = begun ∧ now = begun + c.blockSpan ∧
            c.monitor.windowSeconds = c.monitor.blockSeconds) ∧
        (c.monitor.windowSeconds < c.monitor.blockSeconds ∨ begun + c.blockSpan < now →
          out.value.2.window.recordsOf source = [] ∧ source ∉ out.value.1.blocked.map (·.1)) := by
  intro run out hreleased
  obtain ⟨hsealed, hwindow⟩ := sealed_watch E hclock c s
  have hsettings : run.monitor.settings = (ofConfig c).settings := settings_run E _ _ s
  have hspan : run.monitor.window.span = c.windowSpan := congrArg Settings.span hsettings
  have hblock : run.monitor.blocks.span = c.blockSpan := by
    have hrequested : run.monitor.blocks.requested = c.blockSpan :=
      congrArg Settings.requested hsettings
    rw [Blocks.span, hrequested, Config.min_blockSpan hvalid]
  have hreport := value_tick E run.monitor now run.firewall
  have hafter : out.value.2.window = run.monitor.window.prune now := by
    rw [hreport]
    rfl
  -- the entry of the source has expired, and its records were sealed when it was made
  rw [hreport] at hreleased
  obtain ⟨e, he, hexpired⟩ := (Blocks.mem_expired _ now source).mp hreleased
  obtain ⟨begun, hbegun, hexpiry, hseen⟩ := hsealed source e he
  rw [hblock] at hexpiry
  rw [hexpiry] at hexpired
  have hlength : c.windowSpan ≤ c.blockSpan :=
    Nat.mul_le_mul_right _ (UInt64.le_iff_toNat_le.mp hlong)
  have hleft : ∀ r ∈ out.value.2.window.recordsOf source,
      r.seen = begun ∧ now = begun + c.blockSpan ∧
        c.monitor.windowSeconds = c.monitor.blockSeconds := by
    intro r hr
    rw [hafter] at hr
    obtain ⟨hat, hdeadline, hequal⟩ := left_of_sealed hwindow (hspan ▸ hlength) hseen hexpired hr
    rw [hspan] at hequal
    refine ⟨hat, hdeadline, UInt64.toNat_inj.mp ?_⟩
    exact Nat.eq_of_mul_eq_mul_right (by decide) hequal
  refine ⟨begun, hbegun, hexpired, ⟨e.reason, ?_⟩, hleft, fun hcase => ?_⟩
  · rw [he, ← hexpiry]
  · have hnone : out.value.2.window.recordsOf source = [] := by
      refine List.eq_nil_iff_forall_not_mem.mpr fun r hr => ?_
      obtain ⟨-, hdeadline, hequal⟩ := hleft r hr
      rcases hcase with hshort | hlate
      · exact UInt64.lt_irrefl _ (hequal ▸ hshort)
      · exact Int.lt_irrefl _ (hdeadline ▸ hlate)
    exact ⟨hnone, notMem_blocked_of_recordsOf_eq_nil E (hafter ▸ hnone) run.firewall⟩

/-- Blocks of thirty-one seconds before a window of thirty: a source that goes on sending while it is
blocked starts from nothing when it is released. -/
theorem fresh_watch_of_longer_block :
    let c : Config := { monitor := { blockSeconds := 31 } }
    let E := Enforcer.refusing "recorder" fun _ => some (.rejected "block" "exit status: 4" "denied")
    let source := Address.v4 0x0a000001
    let hs : List Happening :=
      [.packet ⟨source, 20001, 0⟩, .tick 0, .packet ⟨source, 20001, 30999999999⟩]
    let run := (ofConfig c).watch E hs ()
    let out := run.monitor.tick E 31000000000 run.firewall
    c.isValid = true ∧ c.monitor.windowSeconds ≤ c.monitor.blockSeconds ∧
      (hs.map Happening.instant ++ [31000000000]).Pairwise (· ≤ ·) ∧ source ∈ out.value.1.released ∧
        out.value.2.window.recordsOf source = [] ∧ source ∉ out.value.1.blocked.map (·.1) := by
  intro c E source hs run out
  have hvalid : c.isValid = true := by decide +kernel
  have hlonger : c.monitor.windowSeconds < c.monitor.blockSeconds := by decide +kernel
  have hlong := UInt64.le_of_lt hlonger
  have hclock : (hs.map Happening.instant ++ [31000000000]).Pairwise (· ≤ ·) := by decide +kernel
  have hreleased : source ∈ out.value.1.released := by decide +kernel
  obtain ⟨begun, -, -, -, -, hfresh⟩ :=
    fresh_watch c hvalid hlong E hs 31000000000 hclock () source hreleased
  exact ⟨hvalid, hlong, hclock, hreleased, hfresh (Or.inl hlonger)⟩

/-- **A source that is blocked again on its old traffic**, with the default configuration, about
which no warning is given: a packet and a tick at one instant, and a tick when the block expires. The
second tick releases the source, finds the packet on the horizon, and blocks the source for it. -/
theorem stale_at_deadline :
    let c : Config := {}
    let source := Address.v4 0x0a000001
    let hs : List Happening := [.packet ⟨source, 20001, 0⟩, .tick 0]
    let run := (ofConfig c).watch Enforcer.dryRun hs ()
    let out := run.monitor.tick Enforcer.dryRun 30000000000 run.firewall
    c.isValid = true ∧ c.monitor.windowSeconds ≤ c.monitor.blockSeconds ∧ c.blockWarning = [] ∧
      (hs.map Happening.instant ++ [30000000000]).Pairwise (· ≤ ·) ∧ source ∈ out.value.1.released ∧
        out.value.2.window.recordsOf source = [⟨source, 20001, 0⟩] ∧
          source ∈ out.value.1.blocked.map (·.1) := by
  decide +kernel

end Monitor

end SourceGuard
