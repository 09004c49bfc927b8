import SourceGuard.Proofs.Totals

/-!
# How the sources stand after a tick

A tick shows the sources from three sides: the blocks that last on, how each source with traffic
stands, and its numbers. All three are of the monitor that the tick leaves: a source that was
released has no block any more, one that was blocked in this very tick has one already, whether the
firewall accepted it or not, and a violation that is not shown as a block is one of a source that
may not be blocked.

A tick leaves nothing to do for another one at the same instant: every entry lasts on, nothing that
is left in the window is stale, and every source that violates has an entry or is spared. So ticking
again does nothing at all.

## Main definitions

* `Row.Agrees`: a row agrees with a monitor and with the blocks that are listed

## Main results

* `Blocks.mem_statuses`: the statuses that a table has
* `Monitor.agrees_of_mem_rows`: the rows of a tick agree with what it leaves
* `Monitor.agreeing_tick`: so does all that a tick shows
* `Monitor.tick_of_settled`: a tick that finds nothing to do does nothing
* `Monitor.tick_again`: a tick leaves nothing to do at the same instant
-/

namespace SourceGuard

variable {σ : Type}

/-! ## Rows and blocks -/

/-- A row agrees with a monitor and with the blocks that are listed. -/
structure Row.Agrees (row : Row) (m : Monitor) (listed : List BlockStatus) : Prop where
  /-- The numbers of the row are those of its source in the window. -/
  sum : m.window.aggregates.get? row.source = some row.sum
  /-- It is shown as blocked exactly if its source has an entry. -/
  held : (∃ seconds, row.status = .blocked seconds) ↔ m.blocks.isBlocked row.source = true
  /-- It is shown with the seconds with which its source is listed. -/
  listed : ∀ seconds, row.status = .blocked seconds ↔
    ∃ item ∈ listed, item.source = row.source ∧ item.seconds = seconds
  /-- Without an entry it is a warning exactly if some rule is close to firing. -/
  warning : m.blocks.isBlocked row.source = false →
    (row.status = .warning ↔ ∃ rule ∈ m.rules.rules, rule.approaching row.sum = true)
  /-- Otherwise there is nothing to report. -/
  ok : m.blocks.isBlocked row.source = false →
    (row.status = .ok ↔ ∀ rule ∈ m.rules.rules, rule.approaching row.sum = false)
  /-- If it violates the rules and is not shown as blocked, its source may not be blocked. -/
  spared : (∀ seconds, row.status ≠ .blocked seconds) → m.rules.Violates row.sum →
    m.policy.isEligible row.source = false

/-- **The statuses of a table** are those of its entries. -/
theorem Blocks.mem_statuses (b : Blocks) (now : Instant) (item : BlockStatus) :
    item ∈ b.statuses now ↔ ∃ e, b.table.get? item.source = some e ∧
      item.seconds = e.secondsLeft now ∧ item.reason = e.reason := by
  rw [(b.perm_statuses now).mem_iff, List.mem_map]
  simp only [AddressMap.get?_eq_some_iff]
  constructor
  · rintro ⟨⟨source, e⟩, hmem, rfl⟩
    exact ⟨e, hmem, rfl, rfl⟩
  · rintro ⟨e, hmem, hseconds, hreason⟩
    refine ⟨(item.source, e), hmem, ?_⟩
    rw [← hseconds, ← hreason]

namespace Monitor

variable {m : Monitor} {now : Instant} {row : Row}

/-- A row is shown as blocked for the time that the entry of its source has left. -/
theorem status_eq_blocked_iff (m : Monitor) (now : Instant) (entry : Address × Aggregate)
    (seconds : Nat) : m.status now entry = .blocked seconds ↔
      ∃ e, m.blocks.table.get? entry.1 = some e ∧ e.secondsLeft now = seconds := by
  unfold status
  cases m.blocks.table.get? entry.1 with
  | none => cases m.rules.approaching entry.2 <;> simp
  | some e => simp

/-- Without an entry the rules decide how a source stands. -/
theorem status_of_not_isBlocked {entry : Address × Aggregate}
    (h : m.blocks.isBlocked entry.1 = false) (now : Instant) :
    m.status now entry = if m.rules.approaching entry.2 then .warning else .ok := by
  rw [status, (Blocks.isBlocked_eq_false_iff _ _).mp h]

theorem status_eq_warning_iff {entry : Address × Aggregate}
    (h : m.blocks.isBlocked entry.1 = false) (now : Instant) :
    m.status now entry = .warning ↔ ∃ rule ∈ m.rules.rules, rule.approaching entry.2 = true := by
  rw [status_of_not_isBlocked h, ← List.any_eq_true, ← RuleSet.approaching]
  cases m.rules.approaching entry.2 <;> simp

theorem status_eq_ok_iff {entry : Address × Aggregate}
    (h : m.blocks.isBlocked entry.1 = false) (now : Instant) :
    m.status now entry = .ok ↔ ∀ rule ∈ m.rules.rules, rule.approaching entry.2 = false := by
  simp only [← Bool.not_eq_true]
  rw [status_of_not_isBlocked h, ← List.any_eq_false, ← RuleSet.approaching]
  cases m.rules.approaching entry.2 <;> simp

/-- **The rows of a tick** agree with the monitor that it leaves and with the blocks that it lists. -/
theorem agrees_of_mem_rows
    (h : row ∈ ((m.ticked now).snapshot now (m.window.prune now).aggregates.entries).rows) :
    row.Agrees (m.ticked now) ((m.ticked now).blocks.statuses now) := by
  let after := m.ticked now
  obtain ⟨hmem, hstatus⟩ := mem_sums_of_mem_rows h
  have hblocked : ∀ seconds, row.status = .blocked seconds ↔
      ∃ e, after.blocks.table.get? row.source = some e ∧ e.secondsLeft now = seconds :=
    fun seconds => hstatus ▸ status_eq_blocked_iff after now (row.source, row.sum) seconds
  exact {
    sum := (AddressMap.get?_eq_some_iff _).mpr hmem
    held := by
      rw [Blocks.isBlocked_iff]
      constructor
      · rintro ⟨seconds, hseconds⟩
        obtain ⟨e, he, -⟩ := (hblocked seconds).mp hseconds
        exact ⟨e, he⟩
      · rintro ⟨e, he⟩
        exact ⟨_, (hblocked _).mpr ⟨e, he, rfl⟩⟩
    listed := by
      intro seconds
      rw [hblocked]
      constructor
      · rintro ⟨e, he, hseconds⟩
        exact ⟨⟨row.source, seconds, e.reason⟩,
          (Blocks.mem_statuses _ now _).mpr ⟨e, he, hseconds.symm, rfl⟩, rfl, rfl⟩
      · rintro ⟨item, hitem, hsource, rfl⟩
        obtain ⟨e, he, hseconds, -⟩ := (Blocks.mem_statuses _ now item).mp hitem
        exact ⟨e, hsource ▸ he, hseconds.symm⟩
    warning := fun hfree => hstatus ▸ status_eq_warning_iff hfree now
    ok := fun hfree => hstatus ▸ status_eq_ok_iff hfree now
    spared := by
      intro hshown hviolates
      have hfree : after.blocks.isBlocked row.source = false := by
        rw [Blocks.isBlocked_eq_false_iff, Option.eq_none_iff_forall_ne_some]
        exact fun e he => hshown _ ((hblocked _).mpr ⟨e, he, rfl⟩)
      obtain ⟨hseen, hown⟩ := (Window.mem_aggregates _ _ _).mp hmem
      -- otherwise the tick would have blocked it
      obtain ⟨hopen, hnot⟩ := free_of_isBlocked_ticked hfree
      rw [← Bool.not_eq_true]
      exact fun heligible => hnot ⟨hseen, heligible, hopen, hown ▸ hviolates⟩ }

/-- A source that a tick blocks is shown as blocked by it, for as long as a block lasts. -/
theorem exists_row_of_isCulprit {source : Address} (h : m.IsCulprit now source) :
    ∃ row ∈ ((m.ticked now).snapshot now (m.window.prune now).aggregates.entries).rows,
      row.source = source ∧ row.status = .blocked m.blocks.span.wholeSeconds := by
  let sum := (m.window.prune now).sum source
  have hentry : (m.ticked now).blocks.table.get? source = some (m.sentence now source) :=
    (get?_ticked m now source _).mpr (Or.inr ⟨h, rfl⟩)
  have hleft : (m.sentence now source).secondsLeft now = m.blocks.span.wholeSeconds := by
    have huntil : Instant.until now (now + m.blocks.span) = m.blocks.span := by
      rw [Instant.until, Int.add_comm, Int.add_sub_cancel, Int.toNat_natCast]
    exact congrArg Span.wholeSeconds huntil
  refine ⟨(m.ticked now).row now (source, sum), ?_, rfl, ?_⟩
  · exact (mem_rows_snapshot ..).mpr
      ⟨_, (Window.mem_aggregates _ source sum).mpr ⟨h.seen, rfl⟩, rfl⟩
  · exact (status_eq_blocked_iff ..).mpr ⟨_, hentry, hleft⟩

/-- **What a tick shows agrees with the monitor that it leaves**, whatever the firewall answers. The
blocks that it lists are one for each entry, with its reason and the whole seconds that it has left;
every row agrees with the entries and with that list; and the sources blocked in this very tick are
among those shown as blocked. -/
theorem agreeing_tick (E : Enforcer σ) (m : Monitor) (now : Instant) (s : σ) :
    let report := (m.tick E now s).value.1
    let after := (m.tick E now s).value.2
    let shown := report.snapshot
    shown.blocked.Perm (after.blocks.table.entries.map fun (source, e) =>
        ⟨source, (e.expiry - now).toNat / 1000000000, e.reason⟩) ∧
      (∀ row ∈ shown.rows, row.Agrees after shown.blocked) ∧
      ∀ x ∈ report.blocked, ∃ row ∈ shown.rows, row.source = x.1 ∧
        row.status = .blocked (min m.blocks.requested Blocks.longest).wholeSeconds := by
  intro report after shown
  have hculprits : ∀ x ∈ report.blocked, m.IsCulprit now x.1 := fun x hx =>
    (mem_map_blocked_tick E m now s x.1).mp (List.mem_map_of_mem hx)
  have hvalue := value_tick E m now s
  have hafter : after = m.ticked now := congrArg (·.2) hvalue
  have hshown : shown = (m.ticked now).snapshot now (m.window.prune now).aggregates.entries :=
    congrArg (·.1.snapshot) hvalue
  rw [hafter, hshown]
  exact ⟨(m.ticked now).blocks.perm_statuses now, fun row hrow => agrees_of_mem_rows hrow,
    fun x hx => exists_row_of_isCulprit (hculprits x hx)⟩

/-! ## Ticking again -/

/-- A tick leaves no entry that has expired. -/
theorem expired_ticked (hpos : 0 < m.blocks.requested) :
    (m.ticked now).blocks.expired now = [] := by
  refine List.eq_nil_iff_forall_not_mem.mpr fun source hmem => ?_
  obtain ⟨e, he, hexpired⟩ := (Blocks.mem_expired ..).mp hmem
  exact Int.not_lt.mpr hexpired (lt_expiry_ticked hpos he)

/-- What a tick leaves in the window, pruning it again leaves. -/
theorem prune_window_ticked (m : Monitor) (now : Instant) :
    (m.ticked now).window.prune now = (m.ticked now).window :=
  Window.prune_prune_of_le (Int.le_refl now) m.window

/-- **A tick leaves no culprit**: a source that violates and may be blocked has an entry now. -/
theorem culprits_ticked (hpos : 0 < m.blocks.requested) : (m.ticked now).culprits now = [] := by
  refine List.eq_nil_iff_forall_not_mem.mpr fun o ho => ?_
  obtain ⟨hculprit, -⟩ := (mem_culprits ..).mp ho
  have hfree : (m.ticked now).blocks.isBlocked o.source = false := by
    rw [Blocks.isBlocked_eq_false_iff, Option.eq_none_iff_forall_ne_some]
    exact fun e he => Int.not_lt.mpr (hculprit.free e he) (lt_expiry_ticked hpos he)
  -- it sees the same window as the tick before, so it was a culprit of that one
  obtain ⟨hopen, hnot⟩ := free_of_isBlocked_ticked hfree
  obtain ⟨hseen, heligible, -, hviolates⟩ := hculprit
  rw [prune_window_ticked] at hseen hviolates
  exact hnot ⟨hseen, heligible, hopen, hviolates⟩

/-- **A tick that finds nothing to do does nothing**: if no entry has expired, no record is stale and
there is no culprit, it shows the monitor and leaves it as it is, and the firewall too. -/
theorem tick_of_settled (E : Enforcer σ) (hexpired : m.blocks.expired now = [])
    (hprune : m.window.prune now = m.window) (hculprits : m.culprits now = []) (s : σ) :
    m.tick E now s =
      ⟨(⟨[], [], m.snapshot now m.window.aggregates.entries⟩, m), s, []⟩ := by
  have hsettled : m.settled now = m := by
    rw [settled, hexpired, hprune, Blocks.drop_nil]
  have hticked : m.ticked now = m := by
    rw [ticked, hculprits, hsettled]
    rfl
  have hreleases : m.blocks.releaseExpired E now s = ⟨([], m.blocks), s, []⟩ := by
    rw [Blocks.releaseExpired, hexpired]
    rfl
  have hrequests : m.requests E now s = ⟨([], m.blocks), s, []⟩ := by
    rw [requests, hculprits, hsettled, hreleases]
    rfl
  have hquiet : pruneEvents m.window now = [] := by
    rw [pruneEvents, Window.evicted_of_prune_eq hprune, if_neg (Nat.lt_irrefl 0)]
  obtain ⟨hfirewall, htrace⟩ := firewall_trace_tick E m now s
  have hvalue := value_tick E m now s
  rw [hexpired, hrequests, hticked, hprune] at hvalue
  rw [hrequests] at hfirewall
  rw [hreleases, hrequests, hquiet] at htrace
  exact congr (congrArg₂ Outcome.mk hvalue hfirewall) htrace

/-- **A tick leaves nothing to do.** Blocks last for some time at all; then a second tick at the same
instant releases nothing, blocks nothing and drops no record, it neither calls the firewall nor logs
anything, it leaves the monitor as it is, and it shows the same. -/
theorem tick_again (E : Enforcer σ) (m : Monitor) (now : Instant) (s : σ)
    (hpos : 0 < m.blocks.requested) :
    let first := m.tick E now s
    let after := first.value.2
    after.tick E now first.firewall =
        ⟨(⟨[], [], first.value.1.snapshot⟩, after), first.firewall, []⟩ ∧
      after.window.evicted now = 0 := by
  intro first after
  have hvalue := value_tick E m now s
  have hafter : after = m.ticked now := congrArg (·.2) hvalue
  have hshown : first.value.1.snapshot = after.snapshot now after.window.aggregates.entries := by
    rw [hafter]
    exact congrArg (·.1.snapshot) hvalue
  have hprune : after.window.prune now = after.window := by
    rw [hafter, prune_window_ticked]
  refine ⟨?_, Window.evicted_of_prune_eq hprune⟩
  rw [hshown]
  refine tick_of_settled E ?_ hprune ?_ first.firewall
  · rw [hafter, expired_ticked hpos]
  · rw [hafter, culprits_ticked hpos]

/-- A tick that drops a record, releases two sources, of which it blocks one again, and is refused
every call: the second one finds the new entry and nothing else to do. -/
theorem tick_again_after_refusals :
    let E := Enforcer.refusing "recorder" fun _ => some (.rejected "block" "exit status: 4" "denied")
    let a := Address.v4 0x0a000001
    let b := Address.v6 1
    let m : Monitor :=
      { window := { span := 10, band := default, latest := [⟨a, 200, 9⟩, ⟨b, 60, 8⟩, ⟨b, 200, 0⟩] }
        rules := ⟨.any, [Rule.volume 100]⟩, policy := {}
        blocks :=
          { requested := 1
            table := (AddressMap.empty.insert b ⟨12, "volume"⟩).insert a ⟨7, "manual"⟩ } }
    let first := m.tick E 12 ()
    let after := first.value.2
    0 < m.blocks.requested ∧
      Emission.asked first.trace = [.remove a, .remove b, .add a] ∧
      after.blocks.table.entries = [(a, ⟨13, "volume"⟩)] ∧
      after.window.records = [⟨b, 60, 8⟩, ⟨a, 200, 9⟩] ∧
      after.tick E 12 first.firewall =
        ⟨(⟨[], [], first.value.1.snapshot⟩, after), first.firewall, []⟩ ∧
      after.window.evicted 12 = 0 :=
  ⟨by decide, by decide +kernel, by decide +kernel, by decide +kernel,
    tick_again _ _ 12 () (by decide)⟩

end Monitor

end SourceGuard
