import SourceGuard.Proofs.Snapshot
import SourceGuard.Proofs.Watch
import SourceGuard.Setup

/-!
# Sources do not touch each other

All sources share one window, which is pruned at its head, one table and one report. Still, what is
seen of a source depends on its own packets and on the ticks alone, as long as packets arrive in time
order: leaving out the packets of all other sources changes nothing about it. So two runs in which a
source behaves the same show the same of it, whatever the others send and the firewalls answer.

## Main definitions

* `Sight`, `Glimpse`: what a tick and what a step show of a source
* `Happening.concerns`: the ticks and the packets of a source
* `Monitor.SameFor`: two monitors that a source cannot tell apart

## Main results

* `Monitor.SameFor.sight`: ticks of such monitors show the same of the source
* `Monitor.glimpses_watch`: the packets of other sources can be left out
* `Monitor.isolated_watch`: two runs with the same happenings for a source show the same of it
-/

namespace SourceGuard

variable {σ τ : Type}

/-! ## What is seen of a source -/

/-- What a tick does to a source and shows of it. -/
structure Sight where
  /-- The tick released it. -/
  released : Bool
  /-- The tick blocked it. -/
  listed : Bool
  /-- What its records in the window add up to. -/
  sum : Option Aggregate
  /-- Its rows in the snapshot, with its status. -/
  rows : List Row
  /-- Its blocks in the snapshot. -/
  statuses : List BlockStatus
  /-- Its entry after the tick, with expiry and reason. -/
  entry : Option Entry
deriving DecidableEq

/-- What a step shows of a source. -/
inductive Glimpse where
  /-- A packet of the source, and whether it was accounted. -/
  | packet (r : Record) (accepted : Bool)
  /-- A tick, and what it does to the source and shows of it. -/
  | tick (now : Instant) (sight : Sight)
deriving DecidableEq

/-- What a step shows of a source, if it has to do with it. -/
def Step.glimpse? (step : Step) (source : Address) : Option Glimpse :=
  match step.operation, step.answer with
  | .ingest r, .accounted accepted => if r.source = source then some (.packet r accepted) else none
  | .tick now, .report report =>
    some (.tick now
      { released := report.released.contains source
        listed := (report.blocked.map (·.1)).contains source
        sum := step.after.window.aggregates.get? source
        rows := report.snapshot.rows.filter fun x => x.source = source
        statuses := report.snapshot.blocked.filter fun x => x.source = source
        entry := step.after.blocks.table.get? source })
  | _, _ => none

/-- What a run shows of a source, step by step. -/
def Run.glimpses (run : Run σ) (source : Address) : List Glimpse :=
  run.steps.filterMap (·.glimpse? source)

/-- The happenings that have to do with a source: its packets, and all ticks. -/
def Happening.concerns (source : Address) : Happening → Bool
  | packet r => r.source = source
  | tick _ => true

namespace Monitor

/-- What a tick of a monitor does to a source and shows of it. -/
def sight (m : Monitor) (now : Instant) (source : Address) : Sight where
  released := (m.blocks.expired now).contains source
  listed := ((m.culprits now).map (·.source)).contains source
  sum := (m.window.prune now).aggregates.get? source
  rows := (((m.window.prune now).aggregates.get? source).map fun a =>
    (m.ticked now).row now (source, a)).toList
  statuses := (((m.ticked now).blocks.table.get? source).map fun e =>
    ⟨source, e.secondsLeft now, e.reason⟩).toList
  entry := (m.ticked now).blocks.table.get? source

/-- What a happening shows of a source, if it has to do with it. -/
def glimpse? (m : Monitor) (source : Address) : Happening → Option Glimpse
  | .packet r => if r.source = source then some (.packet r (m.ingest r).1) else none
  | .tick now => some (.tick now (m.sight now source))

/-- **A step** shows what its happening shows to the monitor before it. -/
theorem glimpse?_operate (E : Enforcer σ) (m : Monitor) (x : Happening) (s : σ) (source : Address) :
    let out := m.operate E x.operation s
    Step.glimpse? ⟨x.operation, m, out.value.1, out.trace, out.value.2⟩ source =
      m.glimpse? source x := by
  cases x with
  | packet r => rfl
  | tick now =>
    -- the report of the tick and the monitor after it are functions of the monitor before it
    have htick := value_tick E m now s
    have hlisted : (m.requests E now s).value.1.map (·.1) = (m.culprits now).map (·.source) :=
      (value_blockEach ..).2
    change Step.glimpse? ⟨.tick now, m, .report (m.tick E now s).value.1, _,
      (m.tick E now s).value.2⟩ source = _
    simp only [Step.glimpse?, htick, hlisted, rows_snapshot, blocked_snapshot]
    rfl

/-- A happening that does not concern a source shows nothing of it. -/
theorem glimpse?_of_not_concerns {x : Happening} {source : Address}
    (h : ¬ x.concerns source = true) (m : Monitor) : m.glimpse? source x = none := by
  cases x with
  | packet r => exact if_neg (by simpa [Happening.concerns] using h)
  | tick now => exact absurd rfl h

/-- What a run shows is what its first happening shows, then what the others show. -/
theorem glimpses_watch_cons (E : Enforcer σ) (m : Monitor) (x : Happening) (hs : List Happening)
    (s : σ) (source : Address) :
    (m.watch E (x :: hs) s).glimpses source =
      (m.glimpse? source x).toList ++
        ((m.next x.operation).watch E hs (m.operate E x.operation s).firewall).glimpses source := by
  rw [← glimpse?_operate E m x s source, ← value_operate E m x.operation s]
  exact filterMap_cons_toList _ _ _

/-! ## Monitors that a source cannot tell apart -/

/-- Two monitors with the same settings that hold the same of a source. -/
structure SameFor (source : Address) (m m' : Monitor) : Prop where
  /-- The settings agree. -/
  settings : m.settings = m'.settings
  /-- The records of the source agree. -/
  records : m.window.recordsOf source = m'.window.recordsOf source
  /-- The entries of the source agree. -/
  entry : m.blocks.table.get? source = m'.blocks.table.get? source

namespace SameFor

variable {source : Address} {m m' : Monitor} {later later' : List Instant}

protected theorem refl (source : Address) (m : Monitor) : m.SameFor source m := ⟨rfl, rfl, rfl⟩

theorem isBlocked (h : m.SameFor source m') :
    m.blocks.isBlocked source = m'.blocks.isBlocked source :=
  congrArg Option.isSome h.entry

/-- A packet of the source is accounted by both or by neither. -/
theorem ingest (h : m.SameFor source m') {r : Record} (hr : r.source = source) :
    (m.ingest r).1 = (m'.ingest r).1 ∧ (m.ingest r).2.SameFor source (m'.ingest r).2 := by
  have hblocked : m.blocks.isBlocked r.source = m'.blocks.isBlocked r.source := hr ▸ h.isBlocked
  refine ⟨by rw [accepted_ingest, accepted_ingest, hblocked], ?_, ?_, ?_⟩
  · exact (settings_next m (.ingest r)).trans (h.settings.trans (settings_next m' (.ingest r)).symm)
  · rw [window_ingest, window_ingest, hblocked]
    split
    · exact h.records
    · rw [Window.recordsOf_append, Window.recordsOf_append, h.records]
  · rw [blocks_ingest, blocks_ingest, h.entry]

/-- A packet of another source makes no difference. -/
theorem ingest_of_ne (h : m.SameFor source m') {r : Record} (hr : r.source ≠ source) :
    (m.ingest r).2.SameFor source m' where
  settings := (settings_next m (.ingest r)).trans h.settings
  records := (recordsOf_ingest_of_ne hr m).trans h.records
  entry := by rw [blocks_ingest, h.entry]

variable (h : m.SameFor source m') (hm : m.window.Precedes later) (hm' : m'.window.Precedes later')
  (now : Instant)

include h hm hm'

/-- **In time order, pruning leaves the same records** of the source, whatever others there are. -/
theorem recordsOf_prune :
    (m.window.prune now).recordsOf source = (m'.window.prune now).recordsOf source := by
  have hspan : m.window.span = m'.window.span := congrArg Settings.span h.settings
  rw [hm.recordsOf_prune, hm'.recordsOf_prune, h.records, hspan]

theorem sum_prune : (m.window.prune now).sum source = (m'.window.prune now).sum source := by
  have hband : m.window.band = m'.window.band := congrArg Settings.band h.settings
  change Aggregate.ofRecords m.window.band _ = Aggregate.ofRecords m'.window.band _
  rw [h.recordsOf_prune hm hm' now, hband]

theorem get?_aggregates :
    (m.window.prune now).aggregates.get? source = (m'.window.prune now).aggregates.get? source := by
  rw [Window.get?_aggregates, Window.get?_aggregates, h.recordsOf_prune hm hm' now,
    h.sum_prune hm hm' now]

/-- The source is a culprit in both or in neither. -/
theorem isCulprit_iff : m.IsCulprit now source ↔ m'.IsCulprit now source := by
  have hrecords := h.recordsOf_prune hm hm' now
  have hsum := h.sum_prune hm hm' now
  have hrules : m.rules = m'.rules := congrArg Settings.rules h.settings
  have hpolicy : m.policy = m'.policy := congrArg Settings.policy h.settings
  constructor
  · intro hculprit
    exact ⟨hrecords ▸ hculprit.seen, hpolicy ▸ hculprit.eligible, h.entry ▸ hculprit.free,
      hrules ▸ hsum ▸ hculprit.violates⟩
  · intro hculprit
    exact ⟨hrecords ▸ hculprit.seen, hpolicy ▸ hculprit.eligible, h.entry ▸ hculprit.free,
      hrules ▸ hsum ▸ hculprit.violates⟩

theorem sentence : m.sentence now source = m'.sentence now source := by
  have hrules : m.rules = m'.rules := congrArg Settings.rules h.settings
  have hrequested : m.blocks.requested = m'.blocks.requested :=
    congrArg Settings.requested h.settings
  simp only [Monitor.sentence, Blocks.entryAt, Blocks.span, h.sum_prune hm hm' now, hrules,
    hrequested]

/-- **The entry of the source after a tick** is the same in both. -/
theorem get?_ticked :
    (m.ticked now).blocks.table.get? source = (m'.ticked now).blocks.table.get? source := by
  refine Option.ext fun e => ?_
  rw [Monitor.get?_ticked, Monitor.get?_ticked, h.entry, h.isCulprit_iff hm hm' now,
    h.sentence hm hm' now]

theorem ticked : (m.ticked now).SameFor source (m'.ticked now) where
  settings :=
    (settings_next m (.tick now)).trans (h.settings.trans (settings_next m' (.tick now)).symm)
  records := h.recordsOf_prune hm hm' now
  entry := h.get?_ticked hm hm' now

/-- **Ticks of such monitors** do the same to the source and show the same of it. -/
theorem sight : m.sight now source = m'.sight now source := by
  have hexpired : source ∈ m.blocks.expired now ↔ source ∈ m'.blocks.expired now := by
    rw [Blocks.mem_expired, Blocks.mem_expired, h.entry]
  have hlisted : source ∈ (m.culprits now).map (·.source) ↔
      source ∈ (m'.culprits now).map (·.source) := by
    rw [mem_map_source_culprits, mem_map_source_culprits, h.isCulprit_iff hm hm' now]
  have hentry := h.get?_ticked hm hm' now
  have hrules : (m.ticked now).rules = (m'.ticked now).rules := congrArg Settings.rules h.settings
  have hrow : ∀ a, (m.ticked now).row now (source, a) = (m'.ticked now).row now (source, a) := by
    intro a
    simp only [row, status, hentry, hrules]
  simp only [Monitor.sight, hentry, hrow, h.get?_aggregates hm hm' now]
  congr 1
  · exact Bool.eq_iff_iff.mpr (by simpa using hexpired)
  · exact Bool.eq_iff_iff.mpr (by simpa using hlisted)

end SameFor

/-! ## Leaving out the other sources -/

/-- **The packets of other sources can be left out**: what is seen of a source stays the same, if the
packets arrive in time order. -/
theorem glimpses_watch (E : Enforcer σ) (E' : Enforcer τ) {source : Address} {m m' : Monitor}
    {hs : List Happening} (h : m.SameFor source m')
    (hm : m.window.Precedes (hs.filterMap (·.arrival?)))
    (hm' : m'.window.Precedes ((hs.filter (·.concerns source)).filterMap (·.arrival?))) (s : σ)
    (s' : τ) :
    (m.watch E hs s).glimpses source =
      (m'.watch E' (hs.filter (·.concerns source)) s').glimpses source := by
  induction hs generalizing m m' s s' with
  | nil => rfl
  | cons x rest ih =>
    have hnext := precedes_next hm
    rw [glimpses_watch_cons]
    by_cases hx : x.concerns source = true
    · rw [List.filter_cons_of_pos hx] at hm' ⊢
      have hnext' := precedes_next hm'
      rw [glimpses_watch_cons]
      cases x with
      | packet r =>
        have hr : r.source = source := by simpa [Happening.concerns] using hx
        obtain ⟨haccepted, hsame⟩ := h.ingest hr
        simp only [glimpse?, haccepted]
        exact congrArg _ (ih hsame hnext hnext' _ _)
      | tick now =>
        simp only [glimpse?, h.sight hm hm' now]
        exact congrArg _ (ih (h.ticked hm hm' now) hnext hnext' _ _)
    · -- only a packet of another source does not concern this one, and the second run goes without
      rw [List.filter_cons_of_neg hx] at hm' ⊢
      rw [glimpse?_of_not_concerns hx]
      cases x with
      | packet r =>
        have hr : r.source ≠ source := by simpa [Happening.concerns] using hx
        exact ih (h.ingest_of_ne hr) hnext hm' _ _
      | tick now => exact absurd rfl hx

/-- **Sources are isolated**: two runs of a configured monitor with the same ticks and, between them,
the same packets of a source show the same of that source, step by step, whatever packets of other
sources arrive in time order and whatever the firewalls answer. -/
theorem isolated_watch (c : Config) (E : Enforcer σ) (E' : Enforcer τ) (source : Address)
    (hs hs' : List Happening) (horder : (hs.filterMap (·.arrival?)).Pairwise (· ≤ ·))
    (horder' : (hs'.filterMap (·.arrival?)).Pairwise (· ≤ ·))
    (hsame : hs.filter (·.concerns source) = hs'.filter (·.concerns source)) (s : σ) (s' : τ) :
    ((ofConfig c).watch E hs s).glimpses source = ((ofConfig c).watch E' hs' s').glimpses source := by
  have halone : (ofConfig c).window.Precedes
      ((hs.filter (·.concerns source)).filterMap (·.arrival?)) :=
    Window.precedes_empty (horder.sublist (List.filter_sublist.filterMap _)) _ _
  have hrefl := SameFor.refl source (ofConfig c)
  -- both runs show what a run of the source alone shows
  have hfirst := glimpses_watch E E' hrefl (Window.precedes_empty horder _ _) halone s s'
  rw [hsame] at hfirst halone
  have hsecond := glimpses_watch E' E' hrefl (Window.precedes_empty horder' _ _) halone s' s'
  rw [hfirst, hsecond]

/-- A source that is blocked at the first tick and released at the second, once alone before a
firewall that refuses everything, and once among packets of another source. -/
theorem isolated_watch_in_company :
    let E := Enforcer.refusing "recorder" fun _ => some (.rejected "block" "exit status: 4" "denied")
    let source := Address.v4 0x0a000001
    let other := Address.v4 0x0a000002
    let hs : List Happening := [.packet ⟨source, 20001, 0⟩, .tick 1, .packet ⟨source, 60, 2⟩,
      .tick 30000000001, .packet ⟨source, 60, 30000000001⟩]
    let hs' : List Happening := [.packet ⟨other, 120, 0⟩, .packet ⟨source, 20001, 0⟩,
      .packet ⟨other, 120, 1⟩, .tick 1, .packet ⟨other, 99, 1⟩, .packet ⟨source, 60, 2⟩,
      .tick 30000000001, .packet ⟨source, 60, 30000000001⟩, .packet ⟨other, 99, 30000000001⟩]
    let run := (ofConfig {}).watch E hs ()
    let run' := (ofConfig {}).watch Enforcer.dryRun hs' ()
    (hs.filterMap (·.arrival?)).Pairwise (· ≤ ·) ∧ (hs'.filterMap (·.arrival?)).Pairwise (· ≤ ·) ∧
      hs.filter (·.concerns source) = hs'.filter (·.concerns source) ∧
      ((run.glimpses source).map fun
        | .packet _ accepted => (accepted, false)
        | .tick _ sight => (sight.released, sight.listed)) =
        [(true, false), (false, true), (false, false), (true, false), (true, false)] ∧
      run.glimpses source = run'.glimpses source :=
  ⟨by decide +kernel, by decide +kernel, by decide +kernel, by decide +kernel,
    isolated_watch {} _ _ _ _ _ (by decide +kernel) (by decide +kernel) (by decide +kernel) () ()⟩

end Monitor

end SourceGuard
