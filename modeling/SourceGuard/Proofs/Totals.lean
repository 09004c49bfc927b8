import Mathlib.Data.List.Forall2
import SourceGuard.Proofs.Evaluation
import SourceGuard.Proofs.Snapshot
import SourceGuard.Proofs.Sums

/-!
# From records to totals

What a tick shows is added up twice: the records of each source to an aggregate, and then the rows of
all sources, the busiest first, to totals. Both sums are taken in 64 bits. Grouping the records by
their sources only rearranges them, so the totals are what all records add up to, in whatever order
the rows are shown. Fewer than `2 ^ 32` records have fewer than `2 ^ 64` bytes, so then every number
on the way is exact.

An aggregate does not depend on the order of its records. The order of the window decides what a
pruning drops, but only through the records outside the horizon: if those keep their places, the
others may change theirs, and the tick does and shows the same.

## Main definitions

* `Aggregate.Counts`: an aggregate is exact for records
* `Row.sum`, `Totals.sum`: the numbers of a row, and the totals
* `Window.Rearranged`: two windows that differ in the order of records inside the horizon

## Main results

* `Aggregate.counts_ofRecords`: fewer than `2 ^ 32` records are counted exactly
* `Window.perm_flatMap_recordsOf`: the records grouped by source
* `Totals.sum_ofRows`: the totals of rows are what all their records add up to
* `Window.Rearranged.aggregates_prune`: the order of records inside the horizon leaves no mark
* `Monitor.lossless_tick`: the numbers of a tick
-/

namespace SourceGuard

variable {σ : Type}

namespace Aggregate

variable {band : SizeBand} {records records' : List Record}

/-! ## Exact numbers -/

/-- An aggregate is exact for records: their number, the sum of their lengths, and the number of
those whose length lies strictly between the bounds of a band. -/
structure Counts (a : Aggregate) (band : SizeBand) (records : List Record) : Prop where
  /-- The number of records. -/
  packets : a.packets.toNat = records.length
  /-- The sum of their lengths. -/
  bytes : a.bytes.toNat = (records.map (·.size.toNat)).sum
  /-- The number of those in the band. -/
  matching : a.matching.toNat = records.countP fun r =>
    band.above.toNat < r.size.toNat ∧ r.size.toNat < band.below.toNat

/-- No record is longer than 32 bits can tell. -/
theorem volume_le (records : List Record) : volume records ≤ records.length * (2 ^ 32 - 1) := by
  induction records with
  | nil => exact Nat.le_refl 0
  | cons r rest ih =>
    have hsize := r.size.toNat_lt
    simp only [volume, List.map_cons, List.sum_cons, List.length_cons, Nat.add_mul] at ih ⊢
    omega

/-- **The bytes of fewer than `2 ^ 32` records** fit in 64 bits. -/
theorem volume_lt (hfew : records.length < 2 ^ 32) : volume records < 2 ^ 64 := by
  have hbytes := volume_le records
  omega

theorem hits_eq (band : SizeBand) (records : List Record) :
    hits band records = records.countP fun r =>
      band.above.toNat < r.size.toNat ∧ r.size.toNat < band.below.toNat := by
  refine List.countP_congr fun r _ => ?_
  simp only [SizeBand.contains, Bool.and_eq_true, decide_eq_true_eq, UInt32.lt_iff_toNat_lt]

/-- **Fewer than `2 ^ 32` records** are counted exactly. -/
theorem counts_ofRecords (band : SizeBand) (hfew : records.length < 2 ^ 32) :
    (ofRecords band records).Counts band records where
  packets := by
    rw [ofRecords, toNat_packets_foldl, UInt64.toNat_zero, Nat.zero_add]
    exact Nat.mod_eq_of_lt (by omega)
  bytes := toNat_bytes_ofRecords (volume_lt hfew)
  matching := by rw [toNat_matching_ofRecords (volume_lt hfew), hits_eq]

/-- **An aggregate does not depend on the order of its records.** -/
theorem ofRecords_perm (band : SizeBand) (h : records.Perm records') :
    ofRecords band records = ofRecords band records' := by
  have hvolume : volume records = volume records' := (h.map _).sum_nat
  rw [ofRecords_eq, ofRecords_eq, h.length_eq, hvolume, hits, h.countP_eq, ← hits]

/-- What records and more records add up to is the sum of both. -/
theorem ofRecords_append (band : SizeBand) (records records' : List Record) :
    let a := ofRecords band records
    let b := ofRecords band records'
    ofRecords band (records ++ records') =
      ⟨a.packets + b.packets, a.bytes + b.bytes, a.matching + b.matching⟩ := by
  simp only [ofRecords_eq, volume, hits, List.length_append, List.map_append, List.sum_append,
    List.countP_append, UInt64.ofNat_add]

end Aggregate

/-! ## Rows and totals -/

/-- The numbers of a row. -/
def Row.sum (row : Row) : Aggregate := ⟨row.packets, row.bytes, row.matching⟩

/-- The totals, as what one aggregate would be. -/
def Totals.sum (t : Totals) : Aggregate := ⟨t.packets, t.bytes, t.matching⟩

open Aggregate (ofRecords)

namespace Totals

variable {band : SizeBand} {t : Totals} {row : Row}

theorem sum_add {before own : List Record} (ht : t.sum = ofRecords band before)
    (hrow : row.sum = ofRecords band own) : (t.add row).sum = ofRecords band (before ++ own) := by
  rw [Aggregate.ofRecords_append, ← ht, ← hrow]
  rfl

theorem sum_foldl {own : Row → List Record} {rows : List Row}
    (hrows : ∀ row ∈ rows, row.sum = ofRecords band (own row)) {before : List Record}
    (ht : t.sum = ofRecords band before) :
    (rows.foldl add t).sum = ofRecords band (before ++ rows.flatMap own) := by
  induction rows generalizing t before with
  | nil => rw [List.foldl_nil, List.flatMap_nil, List.append_nil, ht]
  | cons row rest ih =>
    obtain ⟨hrow, hrest⟩ := List.forall_mem_cons.mp hrows
    rw [List.foldl_cons, ih hrest (sum_add ht hrow), List.flatMap_cons, List.append_assoc]

/-- **The totals of rows** are what all their records add up to. -/
theorem sum_ofRows {own : Row → List Record} {rows : List Row}
    (hrows : ∀ row ∈ rows, row.sum = ofRecords band (own row)) :
    (ofRows rows).sum = ofRecords band (rows.flatMap own) := by
  have hnothing : ({} : Totals).sum = ofRecords band [] := rfl
  rw [ofRows, sum_foldl hrows hnothing, List.nil_append]

end Totals

/-! ## Records by source -/

/-- **Grouping records by their sources** rearranges them, if every source has one group. -/
theorem perm_flatMap_filter {sources : List Address} (hnodup : sources.Nodup)
    {records : List Record} (hcover : ∀ r ∈ records, r.source ∈ sources) :
    (sources.flatMap fun source => records.filter fun r => r.source = source).Perm records := by
  induction sources generalizing records with
  | nil =>
    have hnone : records = [] := List.eq_nil_iff_forall_not_mem.mpr fun r hr =>
      List.not_mem_nil (hcover r hr)
    rw [hnone]
    exact .nil
  | cons source rest ih =>
    obtain ⟨hhead, htail⟩ := List.nodup_cons.mp hnodup
    -- the first source takes its records, and the groups of the rest are groups of the others
    let others := records.filter fun r => !decide (r.source = source)
    have hothers : ∀ r ∈ others, r.source ∈ rest := by
      intro r hr
      obtain ⟨hmem, hne⟩ := List.mem_filter.mp hr
      exact (List.mem_cons.mp (hcover r hmem)).resolve_left (by simpa using hne)
    have hgroups : (rest.flatMap fun other => others.filter fun r => r.source = other) =
        rest.flatMap fun other => records.filter fun r => r.source = other := by
      refine List.flatMap_congr fun other hother => ?_
      rw [List.filter_filter]
      refine List.filter_congr fun r _ => ?_
      by_cases h : r.source = other
      · have hne : other ≠ source := fun heq => hhead (heq ▸ hother)
        simp [h, hne]
      · simp [h]
    rw [List.flatMap_cons, ← hgroups]
    exact ((ih htail hothers).append_left _).trans (List.filter_append_perm _ _)

namespace Window

variable {w w' : Window} {now : Instant}

/-- A source has an aggregate exactly if it has a record. -/
theorem mem_sources_aggregates (w : Window) (source : Address) :
    source ∈ w.aggregates.sources ↔ ∃ r ∈ w.records, r.source = source := by
  rw [AddressMap.mem_sources, AddressMap.contains, get?_aggregates]
  by_cases h : w.recordsOf source = []
  · have hnone : ∀ r ∈ w.records, r.source ≠ source := by
      simpa [recordsOf, List.filter_eq_nil_iff] using h
    rw [if_pos h]
    refine iff_of_false Bool.false_ne_true ?_
    rintro ⟨r, hr, hsource⟩
    exact hnone r hr hsource
  · obtain ⟨r, hr⟩ := List.exists_mem_of_ne_nil _ h
    obtain ⟨hmem, hsource⟩ := List.mem_filter.mp hr
    rw [if_neg h]
    exact iff_of_true rfl ⟨r, hmem, of_decide_eq_true hsource⟩

/-- **The records of a window**, grouped by the sources that have any. -/
theorem perm_flatMap_recordsOf (w : Window) {sources : List Address}
    (h : sources.Perm w.aggregates.sources) : (sources.flatMap w.recordsOf).Perm w.records := by
  have hnodup : w.aggregates.sources.Nodup :=
    w.aggregates.sources_ascending.imp fun hlt => Address.ne_of_lt hlt
  refine perm_flatMap_filter (h.nodup_iff.mpr hnodup) fun r hr => ?_
  exact h.mem_iff.mpr ((mem_sources_aggregates w r.source).mpr ⟨r, hr, rfl⟩)

/-! ## The order of the records -/

/-- Windows with the same band and the same records, in any order, have the same aggregates. -/
theorem aggregates_perm (hband : w'.band = w.band) (h : w'.records.Perm w.records) :
    w'.aggregates = w.aggregates := by
  refine AddressMap.ext_get? fun source => ?_
  have hown : (w'.recordsOf source).Perm (w.recordsOf source) := h.filter _
  have hnone : w'.recordsOf source = [] ↔ w.recordsOf source = [] := by
    rw [← List.length_eq_zero_iff, hown.length_eq, List.length_eq_zero_iff]
  rw [get?_aggregates, get?_aggregates, sum, sum, hband, Aggregate.ofRecords_perm _ hown]
  simp only [hnone]

/-- Two windows that hold the same records and differ in nothing but the order of records that are
inside the horizon at an instant. -/
structure Rearranged (now : Instant) (w w' : Window) : Prop where
  /-- The spans agree. -/
  span : w'.span = w.span
  /-- The bands agree. -/
  band : w'.band = w.band
  /-- The records agree, in some order. -/
  perm : w'.records.Perm w.records
  /-- Only records inside the horizon change their places. -/
  inside : List.Forall₂
    (fun r r' => r = r' ∨ now - w.span ≤ r.seen ∧ now - w.span ≤ r'.seen) w.records w'.records

namespace Rearranged

/-- A pruning drops the same records of both. -/
theorem takeWhile_isStale {records records' : List Record} (h : List.Forall₂
      (fun r r' => r = r' ∨ now - w.span ≤ r.seen ∧ now - w.span ≤ r'.seen) records records') :
    records.takeWhile (w.isStale now) = records'.takeWhile (w.isStale now) := by
  induction h with
  | nil => rfl
  | @cons r r' rest rest' hr _ ih =>
    rcases hr with rfl | ⟨hr, hr'⟩
    · rw [List.takeWhile_cons, List.takeWhile_cons, ih]
    · -- a record inside the horizon stops the pruning
      have hfresh : ¬ w.isStale now r = true := by simpa [isStale] using hr
      have hfresh' : ¬ w.isStale now r' = true := by simpa [isStale] using hr'
      rw [List.takeWhile_cons_of_neg hfresh, List.takeWhile_cons_of_neg hfresh']

/-- A pruning leaves the same records of both, in some order. -/
theorem perm_prune (h : Rearranged now w w') :
    (w'.prune now).records.Perm (w.prune now).records := by
  have hstale : w'.isStale now = w.isStale now :=
    funext fun r => by rw [isStale, isStale, h.span]
  have hdropped : w'.records.takeWhile (w'.isStale now) = w.records.takeWhile (w.isStale now) := by
    rw [hstale, takeWhile_isStale h.inside]
  have hperm := h.perm
  rw [← takeWhile_append_records_prune w' now, ← takeWhile_append_records_prune w now,
    hdropped] at hperm
  exact (List.perm_append_left_iff _).mp hperm

/-- **The order of records inside the horizon leaves no mark** on the aggregates after a pruning. -/
theorem aggregates_prune (h : Rearranged now w w') :
    (w'.prune now).aggregates = (w.prune now).aggregates :=
  aggregates_perm h.band h.perm_prune

end Rearranged

end Window

namespace Monitor

/-! ## The numbers of a tick -/

theorem map_source_rows (m : Monitor) (now : Instant) (sums : AddressMap Aggregate) :
    ((m.snapshot now sums.entries).rows.map (·.source)).Perm sums.sources := by
  have hrows := (perm_rows_snapshot m now sums.entries).map (·.source)
  rwa [List.map_map] at hrows

/-- A row shows the aggregate of its source, and how the source stands with that. -/
theorem mem_sums_of_mem_rows {m : Monitor} {now : Instant} {sums : List (Address × Aggregate)}
    {row : Row} (h : row ∈ (m.snapshot now sums).rows) :
    (row.source, row.sum) ∈ sums ∧ row.status = m.status now (row.source, row.sum) := by
  obtain ⟨entry, hmem, rfl⟩ := (mem_rows_snapshot m now _ row).mp h
  exact ⟨hmem, rfl⟩

/-- The row of a source shows what its records add up to. -/
theorem sum_of_mem_rows {m : Monitor} {now : Instant} {w : Window} {row : Row}
    (h : row ∈ (m.snapshot now w.aggregates.entries).rows) : row.sum = w.sum row.source :=
  ((Window.mem_aggregates w _ _).mp (mem_sums_of_mem_rows h).1).2

/-- **The totals of a snapshot** are what all records of the window add up to. -/
theorem sum_totals (m : Monitor) (now : Instant) (w : Window) :
    (m.snapshot now w.aggregates.entries).totals.sum = ofRecords w.band w.records := by
  let rows := (m.snapshot now w.aggregates.entries).rows
  have hrows : ∀ row ∈ rows, row.sum = ofRecords w.band (w.recordsOf row.source) :=
    fun row hrow => sum_of_mem_rows hrow
  have hgrouped : (rows.flatMap fun row => w.recordsOf row.source).Perm w.records := by
    rw [← List.flatMap_map]
    exact w.perm_flatMap_recordsOf (map_source_rows m now w.aggregates)
  exact (Totals.sum_ofRows hrows).trans (Aggregate.ofRecords_perm w.band hgrouped)

/-- **A tick does not see the order** of records that are inside the horizon. -/
theorem report_rearranged (E : Enforcer σ) {m : Monitor} {now : Instant} {w' : Window}
    (h : Window.Rearranged now m.window w') (s : σ) :
    ({ m with window := w' }.tick E now s).value.1 = (m.tick E now s).value.1 := by
  let m' : Monitor := { m with window := w' }
  have hsums : (w'.prune now).aggregates = (m.window.prune now).aggregates := h.aggregates_prune
  have hculprits : m'.culprits now = m.culprits now := by
    change (m.settled now).offenders (w'.prune now).aggregates.entries = _
    rw [hsums]
    rfl
  have hrequests : m'.requests E now s = m.requests E now s := by
    rw [requests, hculprits]
    rfl
  -- the snapshot takes the length of the window from its span, and all else from elsewhere
  have hticked : m'.ticked now = { m.ticked now with window := w'.prune now } := by
    rw [ticked, hculprits]
    rfl
  have hshown : (m'.ticked now).snapshot now (w'.prune now).aggregates.entries =
      (m.ticked now).snapshot now (m.window.prune now).aggregates.entries := by
    rw [hticked, hsums]
    exact congrArg (fun span : Span => Snapshot.make 0 span.wholeSeconds _ _ _) h.span
  rw [value_tick, value_tick, hrequests, hshown]

/-- **From the window to the report nothing is lost, counted twice or wrapped.** If a tick leaves
fewer than `2 ^ 32` records in the window, the numbers of a report all fit in 64 bits: there is one
aggregate and one row for each source with a record, both exact for the records of the source, and
the totals are exact for all records. Records that are inside the horizon may be in any order. -/
theorem lossless_tick (E : Enforcer σ) (m : Monitor) (now : Instant) (s : σ)
    (hfew : (m.window.prune now).size < 2 ^ 32) :
    let w := m.window.prune now
    let report := (m.tick E now s).value.1
    let shown := report.snapshot
    (m.tick E now s).value.2.window = w ∧ Aggregate.volume w.records < 2 ^ 64 ∧
      (∀ source, w.aggregates.contains source = true ↔ ∃ r ∈ w.records, r.source = source) ∧
      (∀ source a, (source, a) ∈ w.aggregates.entries →
        a.Counts w.band (w.records.filter fun r => r.source = source)) ∧
      ((shown.rows.map (·.source)).Nodup ∧
        ∀ source, source ∈ shown.rows.map (·.source) ↔ ∃ r ∈ w.records, r.source = source) ∧
      (∀ row ∈ shown.rows,
        row.sum.Counts w.band (w.records.filter fun r => r.source = row.source)) ∧
      shown.totals.sum.Counts w.band w.records ∧
      ∀ w', Window.Rearranged now m.window w' →
        (w'.prune now).aggregates = w.aggregates ∧
          ({ m with window := w' }.tick E now s).value.1 = report := by
  intro w report shown
  have hall : w.records.length < 2 ^ 32 := w.length_records ▸ hfew
  have hown : ∀ source, (w.sum source).Counts w.band (w.recordsOf source) := fun source =>
    Aggregate.counts_ofRecords w.band
      (Nat.lt_of_le_of_lt (List.length_filter_le _ w.records) hall)
  have hvalue := value_tick E m now s
  have hshown : shown = (m.ticked now).snapshot now w.aggregates.entries :=
    congrArg (·.1.snapshot) hvalue
  have hsources : (shown.rows.map (·.source)).Perm w.aggregates.sources :=
    hshown ▸ map_source_rows (m.ticked now) now w.aggregates
  refine ⟨congrArg (·.2.window) hvalue, Aggregate.volume_lt hall, fun source => ?_,
    fun source a ha => ?_, ⟨?_, fun source => ?_⟩, fun row hrow => ?_, ?_, fun w' h => ?_⟩
  · rw [← AddressMap.mem_sources, Window.mem_sources_aggregates]
  · obtain ⟨-, rfl⟩ := (Window.mem_aggregates w source a).mp ha
    exact hown source
  · refine hsources.nodup_iff.mpr ?_
    exact w.aggregates.sources_ascending.imp fun hlt => Address.ne_of_lt hlt
  · rw [hsources.mem_iff, Window.mem_sources_aggregates]
  · rw [sum_of_mem_rows (hshown ▸ hrow)]
    exact hown row.source
  · rw [hshown, sum_totals]
    exact Aggregate.counts_ofRecords w.band hall
  · exact ⟨h.aggregates_prune, report_rearranged E h s⟩

/-- Records of two families of addresses, one of them as long as can be, behind one that is outside
the horizon, and the same records in another order, with that one still in front. -/
theorem lossless_tick_of_mixed :
    let E := Enforcer.refusing "recorder" fun _ => some (.rejected "block" "exit status: 4" "denied")
    let a := Address.v4 0x0a000001
    let b := Address.v6 1
    let old : Record := ⟨a, 200, 0⟩
    let m : Monitor :=
      { window :=
          { span := 10, band := ⟨110, 130⟩
            latest := [⟨b, 129, 12⟩, ⟨a, 110, 8⟩, ⟨a, 4294967295, 3⟩, ⟨b, 120, 5⟩, old] }
        rules := ⟨.any, [Rule.volume 300]⟩, policy := {}, blocks := { requested := 40 } }
    let w' : Window :=
      { m.window with
        latest := [⟨a, 4294967295, 3⟩, ⟨b, 120, 5⟩, ⟨b, 129, 12⟩, ⟨a, 110, 8⟩, old] }
    let report := (m.tick E 12 ()).value.1
    ((m.window.prune 12).size < 2 ^ 32 ∧ Window.Rearranged 12 m.window w') ∧
      (m.window.prune 12).records =
        [⟨b, 120, 5⟩, ⟨a, 4294967295, 3⟩, ⟨a, 110, 8⟩, ⟨b, 129, 12⟩] ∧
      (m.window.prune 12).aggregates.entries = [(a, ⟨2, 4294967405, 0⟩), (b, ⟨2, 249, 2⟩)] ∧
      (a ∈ report.snapshot.rows.map (·.source) ∧ b ∈ report.snapshot.rows.map (·.source)) ∧
      report.snapshot.totals.sum.Counts ⟨110, 130⟩ (m.window.prune 12).records ∧
      ({ m with window := w' }.tick E 12 ()).value.1 = report := by
  intro E a b old m w' report
  have hfew : (m.window.prune 12).size < 2 ^ 32 := by decide
  have hrearranged : Window.Rearranged 12 m.window w' := ⟨rfl, rfl, by decide, by decide⟩
  obtain ⟨-, -, -, -, ⟨-, hrows⟩, -, hcounts, hsame⟩ := lossless_tick E m 12 () hfew
  exact ⟨⟨hfew, hrearranged⟩, by decide, by decide,
    ⟨(hrows a).mpr (by decide), (hrows b).mpr (by decide)⟩, hcounts, (hsame w' hrearranged).2⟩

end Monitor

end SourceGuard
