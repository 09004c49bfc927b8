import SourceGuard.Proofs.Sums

/-!
# The window and its history

A window forgets as it goes: every pruning drops a head of its records, and the next one starts from
what is left. Nothing is lost by that. A record that an earlier pruning dropped would have been
dropped by the next one in any case, and a record that stays shields the same records behind it. So
pruning leaves what it would have left of the whole history, however often the window was pruned
before.

Of the history it leaves every record inside the horizon, and behind the first of them also records
that arrived late. If no record is older than one before it by more than a skew, no record that is
left is older than the horizon by more than the skew.

## Main definitions

* `Window.Act`, `Window.after`: what is done with a window, and the window after that
* `Window.snapshot`: prune and add up
* `Window.appended`: the history

## Main results

* `Window.prune_after`: pruning leaves what it would have left of the whole history
* `Window.snapshot_after`: a snapshot does not depend on the prunings before it
* `Window.records_after_prune`: what pruning leaves of a history with a skew
-/

namespace SourceGuard

namespace Window

/-! ## Acts -/

/-- What is done with a window. -/
inductive Act where
  /-- A record is appended. -/
  | append (r : Record)
  /-- The window is pruned. -/
  | prune (now : Instant)
  /-- The window is pruned and added up. -/
  | snapshot (now : Instant)
deriving DecidableEq

namespace Act

/-- The record that an act appends. -/
def record? : Act → Option Record
  | append r => some r
  | prune _ | snapshot _ => none

/-- The instant at which an act prunes. -/
def sweep? : Act → Option Instant
  | append _ => none
  | prune now | snapshot now => some now

end Act

/-- Prune the window and add up what is left: the aggregates, and the window afterwards. -/
def snapshot (w : Window) (now : Instant) : AddressMap Aggregate × Window :=
  ((w.prune now).aggregates, w.prune now)

/-- The window after an act. -/
def perform (w : Window) : Act → Window
  | .append r => w.append r
  | .prune now => w.prune now
  | .snapshot now => (w.snapshot now).2

/-- The window after acts, one after another. -/
def after (w : Window) (acts : List Act) : Window := acts.foldl perform w

/-- The records that acts append, in order. -/
def appended (acts : List Act) : List Record := acts.filterMap Act.record?

variable {w w' : Window} {now : Instant}

theorem after_cons (w : Window) (act : Act) (acts : List Act) :
    w.after (act :: acts) = (w.perform act).after acts := rfl

/-- Records appended one after another, to a window that was never pruned. -/
theorem foldl_append (w : Window) (records : List Record) :
    records.foldl append w = { w with latest := records.reverse ++ w.latest } := by
  induction records generalizing w with
  | nil => rfl
  | cons r rest ih =>
    rw [List.foldl_cons, ih, List.reverse_cons, List.append_assoc]
    rfl

/-! ## Pruning again -/

/-- **One more record** makes no difference between windows of which pruning leaves the same. -/
theorem prune_append_congr (h : w.prune now = w'.prune now) (r : Record) :
    (w.append r).prune now = (w'.append r).prune now := by
  have hspan : w.span = w'.span := show (w.prune now).span = (w'.prune now).span by rw [h]
  have hband : w.band = w'.band := show (w.prune now).band = (w'.prune now).band by rw [h]
  have hrecords : w.records.dropWhile (w.isStale now) = w'.records.dropWhile (w'.isStale now) := by
    rw [← records_prune, ← records_prune, h]
  have hstale : w.isStale now = w'.isStale now := funext fun r => by rw [isStale, isStale, hspan]
  refine ext_records hspan hband ?_
  rw [records_prune, records_prune, records_append, records_append]
  change (w.records ++ [r]).dropWhile (w.isStale now) =
    (w'.records ++ [r]).dropWhile (w'.isStale now)
  rw [List.dropWhile_append, List.dropWhile_append, hrecords, hstale]

/-- **Pruning leaves what it would have left of the whole history**, if nothing before it pruned at
a later instant. -/
theorem prune_after {acts : List Act} (hclock : ∀ t ∈ acts.filterMap Act.sweep?, t ≤ now)
    (h : w.prune now = w'.prune now) :
    (w.after acts).prune now = ((appended acts).foldl append w').prune now := by
  induction acts generalizing w w' with
  | nil => exact h
  | cons act rest ih =>
    rw [after_cons]
    cases act with
    | append r => exact ih hclock (prune_append_congr h r)
    | prune t | snapshot t =>
      obtain ⟨ht, hrest⟩ := List.forall_mem_cons.mp hclock
      exact ih hrest ((prune_prune_of_le ht w).trans h)

/-- **A snapshot does not depend on the prunings before it.** Whatever the order in which the
records were seen, it leaves the window and yields the aggregates that it would have left and
yielded if nothing had been dropped before. Made once more at the same instant, it yields the same
and drops nothing. -/
theorem snapshot_after (w : Window) (acts : List Act) (now : Instant)
    (hclock : ∀ t ∈ acts.filterMap Act.sweep?, t ≤ now) :
    let first := (w.after acts).snapshot now
    first = ((appended acts).foldl append w).snapshot now ∧
      first.2.snapshot now = first ∧ first.2.evicted now = 0 := by
  intro first
  have hfirst : (w.after acts).prune now = ((appended acts).foldl append w).prune now :=
    prune_after hclock rfl
  have hagain : ((w.after acts).prune now).prune now = (w.after acts).prune now :=
    prune_prune_of_le (Int.le_refl now) _
  refine ⟨?_, ?_, ?_⟩
  · rw [snapshot, ← hfirst]
    rfl
  · exact congrArg (fun v => (v.aggregates, v)) hagain
  · -- the records that the second pruning drops and those it leaves are those the first one left
    have hsplit := takeWhile_append_records_prune first.2 now
    have hsame : first.2.prune now = first.2 := hagain
    rw [hsame, List.append_left_eq_self] at hsplit
    exact List.length_eq_zero_iff.mpr hsplit

/-- Records in no order of time, of which an early pruning drops the first: the second is then in
front, and shields the third from the snapshot as it would have done in the whole history. -/
theorem snapshot_after_of_disorder :
    let a := Address.v4 0x0a000001
    let b := Address.v4 0x0a000002
    let w : Window := { span := 10, band := ⟨110, 130⟩ }
    let acts : List Act := [.append ⟨a, 120, 0⟩, .append ⟨b, 60, 20⟩, .prune 11,
      .append ⟨a, 120, 5⟩, .snapshot 7, .append ⟨b, 115, 30⟩]
    let first := (w.after acts).snapshot 28
    (∀ t ∈ acts.filterMap Act.sweep?, t ≤ 28) ∧
      first.2.records = [⟨b, 60, 20⟩, ⟨a, 120, 5⟩, ⟨b, 115, 30⟩] ∧
      first = ((appended acts).foldl append w).snapshot 28 ∧ first.2.snapshot 28 = first ∧
        first.2.evicted 28 = 0 :=
  ⟨by decide, by decide, snapshot_after _ _ _ (by decide)⟩

/-! ## Late records -/

/-- No record is older than one before it by more than a skew. -/
def Skewed (skew : Span) (records : List Record) : Prop :=
  records.Pairwise fun (a b : Record) => a.seen ≤ b.seen + skew

instance (skew : Span) (records : List Record) : Decidable (Skewed skew records) :=
  inferInstanceAs (Decidable (records.Pairwise fun (a b : Record) => a.seen ≤ b.seen + skew))

/-- What pruning drops lies outside the horizon, so the records inside it are all left. -/
theorem filter_inside_prune (w : Window) (now : Instant) :
    (w.prune now).records.filter (fun r => now - w.span ≤ r.seen) =
      w.records.filter fun r => now - w.span ≤ r.seen := by
  have hdropped : (w.records.takeWhile (w.isStale now)).filter
      (fun r => now - w.span ≤ r.seen) = [] := by
    refine List.filter_eq_nil_iff.mpr fun r hr hinside => ?_
    have hstale : w.isStale now r = true := List.all_eq_true.mp List.all_takeWhile r hr
    exact Int.not_le.mpr (of_decide_eq_true hstale) (of_decide_eq_true hinside)
  rw [← List.nil_append ((w.prune now).records.filter _), ← hdropped, ← List.filter_append,
    takeWhile_append_records_prune]

/-- **What is left is late by no more than the skew**: the first record that is left is inside the
horizon, and none behind it is older than that one by more than the skew. -/
theorem inside_of_mem_prune {skew : Span} (h : Skewed skew w.records) {r : Record}
    (hr : r ∈ (w.prune now).records) : now - w.span - skew ≤ r.seen := by
  rw [records_prune] at hr
  have hleft : Skewed skew (w.records.dropWhile (w.isStale now)) :=
    List.Pairwise.sublist (List.dropWhile_sublist _) h
  have hne : w.records.dropWhile (w.isStale now) ≠ [] := List.ne_nil_of_mem hr
  have hfresh := List.head_dropWhile_not (w.isStale now) hne
  generalize w.records.dropWhile (w.isStale now) = left at hr hleft hne hfresh
  obtain ⟨first, rest, rfl⟩ := List.exists_cons_of_ne_nil hne
  have hfirst : now - w.span ≤ first.seen := Int.not_lt.mp (of_decide_eq_false hfresh)
  have hlate : first.seen ≤ r.seen + skew := by
    obtain ⟨hbehind, -⟩ := List.pairwise_cons.mp hleft
    rcases List.mem_cons.mp hr with rfl | hr
    · exact Int.le_add_of_nonneg_right (Int.natCast_nonneg skew)
    · exact hbehind r hr
  exact Int.sub_right_le_of_le_add (Int.le_trans hfirst hlate)

/-- **What pruning leaves of a history** in which no record was late by more than a skew: of what
was appended a final part, in which all records inside the horizon are, and none that is older than
the horizon by more than the skew. If no record was late, it leaves exactly the records inside the
horizon, and a snapshot yields an aggregate for exactly the sources of these: the number of its
records, the sum of their lengths and the number of those in the size band. -/
theorem records_after_prune (span : Span) (band : SizeBand) (skew : Span) (acts : List Act)
    (now : Instant) (hclock : (acts.filterMap Act.sweep? ++ [now]).Pairwise (· ≤ ·))
    (hskew : Skewed skew (appended acts)) :
    let w := ({ span, band } : Window).after acts
    let inside := (appended acts).filter fun r => now - span ≤ r.seen
    (w.snapshot now).2 = w.prune now ∧
      (w.prune now).records <:+ appended acts ∧
      (w.prune now).records.filter (fun r => now - span ≤ r.seen) = inside ∧
      (∀ r ∈ (w.prune now).records, now - span - skew ≤ r.seen) ∧
      (skew = 0 → (w.prune now).records = inside ∧ ∀ source,
        let own := inside.filter fun r => r.source = source
        (w.snapshot now).1.get? source =
          if own = [] then none
          else some ⟨.ofNat own.length, .ofNat (Aggregate.volume own),
            .ofNat (Aggregate.hits band own)⟩) := by
  intro w inside
  -- the window that was never pruned before holds the whole history
  let whole : Window := { span, band, latest := (appended acts).reverse }
  have hearlier : ∀ t ∈ acts.filterMap Act.sweep?, t ≤ now := fun t ht =>
    (List.pairwise_append.mp hclock).2.2 t ht now List.mem_cons_self
  have hwhole : (appended acts).foldl append ({ span, band } : Window) = whole := by
    rw [foldl_append, List.append_nil]
  have hprune : w.prune now = whole.prune now := hwhole ▸ prune_after hearlier rfl
  have hrecords : whole.records = appended acts := List.reverse_reverse _
  have hinside : (w.prune now).records.filter (fun r => now - span ≤ r.seen) = inside := by
    rw [hprune, filter_inside_prune whole now, hrecords]
  have hlate : ∀ r ∈ (w.prune now).records, now - span - skew ≤ r.seen := by
    intro r hr
    rw [hprune] at hr
    exact inside_of_mem_prune (hrecords ▸ hskew) hr
  refine ⟨rfl, ?_, hinside, hlate, fun hzero => ?_⟩
  · rw [hprune, records_prune, hrecords]
    exact List.dropWhile_suffix _
  · have hexact : (w.prune now).records = inside := by
      rw [← hinside, eq_comm, List.filter_eq_self]
      intro r hr
      have := hlate r hr
      rw [hzero] at this
      exact decide_eq_true (by simpa using this)
    refine ⟨hexact, fun source => ?_⟩
    have hband : (w.prune now).band = band := by rw [hprune]; rfl
    change (w.prune now).aggregates.get? source = _
    rw [get?_aggregates, sum, recordsOf, hexact, Aggregate.ofRecords_eq, hband]

/-- A record that arrives one late stays behind the one that is newer, although it is outside the
horizon. Without it every record that is left is inside the horizon, one of them just so, and the
snapshot adds up the records of their sources. -/
theorem records_after_prune_of_late :
    let a := Address.v4 0x0a000001
    let b := Address.v4 0x0a000002
    let early : List Act := [.append ⟨a, 120, 0⟩, .append ⟨b, 60, 5⟩, .snapshot 5]
    let late : List Act := [.append ⟨a, 120, 4⟩]
    let more : List Act := [.append ⟨a, 120, 12⟩, .prune 14, .append ⟨a, 99, 12⟩]
    let w := ({ span := 10, band := ⟨110, 130⟩ } : Window).after (early ++ late ++ more)
    let w' := ({ span := 10, band := ⟨110, 130⟩ } : Window).after (early ++ more)
    (((early ++ late ++ more).filterMap Act.sweep? ++ [15]).Pairwise (· ≤ ·) ∧
        Skewed 1 (appended (early ++ late ++ more)) ∧
        (w.prune 15).records = [⟨b, 60, 5⟩, ⟨a, 120, 4⟩, ⟨a, 120, 12⟩, ⟨a, 99, 12⟩] ∧
        ∀ r ∈ (w.prune 15).records, 15 - (10 : Span) - (1 : Span) ≤ r.seen) ∧
      Skewed 0 (appended (early ++ more)) ∧
      (w'.prune 15).records = [⟨b, 60, 5⟩, ⟨a, 120, 12⟩, ⟨a, 99, 12⟩] ∧
      (w'.snapshot 15).1.get? a = some ⟨2, 219, 1⟩ ∧
      (w'.snapshot 15).1.get? b = some ⟨1, 60, 0⟩ := by
  intro a b early late more w w'
  obtain ⟨-, -, -, hlate, -⟩ := records_after_prune 10 ⟨110, 130⟩ 1 (early ++ late ++ more) 15
    (by decide) (by decide)
  obtain ⟨-, -, -, -, hexact⟩ := records_after_prune 10 ⟨110, 130⟩ 0 (early ++ more) 15
    (by decide) (by decide)
  obtain ⟨hrecords, hsums⟩ := hexact rfl
  exact ⟨⟨by decide, by decide, by decide, hlate⟩, by decide, hrecords, hsums a, hsums b⟩

end Window

end SourceGuard
