import SourceGuard.AddressMap
import SourceGuard.Traffic

/-!
# The accounting window

The window holds the records of the recent past. They are kept with the latest arrival first, so that
one more is accounted at once, and are looked at in order of arrival. Pruning drops the records that
arrived first and are older than the window's span; it stops at the first record that is still inside
the horizon, so a late record behind a recent one stays until the recent one goes.

## Main definitions

* `Window.records`: the records in order of arrival
* `Window.append`: account one more record
* `Window.prune`: drop the stale head
* `Window.aggregates`: what the records add up to, per source

## Main results

* `Window.ext_records`: a window is its span, its band and its records
* `Window.records_append`, `Window.records_prune`: what becomes of the records
* `Window.prune_prune_of_le`: a pruning leaves what it would have left without an earlier one
-/

namespace SourceGuard

/-- The records of the recent past. -/
structure Window where
  /-- How long a record stays. -/
  span : Span
  /-- The lengths counted as matching. -/
  band : SizeBand
  /-- The records, the latest arrival first. -/
  latest : List Record := []

namespace Window

/-- The records, the oldest arrival first. -/
def records (w : Window) : List Record := w.latest.reverse

/-- The number of records. -/
def size (w : Window) : Nat := w.latest.length

/-- The number of records, in any order. -/
@[simp] theorem length_records (w : Window) : w.records.length = w.size := List.length_reverse

/-- A window is its span, its band and its records. -/
theorem ext_records {w w' : Window} (hspan : w.span = w'.span) (hband : w.band = w'.band)
    (hrecords : w.records = w'.records) : w = w' := by
  obtain ⟨span, band, latest⟩ := w
  obtain ⟨span', band', latest'⟩ := w'
  obtain rfl : span = span' := hspan
  obtain rfl : band = band' := hband
  obtain rfl : latest = latest' := List.reverse_inj.mp hrecords
  rfl

/-- Whether a record is older than the window's span. While the span reaches back beyond the first
instant of the clock, none is. -/
def isStale (w : Window) (now : Instant) (r : Record) : Bool := r.seen < now - w.span

/-- The window with one more record at its tail. -/
def append (w : Window) (r : Record) : Window := { w with latest := r :: w.latest }

/-- The window without its stale head. -/
def prune (w : Window) (now : Instant) : Window :=
  { w with latest := (w.records.dropWhile (w.isStale now)).reverse }

/-- The number of records that pruning drops. -/
def evicted (w : Window) (now : Instant) : Nat := (w.records.takeWhile (w.isStale now)).length

/-- The aggregates with one more record. -/
def tally (band : SizeBand) (sums : AddressMap Aggregate) (r : Record) : AddressMap Aggregate :=
  sums.insert r.source (((sums.get? r.source).getD {}).add r.size (band.contains r.size))

/-- What the records add up to, per source. -/
def aggregates (w : Window) : AddressMap Aggregate :=
  w.records.foldl (tally w.band) AddressMap.empty

@[simp] theorem records_append (w : Window) (r : Record) :
    (w.append r).records = w.records ++ [r] := by
  simp [records, append]

@[simp] theorem records_prune (w : Window) (now : Instant) :
    (w.prune now).records = w.records.dropWhile (w.isStale now) := by
  simp [records, prune]

@[simp] theorem isStale_prune (w : Window) (now : Instant) :
    (w.prune now).isStale = w.isStale := rfl

/-- The dropped records and the kept ones are the records. -/
theorem takeWhile_append_records_prune (w : Window) (now : Instant) :
    w.records.takeWhile (w.isStale now) ++ (w.prune now).records = w.records := by
  rw [records_prune]
  exact List.takeWhile_append_dropWhile

/-- A pruning that leaves the window as it is drops nothing. -/
theorem evicted_of_prune_eq {w : Window} {now : Instant} (h : w.prune now = w) :
    w.evicted now = 0 := by
  have hsplit := takeWhile_append_records_prune w now
  rw [h, List.append_left_eq_self] at hsplit
  exact List.length_eq_zero_iff.mpr hsplit

/-- What a weaker test drops first, a stronger test drops in any case. -/
theorem dropWhile_dropWhile_of_imp {α : Type} {p q : α → Bool} (h : ∀ a, p a = true → q a = true) :
    (l : List α) → (l.dropWhile p).dropWhile q = l.dropWhile q
  | [] => rfl
  | a :: l => by
    by_cases hp : p a = true
    · rw [List.dropWhile_cons_of_pos hp, List.dropWhile_cons_of_pos (h a hp),
        dropWhile_dropWhile_of_imp h l]
    · rw [List.dropWhile_cons_of_neg hp]

/-- **A pruning after an earlier one** leaves what it would have left without that. -/
theorem prune_prune_of_le {earlier now : Instant} (h : earlier ≤ now) (w : Window) :
    (w.prune earlier).prune now = w.prune now := by
  refine ext_records rfl rfl ?_
  rw [records_prune, records_prune, isStale_prune, records_prune]
  refine dropWhile_dropWhile_of_imp (fun r hr => ?_) w.records
  -- what is older than the earlier horizon is older than the later one
  have hold : r.seen < earlier - w.span := of_decide_eq_true hr
  exact decide_eq_true (Int.lt_of_lt_of_le hold (Int.sub_le_sub_right h _))

end Window

end SourceGuard
