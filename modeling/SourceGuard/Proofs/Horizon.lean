import SourceGuard.Proofs.Aggregates

/-!
# What pruning leaves in the window

Pruning drops the head of the window, so of the records of one source it keeps the latest, whatever
the order in which they were seen. Where they were seen in the order of their arrival, it drops every
record that is older than the horizon, and then the records that a source has left depend on its own
records alone.

## Main definitions

* `Window.Precedes`: the records of the window and the instants to come are in time order

## Main results

* `Window.recordsOf_prune_suffix`: of the records of a source, pruning keeps the latest
* `Window.Precedes.recordsOf_prune`: in time order, pruning keeps exactly those inside the horizon
-/

namespace SourceGuard

namespace Window

variable {w : Window} {now : Instant} {source : Address}

/-! ## The records of one source -/

theorem recordsOf_append (w : Window) (r : Record) (source : Address) :
    (w.append r).recordsOf source = w.recordsOf source ++ if r.source = source then [r] else [] := by
  rw [recordsOf, records_append, List.filter_append, ← recordsOf]
  by_cases h : r.source = source <;> simp [h]

/-- A record of another source leaves the records of a source as they are. -/
theorem recordsOf_append_of_ne {r : Record} (h : r.source ≠ source) (w : Window) :
    (w.append r).recordsOf source = w.recordsOf source := by
  rw [recordsOf_append, if_neg h, List.append_nil]

/-- **Of the records of a source**, pruning keeps the latest. -/
theorem recordsOf_prune_suffix (w : Window) (now : Instant) (source : Address) :
    (w.prune now).recordsOf source <:+ w.recordsOf source := by
  rw [recordsOf, records_prune]
  exact (List.dropWhile_suffix _).filter _

/-! ## Time order -/

/-- Where what is dropped comes first, dropping a head is filtering. -/
theorem dropWhile_eq_filter {α : Type} {p : α → Bool} {l : List α}
    (h : l.Pairwise fun a b => p b = true → p a = true) :
    l.dropWhile p = l.filter fun a => !p a := by
  induction l with
  | nil => rfl
  | cons a rest ih =>
    obtain ⟨hhead, htail⟩ := List.pairwise_cons.mp h
    by_cases ha : p a
    · rw [List.dropWhile_cons_of_pos ha, List.filter_cons_of_neg (by simpa using ha), ih htail]
    · rw [List.dropWhile_cons_of_neg ha, eq_comm, List.filter_eq_self]
      intro b hb
      rcases List.mem_cons.mp hb with rfl | hb
      · simpa using ha
      · simpa using mt (hhead b hb) ha

/-- The records of the window and the instants to come after them are in time order. -/
def Precedes (w : Window) (later : List Instant) : Prop :=
  (w.records.map (·.seen) ++ later).Pairwise (· ≤ ·)

/-- Before the first record every time order will do. -/
theorem precedes_empty {later : List Instant} (h : later.Pairwise (· ≤ ·)) (span : Span)
    (band : SizeBand) : ({ span, band } : Window).Precedes later := h

namespace Precedes

variable {later : List Instant} {t : Instant}

/-- The records of the window were seen no later than an instant to come. -/
theorem seen_le (h : w.Precedes later) {r : Record} (hr : r ∈ w.records) (ht : t ∈ later) :
    r.seen ≤ t :=
  (List.pairwise_append.mp h).2.2 _ (List.mem_map_of_mem hr) t ht

/-- An instant to come may be left out. -/
theorem sublist {later' : List Instant} (h : w.Precedes later) (hlater : later'.Sublist later) :
    w.Precedes later' :=
  List.Pairwise.sublist ((List.Sublist.refl _).append hlater) h

theorem tail (h : w.Precedes (t :: later)) : w.Precedes later :=
  h.sublist (List.sublist_cons_self t later)

/-- The next record takes its place among the records. -/
theorem append {r : Record} (h : w.Precedes (r.seen :: later)) : (w.append r).Precedes later := by
  unfold Precedes at h ⊢
  rw [records_append, List.map_append, List.append_assoc]
  exact h

theorem prune (h : w.Precedes later) (now : Instant) : (w.prune now).Precedes later := by
  refine List.Pairwise.sublist (List.Sublist.append ?_ (List.Sublist.refl _)) h
  rw [records_prune]
  exact (List.dropWhile_sublist _).map _

theorem isStale_of_le {a b : Record} (hle : a.seen ≤ b.seen) (hb : w.isStale now b = true) :
    w.isStale now a = true :=
  decide_eq_true (Int.lt_of_le_of_lt hle (of_decide_eq_true hb))

/-- **In time order, pruning keeps exactly the records inside the horizon.** -/
theorem records_prune (h : w.Precedes later) (now : Instant) :
    (w.prune now).records = w.records.filter fun r => now - w.span ≤ r.seen := by
  have hordered : w.records.Pairwise fun a b => a.seen ≤ b.seen :=
    List.pairwise_map.mp (List.pairwise_append.mp h).1
  rw [Window.records_prune, dropWhile_eq_filter (hordered.imp fun hab => isStale_of_le hab)]
  refine List.filter_congr fun r _ => ?_
  rw [isStale, ← decide_not, decide_eq_decide]
  exact Int.not_lt

/-- The records that a source has left are those of its own that are inside the horizon. -/
theorem recordsOf_prune (h : w.Precedes later) (now : Instant) (source : Address) :
    (w.prune now).recordsOf source =
      (w.recordsOf source).filter fun r => now - w.span ≤ r.seen := by
  rw [recordsOf, h.records_prune now, recordsOf, List.filter_filter, List.filter_filter]
  exact List.filter_congr fun r _ => Bool.and_comm _ _

end Precedes

end Window

end SourceGuard
