import SourceGuard.Monitor

/-!
# What a snapshot shows of one source

Rows are sorted by traffic and blocks by the time left, so where a source stands in a snapshot
depends on all the others. What is shown of it does not: it has one row if it has an aggregate, and
one status if it has an entry, and these are made of its own aggregate and its own entry.

## Main results

* `AddressMap.filter_entries`: the entries of a map at one address
* `Monitor.perm_rows_snapshot`, `Blocks.perm_statuses`: all rows and all statuses, in another order
* `Monitor.rows_snapshot`, `Monitor.blocked_snapshot`: the rows and the statuses of a source
-/

namespace SourceGuard

namespace AddressMap

variable {α : Type}

theorem filter_eq_find {source : Address} {l : List (Address × α)}
    (h : l.Pairwise fun a b => a.1 < b.1) :
    l.filter (fun e => e.1 = source) = ((find source l).map fun v => (source, v)).toList := by
  induction l with
  | nil => rfl
  | cons entry rest ih =>
    obtain ⟨hhead, htail⟩ := List.pairwise_cons.mp h
    rw [find_cons]
    by_cases hsource : entry.1 = source
    · -- the entries after this one are at higher addresses
      have hrest : rest.filter (fun e => e.1 = source) = [] := by
        rw [List.filter_eq_nil_iff]
        intro e he
        have hne : e.1 ≠ source := fun heq => Address.ne_of_lt (hhead e he) (hsource.trans heq.symm)
        simpa using hne
      rw [List.filter_cons_of_pos (by simpa using hsource), hrest, if_pos hsource.symm, ← hsource]
      rfl
    · rw [List.filter_cons_of_neg (by simpa using hsource), if_neg (Ne.symm hsource), ih htail]

/-- **The entries of a map at one address** are the one that a look-up finds, or none. -/
theorem filter_entries (m : AddressMap α) (source : Address) :
    m.entries.filter (fun e => e.1 = source) =
      ((m.get? source).map fun v => (source, v)).toList :=
  filter_eq_find m.ascending

end AddressMap

/-- Sorting does not disturb the only element that passes a test. -/
theorem filter_mergeSort_of_toList {α : Type} {p : α → Bool} {l : List α} {o : Option α}
    (h : l.filter p = o.toList) (le : α → α → Bool) : (l.mergeSort le).filter p = o.toList := by
  have hperm := (List.mergeSort_perm l le).filter p
  rw [h] at hperm
  cases o with
  | none => exact List.perm_nil.mp hperm
  | some a => exact List.perm_singleton.mp hperm

namespace Blocks

/-- **The statuses of a source**: one if it has an entry, made of that entry. -/
theorem filter_statuses (b : Blocks) (now : Instant) (source : Address) :
    (b.statuses now).filter (fun x => x.source = source) =
      ((b.table.get? source).map fun e => ⟨source, e.secondsLeft now, e.reason⟩).toList := by
  refine filter_mergeSort_of_toList ?_ endsFirst
  rw [List.filter_map]
  change (b.table.entries.filter fun e => e.1 = source).map _ = _
  rw [AddressMap.filter_entries]
  cases b.table.get? source <;> rfl

/-- **The statuses** are one for each entry, in another order. -/
theorem perm_statuses (b : Blocks) (now : Instant) :
    (b.statuses now).Perm
      (b.table.entries.map fun (source, e) => ⟨source, e.secondsLeft now, e.reason⟩) :=
  List.mergeSort_perm _ _

end Blocks

namespace Monitor

/-- **The rows of a snapshot** are one for each aggregate, in another order. -/
theorem perm_rows_snapshot (m : Monitor) (now : Instant) (sums : List (Address × Aggregate)) :
    (m.snapshot now sums).rows.Perm (sums.map (m.row now)) :=
  List.mergeSort_perm _ _

theorem mem_rows_snapshot (m : Monitor) (now : Instant) (sums : List (Address × Aggregate))
    (row : Row) : row ∈ (m.snapshot now sums).rows ↔ ∃ entry ∈ sums, m.row now entry = row := by
  rw [(perm_rows_snapshot m now sums).mem_iff, List.mem_map]

/-- **The rows of a source** in a snapshot: one if it has an aggregate, made of that aggregate. -/
theorem rows_snapshot (m : Monitor) (now : Instant) (sums : AddressMap Aggregate)
    (source : Address) :
    (m.snapshot now sums.entries).rows.filter (fun x => x.source = source) =
      ((sums.get? source).map fun a => m.row now (source, a)).toList := by
  refine filter_mergeSort_of_toList ?_ Row.comesFirst
  rw [List.filter_map]
  change (sums.entries.filter fun e => e.1 = source).map _ = _
  rw [AddressMap.filter_entries]
  cases sums.get? source <;> rfl

/-- **The blocks of a source** in a snapshot: one if it has an entry, made of that entry. -/
theorem blocked_snapshot (m : Monitor) (now : Instant) (sums : List (Address × Aggregate))
    (source : Address) :
    (m.snapshot now sums).blocked.filter (fun x => x.source = source) =
      ((m.blocks.table.get? source).map fun e => ⟨source, e.secondsLeft now, e.reason⟩).toList :=
  m.blocks.filter_statuses now source

end Monitor

end SourceGuard
