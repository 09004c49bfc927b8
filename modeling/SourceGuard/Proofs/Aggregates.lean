import SourceGuard.Rule
import SourceGuard.Window

/-!
# What the records of one source add up to

The aggregates of a window are folded from all its records at once. Seen from one source, only its
own records count: it has an aggregate exactly when it has a record, and that aggregate is the fold
over its records in their order.

## Main definitions

* `Window.recordsOf`, `Window.sum`: the records of a source, and what they add up to
* `RuleSet.Violates`: when an aggregate violates a rule set

## Main results

* `Window.get?_aggregates`: the aggregate of a source
* `RuleSet.violation?_eq_some_iff`: when an aggregate makes a violation, and of which rules
* `RuleSet.Violates.mono`: more rules that fire are a violation all the more
-/

namespace SourceGuard

/-- The aggregate with one more record. -/
def Aggregate.addRecord (band : SizeBand) (a : Aggregate) (r : Record) : Aggregate :=
  a.add r.size (band.contains r.size)

/-- What records add up to. -/
def Aggregate.ofRecords (band : SizeBand) (records : List Record) : Aggregate :=
  records.foldl (addRecord band) {}

namespace Window

/-- The records of a source, the oldest arrival first. -/
def recordsOf (w : Window) (source : Address) : List Record :=
  w.records.filter fun r => r.source = source

/-- What the records of a source add up to. -/
def sum (w : Window) (source : Address) : Aggregate :=
  Aggregate.ofRecords w.band (w.recordsOf source)

/-- A fold over an optional value, begun by the first element if it was absent. -/
theorem foldl_getD {α β : Type} (f : α → β → α) {start : α} (l : List β) (o : Option α) :
    l.foldl (fun o b => some (f (o.getD start) b)) o =
      if l = [] then o else some (l.foldl f (o.getD start)) := by
  induction l generalizing o with
  | nil => rfl
  | cons b l ih =>
    rw [List.foldl_cons, ih, if_neg (List.cons_ne_nil b l), List.foldl_cons, Option.getD_some]
    split
    · rename_i h
      rw [h, List.foldl_nil]
    · rfl

theorem get?_foldl_tally (band : SizeBand) (records : List Record) (sums : AddressMap Aggregate)
    (source : Address) :
    (records.foldl (tally band) sums).get? source =
      (records.filter fun r => r.source = source).foldl
        (fun o r => some (Aggregate.addRecord band (o.getD {}) r)) (sums.get? source) := by
  induction records generalizing sums with
  | nil => rfl
  | cons r rest ih =>
    rw [List.foldl_cons, ih, tally, AddressMap.get?_insert]
    by_cases h : r.source = source
    · rw [if_pos h.symm, List.filter_cons_of_pos (by simpa using h), List.foldl_cons, h]
      rfl
    · rw [if_neg (Ne.symm h), List.filter_cons_of_neg (by simpa using h)]

/-- **The aggregate of a source** is what its records add up to, if it has any. -/
theorem get?_aggregates (w : Window) (source : Address) :
    w.aggregates.get? source =
      if w.recordsOf source = [] then none else some (w.sum source) := by
  rw [aggregates, get?_foldl_tally, foldl_getD (Aggregate.addRecord w.band), AddressMap.get?_empty]
  rfl

/-- The aggregates of a window are those of the sources that have a record. -/
theorem mem_aggregates (w : Window) (source : Address) (a : Aggregate) :
    (source, a) ∈ w.aggregates.entries ↔ w.recordsOf source ≠ [] ∧ a = w.sum source := by
  rw [← AddressMap.get?_eq_some_iff, get?_aggregates]
  by_cases h : w.recordsOf source = []
  · simp [h]
  · rw [if_neg h, Option.some.injEq, eq_comm]
    simp [h]

end Window

namespace RuleSet

/-- Some rule fires on an aggregate, or every rule does, as the set combines its rules. A set
without rules is never violated. -/
def Violates (set : RuleSet) (a : Aggregate) : Prop :=
  match set.combine with
  | .any => ∃ rule ∈ set.rules, rule.fires a = true
  | .all => set.rules ≠ [] ∧ ∀ rule ∈ set.rules, rule.fires a = true

theorem isViolated_iff (set : RuleSet) (a : Aggregate) :
    set.isViolated a = true ↔ set.Violates a := by
  unfold isViolated Violates
  cases set.combine <;> simp

/-- **A violation** names the rules that fired. -/
theorem violation?_eq_some_iff (set : RuleSet) (a : Aggregate) (fired : List String) :
    set.violation? a = some fired ↔ set.Violates a ∧ fired = set.fired a := by
  rw [violation?, ← isViolated_iff]
  split <;> simp [*, eq_comm]

variable {set : RuleSet} {a b : Aggregate}

/-- If every rule that fires on one aggregate fires on another, a violation by the one is a
violation by the other. -/
theorem Violates.mono (h : set.Violates a)
    (hfires : ∀ rule ∈ set.rules, rule.fires a = true → rule.fires b = true) : set.Violates b := by
  unfold Violates at h ⊢
  cases hcombine : set.combine with
  | any =>
    simp only [hcombine] at h ⊢
    obtain ⟨rule, hrule, hfire⟩ := h
    exact ⟨rule, hrule, hfires rule hrule hfire⟩
  | all =>
    simp only [hcombine] at h ⊢
    exact ⟨h.1, fun rule hrule => hfires rule hrule (h.2 rule hrule)⟩

/-- If every rule fires and there is one, the set is violated, however it combines its rules. -/
theorem violates_of_fires (hrules : set.rules ≠ [])
    (hfires : ∀ rule ∈ set.rules, rule.fires a = true) : set.Violates a := by
  unfold Violates
  cases set.combine with
  | any =>
    obtain ⟨rule, hrule⟩ := List.exists_mem_of_ne_nil _ hrules
    exact ⟨rule, hrule, hfires rule hrule⟩
  | all => exact ⟨hrules, hfires⟩

/-- Of two aggregates of which only one violates the set, some rule fires on that one alone. -/
theorem exists_fires_of_violates (h : set.Violates a) (hnot : ¬ set.Violates b) :
    ∃ rule ∈ set.rules, rule.fires a = true ∧ rule.fires b = false := by
  refine Classical.byContradiction fun hnone => hnot (h.mono fun rule hrule hfires => ?_)
  rw [← Bool.not_eq_false]
  exact fun hquiet => hnone ⟨rule, hrule, hfires, hquiet⟩

end RuleSet

end SourceGuard
