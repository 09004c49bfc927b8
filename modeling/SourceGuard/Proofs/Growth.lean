import SourceGuard.Proofs.Ageing
import SourceGuard.Proofs.Totals

/-!
# More traffic

A volume rule fires above a threshold, and a pattern rule that counts from its limit on fires there
and above. With more records a source has no fewer bytes and no fewer packets in the size band, so
such a rule goes on firing, wherever among the others the further records stand. However the rules
are combined, what was a violation stays one, and its reason names at least the rules that it named
before.

## Main definitions

* `Rule.IsUpward`: the rules that fire from some amount on

## Main results

* `Rule.IsUpward.fires_of_sublist`: such a rule goes on firing
* `RuleSet.fired_sublist`: the names of the rules that fire on more
* `RuleSet.violation_of_sublist`: a violation stays one
-/

namespace SourceGuard

open Aggregate (ofRecords)

/-! ## Rules that fire from some amount on -/

/-- The rules that fire from some amount on: volume rules, and pattern rules that count from their
limit on. -/
inductive Rule.IsUpward : Rule → Prop
  | volume (threshold : UInt64) : IsUpward (Rule.volume threshold)
  | pattern (limit : UInt64) : IsUpward (Rule.pattern limit .atLeast)

variable {band : SizeBand} {fewer more : List Record}

/-- **A rule that fires from some amount on** goes on firing with more records. -/
theorem Rule.IsUpward.fires_of_sublist {rule : Rule} (hrule : rule.IsUpward)
    (hmore : fewer.Sublist more) (hfew : more.length < 2 ^ 32)
    (hfires : rule.fires (ofRecords band fewer) = true) :
    rule.fires (ofRecords band more) = true := by
  have hfits := Aggregate.volume_lt hfew
  cases hrule with
  | volume threshold => exact Config.volume_fires_of_sublist hmore hfits hfires
  | pattern limit =>
    -- only an exact count can be passed by
    rw [← Bool.not_eq_false]
    intro hquiet
    have hexact := (Config.exact_of_pattern_fires hmore hfits hfires hquiet).1
    cases hexact

namespace RuleSet

variable {set : RuleSet} {a b : Aggregate}

/-- If every rule that fires on one aggregate fires on another, the rules that fire on the one are
some of those that fire on the other, in their order. -/
theorem filter_fires_sublist
    (h : ∀ rule ∈ set.rules, rule.fires a = true → rule.fires b = true) :
    (set.rules.filter (·.fires a)).Sublist (set.rules.filter (·.fires b)) := by
  have hboth : (set.rules.filter (·.fires b)).filter (·.fires a) =
      set.rules.filter (·.fires a) := by
    rw [List.filter_filter]
    refine List.filter_congr fun rule hrule => ?_
    cases hfires : rule.fires a with
    | true => exact h rule hrule hfires
    | false => rfl
  rw [← hboth]
  exact List.filter_sublist

theorem fired_sublist (h : ∀ rule ∈ set.rules, rule.fires a = true → rule.fires b = true) :
    (set.fired a).Sublist (set.fired b) :=
  (filter_fires_sublist h).map _

end RuleSet

/-! ## Sources among more records -/

namespace Window

variable {w w' : Window}

theorem recordsOf_sublist (h : w.records.Sublist w'.records) (source : Address) :
    (w.recordsOf source).Sublist (w'.recordsOf source) :=
  h.filter _

/-- A source with records has no fewer among more, so it has an aggregate of more. -/
theorem recordsOf_ne_nil_of_sublist (h : w.records.Sublist w'.records) {source : Address}
    (hseen : w.recordsOf source ≠ []) : w'.recordsOf source ≠ [] := fun hnone =>
  hseen (List.sublist_nil.mp (hnone ▸ recordsOf_sublist h source))

end Window

namespace RuleSet

variable {set : RuleSet} {w w' : Window}

/-- The rules that fire on the records of a source fire on more of them. -/
theorem fires_sum_of_sublist (hset : ∀ rule ∈ set.rules, rule.IsUpward)
    (hmore : w.records.Sublist w'.records) (hband : w'.band = w.band) (hfew : w'.size < 2 ^ 32)
    (source : Address) :
    ∀ rule ∈ set.rules, rule.fires (w.sum source) = true → rule.fires (w'.sum source) = true := by
  intro rule hrule hfires
  have hown : (w'.recordsOf source).length ≤ w'.size :=
    w'.length_records ▸ List.length_filter_le _ _
  rw [Window.sum, hband]
  exact (hset rule hrule).fires_of_sublist (Window.recordsOf_sublist hmore source)
    (Nat.lt_of_le_of_lt hown hfew) hfires

end RuleSet

/-- **More traffic never clears a violation.** If all rules fire from some amount on, a source with
an aggregate still has one when further records stand anywhere among those of the window, up to
`2 ^ 32` of them in all. The rules that fired on its aggregate fire on the new one, and if they made
a violation, they make one again; its rules are those that fired before, in their order, and perhaps
others between them. -/
theorem RuleSet.violation_of_sublist (set : RuleSet) (hset : ∀ rule ∈ set.rules, rule.IsUpward)
    {w w' : Window} (hmore : w.records.Sublist w'.records) (hband : w'.band = w.band)
    (hfew : w'.size < 2 ^ 32) {source : Address} {a : Aggregate}
    (ha : w.aggregates.get? source = some a) :
    ∃ b, w'.aggregates.get? source = some b ∧
      (set.rules.filter (·.fires a)).Sublist (set.rules.filter (·.fires b)) ∧
      ∀ fired, set.violation? a = some fired →
        ∃ fired', set.violation? b = some fired' ∧ fired.Sublist fired' := by
  obtain ⟨hseen, rfl⟩ := (w.mem_aggregates source a).mp ((AddressMap.get?_eq_some_iff _).mp ha)
  have hseen' := Window.recordsOf_ne_nil_of_sublist hmore hseen
  have hfires := fires_sum_of_sublist hset hmore hband hfew source
  refine ⟨w'.sum source, ?_, filter_fires_sublist hfires, fun fired hfired => ?_⟩
  · exact (AddressMap.get?_eq_some_iff _).mpr ((w'.mem_aggregates source _).mpr ⟨hseen', rfl⟩)
  · obtain ⟨hviolates, rfl⟩ := (violation?_eq_some_iff _ _ _).mp hfired
    exact ⟨set.fired (w'.sum source),
      (violation?_eq_some_iff _ _ _).mpr ⟨hviolates.mono hfires, rfl⟩, fired_sublist hfires⟩

/-- A source that violates two rules, and records of it and of another source before, between and
behind its records, with which it violates three. -/
theorem RuleSet.violation_of_sublist_of_burst :
    let source := Address.v4 0x0a000001
    let other := Address.v6 1
    let set : RuleSet :=
      ⟨.any, [Rule.pattern 2 .atLeast, Rule.volume 1000, Rule.pattern 1 .atLeast]⟩
    let w : Window :=
      { span := 10, band := ⟨110, 130⟩, latest := [⟨source, 120, 3⟩, ⟨source, 129, 1⟩] }
    let w' : Window := { w with latest :=
      [⟨other, 120, 9⟩, ⟨source, 120, 3⟩, ⟨source, 1500, 2⟩, ⟨source, 111, 2⟩, ⟨source, 129, 1⟩,
        ⟨source, 60, 0⟩] }
    ((∀ rule ∈ set.rules, rule.IsUpward) ∧ w.records.Sublist w'.records ∧ w'.size < 2 ^ 32 ∧
        w.aggregates.get? source = some ⟨2, 249, 2⟩) ∧
      set.violation? ⟨2, 249, 2⟩ = some ["pattern", "pattern"] ∧
      set.violation? ⟨5, 1920, 3⟩ = some ["pattern", "volume", "pattern"] ∧
      ∃ fired', set.violation? ⟨5, 1920, 3⟩ = some fired' ∧
        ["pattern", "pattern"].Sublist fired' := by
  intro source other set w w'
  have hset : ∀ rule ∈ set.rules, rule.IsUpward := by
    rintro rule (_ | ⟨_, _ | ⟨_, _ | ⟨_, ⟨⟩⟩⟩⟩)
    · exact .pattern 2
    · exact .volume 1000
    · exact .pattern 1
  have hmore : w.records.Sublist w'.records := by decide
  have ha : w.aggregates.get? source = some ⟨2, 249, 2⟩ := by decide
  have hviolation : set.violation? ⟨2, 249, 2⟩ = some ["pattern", "pattern"] := by decide
  obtain ⟨b, hb, -, hagain⟩ :=
    RuleSet.violation_of_sublist set hset hmore rfl (by decide) ha
  have hsum : w'.aggregates.get? source = some ⟨5, 1920, 3⟩ := by decide
  obtain rfl : (⟨5, 1920, 3⟩ : Aggregate) = b := Option.some.inj (hsum.symm.trans hb)
  exact ⟨⟨hset, hmore, by decide, ha⟩, hviolation, by decide, hagain _ hviolation⟩

end SourceGuard
