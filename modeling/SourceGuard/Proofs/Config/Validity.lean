import SourceGuard.Blocks
import SourceGuard.Config.Validation

/-!
# What validity promises

A configuration is valid if none of its checks finds a fault. Each check that passed is a promise to
the rest of the guard: the settings with a range lie in it, so a block lasts exactly as long as the
configuration says.

## Main results

* `Config.faults_eq_none`: no check finds a fault
* `Config.mem_range`: every setting with a range lies in it
* `Config.min_blockSpan`: the longest block is no limit for a valid configuration
* `Config.rules_of_isValid`: some rule is in use
* `Config.notMem_watched_of_mem_exempt`: no source is both exempt and watched
-/

namespace SourceGuard

/-- Every setting with a range is checked. -/
theorem Ranged.mem_all (r : Ranged) : r ∈ Ranged.all := by
  cases r <;> decide

namespace Config

variable {c : Config}

/-- **No check of a valid configuration finds a fault.** -/
theorem faults_eq_none (h : c.isValid = true) :
    c.monitor.interfaceFault? = none ∧ c.monitor.rangeFault? = none ∧ c.rules.fault? = none ∧
      c.sources.fault? = none ∧ c.chainFault? = none ∧ c.logging.fault? = none := by
  have hfault : c.fault? = none := Option.isNone_iff_eq_none.mp h
  simpa only [fault?, Option.or_eq_none_iff, and_assoc] using hfault

/-- **Every setting with a range lies in it.** -/
theorem mem_range (h : c.isValid = true) (r : Ranged) :
    r.low ≤ (r.value c.monitor).toNat ∧ (r.value c.monitor).toNat ≤ r.high := by
  have hfind := Option.map_eq_none_iff.mp (faults_eq_none h).2.1
  have hinside := List.find?_eq_none.mp hfind r r.mem_all
  simp only [Ranged.isOutside, Bool.or_eq_true, decide_eq_true_eq, not_or, Nat.not_lt] at hinside
  exact hinside

/-- **A block lasts as long as a valid configuration says**: the longest block is no limit for it. -/
theorem min_blockSpan (h : c.isValid = true) : min c.blockSpan Blocks.longest = c.blockSpan :=
  Nat.min_eq_left (Nat.mul_le_mul_right _ (mem_range h .block).2)

/-- **A valid configuration has a rule in use**, and the pattern rule only with a band in which some
length can lie. -/
theorem rules_of_isValid (h : c.isValid = true) :
    (c.rules.volume.enabled = true ∨ c.rules.pattern.enabled = true) ∧
      (c.rules.pattern.enabled = true → c.rules.pattern.band.isSatisfiable = true) := by
  have hfault := (faults_eq_none h).2.2.1
  -- each fault that was not found is a condition that does not hold
  have hnot : ∀ {p : Prop} [Decidable p] {fault : Invalid} {rest : Option Invalid},
      (if p then some fault else rest) = none → ¬ p ∧ rest = none := by
    intro p _ fault rest h
    split at h
    · cases h
    · exact ⟨‹_›, h⟩
  obtain ⟨hrule, hfault⟩ := hnot hfault
  obtain ⟨-, hfault⟩ := hnot hfault
  obtain ⟨-, hfault⟩ := hnot hfault
  obtain ⟨hband, -⟩ := hnot hfault
  constructor
  · simpa [Decidable.or_iff_not_imp_left] using hrule
  · simpa using hband

/-- **No source is both exempt and watched** in a valid configuration. -/
theorem notMem_watched_of_mem_exempt (h : c.isValid = true) {source : Address}
    (hexempt : source ∈ c.sources.exempt) : source ∉ c.sources.watched := by
  have hfind := Option.map_eq_none_iff.mp (faults_eq_none h).2.2.2.1
  simpa using List.find?_eq_none.mp hfind source hexempt

end Config

end SourceGuard
