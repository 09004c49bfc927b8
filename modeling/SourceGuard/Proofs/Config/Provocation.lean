import SourceGuard.Proofs.Ageing
import SourceGuard.Proofs.Capture.Polling
import SourceGuard.Proofs.Config.Validity
import SourceGuard.Proofs.Justification

/-!
# Every valid configuration can block

The checks of a configuration are there to refuse one that could never block anybody. They go as far
as that: a valid configuration has a rule in use, its pattern rule counts lengths that occur, and no
watched source is exempt. So there is traffic that makes all its rules fire at once, however they are
combined and however counts are compared: as many packets in the band as the pattern rule counts, and
then packets outside the band until the volume exceeds the threshold. One tick blocks their source.

Thresholds below `2 ^ 62` and limits below `2 ^ 30` keep all sums below `2 ^ 64`.

## Main definitions

* `SizeBand.shortest`, `SizeBand.beyond`: a length in the band, and one outside it
* `Config.burst`: the lengths of packets that make all rules fire
* `volley`: packets of one source at one instant

## Main results

* `SizeBand.isSatisfiable_iff`: a band that passes the check is one with a length in it
* `Config.fires_burst`: a burst makes every rule in use fire
* `Config.exists_allows`: somebody may be blocked
* `Monitor.isCulprit_of_burst`: whoever may be blocked is a culprit after a burst
* `Config.exists_provocation`: every valid configuration can block
-/

namespace SourceGuard

variable {σ : Type}

/-! ## Lengths in a band and outside it -/

namespace SizeBand

variable {band : SizeBand}

/-- The shortest length in a band, if there is any. -/
def shortest (band : SizeBand) : UInt32 := band.above + 1

/-- A length of at least one byte that is too long for a band. -/
def beyond (band : SizeBand) : UInt32 := if band.below = 0 then 1 else band.below

theorem contains_shortest (h : band.isSatisfiable = true) : band.contains band.shortest = true := by
  have hroom : band.above.toNat + 1 < band.below.toNat := of_decide_eq_true h
  have hbelow := band.below.toNat_lt
  have hnext : band.shortest.toNat = band.above.toNat + 1 := by
    rw [shortest, UInt32.toNat_add, UInt32.toNat_one]
    exact Nat.mod_eq_of_lt (by omega)
  simp only [contains, Bool.and_eq_true, decide_eq_true_eq, UInt32.lt_iff_toNat_lt, hnext]
  omega

theorem contains_beyond (band : SizeBand) : band.contains band.beyond = false := by
  unfold contains beyond
  split
  · rename_i h
    simp [h]
  · simp

theorem beyond_pos (band : SizeBand) : 0 < band.beyond.toNat := by
  unfold beyond
  split
  · decide
  · rename_i h
    exact Nat.pos_of_ne_zero fun hzero => h (UInt32.toNat_inj.mp hzero)

/-- **A band passes the check** exactly if some length lies in it. -/
theorem isSatisfiable_iff (band : SizeBand) :
    band.isSatisfiable = true ↔ ∃ size, band.contains size = true := by
  constructor
  · exact fun h => ⟨band.shortest, contains_shortest h⟩
  · rintro ⟨size, h⟩
    simp only [contains, Bool.and_eq_true, decide_eq_true_eq, UInt32.lt_iff_toNat_lt] at h
    exact decide_eq_true (by omega)

end SizeBand

/-! ## Packets of one source at one instant -/

/-- Packets of given lengths that one source sends at one instant. -/
def volley (source : Address) (now : Instant) (sizes : List UInt32) : List Record :=
  sizes.map fun size => ⟨source, size, now⟩

namespace Aggregate

variable (source : Address) (now : Instant) (sizes : List UInt32)

theorem volume_volley : volume (volley source now sizes) = (sizes.map (·.toNat)).sum := by
  rw [volume, volley, List.map_map]
  rfl

theorem hits_volley (band : SizeBand) :
    hits band (volley source now sizes) = sizes.countP band.contains := by
  rw [hits, volley, List.countP_map]
  rfl

end Aggregate

/-! ## Bursts -/

namespace Config

variable {c : Config}

/-- The lengths of packets that make all rules fire: as many in the band as the pattern rule counts,
and then so many beyond it that the volume exceeds the threshold. -/
def burst (c : Config) : List UInt32 :=
  let band := c.rules.pattern.band
  List.replicate c.rules.pattern.limit.toNat band.shortest ++
    List.replicate (c.rules.volume.threshold.toNat / band.beyond.toNat + 1) band.beyond

theorem sum_burst (c : Config) :
    (c.burst.map (·.toNat)).sum =
      c.rules.pattern.limit.toNat * c.rules.pattern.band.shortest.toNat +
        (c.rules.volume.threshold.toNat / c.rules.pattern.band.beyond.toNat + 1) *
          c.rules.pattern.band.beyond.toNat := by
  simp [burst]

/-- The bytes of a burst exceed the threshold. -/
theorem threshold_lt_sum_burst (c : Config) :
    c.rules.volume.threshold.toNat < (c.burst.map (·.toNat)).sum := by
  have hbeyond := c.rules.pattern.band.beyond_pos
  have hmore := Nat.lt_mul_div_succ c.rules.volume.threshold.toNat hbeyond
  rw [Nat.mul_comm] at hmore
  rw [sum_burst]
  exact Nat.lt_of_lt_of_le hmore (Nat.le_add_left _ _)

/-- The bytes of a burst fit in 64 bits. -/
theorem sum_burst_lt (hthreshold : c.rules.volume.threshold.toNat < 2 ^ 62)
    (hlimit : c.rules.pattern.limit.toNat < 2 ^ 30) : (c.burst.map (·.toNat)).sum < 2 ^ 64 := by
  have hmatching : c.rules.pattern.limit.toNat * c.rules.pattern.band.shortest.toNat ≤
      2 ^ 30 * 2 ^ 32 :=
    Nat.mul_le_mul (Nat.le_of_lt hlimit) (Nat.le_of_lt (UInt32.toNat_lt _))
  have hothers := Nat.div_mul_le_self c.rules.volume.threshold.toNat
    c.rules.pattern.band.beyond.toNat
  have hbeyond := c.rules.pattern.band.beyond.toNat_lt
  rw [sum_burst, Nat.add_mul, Nat.one_mul]
  omega

/-- **As many packets of a burst lie in the band** as the pattern rule counts. -/
theorem countP_burst (h : c.rules.pattern.band.isSatisfiable = true) :
    c.burst.countP c.rules.pattern.band.contains = c.rules.pattern.limit.toNat := by
  have hshortest := SizeBand.contains_shortest h
  have hbeyond := c.rules.pattern.band.contains_beyond
  simp [burst, List.countP_replicate, hshortest, hbeyond]

open Aggregate (ofRecords volume hits)

/-- **A burst makes every rule in use fire**, whichever source sends it. -/
theorem fires_burst (hvalid : c.isValid = true)
    (hthreshold : c.rules.volume.threshold.toNat < 2 ^ 62)
    (hlimit : c.rules.pattern.limit.toNat < 2 ^ 30) (source : Address) (now : Instant) :
    ∀ rule ∈ c.ruleSet.rules,
      rule.fires (ofRecords c.rules.pattern.band (volley source now c.burst)) = true := by
  have hfits : volume (volley source now c.burst) < 2 ^ 64 := by
    rw [Aggregate.volume_volley]
    exact sum_burst_lt hthreshold hlimit
  intro rule hrule
  rcases (mem_ruleSet c rule).mp hrule with ⟨-, rfl⟩ | ⟨henabled, rfl⟩
  · refine decide_eq_true (UInt64.lt_iff_toNat_lt.mpr ?_)
    rw [Aggregate.toNat_bytes_ofRecords hfits, Aggregate.volume_volley]
    exact threshold_lt_sum_burst c
  · have hcount : (ofRecords c.rules.pattern.band (volley source now c.burst)).matching =
        c.rules.pattern.limit := by
      rw [← UInt64.toNat_inj, Aggregate.toNat_matching_ofRecords hfits, Aggregate.hits_volley,
        countP_burst ((rules_of_isValid hvalid).2 henabled)]
    -- the count is the limit, which either comparison accepts
    change c.rules.pattern.comparison.holds (ofRecords _ _).matching c.rules.pattern.limit = true
    rw [hcount]
    cases c.rules.pattern.comparison with
    | exact => exact decide_eq_true rfl
    | atLeast => exact decide_eq_true (UInt64.le_refl _)

/-- A valid configuration has a rule. -/
theorem rules_ne_nil (hvalid : c.isValid = true) : c.ruleSet.rules ≠ [] := by
  rcases (rules_of_isValid hvalid).1 with h | h
  · exact List.ne_nil_of_mem ((mem_ruleSet c _).mpr (Or.inl ⟨h, rfl⟩))
  · exact List.ne_nil_of_mem ((mem_ruleSet c _).mpr (Or.inr ⟨h, rfl⟩))

/-- **Somebody may be blocked**: the first watched source, or one that is not exempt if no sources
are watched. -/
theorem exists_allows (hvalid : c.isValid = true)
    (hopen : c.sources.watched ≠ [] ∨ ∃ a, a ∉ c.sources.exempt) : ∃ source, c.Allows source := by
  by_cases hwatched : c.sources.watched = []
  · obtain ⟨a, ha⟩ := hopen.resolve_left (not_not_intro hwatched)
    exact ⟨a, ha, fun h => absurd hwatched h⟩
  · obtain ⟨a, ha⟩ := List.exists_mem_of_ne_nil _ hwatched
    exact ⟨a, fun hexempt => notMem_watched_of_mem_exempt hvalid hexempt ha, fun _ => ha⟩

end Config

namespace Monitor

variable (c : Config) (source : Address) (now : Instant) (sizes : List UInt32)

/-- The window of a configuration's monitor after packets of one source. -/
theorem records_volley :
    ((ofConfig c).ingestAll (volley source now sizes)).window.records = volley source now sizes := by
  rw [window_ingestAll, records_ofConfig, List.nil_append, List.filter_eq_self]
  exact fun r _ => rfl

/-- **What a source sends at the instant of a tick** is all there at that tick. -/
theorem recordsOf_prune_volley :
    (((ofConfig c).ingestAll (volley source now sizes)).window.prune now).recordsOf source =
      volley source now sizes := by
  -- the first packet is not older than the window's span, and stops the pruning
  have hfresh : ∀ w : Window, (volley source now sizes).dropWhile (w.isStale now) =
      volley source now sizes := by
    intro w
    cases sizes with
    | nil => rfl
    | cons size rest =>
      refine List.dropWhile_cons_of_neg fun hstale => ?_
      have hold := Int.sub_le_self now (Int.natCast_nonneg w.span)
      exact absurd (of_decide_eq_true hstale) (Int.not_lt.mpr hold)
  rw [Window.recordsOf, Window.records_prune, records_volley, hfresh, List.filter_eq_self]
  simp [volley]

variable {c} {source}

/-- **Whoever may be blocked is a culprit after a burst.** -/
theorem isCulprit_of_burst (hvalid : c.isValid = true)
    (hthreshold : c.rules.volume.threshold.toNat < 2 ^ 62)
    (hlimit : c.rules.pattern.limit.toNat < 2 ^ 30) (hallows : c.Allows source) :
    ((ofConfig c).ingestAll (volley source now c.burst)).IsCulprit now source := by
  let m := (ofConfig c).ingestAll (volley source now c.burst)
  have hsettings : m.settings = (ofConfig c).settings := settings_ingestAll _ _
  have hrules : m.rules = c.ruleSet := congrArg Settings.rules hsettings
  have hpolicy : m.policy = c.policy := congrArg Settings.policy hsettings
  have hband : m.window.band = c.rules.pattern.band := congrArg Settings.band hsettings
  have hrecords : (m.window.prune now).recordsOf source = volley source now c.burst :=
    recordsOf_prune_volley c source now c.burst
  constructor
  case seen =>
    rw [hrecords]
    simp [volley, Config.burst]
  case eligible =>
    rw [hpolicy]
    exact (c.isEligible_policy source).mpr hallows
  case free =>
    intro e he
    rw [blocks_ingestAll, table_ofConfig, AddressMap.get?_empty] at he
    cases he
  case violates =>
    have hsum : (m.window.prune now).sum source =
        Aggregate.ofRecords c.rules.pattern.band (volley source now c.burst) := by
      rw [Window.sum, hrecords, ← hband]
      rfl
    rw [hrules, hsum]
    exact RuleSet.violates_of_fires (Config.rules_ne_nil hvalid)
      (Config.fires_burst hvalid hthreshold hlimit source now)

end Monitor

/-! ## Provocations -/

/-- **Every valid configuration can block.** If its threshold and its limit are not so large that
sums of 64 bits may not reach them, and somebody is watched or not exempt, then some source can send
packets at one instant so that the tick at that instant blocks it, whatever the firewall answers. The
check of the band refuses exactly the bands in which no length lies. -/
theorem Config.exists_provocation (E : Enforcer σ) (s : σ) (now : Instant) :
    (∀ c : Config, c.isValid = true → c.rules.volume.threshold.toNat < 2 ^ 62 →
      c.rules.pattern.limit.toNat < 2 ^ 30 →
      (c.sources.watched ≠ [] ∨ ∃ a, a ∉ c.sources.exempt) →
      ∃ source, ∃ sizes : List UInt32,
        let m := (Monitor.ofConfig c).ingestAll (sizes.map fun size => ⟨source, size, now⟩)
        let out := m.tick E now s
        source ∈ out.value.1.blocked.map (·.1) ∧ out.value.2.blocks.isBlocked source = true) ∧
      ∀ band : SizeBand, band.isSatisfiable = true ↔ ∃ size, band.contains size = true := by
  refine ⟨fun c hvalid hthreshold hlimit hopen => ?_, SizeBand.isSatisfiable_iff⟩
  obtain ⟨source, hallows⟩ := exists_allows hvalid hopen
  have hculprit := Monitor.isCulprit_of_burst now hvalid hthreshold hlimit hallows
  refine ⟨source, c.burst, ?_, ?_⟩
  · exact (Monitor.mem_map_blocked_tick E _ now s source).mpr hculprit
  · rw [Monitor.value_tick, Blocks.isBlocked_iff]
    exact ⟨_, (Monitor.get?_ticked _ now source _).mpr (Or.inr ⟨hculprit, rfl⟩)⟩

/-- Both rules have to fire, the pattern rule on one exact count, and only two sources may be blocked:
one of them is, at a tick before the origin of the clock. -/
theorem Config.exists_provocation_of_all :
    let watched := [Address.v6 1, Address.v4 0x0a000001]
    let c : Config :=
      { rules := { combine := .all, pattern := { limit := 3, band := ⟨0, 2⟩ } }
        sources := { watched } }
    let E := Enforcer.refusing "recorder" fun _ => some (.rejected "block" "exit status: 4" "denied")
    (c.isValid = true ∧ c.rules.volume.threshold.toNat < 2 ^ 62 ∧
        c.rules.pattern.limit.toNat < 2 ^ 30 ∧ c.sources.watched ≠ []) ∧
      ∃ source, ∃ sizes : List UInt32,
        let m := (Monitor.ofConfig c).ingestAll (sizes.map fun size => ⟨source, size, -5⟩)
        let out := m.tick E (-5) ()
        source ∈ out.value.1.blocked.map (·.1) ∧ out.value.2.blocks.isBlocked source = true := by
  intro watched c E
  have hvalid : c.isValid = true := by decide +kernel
  exact ⟨⟨hvalid, by decide, by decide, by decide⟩,
    (Config.exists_provocation E () (-5)).1 c hvalid (by decide) (by decide)
      (Or.inl (by decide))⟩

end SourceGuard
