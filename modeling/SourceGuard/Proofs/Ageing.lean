import SourceGuard.Proofs.Sums
import SourceGuard.Proofs.Watch
import SourceGuard.Setup

/-!
# Ageing

A source that sends nothing more has fewer and fewer records in the window. A volume falls, and so
does a count, so neither can come to exceed a threshold or reach a limit from below. A rule that
fires on one exact count is different: it can start to fire when the count falls to its limit. So a
burst that jumped past the limit is not noticed at the tick after it, but it is when enough of its
records have left the window.

## Main definitions

* `Config.FallsToLimit`: a count falls to the limit of an exact pattern rule

## Main results

* `Config.violates_iff_of_sublist`: how fewer records can violate the rules when more did not
* `Monitor.isCulprit_iff_of_quiet`: when a source that has sent nothing more becomes a culprit
* `Monitor.blocked_by_ageing_iff`: when a tick blocks a source that has sent nothing more
* `Monitor.blocked_by_ageing`: a burst past the limit that is blocked thirty seconds later
-/

namespace SourceGuard

variable {σ : Type}

/-! ## Rules on fewer records -/

namespace Config

open Aggregate (ofRecords volume hits)

variable {c : Config} {band : SizeBand} {old left : List Record}

/-- The rules in use are the volume rule and the pattern rule, as far as they are enabled. -/
theorem mem_ruleSet (c : Config) (rule : Rule) :
    rule ∈ c.ruleSet.rules ↔
      c.rules.volume.enabled = true ∧ rule = Rule.volume c.rules.volume.threshold ∨
        c.rules.pattern.enabled = true ∧
          rule = Rule.pattern c.rules.pattern.limit c.rules.pattern.comparison := by
  unfold ruleSet
  rw [List.mem_append]
  refine or_congr ?_ ?_ <;> split <;> simp [*]

/-- The count of a source falls from above the limit of an exact pattern rule down to it, while the
other rule does not stand in the way. -/
structure FallsToLimit (c : Config) (band : SizeBand) (old left : List Record) : Prop where
  /-- The pattern rule is in use. -/
  enabled : c.rules.pattern.enabled = true
  /-- It fires on one count alone. -/
  exact : c.rules.pattern.comparison = .exact
  /-- The count was above the limit. -/
  above : c.rules.pattern.limit.toNat < hits band old
  /-- The count is the limit. -/
  reached : hits band left = c.rules.pattern.limit.toNat
  /-- If every rule has to fire, the volume rule does so if it is in use. -/
  volume : c.rules.combine = .all → c.rules.volume.enabled = true →
    c.rules.volume.threshold.toNat < volume left

/-- A volume that fires on fewer records fires on all of them. -/
theorem volume_fires_of_sublist (hleft : left.Sublist old) (hfits : volume old < 2 ^ 64)
    {threshold : UInt64} (h : (Rule.volume threshold).fires (ofRecords band left) = true) :
    (Rule.volume threshold).fires (ofRecords band old) = true := by
  have hle := Aggregate.volume_le_of_sublist hleft
  simp only [Rule.volume, decide_eq_true_eq, UInt64.lt_iff_toNat_lt] at h ⊢
  rw [Aggregate.toNat_bytes_ofRecords (Nat.lt_of_le_of_lt hle hfits)] at h
  rw [Aggregate.toNat_bytes_ofRecords hfits]
  exact Nat.lt_of_lt_of_le h hle

/-- **A pattern rule that fires on fewer records alone** compares exactly, and the count has fallen
to its limit. -/
theorem exact_of_pattern_fires (hleft : left.Sublist old) (hfits : volume old < 2 ^ 64)
    {limit : UInt64} {comparison : Comparison}
    (h : (Rule.pattern limit comparison).fires (ofRecords band left) = true)
    (hnot : (Rule.pattern limit comparison).fires (ofRecords band old) = false) :
    comparison = .exact ∧ limit.toNat < hits band old ∧ hits band left = limit.toNat := by
  have hle : hits band left ≤ hits band old := Aggregate.hits_le_of_sublist hleft
  have hfewer := Nat.lt_of_le_of_lt (Aggregate.volume_le_of_sublist hleft) hfits
  have hold : (ofRecords band old).matching.toNat = hits band old :=
    Aggregate.toNat_matching_ofRecords hfits
  have hcount : (ofRecords band left).matching.toNat = hits band left :=
    Aggregate.toNat_matching_ofRecords hfewer
  cases comparison with
  | exact =>
    simp only [Rule.pattern, Comparison.holds, decide_eq_true_eq, decide_eq_false_iff_not,
      ← UInt64.toNat_inj, hold, hcount] at h hnot
    exact ⟨rfl, by omega, h⟩
  | atLeast =>
    simp only [Rule.pattern, Comparison.holds, decide_eq_true_eq, decide_eq_false_iff_not,
      UInt64.le_iff_toNat_le, hold, hcount] at h hnot
    omega

/-- **Fewer records violate the rules when more did not** exactly if the count falls to the limit of
an exact pattern rule. -/
theorem violates_iff_of_sublist (hleft : left.Sublist old) (hfits : volume old < 2 ^ 64)
    (hnot : ¬ c.ruleSet.Violates (ofRecords band old)) :
    c.ruleSet.Violates (ofRecords band left) ↔ c.FallsToLimit band old left := by
  have hfewer := Nat.lt_of_le_of_lt (Aggregate.volume_le_of_sublist hleft) hfits
  have hbytes : (Rule.volume c.rules.volume.threshold).fires (ofRecords band left) = true ↔
      c.rules.volume.threshold.toNat < volume left := by
    simp only [Rule.volume, decide_eq_true_eq, UInt64.lt_iff_toNat_lt,
      Aggregate.toNat_bytes_ofRecords hfewer]
  constructor
  · intro h
    obtain ⟨rule, hrule, hfires, hquiet⟩ := RuleSet.exists_fires_of_violates h hnot
    rcases (mem_ruleSet c rule).mp hrule with ⟨-, rfl⟩ | ⟨henabled, rfl⟩
    · rw [volume_fires_of_sublist hleft hfits hfires] at hquiet
      cases hquiet
    · obtain ⟨hexact, habove, hreached⟩ := exact_of_pattern_fires hleft hfits hfires hquiet
      refine ⟨henabled, hexact, habove, hreached, fun hall hvolume => hbytes.mp ?_⟩
      have hcombine : c.ruleSet.combine = .all := hall
      simp only [RuleSet.Violates, hcombine] at h
      exact h.2 _ ((mem_ruleSet c _).mpr (Or.inl ⟨hvolume, rfl⟩))
  · intro h
    have hmem : Rule.pattern c.rules.pattern.limit c.rules.pattern.comparison ∈ c.ruleSet.rules :=
      (mem_ruleSet c _).mpr (Or.inr ⟨h.enabled, rfl⟩)
    have hpattern : (Rule.pattern c.rules.pattern.limit c.rules.pattern.comparison).fires
        (ofRecords band left) = true := by
      simp only [Rule.pattern, h.exact, Comparison.holds, decide_eq_true_eq, ← UInt64.toNat_inj,
        Aggregate.toNat_matching_ofRecords hfewer, h.reached]
    unfold RuleSet.Violates
    cases hcombine : c.ruleSet.combine with
    | any => exact ⟨_, hmem, hpattern⟩
    | all =>
      refine ⟨List.ne_nil_of_mem hmem, fun rule hrule => ?_⟩
      rcases (mem_ruleSet c rule).mp hrule with ⟨hvolume, rfl⟩ | ⟨-, rfl⟩
      · exact hbytes.mpr (h.volume hcombine hvolume)
      · exact hpattern

end Config

namespace Monitor

variable {m : Monitor} {now : Instant} {source : Address}

/-! ## A source that sends nothing more -/

/-- The culprits of a monitor with the settings of a configuration. -/
theorem isCulprit_iff_of_settings {c : Config} (h : m.settings = (ofConfig c).settings)
    (now : Instant) (source : Address) :
    m.IsCulprit now source ↔
      (m.window.prune now).recordsOf source ≠ [] ∧ c.policy.isEligible source = true ∧
        (∀ e, m.blocks.table.get? source = some e → e.expiry ≤ now) ∧
        c.ruleSet.Violates
          (Aggregate.ofRecords c.rules.pattern.band ((m.window.prune now).recordsOf source)) := by
  have hpolicy : m.policy = c.policy := congrArg Settings.policy h
  have hrules : m.rules = c.ruleSet := congrArg Settings.rules h
  have hsum : (m.window.prune now).sum source =
      Aggregate.ofRecords c.rules.pattern.band ((m.window.prune now).recordsOf source) := by
    have hband : m.window.band = c.rules.pattern.band := congrArg Settings.band h
    rw [← hband]
    rfl
  rw [← hpolicy, ← hrules, ← hsum]
  constructor
  · rintro ⟨hseen, heligible, hfree, hviolates⟩
    exact ⟨hseen, heligible, hfree, hviolates⟩
  · rintro ⟨hseen, heligible, hfree, hviolates⟩
    exact ⟨hseen, heligible, hfree, hviolates⟩

/-- **A source between two ticks.** A tick leaves it without an entry, and it gets neither a record
nor an entry before the next one. It is a culprit of that one exactly if it may be blocked, has a
record left, and its count falls to the limit of an exact pattern rule. -/
theorem isCulprit_iff_of_quiet {c : Config} {quiet : Monitor} {t₁ t₂ : Instant}
    (hm : m.settings = (ofConfig c).settings) (hquiet : quiet.settings = (ofConfig c).settings)
    (hfree : (m.ticked t₁).blocks.isBlocked source = false)
    (hblocks : quiet.blocks = (m.ticked t₁).blocks)
    (hrecords : quiet.window.recordsOf source = (m.ticked t₁).window.recordsOf source)
    (hfits : Aggregate.volume ((m.ticked t₁).window.recordsOf source) < 2 ^ 64) :
    let old := (m.ticked t₁).window.recordsOf source
    let left := (quiet.ticked t₂).window.recordsOf source
    quiet.IsCulprit t₂ source ↔
      c.policy.isEligible source = true ∧ left ≠ [] ∧
        c.FallsToLimit c.rules.pattern.band old left := by
  intro old left
  have hfewer : left.Sublist old := by
    change left.Sublist ((m.ticked t₁).window.recordsOf source)
    rw [← hrecords]
    exact (Window.recordsOf_prune_suffix quiet.window t₂ source).sublist
  have hopen : ∀ e, quiet.blocks.table.get? source = some e → e.expiry ≤ t₂ := by
    intro e he
    rw [hblocks, (Blocks.isBlocked_eq_false_iff _ source).mp hfree] at he
    cases he
  -- the first tick found no culprit in the source, though it had records
  have hbefore : left ≠ [] → c.policy.isEligible source = true →
      ¬ c.ruleSet.Violates (Aggregate.ofRecords c.rules.pattern.band old) := by
    intro hseen heligible hviolates
    obtain ⟨hexpired, hnot⟩ := free_of_isBlocked_ticked hfree
    have hold : old ≠ [] := fun hnone => hseen (List.eq_nil_of_sublist_nil (hnone ▸ hfewer))
    exact hnot
      ((isCulprit_iff_of_settings hm t₁ source).mpr ⟨hold, heligible, hexpired, hviolates⟩)
  rw [isCulprit_iff_of_settings hquiet t₂ source]
  change left ≠ [] ∧ _ ∧ _ ∧ c.ruleSet.Violates (Aggregate.ofRecords _ left) ↔ _
  constructor
  · rintro ⟨hseen, heligible, -, hviolates⟩
    exact ⟨heligible, hseen,
      (c.violates_iff_of_sublist hfewer hfits (hbefore hseen heligible)).mp hviolates⟩
  · rintro ⟨heligible, hseen, hfalls⟩
    exact ⟨hseen, heligible, hopen,
      (c.violates_iff_of_sublist hfewer hfits (hbefore hseen heligible)).mpr hfalls⟩

/-- **Packets of other sources** leave the records of a source and all blocks as they are. -/
theorem recordsOf_watch_of_ne (E : Enforcer σ) (m : Monitor) {packets : List Record}
    (hothers : ∀ r ∈ packets, r.source ≠ source) (s : σ) :
    let after := (m.watch E (packets.map .packet) s).monitor
    after.window.recordsOf source = m.window.recordsOf source ∧ after.blocks = m.blocks := by
  induction packets generalizing m s with
  | nil => exact ⟨rfl, rfl⟩
  | cons r rest ih =>
    obtain ⟨hr, hrest⟩ := List.forall_mem_cons.mp hothers
    obtain ⟨hrecords, hblocks⟩ := ih (m.ingest r).2 hrest s
    exact ⟨hrecords.trans (recordsOf_ingest_of_ne hr m), hblocks.trans (blocks_ingest m r)⟩

/-- **When a tick blocks a source that has sent nothing more.** A tick leaves a source without an
entry, then only packets of other sources arrive, and then comes another tick, at any time. It blocks
the source exactly if the source may be blocked, has a record left, and its count falls to the limit
of an exact pattern rule. So it never does so if patterns are counted from a limit on, or not at
all. -/
theorem blocked_by_ageing_iff (c : Config) (E : Enforcer σ) (hs : List Happening) (t₁ : Instant)
    (packets : List Record) (t₂ : Instant) (s : σ) (source : Address)
    (hothers : ∀ r ∈ packets, r.source ≠ source) :
    let earlier := (ofConfig c).watch E hs s
    let first := earlier.monitor.tick E t₁ earlier.firewall
    let quiet := first.value.2.watch E (packets.map .packet) first.firewall
    let second := quiet.monitor.tick E t₂ quiet.firewall
    let old := first.value.2.window.recordsOf source
    let left := second.value.2.window.recordsOf source
    first.value.2.blocks.isBlocked source = false → Aggregate.volume old < 2 ^ 64 →
      (source ∈ second.value.1.blocked.map (·.1) ↔
        c.policy.isEligible source = true ∧ left ≠ [] ∧
          c.FallsToLimit c.rules.pattern.band old left) := by
  intro earlier first quiet second old left hfree hfits
  have hfirst : first.value.2 = earlier.monitor.ticked t₁ :=
    congrArg Prod.snd (value_tick E earlier.monitor t₁ earlier.firewall)
  have hsecond : second.value.2 = quiet.monitor.ticked t₂ :=
    congrArg Prod.snd (value_tick E quiet.monitor t₂ quiet.firewall)
  -- both ticks are made with the settings of the configuration
  have hearlier : earlier.monitor.settings = (ofConfig c).settings := settings_run E _ _ s
  have hquiet : quiet.monitor.settings = (ofConfig c).settings := by
    refine (settings_run E _ _ first.firewall).trans ?_
    rw [hfirst]
    exact (settings_next earlier.monitor (.tick t₁)).trans hearlier
  obtain ⟨hrecords, hblocks⟩ : quiet.monitor.window.recordsOf source = old ∧
      quiet.monitor.blocks = first.value.2.blocks :=
    recordsOf_watch_of_ne E first.value.2 hothers first.firewall
  have hold : old = (earlier.monitor.ticked t₁).window.recordsOf source :=
    congrArg (·.window.recordsOf source) hfirst
  have hleft : left = (quiet.monitor.ticked t₂).window.recordsOf source :=
    congrArg (·.window.recordsOf source) hsecond
  rw [hfirst] at hfree hblocks
  rw [hold] at hrecords hfits
  rw [mem_map_blocked_tick, hold, hleft]
  exact isCulprit_iff_of_quiet hearlier hquiet hfree hblocks hrecords hfits

/-- Both rules have to fire. The volume exceeds its threshold throughout, and the count is three when
the first tick looks and two when the second one does, since the first packet has left the window. In
between, another source sends a packet. -/
theorem blocked_by_ageing_with_volume :
    let c : Config := { rules := { combine := .all } }
    let E := Enforcer.refusing "recorder" fun _ => some (.rejected "block" "exit status: 4" "denied")
    let source := Address.v4 0x0a000001
    let hs : List Happening := [.packet ⟨source, 120, 0⟩, .packet ⟨source, 120, 1⟩,
      .packet ⟨source, 120, 1⟩, .packet ⟨source, 20001, 1⟩]
    let packets : List Record := [⟨.v4 0x0a000002, 120, 2⟩]
    let earlier := (ofConfig c).watch E hs ()
    let first := earlier.monitor.tick E 1 earlier.firewall
    let quiet := first.value.2.watch E (packets.map .packet) first.firewall
    let second := quiet.monitor.tick E 30000000001 quiet.firewall
    (∀ r ∈ packets, r.source ≠ source) ∧ first.value.2.blocks.isBlocked source = false ∧
      Aggregate.volume (first.value.2.window.recordsOf source) < 2 ^ 64 ∧
        source ∈ second.value.1.blocked.map (·.1) := by
  refine ⟨by decide +kernel, by decide +kernel, by decide +kernel, ?_⟩
  -- the ticks get no names here: a named tick would be evaluated anew for every condition
  refine (blocked_by_ageing_iff _ _ _ _ _ _ _ _ (by decide +kernel) (by decide +kernel)
    (by decide +kernel)).mpr ⟨by decide +kernel, by decide +kernel, ?_⟩
  exact {
    enabled := rfl
    exact := rfl
    above := by decide +kernel
    reached := by decide +kernel
    volume := fun _ _ => by decide +kernel }

/-- **A burst past the limit that is blocked thirty seconds later**, with the default configuration.
Three packets make the count jump past the limit of two before the first tick, which leaves the
source free. It sends nothing more. The second tick finds two of the packets left and blocks the
source. -/
theorem blocked_by_ageing :
    let source := Address.v4 0x0a000001
    let hs : List Happening :=
      [.packet ⟨source, 120, 0⟩, .packet ⟨source, 120, 1⟩, .packet ⟨source, 120, 1⟩]
    let earlier := (ofConfig {}).watch Enforcer.dryRun hs ()
    let first := earlier.monitor.tick Enforcer.dryRun 1 earlier.firewall
    let second := first.value.2.tick Enforcer.dryRun 30000000001 first.firewall
    (hs.map Happening.instant ++ [1, 30000000001]).Pairwise (· ≤ ·) ∧
      first.value.1.blocked = [] ∧ first.value.2.blocks.isBlocked source = false ∧
        first.value.2.window.recordsOf source =
          [⟨source, 120, 0⟩, ⟨source, 120, 1⟩, ⟨source, 120, 1⟩] ∧
        second.value.2.window.recordsOf source = [⟨source, 120, 1⟩, ⟨source, 120, 1⟩] ∧
          source ∈ second.value.1.blocked.map (·.1) := by
  decide +kernel

end Monitor

end SourceGuard
