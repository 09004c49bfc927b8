import SourceGuard.Proofs.Run

/-!
# What an operation does to one source

Seen from one source, an operation leaves its entry alone, re-asserts it, makes one, ends it, or, in
a tick, ends one and makes the next. Each of these goes with its own calls. Everything that holds of
the block of a source in all runs is read off this list of possibilities.

## Main definitions

* `Move`: what a call means for the block of its source
* `Operation.Ends`, `Monitor.Grants`: when an operation ends an entry, and which entry it makes
* `Passage`: the possibilities
* `Step.history`, `Run.history`: the moves of a source, with the answers of the firewall

## Main results

* `Monitor.passage`: an operation does one of these things to a source
* `Monitor.passage_of_mem`: so does every step of a run
-/

namespace SourceGuard

open Emission (asked)

variable {σ : Type}

/-! ## Moves -/

/-- What a call means for the block of its source. -/
inductive Move where
  /-- The block begins. -/
  | block
  /-- The block is asserted once more. -/
  | reassert
  /-- The block ends. -/
  | unblock
deriving DecidableEq, Repr

namespace Operation

/-- What a call of an operation means: only the additions of a re-assertion do not begin a block. -/
def move : Operation → Call → Move
  | .reconcile, .add _ => .reassert
  | _, .add _ => .block
  | _, .remove _ => .unblock

/-- What calls of an operation mean for a source. -/
def movesOf (op : Operation) (source : Address) (calls : List Call) : List Move :=
  (calls.filter (·.source = source)).map op.move

/-- The instant at which an operation releases the expired blocks, if it does. -/
def sweep? : Operation → Option Instant
  | .tick now | .releaseExpired now => some now
  | _ => none

/-- An operation ends an entry if it releases all blocks, or those that have expired and the entry
is among them. -/
def Ends (op : Operation) (e : Entry) : Prop :=
  op = .releaseAll ∨ ∃ now, op.sweep? = some now ∧ e.expiry ≤ now

theorem ends_iff_of_sweep {op : Operation} {now : Instant} (h : op.sweep? = some now) (e : Entry) :
    op.Ends e ↔ e.expiry ≤ now := by
  constructor
  · rintro (rfl | ⟨then', hthen, hle⟩)
    · cases h
    · obtain rfl : now = then' := Option.some.inj (h.symm.trans hthen)
      exact hle
  · intro hle
    exact Or.inr ⟨now, h, hle⟩

/-- Only releases end entries. -/
theorem not_ends {op : Operation} (hall : op ≠ .releaseAll) (hsweep : op.sweep? = none) (e : Entry) :
    ¬ op.Ends e := by
  rintro (h | ⟨now, h, -⟩)
  · exact hall h
  · rw [hsweep] at h
    cases h

end Operation

/-- The entry that an operation makes for a source without an entry, if it makes one. -/
def Monitor.Grants (m : Monitor) (op : Operation) (source : Address) (e : Entry) : Prop :=
  match op with
  | .request target now reason => target = source ∧ e = m.blocks.entryAt now reason
  | .tick now => m.IsCulprit now source ∧ e = m.sentence now source
  | _ => False

/-! ## Passages -/

/-- What an operation can do to a source: the entry before, the moves, and the entry after. -/
inductive Passage (m : Monitor) (op : Operation) (source : Address) :
    Option Entry → List Move → Option Entry → Prop where
  /-- There is no entry, and none is made. -/
  | absent : (∀ e, ¬ m.Grants op source e) → Passage m op source none [] none
  /-- The entry stays, and the firewall is not asked. -/
  | kept (e : Entry) : ¬ op.Ends e → op ≠ .reconcile → Passage m op source (some e) [] (some e)
  /-- The entry stays, and the block is re-asserted. -/
  | reasserted (e : Entry) : op = .reconcile → Passage m op source (some e) [.reassert] (some e)
  /-- An entry is made. -/
  | blocked (e : Entry) : m.Grants op source e → Passage m op source none [.block] (some e)
  /-- The entry goes. -/
  | released (e : Entry) : op.Ends e → (∀ e', ¬ m.Grants op source e') →
      Passage m op source (some e) [.unblock] none
  /-- The entry goes, and the next one is made. -/
  | renewed (e e' : Entry) : op.Ends e → m.Grants op source e' →
      Passage m op source (some e) [.unblock, .block] (some e')

namespace Passage

variable {m : Monitor} {op : Operation} {source : Address} {e : Entry} {before after : Option Entry}
  {moves : List Move}

/-- An entry that is not ended stays, and no other is made. -/
theorem stays (h : Passage m op source (some e) moves after) (hends : ¬ op.Ends e) :
    after = some e := by
  cases h with
  | kept | reasserted => rfl
  | released e hend | renewed e _ hend => exact absurd hend hends

/-- An entry that is ended goes first. -/
theorem goes (h : Passage m op source (some e) moves after) (hends : op.Ends e) :
    moves.head? = some .unblock ∧ (after.isSome → .block ∈ moves) := by
  cases h with
  | kept e hstay => exact absurd hends hstay
  | reasserted e hop => exact absurd hends (hop ▸ Operation.not_ends Operation.noConfusion rfl e)
  | released => exact ⟨rfl, fun h => by cases h⟩
  | renewed => exact ⟨rfl, fun _ => by simp⟩

/-- The entry that is there after a block began is the one that the operation makes. -/
theorem granted (h : Passage m op source before moves (some e)) (hmem : .block ∈ moves) :
    m.Grants op source e := by
  cases h with
  | kept | reasserted => simp at hmem
  | blocked e hgrant | renewed _ e _ hgrant => exact hgrant

/-- A block that begins leaves an entry. -/
theorem isSome_of_block (h : Passage m op source before moves after) (hmem : .block ∈ moves) :
    after.isSome = true := by
  cases h with
  | blocked | renewed => rfl
  | _ => simp at hmem

/-- An entry that is there afterwards was there before or begins. -/
theorem origin (h : Passage m op source before moves (some e)) :
    before = some e ∨ .block ∈ moves := by
  cases h with
  | kept | reasserted => exact Or.inl rfl
  | blocked | renewed => exact Or.inr (by simp)

end Passage

/-- Calls for different sources concern a source once or not at all. -/
theorem filter_source_map {call : Address → Call} (hcall : ∀ a, (call a).source = a)
    {sources : List Address} (hsources : sources.Pairwise (· < ·)) (source : Address) :
    (sources.map call).filter (·.source = source) = if source ∈ sources then [call source] else [] := by
  induction sources with
  | nil => rfl
  | cons a rest ih =>
    obtain ⟨hhead, htail⟩ := List.pairwise_cons.mp hsources
    rw [List.map_cons]
    by_cases h : a = source
    · subst h
      have hnot : a ∉ rest := fun hmem => Address.lt_irrefl a (hhead a hmem)
      rw [List.filter_cons_of_pos (by simp [hcall]), ih htail, if_neg hnot,
        if_pos List.mem_cons_self]
    · rw [List.filter_cons_of_neg (by simp [hcall, h]), ih htail]
      simp [Ne.symm h]

namespace Monitor

theorem movesOf_tick (m : Monitor) (now : Instant) (source : Address) :
    (Operation.tick now).movesOf source (m.demands (.tick now)) =
      (if source ∈ m.blocks.expired now then [.unblock] else []) ++
        if source ∈ (m.culprits now).map (·.source) then [.block] else [] := by
  have hculprits : (m.culprits now).map (.add ·.source) =
      ((m.culprits now).map (·.source)).map Call.add := List.map_map.symm
  rw [Operation.movesOf, demands, hculprits, List.filter_append, List.map_append,
    filter_source_map (fun _ => rfl) (Blocks.expired_ascending m.blocks now),
    filter_source_map (fun _ => rfl) (List.pairwise_map.mpr (culprits_ascending m now))]
  congr 1 <;> split <;> rfl

theorem passage_tick (m : Monitor) (now : Instant) (source : Address) :
    Passage m (.tick now) source (m.blocks.table.get? source)
      ((Operation.tick now).movesOf source (m.demands (.tick now)))
      ((m.ticked now).blocks.table.get? source) := by
  have hnew := get?_ticked m now source
  have hexpired := Blocks.mem_expired m.blocks now source
  rw [movesOf_tick]
  -- a culprit gets an entry whether it had one that has expired or none
  by_cases hculprit : m.IsCulprit now source
  · rw [(hnew _).mpr (Or.inr ⟨hculprit, rfl⟩), if_pos ((mem_map_source_culprits ..).mpr hculprit)]
    cases hold : m.blocks.table.get? source with
    | none =>
      rw [if_neg (by simp [hexpired, hold])]
      exact .blocked _ ⟨hculprit, rfl⟩
    | some e =>
      have he := hculprit.free e hold
      rw [if_pos (hexpired.mpr ⟨e, hold, he⟩)]
      exact .renewed e _ (Or.inr ⟨now, rfl, he⟩) ⟨hculprit, rfl⟩
  · have hgrants : ∀ e, ¬ m.Grants (.tick now) source e := fun e h => hculprit h.1
    rw [if_neg (mt (mem_map_source_culprits ..).mp hculprit), List.append_nil]
    have hgone : (∀ e, m.blocks.table.get? source = some e → e.expiry ≤ now) →
        (m.ticked now).blocks.table.get? source = none := by
      intro h
      refine Option.eq_none_iff_forall_ne_some.mpr fun e he => ?_
      rcases (hnew e).mp he with ⟨hold, hlt⟩ | ⟨h', -⟩
      · exact Int.not_lt.mpr (h e hold) hlt
      · exact hculprit h'
    cases hold : m.blocks.table.get? source with
    | none =>
      rw [if_neg (by simp [hexpired, hold]), hgone (by simp [hold])]
      exact .absent hgrants
    | some e =>
      by_cases he : e.expiry ≤ now
      · rw [if_pos (hexpired.mpr ⟨e, hold, he⟩), hgone (by simpa [hold] using he)]
        exact .released e (Or.inr ⟨now, rfl, he⟩) hgrants
      · rw [if_neg (by simpa [hexpired, hold] using he),
          (hnew e).mpr (Or.inl ⟨hold, Int.not_le.mp he⟩)]
        exact .kept e (mt (Operation.ends_iff_of_sweep rfl e).mp he) Operation.noConfusion

/-- **A release of sources** ends the blocks of those sources, if they are the ones whose entries the
operation ends. -/
theorem passage_of_drop (m : Monitor) {op : Operation} {sources : List Address}
    (hsources : sources.Pairwise (· < ·)) (hdemands : m.demands op = sources.map .remove)
    (hnext : (m.next op).blocks = m.blocks.drop sources) (hop : op ≠ .reconcile)
    (source : Address)
    (hmem : source ∈ sources ↔ ∃ e, m.blocks.table.get? source = some e ∧ op.Ends e)
    (hgrants : ∀ e, ¬ m.Grants op source e) :
    Passage m op source (m.blocks.table.get? source) (op.movesOf source (m.demands op))
      ((m.next op).blocks.table.get? source) := by
  have hmove : op.move (.remove source) = .unblock := by cases op <;> rfl
  rw [hnext, Blocks.get?_drop, Operation.movesOf, hdemands, filter_source_map (fun _ => rfl) hsources]
  cases hold : m.blocks.table.get? source with
  | none =>
    have hnot : source ∉ sources := by simp [hmem, hold]
    rw [if_neg hnot, if_neg hnot]
    exact .absent hgrants
  | some e =>
    have hends : source ∈ sources ↔ op.Ends e := by simp [hmem, hold]
    by_cases he : source ∈ sources
    · rw [if_pos he, if_pos he, List.map_singleton, hmove]
      exact .released e (hends.mp he) hgrants
    · rw [if_neg he, if_neg he]
      exact .kept e (mt hends.mpr he) hop

theorem passage_request (m : Monitor) (target : Address) (now : Instant) (reason : String)
    (source : Address) :
    Passage m (.request target now reason) source (m.blocks.table.get? source)
      ((Operation.request target now reason).movesOf source (m.demands (.request target now reason)))
      ((m.blocks.grant target now reason).table.get? source) := by
  rw [Blocks.get?_grant, demands]
  cases hold : m.blocks.table.get? source with
  | some e =>
    -- whichever source is requested, this one is not called for
    have hmoves : (Operation.request target now reason).movesOf source
        (if m.blocks.isBlocked target then [] else [.add target]) = [] := by
      by_cases h : target = source
      · rw [if_pos ((Blocks.isBlocked_iff ..).mpr ⟨e, h ▸ hold⟩)]
        rfl
      · split <;> simp [Operation.movesOf, Call.source, h]
    rw [hmoves, Option.some_or]
    exact .kept e (Operation.not_ends Operation.noConfusion rfl e) Operation.noConfusion
  | none =>
    rw [Option.none_or]
    by_cases h : source = target
    · have hfree : ¬ m.blocks.isBlocked target = true := by
        rw [Bool.not_eq_true, Blocks.isBlocked_eq_false_iff, ← h]
        exact hold
      rw [if_pos h, if_neg hfree, Operation.movesOf, List.filter_cons_of_pos (by simp [Call.source, h])]
      exact .blocked _ ⟨h.symm, rfl⟩
    · have hmoves : (Operation.request target now reason).movesOf source
          (if m.blocks.isBlocked target then [] else [.add target]) = [] := by
        split <;> simp [Operation.movesOf, Call.source, Ne.symm h]
      rw [if_neg h, hmoves]
      exact .absent fun e hgrant => h hgrant.1.symm

theorem passage_reconcile (m : Monitor) (source : Address) :
    Passage m .reconcile source (m.blocks.table.get? source)
      (Operation.reconcile.movesOf source (m.demands .reconcile)) (m.blocks.table.get? source) := by
  have hmem := m.blocks.table.mem_sources source
  rw [Operation.movesOf, demands, filter_source_map (fun _ => rfl) m.blocks.table.sources_ascending]
  cases hold : m.blocks.table.get? source with
  | none =>
    rw [if_neg (by simp [hmem, AddressMap.contains, hold])]
    exact .absent fun e h => h
  | some e =>
    rw [if_pos (by simp [hmem, AddressMap.contains, hold])]
    exact .reasserted e rfl

/-- An operation that neither calls the firewall nor changes the table does nothing to a source. -/
theorem passage_of_idle (m : Monitor) {op : Operation} (hdemands : m.demands op = [])
    (htable : (m.next op).blocks.table = m.blocks.table) (hop : op ≠ .reconcile)
    (source : Address) (hends : ∀ e, ¬ op.Ends e) (hgrants : ∀ e, ¬ m.Grants op source e) :
    Passage m op source (m.blocks.table.get? source) (op.movesOf source (m.demands op))
      ((m.next op).blocks.table.get? source) := by
  rw [hdemands, htable]
  cases m.blocks.table.get? source with
  | none => exact .absent hgrants
  | some e => exact .kept e (hends e) hop

/-- **An operation** does one of the possible things to a source. -/
theorem passage (m : Monitor) (op : Operation) (source : Address) :
    Passage m op source (m.blocks.table.get? source) (op.movesOf source (m.demands op))
      ((m.next op).blocks.table.get? source) := by
  cases op with
  | tick now => exact passage_tick m now source
  | request target now reason => exact passage_request m target now reason source
  | reconcile => exact passage_reconcile m source
  | releaseExpired now =>
    refine passage_of_drop m (Blocks.expired_ascending m.blocks now) rfl rfl Operation.noConfusion
      source ?_ fun e h => h
    have hends : ∀ e, (Operation.releaseExpired now).Ends e ↔ e.expiry ≤ now :=
      Operation.ends_iff_of_sweep rfl
    simp only [Blocks.mem_expired, hends]
  | releaseAll =>
    have hnext : (m.next .releaseAll).blocks = m.blocks.drop m.blocks.table.sources :=
      m.blocks.drop_sources.symm
    refine passage_of_drop m m.blocks.table.sources_ascending rfl hnext Operation.noConfusion source
      ?_ fun e h => h
    rw [AddressMap.mem_sources, AddressMap.contains, Option.isSome_iff_exists]
    exact exists_congr fun e => ⟨fun he => ⟨he, Or.inl rfl⟩, fun he => he.1⟩
  | ingest r =>
    have htable : (m.next (.ingest r)).blocks.table = m.blocks.table := by
      rw [next]
      unfold ingest
      split <;> rfl
    exact m.passage_of_idle rfl htable Operation.noConfusion source
      (Operation.not_ends Operation.noConfusion rfl) fun e h => h
  | _ =>
    -- the other operations leave the table alone and ask nothing
    exact m.passage_of_idle rfl rfl Operation.noConfusion source
      (Operation.not_ends Operation.noConfusion rfl) fun e h => h

end Monitor

/-! ## Histories -/

/-- The moves of a source in a step, with the answers of the firewall. -/
def Step.history (step : Step) (source : Address) : List (Move × Option EnforcementError) :=
  ((Emission.calls step.trace).filter (·.1.source = source)).map fun x =>
    (step.operation.move x.1, x.2)

/-- The moves of a source in a run, with the answers of the firewall. -/
def Run.history (run : Run σ) (source : Address) : List (Move × Option EnforcementError) :=
  run.steps.flatMap (·.history source)

/-- The moves of a source in a step. -/
def Step.moves (step : Step) (source : Address) : List Move := (step.history source).map (·.1)

/-- The moves of a source in a run. -/
def Run.moves (run : Run σ) (source : Address) : List Move := (run.history source).map (·.1)

theorem Run.mem_moves {run : Run σ} {source : Address} {move : Move} :
    move ∈ run.moves source ↔ ∃ step ∈ run.steps, move ∈ step.moves source := by
  rw [moves, history, List.map_flatMap, List.mem_flatMap]
  rfl

theorem Step.moves_eq (step : Step) (source : Address) :
    step.moves source = step.operation.movesOf source (asked step.trace) := by
  rw [moves, history, Operation.movesOf, asked, List.map_map, List.filter_map, List.map_map]
  rfl

namespace Monitor

/-- **Every step of a run** does one of the possible things to a source. -/
theorem passage_of_mem (E : Enforcer σ) {ops : List Operation} {m : Monitor} {s : σ} {step : Step}
    (h : step ∈ (m.run E ops s).steps) (source : Address) :
    Passage step.before step.operation source (step.before.blocks.table.get? source)
      (step.moves source) (step.after.blocks.table.get? source) := by
  obtain ⟨hafter, hasked⟩ := step_of_mem E h
  rw [hafter, Step.moves_eq, hasked]
  exact passage step.before step.operation source

end Monitor

end SourceGuard
