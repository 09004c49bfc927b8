import SourceGuard.Blocks

/-!
# What the block table does, whatever the firewall answers

Requests, releases and re-assertions ask the firewall something and change the table. What they ask
and what they leave in the table are functions of the table alone: the answers of the firewall
decide only the outcome that is reported and the events.

## Main definitions

* `Emission.asked`: the calls of a trace, without the answers
* `Blocks.grant`, `Blocks.drop`: the table after a request, and after a release

## Main results

* `Blocks.value_request`, `Blocks.asked_request`: what a request does and asks
* `Blocks.value_releaseEach`, `Blocks.asked_releaseEach`: what a release of sources does and asks
* `Blocks.get?_grant`, `Blocks.get?_drop_expired`: the entries of a source afterwards
-/

namespace SourceGuard

/-! ## What a trace asks -/

namespace Emission

/-- The calls of a trace, in order and without the answers. -/
def asked (trace : List Emission) : List Call := (calls trace).map (·.1)

@[simp] theorem calls_map_event (events : List Event) : calls (events.map .event) = [] := by
  simp [calls, List.filterMap_map]

@[simp] theorem asked_nil : asked [] = [] := rfl

@[simp] theorem asked_append (t u : List Emission) : asked (t ++ u) = asked t ++ asked u := by
  rw [asked, calls_append, List.map_append]
  rfl

@[simp] theorem asked_event (e : Event) (t : List Emission) : asked (.event e :: t) = asked t := rfl

end Emission

open Emission (asked)

variable {σ : Type}

/-- What is made of the value of an action leaves no trace. -/
theorem Action.trace_bind_pure {α β : Type} (x : Action σ α) (f : α → β) (s : σ) :
    ((x >>= fun a => pure (f a)) s).trace = (x s).trace :=
  List.append_nil _

namespace Enforcer

@[simp] theorem calls_perform (E : Enforcer σ) (c : Call) (s : σ) :
    Emission.calls (E.perform c s).trace = [(c, (E.answer c s).1.failure)] := by
  change (c, (E.answer c s).1.failure) :: Emission.calls (List.map _ _) = _
  rw [Emission.calls_map_event]

@[simp] theorem asked_perform (E : Enforcer σ) (c : Call) (s : σ) :
    asked (E.perform c s).trace = [c] := by
  rw [asked, calls_perform]
  rfl

end Enforcer

namespace Blocks

/-! ## Requests -/

/-- The table after a request: a source without an entry gets one, and an entry stays as it is. -/
def grant (b : Blocks) (source : Address) (now : Instant) (reason : String) : Blocks :=
  if b.isBlocked source then b
  else { b with table := b.table.insert source (b.entryAt now reason) }

@[simp] theorem requested_grant (b : Blocks) (source : Address) (now : Instant) (reason : String) :
    (b.grant source now reason).requested = b.requested := by
  unfold grant
  split <;> rfl

@[simp] theorem entryAt_grant (b : Blocks) (source : Address) (now then' : Instant)
    (reason reason' : String) :
    (b.grant source now reason).entryAt then' reason' = b.entryAt then' reason' := by
  simp only [entryAt, span, requested_grant]

theorem isBlocked_iff (b : Blocks) (source : Address) :
    b.isBlocked source = true ↔ ∃ e, b.table.get? source = some e := by
  rw [isBlocked, AddressMap.contains, Option.isSome_iff_exists]

theorem isBlocked_eq_false_iff (b : Blocks) (source : Address) :
    b.isBlocked source = false ↔ b.table.get? source = none := by
  rw [isBlocked, AddressMap.contains, Option.isSome_eq_false_iff, Option.isNone_iff_eq_none]

/-- **The entry of a source after a request** is the one it had, or else the requested one. -/
theorem get?_grant (b : Blocks) (source other : Address) (now : Instant) (reason : String) :
    (b.grant source now reason).table.get? other =
      (b.table.get? other).or (if other = source then some (b.entryAt now reason) else none) := by
  unfold grant
  split
  · rename_i hblocked
    obtain ⟨e, he⟩ := (isBlocked_iff b source).mp hblocked
    by_cases h : other = source
    · rw [h, he, Option.some_or]
    · rw [if_neg h, Option.or_none]
  · rename_i hfree
    have hnone := (isBlocked_eq_false_iff b source).mp (Bool.not_eq_true _ ▸ hfree)
    rw [AddressMap.get?_insert]
    by_cases h : other = source
    · rw [if_pos h, if_pos h, h, hnone, Option.none_or]
    · rw [if_neg h, if_neg h, Option.or_none]

theorem value_request (E : Enforcer σ) (b : Blocks) (source : Address) (now : Instant)
    (reason : String) (s : σ) :
    (b.request E source now reason s).value.2 = b.grant source now reason := by
  unfold request grant
  split
  · rfl
  · rw [Action.value_bind]
    cases (E.perform (.add source) s).value <;> rfl

/-- A request is refused exactly for a source that has an entry. -/
theorem outcome_request (E : Enforcer σ) (b : Blocks) (source : Address) (now : Instant)
    (reason : String) (s : σ) :
    (b.request E source now reason s).value.1 = .alreadyBlocked ↔ b.isBlocked source = true := by
  unfold request
  split
  · simp [*]
  · rw [Action.value_bind]
    cases (E.perform (.add source) s).value <;> simp [*]

/-- A request for a source that has an entry does nothing at all. -/
theorem request_of_isBlocked (E : Enforcer σ) {b : Blocks} {source : Address}
    (h : b.isBlocked source = true) (now : Instant) (reason : String) (s : σ) :
    b.request E source now reason s = ⟨(.alreadyBlocked, b), s, []⟩ := by
  rw [request, if_pos h, Action.pure_apply]

theorem asked_request (E : Enforcer σ) (b : Blocks) (source : Address) (now : Instant)
    (reason : String) (s : σ) :
    asked (b.request E source now reason s).trace =
      if b.isBlocked source then [] else [.add source] := by
  unfold request
  split
  · rfl
  · rw [Action.trace_bind, Emission.asked_append, Enforcer.asked_perform]
    cases (E.perform (.add source) s).value <;> rfl

/-! ## Releases -/

/-- The table after the release of sources. -/
def drop (b : Blocks) (sources : List Address) : Blocks :=
  { b with table := b.table.filter fun e => !sources.contains e.1 }

@[simp] theorem entryAt_drop (b : Blocks) (sources : List Address) (now : Instant)
    (reason : String) : (b.drop sources).entryAt now reason = b.entryAt now reason := rfl

theorem drop_nil (b : Blocks) : b.drop [] = b := by
  have h : b.table.filter (fun e => !([] : List Address).contains e.1) = b.table :=
    AddressMap.ext_entries (List.filter_eq_self.mpr fun _ _ => rfl)
  rw [drop, h]

theorem erase_drop (b : Blocks) (source : Address) (rest : List Address) :
    drop { b with table := b.table.erase source } rest = b.drop (source :: rest) := by
  unfold drop
  congr 1
  apply AddressMap.ext_entries
  simp only [AddressMap.entries_filter, AddressMap.entries_erase, List.filter_filter]
  refine List.filter_congr fun e _ => ?_
  by_cases h : e.1 = source <;> simp [h]

theorem get?_drop (b : Blocks) (sources : List Address) (source : Address) :
    (b.drop sources).table.get? source =
      if source ∈ sources then none else b.table.get? source := by
  rw [drop, AddressMap.get?_filter]
  cases b.table.get? source <;> by_cases h : source ∈ sources <;> simp [h]

theorem value_releaseEach (E : Enforcer σ) (cause : ReleaseCause) (sources : List Address)
    (b : Blocks) (s : σ) : (releaseEach E cause sources b s).value = b.drop sources := by
  induction sources generalizing b s with
  | nil => rw [drop_nil]; rfl
  | cons source rest ih =>
    -- the rest is dropped from the table without the first source
    rw [releaseEach, Action.value_bind, ih]
    exact erase_drop b source rest

theorem asked_releaseEach (E : Enforcer σ) (cause : ReleaseCause) (sources : List Address)
    (b : Blocks) (s : σ) :
    asked (releaseEach E cause sources b s).trace = sources.map .remove := by
  induction sources generalizing b s with
  | nil => rfl
  | cons source rest ih =>
    rw [releaseEach, Action.trace_bind, Emission.asked_append, ih, release, Action.trace_bind,
      Emission.asked_append, Enforcer.asked_perform]
    rfl

/-! ### Expiry -/

theorem mem_expired (b : Blocks) (now : Instant) (source : Address) :
    source ∈ b.expired now ↔ ∃ e, b.table.get? source = some e ∧ e.expiry ≤ now := by
  simp [expired, Entry.isExpired, AddressMap.get?_eq_some_iff]

/-- The expired sources ascend strictly. -/
theorem expired_ascending (b : Blocks) (now : Instant) : (b.expired now).Pairwise (· < ·) :=
  List.pairwise_map.mpr (b.table.ascending.filter _)

/-- **The entry of a source after the release of the expired ones** is the one it had, if that has
not expired. -/
theorem get?_drop_expired (b : Blocks) (now : Instant) (source : Address) :
    (b.drop (b.expired now)).table.get? source =
      (b.table.get? source).filter fun e => now < e.expiry := by
  rw [get?_drop]
  cases h : b.table.get? source with
  | none => simp
  | some e =>
    have hmem : source ∈ b.expired now ↔ e.expiry ≤ now := by rw [mem_expired, h]; simp
    by_cases he : e.expiry ≤ now
    · rw [if_pos (hmem.mpr he), Option.filter_some, if_neg (by simpa using he)]
    · rw [if_neg (mt hmem.mp he), Option.filter_some, if_pos (by simpa using he)]

theorem value_releaseExpired (E : Enforcer σ) (b : Blocks) (now : Instant) (s : σ) :
    (b.releaseExpired E now s).value = (b.expired now, b.drop (b.expired now)) := by
  rw [releaseExpired, Action.value_bind, value_releaseEach]
  rfl

theorem asked_releaseExpired (E : Enforcer σ) (b : Blocks) (now : Instant) (s : σ) :
    asked (b.releaseExpired E now s).trace = (b.expired now).map .remove := by
  rw [releaseExpired, Action.trace_bind_pure, asked_releaseEach]

/-! ### Clearing -/

theorem drop_sources (b : Blocks) : b.drop b.table.sources = { b with table := .empty } := by
  unfold drop
  -- every entry is at a source of the table, so none passes
  congr 1
  refine AddressMap.ext_entries (List.filter_eq_nil_iff.mpr fun e he => ?_)
  simp [AddressMap.sources, List.mem_map_of_mem he]

theorem value_releaseAll (E : Enforcer σ) (b : Blocks) (s : σ) :
    (b.releaseAll E s).value = (b.table.size, { b with table := .empty }) := by
  rw [releaseAll, Action.value_bind, value_releaseEach, drop_sources]
  rfl

theorem asked_releaseAll (E : Enforcer σ) (b : Blocks) (s : σ) :
    asked (b.releaseAll E s).trace = b.table.sources.map .remove := by
  rw [releaseAll, Action.trace_bind_pure, asked_releaseEach]

/-! ## Re-assertion -/

theorem asked_assertEach (E : Enforcer σ) (sources : List Address) (s : σ) :
    asked (assertEach E sources s).trace = sources.map .add := by
  induction sources generalizing s with
  | nil => rfl
  | cons source rest ih =>
    rw [assertEach, Action.trace_bind, Emission.asked_append, Enforcer.asked_perform]
    cases (E.perform (.add source) s).value with
    -- a refusal is reported before the next call, and an event asks nothing
    | none => rw [ih]; rfl
    | some e =>
      simp only [Action.trace_bind, Action.emit_apply, Action.pure_apply, Emission.asked_append,
        Emission.asked_event, Emission.asked_nil, List.nil_append, List.append_nil, ih]
      rfl

theorem asked_reconcile (E : Enforcer σ) (b : Blocks) (s : σ) :
    asked (b.reconcile E s).trace = b.table.sources.map .add :=
  asked_assertEach E b.table.sources s

end Blocks

end SourceGuard
