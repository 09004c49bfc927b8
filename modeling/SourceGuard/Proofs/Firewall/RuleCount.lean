import Mathlib.Data.List.Induction
import SourceGuard.Proofs.Blocks.Lifecycle
import SourceGuard.Proofs.Firewall.Replay
import SourceGuard.Proofs.Firewall.Tables

/-!
# Rules and entries

Over a run, the number of rules of a source can be read off the calls for it: it is the one that the
last successful call brought about. The rules and the table of blocks may part. A source can keep
its rule without an entry, when the call that ended its block failed, and it can have an entry
without a rule, when all calls since its block began have failed. There are no other ways.

## Main definitions

* `Move.settle`: the number of rules of a source after an answer
* `Accounted`, `Enforced`: what holds of a call, and of a run

## Main results

* `IsPacketFilter.rules_run`: the rules after a run, read off its calls
* `Lifecycle.getLast?_of_leak`, `Lifecycle.exists_of_gap`: where rules and entries part
* `Monitor.enforced_run`: runs from an empty table and a chain without rules
-/

namespace SourceGuard

open Emission (asked)

variable {σ : Type}

/-! ## Many calls -/

/-- The number of rules of a source after the answer to a call for it. -/
def Move.settle (n : Nat) : Move × Option EnforcementError → Nat
  | (_, some _) => n
  | (.unblock, none) => 0
  | (_, none) => 1

namespace IsPacketFilter

variable {chain : Chain} {shell : Shell σ} {rules : σ → Address → Nat}

/-- Calls keep every source at one rule or none. -/
theorem rules_replay_le (h : IsPacketFilter chain shell rules) (calls : List Call) {s : σ}
    (hone : ∀ a, rules s a ≤ 1) (a : Address) :
    rules ((chain.enforcer shell).replay calls s).2 a ≤ 1 := by
  induction calls generalizing s with
  | nil => exact hone a
  | cons c rest ih => exact ih (h.rules_answer_le c hone)

/-- **The rules after the calls of an operation**, read off the calls for their source. -/
theorem rules_replay (h : IsPacketFilter chain shell rules) (op : Operation) (calls : List Call)
    {s : σ} (hone : ∀ a, rules s a ≤ 1) (a : Address) :
    let out := (chain.enforcer shell).replay calls s
    rules out.2 a =
      ((out.1.filter (·.1.source = a)).map fun x => (op.move x.1, x.2)).foldl Move.settle
        (rules s a) := by
  induction calls generalizing s with
  | nil => rfl
  | cons c rest ih =>
    obtain ⟨hok, hfailed⟩ := h.rules_answer c (hone c.source)
    refine (ih (h.rules_answer_le c hone)).trans ?_
    rw [Enforcer.replay]
    cases hfailure : ((chain.enforcer shell).answer c s).1.failure with
    | none =>
      rw [hok hfailure]
      by_cases ha : c.source = a
      · subst ha
        rw [Function.update_self, List.filter_cons_of_pos (by simp)]
        -- the first answer settles the number, whatever it was and whatever the call means
        cases c <;> cases op <;> rfl
      · rw [Function.update_of_ne (Ne.symm ha), List.filter_cons_of_neg (by simpa using ha)]
    | some e =>
      rw [hfailed (by rw [hfailure]; exact Option.some_ne_none e)]
      by_cases ha : c.source = a
      · rw [List.filter_cons_of_pos (by simpa using ha)]
        rfl
      · rw [List.filter_cons_of_neg (by simpa using ha)]

/-- **The rules after a run**, read off the history of their source. -/
theorem rules_run (h : IsPacketFilter chain shell rules) (ops : List Operation) (m : Monitor) {s : σ}
    (hone : ∀ a, rules s a ≤ 1) (a : Address) :
    rules (m.run (chain.enforcer shell) ops s).firewall a =
      ((m.run (chain.enforcer shell) ops s).history a).foldl Move.settle (rules s a) := by
  induction ops generalizing m s with
  | nil => rfl
  | cons op rest ih =>
    let out := m.operate (chain.enforcer shell) op s
    have hfollows := Monitor.follows_operate (chain.enforcer shell) m op s
    -- the operation leaves the firewall as its calls do, so they say what it does to the rules
    have hle := h.rules_replay_le (asked out.trace) hone
    have hfirst := h.rules_replay op (asked out.trace) hone a
    simp only [out, hfollows] at hle hfirst
    have hhistory : (m.run (chain.enforcer shell) (op :: rest) s).history a = _ ++ _ :=
      List.flatMap_cons
    rw [hhistory, List.foldl_append]
    refine (ih out.value.2 hle).trans ?_
    rw [hfirst]
    rfl

end IsPacketFilter

/-! ## Where rules and entries part -/

/-- A source that keeps its rule without an entry has been refused the end of its block. -/
theorem Lifecycle.getLast?_of_leak {history : List (Move × Option EnforcementError)}
    (h : Lifecycle false (history.map (·.1)) false) (hrule : history.foldl Move.settle 0 ≠ 0) :
    ∃ e, history.getLast? = some (.unblock, some e) := by
  -- only the end of a block leads to no entry, and one that succeeds leaves no rule
  induction history using List.reverseRecOn with
  | nil => exact absurd rfl hrule
  | append_singleton past last ih =>
    obtain ⟨move, failure⟩ := last
    rw [List.map_append] at h
    obtain ⟨held, -, hlast⟩ := h.of_append
    rw [List.foldl_append] at hrule
    cases hlast with
    | block h | reassert h => cases h
    | unblock =>
      cases failure with
      | none => exact absurd rfl hrule
      | some e => exact ⟨e, List.getLast?_concat⟩

/-- A source that has an entry without a rule has been refused every call since its block began. -/
theorem Lifecycle.exists_of_gap {history : List (Move × Option EnforcementError)}
    (h : Lifecycle false (history.map (·.1)) true) (hrule : history.foldl Move.settle 0 = 0) :
    ∃ past e since, history = past ++ (.block, some e) :: since ∧
      ∀ x ∈ since, ∃ e', x = (.reassert, some e') := by
  -- the last call has failed, since an addition that succeeds leaves a rule: either it began the
  -- block, or it re-asserted a block without a rule
  induction history using List.reverseRecOn with
  | nil => cases h
  | append_singleton past last ih =>
    obtain ⟨move, failure⟩ := last
    rw [List.map_append] at h
    obtain ⟨held, hpast, hlast⟩ := h.of_append
    rw [List.foldl_append] at hrule
    cases hlast with
    | unblock h => cases h
    | block =>
      cases failure with
      | none => exact absurd hrule Nat.one_ne_zero
      | some e => exact ⟨past, e, [], rfl, fun x hx => absurd hx List.not_mem_nil⟩
    | reassert =>
      cases failure with
      | none => exact absurd hrule Nat.one_ne_zero
      | some e =>
        obtain ⟨before, e', since, rfl, hsince⟩ := ih hpast hrule
        refine ⟨before, e', since ++ [(.reassert, some e)], by simp, fun x hx => ?_⟩
        rcases List.mem_append.mp hx with hx | hx
        · exact hsince x hx
        · exact ⟨e, List.mem_singleton.mp hx⟩

/-! ## Runs -/

/-- What holds of a call to a packet filter in a state, with the answer to it. -/
structure Accounted (chain : Chain) (shell : Shell σ) (rules : σ → Address → Nat) (c : Call) (s : σ)
    (failure : Option EnforcementError) : Prop where
  /-- This is the answer to the call. -/
  answered : ((chain.enforcer shell).answer c s).1.failure = failure
  /-- No source has more than one rule, neither before nor after. -/
  single : ∀ a, rules s a ≤ 1 ∧ rules ((chain.enforcer shell).answer c s).2 a ≤ 1
  /-- An addition that succeeds leaves exactly one rule. -/
  added : ∀ source, c = .add source → failure = none →
    rules ((chain.enforcer shell).answer c s).2 source = 1
  /-- A removal that succeeds leaves no rule. -/
  removed : ∀ source, c = .remove source → failure = none →
    rules ((chain.enforcer shell).answer c s).2 source = 0
  /-- Other sources keep their rules. -/
  others : ∀ a, a ≠ c.source → rules ((chain.enforcer shell).answer c s).2 a = rules s a
  /-- A call that fails leaves all rules as they are. -/
  refused : failure ≠ none → rules ((chain.enforcer shell).answer c s).2 = rules s
  /-- Keeping the commands that the call runs changes nothing else. -/
  recorded : ∀ log,
    ((chain.enforcer (Shell.recording shell)).answer c (s, log)).1 =
        ((chain.enforcer shell).answer c s).1 ∧
      ((chain.enforcer (Shell.recording shell)).answer c (s, log)).2.1 =
        ((chain.enforcer shell).answer c s).2
  /-- If the check fails, the call fails, and nothing else is run. -/
  unchecked : ∀ e, Chain.finding (chain.command .check c.source)
      (shell (chain.command .check c.source) s).1 = .unknown e →
    failure = some e ∧ chain.commands shell c s = [chain.command .check c.source]

/-- What holds of a run over a packet filter, from an empty table and a chain without rules. -/
structure Enforced (chain : Chain) (shell : Shell σ) (rules : σ → Address → Nat) (s : σ)
    (run : Run σ) : Prop where
  /-- The calls of the run, from the first state, lead to its answers and to its last state. -/
  replayed : (chain.enforcer shell).replay (run.calls.map (·.1)) s = (run.calls, run.firewall)
  /-- Each call is accounted for, in the state in which the calls before it left the firewall. -/
  accounted : ∀ past c failure future, run.calls = past ++ (c, failure) :: future →
    Accounted chain shell rules c ((chain.enforcer shell).replay (past.map (·.1)) s).2 failure
  /-- No source has more than one rule. -/
  single : ∀ a, rules run.firewall a ≤ 1
  /-- A source with a rule but no entry was refused its most recent call, a removal. -/
  leaked : ∀ a, rules run.firewall a ≠ 0 → run.monitor.blocks.isBlocked a = false →
    ∃ e, (run.history a).getLast? = some (.unblock, some e)
  /-- A source with an entry but no rule was refused the call that began its block, and every call
  since then, all of them additions. -/
  missing : ∀ a, run.monitor.blocks.isBlocked a = true → rules run.firewall a = 0 →
    ∃ past e since, run.history a = past ++ (.block, some e) :: since ∧
      ∀ x ∈ since, ∃ e', x = (.reassert, some e')

/-- A call to a packet filter is accounted for, if no source has more than one rule before it. -/
theorem IsPacketFilter.accounted {chain : Chain} {shell : Shell σ} {rules : σ → Address → Nat}
    (h : IsPacketFilter chain shell rules) (c : Call) {s : σ} (hone : ∀ a, rules s a ≤ 1) :
    Accounted chain shell rules c s ((chain.enforcer shell).answer c s).1.failure := by
  obtain ⟨hok, hfailed⟩ := h.rules_answer c (hone c.source)
  constructor
  case answered => rfl
  case single => exact fun a => ⟨hone a, h.rules_answer_le c hone a⟩
  case added =>
    rintro source rfl hfailure
    rw [hok hfailure]
    exact Function.update_self ..
  case removed =>
    rintro source rfl hfailure
    rw [hok hfailure]
    exact Function.update_self ..
  case others =>
    intro a ha
    by_cases hfailure : ((chain.enforcer shell).answer c s).1.failure = none
    · rw [hok hfailure, Function.update_of_ne ha]
    · rw [hfailed hfailure]
  case refused => exact hfailed
  case recorded => exact chain.answer_recording shell c s
  case unchecked => exact fun e => chain.commands_of_unknown shell c s

/-- **Runs over a packet filter** are enforced, whatever fails, if they begin with an empty table and
a chain without rules. -/
theorem Monitor.enforced_run (chain : Chain) (shell : Shell σ) (rules : σ → Address → Nat)
    (h : IsPacketFilter chain shell rules) (m : Monitor) (hm : m.blocks.table = .empty) (s : σ)
    (hs : ∀ a, rules s a = 0) (ops : List Operation) :
    Enforced chain shell rules s (m.run (chain.enforcer shell) ops s) := by
  have hone : ∀ a, rules s a ≤ 1 := fun a => by rw [hs a]; exact Nat.zero_le 1
  have hreplay := replay_run (chain.enforcer shell) ops m s
  have hrules := h.rules_run ops m hone
  have hlife := lifecycle_run_of_empty (chain.enforcer shell) hm ops s
  constructor
  case replayed => exact hreplay
  case accounted =>
    intro past c failure future hsplit
    rw [hsplit] at hreplay
    -- the calls before it have kept every source at one rule or none
    have hbefore := h.rules_replay_le (past.map (·.1)) hone
    have hcall := h.accounted c hbefore
    rw [(chain.enforcer shell).failure_of_replay hreplay] at hcall
    exact hcall
  case single =>
    intro a
    have hlast := h.rules_replay_le ((m.run (chain.enforcer shell) ops s).calls.map (·.1)) hone a
    rw [hreplay] at hlast
    exact hlast
  case leaked =>
    intro a hrule hfree
    have hlife := hlife a
    rw [hfree] at hlife
    rw [hrules a, hs a] at hrule
    exact hlife.getLast?_of_leak hrule
  case missing =>
    intro a hblocked hrule
    have hlife := hlife a
    rw [hblocked] at hlife
    rw [hrules a, hs a] at hrule
    exact hlife.exists_of_gap hrule

/-- The lock is held at a deletion, at an insertion and at a check: one source keeps its rule without
an entry, and another has an entry without a rule. -/
theorem Monitor.enforced_run_of_locks :
    let locked := fun turn => turn = 3 || turn = 5 || turn = 6
    let m : Monitor :=
      { window := { span := 30, band := default }, rules := ⟨.any, [Rule.volume 100]⟩, policy := {}
        blocks := { requested := 30 } }
    let leaked := Address.v4 0x0a000001
    let missing := Address.v4 0x0a000002
    let ops := [.request leaked 0 "volume", .releaseAll, .request missing 5 "volume", .reconcile]
    let run := m.run (Tables.input.enforcer (Tables.shell locked)) ops {}
    IsPacketFilter Tables.input (Tables.shell locked) Tables.rules ∧ m.blocks.table = .empty ∧
      (∀ a, Tables.rules {} a = 0) ∧
      (run.firewall.rules leaked = 1 ∧ run.monitor.blocks.isBlocked leaked = false) ∧
      (run.firewall.rules missing = 0 ∧ run.monitor.blocks.isBlocked missing = true) ∧
      Enforced Tables.input (Tables.shell locked) Tables.rules {} run := by
  have hempty : ∀ a, Tables.rules {} a = 0 := fun a => by cases a <;> rfl
  exact ⟨Tables.isPacketFilter _, rfl, hempty, by decide +kernel, by decide +kernel,
    enforced_run _ _ _ (Tables.isPacketFilter _) _ rfl {} hempty _⟩

end SourceGuard
