import Mathlib.Logic.Function.Basic
import SourceGuard.Firewall.Iptables

/-!
# One call to a packet filter

A packet filter counts, for each source, the rules that drop it. Its commands may fail at any time
and in any way. What is relied on is that a check which finds something finds what is there, and
that rules change by insertions and deletions that succeed, and by nothing else. Checking before
each change then keeps every source at one rule or none, whatever fails.

## Main definitions

* `IsPacketFilter`: what is relied on
* `Chain.commands`: the commands that a call runs

## Main results

* `Chain.ensure_cases`: a check fails, finds what is wanted, or is followed by a change
* `Chain.commands_of_unknown`: after a check that fails nothing else is run
* `IsPacketFilter.rules_answer`: the rules after a call
-/

namespace SourceGuard

variable {σ : Type}

/-! ## Packet filters -/

/-- The code with which a command ended, if it ended with one. -/
def CommandResult.code? : CommandResult → Option Nat
  | .ended (.code n) _ => some n
  | _ => none

/-- A shell edits a chain as a packet filter does, where `rules` counts the rules that drop a
source. Every command may fail to start or end with any status, but a check that finds something
finds what is there, and only a change that succeeds changes the rules. -/
structure IsPacketFilter (chain : Chain) (shell : Shell σ) (rules : σ → Address → Nat) : Prop where
  /-- A check ends with code zero only if there is a rule. -/
  present : ∀ source s, (shell (chain.command .check source) s).1.code? = some 0 →
    1 ≤ rules s source
  /-- A check ends with code one only if there is no rule. -/
  absent : ∀ source s, (shell (chain.command .check source) s).1.code? = some 1 →
    rules s source = 0
  /-- A check changes no rule. -/
  checked : ∀ source s, rules (shell (chain.command .check source) s).2 = rules s
  /-- An insertion that succeeds adds one rule. -/
  inserted : ∀ source s, (shell (chain.command .insert source) s).1.code? = some 0 →
    rules (shell (chain.command .insert source) s).2 =
      Function.update (rules s) source (rules s source + 1)
  /-- A deletion that succeeds needs a rule and removes one. -/
  deleted : ∀ source s, (shell (chain.command .delete source) s).1.code? = some 0 →
    1 ≤ rules s source ∧ rules (shell (chain.command .delete source) s).2 =
      Function.update (rules s) source (rules s source - 1)
  /-- A command that does not succeed changes no rule. -/
  refused : ∀ verb source s, (shell (chain.command verb source) s).1.code? ≠ some 0 →
    rules (shell (chain.command verb source) s).2 = rules s

/-- A shell that keeps the commands it has run. -/
def Shell.recording (shell : Shell σ) : Shell (σ × List Command) := fun c s =>
  ((shell c s.1).1, (shell c s.1).2, s.2 ++ [c])

namespace Chain

/-- The commands that a call runs. -/
def commands (chain : Chain) (shell : Shell σ) (c : Call) (s : σ) : List Command :=
  ((chain.enforcer (Shell.recording shell)).answer c (s, [])).2.2

theorem finding_eq_present_iff (c : Command) (r : CommandResult) :
    finding c r = .present ↔ r.code? = some 0 := by
  rcases r with cause | ⟨⟨_ | _ | n⟩ | n, complaint⟩ <;> simp [finding, CommandResult.code?]

theorem finding_eq_absent_iff (c : Command) (r : CommandResult) :
    finding c r = .absent ↔ r.code? = some 1 := by
  rcases r with cause | ⟨⟨_ | _ | n⟩ | n, complaint⟩ <;> simp [finding, CommandResult.code?]

theorem Finding.eq_absent {f : Finding} (hknown : ∀ e, f ≠ .unknown e) (hdue : f ≠ .present) :
    f = .absent := by
  cases f with
  | present => exact absurd rfl hdue
  | absent => rfl
  | unknown e => exact absurd rfl (hknown e)

theorem Finding.eq_present {f : Finding} (hknown : ∀ e, f ≠ .unknown e) (hdue : f ≠ .absent) :
    f = .present := by
  cases f with
  | present => rfl
  | absent => exact absurd rfl hdue
  | unknown e => exact absurd rfl (hknown e)

theorem failure?_eq_none_iff (c : Command) (r : CommandResult) :
    failure? c r = none ↔ r.code? = some 0 := by
  rcases r with cause | ⟨⟨_ | n⟩ | n, complaint⟩ <;> simp [failure?, CommandResult.code?]

/-- **A check and, after it, perhaps a change**: the check fails, or it finds what is wanted, or the
change is made. -/
theorem ensure_cases (chain : Chain) (shell : Shell σ) (settled : Finding) (message : String)
    (verb : Verb) (source : Address) (s : σ) :
    let check := chain.command .check source
    let found := finding check (shell check s).1
    let change := chain.command verb source
    let out := chain.ensure shell settled message verb source s
    (∃ e, found = .unknown e ∧ out.1.failure = some e ∧ out.2 = (shell check s).2) ∨
      (found = settled ∧ out.1.failure = none ∧ out.2 = (shell check s).2) ∨
      ((∀ e, found ≠ .unknown e) ∧ found ≠ settled ∧
        out.1.failure = failure? change (shell change (shell check s).2).1 ∧
        out.2 = (shell change (shell check s).2).2) := by
  intro check found change out
  have hout : out = chain.ensure shell settled message verb source s := rfl
  simp only [ensure] at hout
  split at hout
  · rename_i e hunknown
    exact Or.inl ⟨e, hunknown, by rw [hout], by rw [hout]⟩
  · rename_i hknown
    split at hout
    · rename_i hsettled
      exact Or.inr (Or.inl ⟨hsettled, by rw [hout], by rw [hout]⟩)
    · rename_i hdue
      exact Or.inr (Or.inr ⟨hknown, hdue, by rw [hout], by rw [hout]⟩)

/-- After a check that fails nothing is done. -/
theorem ensure_of_unknown (chain : Chain) (shell : Shell σ) (settled : Finding) (message : String)
    (verb : Verb) (source : Address) (s : σ) {e : EnforcementError}
    (hfound : finding (chain.command .check source) (shell (chain.command .check source) s).1 =
      .unknown e) :
    (chain.ensure shell settled message verb source s).1.failure = some e ∧
      (chain.ensure shell settled message verb source s).2 =
        (shell (chain.command .check source) s).2 := by
  constructor <;> simp only [ensure, hfound]

/-- The finding with which nothing is left to do for a call. -/
def settled : Call → Finding
  | .add _ => .present
  | .remove _ => .absent

/-- The change that is made for a call on the other finding. -/
def change : Call → Verb
  | .add _ => .insert
  | .remove _ => .delete

/-- The number of rules that a call is to bring about. -/
def wanted : Call → Nat
  | .add _ => 1
  | .remove _ => 0

theorem wanted_le (c : Call) : wanted c ≤ 1 := by
  cases c with
  | add => exact Nat.le_refl 1
  | remove => exact Nat.zero_le 1

theorem exists_answer_eq (chain : Chain) (shell : Shell σ) (c : Call) (s : σ) :
    ∃ message, (chain.enforcer shell).answer c s =
      chain.ensure shell (settled c) message (change c) c.source s := by
  cases c with
  | add source => exact ⟨_, rfl⟩
  | remove source => exact ⟨_, rfl⟩

/-- A check that fails is the only command of its call, and the failure of the call. -/
theorem commands_of_unknown (chain : Chain) (shell : Shell σ) (c : Call) (s : σ)
    {e : EnforcementError}
    (hfound : finding (chain.command .check c.source)
      (shell (chain.command .check c.source) s).1 = .unknown e) :
    ((chain.enforcer shell).answer c s).1.failure = some e ∧
      chain.commands shell c s = [chain.command .check c.source] := by
  constructor
  · obtain ⟨message, hanswer⟩ := exists_answer_eq chain shell c s
    rw [hanswer]
    exact (ensure_of_unknown chain shell (settled c) message (change c) c.source s hfound).1
  · -- the shell that keeps its commands has kept the check only
    obtain ⟨message, hanswer⟩ := exists_answer_eq chain (Shell.recording shell) c (s, [])
    have hstate := ensure_of_unknown chain (Shell.recording shell) (settled c) message (change c)
      c.source (s, []) hfound
    rw [commands, hanswer, hstate.2]
    rfl

/-- Keeping the commands changes neither the answer nor what becomes of the firewall. -/
theorem answer_recording (chain : Chain) (shell : Shell σ) (c : Call) (s : σ) (log : List Command) :
    ((chain.enforcer (Shell.recording shell)).answer c (s, log)).1 =
        ((chain.enforcer shell).answer c s).1 ∧
      ((chain.enforcer (Shell.recording shell)).answer c (s, log)).2.1 =
        ((chain.enforcer shell).answer c s).2 := by
  cases c with
  | add source | remove source =>
    simp only [enforcer, ensure, Shell.recording]
    -- both shells give the same result, so both calls take the same branch
    split
    · exact ⟨rfl, rfl⟩
    · split <;> exact ⟨rfl, rfl⟩

end Chain

/-! ## One call -/

namespace IsPacketFilter

variable {chain : Chain} {shell : Shell σ} {rules : σ → Address → Nat}

/-- A check that finds what is wanted is right, if there is at most one rule. -/
theorem rules_of_settled (h : IsPacketFilter chain shell rules) (c : Call) {s : σ}
    (hone : rules s c.source ≤ 1)
    (hfound : Chain.finding (chain.command .check c.source)
      (shell (chain.command .check c.source) s).1 = Chain.settled c) :
    rules s c.source = Chain.wanted c := by
  cases c with
  | add source =>
    have := h.present source s ((Chain.finding_eq_present_iff _ _).mp hfound)
    exact Nat.le_antisymm hone this
  | remove source => exact h.absent source s ((Chain.finding_eq_absent_iff _ _).mp hfound)

/-- A change that is made on the other finding and succeeds brings about what is wanted. -/
theorem rules_of_change (h : IsPacketFilter chain shell rules) (c : Call) {s s' : σ}
    (hone : rules s c.source ≤ 1) (hsame : rules s' = rules s)
    (hknown : ∀ e, Chain.finding (chain.command .check c.source)
      (shell (chain.command .check c.source) s).1 ≠ .unknown e)
    (hdue : Chain.finding (chain.command .check c.source)
      (shell (chain.command .check c.source) s).1 ≠ Chain.settled c)
    (hok : (shell (chain.command (Chain.change c) c.source) s').1.code? = some 0) :
    rules (shell (chain.command (Chain.change c) c.source) s').2 =
      Function.update (rules s) c.source (Chain.wanted c) := by
  cases c with
  | add source =>
    -- the check found something, and not a rule
    have habsent : rules s source = 0 := by
      have hfound := Chain.Finding.eq_absent hknown hdue
      exact h.absent source s ((Chain.finding_eq_absent_iff _ _).mp hfound)
    have hinserted := h.inserted source s' hok
    rw [hsame, habsent] at hinserted
    exact hinserted
  | remove source =>
    -- the check found a rule, and there is at most one
    have hpresent : rules s source = 1 := by
      have hfound := Chain.Finding.eq_present hknown hdue
      exact Nat.le_antisymm hone (h.present source s ((Chain.finding_eq_present_iff _ _).mp hfound))
    have hdeleted := (h.deleted source s' hok).2
    rw [hsame, hpresent] at hdeleted
    exact hdeleted

/-- **The rules after a call**: those that are wanted if the call succeeds, and the same as before
if it fails. -/
theorem rules_answer (h : IsPacketFilter chain shell rules) (c : Call) {s : σ}
    (hone : rules s c.source ≤ 1) :
    let out := (chain.enforcer shell).answer c s
    (out.1.failure = none → rules out.2 = Function.update (rules s) c.source (Chain.wanted c)) ∧
      (out.1.failure ≠ none → rules out.2 = rules s) := by
  intro out
  obtain ⟨message, hanswer⟩ := Chain.exists_answer_eq chain shell c s
  have hchecked := h.checked c.source s
  have hout : out = chain.ensure shell (Chain.settled c) message (Chain.change c) c.source s := hanswer
  rcases Chain.ensure_cases chain shell (Chain.settled c) message (Chain.change c) c.source s with
    ⟨e, -, hfailure, hstate⟩ | ⟨hfound, hfailure, hstate⟩ | ⟨hknown, hdue, hfailure, hstate⟩ <;>
    rw [hout, hfailure, hstate]
  -- the check fails, it finds what is wanted, or the change is made
  · exact ⟨fun h => absurd h (Option.some_ne_none e), fun _ => hchecked⟩
  · rw [hchecked, ← h.rules_of_settled c hone hfound, Function.update_eq_self]
    exact ⟨fun _ => rfl, fun h => absurd rfl h⟩
  · constructor
    · intro hok
      exact h.rules_of_change c hone hchecked hknown hdue ((Chain.failure?_eq_none_iff _ _).mp hok)
    · intro hfailed
      rw [h.refused _ _ _ (mt (Chain.failure?_eq_none_iff _ _).mpr hfailed), hchecked]

/-- A call keeps every source at one rule or none. -/
theorem rules_answer_le (h : IsPacketFilter chain shell rules) (c : Call) {s : σ}
    (hone : ∀ a, rules s a ≤ 1) (a : Address) : rules ((chain.enforcer shell).answer c s).2 a ≤ 1 := by
  obtain ⟨hok, hfailed⟩ := h.rules_answer c (hone c.source)
  by_cases hfailure : ((chain.enforcer shell).answer c s).1.failure = none
  · rw [hok hfailure, Function.update_apply]
    split
    · exact Chain.wanted_le c
    · exact hone a
  · rw [hfailed hfailure]
    exact hone a

end IsPacketFilter

end SourceGuard
