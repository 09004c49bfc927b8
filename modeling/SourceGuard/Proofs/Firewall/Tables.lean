import SourceGuard.Proofs.Address.RoundTrip
import SourceGuard.Proofs.Firewall.PacketFilter

/-!
# A packet filter for IPv4

A machine keeps its rules as the written sources that they drop. Its commands fail while another
program holds the lock of the tables, and it has no program for IPv6. Since IPv4 addresses that are
written alike are the same, a rule drops one source, and the machine is a packet filter.

## Main definitions

* `Tables`, `Tables.shell`: the machine and its commands

## Main results

* `Tables.isPacketFilter`: the machine is a packet filter, whenever the lock is held
-/

namespace SourceGuard

/-- The tables of a machine that filters IPv4 packets only. -/
structure Tables where
  /-- The sources that the rules drop, as they are written. -/
  dropped : List String := []
  /-- The number of commands that have been run. -/
  turn : Nat := 0

namespace Tables

/-- The chain of the machine. -/
def input : Chain := { iptables := "iptables", ip6tables := "ip6tables", chain := "INPUT" }

/-- The number of rules that drop a source. -/
def rules (t : Tables) : Address → Nat
  | .v4 bits => t.dropped.count (Address.v4 bits).toText
  | .v6 _ => 0

/-- The commands of the machine. They fail while another program holds the lock. -/
def shell (locked : Nat → Bool) : Shell Tables := fun c t =>
  let next := { t with turn := t.turn + 1 }
  match c.arguments with
  | [option, _, _, source, _, _] =>
    let found := if source ∈ t.dropped then 0 else 1
    if c.program ≠ "iptables" then (.notStarted "No such file or directory (os error 2)", t)
    else if locked t.turn then (.ended (.code 4) [], next)
    else if option = "-C" then (.ended (.code found) [], next)
    else if option = "-I" then
      (.ended (.code 0) [], { next with dropped := source :: t.dropped })
    else (.ended (.code found) [], { next with dropped := t.dropped.erase source })
  | _ => (.ended (.code 2) [], next)

theorem shell_v4 (locked : Nat → Bool) (verb : Chain.Verb) (bits : BitVec 32) (t : Tables) :
    shell locked (input.command verb (.v4 bits)) t =
      let source := (Address.v4 bits).toText
      let found := if source ∈ t.dropped then 0 else 1
      let next := { t with turn := t.turn + 1 }
      if locked t.turn then (.ended (.code 4) [], next)
      else match verb with
        | .check => (.ended (.code found) [], next)
        | .insert => (.ended (.code 0) [], { next with dropped := source :: t.dropped })
        | .delete => (.ended (.code found) [], { next with dropped := t.dropped.erase source }) := by
  cases verb <;> rfl

/-- While the lock is held, no command succeeds or changes a rule, nor does a check find
anything. -/
theorem shell_of_locked {locked : Nat → Bool} {t : Tables} (h : locked t.turn = true)
    (verb : Chain.Verb) (bits : BitVec 32) :
    (shell locked (input.command verb (.v4 bits)) t).1.code? = some 4 ∧
      (shell locked (input.command verb (.v4 bits)) t).2.rules = t.rules := by
  rw [shell_v4]
  simp only [h]
  exact ⟨rfl, rfl⟩

/-- Rules for one source change the number for that source only, since sources that are written
alike are the same. -/
theorem rules_eq_update {t t' : Tables} {bits : BitVec 32} {n : Nat}
    (hself : t'.dropped.count (Address.v4 bits).toText = n)
    (hother : ∀ text, text ≠ (Address.v4 bits).toText →
      t'.dropped.count text = t.dropped.count text) :
    t'.rules = Function.update t.rules (.v4 bits) n := by
  funext a
  rw [Function.update_apply]
  cases a with
  | v6 other => rw [if_neg Address.noConfusion]; rfl
  | v4 other =>
    by_cases h : other = bits
    · rw [if_pos (congrArg Address.v4 h), h]
      exact hself
    · rw [if_neg (mt Address.v4.inj h)]
      exact hother _ fun htext => h (Address.v4.inj (Address.toText_injective htext))

/-- **The machine is a packet filter**, whenever its lock is held. -/
theorem isPacketFilter (locked : Nat → Bool) : IsPacketFilter input (shell locked) rules := by
  -- a command for IPv6 does not start, and one for IPv4 fails while the lock is held
  constructor
  case present =>
    intro source t hcode
    cases source with
    | v6 bits => cases hcode
    | v4 bits =>
      cases hlocked : locked t.turn with
      | true => rw [(shell_of_locked hlocked .check bits).1] at hcode; cases hcode
      | false =>
        rw [shell_v4] at hcode
        exact List.count_pos_iff.mpr (by simpa [hlocked, CommandResult.code?] using hcode)
  case absent =>
    intro source t hcode
    cases source with
    | v6 bits => rfl
    | v4 bits =>
      cases hlocked : locked t.turn with
      | true => rw [(shell_of_locked hlocked .check bits).1] at hcode; cases hcode
      | false =>
        rw [shell_v4] at hcode
        exact List.count_eq_zero.mpr (by simpa [hlocked, CommandResult.code?] using hcode)
  case checked =>
    intro source t
    cases source with
    | v6 bits => rfl
    | v4 bits =>
      rw [shell_v4]
      cases locked t.turn <;> rfl
  case inserted =>
    intro source t hcode
    cases source with
    | v6 bits => cases hcode
    | v4 bits =>
      cases hlocked : locked t.turn with
      | true => rw [(shell_of_locked hlocked .insert bits).1] at hcode; cases hcode
      | false =>
        rw [shell_v4]
        simp only [hlocked]
        refine rules_eq_update List.count_cons_self fun text htext => ?_
        exact List.count_cons_of_ne (Ne.symm htext)
  case deleted =>
    intro source t hcode
    cases source with
    | v6 bits => cases hcode
    | v4 bits =>
      cases hlocked : locked t.turn with
      | true => rw [(shell_of_locked hlocked .delete bits).1] at hcode; cases hcode
      | false =>
        rw [shell_v4] at hcode ⊢
        have hmem : (Address.v4 bits).toText ∈ t.dropped := by
          simpa [hlocked, CommandResult.code?] using hcode
        simp only [hlocked]
        refine ⟨List.count_pos_iff.mpr hmem, ?_⟩
        refine rules_eq_update List.count_erase_self fun text htext => ?_
        exact List.count_erase_of_ne htext
  case refused =>
    intro verb source t hcode
    cases source with
    | v6 bits => rfl
    | v4 bits =>
      cases hlocked : locked t.turn with
      | true => exact (shell_of_locked hlocked verb bits).2
      | false =>
        rw [shell_v4] at hcode ⊢
        cases verb with
        | check => simp only [hlocked]; rfl
        | insert => simp [hlocked, CommandResult.code?] at hcode
        | delete =>
          -- a deletion fails only if there is nothing to delete
          have hmem : (Address.v4 bits).toText ∉ t.dropped := by
            simpa [hlocked, CommandResult.code?] using hcode
          simp only [hlocked, List.erase_of_not_mem hmem]
          rfl

end Tables

end SourceGuard
