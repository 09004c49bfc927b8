import SourceGuard.Enforcement
import SourceGuard.Firewall.Command
import SourceGuard.Text.Blank
import SourceGuard.Text.Utf8

/-!
# Packet filter chains

Blocks are rules of a packet filter chain that drop the packets of a source. A change is made only
after a check: a rule is inserted if the check says that it is absent, and deleted if the check
says that it is present, so adding and removing twice is adding and removing once. A check that
fails leaves the chain alone.

## Main definitions

* `Chain`: the programs and the chain
* `Chain.enforcer`: the firewall that runs them
-/

namespace SourceGuard

/-- A chain, and the programs that edit it. -/
structure Chain where
  /-- The program for IPv4 rules. -/
  iptables : String
  /-- The program for IPv6 rules. -/
  ip6tables : String
  /-- The name of the chain. -/
  chain : String
deriving DecidableEq, Repr

namespace Chain

/-- What a program is asked to do with a rule. -/
inductive Verb where
  | check
  | insert
  | delete
deriving DecidableEq, Repr

/-- The option that asks for it. -/
def Verb.option : Verb → String
  | check => "-C"
  | insert => "-I"
  | delete => "-D"

/-- The program for the family of a source. -/
def program (chain : Chain) : Address → String
  | .v4 _ => chain.iptables
  | .v6 _ => chain.ip6tables

/-- The command that does something with the rule that drops a source. -/
def command (chain : Chain) (verb : Verb) (source : Address) : Command where
  program := chain.program source
  arguments := [verb.option, chain.chain, "-s", source.toText, "-j", "DROP"]

/-- The event of a command. -/
def runEvent (c : Command) : Event :=
  ⟨.debug, "Running firewall command", [("command", .plain c.line)]⟩

/-- The failure of a command that ended with another status than success. -/
def rejection (c : Command) (status : ExitStatus) (complaint : List UInt8) : EnforcementError :=
  .rejected c.line status.text (Text.trimBlank (Text.Utf8.lenient complaint))

/-- What a check says about a rule. -/
inductive Finding where
  | present
  | absent
  | unknown (e : EnforcementError)
deriving DecidableEq, Repr

/-- What the end of a check says: codes zero and one, and nothing else, are findings. -/
def finding (c : Command) : CommandResult → Finding
  | .notStarted cause => .unknown (.spawn c.line cause)
  | .ended (.code 0) _ => .present
  | .ended (.code 1) _ => .absent
  | .ended status complaint => .unknown (rejection c status complaint)

/-- The failure of a change, if it failed. -/
def failure? (c : Command) : CommandResult → Option EnforcementError
  | .notStarted cause => some (.spawn c.line cause)
  | .ended (.code 0) _ => none
  | .ended status complaint => some (rejection c status complaint)

variable {σ : Type}

/-- The rule of a source is as wanted already. -/
def settledEvent (chain : Chain) (message : String) (source : Address) : Event :=
  ⟨.debug, message, [("source", .plain source.toText), ("chain", .plain chain.chain)]⟩

/-- Check, and change only what has to be changed: `verb` is run on the other finding than
`settled`. -/
def ensure (chain : Chain) (shell : Shell σ) (settled : Finding) (message : String) (verb : Verb)
    (source : Address) (s : σ) : Response × σ :=
  let check := chain.command .check source
  let (result, s) := shell check s
  match finding check result with
  | .unknown e => (⟨some e, [runEvent check]⟩, s)
  | found =>
    if found = settled then (⟨none, [runEvent check, chain.settledEvent message source]⟩, s)
    else
      let change := chain.command verb source
      let (result, s) := shell change s
      (⟨failure? change result, [runEvent check, runEvent change]⟩, s)

/-- The firewall that edits the chain through a shell. -/
def enforcer (shell : Shell σ) (chain : Chain) : Enforcer σ where
  name := "iptables"
  answer
    | .add source => chain.ensure shell .present "DROP rule already present" .insert source
    | .remove source => chain.ensure shell .absent "No DROP rule to delete" .delete source

end Chain

end SourceGuard
