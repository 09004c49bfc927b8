import SourceGuard.Config
import SourceGuard.Daemon
import SourceGuard.Firewall.Iptables

/-!
# What a configuration sets up

The monitor, the evaluation loop, the firewall and the daemon that a configuration describes. Before
the first packet nothing is accounted and nobody is blocked; packets are matched against the size
band of the pattern rule whether the rule is in use or not.

## Main definitions

* `Monitor.ofConfig`, `EvaluationLoop.ofConfig`, `Daemon.ofConfig`
* `Chain.ofConfig`, `Enforcer.ofConfig`
-/

namespace SourceGuard

/-- The monitor of a configuration. -/
def Monitor.ofConfig (c : Config) : Monitor where
  window := { span := c.windowSpan, band := c.rules.pattern.band }
  rules := c.ruleSet
  policy := c.policy
  blocks := { requested := c.blockSpan }

/-- The evaluation loop of a configuration, which starts at an instant. -/
def EvaluationLoop.ofConfig (c : Config) (start : Instant) : EvaluationLoop where
  monitor := Monitor.ofConfig c
  every := c.reconcileSpan?
  lastDue := start

/-- The chain of a configuration. -/
def Chain.ofConfig (c : Config) : Chain where
  iptables := c.enforcement.iptables
  ip6tables := c.enforcement.ip6tables
  chain := c.enforcement.chain

/-- The firewall of a configuration: its chain, unless blocks are only reported. -/
def Enforcer.ofConfig {σ : Type} (shell : Shell σ) (c : Config) (asked : Bool) : Enforcer σ :=
  if c.isDryRun asked then .dryRun else (Chain.ofConfig c).enforcer shell

/-- The daemon of a configuration, which starts at an instant. -/
def Daemon.ofConfig (c : Config) (start : Instant) : Daemon where
  tcpOnly := c.monitor.tcpOnly
  captures := c.monitor.interfaces.map fun interface => { interface }
  loop := EvaluationLoop.ofConfig c start

/-- The firewall has the name that the log gives it. -/
theorem Enforcer.name_ofConfig {σ : Type} (shell : Shell σ) (c : Config) (asked : Bool) :
    (ofConfig shell c asked).name = c.enforcerName asked := by
  unfold ofConfig Config.enforcerName
  split <;> rfl

/-- At first nothing is accounted. -/
@[simp] theorem Monitor.records_ofConfig (c : Config) : (ofConfig c).window.records = [] := rfl

/-- At first nobody is blocked. -/
@[simp] theorem Monitor.table_ofConfig (c : Config) :
    (ofConfig c).blocks.table = AddressMap.empty := rfl

end SourceGuard
