import SourceGuard.Rounding
import SourceGuard.Traffic

/-!
# Rules

A rule looks at the aggregate of one source and says whether it fires, and whether it is close to
firing. A rule set combines rules: a source violates it when any rule fires, or when every rule
does; a set without rules is never violated. A policy says which sources may be blocked.

## Main definitions

* `Rule`, `Rule.volume`, `Rule.pattern`: the rules
* `RuleSet`, `RuleSet.violation?`: the rules that fired, if they make a violation
* `SourcePolicy.isEligible`: who may be blocked
-/

namespace SourceGuard

/-- A condition on the aggregate of one source. -/
structure Rule where
  /-- The name that a block gives as its reason. -/
  name : String
  /-- The condition, in words. -/
  description : String
  /-- Whether the condition holds. -/
  fires : Aggregate → Bool
  /-- Whether the condition is close to holding. -/
  approaching : Aggregate → Bool := fun _ => false

/-- How a count is compared with a limit. -/
inductive Comparison where
  /-- The count is the limit; a burst that jumps past the limit is not noticed. -/
  | exact
  /-- The count is the limit or more. -/
  | atLeast
deriving DecidableEq, Repr, Inhabited

namespace Comparison

/-- Whether a count compares with a limit. -/
def holds : Comparison → (count limit : UInt64) → Bool
  | exact, count, limit => count = limit
  | atLeast, count, limit => limit ≤ count

/-- The sign of a comparison. -/
def sign : Comparison → String
  | exact => "=="
  | atLeast => ">="

end Comparison

namespace Rule

/-- The warning ratio, four fifths to 53 significant bits, is this number over `2 ^ 53`. -/
def warningRatio : Nat := 7205759403792794

/-- Whether a volume exceeds the warning ratio of a threshold. Volume, threshold and their product
with the ratio are kept to 53 significant bits. -/
def nearThreshold (threshold bytes : Nat) : Bool :=
  toPrecision (toPrecision threshold * warningRatio) < toPrecision bytes <<< 53

/-- The rule that fires on more bytes than a threshold. -/
def volume (threshold : UInt64) : Rule where
  name := "volume"
  description := "bytes > " ++ toString threshold.toNat
  fires a := threshold < a.bytes
  approaching a := nearThreshold threshold.toNat a.bytes.toNat

/-- The rule that fires on the number of packets in the size band. -/
def pattern (limit : UInt64) (comparison : Comparison) : Rule where
  name := "pattern"
  description := "pattern " ++ comparison.sign ++ " " ++ toString limit.toNat
  fires a := comparison.holds a.matching limit
  approaching a := 0 < limit && a.matching = limit - 1

end Rule

/-- How the rules of a set make a violation. -/
inductive Combine where
  /-- One rule that fires is a violation. -/
  | any
  /-- Every rule has to fire. -/
  | all
deriving DecidableEq, Repr, Inhabited

/-- Rules and how they are combined. -/
structure RuleSet where
  /-- How the rules make a violation. -/
  combine : Combine
  /-- The rules. -/
  rules : List Rule := []

namespace RuleSet

/-- The names of the rules that fire, in their order. -/
def fired (set : RuleSet) (a : Aggregate) : List String :=
  (set.rules.filter (·.fires a)).map (·.name)

/-- Whether an aggregate violates the set. -/
def isViolated (set : RuleSet) (a : Aggregate) : Bool :=
  match set.combine with
  | .any => set.rules.any (·.fires a)
  | .all => !set.rules.isEmpty && set.rules.all (·.fires a)

/-- The names of the rules that fired, if the aggregate violates the set. -/
def violation? (set : RuleSet) (a : Aggregate) : Option (List String) :=
  if set.isViolated a then some (set.fired a) else none

/-- The reason of a block: the rules that fired. -/
def reason (fired : List String) : String := String.intercalate "+" fired

/-- Whether some rule is close to firing. -/
def approaching (set : RuleSet) (a : Aggregate) : Bool := set.rules.any (·.approaching a)

/-- The word between the descriptions of two rules. -/
def joiner : Combine → String
  | .any => " or "
  | .all => " and "

/-- The set in words. -/
def describe (set : RuleSet) : String :=
  String.intercalate (joiner set.combine) (set.rules.map (·.description))

/-- A set without rules is never violated. -/
@[simp] theorem violation?_nil (combine : Combine) (a : Aggregate) :
    violation? ⟨combine, []⟩ a = none := by
  cases combine <;> rfl

end RuleSet

/-- Who may be blocked. -/
structure SourcePolicy where
  /-- The sources that are never blocked. -/
  exempt : List Address := []
  /-- If there are any, the only sources that are blocked. -/
  watched : List Address := []

namespace SourcePolicy

/-- Whether a source may be blocked. -/
def isEligible (policy : SourcePolicy) (source : Address) : Bool :=
  !policy.exempt.contains source && (policy.watched.isEmpty || policy.watched.contains source)

end SourcePolicy

end SourceGuard
