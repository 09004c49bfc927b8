import SourceGuard.AddressMap
import SourceGuard.Enforcement

/-!
# Blocks

A blocked source has an entry until its block expires. An entry is made together with one call that
adds a block to the firewall, and goes together with one call that removes it; whether the firewall
obeys decides what is reported, never what the table holds. Re-asserting calls the firewall once
more for every entry and leaves the table alone.

## Main definitions

* `Entry`, `Blocks`: the table of blocks
* `Blocks.request`, `Blocks.releaseExpired`, `Blocks.releaseAll`, `Blocks.reconcile`
* `Blocks.statuses`: the entries as a report shows them
-/

namespace SourceGuard

/-- A block. -/
structure Entry where
  /-- The instant from which the block has expired. -/
  expiry : Instant
  /-- Why the source is blocked. -/
  reason : String
deriving DecidableEq, Repr

namespace Entry

/-- Whether the block has expired. -/
def isExpired (e : Entry) (now : Instant) : Bool := e.expiry ≤ now

/-- The time until the block expires. -/
def remaining (e : Entry) (now : Instant) : Span := Instant.until now e.expiry

/-- The whole seconds until the block expires. -/
def secondsLeft (e : Entry) (now : Instant) : Nat := (e.remaining now).wholeSeconds

end Entry

/-- What became of a request. -/
inductive RequestOutcome where
  /-- The source has an entry now, and the firewall accepted the block. -/
  | blocked
  /-- The source has an entry now, but the firewall refused the block. -/
  | unenforced
  /-- The source had an entry, which stays as it was. -/
  | alreadyBlocked
deriving DecidableEq, Repr

/-- Why blocks are released. -/
inductive ReleaseCause where
  | expired
  | shutdown
deriving DecidableEq, Repr

namespace ReleaseCause

/-- A cause in words. -/
def text : ReleaseCause → String
  | expired => "block duration expired"
  | shutdown => "shutting down"

end ReleaseCause

/-- The blocked sources, and how long a block lasts. -/
structure Blocks where
  /-- The length of a block that was asked for. -/
  requested : Span
  /-- The entries. -/
  table : AddressMap Entry := {}

namespace Blocks

/-- The longest block: 365 days. -/
def longest : Span := Span.ofSeconds 31536000

/-- The length of a block: what was asked for, up to the longest. -/
def span (b : Blocks) : Span := min b.requested longest

/-- Whether a source has an entry. -/
def isBlocked (b : Blocks) (source : Address) : Bool := b.table.contains source

/-- The entry that a block at an instant gets. -/
def entryAt (b : Blocks) (now : Instant) (reason : String) : Entry :=
  { expiry := now + b.span, reason }

variable {σ : Type}

/-! ### Requests -/

/-- The event of a request that the firewall accepted. -/
def blockedEvent (b : Blocks) (source : Address) (reason : String) : Event :=
  ⟨.warn, "🚫 Blocked source",
    [("source", .plain source.toText), ("reason", .quoted reason),
      ("block_secs", .number b.span.wholeSeconds)]⟩

/-- The event of a request that the firewall refused. -/
def unenforcedEvent (name : String) (source : Address) (reason : String) (e : EnforcementError) :
    Event :=
  ⟨.error, "❌ Failed to block source, keeping it blocked in memory: " ++ e.message,
    [("source", .plain source.toText), ("reason", .quoted reason), ("enforcer", .quoted name)]⟩

/-- Block a source that has no entry. -/
def request (E : Enforcer σ) (b : Blocks) (source : Address) (now : Instant) (reason : String) :
    Action σ (RequestOutcome × Blocks) :=
  if b.isBlocked source then pure (.alreadyBlocked, b)
  else do
    let next := { b with table := b.table.insert source (b.entryAt now reason) }
    match ← E.perform (.add source) with
    | none =>
      Action.emit (b.blockedEvent source reason)
      pure (.blocked, next)
    | some e =>
      Action.emit (unenforcedEvent E.name source reason e)
      pure (.unenforced, next)

/-! ### Releases -/

/-- The event of a release. -/
def releaseEvent (name : String) (cause : ReleaseCause) (source : Address) :
    Option EnforcementError → Event
  | none =>
    ⟨.info, "✅ Unblocked source (" ++ cause.text ++ ")", [("source", .plain source.toText)]⟩
  | some e =>
    ⟨.error, "❌ Failed to remove block (" ++ cause.text ++ "), dropping entry anyway: " ++ e.message,
      [("source", .plain source.toText), ("enforcer", .quoted name)]⟩

/-- Release one source. -/
def release (E : Enforcer σ) (cause : ReleaseCause) (b : Blocks) (source : Address) :
    Action σ Blocks := do
  let failure ← E.perform (.remove source)
  Action.emit (releaseEvent E.name cause source failure)
  pure { b with table := b.table.erase source }

/-- Release sources, one after another. -/
def releaseEach (E : Enforcer σ) (cause : ReleaseCause) : List Address → Blocks → Action σ Blocks
  | [], b => pure b
  | source :: rest, b => do
    let b ← release E cause b source
    releaseEach E cause rest b

/-- The sources whose block has expired. -/
def expired (b : Blocks) (now : Instant) : List Address :=
  (b.table.entries.filter (·.2.isExpired now)).map (·.1)

/-- Release the sources whose block has expired. -/
def releaseExpired (E : Enforcer σ) (b : Blocks) (now : Instant) :
    Action σ (List Address × Blocks) := do
  let released := b.expired now
  let b ← releaseEach E .expired released b
  pure (released, b)

/-- Release every source. -/
def releaseAll (E : Enforcer σ) (b : Blocks) : Action σ (Nat × Blocks) := do
  let b' ← releaseEach E .shutdown b.table.sources b
  pure (b.table.size, b')

/-! ### Re-assertion -/

/-- Ask the firewall once more to block sources; the number of refusals. -/
def assertEach (E : Enforcer σ) : List Address → Action σ Nat
  | [] => pure 0
  | source :: rest => do
    match ← E.perform (.add source) with
    | none => assertEach E rest
    | some e =>
      Action.emit
        ⟨.error, "❌ Failed to re-assert block: " ++ e.message, [("source", .plain source.toText)]⟩
      let failures ← assertEach E rest
      pure (failures + 1)

/-- Ask the firewall once more to block every source of the table. -/
def reconcile (E : Enforcer σ) (b : Blocks) : Action σ Nat := assertEach E b.table.sources

/-! ### Statuses -/

/-- Blocks that end sooner come first, and of two that end in the same second the lower address. -/
def endsFirst (a b : BlockStatus) : Bool :=
  a.seconds < b.seconds || (a.seconds = b.seconds && a.source ≤ b.source)

/-- The statuses of entries in any order. -/
def statusesOf (entries : List (Address × Entry)) (now : Instant) : List BlockStatus :=
  (entries.map fun (source, e) => ⟨source, e.secondsLeft now, e.reason⟩).mergeSort endsFirst

/-- The entries as a report shows them. -/
def statuses (b : Blocks) (now : Instant) : List BlockStatus := statusesOf b.table.entries now

end Blocks

end SourceGuard
