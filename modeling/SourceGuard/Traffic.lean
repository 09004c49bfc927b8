import SourceGuard.Address
import SourceGuard.Clock

/-!
# Traffic

A captured packet is accounted as a record: who sent it, how long it was, and when it was seen. The
records of a source add up to an aggregate. A size band singles out the packets whose length lies
strictly between two bounds.

## Main definitions

* `Record`: one accounted packet
* `SizeBand`: the lengths of interest
* `Aggregate`: what the records of one source add up to
-/

namespace SourceGuard

/-- One accounted packet. -/
structure Record where
  /-- The sender. -/
  source : Address
  /-- The length of the frame in bytes. -/
  size : UInt32
  /-- When the packet was seen. -/
  seen : Instant
deriving DecidableEq, Repr

/-- The lengths strictly between two bounds. -/
structure SizeBand where
  /-- The bound below which, and at which, no length lies. -/
  above : UInt32
  /-- The bound above which, and at which, no length lies. -/
  below : UInt32
deriving DecidableEq, Repr

namespace SizeBand

/-- Whether a length lies in the band. -/
def contains (band : SizeBand) (size : UInt32) : Bool := band.above < size && size < band.below

/-- Whether any length can lie in the band. -/
def isSatisfiable (band : SizeBand) : Bool := band.above.toNat + 1 < band.below.toNat

end SizeBand

instance : Inhabited SizeBand := ⟨⟨110, 130⟩⟩

/-- What the records of one source add up to. -/
structure Aggregate where
  /-- The number of packets. -/
  packets : UInt64 := 0
  /-- The sum of their lengths. -/
  bytes : UInt64 := 0
  /-- The number of packets in the size band. -/
  matching : UInt64 := 0
deriving DecidableEq, Repr, Inhabited

namespace Aggregate

/-- The aggregate with one more packet. -/
def add (a : Aggregate) (size : UInt32) (inBand : Bool) : Aggregate where
  packets := a.packets + 1
  bytes := a.bytes + size.toUInt64
  matching := if inBand then a.matching + 1 else a.matching

@[simp] theorem packets_add (a : Aggregate) (size : UInt32) (inBand : Bool) :
    (a.add size inBand).packets = a.packets + 1 := rfl

@[simp] theorem bytes_add (a : Aggregate) (size : UInt32) (inBand : Bool) :
    (a.add size inBand).bytes = a.bytes + size.toUInt64 := rfl

end Aggregate

end SourceGuard
