import SourceGuard.Address

/-!
# Ethernet frames

A frame is an Ethernet packet, whose payload may be an IPv4 or IPv6 packet. A packet of each kind
has a fixed header with its fields at fixed places, and its payload behind it; bytes that are too
few for the header are no such packet. The sender of a frame is read off the header of its IP
packet, so frames of other types have none.

## Main definitions

* `Packet`: the bytes of a packet with a fixed header
* `Ethernet`, `IPv4`, `IPv6`: the kinds of packets and their fields
* `Frame.source?`: the sender of the packet in a frame
-/

namespace SourceGuard

/-- The bytes of an Ethernet frame. -/
abbrev Frame := List UInt8

namespace Frame

/-- The bytes of a frame from an offset, as numbers. -/
def field (frame : Frame) (offset length : Nat) : List Nat :=
  ((frame.drop offset).take length).map UInt8.toNat

/-- Pairs of bytes as numbers of 16 bits. -/
def pairs : List Nat → List Nat
  | a :: b :: rest => (a * 256 + b) :: pairs rest
  | _ => []

end Frame

/-! ### Packets -/

/-- The bytes of a packet whose fixed header has a length. -/
structure Packet (header : Nat) where
  bytes : List UInt8
  /-- The fixed header is complete. -/
  whole : header ≤ bytes.length

namespace Packet

variable {header : Nat}

/-- Bytes as a packet, if they are enough for its fixed header. -/
def ofBytes? (header : Nat) (bytes : List UInt8) : Option (Packet header) :=
  if whole : header ≤ bytes.length then some ⟨bytes, whole⟩ else none

/-- A byte of the fixed header. -/
def byte (p : Packet header) (place : Fin header) : UInt8 := p.bytes.get (place.castLE p.whole)

/-- The bytes of a packet from an offset, as numbers. -/
def field (p : Packet header) (offset length : Nat) : List Nat := Frame.field p.bytes offset length

/-- What follows the fixed header. -/
def payload (p : Packet header) : List UInt8 := p.bytes.drop header

end Packet

/-- An IPv4 packet, with or without options. -/
abbrev IPv4 := Packet 20

namespace IPv4

/-- The number of the protocol of the payload. -/
def protocol (p : IPv4) : UInt8 := p.byte 9

/-- The sender. -/
def source (p : IPv4) : Address := Address.ofOctets (p.field 12 4)

end IPv4

/-- An IPv6 packet. -/
abbrev IPv6 := Packet 40

namespace IPv6

/-- What follows the fixed header: a protocol, or an extension header. -/
def nextHeader (p : IPv6) : UInt8 := p.byte 6

/-- The sender. -/
def source (p : IPv6) : Address := Address.ofGroups (Frame.pairs (p.field 8 16))

end IPv6

/-- An Ethernet packet. -/
abbrev Ethernet := Packet 14

namespace Ethernet

/-- The type of the payload. -/
def type (p : Ethernet) : List Nat := p.field 12 2

/-- The sender of the IP packet that is the payload, and what the fixed header of that packet names
as following it. -/
def sender? (p : Ethernet) : Option (Address × UInt8) :=
  if p.type = [0x08, 0x00] then
    (Packet.ofBytes? 20 p.payload).map fun ip : IPv4 => (ip.source, ip.protocol)
  else if p.type = [0x86, 0xdd] then
    (Packet.ofBytes? 40 p.payload).map fun ip : IPv6 => (ip.source, ip.nextHeader)
  else none

end Ethernet

/-! ### The sender -/

namespace Frame

/-- The number of TCP among the protocols. -/
def tcp : UInt8 := 6

/-- The sender of the packet in a frame; with `tcpOnly`, of a packet whose fixed header names
TCP. -/
def source? (frame : Frame) (tcpOnly : Bool) : Option Address := do
  let ethernet ← Packet.ofBytes? 14 frame
  let (source, next) ← Ethernet.sender? ethernet
  if tcpOnly && next ≠ tcp then none else some source

/-- The length of a frame as it is accounted. -/
def size (frame : Frame) : UInt32 := UInt32.ofNat (min frame.length (UInt32.size - 1))

end Frame

end SourceGuard
