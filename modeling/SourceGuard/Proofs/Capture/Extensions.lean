import SourceGuard.Proofs.Capture.Frames

/-!
# Extension headers

Between the fixed header of an IPv6 packet and its transport there may be extension headers, each of
which names what follows it. The fixed header names the transport only if there are none. That is
where the sender of a frame is read from, so where TCP alone counts, a packet of TCP has a sender
only if it has no extension header. Anyone can put one in front of the transport: the packet stays
one of TCP from the same sender, but it is no longer accounted. The header of an IPv4 packet names
the transport whatever its options are.

## Main definitions

* `Extension`: an extension header
* `Extension.chain`: the bytes of extension headers before a transport
* `Frame.Carries`: a frame carries extension headers and a transport
* `Frame.extended`: a frame with more extension headers

## Main results

* `Frame.carries_extended`: a frame with more extension headers carries the same transport
* `Frame.source?_of_carries`: the sender of a frame with extension headers
* `Frame.extension_exact`: which packets of TCP have a sender
* `Frame.unseen_behind_extension`: a packet of TCP without a sender
-/

namespace SourceGuard

/-- The kinds of extension headers. -/
inductive ExtensionKind where
  /-- Options for every hop. -/
  | hopByHop
  /-- A route. -/
  | routing
  /-- Options for the destination. -/
  | destination

/-- The number by which a kind is announced. -/
def ExtensionKind.number : ExtensionKind → UInt8
  | hopByHop => 0
  | routing => 43
  | destination => 60

theorem ExtensionKind.number_ne_tcp (kind : ExtensionKind) : kind.number ≠ 6 := by
  cases kind <;> decide

/-- An extension header: eight bytes, and eight more as often as it says. Its first byte announces
what follows and its second one is its length. -/
structure Extension where
  /-- The kind by which it is announced. -/
  kind : ExtensionKind
  /-- How often there are eight more bytes. -/
  more : UInt8
  /-- The bytes after the first two. -/
  content : List UInt8
  /-- There are as many of them as the length says. -/
  fits : content.length + 2 = 8 + 8 * more.toNat

namespace Extension

/-- What announces extension headers before a transport. -/
def announced (protocol : UInt8) : List Extension → UInt8
  | [] => protocol
  | e :: _ => e.kind.number

/-- The bytes of extension headers before a transport. -/
def chain (protocol : UInt8) : List Extension → List UInt8
  | [] => []
  | e :: rest => announced protocol rest :: e.more :: (e.content ++ chain protocol rest)

variable {protocol : UInt8}

theorem announced_append (first rest : List Extension) :
    announced protocol (first ++ rest) = announced (announced protocol rest) first := by
  cases first <;> rfl

/-- Extension headers before others are headers before what announces the others. -/
theorem chain_append (first rest : List Extension) :
    chain protocol (first ++ rest) =
      chain (announced protocol rest) first ++ chain protocol rest := by
  induction first with
  | nil => rfl
  | cons e first ih => simp [chain, announced_append, ih]

/-- Only a transport without extension headers is announced as TCP. -/
theorem announced_eq_tcp_iff (headers : List Extension) :
    announced protocol headers = 6 ↔ headers = [] ∧ protocol = 6 := by
  cases headers with
  | nil => simp [announced]
  | cons e rest => simp [announced, e.kind.number_ne_tcp]

end Extension

namespace Frame

open Extension

variable {frame : Frame} {headers : List Extension} {protocol : UInt8}

/-- A frame carries extension headers and then a transport: the fixed header of an IPv6 packet
announces them, and they follow it. -/
structure Carries (frame : Frame) (headers : List Extension) (protocol : UInt8) : Prop where
  /-- The frame holds an IPv6 packet. -/
  holds : frame.Holds false .ipv6
  /-- The fixed header announces what follows. -/
  announces : frame[Layout.ipv6.protocol]? = some (announced protocol headers)
  /-- All of the extension headers are in the frame. -/
  follows : chain protocol headers <+: frame.drop Layout.ipv6.length

/-- The fixed header of an IPv6 packet with another length and another announcement of what
follows. -/
def announcing (frame : Frame) (size : Nat) (next : UInt8) : List UInt8 :=
  -- the length is that of what follows the fixed header, and stands at the places 18 and 19
  (((frame.take Layout.ipv6.length).set 18 (UInt8.ofNat (size / 256))).set 19
    (UInt8.ofNat size)).set Layout.ipv6.protocol next

/-- A frame with extension headers put behind the fixed header of its IPv6 packet, which announces
them and counts them in its length. -/
def extended (frame : Frame) (headers : List Extension) : Frame :=
  let next := frame[Layout.ipv6.protocol]?.getD 0
  let inserted := chain next headers
  let size := Text.ofDigits 256 (frame.field 18 2) + inserted.length
  frame.announcing size (announced next headers) ++ (inserted ++ frame.drop Layout.ipv6.length)

section Extended

variable (hwhole : Layout.ipv6.length ≤ frame.length)

include hwhole

theorem length_announcing (size : Nat) (next : UInt8) :
    (frame.announcing size next).length = Layout.ipv6.length := by
  simp only [announcing, List.length_set, List.length_take, Nat.min_eq_left hwhole]

theorem getElem?_protocol_announcing (size : Nat) (next : UInt8) :
    (frame.announcing size next)[Layout.ipv6.protocol]? = some next := by
  have hplace : Layout.ipv6.protocol < Layout.ipv6.length := by decide
  refine List.getElem?_set_self ?_
  simp only [List.length_set, List.length_take, Nat.min_eq_left hwhole, hplace]

/-- Extension headers change the fixed header in its length and its announcement only. -/
theorem getElem?_extended (headers : List Extension) {i : Nat} (hi : i < Layout.ipv6.length)
    (hplace : i < 18 ∨ Layout.ipv6.protocol < i) : (frame.extended headers)[i]? = frame[i]? := by
  have hprotocol : Layout.ipv6.protocol = 20 := rfl
  have hinside : ∀ size next, i < (frame.announcing size next).length := fun size next => by
    rwa [length_announcing hwhole]
  rw [extended, List.getElem?_append_left (hinside _ _), announcing,
    List.getElem?_set_ne (by omega), List.getElem?_set_ne (by omega),
    List.getElem?_set_ne (by omega), List.getElem?_take_of_lt hi]

/-- The sender of a frame with more extension headers stands where it was. -/
theorem sender_extended (headers : List Extension) :
    (frame.extended headers).sender .ipv6 = frame.sender .ipv6 := by
  have hfits : Layout.ipv6.sender + Layout.ipv6.width ≤ Layout.ipv6.length := by decide
  have hbehind : Layout.ipv6.protocol < Layout.ipv6.sender := by decide
  exact sender_of_agrees fun i hle hlt =>
    getElem?_extended hwhole headers (by omega) (Or.inr (by omega))

end Extended

/-- **A frame with more extension headers** carries the same transport. -/
theorem carries_extended (h : frame.Carries headers protocol) (first : List Extension) :
    (frame.extended first).Carries (first ++ headers) protocol := by
  have hwhole : Layout.ipv6.length ≤ frame.length := h.holds.whole
  have hlength := fun size next => length_announcing hwhole size next
  have hnext : frame[Layout.ipv6.protocol]?.getD 0 = announced protocol headers := by
    rw [h.announces, Option.getD_some]
  have htype : ∀ i, i < 18 → (frame.extended first)[i]? = frame[i]? := fun i hi =>
    getElem?_extended hwhole first (Nat.lt_trans hi (by decide)) (Or.inl hi)
  refine ⟨⟨⟨?_, ?_⟩, ?_, nofun⟩, ?_, ?_⟩
  · exact (htype 12 (by decide)).trans h.holds.type.1
  · exact (htype 13 (by decide)).trans h.holds.type.2
  · rw [extended, List.length_append, hlength]
    exact Nat.le_add_right _ _
  · -- what is announced now announces what was announced before
    rw [announced_append, ← hnext, extended, List.getElem?_append_left (by rw [hlength]; decide),
      getElem?_protocol_announcing hwhole]
  · rw [chain_append, ← hnext, extended, List.drop_left' (hlength _ _)]
    exact (List.prefix_append_right_inj _).mpr h.follows

/-! ## The sender -/

/-- **The sender of a frame with extension headers**, where everything counts and where TCP alone
does. -/
theorem source?_of_carries (h : frame.Carries headers protocol) :
    ∃ a : Address, a.layout = .ipv6 ∧ a.bytes = frame.sender .ipv6 ∧
      frame.source? false = some a ∧
      frame.source? true = if headers.isEmpty ∧ protocol = 6 then some a else none := by
  obtain ⟨a, ha, hlayout, hbytes⟩ := exists_source? h.holds (Or.inr rfl)
  refine ⟨a, hlayout, hbytes, ha, ?_⟩
  split
  case isTrue hplain =>
    have htcp : announced protocol headers = 6 :=
      (announced_eq_tcp_iff headers).mpr ⟨List.isEmpty_iff.mp hplain.1, hplain.2⟩
    refine (source?_eq_some_iff frame true a).mpr ⟨?_, hlayout ▸ hbytes.symm⟩
    rw [hlayout]
    exact ⟨h.holds.type, h.holds.whole, fun _ => htcp ▸ h.announces⟩
  case isFalse hhidden =>
    -- a sender would be that of a packet whose fixed header names TCP
    refine Option.eq_none_iff_forall_ne_some.mpr fun b hb => hhidden ?_
    have hholds := ((source?_eq_some_iff frame true b).mp hb).1
    rcases b.layout_cases with hb4 | hb6
    · have htype := hholds.type.1.symm.trans h.holds.type.1
      rw [hb4] at htype
      exact absurd htype (by decide)
    · have hprotocol := hholds.protocol rfl
      rw [hb6, h.announces, Option.some.injEq, announced_eq_tcp_iff] at hprotocol
      exact ⟨List.isEmpty_iff.mpr hprotocol.1, hprotocol.2⟩

/-- **Which packets of TCP have a sender.** Where everything counts, a frame with extension headers
has the sender that stands in its fixed header. Where TCP alone counts, it has it only if it is a
packet of TCP without extension headers. So with any extension headers put in front, a frame still
carries what it did from the same sender, but it has no sender any more where TCP alone counts. An
IPv4 packet of TCP has its sender in both cases, whatever its options are. -/
theorem extension_exact (h : frame.Carries headers protocol) :
    (∃ a : Address, a.layout = .ipv6 ∧ a.bytes = frame.sender .ipv6 ∧
      frame.source? false = some a ∧
      (frame.source? true = if headers.isEmpty ∧ protocol = 6 then some a else none) ∧
      ∀ first, (frame.extended first).Carries (first ++ headers) protocol ∧
        (frame.extended first).source? false = some a ∧
        (first ≠ [] → (frame.extended first).source? true = none)) ∧
      ∀ (packet : Frame) (tcpOnly : Bool), packet.Holds true .ipv4 →
        ∃ a : Address, a.layout = .ipv4 ∧ a.bytes = packet.sender .ipv4 ∧
          packet.source? tcpOnly = some a := by
  obtain ⟨a, hlayout, hbytes, hany, htcp⟩ := source?_of_carries h
  refine ⟨⟨a, hlayout, hbytes, hany, htcp, fun first => ?_⟩, fun packet tcpOnly hpacket => ?_⟩
  · have hcarries := carries_extended h first
    obtain ⟨b, -, hbbytes, hbany, hbtcp⟩ := source?_of_carries hcarries
    obtain rfl : b = a := Address.bytes_injective <| by
      rw [hbbytes, hbytes, sender_extended h.holds.whole]
    refine ⟨hcarries, hbany, fun hfirst => ?_⟩
    rw [hbtcp, if_neg]
    simp [hfirst]
  · have hholds : packet.Holds tcpOnly .ipv4 :=
      ⟨hpacket.type, hpacket.whole, fun _ => hpacket.protocol rfl⟩
    obtain ⟨b, hb, hblayout, hbbytes⟩ := exists_source? hholds (Or.inl rfl)
    exact ⟨b, hblayout, hbbytes, hb⟩

/-- A packet of TCP that is accounted, and the same packet with two extension headers of different
lengths put in front, which is not; and an IPv4 packet of TCP with options. -/
theorem extension_exact_of_options :
    let frame : Frame := [0xff, 0xff, 0xff, 0xff, 0xff, 0xff, 2, 0, 0, 0, 0, 1, 0x86, 0xdd,
      0x60, 0, 0, 0, 0, 20, 6, 64, 0xfd, 0, 0, 0, 0, 0, 0, 0, 0, 0, 0, 0, 0, 0, 1, 0,
      0, 0, 0, 0, 0, 0, 0, 0, 0, 0, 0, 0, 0, 0, 0, 1,
      0x04, 0xd2, 0, 80, 0, 0, 0, 1, 0, 0, 0, 0, 0x50, 2, 0xff, 0xff, 0, 0, 0, 0]
    let hop : Extension := ⟨.hopByHop, 0, [1, 4, 0, 0, 0, 0], rfl⟩
    let padding : Extension := ⟨.destination, 1, [1, 12] ++ List.replicate 12 0, rfl⟩
    let packet : Frame := List.replicate 12 0 ++ [0x08, 0x00,
      0x46, 0, 0, 44, 0, 1, 0, 0, 64, 6, 0, 0, 203, 0, 113, 255, 10, 0, 0, 1, 0x94, 0x04, 0, 0] ++
      List.replicate 20 0
    let a := Address.v6 0xfd000000000000000000000000000100
    frame.Carries [] 6 ∧ packet.Holds true .ipv4 ∧ frame.source? true = some a ∧
      (frame.extended [hop, padding]).Carries [hop, padding] 6 ∧
      (frame.extended [hop, padding]).length = frame.length + 24 ∧
      (frame.extended [hop, padding]).source? false = some a ∧
      (frame.extended [hop, padding]).source? true = none ∧
      packet.source? true = some (Address.v4 0xcb0071ff) := by
  intro frame hop padding packet a
  have hcarries : frame.Carries [] 6 :=
    ⟨⟨⟨by decide, by decide⟩, by decide, nofun⟩, by decide, List.nil_prefix⟩
  have hpacket : packet.Holds true .ipv4 := ⟨⟨by decide, by decide⟩, by decide, fun _ => by decide⟩
  obtain ⟨⟨b, -, hbytes, -, htcp, hextended⟩, hipv4⟩ := extension_exact hcarries
  obtain rfl : b = a := Address.bytes_injective (hbytes.trans (by decide))
  obtain ⟨hmore, hmany, hmtcp⟩ := hextended [hop, padding]
  obtain ⟨c, -, hcbytes, hc⟩ := hipv4 packet true hpacket
  obtain rfl : c = Address.v4 0xcb0071ff := Address.bytes_injective (hcbytes.trans (by decide))
  exact ⟨hcarries, hpacket, htcp, hmore, by decide, hmany, hmtcp (by simp), hc⟩

/-- **A packet of TCP without a sender**: it has options for every hop in front of its transport. -/
theorem unseen_behind_extension :
    let frame : Frame := [0xff, 0xff, 0xff, 0xff, 0xff, 0xff, 2, 0, 0, 0, 0, 1, 0x86, 0xdd,
      0x60, 0, 0, 0, 0, 28, 0, 64, 0xfd, 0, 0, 0, 0, 0, 0, 0, 0, 0, 0, 0, 0, 0, 1, 0,
      0, 0, 0, 0, 0, 0, 0, 0, 0, 0, 0, 0, 0, 0, 0, 1,
      6, 0, 1, 4, 0, 0, 0, 0,
      0x04, 0xd2, 0, 80, 0, 0, 0, 1, 0, 0, 0, 0, 0x50, 2, 0xff, 0xff, 0, 0, 0, 0]
    let hop : Extension := ⟨.hopByHop, 0, [1, 4, 0, 0, 0, 0], rfl⟩
    frame.Carries [hop] 6 ∧
      frame.source? false = some (Address.v6 0xfd000000000000000000000000000100) ∧
      frame.source? true = none := by
  intro frame hop
  exact ⟨⟨⟨⟨by decide, by decide⟩, by decide, nofun⟩, by decide, by decide⟩, by decide, by decide⟩

end Frame

end SourceGuard
