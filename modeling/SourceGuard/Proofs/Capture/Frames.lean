import Mathlib.Algebra.Ring.Nat
import Mathlib.Data.List.Induction
import SourceGuard.Capture.Frame
import SourceGuard.Proofs.Text.Digits

/-!
# The senders of frames

A frame has a sender exactly if it names one of two types, is long enough for the fixed header of
that type and, where TCP alone counts, names TCP in it; the sender is then the bytes at its place in
the header, whatever they are. Nothing else in the frame is looked at, so other bytes may be changed
or appended, and a frame that counts as TCP also counts where everything does.

## Main definitions

* `Address.bytes`: an address as it stands in a header
* `Layout`, `Layout.ipv4`, `Layout.ipv6`: where the fields of a packet stand in a frame
* `Frame.Holds`: a frame holds a packet of a layout
* `Frame.Reads`: the bytes that decide about the sender

## Main results

* `Text.bigEndian_ofDigits`, `Text.ofDigits_bigEndian`: bytes and the number that they spell
* `Frame.source?_eq`: the places of the fields in a frame
* `Frame.source?_eq_some_iff`, `Frame.isSome_source?_iff`: the sender of a frame, and when it
  has one
* `Frame.source?_of_agrees`: the bytes that are not read do not matter
* `Frame.source?_exact`: all of this
-/

namespace SourceGuard

/-! ## Bytes of numbers -/

namespace Text

/-- The lowest bytes of a number, the most significant first. -/
def bigEndian : (count n : Nat) → List UInt8
  | 0, _ => []
  | count + 1, n => bigEndian count (n / 256) ++ [UInt8.ofNat n]

/-- **Bytes are those of the number that they spell.** -/
theorem bigEndian_ofDigits (bytes : List UInt8) :
    bigEndian bytes.length (ofDigits 256 (bytes.map UInt8.toNat)) = bytes := by
  induction bytes using List.reverseRecOn with
  | nil => rfl
  | append_singleton bytes b ih =>
    have hb : b.toNat < 256 := b.toNat_lt
    have hlow : UInt8.ofNat (ofDigits 256 (bytes.map UInt8.toNat) * 256 + b.toNat) = b := by
      apply UInt8.toNat_inj.mp
      rw [UInt8.toNat_ofNat']
      omega
    have hhigh : (ofDigits 256 (bytes.map UInt8.toNat) * 256 + b.toNat) / 256 =
        ofDigits 256 (bytes.map UInt8.toNat) := by
      omega
    rw [List.map_append, List.map_singleton, ofDigits_concat, List.length_append,
      List.length_singleton, bigEndian, hlow, hhigh, ih]

/-- **The lowest bytes of a number** spell its remainder. -/
theorem ofDigits_bigEndian (count n : Nat) :
    ofDigits 256 ((bigEndian count n).map UInt8.toNat) = n % 256 ^ count := by
  induction count generalizing n with
  | zero => exact (Nat.mod_one n).symm
  | succ count ih =>
    have hsplit : n % 256 ^ (count + 1) = n % 256 + 256 * (n / 256 % 256 ^ count) := by
      rw [Nat.pow_succ', Nat.mod_mul]
    rw [bigEndian, List.map_append, List.map_singleton, ofDigits_concat, ih, UInt8.toNat_ofNat',
      hsplit]
    omega

/-- Bytes spell a number of so many bytes. -/
theorem ofDigits_lt (bytes : List UInt8) :
    ofDigits 256 (bytes.map UInt8.toNat) < 256 ^ bytes.length := by
  have h := ofDigits_bigEndian bytes.length (ofDigits 256 (bytes.map UInt8.toNat))
  rw [bigEndian_ofDigits] at h
  rw [h]
  exact Nat.mod_lt _ (Nat.pow_pos (by decide))

@[simp] theorem length_bigEndian (count n : Nat) : (bigEndian count n).length = count := by
  induction count generalizing n with
  | zero => rfl
  | succ count ih => rw [bigEndian, List.length_append, ih, List.length_singleton]

/-- **Bytes taken two at a time** spell the same number. -/
theorem foldl_pairs (n : Nat) (digits : List Nat) (h : digits.length % 2 = 0) :
    (Frame.pairs digits).foldl (fun n d => n * 65536 + d) n =
      digits.foldl (fun n d => n * 256 + d) n := by
  induction digits using Frame.pairs.induct generalizing n with
  | case1 a b rest ih =>
    have hrest : rest.length % 2 = 0 := by
      simp only [List.length_cons] at h
      omega
    have hpair : n * 65536 + (a * 256 + b) = (n * 256 + a) * 256 + b := by omega
    rw [Frame.pairs, List.foldl_cons, List.foldl_cons, List.foldl_cons, hpair, ih _ hrest]
  | case2 digits hshort =>
    match digits, hshort with
    | [], _ => simp [Frame.pairs]
    | [_], _ => simp at h
    | a :: b :: rest, hshort => exact absurd rfl (hshort a b rest)

end Text

namespace Address

/-- The bytes of an address, as they stand in a header. -/
def bytes : Address → List UInt8
  | v4 bits => Text.bigEndian 4 bits.toNat
  | v6 bits => Text.bigEndian 16 bits.toNat

/-- **Four bytes** are those of the IPv4 address that they spell. -/
theorem bytes_ofOctets {l : List UInt8} (h : l.length = 4) :
    (ofOctets (l.map UInt8.toNat)).bytes = l := by
  have hfits := Text.ofDigits_lt l
  have hback := Text.bigEndian_ofDigits l
  rw [h] at hfits hback
  have hlt : Text.ofDigits 256 (l.map UInt8.toNat) < 2 ^ 32 :=
    Nat.lt_of_lt_of_eq hfits (by decide)
  rw [ofOctets, bytes, BitVec.toNat_ofNat, Nat.mod_eq_of_lt hlt, hback]

/-- **Sixteen bytes** are those of the IPv6 address that they spell. -/
theorem bytes_ofGroups {l : List UInt8} (h : l.length = 16) :
    (ofGroups (Frame.pairs (l.map UInt8.toNat))).bytes = l := by
  have hfits := Text.ofDigits_lt l
  have hback := Text.bigEndian_ofDigits l
  have hpairs : Text.ofDigits 65536 (Frame.pairs (l.map UInt8.toNat)) =
      Text.ofDigits 256 (l.map UInt8.toNat) :=
    Text.foldl_pairs 0 _ (by rw [List.length_map, h])
  rw [h] at hfits hback
  have hlt : Text.ofDigits 256 (l.map UInt8.toNat) < 2 ^ 128 :=
    Nat.lt_of_lt_of_eq hfits (by decide)
  rw [ofGroups, bytes, BitVec.toNat_ofNat, hpairs, Nat.mod_eq_of_lt hlt, hback]

/-- **Addresses are told apart by their bytes.** -/
theorem bytes_injective {a b : Address} (h : a.bytes = b.bytes) : a = b := by
  have hlength := congrArg List.length h
  have hnumber := congrArg (fun l => Text.ofDigits 256 (l.map UInt8.toNat)) h
  cases a with
  | v4 x =>
    cases b with
    | v4 y =>
      simp only [bytes, Text.ofDigits_bigEndian] at hnumber
      have hx := x.isLt
      have hy := y.isLt
      exact congrArg v4 (BitVec.eq_of_toNat_eq (by omega))
    | v6 y => simp [bytes] at hlength
  | v6 x =>
    cases b with
    | v4 y => simp [bytes] at hlength
    | v6 y =>
      simp only [bytes, Text.ofDigits_bigEndian] at hnumber
      have hx := x.isLt
      have hy := y.isLt
      exact congrArg v6 (BitVec.eq_of_toNat_eq (by omega))

end Address

/-! ## Layouts -/

/-- Where the fields of a packet stand in a frame. -/
structure Layout where
  /-- The two bytes of the type, at the places 12 and 13. -/
  type : UInt8 × UInt8
  /-- The length of a frame that ends with the fixed header. -/
  length : Nat
  /-- The place of the number of the protocol. -/
  protocol : Nat
  /-- The place of the first byte of the sender. -/
  sender : Nat
  /-- The number of bytes of the sender. -/
  width : Nat

namespace Layout

/-- An IPv4 packet. -/
def ipv4 : Layout where
  type := (0x08, 0x00)
  length := 14 + 20
  protocol := 23
  sender := 26
  width := 4

/-- An IPv6 packet. -/
def ipv6 : Layout where
  type := (0x86, 0xdd)
  length := 14 + 40
  protocol := 20
  sender := 22
  width := 16

end Layout

/-- The layout of the packets with such a sender. -/
def Address.layout : Address → Layout
  | v4 _ => .ipv4
  | v6 _ => .ipv6

theorem Address.layout_cases (a : Address) : a.layout = .ipv4 ∨ a.layout = .ipv6 := by
  cases a with
  | v4 => exact Or.inl rfl
  | v6 => exact Or.inr rfl

/-- The fields of a layout stand in its fixed header. -/
theorem Address.layout_fits (a : Address) :
    13 < a.layout.length ∧ a.layout.protocol < a.layout.length ∧
      a.layout.sender + a.layout.width ≤ a.layout.length := by
  rcases a.layout_cases with h | h <;> rw [h] <;> decide

namespace Frame

/-- A frame names the type of a layout. -/
def Names (frame : Frame) (layout : Layout) : Prop :=
  frame[12]? = some layout.type.1 ∧ frame[13]? = some layout.type.2

/-- A frame holds a packet of a layout; where TCP alone counts, one of TCP. -/
structure Holds (frame : Frame) (tcpOnly : Bool) (layout : Layout) : Prop where
  /-- The frame names the type. -/
  type : frame.Names layout
  /-- The fixed header is complete. -/
  whole : layout.length ≤ frame.length
  /-- The header names TCP, where that matters. -/
  protocol : tcpOnly = true → frame[layout.protocol]? = some 6

/-- The bytes of the sender in a frame of a layout. -/
def sender (frame : Frame) (layout : Layout) : List UInt8 :=
  (frame.drop layout.sender).take layout.width

/-- The places whose bytes decide about the sender: those of the type, and with a type of one of the
layouts those of the sender and, where TCP alone counts, that of the protocol. -/
def Reads (frame : Frame) (tcpOnly : Bool) (i : Nat) : Prop :=
  i = 12 ∨ i = 13 ∨ ∃ layout, (layout = .ipv4 ∨ layout = .ipv6) ∧ frame.Names layout ∧
    (tcpOnly = true ∧ i = layout.protocol ∨
      layout.sender ≤ i ∧ i < layout.sender + layout.width)

variable {frame other : Frame} {tcpOnly : Bool} {layout : Layout} {a : Address}

/-! ## The sender -/

/-- The type of the payload of a frame. -/
def etherType (frame : Frame) : List Nat := frame.field 12 2

/-- Whether the byte at an offset allows the packet: every packet, or TCP only. -/
def allows (frame : Frame) (tcpOnly : Bool) (offset : Nat) : Bool :=
  !tcpOnly || frame[offset]? = some tcp

/-- A packet behind the header of a frame, with its sender if the byte at a place of its own header
allows it. -/
theorem sender_behind {header : Nat} {frame : Frame} (hframe : 14 ≤ frame.length)
    (source : List UInt8 → Address) (place : Fin header) (tcpOnly : Bool) :
    (((Packet.ofBytes? header (frame.drop 14)).map fun p => (source p.bytes, p.byte place)).bind
        fun (source, next) => if tcpOnly && next ≠ tcp then none else some source) =
      if 14 + header ≤ frame.length && frame.allows tcpOnly (14 + place) then
        some (source (frame.drop 14))
      else none := by
  have hlength : (frame.drop 14).length = frame.length - 14 := List.length_drop
  by_cases hwhole : header ≤ (frame.drop 14).length
  case neg =>
    have hshort : ¬ 14 + header ≤ frame.length := by omega
    rw [Packet.ofBytes?, dif_neg hwhole]
    simp [hshort]
  case pos =>
    have hlong : 14 + header ≤ frame.length := by omega
    let p : Packet header := ⟨frame.drop 14, hwhole⟩
    -- the byte stands in the frame as far behind its header as in the packet
    have hbyte : frame[14 + place.val]? = some (p.byte place) := by
      rw [← List.getElem?_drop]
      exact List.getElem?_eq_getElem (Nat.lt_of_lt_of_le place.isLt hwhole)
    rw [Packet.ofBytes?, dif_pos hwhole, Option.map_some, Option.bind_some, allows, hbyte]
    cases tcpOnly <;> by_cases htcp : p.byte place = tcp <;> simp [hlong, htcp, p]

/-- **The places in a frame** are those in its IP packet, behind the header of the frame. -/
theorem source?_eq (frame : Frame) (tcpOnly : Bool) :
    frame.source? tcpOnly =
      if frame.etherType = [0x08, 0x00] then
        if 14 + 20 ≤ frame.length && frame.allows tcpOnly (14 + 9) then
          some (Address.ofOctets (frame.field (14 + 12) 4))
        else none
      else if frame.etherType = [0x86, 0xdd] then
        if 14 + 40 ≤ frame.length && frame.allows tcpOnly (14 + 6) then
          some (Address.ofGroups (pairs (frame.field (14 + 8) 16)))
        else none
      else none := by
  have hfield : ∀ offset length, Frame.field (frame.drop 14) offset length =
      frame.field (14 + offset) length := by
    intro offset length
    rw [field, field, List.drop_drop]
  by_cases hframe : 14 ≤ frame.length
  case neg =>
    have hshort : ∀ n, decide (14 + n ≤ frame.length) = false := fun n =>
      decide_eq_false (by omega)
    rw [source?, Packet.ofBytes?, dif_neg hframe, hshort, hshort]
    simp
  case pos =>
    rw [source?, Packet.ofBytes?, dif_pos hframe]
    show (Ethernet.sender? ⟨frame, hframe⟩).bind _ = _
    have htype : Ethernet.type ⟨frame, hframe⟩ = frame.etherType := rfl
    rw [Ethernet.sender?, htype]
    split
    case isTrue =>
      rw [← hfield]
      exact sender_behind hframe (fun bytes => Address.ofOctets (field bytes 12 4)) 9 tcpOnly
    case isFalse =>
      split
      case isTrue =>
        rw [← hfield]
        exact sender_behind hframe (fun bytes => Address.ofGroups (pairs (field bytes 8 16))) 6
          tcpOnly
      case isFalse => rfl

theorem etherType_eq_iff (frame : Frame) (layout : Layout) :
    frame.etherType = [layout.type.1.toNat, layout.type.2.toNat] ↔ frame.Names layout := by
  have hplace : ∀ i, frame[12 + i]? = (frame.drop 12)[i]? := fun i => List.getElem?_drop.symm
  rw [etherType, field, Names, hplace 0, hplace 1]
  match frame.drop 12 with
  | [] => simp
  | [_] => simp
  | a :: b :: _ => simp [UInt8.toNat_inj]

theorem allows_iff (frame : Frame) (tcpOnly : Bool) (place : Nat) :
    frame.allows tcpOnly place = true ↔ (tcpOnly = true → frame[place]? = some 6) := by
  cases tcpOnly with
  | false => simp [allows]
  | true =>
    rw [allows, Bool.not_true, Bool.false_or, decide_eq_true_iff]
    exact ⟨fun h _ => h, fun h => h rfl⟩

/-- A frame holds a packet if its type is named and the test of that type succeeds. -/
theorem holds_iff (frame : Frame) (tcpOnly : Bool) (layout : Layout) :
    frame.Holds tcpOnly layout ↔
      frame.etherType = [layout.type.1.toNat, layout.type.2.toNat] ∧
        (layout.length ≤ frame.length && frame.allows tcpOnly layout.protocol) = true := by
  rw [etherType_eq_iff, Bool.and_eq_true, decide_eq_true_iff, allows_iff]
  exact ⟨fun h => ⟨h.type, h.whole, h.protocol⟩, fun h => ⟨h.1, h.2.1, h.2.2⟩⟩

theorem length_sender (h : layout.sender + layout.width ≤ layout.length)
    (hholds : frame.Holds tcpOnly layout) : (frame.sender layout).length = layout.width := by
  have hwhole := hholds.whole
  rw [sender, List.length_take, List.length_drop]
  omega

/-- **A frame that holds a packet** has a sender: the address whose bytes stand at its place. -/
theorem exists_source? (h : frame.Holds tcpOnly layout)
    (hlayout : layout = .ipv4 ∨ layout = .ipv6) :
    ∃ a, frame.source? tcpOnly = some a ∧ a.layout = layout ∧ a.bytes = frame.sender layout := by
  have hlength : layout.sender + layout.width ≤ layout.length → _ := fun hfits =>
    length_sender hfits h
  rw [holds_iff] at h
  rcases hlayout with rfl | rfl
  · obtain ⟨htype, htest⟩ : frame.etherType = [0x08, 0x00] ∧
        (34 ≤ frame.length && frame.allows tcpOnly 23) = true := h
    refine ⟨Address.ofOctets (frame.field 26 4), ?_, rfl, Address.bytes_ofOctets ?_⟩
    · rw [source?_eq, if_pos htype, if_pos htest]
    · exact hlength (by decide)
  · obtain ⟨htype, htest⟩ : frame.etherType = [0x86, 0xdd] ∧
        (54 ≤ frame.length && frame.allows tcpOnly 20) = true := h
    refine ⟨Address.ofGroups (pairs (frame.field 22 16)), ?_, rfl, Address.bytes_ofGroups ?_⟩
    · rw [source?_eq, htype, if_neg (by decide), if_pos rfl, if_pos htest]
    · exact hlength (by decide)

/-- **A frame that has a sender** holds a packet of one of the layouts. -/
theorem holds_of_source? (h : frame.source? tcpOnly = some a) :
    frame.Holds tcpOnly .ipv4 ∨ frame.Holds tcpOnly .ipv6 := by
  rw [holds_iff, holds_iff]
  rw [source?_eq] at h
  split at h
  · rename_i htype
    split at h
    · rename_i htest
      exact Or.inl ⟨htype, htest⟩
    · cases h
  · split at h
    · rename_i htype
      split at h
      · rename_i htest
        exact Or.inr ⟨htype, htest⟩
      · cases h
    · cases h

/-- **The sender of a frame** is the address whose layout the frame has and whose bytes it holds. -/
theorem source?_eq_some_iff (frame : Frame) (tcpOnly : Bool) (a : Address) :
    frame.source? tcpOnly = some a ↔
      frame.Holds tcpOnly a.layout ∧ frame.sender a.layout = a.bytes := by
  constructor
  · intro h
    obtain ⟨layout, hlayout, hholds⟩ : ∃ layout, (layout = .ipv4 ∨ layout = .ipv6) ∧
        frame.Holds tcpOnly layout := by
      rcases holds_of_source? h with hholds | hholds
      · exact ⟨_, Or.inl rfl, hholds⟩
      · exact ⟨_, Or.inr rfl, hholds⟩
    obtain ⟨b, hb, rfl, hbytes⟩ := exists_source? hholds hlayout
    obtain rfl : a = b := Option.some.inj (h.symm.trans hb)
    exact ⟨hholds, hbytes.symm⟩
  · rintro ⟨hholds, hsender⟩
    obtain ⟨b, hb, -, hbytes⟩ := exists_source? hholds (a.layout_cases)
    obtain rfl : b = a := Address.bytes_injective (hbytes.trans hsender)
    exact hb

/-- **When a frame has a sender**: if it holds a packet of one of the layouts. -/
theorem isSome_source?_iff (frame : Frame) (tcpOnly : Bool) :
    (frame.source? tcpOnly).isSome = true ↔
      frame.Holds tcpOnly .ipv4 ∨ frame.Holds tcpOnly .ipv6 := by
  rw [Option.isSome_iff_exists]
  constructor
  · rintro ⟨a, ha⟩
    exact holds_of_source? ha
  · rintro (h | h)
    · obtain ⟨a, ha, -⟩ := exists_source? h (Or.inl rfl)
      exact ⟨a, ha⟩
    · obtain ⟨a, ha, -⟩ := exists_source? h (Or.inr rfl)
      exact ⟨a, ha⟩

/-! ## What is not read -/

theorem sender_of_agrees (h : ∀ i, layout.sender ≤ i → i < layout.sender + layout.width →
    other[i]? = frame[i]?) : other.sender layout = frame.sender layout := by
  refine List.ext_getElem? fun i => ?_
  rw [sender, sender, List.getElem?_take, List.getElem?_take, List.getElem?_drop,
    List.getElem?_drop]
  split
  · exact h _ (Nat.le_add_right _ _) (by omega)
  · rfl

/-- **The bytes that are not read do not matter**: a frame with a sender may be changed there and
made longer, and still has that sender. -/
theorem source?_of_agrees (h : frame.source? tcpOnly = some a)
    (hlength : frame.length ≤ other.length)
    (hagrees : ∀ i < frame.length, frame.Reads tcpOnly i → other[i]? = frame[i]?) :
    other.source? tcpOnly = some a := by
  obtain ⟨hholds, hsender⟩ := (source?_eq_some_iff frame tcpOnly a).mp h
  obtain ⟨htype, hprotocol, hfits⟩ := a.layout_fits
  have hwhole := hholds.whole
  have hread : ∀ i < frame.length, (tcpOnly = true ∧ i = a.layout.protocol ∨
      a.layout.sender ≤ i ∧ i < a.layout.sender + a.layout.width) → other[i]? = frame[i]? :=
    fun i hi hfield => hagrees i hi
      (Or.inr (Or.inr ⟨a.layout, a.layout_cases, hholds.type, hfield⟩))
  refine (source?_eq_some_iff other tcpOnly a).mpr ⟨⟨⟨?_, ?_⟩, ?_, fun htcp => ?_⟩, ?_⟩
  · exact (hagrees 12 (by omega) (Or.inl rfl)).trans hholds.type.1
  · exact (hagrees 13 (by omega) (Or.inr (Or.inl rfl))).trans hholds.type.2
  · exact Nat.le_trans hwhole hlength
  · exact (hread _ (by omega) (Or.inl ⟨htcp, rfl⟩)).trans (hholds.protocol htcp)
  · rw [← hsender]
    exact sender_of_agrees fun i hle hlt => hread i (by omega) (Or.inr ⟨hle, hlt⟩)

theorem Reads.of_agrees {i : Nat} (h : other.Reads tcpOnly i)
    (hagrees : ∀ i, frame.Reads tcpOnly i → other[i]? = frame[i]?) : frame.Reads tcpOnly i := by
  rcases h with rfl | rfl | ⟨layout, hlayout, ⟨hhigh, hlow⟩, hi⟩
  · exact Or.inl rfl
  · exact Or.inr (Or.inl rfl)
  · refine Or.inr (Or.inr ⟨layout, hlayout, ⟨?_, ?_⟩, hi⟩)
    · exact (hagrees 12 (Or.inl rfl)).symm.trans hhigh
    · exact (hagrees 13 (Or.inr (Or.inl rfl))).symm.trans hlow

/-- **The senders of frames, exactly.** A frame has a sender if and only if it names the type of an
IPv4 or IPv6 packet at the places 12 and 13, is as long as its fixed header needs, and names TCP in
it if TCP alone counts; and then the sender is the address whose bytes stand at its place. So a
sender with TCP alone is one in any case, and neither bytes appended to a frame with a sender nor
other bytes at places that are not read change anything. -/
theorem source?_exact (frame : Frame) (tcpOnly : Bool) :
    (∀ a, frame.source? tcpOnly = some a ↔
        frame.Holds tcpOnly a.layout ∧ frame.sender a.layout = a.bytes) ∧
      ((frame.source? tcpOnly).isSome = true ↔
        frame.Holds tcpOnly .ipv4 ∨ frame.Holds tcpOnly .ipv6) ∧
      (∀ a, frame.source? true = some a → frame.source? false = some a) ∧
      (∀ a (more : List UInt8), frame.source? tcpOnly = some a →
        Frame.source? (frame ++ more) tcpOnly = some a) ∧
      ∀ other : Frame, other.length = frame.length →
        (∀ i, frame.Reads tcpOnly i → other[i]? = frame[i]?) →
        other.source? tcpOnly = frame.source? tcpOnly := by
  refine ⟨source?_eq_some_iff frame tcpOnly, isSome_source?_iff frame tcpOnly, fun a h => ?_,
    fun a more h => ?_, fun other hlength hagrees => ?_⟩
  · obtain ⟨hholds, hsender⟩ := (source?_eq_some_iff frame true a).mp h
    exact (source?_eq_some_iff frame false a).mpr ⟨⟨hholds.type, hholds.whole, nofun⟩, hsender⟩
  · exact source?_of_agrees h (by simp) fun i hi _ => List.getElem?_append_left hi
  · cases h : frame.source? tcpOnly with
    | some a => exact source?_of_agrees h (Nat.le_of_eq hlength.symm) fun i _ => hagrees i
    | none =>
      -- the other frame reads the same places, so its sender would be one of this frame as well
      refine Option.eq_none_iff_forall_ne_some.mpr fun a ha => ?_
      have hback : frame.source? tcpOnly = some a :=
        source?_of_agrees ha (Nat.le_of_eq hlength) fun i _ hi =>
          (hagrees i (hi.of_agrees hagrees)).symm
      rw [h] at hback
      cases hback

/-- An IPv4 frame of TCP with options, whose sender stays the same without its checksum and with
bytes appended, and an IPv6 frame that is one byte too short. -/
theorem source?_exact_of_options :
    let head : Frame := [2, 0, 0, 0, 0, 1, 2, 0, 0, 0, 0, 2, 0x08, 0x00]
    let frame : Frame := head ++ [0x46, 0, 0, 44, 0, 1, 0, 0, 64, 6, 0xaa, 0xbb, 203, 0, 113, 255,
      10, 0, 0, 1, 0x94, 0x04, 0, 0]
    let other : Frame := head ++ [0x46, 0, 0, 44, 0, 1, 0, 0, 64, 6, 0x00, 0x00, 203, 0, 113, 255,
      10, 0, 0, 1, 0x94, 0x04, 0, 0]
    let short : Frame := List.replicate 12 0 ++ [0x86, 0xdd] ++ List.replicate 39 6
    let a := Address.v4 0xcb0071ff
    (frame.source? true = some a ∧ other.length = frame.length ∧
        ∀ i, frame.Reads true i → other[i]? = frame[i]?) ∧
      frame.sender .ipv4 = [203, 0, 113, 255] ∧ frame.source? false = some a ∧
      Frame.source? (frame ++ [1, 2, 3]) true = some a ∧ other.source? true = some a ∧
      short.source? false = none := by
  intro head frame other short a
  have ha : frame.source? true = some a := by decide
  have hagrees : ∀ i, frame.Reads true i → other[i]? = frame[i]? := by
    rintro i (rfl | rfl | ⟨layout, rfl | rfl, hnames, hi⟩)
    · decide
    · decide
    · -- the two frames differ at the places 24 and 25 alone
      have hsame : ∀ i < 30, i ≠ 24 → i ≠ 25 → other[i]? = frame[i]? := by decide
      simp only [Layout.ipv4] at hi
      exact hsame i (by omega) (by omega) (by omega)
    · exact absurd hnames (by simp [Names, Layout.ipv6, frame, head])
  obtain ⟨hsender, -, hany, hmore, hother⟩ := source?_exact frame true
  exact ⟨⟨ha, rfl, hagrees⟩, by decide, hany a ha, hmore a [1, 2, 3] ha,
    (hother other rfl hagrees).trans ha, by decide⟩

end Frame

end SourceGuard
