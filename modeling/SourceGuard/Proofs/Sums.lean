import Mathlib.Algebra.Ring.Nat
import SourceGuard.Proofs.Horizon

/-!
# What records add up to, in numbers

The aggregate of a source is counted in 64 bits. As long as the lengths of its records add up to
less than `2 ^ 64` it is exact: its bytes are their sum, and its matching packets are those in the
size band. Then fewer records never add up to more.

## Main definitions

* `Aggregate.volume`, `Aggregate.hits`: the bytes and the matching packets of records

## Main results

* `Aggregate.ofRecords_eq`: an aggregate is the numbers of its records, each in 64 bits
* `Aggregate.toNat_bytes_ofRecords`, `Aggregate.toNat_matching_ofRecords`: an aggregate is exact as
  long as it fits
* `Aggregate.volume_le_of_sublist`, `Aggregate.hits_le_of_sublist`: fewer records add up to less
-/

namespace SourceGuard

namespace Aggregate

/-- The bytes of records. -/
def volume (records : List Record) : Nat := (records.map (·.size.toNat)).sum

/-- The number of records in a size band. -/
def hits (band : SizeBand) (records : List Record) : Nat :=
  records.countP fun r => band.contains r.size

variable {band : SizeBand} {records fewer : List Record}

/-! ## Sums in 64 bits -/

theorem toNat_packets_foldl (band : SizeBand) (records : List Record) (a : Aggregate) :
    (records.foldl (addRecord band) a).packets.toNat =
      (a.packets.toNat + records.length) % 2 ^ 64 := by
  induction records generalizing a with
  | nil => exact (Nat.mod_eq_of_lt a.packets.toNat_lt).symm
  | cons r rest ih =>
    rw [List.foldl_cons, ih, addRecord, packets_add, UInt64.toNat_add, UInt64.toNat_one,
      Nat.mod_add_mod, List.length_cons, Nat.add_assoc, Nat.add_comm 1]

theorem toNat_bytes_foldl (band : SizeBand) (records : List Record) (a : Aggregate) :
    (records.foldl (addRecord band) a).bytes.toNat =
      (a.bytes.toNat + volume records) % 2 ^ 64 := by
  induction records generalizing a with
  | nil => exact (Nat.mod_eq_of_lt a.bytes.toNat_lt).symm
  | cons r rest ih =>
    rw [List.foldl_cons, ih, addRecord, bytes_add, UInt64.toNat_add, UInt32.toNat_toUInt64,
      Nat.mod_add_mod]
    simp only [volume, List.map_cons, List.sum_cons, Nat.add_assoc]

theorem toNat_matching_foldl (band : SizeBand) (records : List Record) (a : Aggregate) :
    (records.foldl (addRecord band) a).matching.toNat =
      (a.matching.toNat + hits band records) % 2 ^ 64 := by
  induction records generalizing a with
  | nil => exact (Nat.mod_eq_of_lt a.matching.toNat_lt).symm
  | cons r rest ih =>
    rw [List.foldl_cons, ih, hits, hits, List.countP_cons]
    by_cases hr : band.contains r.size = true
    · have hnext : (addRecord band a r).matching.toNat = (a.matching.toNat + 1) % 2 ^ 64 := by
        simp [addRecord, add, hr, UInt64.toNat_add]
      rw [hnext, Nat.mod_add_mod, if_pos hr, Nat.add_right_comm, ← Nat.add_assoc]
    · have hnext : (addRecord band a r).matching = a.matching := by simp [addRecord, add, hr]
      rw [hnext, if_neg hr, Nat.add_zero]

/-- **An aggregate** is the number of its records, the sum of their lengths and the number of those
in the size band, each counted in 64 bits. -/
theorem ofRecords_eq (band : SizeBand) (records : List Record) :
    ofRecords band records =
      ⟨.ofNat records.length, .ofNat (volume records), .ofNat (hits band records)⟩ := by
  have hpackets := toNat_packets_foldl band records {}
  have hbytes := toNat_bytes_foldl band records {}
  have hmatching := toNat_matching_foldl band records {}
  -- the aggregate of no records is zero, so each number is the one of the records alone
  simp only [UInt64.toNat_zero, Nat.zero_add, ← UInt64.toNat_ofNat', UInt64.toNat_inj]
    at hpackets hbytes hmatching
  rw [ofRecords, ← hpackets, ← hbytes, ← hmatching]

/-- A packet in a size band is not empty, so there are no more such packets than bytes. -/
theorem hits_le_volume (band : SizeBand) (records : List Record) :
    hits band records ≤ volume records := by
  induction records with
  | nil => exact Nat.le_refl 0
  | cons r rest ih =>
    simp only [hits, volume, List.countP_cons, List.map_cons, List.sum_cons] at ih ⊢
    split
    · rename_i hr
      obtain ⟨habove, -⟩ := Bool.and_eq_true_iff.mp hr
      have hsize := UInt32.lt_iff_toNat_lt.mp (of_decide_eq_true habove)
      omega
    · omega

/-! ## Sums that fit -/

/-- **The bytes of an aggregate** are those of its records, if these fit in 64 bits. -/
theorem toNat_bytes_ofRecords (hfits : volume records < 2 ^ 64) :
    (ofRecords band records).bytes.toNat = volume records := by
  rw [ofRecords, toNat_bytes_foldl]
  exact (congrArg (· % 2 ^ 64) (Nat.zero_add _)).trans (Nat.mod_eq_of_lt hfits)

/-- The matching packets of an aggregate are the records in the size band, if they fit in 64 bits. -/
theorem toNat_matching_of_hits_lt (hfits : hits band records < 2 ^ 64) :
    (ofRecords band records).matching.toNat = hits band records := by
  rw [ofRecords, toNat_matching_foldl]
  exact (congrArg (· % 2 ^ 64) (Nat.zero_add _)).trans (Nat.mod_eq_of_lt hfits)

/-- **The matching packets of an aggregate** are the records in the size band, if the bytes of all
records fit in 64 bits. -/
theorem toNat_matching_ofRecords (hfits : volume records < 2 ^ 64) :
    (ofRecords band records).matching.toNat = hits band records :=
  toNat_matching_of_hits_lt (Nat.lt_of_le_of_lt (hits_le_volume band records) hfits)

/-! ## Fewer records -/

theorem volume_le_of_sublist (h : fewer.Sublist records) : volume fewer ≤ volume records := by
  induction h with
  | slnil => exact Nat.le_refl _
  | cons r _ ih => exact Nat.le_trans ih (Nat.le_add_left _ _)
  | cons_cons r _ ih => exact Nat.add_le_add_left ih _

theorem hits_le_of_sublist (h : fewer.Sublist records) : hits band fewer ≤ hits band records :=
  h.countP_le

end Aggregate

end SourceGuard
