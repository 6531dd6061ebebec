import Cabe.CrcPaths
import Cabe.SuperBlockFormat
import Cabe.WalRecover

set_option autoImplicit false

namespace Cabe

open Storage Checksum Util

-- Consecutive slices of a byte string are one slice.
theorem slice_join (b : Bytes) (off m next n : Nat) (adjacent : next = off + m) :
    slice b off m ++ slice b next n = slice b off (m + n) := by
  rw [adjacent, slice, slice, slice, ← List.drop_drop, List.take_add]

theorem slice_word (b : Bytes) (off n : Nat) (fits : off + n ≤ b.length) :
    leNat (slice b off n) < 256 ^ n ∧ leBytes n (leNat (slice b off n)) = slice b off n := by
  have len := slice_length b off n fits
  have word := leNat_lt (slice b off n)
  rw [len] at word
  exact ⟨word, (congrArg (leBytes · _) len).symm.trans (leBytes_leNat _)⟩

theorem slice_u16 (b : Bytes) (off : Nat) (fits : off + 2 ≤ b.length) :
    leBytes 2 (UInt16.ofNat (leNat (slice b off 2))).toNat = slice b off 2 := by
  obtain ⟨word, bytes⟩ := slice_word b off 2 fits
  rw [UInt16.toNat_ofNat_of_lt' word, bytes]

theorem slice_u32 (b : Bytes) (off : Nat) (fits : off + 4 ≤ b.length) :
    leBytes 4 (UInt32.ofNat (leNat (slice b off 4))).toNat = slice b off 4 := by
  obtain ⟨word, bytes⟩ := slice_word b off 4 fits
  rw [UInt32.toNat_ofNat_of_lt' word, bytes]

theorem slice_u64 (b : Bytes) (off : Nat) (fits : off + 8 ≤ b.length) :
    leBytes 8 (UInt64.ofNat (leNat (slice b off 8))).toNat = slice b off 8 := by
  obtain ⟨word, bytes⟩ := slice_word b off 8 fits
  rw [UInt64.toNat_ofNat_of_lt' word, bytes]

theorem slice_vector (b : Bytes) (off n : Nat) (fits : off + n ≤ b.length) :
    (Vector.ofFn fun i : Fin n => (b[off + i.val]?).getD 0).toList = slice b off n := by
  apply List.ext_getElem
  · rw [Vector.length_toList, slice_length b off n fits]
  · intro i left right
    have bound : i < n := by simpa using left
    have inside : off + i < b.length := by omega
    simp [slice, inside]

theorem slice_four (b : Bytes) (off : Nat) (fits : off + 4 ≤ b.length) :
    [(b[off]?).getD 0, (b[off + 1]?).getD 0, (b[off + 2]?).getD 0, (b[off + 3]?).getD 0] = slice b off 4 := by
  rw [← slice_vector b off 4 fits]
  rfl

-- Every byte of a record is a byte of one of its fields.
theorem frame_to_of_bytes (b : Bytes) (len : b.length = 128) : (WalFrame.ofBytes b).toBytes = b := by
  have four := slice_four b 4 (by omega)
  have key := slice_vector b 40 84 (by omega)
  simp only [Nat.reduceAdd] at four
  simp only [WalFrame.toBytes, WalFrame.covered, WalFrame.ofBytes]
  rw [four, key]
  simp (disch := omega) only [slice_u32, slice_u64, slice_u16, slice_join]
  exact (congrArg (slice b 0) len.symm).trans (slice_all b)

theorem header_to_of_bytes (b : Bytes) (len : b.length = 4096) : (SnapshotSlotHeader.ofBytes b).toBytes = b := by
  have uuid := slice_vector b 56 16 (by omega)
  have reserved := slice_vector b 72 4020 (by omega)
  simp only [SnapshotSlotHeader.toBytes, SnapshotSlotHeader.covered, SnapshotSlotHeader.ofBytes]
  rw [uuid, reserved]
  simp (disch := omega) only [slice_u32, slice_u64, slice_join]
  exact (congrArg (slice b 0) len.symm).trans (slice_all b)

theorem super_block_to_of_bytes (b : Bytes) (len : b.length = 4096) : (DiskSuperBlock.ofBytes b).toBytes = b := by
  have uuid (at_ : Nat) (fits : at_ + 16 ≤ b.length) : (uuidAt b at_).toList = slice b at_ 16 := slice_vector b at_ 16 fits
  have reserved := slice_vector b 128 3964 (by omega)
  simp only [DiskSuperBlock.toBytes, DiskSuperBlock.covered, DiskSuperBlock.ofBytes]
  rw [reserved]
  simp (disch := omega) only [uuid, slice_u32, slice_u64, slice_join]
  exact (congrArg (slice b 0) len.symm).trans (slice_all b)

def bitAt (data : Bytes) (i : Nat) : Bool := ((data[i / 8]?).getD 0).toNat.testBit (i % 8)

-- A change of a record inside 32 consecutive bits.
structure Burst (stored found : Bytes) : Prop where
  len : found.length = stored.length
  changed : found ≠ stored
  within : ∃ first, ∀ i, bitAt found i ≠ bitAt stored i → first ≤ i ∧ i < first + 32

@[simp] theorem bits_of_length (data : Bytes) : (bitsOf data).length = 8 * data.length := by
  induction data with
  | nil => rfl
  | cons b rest ih =>
      rw [bitsOf, List.flatMap_cons, List.length_append, byte_bits_length, ← bitsOf, ih, List.length_cons]
      omega

theorem bits_of_bit (data : Bytes) (i : Nat) : ((bitsOf data)[i]?).getD false = bitAt data i := by
  induction data generalizing i with
  | nil => simp [bitsOf, bitAt]
  | cons b rest ih =>
      rw [bitsOf, List.flatMap_cons, ← bitsOf]
      by_cases here : i < 8
      · have first : i / 8 = 0 := by omega
        rw [List.getElem?_append_left (by simpa using here), bitAt, first, Nat.mod_eq_of_lt here]
        simp [byteBits, here]
      · obtain ⟨j, rfl⟩ := Nat.exists_eq_add_of_le (Nat.le_of_not_lt here)
        have later : (8 + j) / 8 = j / 8 + 1 := by omega
        rw [List.getElem?_append_right (by simp), byte_bits_length, Nat.add_sub_cancel_left, ih, bitAt, bitAt, later, Nat.add_mod_left,
          List.getElem?_cons_succ]

theorem bits_of_injective (a b : Bytes) (len : a.length = b.length) (same : bitsOf a = bitsOf b) : a = b := by
  apply List.ext_getElem len
  intro i left right
  apply UInt8.toNat_inj.mp
  apply Nat.eq_of_testBit_eq
  intro j
  by_cases low : j < 8
  · have bit := congrArg (fun bits => (bits[8 * i + j]?).getD false) same
    have byte : (8 * i + j) / 8 = i := by omega
    have place : (8 * i + j) % 8 = j := by omega
    simpa only [bits_of_bit, bitAt, byte, place, List.getElem?_eq_getElem left, List.getElem?_eq_getElem right,
      Option.getD_some] using bit
  · have high (c : UInt8) : c.toNat.testBit j = false := by
      have bound : c.toNat < 2 ^ 8 := c.toNat_lt
      exact Nat.testBit_lt_two_pow (Nat.lt_of_lt_of_le bound (Nat.pow_le_pow_right (by decide) (by omega)))
    rw [high, high]

theorem le_nat_bit (bytes : Bytes) (i : Nat) : (leNat bytes).testBit i = ((bitsOf bytes)[i]?).getD false := by
  rw [bits_of_bit]
  induction bytes generalizing i with
  | nil => simp [leNat, bitAt]
  | cons b rest ih =>
      have bound : b.toNat < 2 ^ 8 := b.toNat_lt
      have sum : leNat (b :: rest) = 2 ^ 8 * leNat rest + b.toNat := by
        rw [leNat]
        omega
      rw [sum, Nat.testBit_two_pow_mul_add _ bound]
      by_cases here : i < 8
      · have first : i / 8 = 0 := by omega
        rw [if_pos here, bitAt, first, Nat.mod_eq_of_lt here]
        rfl
      · obtain ⟨j, rfl⟩ := Nat.exists_eq_add_of_le (Nat.le_of_not_lt here)
        have later : (8 + j) / 8 = j / 8 + 1 := by omega
        rw [if_neg here, Nat.add_sub_cancel_left, ih, bitAt, bitAt, later, Nat.add_mod_left, List.getElem?_cons_succ]

theorem packed_le_nat (bytes : Bytes) : (packed (bitsOf bytes) : BitVec 32) = (UInt32.ofNat (leNat bytes)).toBitVec := by
  apply BitVec.eq_of_getLsbD_eq
  intro i inside
  have word : (UInt32.ofNat (leNat bytes)).toBitVec = BitVec.ofNat 32 (leNat bytes) := rfl
  rw [packed_bit _ i inside, ← le_nat_bit, word, BitVec.getLsbD_ofNat, decide_eq_true inside, Bool.true_and]

-- A record whose last four bytes are the checksum of the others leaves the same
-- register behind, and no other one does.
theorem checked_residue (b : Bytes) (n : Nat) (len : b.length = n + 4) :
    crc32 (b.take n) = UInt32.ofNat (leNat (b.drop n)) ↔
      feedBits kRevPoly.toBitVec (BitVec.allOnes 32) (bitsOf b) = shifts kRevPoly.toBitVec 32 (BitVec.allOnes 32) := by
  have parts : bitsOf b = bitsOf (b.take n) ++ bitsOf (b.drop n) := by
    rw [bitsOf, bitsOf, bitsOf, ← List.flatMap_append, List.take_append_drop]
  have word : (bitsOf (b.drop n)).length = 32 := by simp [len]
  have register : (crc32 (b.take n)).toBitVec = ~~~ feedBits kRevPoly.toBitVec (BitVec.allOnes 32) (bitsOf (b.take n)) := by
    rw [crc32, UInt32.toBitVec_not, crc_stream_feed]
    rfl
  rw [parts, residue_iff _ (by decide) _ _ _ word, packed_le_nat, ← register, UInt32.toBitVec_inj]
  exact eq_comm

theorem burst_residue (n : Nat) (stored found : Bytes) (len : stored.length = n + 4) (burst : Burst stored found)
    (intact : crc32 (stored.take n) = UInt32.ofNat (leNat (stored.drop n))) :
    crc32 (found.take n) ≠ UInt32.ofNat (leNat (found.drop n)) := by
  intro passes
  have lens : (bitsOf stored).length = (bitsOf found).length := by rw [bits_of_length, bits_of_length, burst.len]
  obtain ⟨first, within⟩ := burst.within
  have outside (i : Nat) (far : i < first ∨ first + 32 ≤ i) : (bitsOf stored)[i]? = (bitsOf found)[i]? := by
    have bit : bitAt found i = bitAt stored i := by
      by_contra differ
      have near := within i differ
      omega
    rw [← bits_of_bit, ← bits_of_bit] at bit
    by_cases inside : i < (bitsOf stored).length
    · have there : i < (bitsOf found).length := lens ▸ inside
      rw [List.getElem?_eq_getElem inside, List.getElem?_eq_getElem there] at bit ⊢
      exact congrArg some bit.symm
    · rw [List.getElem?_eq_none (by omega), List.getElem?_eq_none (by omega)]
  have before := (checked_residue stored n len).mp intact
  have after := (checked_residue found n (burst.len.trans len)).mp passes
  have same := burst_apart kRevPoly.toBitVec (by decide) _ _ _ lens first outside (before.trans after.symm)
  exact burst.changed (bits_of_injective found stored burst.len same.symm)

-- The checksum of each record is over all bytes in front of it, and it ends the
-- record.
theorem frame_checks_bytes (b : Bytes) (len : b.length = 128) (verified : verifyFrame (.ofBytes b) = true) :
    crc32 (b.take 124) = UInt32.ofNat (leNat (b.drop 124)) := by
  have last : b.drop 124 = slice b 124 4 := by rw [slice, List.take_of_length_le (by simp [len])]
  unfold verifyFrame at verified
  split at verified
  · cases verified
  · split at verified
    · cases verified
    · split at verified
      · cases verified
      · rw [computeFrameCrc, frame_to_of_bytes b len] at verified
        rw [last]
        exact eq_of_beq verified

theorem header_checks_bytes (b : Bytes) (len : b.length = 4096) (verified : verifySlotHeader (.ofBytes b) = true) :
    crc32 (b.take 4092) = UInt32.ofNat (leNat (b.drop 4092)) := by
  have last : b.drop 4092 = slice b 4092 4 := by rw [slice, List.take_of_length_le (by simp [len])]
  unfold verifySlotHeader at verified
  split at verified
  · cases verified
  · split at verified
    · cases verified
    · rw [computeSlotHeaderCrc, header_to_of_bytes b len] at verified
      rw [last]
      exact eq_of_beq verified

theorem super_block_checks_bytes (b : Bytes) (len : b.length = 4096) (valid : checkSuperBlock (.ofBytes b) = .valid) :
    crc32 (b.take 4092) = UInt32.ofNat (leNat (b.drop 4092)) := by
  have last : b.drop 4092 = slice b 4092 4 := by rw [slice, List.take_of_length_le (by simp [len])]
  unfold checkSuperBlock at valid
  split at valid
  · cases valid
  · split at valid
    · cases valid
    · split at valid
      · cases valid
      · rename_i same
        rw [computeCrc, super_block_to_of_bytes b len, Decidable.not_not] at same
        rw [last]
        exact same

-- A frame that does not verify is not handed to the callback.
theorem refused_frame_not_replayed {σ : Type} (s next : Scan σ) (w : Wal) (coveredSeq : Nat) (fn : WalReplayFn σ) (f : WalFrame)
    (refused : verifyFrame f = false) (done : s.slot w coveredSeq fn f = .ok next) :
    next.st = s.st ∧ next.replayed = s.replayed ∧ next.tStop = s.tStop := by
  unfold Scan.slot Scan.sweep at done
  simp only [refused, Bool.false_eq_true, false_and, if_false] at done
  split at done
  · cases done
    exact ⟨rfl, rfl, rfl⟩
  · cases done
    exact ⟨rfl, rfl, rfl⟩

-- Four adjacent bytes are 32 consecutive bits.
theorem adjacent_bytes_burst (stored found : Bytes) (len : found.length = stored.length) (changed : found ≠ stored) (first : Nat)
    (within : ∀ i, found[i]? ≠ stored[i]? → first ≤ i ∧ i < first + 4) : Burst stored found := by
  refine ⟨len, changed, 8 * first, ?_⟩
  intro i differ
  have byte : found[i / 8]? ≠ stored[i / 8]? := fun same => differ (by rw [bitAt, bitAt, same])
  have near := within (i / 8) byte
  omega

theorem burst_rejected (stored found : Bytes) (burst : Burst stored found) :
    (stored.length = kWalFrameSize → verifyFrame (.ofBytes stored) = true → verifyFrame (.ofBytes found) = false ∧
      ∀ (σ : Type) (s next : Scan σ) (w : Wal) (coveredSeq : Nat) (fn : WalReplayFn σ),
        s.slot w coveredSeq fn (.ofBytes found) = .ok next → next.st = s.st ∧ next.replayed = s.replayed ∧ next.tStop = s.tStop) ∧
    (stored.length = kSnapshotSlotHeaderSize → verifySlotHeader (.ofBytes stored) = true → verifySlotHeader (.ofBytes found) = false) ∧
    (stored.length = kSuperBlockSize → checkSuperBlock (.ofBytes stored) = .valid → checkSuperBlock (.ofBytes found) ≠ .valid) := by
  have lens := burst.len
  refine ⟨?_, ?_, ?_⟩
  · intro len intact
    have refused : verifyFrame (.ofBytes found) = false := by
      rw [← Bool.not_eq_true]
      intro passes
      exact burst_residue 124 stored found len burst (frame_checks_bytes stored len intact)
        (frame_checks_bytes found (lens.trans len) passes)
    exact ⟨refused, fun σ s next w coveredSeq fn done => refused_frame_not_replayed s next w coveredSeq fn _ refused done⟩
  · intro len intact
    rw [← Bool.not_eq_true]
    intro passes
    exact burst_residue 4092 stored found len burst (header_checks_bytes stored len intact)
      (header_checks_bytes found (lens.trans len) passes)
  · intro len intact passes
    exact burst_residue 4092 stored found len burst (super_block_checks_bytes stored len intact)
      (super_block_checks_bytes found (lens.trans len) passes)

-- The last byte of a key and the first byte of the checksum behind it.
def oneFrame : Bytes := (encodeFrame ⟨.put, [0x6B], ⟨7⟩, 0, 0⟩ 1).toBytes
def oneFrameTorn : Bytes := (oneFrame.set 123 1).set 124 0

theorem one_frame_torn_burst : Burst oneFrame oneFrameTorn := by
  refine adjacent_bytes_burst _ _ (by simp [oneFrameTorn]) (by decide +kernel) 123 ?_
  intro i differ
  by_contra far
  rw [oneFrameTorn, List.getElem?_set_ne (by omega), List.getElem?_set_ne (by omega)] at differ
  exact differ rfl

theorem burst_rejected_one : verifyFrame (.ofBytes oneFrame) = true ∧ verifyFrame (.ofBytes oneFrameTorn) = false := by
  have intact : verifyFrame (.ofBytes oneFrame) = true := by
    rw [oneFrame, of_bytes_to_bytes]
    exact verify_encode _ _ (by decide)
  exact ⟨intact, ((burst_rejected oneFrame oneFrameTorn one_frame_torn_burst).1 (to_bytes_length _) intact).1⟩

end Cabe
