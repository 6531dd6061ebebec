import Cabe.Checksum.Register
import Cabe.SnapshotFormat

set_option autoImplicit false

namespace Cabe.Util

open Storage Checksum

def softwareCrc32c (data : Bytes) : UInt32 := ~~~ data.foldl crcByte 0xFFFFFFFF

-- The two instructions, by what they compute: the reflected step over the
-- bytes of the operand, the lowest first.
def mmCrc32U8 (crc : UInt32) (v : UInt8) : UInt32 := crcEntry (crc ^^^ v.toUInt32)
def mmCrc32U64 (crc v : UInt64) : UInt64 := ((leBytes 8 v.toNat).foldl mmCrc32U8 crc.toUInt32).toUInt64

def hardwareSteps (crc : UInt64) (data : Bytes) : UInt64 × Bytes :=
  if data.length ≥ 8 then hardwareSteps (mmCrc32U64 crc (UInt64.ofNat (leNat (data.take 8)))) (data.drop 8)
  else (crc, data)
termination_by data.length
decreasing_by simp; omega

def hardwareCrc32cX86 (data : Bytes) : UInt32 :=
  let r := hardwareSteps 0xFFFFFFFF data
  ~~~ r.2.foldl mmCrc32U8 r.1.toUInt32

def selectImpl (hasSse42 : Bool) : Bytes → UInt32 := if hasSse42 then hardwareCrc32cX86 else softwareCrc32c

-- The bits of a byte string, each byte from its lowest bit on.
def byteBits (b : UInt8) : List Bool := (List.range 8).map fun i => b.toNat.testBit i
def bitsOf (data : Bytes) : List Bool := data.flatMap byteBits

def bitwiseStep (crc : UInt32) (bit : Bool) : UInt32 := crcBit (crc ^^^ (if bit then 1 else 0))
def bitwiseCrc32c (data : Bytes) : UInt32 := ~~~ (bitsOf data).foldl bitwiseStep 0xFFFFFFFF

@[simp] theorem byte_bits_length (b : UInt8) : (byteBits b).length = 8 := by
  simp [byteBits]

theorem byte_bits_packed (b : UInt8) : (packed (byteBits b) : BitVec 32) = b.toUInt32.toBitVec := by
  apply BitVec.eq_of_getLsbD_eq
  intro i inside
  rw [packed_bit _ i inside, byteBits, List.getElem?_map]
  have word : b.toUInt32.toBitVec.getLsbD i = b.toNat.testBit i := by
    simp [BitVec.getLsbD]
  rw [word]
  by_cases low : i < 8
  · simp [low]
  · have high : b.toNat.testBit i = false := by
      apply Nat.testBit_lt_two_pow
      have bound : b.toNat < 2 ^ 8 := b.toNat_lt
      exact Nat.lt_of_lt_of_le bound (Nat.pow_le_pow_right (by decide) (by omega))
    rw [high, List.getElem?_eq_none (by simp; omega)]
    rfl

theorem crc_low_bit (c : UInt32) : (c &&& 1 = 1) ↔ c.toBitVec.getLsbD 0 = true := by
  rw [← UInt32.toBitVec_inj, UInt32.toBitVec_and]
  constructor
  · intro same
    have bit := congrArg (fun word => BitVec.getLsbD word 0) same
    simpa using bit
  · intro set_
    apply BitVec.eq_of_getLsbD_eq
    intro i _
    cases i with
    | zero => simpa using set_
    | succ i => simp [BitVec.getLsbD_one]

theorem crc_bit_shift (c : UInt32) : (crcBit c).toBitVec = shiftStep kRevPoly.toBitVec c.toBitVec := by
  unfold crcBit shiftStep
  by_cases low : c &&& 1 = 1
  · rw [if_pos low, if_pos ((crc_low_bit c).mp low)]
    simp
  · rw [if_neg low, if_neg (mt (crc_low_bit c).mpr low)]
    simp

theorem crc_entry_shifts (c : UInt32) : (crcEntry c).toBitVec = shifts kRevPoly.toBitVec 8 c.toBitVec := by
  simp only [crcEntry, crc_bit_shift, shifts]

theorem bitwise_step_feed (crc : UInt32) (bits : List Bool) :
    (bits.foldl bitwiseStep crc).toBitVec = feedBits kRevPoly.toBitVec crc.toBitVec bits := by
  induction bits generalizing crc with
  | nil => rfl
  | cons bit rest ih =>
      have word : (if bit then 1 else 0 : UInt32).toBitVec = bitWord bit := by cases bit <;> rfl
      rw [List.foldl_cons, ih, bitwiseStep, crc_bit_shift, UInt32.toBitVec_xor, word, feedBits, feedBits, List.foldl_cons]

theorem mm_crc_feed (crc : UInt32) (b : UInt8) :
    (mmCrc32U8 crc b).toBitVec = feedBits kRevPoly.toBitVec crc.toBitVec (byteBits b) := by
  rw [mmCrc32U8, crc_entry_shifts, UInt32.toBitVec_xor, feed_bits_packed _ _ _ (by simp), byte_bits_packed, byte_bits_length]

-- The table holds what eight steps make of the low byte. The bytes above it
-- only move down.
theorem crc_byte_entry (crc : UInt32) (b : UInt8) : crcByte crc b = mmCrc32U8 crc b := by
  have word : ((crc ^^^ b.toUInt32) &&& 0xFF).toNat < 256 := by
    rw [UInt32.toNat_and]
    exact Nat.lt_of_le_of_lt Nat.and_le_right (by decide)
  have entry : (kCrc32cTable[((crc ^^^ b.toUInt32) &&& 0xFF).toNat]?).getD 0 = crcEntry ((crc ^^^ b.toUInt32) &&& 0xFF) := by
    rw [kCrc32cTable, Vector.getElem?_eq_getElem word, Vector.getElem_ofFn, Option.getD_some, UInt32.ofNat_toNat]
  have shifted : (crc >>> 8).toBitVec = (crc ^^^ b.toUInt32).toBitVec >>> 8 := by
    have down : b.toUInt32.toBitVec >>> 8 = 0#32 := by
      apply BitVec.eq_of_toNat_eq
      have bound : b.toNat < 2 ^ 8 := b.toNat_lt
      simp [Nat.shiftRight_eq_div_pow]
      omega
    rw [UInt32.toBitVec_xor, BitVec.ushiftRight_xor_distrib, down, BitVec.xor_zero, UInt32.toBitVec_shiftRight]
    rfl
  have mask (i : Nat) : (0xFF : UInt32).toBitVec.getLsbD i = decide (i < 8) := by
    by_cases inside : i < 32
    · revert i
      decide
    · rw [BitVec.getLsbD_of_ge _ _ (by omega), decide_eq_false (by omega)]
  rw [crcByte, entry, mmCrc32U8]
  apply UInt32.toBitVec_inj.mp
  rw [UInt32.toBitVec_xor, crc_entry_shifts, crc_entry_shifts, shifted, BitVec.xor_comm]
  symm
  apply shifts_split
  · intro i low
    rw [UInt32.toBitVec_and, BitVec.getLsbD_and, mask, decide_eq_true low, Bool.and_true]
  · intro i high
    rw [UInt32.toBitVec_and, BitVec.getLsbD_and, mask, decide_eq_false (Nat.not_lt.mpr high), Bool.and_false]

theorem crc_byte_feed (crc : UInt32) (b : UInt8) :
    (crcByte crc b).toBitVec = feedBits kRevPoly.toBitVec crc.toBitVec (byteBits b) := by
  rw [crc_byte_entry, mm_crc_feed]

theorem crc_stream_feed (crc : UInt32) (data : Bytes) :
    (crc32cStreamUpdate crc data).toBitVec = feedBits kRevPoly.toBitVec crc.toBitVec (bitsOf data) := by
  induction data generalizing crc with
  | nil => rfl
  | cons b rest ih =>
      rw [bitsOf, List.flatMap_cons, feed_bits_append, ← crc_byte_feed]
      exact ih (crcByte crc b)

theorem crc_stream_bitwise (crc : UInt32) (data : Bytes) : crc32cStreamUpdate crc data = (bitsOf data).foldl bitwiseStep crc := by
  apply UInt32.toBitVec_inj.mp
  rw [crc_stream_feed, bitwise_step_feed]

theorem crc_stream_chunks (crc : UInt32) (chunks : List Bytes) :
    chunks.foldl crc32cStreamUpdate crc = crc32cStreamUpdate crc chunks.flatten := by
  induction chunks generalizing crc with
  | nil => rfl
  | cons chunk rest ih => rw [List.foldl_cons, List.flatten_cons, crc_stream_append, ih]

-- Eight bytes at once, or the rest of them one by one.
theorem hardware_steps_stream (crc : UInt64) (data : Bytes) :
    (hardwareSteps crc data).2.foldl mmCrc32U8 (hardwareSteps crc data).1.toUInt32 = crc32cStreamUpdate crc.toUInt32 data := by
  have same : mmCrc32U8 = crcByte := by
    funext crc b
    exact (crc_byte_entry crc b).symm
  fun_induction hardwareSteps crc data with
  | case1 crc data many ih =>
      have len : (data.take 8).length = 8 := by simp; omega
      have word := leNat_lt (data.take 8)
      rw [len] at word
      have chunk : leBytes 8 (UInt64.ofNat (leNat (data.take 8))).toNat = data.take 8 := by
        rw [UInt64.toNat_ofNat_of_lt' word]
        exact (congrArg (leBytes · (leNat (data.take 8))) len).symm.trans (leBytes_leNat _)
      rw [ih, mmCrc32U64, chunk, same, UInt32.toUInt32_toUInt64, ← crc32cStreamUpdate, ← crc_stream_append, List.take_append_drop]
  | case2 crc data few =>
      rw [same]
      rfl

theorem select_impl_crc (hasSse42 : Bool) (data : Bytes) : selectImpl hasSse42 data = crc32 data := by
  cases hasSse42 with
  | false => rfl
  | true => exact congrArg (~~~ ·) (hardware_steps_stream 0xFFFFFFFF data)

-- What a machine with or without the instruction stores in a frame and in the
-- header of a slot, and what it accepts.
def encodeFrameOn (hasSse42 : Bool) (e : WalEntry) (seq : Nat) : WalFrame :=
  let f := encodeFrame e seq
  { f with frameCrc32c := selectImpl hasSse42 (f.toBytes.take (kWalFrameSize - 4)) }

def verifyFrameOn (hasSse42 : Bool) (f : WalFrame) : Bool :=
  if f.magic ≠ kWalMagic then false
  else if f.version ≠ kWalFrameVersion then false
  else if f.keyLen.toNat > kWalKeyMax then false
  else selectImpl hasSse42 (f.toBytes.take (kWalFrameSize - 4)) == f.frameCrc32c

def sealHeaderOn (hasSse42 : Bool) (h : SnapshotSlotHeader) : SnapshotSlotHeader :=
  { h with headerCrc32c := selectImpl hasSse42 (h.toBytes.take (kSnapshotSlotHeaderSize - 4)) }

def verifySlotHeaderOn (hasSse42 : Bool) (h : SnapshotSlotHeader) : Bool :=
  if h.magic ≠ kSnapshotSlotMagic then false
  else if h.version ≠ kSnapshotSlotVersion then false
  else selectImpl hasSse42 (h.toBytes.take (kSnapshotSlotHeaderSize - 4)) == h.headerCrc32c

theorem encode_frame_on (hasSse42 : Bool) (e : WalEntry) (seq : Nat) : encodeFrameOn hasSse42 e seq = encodeFrame e seq := by
  unfold encodeFrameOn
  simp only [select_impl_crc]
  rw [← computeFrameCrc, encode_crc]

theorem verify_frame_on (hasSse42 : Bool) (f : WalFrame) : verifyFrameOn hasSse42 f = verifyFrame f := by
  simp only [verifyFrameOn, verifyFrame, computeFrameCrc, select_impl_crc]

theorem verify_sealed_header_on (writer reader : Bool) (h : SnapshotSlotHeader) (magic : h.magic = kSnapshotSlotMagic)
    (version : h.version = kSnapshotSlotVersion) : verifySlotHeaderOn reader (sealHeaderOn writer h) = true := by
  have covered : (sealHeaderOn writer h).toBytes.take (kSnapshotSlotHeaderSize - 4) = h.toBytes.take (kSnapshotSlotHeaderSize - 4) := by
    rw [header_bytes_covered, header_bytes_covered]
    rfl
  simp only [verifySlotHeaderOn, covered, select_impl_crc]
  simp [sealHeaderOn, magic, version, select_impl_crc]

theorem crc_paths_agree (data : Bytes) :
    hardwareCrc32cX86 data = bitwiseCrc32c data ∧ softwareCrc32c data = bitwiseCrc32c data ∧
    (∀ chunks : List Bytes, chunks.flatten = data → ~~~ chunks.foldl crc32cStreamUpdate 0xFFFFFFFF = bitwiseCrc32c data) ∧
    (∀ hasSse42 : Bool, selectImpl hasSse42 data = crc32 data) ∧
    (∀ (writer reader : Bool) (e : WalEntry) (seq : Nat), e.key.length ≤ kWalKeyMax →
      verifyFrameOn reader (encodeFrameOn writer e seq) = true) ∧
    ∀ (writer reader : Bool) (h : SnapshotSlotHeader), h.magic = kSnapshotSlotMagic → h.version = kSnapshotSlotVersion →
      verifySlotHeaderOn reader (sealHeaderOn writer h) = true := by
  have stream : crc32 data = bitwiseCrc32c data := congrArg (~~~ ·) (crc_stream_bitwise 0xFFFFFFFF data)
  refine ⟨?_, ?_, ?_, fun hasSse42 => select_impl_crc hasSse42 data, ?_, verify_sealed_header_on⟩
  · rw [← stream]
    exact select_impl_crc true data
  · rw [← stream]
    exact select_impl_crc false data
  · intro chunks whole
    rw [crc_stream_chunks, whole]
    exact stream
  · intro writer reader e seq short
    rw [encode_frame_on, verify_frame_on]
    exact verify_encode e seq short

end Cabe.Util
