import Cabe.MetaIndex
import Cabe.WalFrame

set_option autoImplicit false

namespace Cabe

open Storage

def kSnapshotRecordSize : Nat := 128
def kSnapshotKeyMax : Nat := 96
def kSnapshotBlockSize : Nat := 4096
def kSnapshotSlotHeaderSize : Nat := 4096
def kSnapshotSlotMagic : UInt32 := 0x50414E53
def kSnapshotSlotVersion : UInt32 := 1

def snapshotSlotSize (deviceBytes : Nat) : Nat :=
  if deviceBytes ≤ kDataRegionOffset then 0
  else ((deviceBytes - kDataRegionOffset) / 2 / kSnapshotBlockSize) * kSnapshotBlockSize

structure SnapshotRecord where
  keyLen : UInt16
  state : UInt8
  reserved0 : UInt8
  valueCrc : UInt32
  block : UInt64
  timestamp : UInt64
  key : Vector UInt8 96
  reserved1 : Vector UInt8 8
deriving DecidableEq

def SnapshotRecord.toBytes (r : SnapshotRecord) : Bytes :=
  leBytes 2 r.keyLen.toNat ++ ([r.state, r.reserved0] ++ (leBytes 4 r.valueCrc.toNat ++ (leBytes 8 r.block.toNat ++
    (leBytes 8 r.timestamp.toNat ++ (r.key.toList ++ r.reserved1.toList)))))

def SnapshotRecord.ofBytes (b : Bytes) : SnapshotRecord where
  keyLen := UInt16.ofNat (leNat (slice b 0 2))
  state := (b[2]?).getD 0
  reserved0 := (b[3]?).getD 0
  valueCrc := UInt32.ofNat (leNat (slice b 4 4))
  block := UInt64.ofNat (leNat (slice b 8 8))
  timestamp := UInt64.ofNat (leNat (slice b 16 8))
  key := Vector.ofFn fun i => (b[24 + i.val]?).getD 0
  reserved1 := Vector.ofFn fun i => (b[120 + i.val]?).getD 0

structure SnapshotSlotHeader where
  magic : UInt32
  version : UInt32
  generation : UInt64
  coveredSeq : UInt64
  entryCount : UInt64
  dataLen : UInt64
  dataCrc : UInt32
  reserved0 : UInt32
  createdAt : UInt64
  engineUuid : Vector UInt8 16
  reserved : Vector UInt8 4020
  headerCrc32c : UInt32
deriving DecidableEq

-- The bytes in front of the checksum.
def SnapshotSlotHeader.covered (h : SnapshotSlotHeader) : Bytes :=
  leBytes 4 h.magic.toNat ++ (leBytes 4 h.version.toNat ++ (leBytes 8 h.generation.toNat ++ (leBytes 8 h.coveredSeq.toNat ++
    (leBytes 8 h.entryCount.toNat ++ (leBytes 8 h.dataLen.toNat ++ (leBytes 4 h.dataCrc.toNat ++ (leBytes 4 h.reserved0.toNat ++
    (leBytes 8 h.createdAt.toNat ++ (h.engineUuid.toList ++ h.reserved.toList)))))))))

def SnapshotSlotHeader.toBytes (h : SnapshotSlotHeader) : Bytes := h.covered ++ leBytes 4 h.headerCrc32c.toNat

def SnapshotSlotHeader.ofBytes (b : Bytes) : SnapshotSlotHeader where
  magic := UInt32.ofNat (leNat (slice b 0 4))
  version := UInt32.ofNat (leNat (slice b 4 4))
  generation := UInt64.ofNat (leNat (slice b 8 8))
  coveredSeq := UInt64.ofNat (leNat (slice b 16 8))
  entryCount := UInt64.ofNat (leNat (slice b 24 8))
  dataLen := UInt64.ofNat (leNat (slice b 32 8))
  dataCrc := UInt32.ofNat (leNat (slice b 40 4))
  reserved0 := UInt32.ofNat (leNat (slice b 44 4))
  createdAt := UInt64.ofNat (leNat (slice b 48 8))
  engineUuid := Vector.ofFn fun i => (b[56 + i.val]?).getD 0
  reserved := Vector.ofFn fun i => (b[72 + i.val]?).getD 0
  headerCrc32c := UInt32.ofNat (leNat (slice b 4092 4))

def encodeSnapshotRecord (key : Key) (meta_ : ValueMeta) : SnapshotRecord where
  keyLen := UInt16.ofNat key.length
  state := meta_.state.raw
  reserved0 := 0
  valueCrc := meta_.crc
  block := meta_.block.raw
  timestamp := meta_.timestamp
  key := Vector.ofFn fun i => (key[i.val]?).getD 0
  reserved1 := Vector.replicate 8 0

def decodeSnapshotRecord (r : SnapshotRecord) : Key × ValueMeta :=
  (r.key.toList.take r.keyLen.toNat, { block := ⟨r.block⟩, timestamp := r.timestamp, crc := r.valueCrc, state := ⟨r.state⟩ })

def computeSlotHeaderCrc (h : SnapshotSlotHeader) : UInt32 := Util.crc32 (h.toBytes.take (kSnapshotSlotHeaderSize - 4))

def verifySlotHeader (h : SnapshotSlotHeader) : Bool :=
  if h.magic ≠ kSnapshotSlotMagic then false
  else if h.version ≠ kSnapshotSlotVersion then false
  else computeSlotHeaderCrc h == h.headerCrc32c

@[simp] theorem record_bytes_length (r : SnapshotRecord) : r.toBytes.length = 128 := by
  simp [SnapshotRecord.toBytes]

theorem header_covered_length (h : SnapshotSlotHeader) : h.covered.length = 4092 := by
  simp [SnapshotSlotHeader.covered]

@[simp] theorem header_bytes_length (h : SnapshotSlotHeader) : h.toBytes.length = 4096 := by
  simp [SnapshotSlotHeader.toBytes, header_covered_length]

theorem header_bytes_covered (h : SnapshotSlotHeader) : h.toBytes.take (kSnapshotSlotHeaderSize - 4) = h.covered := by
  rw [SnapshotSlotHeader.toBytes, kSnapshotSlotHeaderSize, List.take_append_of_le_length (by simp [header_covered_length]),
    List.take_of_length_le (by simp [header_covered_length])]

theorem record_of_to_bytes (r : SnapshotRecord) : SnapshotRecord.ofBytes r.toBytes = r := by
  obtain ⟨keyLen, state, reserved0, valueCrc, block, timestamp, key, reserved1⟩ := r
  have keyBytes (i : Nat) (bound : i < 96) : ((key.toList ++ reserved1.toList)[i]?).getD 0 = key[i] := by
    rw [List.getElem?_append_left (by simpa using bound)]
    simp [bound]
  have lastBytes (i : Nat) (bound : i < 8) : (reserved1.toList[i]?).getD 0 = reserved1[i] := by
    simp [bound]
  simp only [SnapshotRecord.ofBytes, SnapshotRecord.toBytes, SnapshotRecord.mk.injEq]
  refine ⟨?_, by simp [leBytes], by simp [leBytes], ?_, ?_, ?_, ?_, ?_⟩
  case refine_5 =>
    apply Vector.ext
    intro i bound
    rw [Vector.getElem_ofFn, ← keyBytes i bound]
    simp (disch := first | simp; done | simp; omega) only [List.getElem?_append_right, leBytes_length, List.length_cons,
      List.length_nil]
    congr 2
    omega
  case refine_6 =>
    apply Vector.ext
    intro i bound
    rw [Vector.getElem_ofFn, ← lastBytes i bound]
    simp (disch := first | simp; done | simp; omega) only [List.getElem?_append_right, leBytes_length, List.length_cons,
      List.length_nil, Vector.length_toList]
    exact congrArg (fun at_ => (reserved1.toList[at_]?).getD 0) (by omega)
  all_goals
    simp (disch := simp) only [slice_append_right, leBytes_length, List.length_cons, List.length_nil, Nat.reduceAdd,
      Nat.reduceSub, slice_left_exact, field_u64, field_u32, field_u16]

theorem header_of_to_bytes (h : SnapshotSlotHeader) : SnapshotSlotHeader.ofBytes h.toBytes = h := by
  obtain ⟨magic, version, generation, coveredSeq, entryCount, dataLen, dataCrc, reserved0, createdAt, engineUuid, reserved, crc⟩ := h
  have uuidBytes (i : Nat) (bound : i < 16) :
      ((engineUuid.toList ++ (reserved.toList ++ leBytes 4 crc.toNat))[i]?).getD 0 = engineUuid[i] := by
    rw [List.getElem?_append_left (by simpa using bound)]
    simp [bound]
  have restBytes (i : Nat) (bound : i < 4020) : ((reserved.toList ++ leBytes 4 crc.toNat)[i]?).getD 0 = reserved[i] := by
    rw [List.getElem?_append_left (by simpa using bound)]
    simp [bound]
  have last : slice (leBytes 4 crc.toNat) 0 4 = leBytes 4 crc.toNat := by
    simpa using slice_all (leBytes 4 crc.toNat)
  simp only [SnapshotSlotHeader.ofBytes, SnapshotSlotHeader.toBytes, SnapshotSlotHeader.covered, List.append_assoc,
    SnapshotSlotHeader.mk.injEq]
  refine ⟨?_, ?_, ?_, ?_, ?_, ?_, ?_, ?_, ?_, ?_, ?_, ?_⟩
  case refine_10 =>
    apply Vector.ext
    intro i bound
    rw [Vector.getElem_ofFn, ← uuidBytes i bound]
    simp (disch := first | simp; done | simp; omega) only [List.getElem?_append_right, leBytes_length]
    congr 2
    omega
  case refine_11 =>
    apply Vector.ext
    intro i bound
    rw [Vector.getElem_ofFn, ← restBytes i bound]
    simp (disch := first | simp; done | simp; omega) only [List.getElem?_append_right, leBytes_length, Vector.length_toList]
    congr 2
    omega
  all_goals
    simp (disch := simp) only [slice_append_right, leBytes_length, Vector.length_toList, Nat.reduceSub,
      slice_left_exact, last, field_u64, field_u32]

-- Decoding undoes encoding for every key that fits the record.
theorem decode_encode_record (key : Key) (meta_ : ValueMeta) (short : key.length ≤ kSnapshotKeyMax) :
    decodeSnapshotRecord (encodeSnapshotRecord key meta_) = (key, meta_) := by
  unfold kSnapshotKeyMax at short
  have len : (UInt16.ofNat key.length).toNat = key.length := UInt16.toNat_ofNat_of_lt' (Nat.lt_of_le_of_lt short (by decide))
  have whole : ((encodeSnapshotRecord key meta_).key.toList.take (UInt16.ofNat key.length).toNat) = key := by
    rw [len]
    apply List.ext_getElem
    · simp
      omega
    · intro i left right
      simp [encodeSnapshotRecord, right]
  obtain ⟨block, timestamp, crc, state⟩ := meta_
  simpa [decodeSnapshotRecord, encodeSnapshotRecord] using whole

theorem slot_size_aligned (deviceBytes : Nat) : snapshotSlotSize deviceBytes % 4096 = 0 := by
  unfold snapshotSlotSize kSnapshotBlockSize
  split <;> omega

-- Both slots lie behind the super blocks and inside the device.
theorem slot_size_fits (deviceBytes : Nat) (pos : 0 < snapshotSlotSize deviceBytes) :
    kDataRegionOffset + 2 * snapshotSlotSize deviceBytes ≤ deviceBytes := by
  unfold snapshotSlotSize kSnapshotBlockSize at *
  split at pos
  · omega
  · rw [if_neg ‹_›]
    omega

end Cabe
