import Cabe.Snapshot

set_option autoImplicit false

namespace Cabe

open Storage

def kSuperBlockMagic : UInt32 := 0x43424553
def kSuperBlockVersion : UInt32 := 2

abbrev Uuid := Vector UInt8 16

def Uuid.zero : Uuid := Vector.replicate 16 0

inductive DeviceType where
  | data
  | wal
  | snapshot
deriving DecidableEq, Repr

def DeviceType.raw : DeviceType → UInt32
  | .data => 0
  | .wal => 1
  | .snapshot => 2

-- The super block of a device, all of its 4096 bytes.
structure DiskSuperBlock where
  magic : UInt32
  version : UInt32
  deviceType : UInt32
  reserved0 : UInt32
  engineUuid : Uuid
  deviceUuid : Uuid
  pairedDataUuid : Uuid
  pairedWalUuid : Uuid
  pairedSnapshotUuid : Uuid
  deviceId : UInt64
  blockCount : UInt64
  createdAt : UInt64
  deviceCount : UInt64
  reserved : Vector UInt8 3964
  crc32c : UInt32
deriving DecidableEq

def DiskSuperBlock.zero : DiskSuperBlock where
  magic := 0
  version := 0
  deviceType := 0
  reserved0 := 0
  engineUuid := .zero
  deviceUuid := .zero
  pairedDataUuid := .zero
  pairedWalUuid := .zero
  pairedSnapshotUuid := .zero
  deviceId := 0
  blockCount := 0
  createdAt := 0
  deviceCount := 0
  reserved := Vector.replicate 3964 0
  crc32c := 0

-- The bytes in front of the checksum.
def DiskSuperBlock.covered (sb : DiskSuperBlock) : Bytes :=
  leBytes 4 sb.magic.toNat ++ (leBytes 4 sb.version.toNat ++ (leBytes 4 sb.deviceType.toNat ++ (leBytes 4 sb.reserved0.toNat ++
    (sb.engineUuid.toList ++ (sb.deviceUuid.toList ++ (sb.pairedDataUuid.toList ++ (sb.pairedWalUuid.toList ++
    (sb.pairedSnapshotUuid.toList ++ (leBytes 8 sb.deviceId.toNat ++ (leBytes 8 sb.blockCount.toNat ++ (leBytes 8 sb.createdAt.toNat ++
    (leBytes 8 sb.deviceCount.toNat ++ sb.reserved.toList))))))))))))

def DiskSuperBlock.toBytes (sb : DiskSuperBlock) : Bytes := sb.covered ++ leBytes 4 sb.crc32c.toNat

def uuidAt (b : Bytes) (at_ : Nat) : Uuid := Vector.ofFn fun i => (b[at_ + i.val]?).getD 0

def DiskSuperBlock.ofBytes (b : Bytes) : DiskSuperBlock where
  magic := UInt32.ofNat (leNat (slice b 0 4))
  version := UInt32.ofNat (leNat (slice b 4 4))
  deviceType := UInt32.ofNat (leNat (slice b 8 4))
  reserved0 := UInt32.ofNat (leNat (slice b 12 4))
  engineUuid := uuidAt b 16
  deviceUuid := uuidAt b 32
  pairedDataUuid := uuidAt b 48
  pairedWalUuid := uuidAt b 64
  pairedSnapshotUuid := uuidAt b 80
  deviceId := UInt64.ofNat (leNat (slice b 96 8))
  blockCount := UInt64.ofNat (leNat (slice b 104 8))
  createdAt := UInt64.ofNat (leNat (slice b 112 8))
  deviceCount := UInt64.ofNat (leNat (slice b 120 8))
  reserved := Vector.ofFn fun i => (b[128 + i.val]?).getD 0
  crc32c := UInt32.ofNat (leNat (slice b 4092 4))

def computeCrc (sb : DiskSuperBlock) : UInt32 := Util.crc32 (sb.toBytes.take (kSuperBlockSize - 4))

def DiskSuperBlock.signed (sb : DiskSuperBlock) : DiskSuperBlock := { sb with crc32c := computeCrc sb }

-- The fields that the engine reads once the super block was checked.
def DiskSuperBlock.summary (sb : DiskSuperBlock) : SuperBlock := ⟨sb.engineUuid, sb.deviceId.toNat, sb.blockCount.toNat⟩

inductive SbCheck where
  | valid
  | badMagic
  | badCrc
deriving DecidableEq, Repr

def checkSuperBlock (sb : DiskSuperBlock) : SbCheck :=
  if sb.magic ≠ kSuperBlockMagic then .badMagic
  else if sb.version ≠ kSuperBlockVersion then .badMagic
  else if computeCrc sb ≠ sb.crc32c then .badCrc
  else .valid

theorem super_block_covered_length (sb : DiskSuperBlock) : sb.covered.length = 4092 := by
  simp [DiskSuperBlock.covered]

@[simp] theorem super_block_bytes_length (sb : DiskSuperBlock) : sb.toBytes.length = 4096 := by
  simp [DiskSuperBlock.toBytes, super_block_covered_length]

theorem super_block_bytes_covered (sb : DiskSuperBlock) : sb.toBytes.take (kSuperBlockSize - 4) = sb.covered := by
  rw [DiskSuperBlock.toBytes, kSuperBlockSize, List.take_append_of_le_length (by simp [super_block_covered_length]),
    List.take_of_length_le (by simp [super_block_covered_length])]

theorem compute_crc_signed (sb : DiskSuperBlock) : computeCrc sb.signed = computeCrc sb := by
  rw [computeCrc, computeCrc, super_block_bytes_covered, super_block_bytes_covered]
  rfl

theorem uuid_at_right (a b : Bytes) (at_ : Nat) (past : a.length ≤ at_) : uuidAt (a ++ b) at_ = uuidAt b (at_ - a.length) := by
  apply Vector.ext
  intro i bound
  rw [uuidAt, uuidAt, Vector.getElem_ofFn, Vector.getElem_ofFn, List.getElem?_append_right (by simp only; omega)]
  congr 2
  simp only
  omega

theorem uuid_at_exact (uuid : Uuid) (rest : Bytes) : uuidAt (uuid.toList ++ rest) 0 = uuid := by
  apply Vector.ext
  intro i bound
  rw [uuidAt, Vector.getElem_ofFn, List.getElem?_append_left (by simp; omega)]
  simp [bound]

theorem super_block_of_to_bytes (sb : DiskSuperBlock) : DiskSuperBlock.ofBytes sb.toBytes = sb := by
  obtain ⟨magic, version, deviceType, reserved0, engineUuid, deviceUuid, pairedDataUuid, pairedWalUuid, pairedSnapshotUuid, deviceId,
    blockCount, createdAt, deviceCount, reserved, crc⟩ := sb
  have restBytes (i : Nat) (bound : i < 3964) : ((reserved.toList ++ leBytes 4 crc.toNat)[i]?).getD 0 = reserved[i] := by
    rw [List.getElem?_append_left (by simpa using bound)]
    simp [bound]
  have last : slice (leBytes 4 crc.toNat) 0 4 = leBytes 4 crc.toNat := by
    simpa using slice_all (leBytes 4 crc.toNat)
  simp only [DiskSuperBlock.ofBytes, DiskSuperBlock.toBytes, DiskSuperBlock.covered, List.append_assoc, DiskSuperBlock.mk.injEq]
  refine ⟨?_, ?_, ?_, ?_, ?_, ?_, ?_, ?_, ?_, ?_, ?_, ?_, ?_, ?_, ?_⟩
  case refine_14 =>
    apply Vector.ext
    intro i bound
    rw [Vector.getElem_ofFn, ← restBytes i bound]
    simp (disch := first | simp; done | simp; omega) only [List.getElem?_append_right, leBytes_length, Vector.length_toList]
    exact congrArg (fun at_ => ((reserved.toList ++ leBytes 4 crc.toNat)[at_]?).getD 0) (by omega)
  all_goals
    simp (disch := simp) only [slice_append_right, uuid_at_right, uuid_at_exact, leBytes_length, Vector.length_toList, Nat.reduceSub,
      slice_left_exact, last, field_u64, field_u32]

end Cabe
