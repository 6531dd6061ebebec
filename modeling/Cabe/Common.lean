import Cabe.Storage.Endian

set_option autoImplicit false

namespace Cabe

open Storage

-- Return codes keep the numbers of common/error_code.h.
abbrev Rc := Int

namespace Err
def kSuccess : Rc := 0
def kMemEmptyKey : Rc := -100001
def kIoBase : Rc := -101000
def kIndexKeyNotFound : Rc := -102000
def kWalKeyTooLong : Rc := -103000
def kWalWriteFailed : Rc := -103001
def kWalFull : Rc := -103002
def kWalInvalidReclaim : Rc := -103003
def kEngineNotOpen : Rc := -104001
def kEngineInvalidOpts : Rc := -104002
def kEngineInvalidValue : Rc := -104003
def kEngineNoSpace : Rc := -104005
def kEnginePoolExhausted : Rc := -104006
def kEngineDataCorrupted : Rc := -104007
def kEngineDuplicateBlock : Rc := -104008
def kEngineBlockOutOfRange : Rc := -104009
def kSuperBlockMagicMismatch : Rc := -105000
def kSuperBlockCrcMismatch : Rc := -105001
def kSuperBlockEngineUuidMismatch : Rc := -105002
def kSuperBlockPairMismatch : Rc := -105003
def kSuperBlockDeviceIdMismatch : Rc := -105004
def kSuperBlockDeviceTypeMismatch : Rc := -105005
def kSuperBlockNoValid : Rc := -105006
def kSuperBlockReadFailed : Rc := -105007
def kSuperBlockEntropyFailure : Rc := -105008
def kSuperBlockSizeMismatch : Rc := -105009
def kWalRecoveryReadFailed : Rc := -105010
def kWalRecoveryCorrupted : Rc := -105011
def kWalRecoveryInvariant : Rc := -105012
def kSuperBlockDeviceCountMismatch : Rc := -105013
def kSnapshotWriteFailed : Rc := -106000
def kDeviceTooSmall : Rc := -106001
def kSnapshotReadFailed : Rc := -106002
def kSnapshotCorrupted : Rc := -106003
-- Not a code of the source: it marks a loop that the source never leaves,
-- which takes a scan buffer of zero bytes.
def kNeverReturns : Rc := 1
-- Not a code of the source either: it marks a copy past the end of a buffer of
-- zero bytes, of which the language says nothing more.
def kOverrun : Rc := -1
end Err

def kValueSize : Nat := 1024 * 1024
def kSuperBlockSize : Nat := 4096
def kDataRegionOffset : Nat := 8192
def kSectorSize : Nat := 512

abbrev Key := Bytes
abbrev DeviceId := UInt8

structure BlockId where
  raw : UInt64
deriving DecidableEq, Repr, Inhabited

def BlockId.kIdxBits : Nat := 56
def BlockId.kIdxMask : Nat := 2 ^ 56 - 1

def BlockId.make (dev : DeviceId) (blockIdx : Nat) : BlockId :=
  ⟨UInt64.ofNat ((dev.toNat <<< BlockId.kIdxBits) ||| (blockIdx &&& BlockId.kIdxMask))⟩

def BlockId.dev (id : BlockId) : DeviceId := UInt8.ofNat (id.raw.toNat >>> BlockId.kIdxBits)

def BlockId.blockIdx (id : BlockId) : Nat := id.raw.toNat &&& BlockId.kIdxMask

-- A scoped enum over uint8_t can hold any byte, and decoding casts unchecked.
structure ValueState where
  raw : UInt8
deriving DecidableEq, Repr, Inhabited

def ValueState.active : ValueState := ⟨0⟩

structure ValueMeta where
  block : BlockId
  timestamp : UInt64
  crc : UInt32
  state : ValueState
deriving DecidableEq, Repr, Inhabited

inductive WalLevel where
  | strict
  | valueSync
  | walSync
  | async
deriving DecidableEq, Repr

def isWalSyncLevel : WalLevel → Bool
  | .strict => true
  | .walSync => true
  | _ => false

def isValueFuaLevel : WalLevel → Bool
  | .strict => true
  | .valueSync => true
  | _ => false

structure Options where
  create : Bool
  walLevel : WalLevel
  walBufferSize : Nat
  snapshotThresholdBytes : Nat
  snapshotBufferSize : Nat
  verifyValueCrcOnRecovery : Bool
deriving DecidableEq, Repr

structure DeviceConfig (Path : Type) where
  dataPath : Path
  walPath : Path
  snapshotPath : Path
deriving DecidableEq

def alignUp (x a : Nat) : Nat := ((x + a - 1) / a) * a

-- Configured sizes are arbitrary 64-bit values, so this sum can wrap.
def roundUpBufferSize (size block : Nat) : Nat :=
  (((if size < block then block else size) + block - 1) % 2 ^ 64 / block) * block

theorem block_make_raw (dev : DeviceId) (idx : Nat) (fits : idx < 2 ^ 56) :
    (BlockId.make dev idx).raw.toNat = dev.toNat * 2 ^ 56 + idx := by
  have small : dev.toNat < 2 ^ 8 := dev.toNat_lt
  have masked : idx &&& BlockId.kIdxMask = idx := by
    unfold BlockId.kIdxMask
    rw [Nat.and_two_pow_sub_one_eq_mod, Nat.mod_eq_of_lt fits]
  have joined : (dev.toNat <<< BlockId.kIdxBits) ||| idx = dev.toNat * 2 ^ 56 + idx := by
    unfold BlockId.kIdxBits
    rw [← Nat.shiftLeft_add_eq_or_of_lt fits, Nat.shiftLeft_eq]
  have word : (BlockId.make dev idx).raw.toNat = (dev.toNat * 2 ^ 56 + idx) % 2 ^ 64 := by
    unfold BlockId.make
    rw [masked, joined]
    exact UInt64.toNat_ofNat'
  rw [word, Nat.mod_eq_of_lt (by omega)]

theorem block_make_dev (dev : DeviceId) (idx : Nat) (fits : idx < 2 ^ 56) : (BlockId.make dev idx).dev = dev := by
  have high : (dev.toNat * 2 ^ 56 + idx) >>> BlockId.kIdxBits = dev.toNat := by
    unfold BlockId.kIdxBits
    rw [Nat.shiftRight_eq_div_pow]
    omega
  rw [BlockId.dev, block_make_raw dev idx fits, high, UInt8.ofNat_toNat]

theorem block_make_idx (dev : DeviceId) (idx : Nat) (fits : idx < 2 ^ 56) : (BlockId.make dev idx).blockIdx = idx := by
  rw [BlockId.blockIdx, block_make_raw dev idx fits]
  unfold BlockId.kIdxMask
  rw [Nat.and_two_pow_sub_one_eq_mod]
  omega

theorem block_make_injective (dev : DeviceId) (i j : Nat) (fitsI : i < 2 ^ 56) (fitsJ : j < 2 ^ 56)
    (same : BlockId.make dev i = BlockId.make dev j) : i = j := by
  rw [← block_make_idx dev i fitsI, same, block_make_idx dev j fitsJ]

theorem block_idx_lt (id : BlockId) : id.blockIdx < 2 ^ 56 := by
  unfold BlockId.blockIdx BlockId.kIdxMask
  rw [Nat.and_two_pow_sub_one_eq_mod]
  exact Nat.mod_lt _ (by decide)

theorem block_make_parts (id : BlockId) : BlockId.make id.dev id.blockIdx = id := by
  have word : id.raw.toNat < 2 ^ 64 := id.raw.toNat_lt
  have dev : id.dev.toNat = id.raw.toNat / 2 ^ 56 := by
    have byte : id.dev.toNat = (id.raw.toNat >>> BlockId.kIdxBits) % 2 ^ 8 := UInt8.toNat_ofNat'
    rw [byte]
    unfold BlockId.kIdxBits
    rw [Nat.shiftRight_eq_div_pow]
    omega
  have idx : id.blockIdx = id.raw.toNat % 2 ^ 56 := by
    unfold BlockId.blockIdx BlockId.kIdxMask
    rw [Nat.and_two_pow_sub_one_eq_mod]
  have raw : (BlockId.make id.dev id.blockIdx).raw = id.raw := by
    apply UInt64.toNat_inj.mp
    rw [block_make_raw _ _ (block_idx_lt id), dev, idx]
    omega
  cases id
  cases made : BlockId.make _ _
  rw [made] at raw
  cases raw
  rfl

theorem round_up_aligned (size : Nat) : roundUpBufferSize size 4096 % 4096 = 0 := by
  simp [roundUpBufferSize]

theorem round_up_bounds (size : Nat) (fits : size + 4096 ≤ 2 ^ 64) :
    size ≤ roundUpBufferSize size 4096 ∧ 4096 ≤ roundUpBufferSize size 4096 ∧
      roundUpBufferSize size 4096 ≤ max size 4096 + 4095 := by
  unfold roundUpBufferSize
  split <;> omega

end Cabe
