import Cabe.Engine
import Cabe.SuperBlockFormat

set_option autoImplicit false

namespace Cabe

open Storage

-- The backup copy becomes durable before the primary copy is touched.
def writeSuperBlockPair (alloc : Nat → Bool) (dev : RawDevice) (sb : DiskSuperBlock) : Rc × RawDevice :=
  if alloc kSuperBlockSize = false then (Err.kIoBase, dev)
  else
    match dev.writeAt kSuperBlockSize sb.toBytes with
    | (rc, dev) =>
      if rc ≠ Err.kSuccess then (rc, dev)
      else
        match dev.sync with
        | (rc, dev) =>
          if rc ≠ Err.kSuccess then (rc, dev)
          else
            match dev.writeAt 0 sb.toBytes with
            | (rc, dev) => if rc ≠ Err.kSuccess then (rc, dev) else dev.sync

-- Why neither copy will do. Media that cannot be read are told apart from media
-- that hold no super block.
def superBlockFailure (primaryReadOk backupReadOk : Bool) (primaryCheck backupCheck : SbCheck) : Rc :=
  if primaryReadOk = false ∧ backupReadOk = false then Err.kSuperBlockReadFailed
  else if primaryCheck = .badMagic ∧ backupCheck = .badMagic then Err.kSuperBlockMagicMismatch
  else if primaryCheck = .badCrc ∨ backupCheck = .badCrc then Err.kSuperBlockCrcMismatch
  else Err.kSuperBlockNoValid

-- A valid backup copy is written over the primary.
def readBackupWithRepair (dev : RawDevice) (primaryReadOk : Bool) (primaryCheck : SbCheck) : Except Rc DiskSuperBlock × RawDevice :=
  match dev.readAt kSuperBlockSize kSuperBlockSize with
  | none => (.error (superBlockFailure primaryReadOk false primaryCheck .badMagic), dev)
  | some buf =>
      if checkSuperBlock (.ofBytes buf) = .valid then
        match dev.writeAt 0 buf with
        | (rc, dev) => (.ok (.ofBytes buf), if rc ≠ Err.kSuccess then dev else dev.sync.2)
      else (.error (superBlockFailure primaryReadOk true primaryCheck (checkSuperBlock (.ofBytes buf))), dev)

def readSuperBlockWithRepair (alloc : Nat → Bool) (dev : RawDevice) : Except Rc DiskSuperBlock × RawDevice :=
  if alloc kSuperBlockSize = false then (.error Err.kIoBase, dev)
  else
    match dev.readAt 0 kSuperBlockSize with
    | none => readBackupWithRepair dev false .badMagic
    | some buf =>
        if checkSuperBlock (.ofBytes buf) = .valid then (.ok (.ofBytes buf), dev)
        else readBackupWithRepair dev true (checkSuperBlock (.ofBytes buf))

structure GroupUuids where
  engine : Uuid
  data : Uuid
  wal : Uuid
  snapshot : Uuid
deriving DecidableEq

-- What a create finds: the memory, the UUIDs that getrandom yields and the time.
structure CreateEnv where
  alloc : Nat → Bool
  entropy : Option GroupUuids
  now : UInt64

-- One CreateDeviceGroup call, as far as its three super blocks depend on it.
structure GroupCall where
  uuids : GroupUuids
  deviceId : UInt64
  deviceCount : UInt64
  blockCount : UInt64
  now : UInt64
deriving DecidableEq

def GroupCall.dataSb (c : GroupCall) : DiskSuperBlock :=
  DiskSuperBlock.signed { DiskSuperBlock.zero with
    magic := kSuperBlockMagic
    version := kSuperBlockVersion
    deviceType := DeviceType.data.raw
    engineUuid := c.uuids.engine
    deviceUuid := c.uuids.data
    pairedWalUuid := c.uuids.wal
    pairedSnapshotUuid := c.uuids.snapshot
    deviceId := c.deviceId
    blockCount := c.blockCount
    deviceCount := c.deviceCount
    createdAt := c.now }

def GroupCall.walSb (c : GroupCall) : DiskSuperBlock :=
  DiskSuperBlock.signed { DiskSuperBlock.zero with
    magic := kSuperBlockMagic
    version := kSuperBlockVersion
    deviceType := DeviceType.wal.raw
    engineUuid := c.uuids.engine
    deviceUuid := c.uuids.wal
    pairedDataUuid := c.uuids.data
    deviceId := c.deviceId
    deviceCount := c.deviceCount
    createdAt := c.now }

def GroupCall.snapSb (c : GroupCall) : DiskSuperBlock :=
  DiskSuperBlock.signed { DiskSuperBlock.zero with
    magic := kSuperBlockMagic
    version := kSuperBlockVersion
    deviceType := DeviceType.snapshot.raw
    engineUuid := c.uuids.engine
    deviceUuid := c.uuids.snapshot
    pairedDataUuid := c.uuids.data
    deviceId := c.deviceId
    deviceCount := c.deviceCount
    createdAt := c.now }

def DeviceGroup.openAll (g : DeviceGroup) : Rc × DeviceGroup :=
  match g.data.openDevice with
  | (rc, data) =>
    let g := { g with data := data }
    if rc ≠ Err.kSuccess then (Err.kIoBase, g)
    else
      match g.wal.openDevice with
      | (rc, wal) =>
        let g := { g with wal := wal }
        if rc ≠ Err.kSuccess then (Err.kIoBase, g)
        else
          match g.snapshot.openDevice with
          | (rc, snapshot) =>
            let g := { g with snapshot := snapshot }
            if rc ≠ Err.kSuccess then (Err.kIoBase, g) else (Err.kSuccess, g)

-- The devices are closed however the call ends.
def DeviceGroup.closeAll (g : DeviceGroup) : DeviceGroup := ⟨g.data.close.2, g.wal.close.2, g.snapshot.close.2⟩

def DeviceGroup.tooSmall (g : DeviceGroup) : Bool :=
  g.data.sizeBytes < kDataRegionOffset + kValueSize || g.wal.sizeBytes < kDataRegionOffset || g.snapshot.sizeBytes < kDataRegionOffset

def DeviceGroup.blocks (g : DeviceGroup) : Nat := (g.data.sizeBytes - kDataRegionOffset) / kValueSize

def DeviceGroup.call (g : DeviceGroup) (uuids : GroupUuids) (now deviceId deviceCount : UInt64) : GroupCall :=
  ⟨uuids, deviceId, deviceCount, UInt64.ofNat g.blocks, now⟩

-- The data device comes last: without its super block the group does not exist.
def DeviceGroup.createOpened (g : DeviceGroup) (env : CreateEnv) (deviceId deviceCount : UInt64) : Except Rc DiskSuperBlock × DeviceGroup :=
  if g.tooSmall = true then (.error Err.kEngineInvalidOpts, g)
  else
    match env.entropy with
    | none => (.error Err.kSuperBlockEntropyFailure, g)
    | some uuids =>
        let c := g.call uuids env.now deviceId deviceCount
        match writeSuperBlockPair env.alloc g.wal c.walSb with
        | (rc, wal) =>
          let g := { g with wal := wal }
          if rc ≠ Err.kSuccess then (.error Err.kIoBase, g)
          else
            match writeSuperBlockPair env.alloc g.snapshot c.snapSb with
            | (rc, snapshot) =>
              let g := { g with snapshot := snapshot }
              if rc ≠ Err.kSuccess then (.error Err.kIoBase, g)
              else
                match writeSuperBlockPair env.alloc g.data c.dataSb with
                | (rc, data) =>
                  let g := { g with data := data }
                  if rc ≠ Err.kSuccess then (.error Err.kIoBase, g) else (.ok c.dataSb, g)

def createDeviceGroup (env : CreateEnv) (deviceId deviceCount : UInt64) (g : DeviceGroup) : Except Rc DiskSuperBlock × DeviceGroup :=
  match g.openAll with
  | (rc, g) =>
    if rc ≠ Err.kSuccess then (.error rc, g.closeAll)
    else
      match g.createOpened env deviceId deviceCount with
      | (result, g) => (result, g.closeAll)

def checkDeviceGroup (deviceId deviceCount : UInt64) (actualBlocks : Nat) (data wal snap : DiskSuperBlock) : Except Rc DiskSuperBlock :=
  if data.deviceType ≠ DeviceType.data.raw ∨ wal.deviceType ≠ DeviceType.wal.raw ∨ snap.deviceType ≠ DeviceType.snapshot.raw then
    .error Err.kSuperBlockDeviceTypeMismatch
  else if data.engineUuid ≠ wal.engineUuid ∨ data.engineUuid ≠ snap.engineUuid then .error Err.kSuperBlockEngineUuidMismatch
  else if data.pairedWalUuid ≠ wal.deviceUuid ∨ wal.pairedDataUuid ≠ data.deviceUuid ∨ data.pairedSnapshotUuid ≠ snap.deviceUuid ∨
      snap.pairedDataUuid ≠ data.deviceUuid then .error Err.kSuperBlockPairMismatch
  else if data.deviceId ≠ deviceId ∨ wal.deviceId ≠ deviceId ∨ snap.deviceId ≠ deviceId then .error Err.kSuperBlockDeviceIdMismatch
  else if data.deviceCount ≠ deviceCount ∨ wal.deviceCount ≠ deviceCount ∨ snap.deviceCount ≠ deviceCount then
    .error Err.kSuperBlockDeviceCountMismatch
  else if data.blockCount.toNat > actualBlocks then .error Err.kSuperBlockSizeMismatch
  else .ok data

def DeviceGroup.recoverOpened (g : DeviceGroup) (alloc : Nat → Bool) (deviceId deviceCount : UInt64) : Except Rc DiskSuperBlock × DeviceGroup :=
  if g.tooSmall = true then (.error Err.kEngineInvalidOpts, g)
  else
    match readSuperBlockWithRepair alloc g.data with
    | (.error rc, data) => (.error rc, { g with data := data })
    | (.ok dataSb, data) =>
        let g := { g with data := data }
        match readSuperBlockWithRepair alloc g.wal with
        | (.error rc, wal) => (.error rc, { g with wal := wal })
        | (.ok walSb, wal) =>
            let g := { g with wal := wal }
            match readSuperBlockWithRepair alloc g.snapshot with
            | (.error rc, snapshot) => (.error rc, { g with snapshot := snapshot })
            | (.ok snapSb, snapshot) =>
                let g := { g with snapshot := snapshot }
                (checkDeviceGroup deviceId deviceCount g.blocks dataSb walSb snapSb, g)

def recoverDeviceGroup (alloc : Nat → Bool) (deviceId deviceCount : UInt64) (g : DeviceGroup) : Except Rc DiskSuperBlock × DeviceGroup :=
  match g.openAll with
  | (rc, g) =>
    if rc ≠ Err.kSuccess then (.error rc, g.closeAll)
    else
      match g.recoverOpened alloc deviceId deviceCount with
      | (result, g) => (result, g.closeAll)

end Cabe
