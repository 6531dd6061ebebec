import Cabe.Reactor

set_option autoImplicit false

namespace Cabe

open Storage

def SuperBlock.dev (sb : SuperBlock) : DeviceId := UInt8.ofNat sb.deviceId

-- The one table of checks for what a snapshot or the WAL brings back. A delete
-- names no block.
def validateRecoveredMeta (sb : SuperBlock) (key : Key) (block : Option BlockId) : Bool :=
  if key.length = 0 ∨ key.length > kWalKeyMax then false
  else
    match block with
    | none => true
    | some id => if id.dev ≠ sb.dev then false else if id.blockIdx ≥ sb.blockCount then false else true

def applyRecoveredEntry (sb : SuperBlock) : MetaIndexVisitor MetaIndex := fun index key meta_ =>
  if validateRecoveredMeta sb key (some meta_.block) = false then (Err.kSnapshotCorrupted, index)
  else index.insertMeta key meta_

def applyWalEntry (sb : SuperBlock) : WalReplayFn MetaIndex := fun index e _seq =>
  if e.type = .put then
    if validateRecoveredMeta sb e.key (some e.block) = false then .error Err.kWalRecoveryCorrupted
    else .ok (index.insertMeta e.key { block := e.block, timestamp := e.timestamp, crc := e.valueCrc, state := .active }).2
  else if e.type = .delete then
    if validateRecoveredMeta sb e.key none = false then .error Err.kWalRecoveryCorrupted
    else
      match index.deleteMeta e.key with
      | (rc, next) =>
        if rc = Err.kIndexKeyNotFound then .error Err.kWalRecoveryCorrupted
        else if rc ≠ Err.kSuccess then .error rc
        else .ok next
  else .error Err.kWalRecoveryCorrupted

-- What a start finds: the snapshot device's surroundings, and the orders the
-- index is walked in.
structure OpenEnv extends SnapshotEnv where
  rebuild : Walk
  verify : Walk

def DeviceContext.rebuildAllocator (dc : DeviceContext) (walk : Walk) : Rc × DeviceContext :=
  match dc.metaIndex.forEach walk (fun active _ meta_ => (Err.kSuccess, active ++ [meta_.block])) ([] : List BlockId) with
  | (rc, active) =>
    if rc ≠ Err.kSuccess then (rc, dc)
    else
      match RingBlockAllocator.rebuildFromActive dc.superBlock.dev dc.superBlock.blockCount active with
      | (rc, allocator) => (rc, { dc with blockAllocator := allocator })

-- Values that do not match their checksum are only counted; a read that fails
-- refuses the start.
def DeviceContext.verifyValuesCrc (dc : DeviceContext) (walk : Walk) : Rc × DeviceContext :=
  match dc.pool.allocate with
  | none => (Err.kEnginePoolExhausted, dc)
  | some (buf, pool) =>
      match dc.metaIndex.forEach walk (fun bad _ meta_ =>
          match dc.io.read meta_.block.blockIdx with
          | .error rc => (rc, bad)
          | .ok bytes => (Err.kSuccess, if Util.crc32 bytes ≠ meta_.crc then bad + 1 else bad)) (0 : Nat) with
      | (rc, _) => (rc, { dc with pool := pool.free buf })

def recoverDevice (opts : Options) (env : OpenEnv) (dc : DeviceContext) : Rc × DeviceContext :=
  match dc.snapshot.openSnapshot opts env.toSnapshotEnv dc.superBlock with
  | (rc, snapshot) =>
    let dc := { dc with snapshot := snapshot }
    if rc ≠ Err.kSuccess then (rc, dc)
    else
      match dc.snapshot.load opts env.toSnapshotEnv (applyRecoveredEntry dc.superBlock) dc.metaIndex with
      | (rc, index) =>
        let dc := { dc with metaIndex := index }
        if rc ≠ Err.kSuccess then (rc, dc)
        else
          match dc.wal.openWal opts with
          | (rc, wal) =>
            let dc := { dc with wal := wal }
            if rc ≠ Err.kSuccess then (rc, dc)
            else
              match dc.wal.recover dc.snapshot.lastCoveredSeq (applyWalEntry dc.superBlock) dc.metaIndex with
              | ⟨rc, wal, index⟩ =>
                let dc := { dc with wal := wal, metaIndex := index }
                if rc ≠ Err.kSuccess then (rc, dc)
                else
                  match dc.rebuildAllocator env.rebuild with
                  | (rc, dc) =>
                    if rc ≠ Err.kSuccess then (rc, dc)
                    else if opts.verifyValueCrcOnRecovery = true then dc.verifyValuesCrc env.verify
                    else (Err.kSuccess, dc)

-- The three devices of a group as the process finds them.
structure DeviceGroup where
  data : RawDevice
  wal : RawDevice
  snapshot : RawDevice

-- One round of the opening loop, behind the super block.
def openDevice (opts : Options) (env : OpenEnv) (sb : SuperBlock) (group : DeviceGroup) : Rc × DeviceContext :=
  let dc : DeviceContext := {
    io := ⟨group.data, 0⟩
    wal := .unopened group.wal
    snapshot := .unopened group.snapshot
    pool := .create 0
    blockAllocator := .empty 0
    metaIndex := ∅
    superBlock := sb }
  match dc.io.openIo with
  | (rc, io) =>
    let dc := { dc with io := io }
    if rc ≠ Err.kSuccess then (rc, dc)
    else if sb.blockCount > io.blockCount then (Err.kSuperBlockSizeMismatch, dc)
    else
      let dc := { dc with
        pool := .create kDefaultPoolBlocks
        blockAllocator := (RingBlockAllocator.init sb.dev sb.blockCount).2 }
      if opts.create = true then
        match dc.wal.openWal opts with
        | (rc, wal) =>
          let dc := { dc with wal := wal }
          if rc ≠ Err.kSuccess then (rc, dc)
          else
            match dc.snapshot.openSnapshot opts env.toSnapshotEnv sb with
            | (rc, snapshot) => (rc, { dc with snapshot := snapshot })
      else recoverDevice opts env dc

end Cabe
