import Cabe.BlockAllocator
import Cabe.DataPath
import Cabe.Snapshot
import Cabe.WalRecover

set_option autoImplicit false

namespace Cabe

open Storage

structure DeviceContext where
  io : SyncIoBackend
  wal : Wal
  snapshot : Snapshot
  pool : BufferPool
  blockAllocator : RingBlockAllocator
  metaIndex : MetaIndex
  superBlock : SuperBlock

-- The thread's own copy of the options and the device it owns.
structure Reactor where
  options : Options
  dc : DeviceContext

def Reactor.withWal (r : Reactor) (wal : Wal) : Reactor := { r with dc := { r.dc with wal := wal } }
def Reactor.withSnapshot (r : Reactor) (snapshot : Snapshot) : Reactor := { r with dc := { r.dc with snapshot := snapshot } }
def Reactor.withIo (r : Reactor) (io : SyncIoBackend) : Reactor := { r with dc := { r.dc with io := io } }
def Reactor.withPool (r : Reactor) (pool : BufferPool) : Reactor := { r with dc := { r.dc with pool := pool } }
def Reactor.withIndex (r : Reactor) (index : MetaIndex) : Reactor := { r with dc := { r.dc with metaIndex := index } }
def Reactor.withAllocator (r : Reactor) (allocator : RingBlockAllocator) : Reactor :=
  { r with dc := { r.dc with blockAllocator := allocator } }

def Reactor.recycle (r : Reactor) (id : BlockId) : Reactor := r.withAllocator (r.dc.blockAllocator.recycle id)

-- What a snapshot finds when it is taken.
structure ScanEnv extends SnapshotEnv where
  walk : Walk

-- What an operation finds: the time, and the snapshots that it may take itself.
structure OpEnv where
  now : UInt64
  rescue : ScanEnv
  auto : ScanEnv

structure PutRequest where
  key : Key
  value : DataView
  valueSource : PutValueSource
deriving DecidableEq, Repr

inductive Request where
  | get (key : Key)
  | put (req : PutRequest)
  | delete (key : Key)
  | setWalLevel (level : WalLevel)
  | snapshot
deriving DecidableEq, Repr

-- The result code, and the bytes a Get has copied to its caller.
structure Reply where
  rc : Rc
  out : Option Bytes
deriving DecidableEq, Repr

def Reply.code (rc : Rc) : Reply := ⟨rc, none⟩

-- Trimming is left for later by the source.
def Reactor.trimDeviceBlock (r : Reactor) (_id : BlockId) : Reactor := r

def Reactor.doSnapshot (r : Reactor) (env : ScanEnv) : Rc × Reactor :=
  let r := r.withSnapshot (r.dc.snapshot.noteTriggerAttempt r.dc.wal.lastSeq)
  match r.dc.wal.flush r.options.walLevel with
  | (rc, wal) =>
    let r := r.withWal wal
    if rc ≠ Err.kSuccess then (rc, r)
    else
      let coveredSeq := wal.lastSeq
      let boundary := wal.reclaimBoundary
      match r.dc.snapshot.write r.options env.toSnapshotEnv coveredSeq (r.dc.metaIndex.forEach env.walk) with
      | (rc, snapshot) =>
        let r := r.withSnapshot snapshot
        if rc ≠ Err.kSuccess then (rc, r)
        else (Err.kSuccess, r.withWal (wal.reclaimUpTo boundary).2)

def Reactor.requestSnapshot (r : Reactor) (env : ScanEnv) : Reactor := (r.doSnapshot env).2

def Reactor.maybeRequestSnapshot (r : Reactor) (env : ScanEnv) : Reactor :=
  let grown := (r.dc.wal.lastSeq + 2 ^ 64 - r.dc.snapshot.lastTriggerSeq) % 2 ^ 64 * kWalFrameSize % 2 ^ 64
  if grown ≥ r.options.snapshotThresholdBytes then r.requestSnapshot env else r

-- A full ring is answered by one snapshot and one more attempt.
def Reactor.writeWalRescuing (r : Reactor) (env : ScanEnv) (e : WalEntry) : Rc × Reactor :=
  match r.dc.wal.writeWal r.options.walLevel e with
  | (rc, wal) =>
    let r := r.withWal wal
    if rc ≠ Err.kWalFull then (rc, r)
    else
      match r.doSnapshot env with
      | (rc, r) =>
        if rc ≠ Err.kSuccess then (Err.kWalFull, r)
        else
          match r.dc.wal.writeWal r.options.walLevel e with
          | (rc, wal) => (rc, r.withWal wal)

def Reactor.executeGet (r : Reactor) (key : Key) : Reply × Reactor :=
  match r.dc.metaIndex.lookupMeta key with
  | .error rc => (.code rc, r)
  | .ok meta_ =>
      match r.dc.pool.allocate with
      | none => (.code Err.kEnginePoolExhausted, r)
      | some (buf, pool) =>
          let r := r.withPool pool
          match r.dc.io.read meta_.block.blockIdx with
          | .error rc => (.code rc, r.withPool (r.dc.pool.free buf))
          | .ok bytes =>
              if Util.crc32 bytes ≠ meta_.crc then (.code Err.kEngineDataCorrupted, r.withPool (r.dc.pool.free buf))
              else (⟨Err.kSuccess, some bytes⟩, r.withPool (r.dc.pool.free buf))

-- The buffer that is handed to the backend on the direct path.
def directWriteBuffer (req : PutRequest) : IoWriteBuffer :=
  if req.valueSource.kind = .targetKeyValueBuffer then
    { data := req.value.data
      size := kValueSize
      kind := .valueBufferSlot
      deviceId := req.valueSource.ownerDeviceId
      poolId := req.valueSource.poolId
      slotIndex := req.valueSource.slotIndex
      slotGeneration := req.valueSource.slotGeneration }
  else
    { data := req.value.data, size := kValueSize, kind := .externalMemory, deviceId := 0, poolId := 0, slotIndex := 0, slotGeneration := 0 }

def copyWriteBuffer (req : PutRequest) : IoWriteBuffer :=
  { data := some req.value.bytes, size := kValueSize, kind := .copyFallbackBuffer, deviceId := 0, poolId := 0, slotIndex := 0, slotGeneration := 0 }

-- The lease is the fallback buffer, when one is needed.
def Reactor.leaseWriteBuffer (r : Reactor) (req : PutRequest) : Except Rc (Option Nat × IoWriteBuffer × Reactor) :=
  match buildPutWritePlan req.value req.valueSource defaultBackendDirectWriteCaps with
  | .direct => .ok (none, directWriteBuffer req, r)
  | .copyFallback =>
      match r.dc.pool.allocate with
      | none => .error Err.kEnginePoolExhausted
      | some (buf, pool) => .ok (some buf, copyWriteBuffer req, r.withPool pool)

def Reactor.resetLease (r : Reactor) : Option Nat → Reactor
  | none => r
  | some buf => r.withPool (r.dc.pool.free buf)

def putEntry (key : Key) (block : BlockId) (crc : UInt32) (now : UInt64) : WalEntry := ⟨.put, key, block, crc, now⟩

def deleteEntry (key : Key) (now : UInt64) : WalEntry := ⟨.delete, key, ⟨0⟩, 0, now⟩

def Reactor.executePut (r : Reactor) (env : OpEnv) (req : PutRequest) : Reply × Reactor :=
  match r.dc.blockAllocator.acquire with
  | .error rc => (.code rc, r)
  | .ok (block, allocator) =>
      let r := r.withAllocator allocator
      match r.leaseWriteBuffer req with
      | .error rc => (.code rc, r.recycle block)
      | .ok (lease, buffer, r) =>
          let valueCrc := Util.crc32 req.value.bytes
          match r.dc.io.write r.options.walLevel block.blockIdx buffer with
          | (rc, io) =>
            let r := (r.withIo io).resetLease lease
            if rc ≠ Err.kSuccess then (.code rc, r.recycle block)
            else
              match r.writeWalRescuing env.rescue (putEntry req.key block valueCrc env.now) with
              | (rc, r) =>
                if rc ≠ Err.kSuccess then (.code rc, r.recycle block)
                else
                  let old := r.dc.metaIndex.lookupMeta req.key
                  let meta_ : ValueMeta := { block := block, timestamp := env.now, crc := valueCrc, state := .active }
                  let r := r.withIndex (r.dc.metaIndex.insertMeta req.key meta_).2
                  let r := match old with
                    | .error _ => r
                    | .ok oldMeta => (r.recycle oldMeta.block).trimDeviceBlock oldMeta.block
                  (.code Err.kSuccess, r.maybeRequestSnapshot env.auto)

def Reactor.executeDelete (r : Reactor) (env : OpEnv) (key : Key) : Reply × Reactor :=
  match r.dc.metaIndex.lookupMeta key with
  | .error rc => (.code rc, r)
  | .ok meta_ =>
      match r.writeWalRescuing env.rescue (deleteEntry key env.now) with
      | (rc, r) =>
        if rc ≠ Err.kSuccess then (.code rc, r)
        else
          let r := r.withIndex (r.dc.metaIndex.deleteMeta key).2
          let r := (r.recycle meta_.block).trimDeviceBlock meta_.block
          (.code Err.kSuccess, r.maybeRequestSnapshot env.auto)

def Reactor.executeSetWalLevel (r : Reactor) (level : WalLevel) : Reply × Reactor :=
  let old := r.options.walLevel
  if isWalSyncLevel old = false ∧ isWalSyncLevel level = true then
    match r.dc.wal.flush r.options.walLevel with
    | (rc, wal) =>
      let r := r.withWal wal
      if rc ≠ Err.kSuccess then (.code rc, r)
      else (.code Err.kSuccess, { r with options := { r.options with walLevel := level } })
  else (.code Err.kSuccess, { r with options := { r.options with walLevel := level } })

def Reactor.executeSnapshot (r : Reactor) (env : OpEnv) : Reply × Reactor :=
  match r.doSnapshot env.auto with
  | (rc, r) => (.code rc, r)

def Reactor.execute (r : Reactor) (env : OpEnv) : Request → Reply × Reactor
  | .get key => r.executeGet key
  | .put req => r.executePut env req
  | .delete key => r.executeDelete env key
  | .setWalLevel level => r.executeSetWalLevel level
  | .snapshot => r.executeSnapshot env

def Reactor.closeDc (r : Reactor) : Rc × Reactor :=
  match r.dc.snapshot.close with
  | (src, snapshot) =>
    match r.dc.wal.close r.options.walLevel with
    | (wrc, wal) =>
      match r.dc.io.close with
      | (irc, io) =>
        (if src ≠ Err.kSuccess then src else if wrc ≠ Err.kSuccess then wrc else irc,
          ((r.withSnapshot snapshot).withWal wal).withIo io)

@[simp] theorem with_wal_index (r : Reactor) (wal : Wal) : (r.withWal wal).dc.metaIndex = r.dc.metaIndex := rfl
@[simp] theorem with_wal_allocator (r : Reactor) (wal : Wal) : (r.withWal wal).dc.blockAllocator = r.dc.blockAllocator := rfl
@[simp] theorem with_wal_pool (r : Reactor) (wal : Wal) : (r.withWal wal).dc.pool = r.dc.pool := rfl
@[simp] theorem with_wal_io (r : Reactor) (wal : Wal) : (r.withWal wal).dc.io = r.dc.io := rfl
@[simp] theorem with_snapshot_index (r : Reactor) (s : Snapshot) : (r.withSnapshot s).dc.metaIndex = r.dc.metaIndex := rfl
@[simp] theorem with_snapshot_allocator (r : Reactor) (s : Snapshot) : (r.withSnapshot s).dc.blockAllocator = r.dc.blockAllocator := rfl
@[simp] theorem with_snapshot_pool (r : Reactor) (s : Snapshot) : (r.withSnapshot s).dc.pool = r.dc.pool := rfl
@[simp] theorem with_snapshot_io (r : Reactor) (s : Snapshot) : (r.withSnapshot s).dc.io = r.dc.io := rfl

-- What the WAL and the snapshot do leaves the index, the blocks, the buffers and
-- the values as they are.
structure Reactor.SameStore (a b : Reactor) : Prop where
  index : b.dc.metaIndex = a.dc.metaIndex
  allocator : b.dc.blockAllocator = a.dc.blockAllocator
  pool : b.dc.pool = a.dc.pool
  io : b.dc.io = a.dc.io
  superBlock : b.dc.superBlock = a.dc.superBlock

theorem same_store_refl (r : Reactor) : r.SameStore r := ⟨rfl, rfl, rfl, rfl, rfl⟩

theorem do_snapshot_store (r : Reactor) (env : ScanEnv) : r.SameStore (r.doSnapshot env).2 := by
  unfold Reactor.doSnapshot
  simp only
  split
  · exact ⟨rfl, rfl, rfl, rfl, rfl⟩
  · split <;> exact ⟨rfl, rfl, rfl, rfl, rfl⟩

theorem maybe_request_store (r : Reactor) (env : ScanEnv) : r.SameStore (r.maybeRequestSnapshot env) := by
  unfold Reactor.maybeRequestSnapshot
  simp only
  split
  · exact do_snapshot_store r env
  · exact same_store_refl r

theorem write_rescuing_store (r : Reactor) (env : ScanEnv) (e : WalEntry) : r.SameStore (r.writeWalRescuing env e).2 := by
  unfold Reactor.writeWalRescuing
  simp only
  split
  · exact ⟨rfl, rfl, rfl, rfl, rfl⟩
  · have kept := do_snapshot_store (r.withWal (r.dc.wal.writeWal r.options.walLevel e).2) env
    split
    · exact ⟨kept.index, kept.allocator, kept.pool, kept.io, kept.superBlock⟩
    · exact ⟨kept.index, kept.allocator, kept.pool, kept.io, kept.superBlock⟩

end Cabe
