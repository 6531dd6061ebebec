import Cabe.RawDevice

set_option autoImplicit false

namespace Cabe

open Storage

def kPageSize : Nat := 4096
def kDefaultPoolBlocks : Nat := 16

-- A buffer is named by its number. The vector's back is the list's end.
structure BufferPool where
  blockCount : Nat
  freeList : List Nat
deriving DecidableEq, Repr

def BufferPool.create (blockCount : Nat) : BufferPool := ⟨blockCount, List.range blockCount⟩

def BufferPool.allocate (p : BufferPool) : Option (Nat × BufferPool) :=
  match p.freeList.getLast? with
  | none => none
  | some buf => some (buf, { p with freeList := p.freeList.dropLast })

def BufferPool.free (p : BufferPool) (buf : Nat) : BufferPool := { p with freeList := p.freeList ++ [buf] }

theorem free_allocated (p next : BufferPool) (buf : Nat) (taken : p.allocate = some (buf, next)) : next.free buf = p := by
  unfold BufferPool.allocate at taken
  cases last : p.freeList.getLast? with
  | none => simp [last] at taken
  | some b =>
      simp only [last, Option.some.injEq, Prod.mk.injEq] at taken
      obtain ⟨rfl, rfl⟩ := taken
      simp [BufferPool.free, List.dropLast_append_getLast? b last]

-- Memory of a caller. Address zero is the null pointer.
structure DataView where
  addr : Nat
  bytes : Bytes
deriving DecidableEq, Repr

def DataView.data (v : DataView) : Option Bytes := if v.addr = 0 then none else some v.bytes

inductive PutValueSourceKind where
  | externalValueMemory
  | targetKeyValueBuffer
  | otherKeyValueBuffer
  | otherDeviceValueBuffer
  | poolAddressNotAllocated
deriving DecidableEq, Repr

structure PutValueSource where
  kind : PutValueSourceKind
  ownerDeviceId : DeviceId
  poolId : Nat
  slotIndex : Nat
  slotGeneration : Nat
deriving DecidableEq, Repr

def PutValueSource.fallback : PutValueSource := ⟨.externalValueMemory, 0, 0, 0, 0⟩

inductive PutWritePath where
  | direct
  | copyFallback
deriving DecidableEq, Repr

structure BackendDirectWriteCaps where
  allowExternalValueMemory : Bool
  externalMemoryAlignment : Nat
deriving DecidableEq, Repr

def defaultBackendDirectWriteCaps : BackendDirectWriteCaps := ⟨true, kPageSize⟩

def isAddressAligned (addr alignment : Nat) : Bool :=
  if addr = 0 ∨ alignment = 0 then false else decide (addr % alignment = 0)

def buildPutWritePlan (value : DataView) (source : PutValueSource) (caps : BackendDirectWriteCaps) : PutWritePath :=
  if value.bytes.length ≠ kValueSize ∨ value.addr = 0 then .copyFallback
  else
    match source.kind with
    | .targetKeyValueBuffer => .direct
    | .externalValueMemory =>
        if caps.allowExternalValueMemory = true ∧ isAddressAligned value.addr caps.externalMemoryAlignment = true then .direct
        else .copyFallback
    | .otherKeyValueBuffer => .copyFallback
    | .otherDeviceValueBuffer => .copyFallback
    | .poolAddressNotAllocated => .copyFallback

inductive IoWriteBufferKind where
  | externalMemory
  | valueBufferSlot
  | copyFallbackBuffer
deriving DecidableEq, Repr

structure IoWriteBuffer where
  data : Option Bytes
  size : Nat
  kind : IoWriteBufferKind
  deviceId : DeviceId
  poolId : Nat
  slotIndex : Nat
  slotGeneration : Nat
deriving DecidableEq, Repr

-- The synchronous backend, over the data device.
structure SyncIoBackend where
  dev : RawDevice
  blockCount : Nat

def SyncIoBackend.openIo (io : SyncIoBackend) : Rc × SyncIoBackend :=
  match io.dev.openDevice with
  | (rc, dev) =>
    if rc ≠ Err.kSuccess then (Err.kIoBase, { io with dev := dev })
    else if dev.sizeBytes ≤ kDataRegionOffset then (Err.kEngineInvalidOpts, { io with dev := dev.close.2 })
    else
      let blockCount := (dev.sizeBytes - kDataRegionOffset) / kValueSize
      if blockCount = 0 then (Err.kEngineInvalidOpts, { dev := dev.close.2, blockCount := 0 })
      else (Err.kSuccess, { dev := dev, blockCount := blockCount })

def valueOffset (blockIdx : Nat) : Nat := kDataRegionOffset + blockIdx * kValueSize

def SyncIoBackend.write (io : SyncIoBackend) (level : WalLevel) (blockIdx : Nat) (buffer : IoWriteBuffer) : Rc × SyncIoBackend :=
  if blockIdx ≥ io.blockCount then (Err.kIoBase, io)
  else
    match buffer.data with
    | none => (Err.kIoBase, io)
    | some bytes =>
        if buffer.size ≠ kValueSize then (Err.kIoBase, io)
        else
          match io.dev.writeAt (valueOffset blockIdx) bytes with
          | (rc, dev) =>
            if rc ≠ Err.kSuccess then (Err.kIoBase, { io with dev := dev })
            else if isValueFuaLevel level = true then
              match dev.sync with
              | (rc, dev) => (if rc ≠ Err.kSuccess then Err.kIoBase else Err.kSuccess, { io with dev := dev })
            else (Err.kSuccess, { io with dev := dev })

def SyncIoBackend.read (io : SyncIoBackend) (blockIdx : Nat) : Except Rc Bytes :=
  if blockIdx ≥ io.blockCount then .error Err.kIoBase
  else
    match io.dev.readAt (valueOffset blockIdx) kValueSize with
    | none => .error Err.kIoBase
    | some buf => .ok buf

def SyncIoBackend.close (io : SyncIoBackend) : Rc × SyncIoBackend :=
  match io.dev.close with
  | (rc, dev) => (rc, { dev := dev, blockCount := 0 })

end Cabe
