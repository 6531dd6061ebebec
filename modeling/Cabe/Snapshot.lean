import Cabe.RawDevice
import Cabe.SnapshotFormat

set_option autoImplicit false

namespace Cabe

open Storage

-- The fields of the data device's super block that are read after it was checked.
structure SuperBlock where
  engineUuid : Vector UInt8 16
  deviceId : Nat
  blockCount : Nat
deriving DecidableEq

inductive Slot where
  | a
  | b
deriving DecidableEq, Repr

def Slot.other : Slot → Slot
  | .a => .b
  | .b => .a

-- The active slot is none where the source holds -1.
structure Snapshot where
  dev : RawDevice
  slotAOff : Nat
  slotBOff : Nat
  slotSize : Nat
  nextGen : Nat
  lastCoveredSeq : Nat
  lastTriggerSeq : Nat
  activeEntryCount : Nat
  activeSlot : Option Slot
  engineUuid : Vector UInt8 16

def Snapshot.unopened (dev : RawDevice) : Snapshot where
  dev := dev
  slotAOff := 0
  slotBOff := 0
  slotSize := 0
  nextGen := 1
  lastCoveredSeq := 0
  lastTriggerSeq := 0
  activeEntryCount := 0
  activeSlot := none
  engineUuid := Vector.replicate 16 0

def Snapshot.slotOff (s : Snapshot) : Slot → Nat
  | .a => s.slotAOff
  | .b => s.slotBOff

-- What the process finds while it works on the snapshot device: whether memory
-- of a size can be had, and the time.
structure SnapshotEnv where
  alloc : Nat → Bool
  now : UInt64

def kEmptyDataCrc : UInt32 := 0

def Snapshot.verifyFrom (s : Snapshot) (bufSize off remaining : Nat) (crc : UInt32) : Except Rc UInt32 :=
  if 0 < remaining then
    let want := min bufSize (alignUp (min remaining bufSize) kSnapshotBlockSize)
    match s.dev.readAt off want with
    | none => .error Err.kSnapshotReadFailed
    | some buf =>
        let use := min remaining want
        if 0 < use then s.verifyFrom bufSize (off + want) (remaining - use) (Util.crc32cStreamUpdate crc (buf.take use))
        else .error Err.kNeverReturns
  else .ok crc
termination_by remaining
decreasing_by omega

def Snapshot.verifySlotData (s : Snapshot) (opts : Options) (env : SnapshotEnv) (slot : Slot) (h : SnapshotSlotHeader) : Rc :=
  if h.dataLen.toNat = 0 then (if h.dataCrc = kEmptyDataCrc then Err.kSuccess else Err.kSnapshotCorrupted)
  else
    let bufSize := roundUpBufferSize opts.snapshotBufferSize kSnapshotBlockSize
    if env.alloc bufSize = false then Err.kSnapshotReadFailed
    else
      match s.verifyFrom bufSize (s.slotOff slot + kSnapshotSlotHeaderSize) h.dataLen.toNat 0xFFFFFFFF with
      | .error rc => rc
      | .ok crc => if ~~~ crc = h.dataCrc then Err.kSuccess else Err.kSnapshotCorrupted

-- The products and sums of header fields are taken modulo 2^64.
def Snapshot.slotOk (s : Snapshot) (h : SnapshotSlotHeader) : Bool :=
  verifySlotHeader h && decide (h.engineUuid = s.engineUuid) &&
    decide (h.dataLen.toNat = h.entryCount.toNat * kSnapshotRecordSize % 2 ^ 64) &&
    decide ((kSnapshotSlotHeaderSize + h.dataLen.toNat) % 2 ^ 64 ≤ s.slotSize)

def Snapshot.readHeader (s : Snapshot) (slot : Slot) : Option SnapshotSlotHeader :=
  (s.dev.readAt (s.slotOff slot) kSnapshotSlotHeaderSize).map SnapshotSlotHeader.ofBytes

def Snapshot.never (s : Snapshot) : Snapshot :=
  { s with nextGen := 1, activeSlot := none, lastCoveredSeq := 0, lastTriggerSeq := 0, activeEntryCount := 0 }

def Snapshot.adopt (s : Snapshot) (slot : Slot) (h : SnapshotSlotHeader) (maxGen : Nat) : Snapshot :=
  { s with
    activeSlot := some slot
    nextGen := (maxGen + 1) % 2 ^ 64
    lastCoveredSeq := h.coveredSeq.toNat
    lastTriggerSeq := h.coveredSeq.toNat
    activeEntryCount := h.entryCount.toNat }

-- The slot to recover from, with the fallback to the other one when the
-- records of the candidate do not match their checksum.
def Snapshot.choose (s : Snapshot) (opts : Options) (env : SnapshotEnv) (h : Slot → SnapshotSlotHeader) (ok : Slot → Bool)
    (cand : Slot) : Except Rc Slot :=
  let rc := s.verifySlotData opts env cand (h cand)
  if rc = Err.kSuccess then .ok cand
  else if rc = Err.kSnapshotReadFailed ∨ rc = Err.kNeverReturns then .error rc
  else if ok cand.other = true then
    let rc := s.verifySlotData opts env cand.other (h cand.other)
    if rc = Err.kSuccess then .ok cand.other
    else if rc = Err.kSnapshotReadFailed ∨ rc = Err.kNeverReturns then .error rc
    else .error Err.kSnapshotCorrupted
  else .error Err.kSnapshotCorrupted

def Snapshot.adjudicate (s : Snapshot) (opts : Options) (env : SnapshotEnv) : Except Rc Snapshot :=
  if env.alloc kSnapshotSlotHeaderSize = false then .error Err.kSnapshotReadFailed
  else
    match s.readHeader .a, s.readHeader .b with
    | some ha, some hb =>
        let h : Slot → SnapshotSlotHeader := fun slot => match slot with | .a => ha | .b => hb
        let ok : Slot → Bool := fun slot => s.slotOk (h slot)
        if ok .a = true ∧ ok .b = true ∧ ha.generation = hb.generation then .error Err.kSnapshotCorrupted
        else if ok .a = false ∧ ok .b = false then .ok s.never
        else
          let cand : Slot :=
            if ok .a = true ∧ ok .b = true then (if ha.generation.toNat > hb.generation.toNat then .a else .b)
            else if ok .a = true then .a else .b
          match s.choose opts env h ok cand with
          | .error rc => .error rc
          | .ok chosen =>
              let maxGen := max (if ok .a = true then ha.generation.toNat else 0) (if ok .b = true then hb.generation.toNat else 0)
              .ok (s.adopt chosen (h chosen) maxGen)
    | _, _ => .error Err.kSnapshotReadFailed

-- A create clears both slot headers before anything else.
def Snapshot.clear (s : Snapshot) (env : SnapshotEnv) : Rc × Snapshot :=
  if env.alloc kSnapshotSlotHeaderSize = false then (Err.kSnapshotWriteFailed, { s with dev := s.dev.close.2 })
  else
    match s.dev.writeAt s.slotAOff (zeros kSnapshotSlotHeaderSize) with
    | (wa, dev) =>
      match dev.writeAt s.slotBOff (zeros kSnapshotSlotHeaderSize) with
      | (wb, dev) =>
        match (if wa ≠ Err.kSuccess ∨ wb ≠ Err.kSuccess then (Err.kSnapshotWriteFailed, dev) else dev.sync) with
        | (rc, dev) =>
          if rc ≠ Err.kSuccess then (Err.kSnapshotWriteFailed, { s with dev := dev.close.2 })
          else (Err.kSuccess, ({ s with dev := dev } : Snapshot).never)

def Snapshot.openSnapshot (s : Snapshot) (opts : Options) (env : SnapshotEnv) (dataSb : SuperBlock) : Rc × Snapshot :=
  match s.dev.openDevice with
  | (rc, dev) =>
    if rc ≠ Err.kSuccess then (rc, { s with dev := dev })
    else
      let slotSize := snapshotSlotSize dev.sizeBytes
      let s := { s with dev := dev, engineUuid := dataSb.engineUuid, slotSize := slotSize }
      if slotSize = 0 then (Err.kDeviceTooSmall, { s with dev := dev.close.2 })
      else
        let s := { s with slotAOff := kDataRegionOffset, slotBOff := kDataRegionOffset + slotSize }
        let need := kSnapshotSlotHeaderSize + alignUp (dataSb.blockCount * kSnapshotRecordSize) kSnapshotBlockSize
        if slotSize < need then (Err.kDeviceTooSmall, { s with dev := dev.close.2 })
        else if opts.create = true then s.clear env
        else
          match s.adjudicate opts env with
          | .error rc => (rc, { s with dev := dev.close.2 })
          | .ok s => (Err.kSuccess, s)

def loadRecords {σ : Type} (visitor : MetaIndexVisitor σ) (buf : Bytes) : List Nat → σ → Rc × σ
  | [], st => (Err.kSuccess, st)
  | i :: rest, st =>
      let r := SnapshotRecord.ofBytes (slice buf (i * kSnapshotRecordSize) kSnapshotRecordSize)
      if r.keyLen.toNat > kSnapshotKeyMax then (Err.kSnapshotCorrupted, st)
      else
        match visitor st (decodeSnapshotRecord r).1 (decodeSnapshotRecord r).2 with
        | (rc, st1) => if rc ≠ Err.kSuccess then (rc, st1) else loadRecords visitor buf rest st1

def Snapshot.loadFrom {σ : Type} (s : Snapshot) (visitor : MetaIndexVisitor σ) (bufSize off remaining : Nat) (st : σ) : Rc × σ :=
  if 0 < remaining then
    let want := min bufSize (alignUp (min (remaining * kSnapshotRecordSize % 2 ^ 64) bufSize) kSnapshotBlockSize)
    match s.dev.readAt off want with
    | none => (Err.kSnapshotReadFailed, st)
    | some buf =>
        let recsHere := min remaining (want / kSnapshotRecordSize)
        match loadRecords visitor buf (List.range recsHere) st with
        | (rc, st1) =>
          if rc ≠ Err.kSuccess then (rc, st1)
          else if 0 < recsHere then s.loadFrom visitor bufSize (off + want) (remaining - recsHere) st1
          else (Err.kNeverReturns, st1)
  else (Err.kSuccess, st)
termination_by remaining
decreasing_by exact Nat.sub_lt (by assumption) (by assumption)

def Snapshot.load {σ : Type} (s : Snapshot) (opts : Options) (env : SnapshotEnv) (visitor : MetaIndexVisitor σ) (st : σ) : Rc × σ :=
  if s.dev.isOpen = false then (Err.kSnapshotReadFailed, st)
  else
    match s.activeSlot with
    | none => (Err.kSuccess, st)
    | some slot =>
        if s.activeEntryCount = 0 then (Err.kSuccess, st)
        else
          let bufSize := roundUpBufferSize opts.snapshotBufferSize kSnapshotBlockSize
          if env.alloc bufSize = false then (Err.kSnapshotReadFailed, st)
          else s.loadFrom visitor bufSize (s.slotOff slot + kSnapshotSlotHeaderSize) s.activeEntryCount st

-- The locals of Write: what the buffer holds, where it goes and what went before.
structure Encoding where
  dev : RawDevice
  pending : Bytes
  off : Nat
  count : Nat
  crc : UInt32

-- The buffer is a whole number of blocks: what is put into it is past its end
-- only if it has none.
def Encoding.visit (bufSize dataEnd : Nat) : MetaIndexVisitor Encoding := fun e key meta_ =>
  if key.length > kSnapshotKeyMax then (Err.kSnapshotWriteFailed, e)
  else if bufSize = 0 then (Err.kOverrun, e)
  else
    let record := (encodeSnapshotRecord key meta_).toBytes
    let e := { e with pending := e.pending ++ record, crc := Util.crc32cStreamUpdate e.crc record, count := e.count + 1 }
    if e.pending.length = bufSize then
      if e.off + e.pending.length > dataEnd then (Err.kDeviceTooSmall, e)
      else
        match e.dev.writeAt e.off e.pending with
        | (rc, dev) =>
          if rc ≠ Err.kSuccess then (Err.kSnapshotWriteFailed, { e with dev := dev })
          else (Err.kSuccess, { e with dev := dev, off := e.off + e.pending.length, pending := [] })
    else (Err.kSuccess, e)

-- What is left in the buffer is filled up with zeros to whole blocks.
def Encoding.drain (e : Encoding) (dataEnd : Nat) : Rc × Encoding :=
  if 0 < e.pending.length then
    let bytes := alignUp e.pending.length kSnapshotBlockSize
    if e.off + bytes > dataEnd then (Err.kDeviceTooSmall, e)
    else
      match e.dev.writeAt e.off (e.pending ++ zeros (bytes - e.pending.length)) with
      | (rc, dev) => (if rc ≠ Err.kSuccess then Err.kSnapshotWriteFailed else Err.kSuccess, { e with dev := dev })
  else (Err.kSuccess, e)

def Snapshot.header (s : Snapshot) (coveredSeq count : Nat) (dataCrc : UInt32) (now : UInt64) : SnapshotSlotHeader :=
  let h : SnapshotSlotHeader := {
    magic := kSnapshotSlotMagic
    version := kSnapshotSlotVersion
    generation := UInt64.ofNat s.nextGen
    coveredSeq := UInt64.ofNat coveredSeq
    entryCount := UInt64.ofNat count
    dataLen := UInt64.ofNat (count * kSnapshotRecordSize)
    dataCrc := dataCrc
    reserved0 := 0
    createdAt := now
    engineUuid := s.engineUuid
    reserved := Vector.replicate 4020 0
    headerCrc32c := 0 }
  { h with headerCrc32c := computeSlotHeaderCrc h }

def Snapshot.target (s : Snapshot) : Slot := if s.activeSlot = some .a then .b else .a

-- The header goes out through the buffer of the records.
def Snapshot.write (s : Snapshot) (opts : Options) (env : SnapshotEnv) (coveredSeq : Nat)
    (scan : MetaIndexVisitor Encoding → Encoding → Rc × Encoding) : Rc × Snapshot :=
  if s.dev.isOpen = false then (Err.kSnapshotWriteFailed, s)
  else
    let slotOff := s.slotOff s.target
    let dataEnd := slotOff + s.slotSize
    let bufSize := roundUpBufferSize opts.snapshotBufferSize kSnapshotBlockSize
    if env.alloc bufSize = false then (Err.kSnapshotWriteFailed, s)
    else
      match scan (Encoding.visit bufSize dataEnd) ⟨s.dev, [], slotOff + kSnapshotSlotHeaderSize, 0, 0xFFFFFFFF⟩ with
      | (rc, e) =>
        if rc ≠ Err.kSuccess then (rc, { s with dev := e.dev })
        else
          match e.drain dataEnd with
          | (rc, e) =>
            if rc ≠ Err.kSuccess then (rc, { s with dev := e.dev })
            else if bufSize = 0 then (Err.kOverrun, { s with dev := e.dev })
            else
              match e.dev.writeAt slotOff (s.header coveredSeq e.count (~~~ e.crc) env.now).toBytes with
              | (rc, dev) =>
                if rc ≠ Err.kSuccess then (Err.kSnapshotWriteFailed, { s with dev := dev })
                else
                  match dev.sync with
                  | (rc, dev) =>
                    if rc ≠ Err.kSuccess then (Err.kSnapshotWriteFailed, { s with dev := dev })
                    else (Err.kSuccess, { s with
                      dev := dev
                      activeSlot := some s.target
                      lastCoveredSeq := coveredSeq
                      activeEntryCount := e.count
                      nextGen := (s.nextGen + 1) % 2 ^ 64 })

def Snapshot.noteTriggerAttempt (s : Snapshot) (seq : Nat) : Snapshot := { s with lastTriggerSeq := seq }

def Snapshot.close (s : Snapshot) : Rc × Snapshot :=
  match s.dev.close with
  | (rc, dev) => (rc, { s with dev := dev })

end Cabe
