import Cabe.RawDevice
import Cabe.WalFrame

set_option autoImplicit false

namespace Cabe

open Storage

def walRingSize (deviceBytes : Nat) : Nat :=
  if deviceBytes ≤ kDataRegionOffset then 0
  else ((deviceBytes - kDataRegionOffset) / kWalBlockSize) * kWalBlockSize

-- The commit group's atomics are not part of this record: here one batch runs
-- at a time, and curBuf is none where the source holds a null pointer. The frame
-- count is a uint32_t there, which no buffer below 2^39 bytes takes to its end.
structure Wal where
  dev : RawDevice
  curBuf : Option Bytes
  bufSize : Nat
  curOff : Nat
  nFrames : Nat
  seqNext : Nat
  ringStart : Nat
  ringEnd : Nat
  headOff : Nat
  windowBytes : Nat

def Wal.unopened (dev : RawDevice) : Wal where
  dev := dev
  curBuf := none
  bufSize := 0
  curOff := 0
  nFrames := 0
  seqNext := 1
  ringStart := 0
  ringEnd := 0
  headOff := 0
  windowBytes := 0

def memcpy (buf : Bytes) (at_ : Nat) (src : Bytes) : Bytes := buf.take at_ ++ src ++ buf.drop (at_ + src.length)

def memmoveFront (buf : Bytes) (from_ len : Nat) : Bytes := slice buf from_ len ++ buf.drop len

def memsetZero (buf : Bytes) (from_ : Nat) : Bytes := buf.take from_ ++ zeros (buf.length - from_)

def blockFloor (off : Nat) : Nat := (off / kWalBlockSize) * kWalBlockSize

def Wal.windowAt (w : Wal) (pos : Nat) : Nat :=
  let ring := w.ringEnd - w.ringStart
  let toSeam := w.ringEnd - pos
  let live := (pos + ring - w.headOff) % ring
  let limit := ring - kWalBlockSize
  let adm := if live ≥ limit then 0 else limit - live
  min w.bufSize (min toSeam adm)

-- The buffer can always be had.
def Wal.openWal (w : Wal) (opts : Options) : Rc × Wal :=
  match w.dev.openDevice with
  | (rc, dev) =>
    if rc ≠ Err.kSuccess then (rc, { w with dev := dev })
    else
      let bufSize := roundUpBufferSize opts.walBufferSize kWalBlockSize
      let ringSize := walRingSize dev.sizeBytes
      let need := max (min (opts.snapshotThresholdBytes * 2) (2 ^ 64 - 1)) ((bufSize + kWalBlockSize) % 2 ^ 64)
      let w := { w with dev := dev, bufSize := bufSize, ringStart := kDataRegionOffset, ringEnd := kDataRegionOffset + ringSize }
      if ringSize < need then (Err.kDeviceTooSmall, { w with dev := dev.close.2 })
      else
        let w := { w with curOff := w.ringStart, headOff := w.ringStart, nFrames := 0, seqNext := 1, windowBytes := 0 }
        if opts.create = false then (Err.kSuccess, { w with curBuf := none })
        else (Err.kSuccess, { w with curBuf := some (zeros bufSize), windowBytes := w.windowAt w.curOff })

def Wal.append (w : Wal) (e : WalEntry) : Rc × Wal :=
  match w.curBuf with
  | none => (Err.kWalWriteFailed, w)
  | some buf =>
      let f := encodeFrame e w.seqNext
      (Err.kSuccess, { w with
        seqNext := w.seqNext + 1
        curBuf := some (memcpy buf (w.nFrames * kWalFrameSize) f.toBytes)
        nFrames := w.nFrames + 1 })

def Wal.writeWindowSpan (w : Wal) : Rc × Wal :=
  let used := w.nFrames * kWalFrameSize
  let bytes := alignUp used kWalBlockSize
  match w.dev.writeAt w.curOff ((w.curBuf.getD []).take bytes) with
  | (rc, dev) => (if rc ≠ Err.kSuccess then Err.kWalWriteFailed else Err.kSuccess, { w with dev := dev })

-- Whole blocks are left behind, a half block's frames move to the front of the
-- buffer, and the window is opened again at the new position.
def Wal.advanceAfterWrite (w : Wal) : Wal :=
  let used := w.nFrames * kWalFrameSize
  let partialBytes := used % kWalBlockSize
  let advance := used - partialBytes
  let buf := w.curBuf.getD []
  let moved : Wal :=
    if advance > 0 then
      let next0 := w.curOff + advance
      { w with
        curOff := if next0 = w.ringEnd then w.ringStart else next0
        curBuf := some (if partialBytes > 0 then memmoveFront buf advance partialBytes else buf) }
    else w
  let cleared : Wal := { moved with
    nFrames := partialBytes / kWalFrameSize
    curBuf := some (memsetZero (moved.curBuf.getD []) partialBytes) }
  { cleared with windowBytes := cleared.windowAt cleared.curOff }

def Wal.writeOutWindow (w : Wal) : Rc × Wal :=
  if w.nFrames = 0 then (Err.kSuccess, w)
  else
    match w.writeWindowSpan with
    | (rc, w1) => if rc ≠ Err.kSuccess then (rc, w1) else (Err.kSuccess, w1.advanceAfterWrite)

-- A flush advances only after its fdatasync has succeeded, a batch before it.
def Wal.flush (w : Wal) (level : WalLevel) : Rc × Wal :=
  if w.curBuf = none then (Err.kSuccess, w)
  else if isWalSyncLevel level then (Err.kSuccess, w)
  else if w.nFrames = 0 then (Err.kSuccess, w)
  else
    match w.writeWindowSpan with
    | (rc, w1) =>
      if rc ≠ Err.kSuccess then (rc, w1)
      else
        match w1.dev.sync with
        | (rc, dev) =>
          if rc ≠ Err.kSuccess then (Err.kWalWriteFailed, { w1 with dev := dev })
          else (Err.kSuccess, ({ w1 with dev := dev } : Wal).advanceAfterWrite)

structure Admission where
  rc : Rc
  wrote : Bool
  wal : Wal

-- Admission of one frame of a batch: reopen a closed window, write a full one out.
def Wal.admission (w : Wal) : Admission :=
  let w := if w.windowBytes = 0 then { w with windowBytes := w.windowAt w.curOff } else w
  if w.windowBytes = 0 then ⟨Err.kWalFull, false, w⟩
  else if w.nFrames * kWalFrameSize ≥ w.windowBytes then
    match w.writeOutWindow with
    | (rc, w1) =>
      if rc ≠ Err.kSuccess then ⟨rc, false, w1⟩
      else if w1.windowBytes = 0 then ⟨Err.kWalFull, true, w1⟩
      else ⟨Err.kSuccess, true, w1⟩
  else ⟨Err.kSuccess, false, w⟩

structure BatchRun where
  wal : Wal
  wrote : Bool
  dirty : Bool
  failRc : Rc
  rejected : List WalEntry

def Wal.batchLoop (w : Wal) (wrote dirty : Bool) : List WalEntry → BatchRun
  | [] => ⟨w, wrote, dirty, Err.kSuccess, []⟩
  | e :: rest =>
      let a := w.admission
      let wrote := wrote || a.wrote
      let dirty := dirty && !a.wrote
      if a.rc ≠ Err.kSuccess then ⟨a.wal, wrote, dirty, a.rc, e :: rest⟩
      else
        match a.wal.append e with
        | (rc, w2) => if rc ≠ Err.kSuccess then ⟨w2, wrote, dirty, rc, e :: rest⟩ else w2.batchLoop wrote true rest

-- The last span of the batch and, if anything was written, its one fdatasync.
def BatchRun.finish (r : BatchRun) : Rc × Wal :=
  if r.failRc ≠ Err.kSuccess ∧ r.failRc ≠ Err.kWalFull then (r.failRc, r.wal)
  else
    match (if r.dirty then r.wal.writeOutWindow else (Err.kSuccess, r.wal)) with
    | (rc, w1) =>
      if rc ≠ Err.kSuccess then (Err.kWalWriteFailed, w1)
      else if r.wrote || r.dirty then
        match w1.dev.sync with
        | (rc, dev) => (if rc ≠ Err.kSuccess then Err.kWalWriteFailed else Err.kSuccess, { w1 with dev := dev })
      else (Err.kSuccess, w1)

-- The results are those of the nodes in arrival order.
def Wal.processBatch (w : Wal) (batch : List WalEntry) : List Rc × Wal :=
  let r := w.batchLoop false false batch
  match r.finish with
  | (prefixRc, w1) =>
    let suffixRc := if r.failRc = Err.kWalFull then Err.kWalFull else prefixRc
    (List.replicate (batch.length - r.rejected.length) prefixRc ++ List.replicate r.rejected.length suffixRc, w1)

-- With one writer the commit group forms batches of one.
def Wal.writeWal (w : Wal) (level : WalLevel) (e : WalEntry) : Rc × Wal :=
  if e.key.length > kWalKeyMax then (Err.kWalKeyTooLong, w)
  else if w.curBuf = none then (Err.kWalWriteFailed, w)
  else if isWalSyncLevel level then
    match w.processBatch [e] with
    | (results, w1) => (results.headD Err.kSuccess, w1)
  else
    let w := if w.windowBytes = 0 then { w with windowBytes := w.windowAt w.curOff } else w
    if w.windowBytes = 0 then (Err.kWalFull, w)
    else
      match (if w.nFrames * kWalFrameSize ≥ w.windowBytes then w.flush level else (Err.kSuccess, w)) with
      | (rc, w1) =>
        if rc ≠ Err.kSuccess then (rc, w1)
        else if w1.windowBytes = 0 then (Err.kWalFull, w1)
        else
          match w1.append e with
          | (rc, w2) =>
            if rc ≠ Err.kSuccess then (rc, w2)
            else if w2.nFrames * kWalFrameSize ≥ w2.windowBytes then w2.flush level
            else (Err.kSuccess, w2)

def Wal.lastSeq (w : Wal) : Nat := w.seqNext - 1

def Wal.reclaimBoundary (w : Wal) : Nat := w.curOff

def Wal.reclaimUpTo (w : Wal) (boundary : Nat) : Rc × Wal :=
  let ring := w.ringEnd - w.ringStart
  let dBoundary := (boundary + ring - w.headOff) % ring
  let dTail := (w.curOff + ring - w.headOff) % ring
  if w.curBuf.isSome ∧ ring ≠ 0 ∧ boundary % kWalBlockSize = 0 ∧ w.ringStart ≤ boundary ∧ boundary < w.ringEnd ∧
      dBoundary ≤ dTail then
    (Err.kSuccess, { w with headOff := boundary })
  else (Err.kWalInvalidReclaim, w)

def Wal.close (w : Wal) (level : WalLevel) : Rc × Wal :=
  match (if w.curBuf = none then (Err.kSuccess, w) else w.flush level) with
  | (frc, w1) =>
    match w1.dev.close with
    | (crc, dev) => (if frc ≠ Err.kSuccess then frc else crc, { w1 with dev := dev, curBuf := none })

end Cabe
