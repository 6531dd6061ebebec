import Mathlib
import Cabe.Wal

set_option autoImplicit false

namespace Cabe

open Storage

structure RecoverCensus where
  validCount : Nat
  liveCount : Nat
  minLiveSeq : Nat
  minLiveOff : Nat
  maxLiveSeq : Nat
  maxLiveOff : Nat
  maxValidSeq : Nat
  maxValidOff : Nat

def RecoverCensus.empty : RecoverCensus := ⟨0, 0, 0, 0, 0, 0, 0, 0⟩

def RecoverCensus.note (c : RecoverCensus) (coveredSeq fo : Nat) (f : WalFrame) : RecoverCensus :=
  if verifyFrame f = false then c
  else
    let c := { c with validCount := c.validCount + 1 }
    let c := if f.seq.toNat > c.maxValidSeq then { c with maxValidSeq := f.seq.toNat, maxValidOff := fo } else c
    if f.seq.toNat > coveredSeq then
      let c := { c with liveCount := c.liveCount + 1 }
      let c := if c.liveCount = 1 ∨ f.seq.toNat < c.minLiveSeq then
        { c with minLiveSeq := f.seq.toNat, minLiveOff := fo } else c
      if f.seq.toNat > c.maxLiveSeq then { c with maxLiveSeq := f.seq.toNat, maxLiveOff := fo } else c
    else c

def frameIn (buf : Bytes) (at_ : Nat) : WalFrame := WalFrame.ofBytes (slice buf at_ kWalFrameSize)

def censusChunk (coveredSeq off : Nat) (chunk : Bytes) (c : RecoverCensus) : RecoverCensus :=
  (List.range (chunk.length / kWalFrameSize)).foldl
    (fun c i => c.note coveredSeq (off + i * kWalFrameSize) (frameIn chunk (i * kWalFrameSize))) c

def Wal.censusFrom (w : Wal) (coveredSeq off : Nat) (c : RecoverCensus) : Except Rc RecoverCensus :=
  if off < w.ringEnd then
    let len := min w.bufSize (w.ringEnd - off)
    match w.dev.readAt off len with
    | none => .error Err.kWalRecoveryReadFailed
    | some chunk =>
        if 0 < len then w.censusFrom coveredSeq (off + len) (censusChunk coveredSeq off chunk c)
        else .error Err.kNeverReturns
  else .ok c
termination_by w.ringEnd - off
decreasing_by omega

def Wal.censusScan (w : Wal) (coveredSeq : Nat) : Except Rc RecoverCensus :=
  w.censusFrom coveredSeq w.ringStart .empty

-- The locals of the second pass; st is the callback's state. The null block
-- number of the source is none here.
structure Scan (σ : Type) where
  pos : Nat
  expected : Nat
  inRun : Bool
  replayed : Nat
  tStop : Nat
  anchorOff : Nat
  anchorSeq : Nat
  hasAnchor : Bool
  stopOff : Nat
  fragments : Nat
  fragMinSeq : Nat
  fragMaxSeq : Nat
  blocksCrossed : Nat
  prevBlock : Option Nat
  st : σ

abbrev WalReplayFn (σ : Type) := σ → WalEntry → Nat → Except Rc σ

def Scan.start {σ : Type} (coveredSeq pos : Nat) (st : σ) : Scan σ where
  pos := pos
  expected := coveredSeq + 1
  inRun := true
  replayed := 0
  tStop := coveredSeq
  anchorOff := 0
  anchorSeq := 0
  hasAnchor := false
  stopOff := 0
  fragments := 0
  fragMinSeq := 0
  fragMaxSeq := 0
  blocksCrossed := 0
  prevBlock := none
  st := st

def zoneEnd (stopOff bufSize ringEnd : Nat) : Nat := min (blockFloor stopOff + bufSize) ringEnd

-- A live frame outside the run must lie inside one window and one window's
-- worth of numbers. Sums are plain here: Scan.sweepWord has them in words, and
-- low_walk_word says where the two walks are the same.
def Scan.sweep {σ : Type} (s : Scan σ) (w : Wal) (coveredSeq : Nat) (f : WalFrame) : Except Rc (Scan σ) :=
  if verifyFrame f = true ∧ f.seq.toNat > coveredSeq then
    let physOk := s.pos ≥ s.stopOff ∧ s.pos < zoneEnd s.stopOff w.bufSize w.ringEnd
    let seqOk := f.seq.toNat > s.tStop ∧ f.seq.toNat ≤ s.tStop + w.bufSize / kWalFrameSize
    if ¬ physOk ∨ ¬ seqOk then .error Err.kWalRecoveryCorrupted
    else
      let s := { s with fragments := s.fragments + 1 }
      let s := if s.fragments = 1 ∨ f.seq.toNat < s.fragMinSeq then { s with fragMinSeq := f.seq.toNat } else s
      .ok (if f.seq.toNat > s.fragMaxSeq then { s with fragMaxSeq := f.seq.toNat } else s)
  else .ok s

def Scan.deliver {σ : Type} (s : Scan σ) (fn : WalReplayFn σ) (f : WalFrame) : Except Rc (Scan σ) :=
  match fn s.st (decodeEntry f) f.seq.toNat with
  | .error rc => .error rc
  | .ok st =>
      let blk := s.pos / kWalBlockSize
      let s := if some blk ≠ s.prevBlock then { s with blocksCrossed := s.blocksCrossed + 1, prevBlock := some blk } else s
      .ok { s with
        replayed := s.replayed + 1
        anchorOff := s.pos
        anchorSeq := f.seq.toNat
        hasAnchor := true
        tStop := f.seq.toNat
        expected := s.expected + 1
        st := st }

def Scan.next {σ : Type} (s : Scan σ) (w : Wal) : Scan σ :=
  let pos := s.pos + kWalFrameSize
  { s with pos := if pos = w.ringEnd then w.ringStart else pos }

-- One slot of the walk: deliver it, or stop the run there and sweep from it on.
def Scan.slot {σ : Type} (s : Scan σ) (w : Wal) (coveredSeq : Nat) (fn : WalReplayFn σ) (f : WalFrame) :
    Except Rc (Scan σ) :=
  if s.inRun = true then
    if verifyFrame f = true ∧ f.seq.toNat = s.expected then (s.deliver fn f).map (·.next w)
    else (({ s with inRun := false, stopOff := s.pos } : Scan σ).sweep w coveredSeq f).map (·.next w)
  else (s.sweep w coveredSeq f).map (·.next w)

structure Chunk where
  off : Nat
  bytes : Bytes

def Wal.readChunk (w : Wal) (pos : Nat) : Except Rc Chunk :=
  let off := blockFloor pos
  match w.dev.readAt off (min w.bufSize (w.ringEnd - off)) with
  | none => .error Err.kWalRecoveryReadFailed
  | some bytes => .ok ⟨off, bytes⟩

-- The scan buffer is read again whenever the position has left the chunk in it.
def Wal.fetch (w : Wal) (chunk : Option Chunk) (pos : Nat) : Except Rc Chunk :=
  match chunk with
  | none => w.readChunk pos
  | some c => if pos < c.off ∨ pos + kWalFrameSize > c.off + c.bytes.length then w.readChunk pos else .ok c

def Wal.walk {σ : Type} (w : Wal) (coveredSeq : Nat) (fn : WalReplayFn σ) :
    Nat → Option Chunk → Scan σ → Except Rc (Scan σ)
  | 0, _, s => .ok s
  | slots + 1, chunk, s =>
      match w.fetch chunk s.pos with
      | .error rc => .error rc
      | .ok c =>
          match s.slot w coveredSeq fn (frameIn c.bytes (s.pos - c.off)) with
          | .error rc => .error rc
          | .ok next => w.walk coveredSeq fn slots (some c) next

-- Both passes and every refusal they can decide on. Nothing is written yet.
def Wal.survey {σ : Type} (w : Wal) (coveredSeq : Nat) (fn : WalReplayFn σ) (st : σ) :
    Except Rc (RecoverCensus × Scan σ) :=
  match w.censusScan coveredSeq with
  | .error rc => .error rc
  | .ok c =>
      if c.validCount = 0 ∧ coveredSeq > 0 then .error Err.kWalRecoveryCorrupted
      else if c.liveCount > 0 then
        if c.minLiveSeq ≠ coveredSeq + 1 then .error Err.kWalRecoveryCorrupted
        else
          match w.walk coveredSeq fn ((w.ringEnd - w.ringStart) / kWalFrameSize) none (.start coveredSeq c.minLiveOff st) with
          | .error rc => .error rc
          | .ok s => .ok (c, s)
      else .ok (c, .start coveredSeq 0 st)

-- The state a ring without any frame is continued in.
def Wal.placeEmpty (w : Wal) : Wal :=
  let w := { w with curBuf := some (zeros w.bufSize), curOff := w.ringStart, headOff := w.ringStart, nFrames := 0, seqNext := 1 }
  { w with windowBytes := w.windowAt w.curOff }

-- The tail continues in the block of the anchor frame, or in the next one when
-- the anchor fills its block.
def Wal.placeTail (w : Wal) (c : RecoverCensus) (anchorOff anchorSeq : Nat) : Wal :=
  let floor := blockFloor anchorOff
  let frames := (anchorOff - floor) / kWalFrameSize + 1
  let next0 := floor + kWalBlockSize
  let curOff := if frames = kWalFramesPerBlock then (if next0 = w.ringEnd then w.ringStart else next0) else floor
  { w with
    curBuf := some (zeros w.bufSize)
    curOff := curOff
    nFrames := if frames = kWalFramesPerBlock then 0 else frames
    headOff := if c.liveCount > 0 then blockFloor c.minLiveOff else curOff
    seqNext := anchorSeq + 1 }

def Wal.eraseFrom (w : Wal) (off zone : Nat) : Rc × Wal :=
  if off < zone then
    let len := min w.bufSize (zone - off)
    match w.dev.writeAt off ((w.curBuf.getD []).take len) with
    | (rc, dev) =>
      if rc ≠ Err.kSuccess then (Err.kWalWriteFailed, { w with dev := dev })
      else if 0 < len then ({ w with dev := dev } : Wal).eraseFrom (off + len) zone
      else (Err.kNeverReturns, w)
  else (Err.kSuccess, w)
termination_by zone - off
decreasing_by omega

-- The blocks of the tolerance zone behind the tail block are written with zeros.
def Wal.eraseZone (w : Wal) (fragments stopOff : Nat) : Rc × Wal :=
  if fragments > 0 then
    w.eraseFrom (if w.nFrames > 0 then w.curOff + kWalBlockSize else w.curOff) (zoneEnd stopOff w.bufSize w.ringEnd)
  else (Err.kSuccess, w)

-- The tail block's frames come back into the buffer, and with fragments about
-- the block is rewritten with its other slots cleared.
def Wal.refill (w : Wal) (fragments : Nat) : Rc × Wal :=
  if w.nFrames > 0 then
    match w.dev.readAt w.curOff kWalBlockSize with
    | none => (Err.kWalRecoveryReadFailed, w)
    | some block =>
        let buf := memsetZero (memcpy (w.curBuf.getD []) 0 block) (w.nFrames * kWalFrameSize)
        let w := { w with curBuf := some buf }
        if fragments > 0 then
          match w.dev.writeAt w.curOff (buf.take kWalBlockSize) with
          | (rc, dev) => (if rc ≠ Err.kSuccess then Err.kWalWriteFailed else Err.kSuccess, { w with dev := dev })
        else (Err.kSuccess, w)
  else (Err.kSuccess, w)

def Wal.seal (w : Wal) (fragments : Nat) : Rc × Wal :=
  if fragments > 0 then
    match w.dev.sync with
    | (rc, dev) => (if rc ≠ Err.kSuccess then Err.kWalWriteFailed else Err.kSuccess, { w with dev := dev })
  else (Err.kSuccess, w)

def Wal.selfCheck {σ : Type} (w : Wal) (coveredSeq : Nat) (c : RecoverCensus) (s : Scan σ) : Bool :=
  let ring := w.ringEnd - w.ringStart
  let liveGeo := (w.curOff + ring - w.headOff) % ring
  let expectLive := if c.liveCount > 0 then (s.blocksCrossed - (if w.nFrames > 0 then 1 else 0)) * kWalBlockSize else 0
  decide (w.curOff % kWalBlockSize = 0 ∧ w.headOff % kWalBlockSize = 0
    ∧ w.curOff ≥ w.ringStart ∧ w.curOff < w.ringEnd
    ∧ w.headOff ≥ w.ringStart ∧ w.headOff < w.ringEnd
    ∧ liveGeo = expectLive
    ∧ w.seqNext ≥ coveredSeq + 1
    ∧ w.nFrames < kWalFramesPerBlock
    ∧ w.windowBytes = w.windowAt w.curOff
    ∧ s.replayed + s.fragments = c.liveCount)

-- Everything after the survey. The first write to fail ends it.
def Wal.rebuild {σ : Type} (w : Wal) (coveredSeq : Nat) (c : RecoverCensus) (s : Scan σ) : Rc × Wal :=
  let anchorOff := if s.hasAnchor then s.anchorOff else c.maxValidOff
  let anchorSeq := if s.hasAnchor then s.anchorSeq else c.maxValidSeq
  match (w.placeTail c anchorOff anchorSeq).eraseZone s.fragments s.stopOff with
  | (rc, w1) =>
    if rc ≠ Err.kSuccess then (rc, w1)
    else
      match w1.refill s.fragments with
      | (rc, w2) =>
        if rc ≠ Err.kSuccess then (rc, w2)
        else
          match w2.seal s.fragments with
          | (rc, w3) =>
            if rc ≠ Err.kSuccess then (rc, w3)
            else
              let w4 := { w3 with windowBytes := w3.windowAt w3.curOff }
              if w4.selfCheck coveredSeq c s = true then (Err.kSuccess, w4) else (Err.kWalRecoveryInvariant, w4)

structure Recovered (σ : Type) where
  rc : Rc
  wal : Wal
  st : σ

-- A refused recovery leaves nothing of the callback's state to use, so it
-- returns the one it was given.
def Wal.recover {σ : Type} (w : Wal) (coveredSeq : Nat) (fn : WalReplayFn σ) (st : σ) : Recovered σ :=
  if w.dev.isOpen = false then ⟨Err.kEngineInvalidOpts, w, st⟩
  else if w.curBuf.isSome then ⟨Err.kEngineInvalidOpts, w, st⟩
  else
    let w := { w with curBuf := some (zeros w.bufSize) }
    match w.survey coveredSeq fn st with
    | .error rc => ⟨rc, w, st⟩
    | .ok (c, s) =>
        if s.hasAnchor = false ∧ c.validCount = 0 then ⟨Err.kSuccess, w.placeEmpty, s.st⟩
        else
          match w.rebuild coveredSeq c s with
          | (rc, w1) => ⟨rc, w1, if rc = Err.kSuccess then s.st else st⟩

end Cabe
