import Cabe.WalLegal
import Cabe.WalPosition

set_option autoImplicit false

namespace Cabe

open Storage

-- The frames in the buffer.
def Wal.held (w : Wal) : Bytes := (w.curBuf.getD []).take (128 * w.nFrames)

-- What every open log keeps, whatever its device holds and does. A window of
-- zero bytes is a full ring, in front of which part of a block may wait.
structure Lined (w : Wal) : Prop where
  buffer : ∃ buf, w.curBuf = some buf ∧ buf.length = w.bufSize
  whole : w.bufSize % 4096 = 0 ∧ w.ringStart % 4096 = 0 ∧ w.ringEnd % 4096 = 0
  cur : w.curOff % 4096 = 0 ∧ w.ringStart ≤ w.curOff ∧ w.curOff < w.ringEnd
  head : w.headOff % 4096 = 0 ∧ w.ringStart ≤ w.headOff ∧ w.headOff < w.ringEnd
  window : w.windowBytes % 4096 = 0 ∧ w.windowBytes ≤ w.bufSize ∧ w.windowBytes ≤ w.ringEnd - w.curOff
  room : 128 * w.nFrames ≤ w.bufSize
  frames : 128 * w.nFrames ≤ w.windowBytes ∨ (w.windowBytes = 0 ∧ w.nFrames < 32)

theorem lined_buffer (w : Wal) (lined : Lined w) : (w.curBuf.getD []).length = w.bufSize := by
  obtain ⟨buf, same, length⟩ := lined.buffer
  rw [same, Option.getD_some, length]

theorem held_length (w : Wal) (lined : Lined w) : w.held.length = 128 * w.nFrames := by
  rw [Wal.held, List.length_take, lined_buffer w lined, Nat.min_eq_left lined.room]

theorem window_at_whole (w : Wal) (pos : Nat) (whole : w.bufSize % 4096 = 0 ∧ w.ringStart % 4096 = 0 ∧ w.ringEnd % 4096 = 0)
    (aligned : pos % 4096 = 0) (head : w.headOff % 4096 = 0 ∧ w.ringStart ≤ w.headOff ∧ w.headOff < w.ringEnd) :
    w.windowAt pos % 4096 = 0 ∧ w.windowAt pos ≤ w.bufSize ∧ w.windowAt pos ≤ w.ringEnd - pos := by
  have blocks : (pos + (w.ringEnd - w.ringStart) - w.headOff) % (w.ringEnd - w.ringStart) % 4096 = 0 := by
    rw [Nat.mod_mod_of_dvd _ (by omega)]
    omega
  unfold Wal.windowAt kWalBlockSize
  simp only
  generalize (pos + (w.ringEnd - w.ringStart) - w.headOff) % (w.ringEnd - w.ringStart) = live at blocks
  split <;> omega

-- Frames that stay where they are stay held, and the log stays lined.
theorem held_same (w after : Wal) (place : w.SamePlace after) (buffer : after.curBuf = w.curBuf) : after.held = w.held := by
  rw [Wal.held, Wal.held, buffer, place.nFrames]

theorem lined_same (w after : Wal) (lined : Lined w) (place : w.SamePlace after) (buffer : after.curBuf = w.curBuf)
    (window : after.windowBytes = w.windowBytes) : Lined after where
  buffer := by rw [buffer, place.bufSize]; exact lined.buffer
  whole := by rw [place.bufSize, place.ringStart, place.ringEnd]; exact lined.whole
  cur := by rw [place.curOff, place.ringStart, place.ringEnd]; exact lined.cur
  head := by rw [place.headOff, place.ringStart, place.ringEnd]; exact lined.head
  window := by rw [window, place.bufSize, place.ringEnd, place.curOff]; exact lined.window
  room := by rw [place.nFrames, place.bufSize]; exact lined.room
  frames := by rw [place.nFrames, window]; exact lined.frames

theorem same_place_refl (w : Wal) : w.SamePlace w := ⟨rfl, rfl, rfl, rfl, rfl, rfl, rfl⟩

theorem lined_reopened (w : Wal) (lined : Lined w) :
    Lined w.reopened ∧ w.SamePlace w.reopened ∧ w.reopened.curBuf = w.curBuf ∧ w.reopened.dev = w.dev := by
  have window := window_at_whole w w.curOff lined.whole lined.cur.1 lined.head
  have frames := lined.frames
  unfold Wal.reopened
  split
  · refine ⟨⟨lined.buffer, lined.whole, lined.cur, lined.head, window, lined.room, ?_⟩, ⟨rfl, rfl, rfl, rfl, rfl, rfl, rfl⟩, rfl, rfl⟩
    show 128 * w.nFrames ≤ w.windowAt w.curOff ∨ (w.windowAt w.curOff = 0 ∧ w.nFrames < 32)
    omega
  · exact ⟨lined, same_place_refl w, rfl, rfl⟩

def Wal.appended (w : Wal) (e : WalEntry) : Wal :=
  { w with
    seqNext := w.seqNext + 1
    curBuf := some (memcpy (w.curBuf.getD []) (w.nFrames * kWalFrameSize) (encodeFrame e w.seqNext).toBytes)
    nFrames := w.nFrames + 1 }

theorem lined_append (w : Wal) (e : WalEntry) (lined : Lined w) (space : 128 * w.nFrames < w.windowBytes) :
    w.append e = (Err.kSuccess, w.appended e) ∧ Lined (w.appended e) ∧
      (w.appended e).held = w.held ++ (encodeFrame e w.seqNext).toBytes := by
  obtain ⟨buf, same, length⟩ := lined.buffer
  have window := lined.window
  have fits : 128 * (w.nFrames + 1) ≤ buf.length := by omega
  have copied : memcpy buf (w.nFrames * kWalFrameSize) (encodeFrame e w.seqNext).toBytes =
      (buf.take (128 * w.nFrames) ++ (encodeFrame e w.seqNext).toBytes) ++ buf.drop (128 * (w.nFrames + 1)) := by
    rw [memcpy, to_bytes_length, kWalFrameSize, Nat.mul_comm, Nat.mul_add]
  have front : (buf.take (128 * w.nFrames) ++ (encodeFrame e w.seqNext).toBytes).length = 128 * (w.nFrames + 1) := by
    rw [List.length_append, List.length_take, to_bytes_length]
    omega
  refine ⟨?_, ⟨⟨_, rfl, ?_⟩, lined.whole, lined.cur, lined.head, window, ?_, .inl ?_⟩, ?_⟩
  · simp only [Wal.append, Wal.appended, same, Option.getD_some]
  · rw [same, Option.getD_some, copied, List.length_append, front, List.length_drop]
    show 128 * (w.nFrames + 1) + (buf.length - 128 * (w.nFrames + 1)) = w.bufSize
    omega
  · show 128 * (w.nFrames + 1) ≤ w.bufSize
    omega
  · show 128 * (w.nFrames + 1) ≤ w.windowBytes
    omega
  · show (memcpy (w.curBuf.getD []) _ _).take (128 * (w.nFrames + 1)) = (w.curBuf.getD []).take _ ++ _
    rw [same, Option.getD_some, copied, List.take_append_of_le_length (Nat.le_of_eq front.symm), List.take_of_length_le (Nat.le_of_eq front)]

-- What a window write hands to the device.
def Wal.span (w : Wal) : Bytes := (w.curBuf.getD []).take (alignUp (w.nFrames * kWalFrameSize) kWalBlockSize)

theorem span_front (w : Wal) : w.span.take (128 * w.nFrames) = w.held := by
  rw [Wal.span, Wal.held, List.take_take]
  congr 1
  unfold alignUp kWalFrameSize kWalBlockSize
  omega

-- The same log on a device that has been called.
def Wal.on (w : Wal) (dev : RawDevice) : Wal := { w with dev := dev }

theorem lined_on (w : Wal) (dev : RawDevice) (lined : Lined w) : Lined (w.on dev) :=
  lined_same w _ lined ⟨rfl, rfl, rfl, rfl, rfl, rfl, rfl⟩ rfl rfl

theorem span_called (w : Wal) : w.writeWindowSpan.2 = w.on (w.dev.writeAt w.curOff w.span).2 ∧
    (((w.dev.writeAt w.curOff w.span).1 = Err.kSuccess ∧ w.writeWindowSpan.1 = Err.kSuccess) ∨
      ((w.dev.writeAt w.curOff w.span).1 ≠ Err.kSuccess ∧ w.writeWindowSpan.1 = Err.kWalWriteFailed)) := by
  refine ⟨rfl, ?_⟩
  by_cases done : (w.dev.writeAt w.curOff w.span).1 = Err.kSuccess
  · exact .inl ⟨done, if_neg (not_not.mpr done)⟩
  · exact .inr ⟨done, if_pos done⟩

theorem moved_front (buf : Bytes) (from_ len : Nat) (fits : from_ + len ≤ buf.length) :
    memsetZero (memmoveFront buf from_ len) len = slice buf from_ len ++ zeros (buf.length - len) := by
  have front := slice_length buf from_ len fits
  have total : (memmoveFront buf from_ len).length = buf.length := by
    rw [memmoveFront, List.length_append, front, List.length_drop]
    omega
  rw [memsetZero, total, memmoveFront, List.take_append_of_le_length (Nat.le_of_eq front.symm), List.take_of_length_le (Nat.le_of_eq front)]

-- The whole blocks of the buffer are left behind, the rest moves to its front.
theorem lined_advance (w : Wal) (lined : Lined w) : Lined w.advanceAfterWrite ∧
    w.advanceAfterWrite.held = w.held.drop (4096 * (w.nFrames / 32)) ∧
    w.advanceAfterWrite.curOff ≡ w.curOff + 4096 * (w.nFrames / 32) [MOD w.ringEnd - w.ringStart] := by
  obtain ⟨buf, same, length⟩ := lined.buffer
  have frames := lined.frames
  have window := lined.window
  have room := lined.room
  have cur := lined.cur
  have whole := lined.whole
  have used : w.nFrames * kWalFrameSize % kWalBlockSize = 128 * (w.nFrames % 32) := by
    unfold kWalFrameSize kWalBlockSize
    omega
  have ahead : w.nFrames * kWalFrameSize - 128 * (w.nFrames % 32) = 4096 * (w.nFrames / 32) := by
    unfold kWalFrameSize
    omega
  have left := advance_frames w
  obtain ⟨bufSize, ringStart, ringEnd, headOff, _⟩ := advance_keeps w
  have off : w.advanceAfterWrite.curOff =
      if w.nFrames < 32 then w.curOff else if w.curOff + 4096 * (w.nFrames / 32) = w.ringEnd then w.ringStart
        else w.curOff + 4096 * (w.nFrames / 32) := by
    unfold Wal.advanceAfterWrite
    simp only [used, ahead]
    by_cases few : w.nFrames < 32
    · rw [if_neg (by omega), if_pos few]
    · rw [if_pos (by omega), if_neg few]
  have buffer : w.advanceAfterWrite.curBuf =
      some ((buf.drop (4096 * (w.nFrames / 32))).take (128 * (w.nFrames % 32)) ++ zeros (w.bufSize - 128 * (w.nFrames % 32))) := by
    unfold Wal.advanceAfterWrite
    simp only [used, ahead, same, Option.getD_some]
    by_cases few : w.nFrames < 32
    · rw [if_neg (by omega), Nat.div_eq_of_lt few, Nat.mul_zero, List.drop_zero]
      simp only [same, Option.getD_some, memsetZero, length]
    · rw [if_pos (by omega)]
      by_cases half : 128 * (w.nFrames % 32) > 0
      · rw [if_pos half, Option.getD_some, moved_front _ _ _ (by omega), length]
        rfl
      · rw [if_neg half, Option.getD_some, show w.nFrames % 32 = 0 by omega, Nat.mul_zero, List.take_zero, memsetZero, List.take_zero, length]
  have kept : ((buf.drop (4096 * (w.nFrames / 32))).take (128 * (w.nFrames % 32))).length = 128 * (w.nFrames % 32) := by
    rw [List.length_take, List.length_drop]
    omega
  have above : w.advanceAfterWrite.windowBytes = w.advanceAfterWrite.windowAt w.advanceAfterWrite.curOff := advance_window w
  have inside : w.advanceAfterWrite.curOff % 4096 = 0 ∧ w.ringStart ≤ w.advanceAfterWrite.curOff ∧ w.advanceAfterWrite.curOff < w.ringEnd := by
    rw [off]
    split
    · exact cur
    · split <;> omega
  have whole' : w.advanceAfterWrite.bufSize % 4096 = 0 ∧ w.advanceAfterWrite.ringStart % 4096 = 0 ∧ w.advanceAfterWrite.ringEnd % 4096 = 0 := by
    rw [bufSize, ringStart, ringEnd]
    exact whole
  have head' : w.advanceAfterWrite.headOff % 4096 = 0 ∧ w.advanceAfterWrite.ringStart ≤ w.advanceAfterWrite.headOff ∧
      w.advanceAfterWrite.headOff < w.advanceAfterWrite.ringEnd := by
    rw [headOff, ringStart, ringEnd]
    exact lined.head
  have opened := window_at_whole w.advanceAfterWrite _ whole' inside.1 head'
  rw [← above] at opened
  refine ⟨⟨⟨_, buffer, ?_⟩, whole', by rw [ringStart, ringEnd]; exact inside, head', opened, ?_, ?_⟩, ?_, ?_⟩
  · rw [List.length_append, kept, zeros_length, bufSize]
    omega
  · rw [left, bufSize]
    omega
  · rw [left]
    omega
  · rw [Wal.held, buffer, Option.getD_some, left, List.take_append_of_le_length (Nat.le_of_eq kept.symm),
      List.take_of_length_le (Nat.le_of_eq kept), Wal.held, same, Option.getD_some, List.drop_take]
    congr 1
    omega
  · rw [off]
    split
    · rw [Nat.div_eq_of_lt ‹_›, Nat.mul_zero, Nat.add_zero]
    · split
      · rename_i seam
        rw [seam]
        have turn : w.ringEnd = w.ringStart + (w.ringEnd - w.ringStart) := by omega
        conv => rhs; rw [turn]
        exact (Nat.add_modEq_right).symm
      · rfl

-- A window write that fails leaves the log as it was, beside the device; one
-- that succeeds moves on.
theorem write_out_cases (w : Wal) (some_ : 0 < w.nFrames) :
    ((w.dev.writeAt w.curOff w.span).1 ≠ Err.kSuccess ∧
      w.writeOutWindow = (Err.kWalWriteFailed, w.on (w.dev.writeAt w.curOff w.span).2)) ∨
    ((w.dev.writeAt w.curOff w.span).1 = Err.kSuccess ∧
      w.writeOutWindow = (Err.kSuccess, (w.on (w.dev.writeAt w.curOff w.span).2).advanceAfterWrite)) := by
  obtain ⟨state, ⟨done, code⟩ | ⟨failed, code⟩⟩ := span_called w
  · refine .inr ⟨done, ?_⟩
    have both : w.writeWindowSpan = (Err.kSuccess, w.on (w.dev.writeAt w.curOff w.span).2) := Prod.ext code state
    simp only [Wal.writeOutWindow, if_neg (Nat.ne_of_gt some_), both, ne_eq, not_true_eq_false, if_false]
  · refine .inl ⟨failed, ?_⟩
    have both : w.writeWindowSpan = (Err.kWalWriteFailed, w.on (w.dev.writeAt w.curOff w.span).2) := Prod.ext code state
    have bad : Err.kWalWriteFailed ≠ Err.kSuccess := by decide
    simp only [Wal.writeOutWindow, if_neg (Nat.ne_of_gt some_), both, ne_eq, bad, not_false_eq_true, if_true]

theorem lined_flush (w : Wal) (level : WalLevel) (lined : Lined w) : Lined (w.flush level).2 := by
  unfold Wal.flush
  split
  · exact lined
  · split
    · exact lined
    · split
      · exact lined
      · have state := (span_called w).1
        generalize w.writeWindowSpan = out at state
        obtain ⟨rc, w1⟩ := out
        simp only at state ⊢
        subst state
        split
        · exact lined_on w _ lined
        · split
          · exact lined_on w _ lined
          · exact (lined_advance _ (lined_on w _ lined)).1

theorem admission_unfolds (w : Wal) : w.admission =
    if w.reopened.windowBytes = 0 then ⟨Err.kWalFull, false, w.reopened⟩
    else if w.reopened.nFrames * kWalFrameSize ≥ w.reopened.windowBytes then
      match w.reopened.writeOutWindow with
      | (rc, w1) =>
        if rc ≠ Err.kSuccess then ⟨rc, false, w1⟩
        else if w1.windowBytes = 0 then ⟨Err.kWalFull, true, w1⟩
        else ⟨Err.kSuccess, true, w1⟩
    else ⟨Err.kSuccess, false, w.reopened⟩ := rfl

theorem reclaim_lined (w : Wal) (boundary : Nat) (lined : Lined w) : Lined (w.reclaimUpTo boundary).2 := by
  unfold Wal.reclaimUpTo
  dsimp only
  split
  · rename_i legal
    obtain ⟨_, _, aligned, low, high, _⟩ := legal
    exact ⟨lined.buffer, lined.whole, lined.cur, ⟨aligned, low, high⟩, lined.window, lined.room, lined.frames⟩
  · exact lined

end Cabe
