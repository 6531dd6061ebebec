import Cabe.WalGenerations

set_option autoImplicit false

namespace Cabe

open Storage

-- What callers do to an open log, at any level and in any order. A group is one
-- batch of the commit group, whose keys were checked before they were queued.
inductive WalOp where
  | write (level : WalLevel) (e : WalEntry)
  | group (batch : List WalEntry)
  | flush (level : WalLevel)
  | reclaim (boundary : Nat)

def Wal.perform (w : Wal) : WalOp → Wal
  | .write level e => (w.writeWal level e).2
  | .group batch => (w.processBatch (batch.filter fun e => e.key.length ≤ kWalKeyMax)).2
  | .flush level => (w.flush level).2
  | .reclaim boundary => (w.reclaimUpTo boundary).2

def Wal.performAll (w : Wal) (ops : List WalOp) : Wal := ops.foldl Wal.perform w

-- A WriteAt that puts frames where their numbers say, each with the bytes of the
-- entry that got the number, pads the last block with zeros and ends in the ring.
structure LawfulWrite (ringStart ringEnd : Nat) (entries : List WalEntry) (offset : Nat) (buf : Bytes) : Prop where
  inside : ringStart ≤ offset ∧ offset + buf.length ≤ ringEnd
  aligned : offset % kWalBlockSize = 0 ∧ buf.length % kWalBlockSize = 0
  frames : ∃ first count, 0 < first ∧ first + count ≤ entries.length + 1 ∧ count * kWalFrameSize ≤ buf.length ∧
    (∀ i < count, offset + i * kWalFrameSize = ringStart + (first + i - 1) * kWalFrameSize % (ringEnd - ringStart) ∧
      ∃ e, entries[first + i - 1]? = some e ∧ slice buf (i * kWalFrameSize) kWalFrameSize = (encodeFrame e (first + i)).toBytes) ∧
    ∀ i, count ≤ i → i * kWalFrameSize + kWalFrameSize ≤ buf.length →
      slice buf (i * kWalFrameSize) kWalFrameSize = zeros kWalFrameSize

structure PositionLaw (w : Wal) : Prop where
  tail : w.curOff + 128 * w.nFrames ≡ w.ringStart + 128 * (w.seqNext - 1) [MOD w.ringEnd - w.ringStart]
  cur : w.curOff % kWalBlockSize = 0 ∧ w.ringStart ≤ w.curOff ∧ w.curOff < w.ringEnd
  head : w.headOff % kWalBlockSize = 0 ∧ w.ringStart ≤ w.headOff ∧ w.headOff < w.ringEnd
  buffer : ∃ buf, w.curBuf = some buf ∧ buf.length = w.bufSize
  fits : 128 * w.nFrames ≤ w.bufSize
  seam : w.curOff + alignUp (128 * w.nFrames) kWalBlockSize ≤ w.ringEnd
  window : 0 < w.nFrames → 128 * w.nFrames ≤ w.windowBytes

theorem wal_position (g : Ring) (bufBlocks : Nat) (v : WalView) (w : Wal) (inv : WalInv g bufBlocks v w) : PositionLaw w := by
  have curBounds := g.block_off_bounds v.cur
  have headBounds := g.block_off_bounds v.head
  have frames := inv.framesFit
  have winBuf := inv.winBuf
  have winSeam := inv.winSeam
  have bufSize := inv.bufSize
  have window := inv.window
  have reach := g.seam_off v.cur
  have ringEnd := inv.ringEnd
  have curOff := inv.curOff
  have size : g.bytes = 4096 * g.blocks := rfl
  refine ⟨?_, ?_, ?_, ⟨_, inv.buffer, ?_⟩, by omega, ?_, fun _ => by omega⟩
  · have count := inv.count
    have total : 128 * (w.seqNext - 1) = 4096 * v.cur + 128 * w.nFrames := by
      rw [inv.seqNext]
      omega
    rw [inv.curOff, inv.ringStart, inv.ringEnd, Nat.add_sub_cancel_left, total, Ring.blockOff, ← Nat.add_assoc]
    refine Nat.ModEq.add_right _ (Nat.ModEq.add_left _ ?_)
    rw [size]
    exact Nat.ModEq.mul_left' 4096 (Nat.mod_modEq v.cur g.blocks)
  · rw [inv.curOff, inv.ringStart, inv.ringEnd]
    exact ⟨g.block_off_aligned v.cur, curBounds.1, by omega⟩
  · rw [inv.headOff, inv.ringStart, inv.ringEnd]
    exact ⟨g.block_off_aligned v.head, headBounds.1, by omega⟩
  · rw [window_buf_length _ _ _ _ (by omega), bufSize]
  · unfold alignUp kWalBlockSize
    omega

theorem span_lawful (g : Ring) (entries : List WalEntry) (head tail offset : Nat) (buf : Bytes)
    (span : SpanWrite g entries head tail offset buf) : LawfulWrite 8192 (8192 + g.bytes) entries offset buf := by
  obtain ⟨b, count, rfl, rfl, listed, seam, _⟩ := span
  have length := window_buf_length entries (32 * b) count (4096 * ((count + 31) / 32)) (by omega)
  have bounds := g.block_off_bounds b
  have size : g.bytes = 4096 * g.blocks := rfl
  have slots : g.bytes = g.slots * 128 := by
    rw [size, Ring.slots]
    omega
  refine ⟨⟨bounds.1, ?_⟩, ⟨g.block_off_aligned b, ?_⟩, 32 * b + 1, count, by omega, by omega, ?_, fun i bound => ⟨?_, ?_⟩, fun i above within => ?_⟩
  · rw [length, Ring.blockOff, size]
    omega
  · rw [length, kWalBlockSize]
    omega
  · rw [length, kWalFrameSize]
    omega
  · have run := g.slot_run b i (by rw [Ring.slots]; omega)
    rw [Nat.add_sub_cancel_left, slots, kWalFrameSize, show 32 * b + 1 + i - 1 = 32 * b + i by omega, Nat.mul_mod_mul_right, run,
      Ring.blockOff]
    omega
  · have found : entries[32 * b + i]? = some entries[32 * b + i] := List.getElem?_eq_getElem (by omega)
    refine ⟨entries[32 * b + i], by rw [show 32 * b + 1 + i - 1 = 32 * b + i by omega]; exact found, ?_⟩
    rw [kWalFrameSize, Nat.mul_comm i 128, window_buf_frame _ _ _ _ _ bound, frame_at_entry _ _ _ found,
      show 32 * b + 1 + i = 32 * b + i + 1 by omega]
  · rw [length] at within
    unfold kWalFrameSize at within ⊢
    rw [Nat.mul_comm i 128, window_buf_padding _ _ _ _ _ above (by omega)]

-- A boundary the log takes back is a block between its head and its tail.
theorem reclaim_boundary (g : Ring) (bufBlocks : Nat) (v : WalView) (w : Wal) (boundary : Nat) (inv : WalInv g bufBlocks v w) :
    (w.reclaimUpTo boundary).2 = w ∨ ∃ b, v.head ≤ b ∧ b ≤ v.cur ∧ boundary = g.blockOff b := by
  by_cases legal : w.curBuf.isSome ∧ w.ringEnd - w.ringStart ≠ 0 ∧ boundary % kWalBlockSize = 0 ∧ w.ringStart ≤ boundary ∧ boundary < w.ringEnd ∧
      (boundary + (w.ringEnd - w.ringStart) - w.headOff) % (w.ringEnd - w.ringStart) ≤
        (w.curOff + (w.ringEnd - w.ringStart) - w.headOff) % (w.ringEnd - w.ringStart)
  · obtain ⟨_, _, aligned, low, high, order⟩ := legal
    rw [inv.ringStart] at low
    rw [inv.ringEnd, Ring.bytes] at high
    rw [kWalBlockSize] at aligned
    have near := wal_live_room g bufBlocks v w inv
    have block : (boundary - 8192) / 4096 < g.blocks := by omega
    have slot := lap_position_slot g.blocks v.head ((boundary - 8192) / 4096) block
    obtain ⟨lower, upper⟩ := lap_position_near g.blocks v.head ((boundary - 8192) / 4096) g.blocks_pos
    generalize lapPosition g.blocks v.head ((boundary - 8192) / 4096) = b at slot lower upper
    have off : boundary = g.blockOff b := by
      rw [Ring.blockOff, slot]
      omega
    have toBoundary := g.block_distance v.head b lower
    have toTail := g.block_distance v.head v.cur inv.headCur
    rw [inv.ringStart, inv.ringEnd, Nat.add_sub_cancel_left, inv.headOff, inv.curOff, off, toBoundary, toTail, Nat.mod_eq_of_lt near,
      Nat.mod_eq_of_lt (show b - v.head < g.blocks by omega)] at order
    have ordered := inv.headCur
    exact .inr ⟨b, lower, by omega, off⟩
  · left
    unfold Wal.reclaimUpTo
    dsimp only
    rw [if_neg legal]

theorem lawful_append (ringStart ringEnd : Nat) (entries more : List WalEntry) (offset : Nat) (buf : Bytes)
    (lawful : LawfulWrite ringStart ringEnd entries offset buf) : LawfulWrite ringStart ringEnd (entries ++ more) offset buf := by
  obtain ⟨first, count, pos, listed, whole, frames, padding⟩ := lawful.frames
  refine ⟨lawful.inside, lawful.aligned, first, count, pos, by rw [List.length_append]; omega, whole, fun i bound => ?_, padding⟩
  obtain ⟨place, e, found, bytes⟩ := frames i bound
  exact ⟨place, e, by rw [List.getElem?_append_left (by omega)]; exact found, bytes⟩

-- What one operation leaves, whichever of its device calls fail.
theorem perform_step (g : Ring) (bufBlocks : Nat) (v : WalView) (w : Wal) (op : WalOp) (inv : WalInv g bufBlocks v w) :
    ∃ next more, WalInv g bufBlocks next (w.perform op) ∧ next.entries = v.entries ++ more ∧
      Driven w.dev (w.perform op).dev (LawfulWrite 8192 (8192 + g.bytes) next.entries) := by
  have lawful (w' : Wal) (more : List WalEntry) (next : WalView) (step : WalStep g bufBlocks v w more next w') :
      ∃ next more, WalInv g bufBlocks next w' ∧ next.entries = v.entries ++ more ∧
        Driven w.dev w'.dev (LawfulWrite 8192 (8192 + g.bytes) next.entries) :=
    ⟨next, more, step.inv, step.grown.entries, driven_mono _ _ _ _ (fun offset buf span => span_lawful g _ _ _ offset buf span) step.driven⟩
  cases op with
  | write level e =>
      by_cases short : e.key.length ≤ kWalKeyMax
      · cases sync : isWalSyncLevel level with
        | true =>
            obtain ⟨rc, next, after, more, done, step, _⟩ := write_sync_step g bufBlocks v w level e inv short sync
            have same : w.perform (.write level e) = after := congrArg Prod.snd done
            rw [same]
            exact lawful after more next step
        | false =>
            obtain ⟨rc, next, after, more, done, step, _⟩ := write_batched_step g bufBlocks v w level e inv short sync
            have same : w.perform (.write level e) = after := congrArg Prod.snd done
            rw [same]
            exact lawful after more next step
      · have same : w.perform (.write level e) = w := by
          show (w.writeWal level e).2 = w
          unfold Wal.writeWal
          rw [if_pos (by omega)]
        rw [same]
        exact lawful w [] v (wal_step_refl g bufBlocks v w inv)
  | group batch =>
      obtain ⟨rc, suffix, next, after, more, rest, _, done, step, _⟩ :=
        process_batch_step g bufBlocks v w (batch.filter fun e => e.key.length ≤ kWalKeyMax) inv
          (fun e member => by simpa using (List.mem_filter.mp member).2)
      have same : w.perform (.group batch) = after := congrArg Prod.snd done
      rw [same]
      exact lawful after more next step
  | flush level =>
      obtain ⟨rc, next, after, done, step, _⟩ := flush_step g bufBlocks v w level inv
      have same : w.perform (.flush level) = after := congrArg Prod.snd done
      rw [same]
      exact lawful after [] next step
  | reclaim boundary =>
      rcases reclaim_boundary g bufBlocks v w boundary inv with same | ⟨b, ahead, behind, rfl⟩
      · have same' : w.perform (.reclaim boundary) = w := same
        rw [same']
        exact lawful w [] v (wal_step_refl g bufBlocks v w inv)
      · obtain ⟨done, kept⟩ := reclaim_inv g bufBlocks v w b inv ahead behind
        have same : w.perform (.reclaim (g.blockOff b)) = { w with headOff := g.blockOff b } := congrArg Prod.snd done
        rw [same]
        exact ⟨_, [], kept, (List.append_nil _).symm, driven_refl _ _⟩

theorem perform_run (g : Ring) (bufBlocks : Nat) (ops : List WalOp) : ∀ (v : WalView) (w : Wal), WalInv g bufBlocks v w →
    ∃ next more, WalInv g bufBlocks next (w.performAll ops) ∧ next.entries = v.entries ++ more ∧
      Driven w.dev (w.performAll ops).dev (LawfulWrite 8192 (8192 + g.bytes) next.entries) := by
  induction ops with
  | nil => exact fun v w inv => ⟨v, [], inv, (List.append_nil _).symm, driven_refl _ _⟩
  | cons op ops ih =>
      intro v w inv
      obtain ⟨mid, more, kept, grown, driven⟩ := perform_step g bufBlocks v w op inv
      obtain ⟨next, rest, last, grown', driven'⟩ := ih mid _ kept
      refine ⟨next, more ++ rest, last, by rw [grown', grown, List.append_assoc], driven_trans _ _ _ _ ?_ driven'⟩
      refine driven_mono _ _ _ _ (fun offset buf lawful => ?_) driven
      rw [grown']
      exact lawful_append _ _ _ rest offset buf lawful

-- A log whose buffer size wrapped to zero never moves.
theorem stuck_perform (w : Wal) (stuck : StuckWal w) (op : WalOp) : w.perform op = w := by
  cases op with
  | write level e => exact (stuck_write w stuck level e).2
  | group batch =>
      show (w.processBatch (batch.filter fun e => e.key.length ≤ kWalKeyMax)).2 = w
      rw [stuck_group w stuck]
  | flush level => exact congrArg Prod.snd (stuck_flush w stuck level)
  | reclaim boundary =>
      show (w.reclaimUpTo boundary).2 = w
      unfold Wal.reclaimUpTo
      dsimp only
      split
      · rename_i legal
        obtain ⟨_, _, _, low, high, order⟩ := legal
        rw [stuck.start] at low order
        rw [stuck.headOff, stuck.curOff, show 8192 + (w.ringEnd - 8192) - 8192 = w.ringEnd - 8192 by omega, Nat.mod_self,
          show boundary + (w.ringEnd - 8192) - 8192 = boundary - 8192 + (w.ringEnd - 8192) by omega, Nat.add_mod_right,
          Nat.mod_eq_of_lt (by omega)] at order
        have same : boundary = w.headOff := by
          rw [stuck.headOff]
          omega
        rw [same]
      · rfl

theorem stuck_perform_run (w : Wal) (stuck : StuckWal w) (ops : List WalOp) : w.performAll ops = w := by
  induction ops with
  | nil => rfl
  | cons op ops ih =>
      show (w.perform op).performAll ops = w
      rw [stuck_perform w stuck op]
      exact ih

theorem stuck_position (dev : RawDevice) (opts : Options) (w : Wal) (opened : JustOpened dev opts w) (stuck : StuckWal w) :
    PositionLaw w := by
  have enough := opened.enough
  have ringEnd := opened.ringEnd
  rw [stuck.bufSize, kWalBlockSize] at enough
  refine ⟨?_, ?_, ?_, ⟨[], stuck.buffer, stuck.bufSize.symm⟩, ?_, ?_, fun some_ => ?_⟩
  · rw [stuck.curOff, stuck.start, stuck.nFrames, stuck.seqNext]
  · rw [stuck.curOff, stuck.start, ringEnd]
    exact ⟨rfl, Nat.le_refl _, by omega⟩
  · rw [stuck.headOff, stuck.start, ringEnd]
    exact ⟨rfl, Nat.le_refl _, by omega⟩
  · rw [stuck.nFrames]
    exact Nat.zero_le _
  · rw [stuck.curOff, stuck.nFrames, ringEnd]
    unfold alignUp kWalBlockSize
    omega
  · rw [stuck.nFrames] at some_
    cases some_

-- On a created ring of any size, at mixed levels and with failing calls, every
-- frame is only ever written where its number says and with the same bytes.
theorem position_law (dev : RawDevice) (opts : Options) (w : Wal) (ops : List WalOp) (create : opts.create = true)
    (opened : (Wal.unopened dev).openWal opts = (Err.kSuccess, w)) (allocated : Allocated w) (durable : dev.medium.unsynced = []) :
    PositionLaw (w.performAll ops) ∧ ∃ entries : List WalEntry, (w.performAll ops).seqNext = entries.length + 1 ∧
      Driven w.dev (w.performAll ops).dev (LawfulWrite w.ringStart w.ringEnd entries) := by
  have just := open_wal_success dev opts w opened
  by_cases empty : w.bufSize = 0
  · have stuck := stuck_open dev opts w just create empty
    rw [stuck_perform_run w stuck ops]
    exact ⟨stuck_position dev opts w just stuck, [], stuck.seqNext, driven_refl _ _⟩
  · obtain ⟨g, bufBlocks, accepts⟩ := open_accepts dev opts w just allocated (by omega)
    have inv := create_inv g bufBlocks dev opts w accepts just create durable
    obtain ⟨next, more, kept, _, driven⟩ := perform_run g bufBlocks ops _ w inv
    rw [inv.ringStart, inv.ringEnd]
    exact ⟨wal_position g bufBlocks next _ kept, next.entries, kept.seqNext, driven⟩

-- A device of two ring blocks whose first write fails.
def failingDevice : RawDevice := { blankDevice 2 with outcomes := [.fail fun _ => false] }

theorem position_law_failing : ∃ w, (Wal.unopened failingDevice).openWal (plainOptions true 1) = (Err.kSuccess, w) ∧
    PositionLaw (w.performAll [.write .strict (plainEntry 1), .flush .valueSync, .reclaim 8192]) ∧
    ∃ entries : List WalEntry,
      (w.performAll [.write .strict (plainEntry 1), .flush .valueSync, .reclaim 8192]).seqNext = entries.length + 1 ∧
      Driven w.dev (w.performAll [.write .strict (plainEntry 1), .flush .valueSync, .reclaim 8192]).dev
        (LawfulWrite w.ringStart w.ringEnd entries) := by
  obtain ⟨w, opened, size⟩ := plain_open failingDevice true 1 rfl (by decide) (by decide) (by decide)
  exact ⟨w, opened, position_law failingDevice (plainOptions true 1) w _ rfl opened (by unfold Allocated; omega) rfl⟩

end Cabe
