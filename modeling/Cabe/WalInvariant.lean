import Cabe.WalWindow

set_option autoImplicit false

namespace Cabe

open Storage

-- An image differs from the durable one by padding and unsynced frames only.
def Newer (g : Ring) (entries : List WalEntry) (synced written : Nat) (stable img : Image) : Prop :=
  ∀ p < g.slots, slotBytes img p = slotBytes stable p ∨ slotBytes img p = zeros 128 ∨
    ∃ v, synced ≤ v ∧ v < written ∧ v % g.slots = p ∧ slotBytes img p = frameAt entries v

-- What a medium holds: every version has the synced frames, and the durable
-- content has no other ones.
structure MediumOk (g : Ring) (h : History) (synced written : Nat) (m : Medium) : Prop where
  every : ∀ img ∈ m.versions, RingOk g h synced written img
  durable : RingOk g h synced synced m.stable
  newer : ∀ img ∈ m.versions, Newer g h.entries synced written m.stable img

theorem newer_refl (g : Ring) (entries : List WalEntry) (synced written : Nat) (img : Image) : Newer g entries synced written img img :=
  fun _ _ => .inl rfl

theorem newer_mono (g : Ring) (entries : List WalEntry) (synced written written' : Nat) (stable img : Image) (more : written ≤ written')
    (newer : Newer g entries synced written stable img) : Newer g entries synced written' stable img := by
  intro p bound
  rcases newer p bound with same | empty | ⟨v, lower, upper, frame⟩
  · exact .inl same
  · exact .inr (.inl empty)
  · exact .inr (.inr ⟨v, lower, by omega, frame⟩)

theorem newer_append (g : Ring) (entries more : List WalEntry) (synced written : Nat) (stable img : Image)
    (listed : written ≤ entries.length) (newer : Newer g entries synced written stable img) :
    Newer g (entries ++ more) synced written stable img := by
  intro p bound
  rcases newer p bound with same | empty | ⟨v, lower, upper, slot, frame⟩
  · exact .inl same
  · exact .inr (.inl empty)
  · exact .inr (.inr ⟨v, lower, upper, slot, by rw [frame, frame_at_append _ _ _ (by omega)]⟩)

theorem newer_mix (g : Ring) (entries : List WalEntry) (synced written : Nat) (stable : Image) (versions : List Image) (img : Image)
    (mix : Mix kSectorSize versions img) (every : ∀ v ∈ versions, Newer g entries synced written stable v) :
    Newer g entries synced written stable img := by
  intro p bound
  obtain ⟨v, member, same⟩ := mix_read kSectorSize versions img mix (8192 + 128 * p) 128 (slot_in_sector p)
  have ok := every v member p bound
  rwa [slotBytes, ← same] at ok

-- A window adds frames behind the synced ones, beside those it writes again.
theorem newer_write (g : Ring) (h : History) (stable img : Image) (b count k synced written : Nat)
    (fits : b % g.blocks + k ≤ g.blocks) (few : count ≤ 32 * k) (base : h.lo ≤ 32 * b) (upTo : 32 * b + count ≤ written)
    (durable : RingOk g h synced synced stable) (newer : Newer g h.entries synced written stable img) :
    Newer g h.entries synced written stable (write img (g.blockOff b) (windowBuf h.entries (32 * b) count (4096 * k))) := by
  intro p bound
  rcases window_write_slot g img h.entries b count k p fits few bound with ⟨v, lower, _, slot, bytes⟩ | ⟨_, bytes⟩
  · rw [bytes]
    by_cases new : v < 32 * b + count
    · rw [if_pos new]
      by_cases old : v < synced
      · exact .inl ((durable p bound).holds v (by omega) old slot).symm
      · exact .inr (.inr ⟨v, by omega, by omega, slot, rfl⟩)
    · exact .inr (.inl (if_neg new))
  · rw [bytes]
    exact newer p bound

-- The ring as a run sees it. Blocks and frames are virtual numbers; win is the
-- open window in blocks, and frames below visible are on the medium.
structure WalView extends History where
  head : Nat
  cur : Nat
  win : Nat
  visible : Nat
  synced : Nat

-- The window WindowAt opens at block cur when the live region starts at head.
def Ring.openWin (g : Ring) (bufBlocks head cur : Nat) : Nat :=
  min bufBlocks (min (g.toSeam cur) (g.blocks - 1 - (cur - head)))

structure WalInv (g : Ring) (bufBlocks : Nat) (v : WalView) (w : Wal) : Prop where
  bufPos : 0 < bufBlocks
  bufRoom : bufBlocks + 1 ≤ g.blocks
  opened : w.dev.isOpen = true
  sized : 8192 + g.bytes ≤ w.dev.sizeBytes
  ring : walRingSize w.dev.sizeBytes = g.bytes
  bufSize : w.bufSize = 4096 * bufBlocks
  ringStart : w.ringStart = 8192
  ringEnd : w.ringEnd = 8192 + g.bytes
  seqNext : w.seqNext = v.entries.length + 1
  curOff : w.curOff = g.blockOff v.cur
  headOff : w.headOff = g.blockOff v.head
  window : w.windowBytes = 4096 * v.win
  count : 32 * v.cur + w.nFrames = v.entries.length
  buffer : w.curBuf = some (windowBuf v.entries (32 * v.cur) w.nFrames (4096 * bufBlocks))
  headCur : v.head ≤ v.cur
  winBuf : v.win ≤ bufBlocks
  winSeam : v.win ≤ g.toSeam v.cur
  winRoom : v.cur + v.win + 1 ≤ v.head + g.blocks
  framesFit : w.nFrames ≤ 32 * v.win
  loHead : 32 * v.head ≤ v.lo + 32
  loCur : v.lo ≤ 32 * v.cur
  visibleCur : 32 * v.cur ≤ v.visible
  visibleAll : v.visible ≤ v.entries.length
  syncedVisible : v.synced ≤ v.visible
  shortKeys : ∀ e ∈ v.entries, e.key.length ≤ kWalKeyMax
  current : RingOk g v.toHistory v.visible v.entries.length w.dev.medium.cur
  medium : MediumOk g v.toHistory v.synced v.entries.length w.dev.medium

theorem wal_live_room (g : Ring) (bufBlocks : Nat) (v : WalView) (w : Wal) (inv : WalInv g bufBlocks v w) :
    v.cur - v.head < g.blocks := by
  have room := inv.winRoom
  have ordered := inv.headCur
  omega

theorem window_at_open (g : Ring) (bufBlocks : Nat) (w : Wal) (head cur : Nat) (ordered : head ≤ cur)
    (near : cur - head < g.blocks) (bufSize : w.bufSize = 4096 * bufBlocks) (ringStart : w.ringStart = 8192)
    (ringEnd : w.ringEnd = 8192 + g.bytes) (headOff : w.headOff = g.blockOff head) :
    w.windowAt (g.blockOff cur) = 4096 * g.openWin bufBlocks head cur := by
  have live : (g.blockOff cur + g.bytes - g.blockOff head) % g.bytes = 4096 * (cur - head) := by
    rw [g.block_distance head cur ordered, Nat.mod_eq_of_lt near]
  have seam := g.seam_off cur
  have size : g.bytes = 4096 * g.blocks := rfl
  unfold Wal.windowAt Ring.openWin
  simp only [ringStart, ringEnd, Nat.add_sub_cancel_left, headOff, live, seam, bufSize, kWalBlockSize]
  split <;> omega

theorem medium_ok_mono (g : Ring) (h : History) (synced written written' : Nat) (m : Medium) (more : written ≤ written')
    (ok : MediumOk g h synced written m) : MediumOk g h synced written' m :=
  ⟨fun img member => ring_ok_mono g h synced synced written written' img (Nat.le_refl _) more (ok.every img member),
    ok.durable, fun img member => newer_mono g _ _ _ _ _ _ more (ok.newer img member)⟩

theorem medium_ok_append (g : Ring) (h : History) (more : List WalEntry) (synced written : Nat) (m : Medium)
    (syncedIn : synced ≤ h.entries.length) (writtenIn : written ≤ h.entries.length) (ok : MediumOk g h synced written m) :
    MediumOk g { h with entries := h.entries ++ more } synced written m :=
  ⟨fun img member => ring_ok_append g h more synced written img syncedIn writtenIn (ok.every img member),
    ring_ok_append g h more synced synced m.stable syncedIn syncedIn ok.durable,
    fun img member => newer_append g _ _ _ _ _ _ writtenIn (ok.newer img member)⟩

theorem medium_ok_put (g : Ring) (h : History) (synced written : Nat) (m : Medium) (img : Image)
    (ok : MediumOk g h synced written m) (new : RingOk g h synced written img) (newer : Newer g h.entries synced written m.stable img) :
    MediumOk g h synced written (m.put img) := by
  refine ⟨?_, ?_, ?_⟩
  · intro old member
    rw [medium_versions_put, List.mem_cons] at member
    rcases member with rfl | member
    · exact new
    · exact ok.every old member
  · rw [medium_stable_put]
    exact ok.durable
  · intro old member
    rw [medium_stable_put]
    rw [medium_versions_put, List.mem_cons] at member
    rcases member with rfl | member
    · exact newer
    · exact ok.newer old member

theorem medium_ok_flush (g : Ring) (h : History) (written : Nat) (m : Medium) (ok : RingOk g h written written m.cur) :
    MediumOk g h written written m.flush := by
  refine ⟨?_, ?_, ?_⟩
  · intro img member
    rw [medium_versions_flush, List.mem_singleton] at member
    exact member ▸ ok
  · rw [medium_stable_flush]
    exact ok
  · intro img member
    rw [medium_versions_flush, List.mem_singleton] at member
    rw [medium_stable_flush, member]
    exact newer_refl g _ _ _ _

theorem medium_ok_still (g : Ring) (h : History) (synced : Nat) (m : Medium) (clean : m.unsynced = [])
    (ok : RingOk g h synced synced m.cur) : MediumOk g h synced synced m := by
  have stable : m.stable = m.cur := by rw [Medium.stable, clean]; rfl
  have only (img : Image) (member : img ∈ m.versions) : img = m.cur := by simpa [Medium.versions, clean] using member
  refine ⟨fun img member => (only img member) ▸ ok, by rw [stable]; exact ok, fun img member => ?_⟩
  rw [only img member, stable]
  exact newer_refl g _ _ _ _

-- An image that power loss may leave has everything the versions share.
theorem medium_ok_survives (g : Ring) (h : History) (synced written : Nat) (m : Medium) (img : Image)
    (ok : MediumOk g h synced written m) (alive : m.Survives kSectorSize img) : RingOk g h synced written img :=
  ring_ok_mix g h synced written m.versions img alive ok.every

theorem reopen_inv (g : Ring) (bufBlocks : Nat) (v : WalView) (w : Wal) (inv : WalInv g bufBlocks v w) :
    WalInv g bufBlocks { v with win := g.openWin bufBlocks v.head v.cur } { w with windowBytes := w.windowAt w.curOff } := by
  have near := wal_live_room g bufBlocks v w inv
  have opens := window_at_open g bufBlocks w v.head v.cur inv.headCur near inv.bufSize inv.ringStart inv.ringEnd inv.headOff
  have wider : v.win ≤ g.openWin bufBlocks v.head v.cur := by
    have := inv.winBuf
    have := inv.winSeam
    have := inv.winRoom
    have := inv.headCur
    unfold Ring.openWin
    omega
  have room : v.cur + g.openWin bufBlocks v.head v.cur + 1 ≤ v.head + g.blocks := by
    have := inv.headCur
    unfold Ring.openWin
    omega
  have frames := inv.framesFit
  exact { inv with
    window := by rw [inv.curOff]; exact opens
    winBuf := Nat.min_le_left _ _
    winSeam := Nat.le_trans (Nat.min_le_right _ _) (Nat.min_le_left _ _)
    winRoom := room
    framesFit := by show w.nFrames ≤ 32 * g.openWin bufBlocks v.head v.cur; omega }

theorem append_inv (g : Ring) (bufBlocks : Nat) (v : WalView) (w : Wal) (e : WalEntry) (inv : WalInv g bufBlocks v w)
    (short : e.key.length ≤ kWalKeyMax) (space : w.nFrames < 32 * v.win) :
    ∃ next, w.append e = (Err.kSuccess, next) ∧ next.dev = w.dev ∧ next.nFrames = w.nFrames + 1 ∧
      next.windowBytes = w.windowBytes ∧ WalInv g bufBlocks { v with entries := v.entries ++ [e] } next := by
  have fits : 128 * (w.nFrames + 1) ≤ 4096 * bufBlocks := by
    have := inv.winBuf
    omega
  have buffer := memcpy_window v.entries e (32 * v.cur) w.nFrames (4096 * bufBlocks) inv.count fits
  have visible := inv.visibleAll
  have synced := inv.syncedVisible
  have count := inv.count
  refine ⟨{ w with
    seqNext := w.seqNext + 1
    curBuf := some (windowBuf (v.entries ++ [e]) (32 * v.cur) (w.nFrames + 1) (4096 * bufBlocks))
    nFrames := w.nFrames + 1 }, ?_, rfl, rfl, rfl, ?_⟩
  · simp only [Wal.append, inv.buffer, inv.seqNext, kWalFrameSize, buffer]
  exact { inv with
    seqNext := by simp [inv.seqNext]
    count := by simp; omega
    buffer := rfl
    framesFit := space
    visibleAll := by simp; omega
    shortKeys := by
      intro entry member
      rcases List.mem_append.mp member with old | new
      · exact inv.shortKeys entry old
      · exact (List.mem_singleton.mp new) ▸ short
    current := ring_ok_mono g _ _ _ _ _ _ (Nat.le_refl _) (by simp)
      (ring_ok_append g v.toHistory [e] _ _ _ visible (Nat.le_refl _) inv.current)
    medium := medium_ok_mono g _ _ _ _ _ (by simp)
      (medium_ok_append g v.toHistory [e] _ _ _ (Nat.le_trans synced visible) (Nat.le_refl _) inv.medium) }

-- The ring once the whole window has been written out.
def spanImage (g : Ring) (v : WalView) (w : Wal) : Image :=
  write w.dev.medium.cur (g.blockOff v.cur)
    (windowBuf v.entries (32 * v.cur) w.nFrames (4096 * ((w.nFrames + 31) / 32)))

-- The same when only the sectors in the mask reached the device.
def tornImage (g : Ring) (v : WalView) (w : Wal) (mask : Nat → Bool) : Image :=
  writeSome kSectorSize w.dev.medium.cur (g.blockOff v.cur)
    (windowBuf v.entries (32 * v.cur) w.nFrames (4096 * ((w.nFrames + 31) / 32))) mask

theorem span_image_newer (g : Ring) (bufBlocks : Nat) (v : WalView) (w : Wal) (inv : WalInv g bufBlocks v w) :
    Newer g v.entries v.synced v.entries.length w.dev.medium.stable (spanImage g v w) := by
  have frames := inv.framesFit
  have seam := inv.winSeam
  have bound := g.block_lt v.cur
  unfold Ring.toSeam at seam
  exact newer_write g v.toHistory w.dev.medium.stable w.dev.medium.cur v.cur w.nFrames ((w.nFrames + 31) / 32) v.synced v.entries.length
    (by omega) (by omega) inv.loCur (Nat.le_of_eq inv.count) inv.medium.durable (inv.medium.newer _ (medium_cur_mem _))

theorem span_image_ok (g : Ring) (bufBlocks : Nat) (v : WalView) (w : Wal) (inv : WalInv g bufBlocks v w) :
    RingOk g v.toHistory v.entries.length v.entries.length (spanImage g v w) := by
  have frames := inv.framesFit
  have room := inv.winRoom
  have lo := inv.loHead
  have seam := inv.winSeam
  have bound := g.block_lt v.cur
  have size : g.slots = 32 * g.blocks := rfl
  unfold Ring.toSeam at seam
  have ok := ring_ok_write g v.toHistory w.dev.medium.cur v.cur w.nFrames ((w.nFrames + 31) / 32) v.visible
    v.entries.length (by omega) (by omega) (by omega) inv.loCur inv.visibleCur (Nat.le_of_eq inv.count) inv.current
  rw [inv.count] at ok
  exact ok

theorem span_laid (g : Ring) (bufBlocks : Nat) (v : WalView) (w : Wal) (inv : WalInv g bufBlocks v w) (base : Image)
    (laid : Laid g v.entries base v.visible w.dev.medium.cur) : Laid g v.entries base v.entries.length (spanImage g v w) := by
  have frames := inv.framesFit
  have seam := inv.winSeam
  have bound := g.block_lt v.cur
  have visible := inv.visibleAll
  have count := inv.count
  unfold Ring.toSeam at seam
  have written := laid_write g v.entries base w.dev.medium.cur v.cur w.nFrames ((w.nFrames + 31) / 32) v.visible (by omega) rfl
    inv.visibleCur (by omega) laid
  rw [count] at written
  exact written

-- A WriteAt of whole blocks from some block on, with the frames whose slots
-- they hold: it ends at the seam or before, and one block before the head stays
-- free.
def SpanWrite (g : Ring) (entries : List WalEntry) (head tail : Nat) (offset : Nat) (buf : Bytes) : Prop :=
  ∃ b count, offset = g.blockOff b ∧ buf = windowBuf entries (32 * b) count (4096 * ((count + 31) / 32)) ∧
    32 * b + count ≤ entries.length ∧ b % g.blocks + (count + 31) / 32 ≤ g.blocks ∧ head ≤ b ∧
    tail ≤ b ∧ b + (count + 31) / 32 + 1 ≤ head + g.blocks

theorem span_write_later (g : Ring) (entries more : List WalEntry) (head tail tail' offset : Nat) (buf : Bytes)
    (earlier : tail ≤ tail') (span : SpanWrite g entries head tail' offset buf) : SpanWrite g (entries ++ more) head tail offset buf := by
  obtain ⟨b, count, off, data, bound, seam, ahead, behind, room⟩ := span
  refine ⟨b, count, off, ?_, ?_, seam, ahead, Nat.le_trans earlier behind, room⟩
  · rw [data, windowBuf, windowBuf, frames_from_append _ _ _ _ bound]
  · rw [List.length_append]
    omega

theorem span_data (g : Ring) (bufBlocks : Nat) (v : WalView) (w : Wal) (inv : WalInv g bufBlocks v w) :
    (w.curBuf.getD []).take (alignUp (w.nFrames * kWalFrameSize) kWalBlockSize) =
      windowBuf v.entries (32 * v.cur) w.nFrames (4096 * ((w.nFrames + 31) / 32)) := by
  have frames := inv.framesFit
  have buf := inv.winBuf
  have bytes : alignUp (w.nFrames * kWalFrameSize) kWalBlockSize = 4096 * ((w.nFrames + 31) / 32) := by
    unfold alignUp kWalFrameSize kWalBlockSize
    omega
  rw [bytes, inv.buffer, Option.getD_some, window_buf_take _ _ _ _ _ (by omega) (by omega)]

theorem span_driven (g : Ring) (bufBlocks : Nat) (v : WalView) (w : Wal) (inv : WalInv g bufBlocks v w) :
    Driven w.dev w.writeWindowSpan.2.dev (SpanWrite g v.entries v.head v.cur) := by
  have called : w.writeWindowSpan.2.dev = (w.dev.writeAt w.curOff
      ((w.curBuf.getD []).take (alignUp (w.nFrames * kWalFrameSize) kWalBlockSize))).2 := rfl
  have frames := inv.framesFit
  have seam := inv.winSeam
  have room := inv.winRoom
  have bound := g.block_lt v.cur
  unfold Ring.toSeam at seam
  rw [called]
  exact driven_write _ _ _ _ ⟨v.cur, w.nFrames, inv.curOff, span_data g bufBlocks v w inv, Nat.le_of_eq inv.count, by omega, inv.headCur,
    Nat.le_refl _, by omega⟩

-- The two things a window write can do, each with the ring it leaves.
theorem write_span_cases (g : Ring) (bufBlocks : Nat) (v : WalView) (w : Wal) (inv : WalInv g bufBlocks v w) :
    (w.dev.outcome = .ok ∧
      w.writeWindowSpan = (Err.kSuccess, { w with dev := w.dev.record (w.dev.medium.put (spanImage g v w)) }) ∧
      WalInv g bufBlocks { v with visible := v.entries.length }
        { w with dev := w.dev.record (w.dev.medium.put (spanImage g v w)) }) ∨
    (∃ mask, w.dev.outcome = .fail mask ∧
      w.writeWindowSpan = (Err.kWalWriteFailed, { w with dev := w.dev.record (w.dev.medium.put (tornImage g v w mask)) }) ∧
      WalInv g bufBlocks v { w with dev := w.dev.record (w.dev.medium.put (tornImage g v w mask)) }) := by
  have frames := inv.framesFit
  have buf := inv.winBuf
  have seam := inv.winSeam
  have data := span_data g bufBlocks v w inv
  have fits : g.blockOff v.cur + (windowBuf v.entries (32 * v.cur) w.nFrames (4096 * ((w.nFrames + 31) / 32))).length ≤
      w.dev.sizeBytes := by
    have reach := g.seam_off v.cur
    have low := g.block_off_bounds v.cur
    have sized := inv.sized
    rw [window_buf_length _ _ _ _ (by omega)]
    omega
  have written := span_image_ok g bufBlocks v w inv
  have newer := span_image_newer g bufBlocks v w inv
  have visible := inv.visibleAll
  have synced := inv.syncedVisible
  rcases write_at_cases w.dev (g.blockOff v.cur) _ inv.opened fits with ⟨outcome, done⟩ | ⟨mask, outcome, done⟩
  · refine .inl ⟨outcome, ?_, ?_⟩
    · unfold Wal.writeWindowSpan
      simp only [data, inv.curOff, done]
      rfl
    · exact { inv with
        visibleCur := Nat.le_trans inv.visibleCur visible
        visibleAll := Nat.le_refl _
        syncedVisible := Nat.le_trans synced visible
        current := written
        medium := medium_ok_put g _ _ _ _ _ inv.medium
          (ring_ok_mono g _ _ _ _ _ _ (Nat.le_trans synced visible) (Nat.le_refl _) written) newer }
  · have mixed : RingOk g v.toHistory v.visible v.entries.length (tornImage g v w mask) := by
      refine ring_ok_mix g _ _ _ _ _ (write_some_mix _ _ _ _ mask) ?_
      intro img member
      simp only [List.mem_cons, List.not_mem_nil, or_false] at member
      rcases member with rfl | rfl
      · exact ring_ok_mono g _ _ _ _ _ _ visible (Nat.le_refl _) written
      · exact inv.current
    have mixedNewer : Newer g v.entries v.synced v.entries.length w.dev.medium.stable (tornImage g v w mask) := by
      refine newer_mix g _ _ _ _ _ _ (write_some_mix _ _ _ _ mask) ?_
      intro img member
      simp only [List.mem_cons, List.not_mem_nil, or_false] at member
      rcases member with rfl | rfl
      · exact newer
      · exact inv.medium.newer _ (medium_cur_mem _)
    refine .inr ⟨mask, outcome, ?_, ?_⟩
    · unfold Wal.writeWindowSpan
      simp only [data, inv.curOff, done]
      rfl
    · exact { inv with
        current := mixed
        medium := medium_ok_put g _ _ _ _ _ inv.medium (ring_ok_mono g _ _ _ _ _ _ synced (Nat.le_refl _) mixed)
          mixedNewer }

-- A sync that succeeds comes after the whole window has been written.
theorem wal_sync_cases (g : Ring) (bufBlocks : Nat) (v : WalView) (w : Wal) (inv : WalInv g bufBlocks v w)
    (written : v.visible = v.entries.length) :
    (w.dev.outcome = .ok ∧ w.dev.sync = (Err.kSuccess, w.dev.record w.dev.medium.flush) ∧
      WalInv g bufBlocks { v with synced := v.entries.length } { w with dev := w.dev.record w.dev.medium.flush }) ∨
    (∃ mask, w.dev.outcome = .fail mask ∧ w.dev.sync = (Err.kIoBase, w.dev.record w.dev.medium) ∧
      WalInv g bufBlocks v { w with dev := w.dev.record w.dev.medium }) := by
  have current := inv.current
  rw [written] at current
  rcases sync_cases w.dev inv.opened with ⟨outcome, done⟩ | ⟨mask, outcome, done⟩
  · refine .inl ⟨outcome, done, ?_⟩
    exact { inv with
      syncedVisible := Nat.le_of_eq written.symm
      medium := medium_ok_flush g _ _ _ current }
  · exact .inr ⟨mask, outcome, done, { inv with }⟩

def WalView.advanced (v : WalView) (g : Ring) (bufBlocks frames : Nat) : WalView :=
  { v with cur := v.cur + frames / 32, win := g.openWin bufBlocks v.head (v.cur + frames / 32) }

theorem advance_dev (w : Wal) : w.advanceAfterWrite.dev = w.dev := by
  unfold Wal.advanceAfterWrite
  dsimp only
  split <;> rfl

theorem advance_keeps (w : Wal) : w.advanceAfterWrite.bufSize = w.bufSize ∧ w.advanceAfterWrite.ringStart = w.ringStart ∧
    w.advanceAfterWrite.ringEnd = w.ringEnd ∧ w.advanceAfterWrite.headOff = w.headOff ∧
    w.advanceAfterWrite.seqNext = w.seqNext := by
  unfold Wal.advanceAfterWrite
  dsimp only
  split <;> exact ⟨rfl, rfl, rfl, rfl, rfl⟩

theorem advance_window (w : Wal) : w.advanceAfterWrite.windowBytes = w.advanceAfterWrite.windowAt w.advanceAfterWrite.curOff :=
  rfl

theorem advance_frames (w : Wal) : w.advanceAfterWrite.nFrames = w.nFrames % 32 := by
  unfold Wal.advanceAfterWrite
  dsimp only
  unfold kWalFrameSize kWalBlockSize
  omega

theorem advance_inv (g : Ring) (bufBlocks : Nat) (v : WalView) (w : Wal) (inv : WalInv g bufBlocks v w)
    (written : v.visible = v.entries.length) :
    WalInv g bufBlocks (v.advanced g bufBlocks w.nFrames) w.advanceAfterWrite := by
  have frames := inv.framesFit
  have winBuf := inv.winBuf
  have room := inv.winRoom
  have ordered := inv.headCur
  have count := inv.count
  have seamFits : w.nFrames / 32 ≤ g.toSeam v.cur := by
    have := inv.winSeam
    omega
  have near : v.cur + w.nFrames / 32 - v.head < g.blocks := by omega
  have moved := g.block_off_add v.cur (w.nFrames / 32) seamFits
  obtain ⟨bufSize, ringStart, ringEnd, headOff, seqNext⟩ := advance_keeps w
  have used : w.nFrames * kWalFrameSize % kWalBlockSize = w.nFrames % 32 * 128 := by
    unfold kWalFrameSize kWalBlockSize
    omega
  have ahead : w.nFrames * kWalFrameSize - w.nFrames % 32 * 128 = w.nFrames / 32 * 4096 := by
    unfold kWalFrameSize
    omega
  have off : w.advanceAfterWrite.curOff = g.blockOff (v.cur + w.nFrames / 32) := by
    unfold Wal.advanceAfterWrite
    simp only [used, ahead]
    by_cases whole : w.nFrames / 32 * 4096 > 0
    · simp only [if_pos whole, moved, inv.curOff, inv.ringEnd, inv.ringStart, Nat.mul_comm 4096]
    · rw [if_neg whole, inv.curOff, show w.nFrames / 32 = 0 by omega, Nat.add_zero]
  have buffer : w.advanceAfterWrite.curBuf =
      some (windowBuf v.entries (32 * (v.cur + w.nFrames / 32)) (w.nFrames % 32) (4096 * bufBlocks)) := by
    unfold Wal.advanceAfterWrite
    simp only [used, ahead]
    by_cases whole : w.nFrames / 32 * 4096 > 0
    · rw [if_pos whole]
      by_cases half : w.nFrames % 32 * 128 > 0
      · have shifted := memmove_window v.entries (32 * v.cur) (32 * (w.nFrames / 32)) (w.nFrames % 32) (4096 * bufBlocks) (by omega)
        simp only [if_pos half, inv.buffer, Option.getD_some]
        rw [show 32 * (w.nFrames / 32) + w.nFrames % 32 = w.nFrames by omega,
          show 32 * (w.nFrames / 32) * 128 = w.nFrames / 32 * 4096 by omega] at shifted
        rw [shifted, Nat.mul_add]
      · have none_ : w.nFrames % 32 = 0 := by omega
        have cleared := memset_window v.entries (32 * v.cur) w.nFrames 0 (4096 * bufBlocks) (by omega) (by omega)
        rw [none_, Nat.zero_mul] at half ⊢
        rw [Nat.zero_mul] at cleared
        simp only [if_neg half, inv.buffer, Option.getD_some]
        rw [cleared, window_buf_empty, window_buf_empty]
    · rw [if_neg whole]
      have same : w.nFrames % 32 = w.nFrames := by omega
      have cleared := memset_window v.entries (32 * v.cur) w.nFrames w.nFrames (4096 * bufBlocks) (by omega) (by omega)
      simp only [same, inv.buffer, Option.getD_some]
      rw [cleared, show w.nFrames / 32 = 0 by omega, Nat.add_zero]
  have dev := advance_dev w
  have left := advance_frames w
  have opens := window_at_open g bufBlocks w.advanceAfterWrite v.head (v.cur + w.nFrames / 32) (by omega) near
    (bufSize.trans inv.bufSize) (ringStart.trans inv.ringStart) (ringEnd.trans inv.ringEnd) (headOff.trans inv.headOff)
  have room' : v.cur + w.nFrames / 32 + g.openWin bufBlocks v.head (v.cur + w.nFrames / 32) + 1 ≤ v.head + g.blocks := by
    unfold Ring.openWin
    omega
  have framesFit : w.nFrames % 32 ≤ 32 * g.openWin bufBlocks v.head (v.cur + w.nFrames / 32) := by
    have bufPos := inv.bufPos
    have seamPos := g.to_seam_pos (v.cur + w.nFrames / 32)
    unfold Ring.openWin
    omega
  exact {
    bufPos := inv.bufPos
    bufRoom := inv.bufRoom
    opened := by rw [dev]; exact inv.opened
    sized := by rw [dev]; exact inv.sized
    ring := by rw [dev]; exact inv.ring
    bufSize := bufSize.trans inv.bufSize
    ringStart := ringStart.trans inv.ringStart
    ringEnd := ringEnd.trans inv.ringEnd
    seqNext := seqNext.trans inv.seqNext
    curOff := off
    headOff := headOff.trans inv.headOff
    window := by rw [advance_window, off]; exact opens
    count := by rw [left]; show 32 * (v.cur + w.nFrames / 32) + w.nFrames % 32 = v.entries.length; omega
    buffer := by rw [left]; exact buffer
    headCur := by show v.head ≤ v.cur + w.nFrames / 32; omega
    winBuf := Nat.min_le_left _ _
    winSeam := Nat.le_trans (Nat.min_le_right _ _) (Nat.min_le_left _ _)
    winRoom := room'
    framesFit := by rw [left]; exact framesFit
    loHead := inv.loHead
    loCur := Nat.le_trans inv.loCur (Nat.mul_le_mul_left 32 (Nat.le_add_right _ _))
    visibleCur := by show 32 * (v.cur + w.nFrames / 32) ≤ v.visible; omega
    visibleAll := inv.visibleAll
    syncedVisible := inv.syncedVisible
    shortKeys := inv.shortKeys
    current := by rw [dev]; exact inv.current
    medium := by rw [dev]; exact inv.medium }

-- One view comes from another by accepting these entries.
structure WalView.Grows (v next : WalView) (more : List WalEntry) : Prop where
  prior : next.prior = v.prior
  entries : next.entries = v.entries ++ more
  gone : next.gone = v.gone
  lo : next.lo = v.lo
  head : next.head = v.head
  cur : v.cur ≤ next.cur
  visible : v.visible ≤ next.visible
  synced : v.synced ≤ next.synced

theorem grows_refl (v : WalView) : v.Grows v [] :=
  ⟨rfl, (List.append_nil _).symm, rfl, rfl, rfl, Nat.le_refl _, Nat.le_refl _, Nat.le_refl _⟩

theorem grows_trans (a b c : WalView) (x y : List WalEntry) (first : a.Grows b x) (second : b.Grows c y) :
    a.Grows c (x ++ y) :=
  ⟨second.prior.trans first.prior, by rw [second.entries, first.entries, List.append_assoc], second.gone.trans first.gone,
    second.lo.trans first.lo, second.head.trans first.head, Nat.le_trans first.cur second.cur,
    Nat.le_trans first.visible second.visible, Nat.le_trans first.synced second.synced⟩

theorem grows_advanced (g : Ring) (bufBlocks : Nat) (v : WalView) (frames : Nat) : v.Grows (v.advanced g bufBlocks frames) [] :=
  ⟨rfl, (List.append_nil _).symm, rfl, rfl, rfl, Nat.le_add_right _ _, Nat.le_refl _, Nat.le_refl _⟩

theorem grows_history (v next : WalView) (more : List WalEntry) (grown : v.Grows next more) :
    next.toHistory = { v.toHistory with entries := v.entries ++ more } := by
  obtain ⟨prior, entries, gone, lo, _, _, _, _⟩ := grown
  cases v with
  | mk history head cur win visible synced =>
      cases next with
      | mk later head' cur' win' visible' synced' =>
          cases history
          cases later
          simp_all

-- Where a run can lose power, up to these entries and with these frames synced.
def Seen (g : Ring) (v next : WalView) (m : Medium) : Prop :=
  ∃ synced written, v.synced ≤ synced ∧ synced ≤ next.synced ∧ written ≤ next.entries.length ∧
    MediumOk g next.toHistory synced written m

theorem seen_grows (g : Ring) (a b c : WalView) (more : List WalEntry) (m : Medium) (visible : b.synced ≤ b.entries.length)
    (grown : b.Grows c more) (seen : Seen g a b m) : Seen g a c m := by
  obtain ⟨synced, written, lower, upper, bound, ok⟩ := seen
  refine ⟨synced, written, lower, Nat.le_trans upper grown.synced, ?_, ?_⟩
  · rw [grown.entries, List.length_append]
    omega
  · rw [grows_history b c more grown]
    exact medium_ok_append g b.toHistory more synced written m (by omega) bound ok

theorem seen_earlier (g : Ring) (a b c : WalView) (m : Medium) (earlier : a.synced ≤ b.synced) (seen : Seen g b c m) :
    Seen g a c m := by
  obtain ⟨synced, written, lower, rest⟩ := seen
  exact ⟨synced, written, Nat.le_trans earlier lower, rest⟩

-- The state after a call that the device may have failed.
structure WalStep (g : Ring) (bufBlocks : Nat) (v : WalView) (w : Wal) (more : List WalEntry) (next : WalView) (after : Wal) :
    Prop where
  inv : WalInv g bufBlocks next after
  grown : v.Grows next more
  traced : Traced w.dev after.dev (Seen g v next)
  driven : Driven w.dev after.dev (SpanWrite g next.entries next.head v.cur)
  laid : w.dev.Healthy → ∀ base, Laid g v.entries base v.visible w.dev.medium.cur → Laid g next.entries base next.visible after.dev.medium.cur

theorem wal_step_refl (g : Ring) (bufBlocks : Nat) (v : WalView) (w : Wal) (inv : WalInv g bufBlocks v w) :
    WalStep g bufBlocks v w [] v w := ⟨inv, grows_refl v, traced_refl _ _, driven_refl _ _, fun _ _ laid => laid⟩

theorem wal_synced_bound (g : Ring) (bufBlocks : Nat) (v : WalView) (w : Wal) (inv : WalInv g bufBlocks v w) :
    v.synced ≤ v.entries.length := Nat.le_trans inv.syncedVisible inv.visibleAll

theorem wal_step_trans (g : Ring) (bufBlocks : Nat) (a b c : WalView) (w x y : Wal) (more rest : List WalEntry)
    (first : WalStep g bufBlocks a w more b x) (second : WalStep g bufBlocks b x rest c y) :
    WalStep g bufBlocks a w (more ++ rest) c y := by
  refine ⟨second.inv, grows_trans a b c more rest first.grown second.grown, traced_trans w.dev x.dev y.dev _ ?_ ?_,
    driven_trans w.dev x.dev y.dev _ ?_ ?_,
    fun healthy base laid => second.laid (driven_healthy _ _ _ first.driven healthy) base (first.laid healthy base laid)⟩
  · exact traced_mono _ _ _ _ (fun m => seen_grows g a b c rest m (wal_synced_bound g bufBlocks b x first.inv) second.grown)
      first.traced
  · exact traced_mono _ _ _ _ (fun m => seen_earlier g a b c m first.grown.synced) second.traced
  · refine driven_mono _ _ _ _ (fun offset buf span => ?_) first.driven
    rw [second.grown.entries, second.grown.head]
    exact span_write_later g b.entries rest b.head a.cur a.cur offset buf (Nat.le_refl _) span
  · refine driven_mono _ _ _ _ (fun offset buf span => ?_) second.driven
    rw [← List.append_nil c.entries]
    exact span_write_later g c.entries [] c.head a.cur b.cur offset buf first.grown.cur span

theorem wal_medium_seen (g : Ring) (bufBlocks : Nat) (v next : WalView) (w : Wal) (inv : WalInv g bufBlocks next w)
    (earlier : v.synced ≤ next.synced) : Seen g v next w.dev.medium :=
  ⟨next.synced, next.entries.length, earlier, Nat.le_refl _, Nat.le_refl _, inv.medium⟩

-- Giving back the blocks before b, and with them what their frames were kept for.
def WalView.reclaimed (v : WalView) (b : Nat) : WalView :=
  { v with head := b, lo := max v.lo (32 * b - 32), gone := max v.gone (max v.lo (32 * b - 32)) }

theorem reclaim_inv (g : Ring) (bufBlocks : Nat) (v : WalView) (w : Wal) (b : Nat) (inv : WalInv g bufBlocks v w)
    (ahead : v.head ≤ b) (behind : b ≤ v.cur) :
    w.reclaimUpTo (g.blockOff b) = (Err.kSuccess, { w with headOff := g.blockOff b }) ∧
      WalInv g bufBlocks (v.reclaimed b) { w with headOff := g.blockOff b } := by
  have near := wal_live_room g bufBlocks v w inv
  have room := inv.winRoom
  have bounds := g.block_off_bounds b
  have pos := g.blocks_pos
  have size : g.bytes = 4096 * g.blocks := rfl
  have toBoundary := g.block_distance v.head b ahead
  have toTail := g.block_distance v.head v.cur inv.headCur
  rw [Nat.mod_eq_of_lt (show b - v.head < g.blocks by omega)] at toBoundary
  rw [Nat.mod_eq_of_lt near] at toTail
  have raised := ring_ok_raise g v.toHistory (max v.lo (32 * b - 32))
  refine ⟨?_, ?_⟩
  · unfold Wal.reclaimUpTo
    simp only [inv.ringEnd, inv.ringStart, Nat.add_sub_cancel_left, inv.headOff, inv.curOff, toBoundary, toTail, inv.buffer,
      kWalBlockSize]
    rw [if_pos ⟨rfl, by omega, g.block_off_aligned b, bounds.1, by omega, by omega⟩]
  · exact { inv with
      headOff := rfl
      headCur := behind
      winRoom := by
        show v.cur + v.win + 1 ≤ b + g.blocks
        omega
      loHead := by
        show 32 * b ≤ max v.lo (32 * b - 32) + 32
        omega
      loCur := by
        have old := inv.loCur
        show max v.lo (32 * b - 32) ≤ 32 * v.cur
        omega
      current := raised _ _ _ (Nat.le_max_left _ _) inv.current
      medium := ⟨fun img member => raised _ _ _ (Nat.le_max_left _ _) (inv.medium.every img member),
        raised _ _ _ (Nat.le_max_left _ _) inv.medium.durable, inv.medium.newer⟩ }

end Cabe
