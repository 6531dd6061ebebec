import Cabe.WalReplay
import Cabe.WalInvariant

set_option autoImplicit false

namespace Cabe

open Storage

-- The log as recovery leaves it when it has delivered the frames up to stop.
def recoveredWal (g : Ring) (bufBlocks : Nat) (entries : List WalEntry) (covered stop : Nat) (w : Wal) (dev : RawDevice) : Wal :=
  { w with
    dev := dev
    curBuf := some (windowBuf entries (32 * (stop / 32)) (stop % 32) (4096 * bufBlocks))
    curOff := g.blockOff (stop / 32)
    nFrames := stop % 32
    headOff := g.blockOff (covered / 32)
    seqNext := stop + 1
    windowBytes := 4096 * g.openWin bufBlocks (covered / 32) (stop / 32) }

theorem place_tail_spec (g : Ring) (bufBlocks : Nat) (w : Wal) (ready : Readable g bufBlocks w) (c : RecoverCensus) (stop : Nat)
    (pos : 0 < stop) :
    w.placeTail c (g.slotOff (stop - 1)) stop =
      { w with
        curBuf := some (zeros w.bufSize)
        curOff := g.blockOff (stop / 32)
        nFrames := stop % 32
        headOff := if c.liveCount > 0 then blockFloor c.minLiveOff else g.blockOff (stop / 32)
        seqNext := stop + 1 } := by
  have parts := g.slot_off_parts (stop - 1)
  have frames : (g.slotOff (stop - 1) - g.blockOff ((stop - 1) / 32)) / kWalFrameSize + 1 = (stop - 1) % 32 + 1 := by
    rw [parts, kWalFrameSize]
    omega
  unfold Wal.placeTail
  simp only [g.block_floor_slot, frames, kWalFramesPerBlock, kWalBlockSize, ready.ringEnd, ready.ringStart]
  by_cases full : (stop - 1) % 32 + 1 = 32
  · have next := g.block_off_add ((stop - 1) / 32) 1 (g.to_seam_pos _)
    rw [show (stop - 1) / 32 + 1 = stop / 32 by omega, Nat.mul_one] at next
    have count : stop % 32 = 0 := by omega
    simp only [if_pos full, ← next, count]
  · have same : (stop - 1) / 32 = stop / 32 := by omega
    have count : (stop - 1) % 32 + 1 = stop % 32 := by omega
    have part : ¬ stop % 32 = 32 := by omega
    simp only [same, count, if_neg part]

-- The image once the zone behind the stop is cleared, and the one after the
-- tail block has been written back.
def clearedImage (g : Ring) (bufBlocks : Nat) (entries : List WalEntry) (stop : Nat) (img : Image) : Image :=
  let skip := if stop % 32 > 0 then 1 else 0
  let zone := min bufBlocks (g.toSeam (stop / 32))
  if skip < zone then
    write img (g.blockOff (stop / 32 + skip)) (windowBuf entries (32 * (stop / 32 + skip)) 0 (4096 * (zone - skip)))
  else img

def erasedImage (g : Ring) (bufBlocks : Nat) (entries : List WalEntry) (stop : Nat) (img : Image) : Image :=
  if stop % 32 > 0 then
    write (clearedImage g bufBlocks entries stop img) (g.blockOff (stop / 32))
      (windowBuf entries (32 * (stop / 32)) (stop % 32) (4096 * 1))
  else clearedImage g bufBlocks entries stop img

theorem cleared_slot (g : Ring) (bufBlocks : Nat) (entries : List WalEntry) (stop : Nat) (img : Image) (p : Nat)
    (bound : p < g.slots) :
    (∃ v, 32 * ((stop + 31) / 32) ≤ v ∧ v < 32 * (stop / 32 + min bufBlocks (g.toSeam (stop / 32))) ∧ v % g.slots = p ∧
      slotBytes (clearedImage g bufBlocks entries stop img) p = zeros 128) ∨
    ((∀ v, 32 * ((stop + 31) / 32) ≤ v → v < 32 * (stop / 32 + min bufBlocks (g.toSeam (stop / 32))) → v % g.slots ≠ p) ∧
      slotBytes (clearedImage g bufBlocks entries stop img) p = slotBytes img p) := by
  have seam := g.to_seam_pos (stop / 32)
  have low := g.block_lt (stop / 32)
  unfold clearedImage
  dsimp only
  by_cases some_ : (if stop % 32 > 0 then 1 else 0) < min bufBlocks (g.toSeam (stop / 32))
  · rw [if_pos some_]
    generalize skipEq : (if stop % 32 > 0 then 1 else 0) = skip at some_ ⊢
    have first : (stop + 31) / 32 = stop / 32 + skip := by
      split at skipEq <;> omega
    have fits : (stop / 32 + skip) % g.blocks + (min bufBlocks (g.toSeam (stop / 32)) - skip) ≤ g.blocks := by
      have rest := g.to_seam_add (stop / 32) skip (by omega)
      have inside := g.block_lt (stop / 32 + skip)
      unfold Ring.toSeam at rest some_ ⊢
      omega
    rcases window_write_slot g img entries (stop / 32 + skip) 0 (min bufBlocks (g.toSeam (stop / 32)) - skip) p fits (by omega) bound with
      ⟨v, lower, upper, slot, bytes⟩ | ⟨apart, bytes⟩
    · rw [if_neg (by omega)] at bytes
      exact .inl ⟨v, by omega, by omega, slot, bytes⟩
    · exact .inr ⟨fun v lower upper => apart v (by omega) (by omega), bytes⟩
  · rw [if_neg some_]
    refine .inr ⟨fun v lower upper => ?_, rfl⟩
    split at some_ <;> omega

-- Every slot of the zone holds its frame up to the stop and zeros behind it.
theorem erased_slot (g : Ring) (bufBlocks : Nat) (entries : List WalEntry) (stop : Nat) (img : Image) (p : Nat)
    (pos : 0 < bufBlocks) (bound : p < g.slots) :
    (∃ v, 32 * (stop / 32) ≤ v ∧ v < 32 * (stop / 32 + min bufBlocks (g.toSeam (stop / 32))) ∧ v % g.slots = p ∧
      slotBytes (erasedImage g bufBlocks entries stop img) p = if v < stop then frameAt entries v else zeros 128) ∨
    ((∀ v, 32 * (stop / 32) ≤ v → v < 32 * (stop / 32 + min bufBlocks (g.toSeam (stop / 32))) → v % g.slots ≠ p) ∧
      slotBytes (erasedImage g bufBlocks entries stop img) p = slotBytes img p) := by
  have seam := g.to_seam_pos (stop / 32)
  have low := g.block_lt (stop / 32)
  have cleared := cleared_slot g bufBlocks entries stop img p bound
  unfold erasedImage
  by_cases half : stop % 32 > 0
  · rw [if_pos half]
    rcases window_write_slot g (clearedImage g bufBlocks entries stop img) entries (stop / 32) (stop % 32) 1 p (by omega) (by omega) bound with
      ⟨v, lower, upper, slot, bytes⟩ | ⟨apart, bytes⟩
    · rw [show 32 * (stop / 32) + stop % 32 = stop by omega] at bytes
      exact .inl ⟨v, lower, by omega, slot, bytes⟩
    · rw [bytes]
      rcases cleared with ⟨v, lower, upper, slot, zero⟩ | ⟨other, same⟩
      · exact .inl ⟨v, by omega, upper, slot, by rw [zero, if_neg (by omega)]⟩
      · refine .inr ⟨fun v lower upper slot => ?_, same⟩
        by_cases tail : v < 32 * (stop / 32 + 1)
        · exact apart v lower tail slot
        · exact other v (by omega) upper slot
  · rw [if_neg half]
    have whole : 32 * ((stop + 31) / 32) = 32 * (stop / 32) := by omega
    rw [whole] at cleared
    rcases cleared with ⟨v, lower, upper, slot, zero⟩ | ⟨other, same⟩
    · exact .inl ⟨v, lower, upper, slot, by rw [zero, if_neg (by omega)]⟩
    · exact .inr ⟨other, same⟩

-- An image some of whose slots are already as the erasure leaves them.
def Blend (g : Ring) (old new img : Image) : Prop :=
  ∀ p < g.slots, slotBytes img p = slotBytes old p ∨ slotBytes img p = slotBytes new p

theorem blend_old (g : Ring) (old new : Image) : Blend g old new old := fun _ _ => .inl rfl

theorem blend_new (g : Ring) (old new : Image) : Blend g old new new := fun _ _ => .inr rfl

theorem blend_mix (g : Ring) (old new : Image) (versions : List Image) (img : Image) (mix : Mix kSectorSize versions img)
    (every : ∀ v ∈ versions, Blend g old new v) : Blend g old new img := by
  intro p bound
  obtain ⟨v, member, same⟩ := mix_read kSectorSize versions img mix (8192 + 128 * p) 128 (slot_in_sector p)
  have blend := every v member p bound
  rwa [slotBytes, ← same] at blend

theorem blend_cleared (g : Ring) (bufBlocks : Nat) (entries : List WalEntry) (stop : Nat) (img : Image)
    (near : 32 * (stop / 32 + min bufBlocks (g.toSeam (stop / 32))) ≤ 32 * (stop / 32) + g.slots) :
    Blend g img (erasedImage g bufBlocks entries stop img) (clearedImage g bufBlocks entries stop img) := by
  intro p bound
  have seam := g.to_seam_pos (stop / 32)
  have low := g.block_lt (stop / 32)
  rcases cleared_slot g bufBlocks entries stop img p bound with ⟨v, lower, upper, slot, zero⟩ | ⟨_, same⟩
  · refine .inr ?_
    unfold erasedImage
    by_cases half : stop % 32 > 0
    · rw [if_pos half]
      rcases window_write_slot g (clearedImage g bufBlocks entries stop img) entries (stop / 32) (stop % 32) 1 p (by omega) (by omega) bound with
        ⟨u, lower', upper', slot', _⟩ | ⟨_, bytes⟩
      · have equal := g.same_slot u v (by omega) (by omega) (slot'.trans slot.symm)
        omega
      · rw [bytes]
    · rw [if_neg half]
  · exact .inl same

-- A device that has made some calls, all of whose media blend these two images.
structure Erasing (g : Ring) (old new : Image) (before after : RawDevice) : Prop where
  healthy : after.Healthy
  size : after.sizeBytes = before.sizeBytes
  versions : ∀ img ∈ after.medium.versions, Blend g old new img
  traced : Traced before after fun m => ∀ img ∈ m.versions, Blend g old new img

theorem erasing_refl (g : Ring) (new : Image) (d : RawDevice) (healthy : d.Healthy) (clean : d.medium.unsynced = []) :
    Erasing g d.medium.cur new d d := by
  refine ⟨healthy, rfl, ?_, traced_refl _ _⟩
  intro img member
  have same : img = d.medium.cur := by simpa [Medium.versions, clean] using member
  exact same ▸ blend_old g d.medium.cur new

theorem erasing_write (g : Ring) (old new : Image) (before d : RawDevice) (off : Nat) (bytes : Bytes)
    (erasing : Erasing g old new before d) (fits : off + bytes.length ≤ d.sizeBytes)
    (blend : Blend g old new (write d.medium.cur off bytes)) :
    ∃ next, d.writeAt off bytes = (Err.kSuccess, next) ∧ next.medium.cur = write d.medium.cur off bytes ∧
      Erasing g old new before next := by
  have every : ∀ img ∈ (d.medium.put (write d.medium.cur off bytes)).versions, Blend g old new img := by
    intro img member
    rw [medium_versions_put, List.mem_cons] at member
    rcases member with rfl | member
    · exact blend
    · exact erasing.versions img member
  refine ⟨_, healthy_write d off bytes erasing.healthy fits, rfl, healthy_record _ _ erasing.healthy, erasing.size, every, ?_⟩
  exact traced_trans _ _ _ _ erasing.traced (traced_record d _ _ every)

theorem erase_zone_spec (g : Ring) (bufBlocks : Nat) (entries : List WalEntry) (stop fragments : Nat) (w : Wal) (old : Image)
    (before : RawDevice) (ready : Readable g bufBlocks w) (some_ : 0 < fragments)
    (buffer : w.curBuf = some (zeros w.bufSize)) (curOff : w.curOff = g.blockOff (stop / 32)) (nFrames : w.nFrames = stop % 32)
    (erasing : Erasing g old (erasedImage g bufBlocks entries stop w.dev.medium.cur) before w.dev)
    (blend : Blend g old (erasedImage g bufBlocks entries stop w.dev.medium.cur)
      (clearedImage g bufBlocks entries stop w.dev.medium.cur)) :
    ∃ dev, w.eraseZone fragments (g.slotOff stop) = (Err.kSuccess, { w with dev := dev }) ∧
      dev.medium.cur = clearedImage g bufBlocks entries stop w.dev.medium.cur ∧
      Erasing g old (erasedImage g bufBlocks entries stop w.dev.medium.cur) before dev := by
  have seam := g.seam_off (stop / 32)
  have seamPos := g.to_seam_pos (stop / 32)
  have bounds := g.block_off_bounds (stop / 32)
  have bufPos := ready.bufPos
  have sized := ready.sized
  have zone : zoneEnd (g.slotOff stop) w.bufSize w.ringEnd = g.blockOff (stop / 32) + 4096 * min bufBlocks (g.toSeam (stop / 32)) := by
    rw [zoneEnd, g.block_floor_slot, ready.bufSize, ready.ringEnd]
    omega
  have start : (if w.nFrames > 0 then w.curOff + kWalBlockSize else w.curOff) =
      g.blockOff (stop / 32) + 4096 * (if stop % 32 > 0 then 1 else 0) := by
    rw [nFrames, curOff, kWalBlockSize]
    split <;> rfl
  unfold Wal.eraseZone
  rw [if_pos some_, zone, start]
  unfold clearedImage at blend ⊢
  dsimp only at blend ⊢
  generalize skipEq : (if stop % 32 > 0 then 1 else 0) = skip at blend ⊢
  by_cases more : skip < min bufBlocks (g.toSeam (stop / 32))
  · rw [if_pos more] at blend ⊢
    have off := g.block_off_add (stop / 32) skip (by omega)
    rw [if_neg (by omega)] at off
    have len : min w.bufSize (g.blockOff (stop / 32) + 4096 * min bufBlocks (g.toSeam (stop / 32)) -
        (g.blockOff (stop / 32) + 4096 * skip)) = 4096 * (min bufBlocks (g.toSeam (stop / 32)) - skip) := by
      rw [ready.bufSize]
      omega
    have data : (w.curBuf.getD []).take (4096 * (min bufBlocks (g.toSeam (stop / 32)) - skip)) =
        windowBuf entries (32 * (stop / 32 + skip)) 0 (4096 * (min bufBlocks (g.toSeam (stop / 32)) - skip)) := by
      rw [window_buf_empty, buffer, Option.getD_some, ready.bufSize, zeros, zeros, List.take_replicate, Nat.min_eq_left (by omega)]
    obtain ⟨next, done, cur, kept⟩ := erasing_write g old _ before w.dev _ _ erasing
      (by rw [window_buf_length _ _ _ _ (by omega), off]; omega) blend
    rw [off] at done
    rw [Wal.eraseFrom, if_pos (by omega)]
    simp only [len, data, done]
    rw [if_neg (by simp), if_pos (by omega), Wal.eraseFrom, if_neg (by omega)]
    exact ⟨next, rfl, cur, kept⟩
  · rw [if_neg more, Wal.eraseFrom, if_neg (by omega)]
    exact ⟨w.dev, rfl, rfl, erasing⟩

theorem tail_read (g : Ring) (entries : List WalEntry) (img : Image) (b count : Nat) (few : count ≤ 32)
    (held : ∀ v, 32 * b ≤ v → v < 32 * b + count → slotBytes img (v % g.slots) = frameAt entries v) :
    read img (g.blockOff b) (128 * count) = framesFrom entries (32 * b) count := by
  induction count with
  | zero => simp [Storage.read, framesFrom]
  | succ count ih =>
      have low := g.block_lt b
      have slot := g.slot_run b count (by rw [Ring.slots]; omega)
      have last := held (32 * b + count) (by omega) (by omega)
      rw [slot, slotBytes, show 8192 + 128 * (32 * (b % g.blocks) + count) = g.blockOff b + 128 * count by rw [Ring.blockOff]; omega] at last
      rw [frames_from_succ, ← ih (by omega) (fun v lower upper => held v lower (by omega)), ← last, ← read_append]
      rfl

theorem refill_buffer (g : Ring) (bufBlocks : Nat) (entries : List WalEntry) (img : Image) (b count : Nat) (few : count ≤ 32)
    (pos : 0 < bufBlocks)
    (held : ∀ v, 32 * b ≤ v → v < 32 * b + count → slotBytes img (v % g.slots) = frameAt entries v) :
    memsetZero (memcpy (zeros (4096 * bufBlocks)) 0 (read img (g.blockOff b) kWalBlockSize)) (count * kWalFrameSize) =
      windowBuf entries (32 * b) count (4096 * bufBlocks) := by
  have frames := tail_read g entries img b count few held
  have front : (memcpy (zeros (4096 * bufBlocks)) 0 (read img (g.blockOff b) 4096)).take (count * 128) =
      framesFrom entries (32 * b) count := by
    rw [memcpy, List.take_zero, List.nil_append, List.take_append_of_le_length (by simp; omega), read_take _ _ _ _ (by omega),
      Nat.mul_comm count, frames]
  have total : (memcpy (zeros (4096 * bufBlocks)) 0 (read img (g.blockOff b) 4096)).length = 4096 * bufBlocks := by
    simp only [memcpy, List.take_zero, List.nil_append, List.length_append, read_length, List.length_drop, zeros_length]
    omega
  rw [memsetZero, kWalBlockSize, kWalFrameSize, front, total, windowBuf, Nat.mul_comm count]

theorem refill_spec (g : Ring) (bufBlocks : Nat) (entries : List WalEntry) (stop fragments : Nat) (w : Wal) (old new : Image)
    (before : RawDevice) (ready : Readable g bufBlocks w)
    (buffer : w.curBuf = some (zeros w.bufSize)) (curOff : w.curOff = g.blockOff (stop / 32)) (nFrames : w.nFrames = stop % 32)
    (held : ∀ v, 32 * (stop / 32) ≤ v → v < stop → slotBytes w.dev.medium.cur (v % g.slots) = frameAt entries v)
    (erasing : Erasing g old new before w.dev)
    (blend : 0 < fragments → 0 < stop % 32 → Blend g old new (write w.dev.medium.cur (g.blockOff (stop / 32))
      (windowBuf entries (32 * (stop / 32)) (stop % 32) (4096 * 1)))) :
    ∃ dev, w.refill fragments =
        (Err.kSuccess, { w with curBuf := some (windowBuf entries (32 * (stop / 32)) (stop % 32) (4096 * bufBlocks)), dev := dev }) ∧
      (fragments = 0 → dev = w.dev) ∧ Erasing g old new before dev ∧
      (0 < fragments → dev.medium.cur = if stop % 32 > 0 then write w.dev.medium.cur (g.blockOff (stop / 32))
        (windowBuf entries (32 * (stop / 32)) (stop % 32) (4096 * 1)) else w.dev.medium.cur) := by
  have bufPos := ready.bufPos
  have bounds := g.block_off_bounds (stop / 32)
  have sized := ready.sized
  unfold Wal.refill
  by_cases half : w.nFrames > 0
  · have fits : w.curOff + kWalBlockSize ≤ 8192 + g.bytes := by
      rw [curOff, kWalBlockSize]
      exact bounds.2
    have filled := refill_buffer g bufBlocks entries w.dev.medium.cur (stop / 32) (stop % 32) (by omega) bufPos
      (fun v lower upper => held v lower (by omega))
    have data : (windowBuf entries (32 * (stop / 32)) (stop % 32) (4096 * bufBlocks)).take kWalBlockSize =
        windowBuf entries (32 * (stop / 32)) (stop % 32) (4096 * 1) := by
      rw [kWalBlockSize, window_buf_take _ _ _ _ _ (by omega) (by omega)]
    rw [if_pos half, readable_read g bufBlocks w ready _ _ fits]
    simp only [buffer, Option.getD_some, ready.bufSize, curOff, nFrames, filled, data]
    by_cases some_ : fragments > 0
    · obtain ⟨next, done, cur, kept⟩ := erasing_write g old new before w.dev (g.blockOff (stop / 32)) _ erasing
        (by rw [window_buf_length _ _ _ _ (by omega)]; omega) (blend some_ (by omega))
      rw [if_pos some_]
      simp only [done]
      exact ⟨next, rfl, fun none_ => absurd none_ (by omega), kept, fun _ => by rw [cur, if_pos (by omega)]⟩
    · rw [if_neg some_]
      exact ⟨w.dev, rfl, fun _ => rfl, erasing, fun yes => absurd yes some_⟩
  · rw [if_neg half]
    have none_ : stop % 32 = 0 := by omega
    refine ⟨w.dev, ?_, fun _ => rfl, erasing, fun _ => by rw [if_neg (by omega)]⟩
    rw [none_, window_buf_empty, ← ready.bufSize, ← buffer]

theorem seal_spec (g : Ring) (w : Wal) (fragments : Nat) (old new : Image) (before : RawDevice)
    (erasing : Erasing g old new before w.dev) :
    ∃ dev, w.seal fragments = (Err.kSuccess, { w with dev := dev }) ∧ (fragments = 0 → dev = w.dev) ∧
      Erasing g old new before dev ∧ (0 < fragments → dev.medium = ⟨w.dev.medium.cur, []⟩) := by
  unfold Wal.seal
  by_cases some_ : fragments > 0
  · have every : ∀ img ∈ w.dev.medium.flush.versions, Blend g old new img := by
      intro img member
      rw [medium_versions_flush, List.mem_singleton] at member
      exact member ▸ erasing.versions _ (medium_cur_mem _)
    rw [if_pos some_, healthy_sync w.dev erasing.healthy]
    refine ⟨w.dev.record w.dev.medium.flush, by simp, fun none_ => absurd none_ (by omega), ?_, fun _ => rfl⟩
    exact ⟨healthy_record _ _ erasing.healthy, erasing.size, every,
      traced_trans _ _ _ _ erasing.traced (traced_record w.dev _ _ every)⟩
  · rw [if_neg some_]
    exact ⟨w.dev, rfl, fun _ => rfl, erasing, fun yes => absurd yes some_⟩

-- What the survey hands over about a run from covered to stop.
structure Surveyed {σ : Type} (g : Ring) (covered stop : Nat) (c : RecoverCensus) (s : Scan σ) : Prop where
  pos : 0 < stop
  anchorOff : (if s.hasAnchor then s.anchorOff else c.maxValidOff) = g.slotOff (stop - 1)
  anchorSeq : (if s.hasAnchor then s.anchorSeq else c.maxValidSeq) = stop
  stopOff : 0 < s.fragments → s.stopOff = g.slotOff stop
  head : (if c.liveCount > 0 then blockFloor c.minLiveOff else g.blockOff (stop / 32)) = g.blockOff (covered / 32)
  crossed : (if c.liveCount > 0 then (s.blocksCrossed - (if stop % 32 > 0 then 1 else 0)) * kWalBlockSize else 0) =
    4096 * (stop / 32 - covered / 32)
  counted : s.replayed + s.fragments = c.liveCount

theorem zone_lap (g : Ring) (bufBlocks b : Nat) : 32 * (b + min bufBlocks (g.toSeam b)) ≤ 32 * b + g.slots := by
  have low : g.toSeam b ≤ g.blocks := Nat.sub_le _ _
  rw [Ring.slots]
  omega

theorem cleared_tail (g : Ring) (bufBlocks : Nat) (entries : List WalEntry) (stop : Nat) (img : Image) (v : Nat)
    (lower : 32 * (stop / 32) ≤ v) (upper : v < stop) :
    slotBytes (clearedImage g bufBlocks entries stop img) (v % g.slots) = slotBytes img (v % g.slots) := by
  have lap := zone_lap g bufBlocks (stop / 32)
  rcases cleared_slot g bufBlocks entries stop img _ (g.slot_lt v) with ⟨u, from_, below, slot, _⟩ | ⟨_, same⟩
  · have equal := g.same_slot v u (by omega) (by omega) slot.symm
    omega
  · exact same

theorem rebuild_spec {σ : Type} (g : Ring) (bufBlocks : Nat) (entries : List WalEntry) (covered stop : Nat)
    (w : Wal) (ready : Readable g bufBlocks w) (healthy : w.dev.Healthy) (clean : w.dev.medium.unsynced = [])
    (c : RecoverCensus) (s : Scan σ)
    (lower : covered ≤ stop) (near : stop + 32 ≤ covered + g.slots) (surveyed : Surveyed g covered stop c s)
    (held : ∀ v, 32 * (stop / 32) ≤ v → v < stop → slotBytes w.dev.medium.cur (v % g.slots) = frameAt entries v) :
    ∃ dev, w.rebuild covered c s = (Err.kSuccess, recoveredWal g bufBlocks entries covered stop w dev) ∧
      (s.fragments = 0 → dev = w.dev) ∧
      (0 < s.fragments → dev.medium = ⟨erasedImage g bufBlocks entries stop w.dev.medium.cur, []⟩) ∧
      Erasing g w.dev.medium.cur (erasedImage g bufBlocks entries stop w.dev.medium.cur) w.dev dev := by
  have placed := place_tail_spec g bufBlocks w ready c stop surveyed.pos
  rw [surveyed.head] at placed
  generalize tailEq : ({ w with
        curBuf := some (zeros w.bufSize)
        curOff := g.blockOff (stop / 32)
        nFrames := stop % 32
        headOff := g.blockOff (covered / 32)
        seqNext := stop + 1 } : Wal) = tail at placed
  have tailDev : tail.dev = w.dev := by rw [← tailEq]
  have tailReady : Readable g bufBlocks tail := by
    rw [← tailEq]
    exact { ready with }
  have start := erasing_refl g (erasedImage g bufBlocks entries stop w.dev.medium.cur) w.dev healthy clean
  have blend := blend_cleared g bufBlocks entries stop w.dev.medium.cur (zone_lap g bufBlocks (stop / 32))
  have erased : ∃ dev, tail.eraseZone s.fragments s.stopOff = (Err.kSuccess, { tail with dev := dev }) ∧
      (s.fragments = 0 → dev = w.dev) ∧
      (0 < s.fragments → dev.medium.cur = clearedImage g bufBlocks entries stop w.dev.medium.cur) ∧
      Erasing g w.dev.medium.cur (erasedImage g bufBlocks entries stop w.dev.medium.cur) w.dev dev := by
    by_cases some_ : 0 < s.fragments
    · obtain ⟨dev, done, cur, kept⟩ := erase_zone_spec g bufBlocks entries stop s.fragments tail w.dev.medium.cur w.dev tailReady
        some_ (by rw [← tailEq]) (by rw [← tailEq]) (by rw [← tailEq]) (by rw [tailDev]; exact start) (by rw [tailDev]; exact blend)
      rw [tailDev] at cur kept
      exact ⟨dev, by rw [surveyed.stopOff some_]; exact done, fun none_ => absurd none_ (by omega), fun _ => cur, kept⟩
    · refine ⟨w.dev, ?_, fun _ => rfl, fun yes => absurd yes some_, start⟩
      unfold Wal.eraseZone
      rw [if_neg some_, ← tailDev]
  obtain ⟨dev1, done1, none1, cur1, kept1⟩ := erased
  have held1 : ∀ v, 32 * (stop / 32) ≤ v → v < stop → slotBytes dev1.medium.cur (v % g.slots) = frameAt entries v := by
    intro v from_ below
    by_cases some_ : 0 < s.fragments
    · rw [cur1 some_, cleared_tail g bufBlocks entries stop _ v from_ below]
      exact held v from_ below
    · rw [none1 (by omega)]
      exact held v from_ below
  obtain ⟨dev2, done2, none2, kept2, cur2⟩ := refill_spec g bufBlocks entries stop s.fragments { tail with dev := dev1 }
    w.dev.medium.cur (erasedImage g bufBlocks entries stop w.dev.medium.cur) w.dev
    { tailReady with
      opened := kept1.healthy.opened
      readable := kept1.healthy.readable
      sized := by rw [kept1.size]; exact ready.sized }
    (by rw [← tailEq]) (by rw [← tailEq]) (by rw [← tailEq]) held1 kept1
    (fun some_ half => by
      have whole : erasedImage g bufBlocks entries stop w.dev.medium.cur =
          write dev1.medium.cur (g.blockOff (stop / 32)) (windowBuf entries (32 * (stop / 32)) (stop % 32) (4096 * 1)) := by
        rw [erasedImage, if_pos half, cur1 some_]
      rw [← whole]
      exact blend_new g _ _)
  have cur2' : 0 < s.fragments → dev2.medium.cur = erasedImage g bufBlocks entries stop w.dev.medium.cur := by
    intro some_
    rw [cur2 some_, erasedImage]
    simp only [cur1 some_]
  obtain ⟨dev3, done3, none3, kept3, cur3⟩ := seal_spec g { tail with
      curBuf := some (windowBuf entries (32 * (stop / 32)) (stop % 32) (4096 * bufBlocks)), dev := dev2 } s.fragments
    w.dev.medium.cur (erasedImage g bufBlocks entries stop w.dev.medium.cur) w.dev kept2
  have near' : stop / 32 - covered / 32 < g.blocks := by
    rw [Ring.slots] at near
    omega
  have opens := window_at_open g bufBlocks { tail with
      curBuf := some (windowBuf entries (32 * (stop / 32)) (stop % 32) (4096 * bufBlocks)), dev := dev3 }
    (covered / 32) (stop / 32) (by omega) near' (by rw [← tailEq]; exact ready.bufSize) (by rw [← tailEq]; exact ready.ringStart)
    (by rw [← tailEq]; exact ready.ringEnd) (by rw [← tailEq])
  have curOff : tail.curOff = g.blockOff (stop / 32) := by rw [← tailEq]
  rw [← curOff] at opens
  have final : ({ tail with
      curBuf := some (windowBuf entries (32 * (stop / 32)) (stop % 32) (4096 * bufBlocks))
      dev := dev3
      windowBytes := ({ tail with
        curBuf := some (windowBuf entries (32 * (stop / 32)) (stop % 32) (4096 * bufBlocks))
        dev := dev3 } : Wal).windowAt tail.curOff } : Wal) = recoveredWal g bufBlocks entries covered stop w dev3 := by
    rw [opens, ← tailEq, recoveredWal]
  have checked : (recoveredWal g bufBlocks entries covered stop w dev3).selfCheck covered c s = true := by
    have bounds := g.block_off_bounds (stop / 32)
    have headBounds := g.block_off_bounds (covered / 32)
    have distance := g.block_distance (covered / 32) (stop / 32) (by omega)
    rw [Nat.mod_eq_of_lt near'] at distance
    have ring : 8192 + g.bytes - 8192 = g.bytes := by omega
    have again := window_at_open g bufBlocks (recoveredWal g bufBlocks entries covered stop w dev3) (covered / 32) (stop / 32)
      (by omega) near' ready.bufSize ready.ringStart ready.ringEnd rfl
    have aligned := g.block_off_aligned (stop / 32)
    have headAligned := g.block_off_aligned (covered / 32)
    simp only [Wal.selfCheck, decide_eq_true_eq]
    refine ⟨aligned, headAligned, ?_, ?_, ?_, ?_, ?_, ?_, Nat.mod_lt _ (by decide), again.symm, surveyed.counted⟩
    · show g.blockOff (stop / 32) ≥ w.ringStart
      rw [ready.ringStart]
      exact bounds.1
    · show g.blockOff (stop / 32) < w.ringEnd
      rw [ready.ringEnd]
      omega
    · show g.blockOff (covered / 32) ≥ w.ringStart
      rw [ready.ringStart]
      exact headBounds.1
    · show g.blockOff (covered / 32) < w.ringEnd
      rw [ready.ringEnd]
      omega
    · show (g.blockOff (stop / 32) + (w.ringEnd - w.ringStart) - g.blockOff (covered / 32)) % (w.ringEnd - w.ringStart) =
        if c.liveCount > 0 then (s.blocksCrossed - (if stop % 32 > 0 then 1 else 0)) * kWalBlockSize else 0
      rw [ready.ringEnd, ready.ringStart, ring, distance, surveyed.crossed]
    · show stop + 1 ≥ covered + 1
      omega
  refine ⟨dev3, ?_, fun none_ => ?_, fun some_ => ?_, kept3⟩
  · unfold Wal.rebuild
    simp only [surveyed.anchorOff, surveyed.anchorSeq, placed, done1, done2, done3, final]
    rw [if_neg (by simp), if_neg (by simp), if_neg (by simp), if_pos checked]
  · rw [none3 none_, none2 none_, none1 none_]
  · rw [cur3 some_, cur2' some_]

theorem recover_unfolds {σ : Type} (w : Wal) (covered : Nat) (fn : WalReplayFn σ) (st : σ) (opened : w.dev.isOpen = true)
    (fresh : w.curBuf = none) :
    w.recover covered fn st =
      match ({ w with curBuf := some (zeros w.bufSize) } : Wal).survey covered fn st with
      | .error rc => ⟨rc, { w with curBuf := some (zeros w.bufSize) }, st⟩
      | .ok (c, s) =>
          if s.hasAnchor = false ∧ c.validCount = 0 then
            ⟨Err.kSuccess, ({ w with curBuf := some (zeros w.bufSize) } : Wal).placeEmpty, s.st⟩
          else
            match ({ w with curBuf := some (zeros w.bufSize) } : Wal).rebuild covered c s with
            | (rc, w1) => ⟨rc, w1, if rc = Err.kSuccess then s.st else st⟩ := by
  have running : ¬ w.dev.isOpen = false := by simp [opened]
  have once : ¬ w.curBuf.isSome = true := by simp [fresh]
  unfold Wal.recover
  exact (if_neg running).trans (if_neg once)

theorem recoverable_buffer (g : Ring) (bufBlocks : Nat) (entries : List WalEntry) (written covered : Nat) (w : Wal)
    (buf : Option Bytes) (r : Recoverable g bufBlocks entries written covered w) :
    Recoverable g bufBlocks entries written covered { w with curBuf := buf } :=
  { r with ready := { r.ready with } }

theorem scannable_buffer (g : Ring) (bufBlocks : Nat) (entries : List WalEntry) (written covered : Nat) (w : Wal)
    (buf : Option Bytes) (r : Scannable g bufBlocks entries written covered w) :
    Scannable g bufBlocks entries written covered { w with curBuf := buf } :=
  { r with ready := { r.ready with } }

theorem recover_gate {σ : Type} (g : Ring) (bufBlocks : Nat) (entries : List WalEntry) (written covered : Nat) (w : Wal)
    (r : Scannable g bufBlocks entries written covered w) (fresh : w.curBuf = none) (fn : WalReplayFn σ) (st : σ)
    (some_ : ∃ v, covered ≤ v ∧ Present g entries w.dev.medium.cur v) (first : ¬ Present g entries w.dev.medium.cur covered) :
    (w.recover covered fn st).rc = Err.kWalRecoveryCorrupted := by
  have r' := scannable_buffer g bufBlocks entries written covered w (some (zeros w.bufSize)) r
  rw [recover_unfolds w covered fn st r.ready.opened fresh,
    survey_gate g bufBlocks entries written covered _ r' fn st some_ first]

theorem recover_idle {σ : Type} (g : Ring) (bufBlocks : Nat) (entries : List WalEntry) (written covered : Nat) (w : Wal)
    (r : Recoverable g bufBlocks entries written covered w) (fresh : w.curBuf = none) (healthy : w.dev.Healthy)
    (clean : w.dev.medium.unsynced = []) (near : 32 ≤ g.slots) (fn : WalReplayFn σ) (st : σ)
    (none_ : ∀ v, covered ≤ v → ¬ Present g entries w.dev.medium.cur v) :
    w.recover covered fn st = ⟨Err.kSuccess, recoveredWal g bufBlocks entries covered covered w w.dev, st⟩ := by
  have r' := recoverable_buffer g bufBlocks entries written covered w (some (zeros w.bufSize)) r
  obtain ⟨c, surveyed, idle, empty, anchor⟩ := survey_idle g bufBlocks entries written covered _ r' fn st none_
  rw [recover_unfolds w covered fn st r.ready.opened fresh, surveyed]
  have state : (Scan.start covered 0 st).st = st := rfl
  have noAnchor : (Scan.start covered 0 st).hasAnchor = false := rfl
  by_cases zero : covered = 0
  · subst zero
    have size : w.bufSize = 4096 * bufBlocks := r.ready.bufSize
    have zeroOff : g.blockOff 0 = 8192 := by rw [Ring.blockOff, Nat.zero_mod]
    have opens := window_at_open g bufBlocks
      { w with curBuf := some (zeros w.bufSize), curOff := w.ringStart, headOff := w.ringStart, nFrames := 0, seqNext := 1 } 0 0
      (by omega) (by have := g.blocks_pos; omega) size r.ready.ringStart r.ready.ringEnd (by rw [zeroOff]; exact r.ready.ringStart)
    rw [zeroOff, ← r.ready.ringStart] at opens
    simp only [size] at opens
    simp only [if_pos (show (Scan.start 0 0 st).hasAnchor = false ∧ c.validCount = 0 from ⟨rfl, empty rfl⟩)]
    unfold Wal.placeEmpty recoveredWal
    simp only [opens, zeroOff, ← r.ready.ringStart, size, Nat.zero_div, Nat.zero_mod, window_buf_empty, Nat.zero_add]
    rfl
  · obtain ⟨some_, newest, off⟩ := anchor (by omega)
    have handed : Surveyed g covered covered c (Scan.start covered 0 st) := by
      refine ⟨by omega, ?_, ?_, fun yes => absurd yes (Nat.lt_irrefl 0), ?_, ?_, ?_⟩
      · simpa [noAnchor] using off
      · simpa [noAnchor] using newest
      · rw [if_neg (by omega)]
      · rw [if_neg (by omega), Nat.sub_self]
      · rw [idle]
        rfl
    obtain ⟨dev, done, same, _⟩ := rebuild_spec g bufBlocks entries covered covered _ r'.ready healthy clean c _ (Nat.le_refl _)
      (by omega) handed (fun v lower upper => (r'.block v lower upper).2)
    have dev' : dev = w.dev := same rfl
    rw [dev'] at done
    simp only [if_neg (show ¬ ((Scan.start covered 0 st).hasAnchor = false ∧ c.validCount = 0) from fun both => some_ both.2), done,
      if_true, state]
    rfl

-- What recovery does once the first live frame is there, by where its run stops.
theorem recover_run {σ : Type} (g : Ring) (bufBlocks : Nat) (entries : List WalEntry) (written covered : Nat) (w : Wal)
    (r : Recoverable g bufBlocks entries written covered w) (fresh : w.curBuf = none) (healthy : w.dev.Healthy)
    (clean : w.dev.medium.unsynced = []) (fn : WalReplayFn σ) (st : σ)
    (first : Present g entries w.dev.medium.cur covered) (stop : Nat) (stopEq : stopOf g entries w.dev.medium.cur covered = stop) :
    (∀ rc, replayFrom fn entries covered (stop - covered) st = .error rc → (w.recover covered fn st).rc = rc) ∧
    (∀ st', replayFrom fn entries covered (stop - covered) st = .ok st' →
      ((∃ v, stop < v ∧ Present g entries w.dev.medium.cur v ∧ ¬ Tolerated g bufBlocks stop v) →
        (w.recover covered fn st).rc = Err.kWalRecoveryCorrupted) ∧
      ((∀ v, stop < v → Present g entries w.dev.medium.cur v → Tolerated g bufBlocks stop v) →
        ∃ dev, w.recover covered fn st = ⟨Err.kSuccess, recoveredWal g bufBlocks entries covered stop w dev, st'⟩ ∧
          ((∀ v, stop < v → ¬ Present g entries w.dev.medium.cur v) → dev = w.dev) ∧
          ((∃ v, stop < v ∧ Present g entries w.dev.medium.cur v) →
            dev.medium = ⟨erasedImage g bufBlocks entries stop w.dev.medium.cur, []⟩) ∧
          Erasing g w.dev.medium.cur (erasedImage g bufBlocks entries stop w.dev.medium.cur) w.dev dev)) := by
  have r' := recoverable_buffer g bufBlocks entries written covered w (some (zeros w.bufSize)) r
  obtain ⟨failed, surveyed⟩ := survey_run g bufBlocks entries written covered _ r'.toScannable fn st first
  obtain ⟨lower, upper, run, absent⟩ := stop_spec g bufBlocks entries written covered w r.toScannable
  rw [recover_unfolds w covered fn st r.ready.opened fresh]
  simp only [stopEq] at failed surveyed lower upper run absent
  have beyond : covered < stop := by
    rcases Nat.lt_or_eq_of_le lower with less | same
    · exact less
    · exact absurd (same ▸ first) absent
  refine ⟨fun rc wrong => by rw [failed rc wrong], fun st' replayed => ?_⟩
  obtain ⟨good, bad⟩ := surveyed st' replayed
  refine ⟨fun refused => by rw [bad refused], fun tolerated => ?_⟩
  obtain ⟨c, s, done, live, off, counted, fragments, swept⟩ := good tolerated
  have anchored : s.hasAnchor = true := by rw [swept.hasAnchor]; simpa using beyond
  have near := r.near
  have handed : Surveyed g covered stop c s := by
    refine ⟨by omega, ?_, ?_, fun _ => swept.stopOff, ?_, ?_, counted.symm⟩
    · rw [if_pos anchored, swept.anchorOff, if_pos beyond]
    · rw [if_pos anchored, swept.anchorSeq, if_pos beyond]
    · rw [if_pos live, off, g.block_floor_slot]
    · rw [if_pos live, swept.blocksCrossed, if_pos beyond, kWalBlockSize]
      split <;> omega
  have held : ∀ v, 32 * (stop / 32) ≤ v → v < stop → slotBytes w.dev.medium.cur (v % g.slots) = frameAt entries v := by
    intro v from_ below
    by_cases old : v < covered
    · exact (r.block v (by omega) old).2
    · exact (run v (by omega) below).2
  obtain ⟨dev, rebuilt, same, erased, kept⟩ := rebuild_spec g bufBlocks entries covered stop _ r'.ready healthy clean c s lower
    (by omega) handed held
  refine ⟨dev, ?_, fun none_ => same ?_, fun some_ => erased (fragments.mpr some_), kept⟩
  · simp only [done, if_neg (show ¬ (s.hasAnchor = false ∧ c.validCount = 0) by simp [anchored]), rebuilt, if_true, swept.state]
    rfl
  · by_contra some_
    obtain ⟨v, late, here⟩ := fragments.mp (by omega)
    exact none_ v late here

end Cabe
