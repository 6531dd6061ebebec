import Cabe.WalQuiet
import Cabe.WalRebuild

set_option autoImplicit false

namespace Cabe

open Storage

-- No slot that still holds what it held before the run verifies.
def NoStale (g : Ring) (prior : Nat → Bytes) (img : Image) : Prop :=
  ∀ p < g.slots, slotBytes img p = prior p → verifyFrame (slotFrame img p) = false

theorem placed_of_ring (g : Ring) (h : History) (kept written : Nat) (img : Image) (ok : RingOk g h kept written img)
    (stale : NoStale g h.prior img) (listed : written ≤ h.entries.length) (fits : h.entries.length < 2 ^ 64)
    (short : ∀ e ∈ h.entries, e.key.length ≤ kWalKeyMax) : Placed g h.entries written img := by
  refine ⟨fun p bound valid => ?_, listed, fits, short⟩
  rcases (ok p bound).genuine valid with old | ⟨v, below, _, slot, bytes⟩
  · rw [stale p bound old] at valid
    cases valid
  · exact ⟨v, below, slot, bytes⟩

theorem present_kept (g : Ring) (h : History) (kept written : Nat) (img : Image) (ok : RingOk g h kept written img)
    (listed : kept ≤ h.entries.length) (v : Nat) (lower : h.lo ≤ v) (upper : v < kept) : Present g h.entries img v :=
  ⟨by omega, (ok _ (g.slot_lt v)).holds v lower upper rfl⟩

-- What an earlier recovery erased is not there any more.
theorem gone_absent (g : Ring) (h : History) (kept written : Nat) (img : Image) (ok : RingOk g h kept written img)
    (stale : NoStale g h.prior img) (fits : h.entries.length < 2 ^ 64) (listed : written ≤ h.entries.length)
    (short : ∀ e ∈ h.entries, e.key.length ≤ kWalKeyMax) (v : Nat) (lower : h.gone ≤ v) (upper : v < h.lo) :
    ¬ Present g h.entries img v := by
  intro here
  obtain ⟨valid, _, _⟩ := present_frame g h.entries written img (placed_of_ring g h kept written img ok stale listed fits short) v here
  rcases (ok _ (g.slot_lt v)).genuine valid with old | ⟨u, below, place, _, bytes⟩
  · rw [stale _ (g.slot_lt v) old] at valid
    cases valid
  · have same := frame_at_injective h.entries u v (by omega) (by have := here.1; omega) (bytes.symm.trans here.2)
    omega

theorem recoverable_of_ring (g : Ring) (bufBlocks : Nat) (h : History) (kept written covered : Nat) (w : Wal)
    (ready : Readable g bufBlocks w) (ok : RingOk g h kept written w.dev.medium.cur) (stale : NoStale g h.prior w.dev.medium.cur)
    (listed : written ≤ h.entries.length) (fits : h.entries.length < 2 ^ 64)
    (short : ∀ e ∈ h.entries, e.key.length ≤ kWalKeyMax) (ordered : kept ≤ written) (inside : covered ≤ kept)
    (base : h.lo ≤ 32 * (covered / 32)) (anchor : covered = 0 ∨ h.lo < covered ∨ covered < kept)
    (near : written + 32 ≤ covered + g.slots) : Recoverable g bufBlocks h.entries written covered w := by
  refine ⟨⟨ready, placed_of_ring g h kept written _ ok stale listed fits short, near⟩, ?_, fun v lower upper => ?_⟩
  · rcases anchor with zero | above | live
    · exact .inl zero
    · exact .inr (.inl (present_kept g h kept written _ ok (by omega) _ (by omega) (by omega)))
    · exact .inr (.inr (present_kept g h kept written _ ok (by omega) _ (by omega) live))
  · exact present_kept g h kept written _ ok (by omega) v (by omega) (by omega)

-- One torn window stays within what the sweep tolerates, wherever the run stops
-- at or after the last sync.
theorem torn_tolerated (g : Ring) (bufBlocks synced written stop v : Nat) (torn : TornAt g bufBlocks synced written)
    (reach : synced ≤ stop) (late : stop < v) (bound : v < written) : Tolerated g bufBlocks stop v := by
  obtain ⟨b, base, buf, seam⟩ := torn
  have low := g.block_lt b
  unfold Ring.toSeam at seam
  have stopSlot := g.slot_run b (stop - 32 * b) (by rw [Ring.slots]; omega)
  have slot := g.slot_run b (v - 32 * b) (by rw [Ring.slots]; omega)
  rw [show 32 * b + (stop - 32 * b) = stop by omega] at stopSlot
  rw [show 32 * b + (v - 32 * b) = v by omega] at slot
  refine ⟨⟨?_, ?_⟩, by omega, by omega⟩
  · rw [Ring.slotOff, Ring.slotOff, stopSlot, slot]
    omega
  · have ending := g.slot_off_bounds v
    have floor : blockFloor (g.slotOff stop) = (8192 + 128 * (32 * (b % g.blocks) + (stop - 32 * b))) / 4096 * 4096 := by
      rw [Ring.slotOff, stopSlot]
      rfl
    have place : g.slotOff v = 8192 + 128 * (32 * (b % g.blocks) + (v - 32 * b)) := by
      rw [Ring.slotOff, slot]
    rw [zoneEnd, floor]
    omega

-- Wal::Open accepts exactly the rings of at least one buffer and one block.
structure Accepts (g : Ring) (bufBlocks : Nat) (opts : Options) (sizeBytes : Nat) : Prop where
  bufPos : 0 < bufBlocks
  bufRoom : bufBlocks + 1 ≤ g.blocks
  ring : walRingSize sizeBytes = g.bytes
  sized : 8192 + g.bytes ≤ sizeBytes
  buffer : roundUpBufferSize opts.walBufferSize kWalBlockSize = 4096 * bufBlocks

theorem ring_size_fits (sizeBytes : Nat) (pos : 0 < walRingSize sizeBytes) : 8192 + walRingSize sizeBytes ≤ sizeBytes := by
  unfold walRingSize kDataRegionOffset kWalBlockSize at pos ⊢
  by_cases small : sizeBytes ≤ 8192
  · simp [small] at pos
  · rw [if_neg small]
    omega

theorem ring_size_whole (sizeBytes : Nat) : walRingSize sizeBytes % 4096 = 0 := by
  unfold walRingSize kWalBlockSize
  split
  · rfl
  · exact Nat.mul_mod_left _ _

structure JustOpened (dev : RawDevice) (opts : Options) (w : Wal) : Prop where
  closed : dev.isOpen = false
  device : w.dev = { dev with isOpen := true }
  bufSize : w.bufSize = roundUpBufferSize opts.walBufferSize kWalBlockSize
  ringStart : w.ringStart = 8192
  ringEnd : w.ringEnd = 8192 + walRingSize dev.sizeBytes
  enough : (w.bufSize + kWalBlockSize) % 2 ^ 64 ≤ walRingSize dev.sizeBytes
  position : w.curOff = 8192 ∧ w.headOff = 8192 ∧ w.nFrames = 0 ∧ w.seqNext = 1
  buffer : if opts.create = true then w.curBuf = some (zeros w.bufSize) ∧ w.windowBytes = w.windowAt w.curOff
    else w.curBuf = none

theorem open_wal_success (dev : RawDevice) (opts : Options) (w : Wal)
    (done : (Wal.unopened dev).openWal opts = (Err.kSuccess, w)) : JustOpened dev opts w := by
  unfold Wal.openWal RawDevice.openDevice at done
  cases opened : dev.isOpen with
  | true => simp [Wal.unopened, opened, Err.kIoBase, Err.kSuccess] at done
  | false =>
      simp only [Wal.unopened, opened, Bool.false_eq_true, if_false, ne_eq, not_true_eq_false] at done
      split at done
      · simp [Err.kDeviceTooSmall, Err.kSuccess] at done
      · rename_i enough
        have bound := Nat.le_trans (Nat.le_max_right _ _) (Nat.le_of_not_lt enough)
        cases create : opts.create with
        | true =>
            simp only [create, Bool.true_eq_false, if_false, Prod.mk.injEq, true_and] at done
            subst done
            exact ⟨opened, rfl, rfl, rfl, rfl, bound, ⟨rfl, rfl, rfl, rfl⟩, by rw [create, if_pos rfl]; exact ⟨rfl, rfl⟩⟩
        | false =>
            simp only [create, if_true, Prod.mk.injEq, true_and] at done
            subst done
            exact ⟨opened, rfl, rfl, rfl, rfl, bound, ⟨rfl, rfl, rfl, rfl⟩, by rw [create, if_neg (by decide)]⟩

-- The allocator provided the buffer, which it cannot for half an address space.
def Allocated (w : Wal) : Prop := w.bufSize ≤ 2 ^ 63

theorem open_accepts (dev : RawDevice) (opts : Options) (w : Wal) (opened : JustOpened dev opts w) (allocated : Allocated w)
    (pos : 0 < w.bufSize) :
    ∃ g bufBlocks, Accepts g bufBlocks opts dev.sizeBytes := by
  have aligned := round_up_aligned opts.walBufferSize
  have whole := ring_size_whole dev.sizeBytes
  have enough := opened.enough
  unfold Allocated at allocated
  have size := opened.bufSize
  rw [kWalBlockSize] at enough size
  rw [← size] at aligned
  have room : w.bufSize + 4096 ≤ walRingSize dev.sizeBytes := by omega
  have two : 2 ≤ walRingSize dev.sizeBytes / 4096 := by omega
  have ring : walRingSize dev.sizeBytes = (⟨walRingSize dev.sizeBytes / 4096, two⟩ : Ring).bytes := by
    show walRingSize dev.sizeBytes = 4096 * (walRingSize dev.sizeBytes / 4096)
    omega
  refine ⟨⟨walRingSize dev.sizeBytes / 4096, two⟩, w.bufSize / 4096, by omega, ?_, ring, ?_, ?_⟩
  · show w.bufSize / 4096 + 1 ≤ walRingSize dev.sizeBytes / 4096
    omega
  · rw [← ring]
    exact ring_size_fits dev.sizeBytes (by omega)
  · rw [kWalBlockSize, ← size]
    omega

theorem open_readable (g : Ring) (bufBlocks : Nat) (dev : RawDevice) (opts : Options) (w : Wal)
    (accepts : Accepts g bufBlocks opts dev.sizeBytes) (opened : JustOpened dev opts w) (readable : ∀ k, dev.unreadable k = false) :
    Readable g bufBlocks w := by
  refine ⟨accepts.bufPos, by rw [opened.device], by rw [opened.device]; exact readable, by rw [opened.device]; exact accepts.sized,
    opened.bufSize.trans accepts.buffer, opened.ringStart, ?_⟩
  rw [opened.ringEnd, accepts.ring]

-- The view of a ring at create, whatever its slots hold.
def WalView.created (g : Ring) (bufBlocks : Nat) (img : Image) : WalView where
  prior := slotBytes img
  entries := []
  gone := 0
  lo := 0
  head := 0
  cur := 0
  win := g.openWin bufBlocks 0 0
  visible := 0
  synced := 0

theorem ring_ok_created (g : Ring) (bufBlocks : Nat) (img : Image) :
    RingOk g (WalView.created g bufBlocks img).toHistory 0 0 img :=
  fun _ _ => ⟨fun v _ below => absurd below (Nat.not_lt_zero v), fun _ => .inl rfl⟩

theorem create_inv (g : Ring) (bufBlocks : Nat) (dev : RawDevice) (opts : Options) (w : Wal)
    (accepts : Accepts g bufBlocks opts dev.sizeBytes) (opened : JustOpened dev opts w) (create : opts.create = true)
    (clean : dev.medium.unsynced = []) : WalInv g bufBlocks (.created g bufBlocks dev.medium.cur) w := by
  obtain ⟨curOff, headOff, nFrames, seqNext⟩ := opened.position
  have buffer := opened.buffer
  rw [if_pos create] at buffer
  obtain ⟨buffer, window⟩ := buffer
  have bufSize := opened.bufSize.trans accepts.buffer
  have ringEnd : w.ringEnd = 8192 + g.bytes := by rw [opened.ringEnd, accepts.ring]
  have zero : g.blockOff 0 = 8192 := by rw [Ring.blockOff, Nat.zero_mod]
  have room := accepts.bufRoom
  have medium : w.dev.medium = dev.medium := by rw [opened.device]
  have opens := window_at_open g bufBlocks w 0 0 (Nat.le_refl _) (by omega) bufSize opened.ringStart ringEnd (by rw [headOff, zero])
  rw [zero, ← curOff] at opens
  have ok := ring_ok_created g bufBlocks dev.medium.cur
  exact {
    bufPos := accepts.bufPos
    bufRoom := accepts.bufRoom
    opened := by rw [opened.device]
    sized := by rw [opened.device]; exact accepts.sized
    ring := by rw [opened.device]; exact accepts.ring
    bufSize := bufSize
    ringStart := opened.ringStart
    ringEnd := ringEnd
    seqNext := seqNext
    curOff := curOff.trans zero.symm
    headOff := headOff.trans zero.symm
    window := window.trans opens
    count := by rw [nFrames]; rfl
    buffer := by rw [buffer, nFrames, window_buf_empty, bufSize]
    headCur := Nat.le_refl _
    winBuf := Nat.min_le_left _ _
    winSeam := Nat.le_trans (Nat.min_le_right _ _) (Nat.min_le_left _ _)
    winRoom := by
      show 0 + g.openWin bufBlocks 0 0 + 1 ≤ 0 + g.blocks
      unfold Ring.openWin
      omega
    framesFit := by rw [nFrames]; exact Nat.zero_le _
    loHead := Nat.zero_le _
    loCur := Nat.zero_le _
    visibleCur := Nat.zero_le _
    visibleAll := Nat.zero_le _
    syncedVisible := Nat.le_refl _
    shortKeys := by simp [WalView.created]
    current := by rw [medium]; exact ok
    medium := by
      rw [medium]
      exact medium_ok_still g _ 0 dev.medium clean ok }

-- The run reaches every synced frame.
theorem stop_reach (g : Ring) (bufBlocks : Nat) (entries : List WalEntry) (written covered synced : Nat) (w : Wal)
    (r : Recoverable g bufBlocks entries written covered w)
    (held : ∀ v, covered ≤ v → v < synced → Present g entries w.dev.medium.cur v) :
    synced ≤ stopOf g entries w.dev.medium.cur covered ∨ synced ≤ covered := by
  obtain ⟨lower, _, _, absent⟩ := stop_spec g bufBlocks entries written covered w r.toScannable
  rcases Nat.lt_or_ge (stopOf g entries w.dev.medium.cur covered) synced with short | reached
  · exact absurd (held _ lower short) absent
  · exact .inl reached

def zoneTop (g : Ring) (bufBlocks stop : Nat) : Nat := 32 * (stop / 32 + min bufBlocks (g.toSeam (stop / 32)))

theorem zone_top_lap (g : Ring) (bufBlocks stop : Nat) : zoneTop g bufBlocks stop ≤ 32 * (stop / 32) + g.slots :=
  zone_lap g bufBlocks (stop / 32)

theorem tolerated_zone (g : Ring) (bufBlocks stop v : Nat) (late : stop < v) (near : v < stop + g.slots)
    (tolerated : Tolerated g bufBlocks stop v) : v < zoneTop g bufBlocks stop := by
  obtain ⟨⟨after, before⟩, _, _⟩ := tolerated
  have seam := g.seam_off (stop / 32)
  have low := g.block_lt (stop / 32)
  have stopSlot := g.slot_off_parts stop
  have run := g.slot_run (stop / 32) (v - 32 * (stop / 32))
  rw [zoneEnd, g.block_floor_slot] at before
  have slots : v % g.slots = stop % g.slots + (v - stop) := by
    have bound := g.slot_lt v
    have bound' := g.slot_lt stop
    have parts := Nat.div_add_mod stop g.slots
    rw [Ring.slotOff, Ring.slotOff] at after
    by_cases wrap : stop % g.slots + (v - stop) < g.slots
    · have whole : v = g.slots * (stop / g.slots) + (stop % g.slots + (v - stop)) := by omega
      rw [whole, Nat.mul_add_mod_self_left, Nat.mod_eq_of_lt (by omega)]
      omega
    · have whole : v = g.slots * (stop / g.slots + 1) + (stop % g.slots + (v - stop) - g.slots) := by
        rw [Nat.mul_add]
        omega
      have turned : v % g.slots = stop % g.slots + (v - stop) - g.slots := by
        rw [whole, Nat.mul_add_mod_self_left, Nat.mod_eq_of_lt (by omega)]
        omega
      omega
  have place : g.slotOff v = g.slotOff stop + 128 * (v - stop) := by
    rw [Ring.slotOff, Ring.slotOff, slots]
    omega
  unfold zoneTop
  omega

-- What the slots hold when nothing has been found behind the run.
theorem ring_ok_recovered (g : Ring) (h : History) (kept written covered stop lo : Nat) (img : Image)
    (ok : RingOk g h kept written img) (listed : written ≤ h.entries.length) (inside : covered ≤ kept) (raised : h.lo ≤ lo)
    (base : lo ≤ covered) (run : ∀ v, covered ≤ v → v < stop → Present g h.entries img v)
    (stopped : ∀ v, stop ≤ v → ¬ Present g h.entries img v) :
    RingOk g ⟨h.prior, h.entries.take stop, covered, lo⟩ stop stop img := by
  intro p bound
  refine ⟨fun v lower upper slot => ?_, fun valid => ?_⟩
  · rw [frame_at_take _ _ _ upper]
    by_cases old : v < covered
    · exact (ok p bound).holds v (Nat.le_trans raised lower) (by omega) slot
    · have here := (run v (by omega) upper).2
      rw [slot] at here
      exact here
  · rcases (ok p bound).genuine valid with old | ⟨v, below, _, slot, bytes⟩
    · exact .inl old
    · have early : v < stop := by
        by_contra late
        exact stopped v (by omega) ⟨by omega, by rw [slot]; exact bytes⟩
      exact .inr ⟨v, early, by show v < covered ∨ lo ≤ v; omega, slot, by rw [frame_at_take _ _ _ early]; exact bytes⟩

-- The same after the erasure. The zone may reach around into the oldest frames,
-- and what it hit there is gone.
theorem ring_ok_erased (g : Ring) (bufBlocks : Nat) (h : History) (kept written covered stop lo : Nat) (img : Image)
    (pos : 0 < bufBlocks) (ok : RingOk g h kept written img) (listed : written ≤ h.entries.length) (inside : covered ≤ kept)
    (raised : h.lo ≤ lo) (base : lo ≤ covered) (ordered : covered ≤ stop) (near : stop + 32 ≤ covered + g.slots)
    (written_ : written ≤ covered + g.slots)
    (run : ∀ v, covered ≤ v → v < stop → Present g h.entries img v) (absent : ¬ Present g h.entries img stop)
    (tolerated : ∀ v, stop < v → Present g h.entries img v → Tolerated g bufBlocks stop v) :
    RingOk g ⟨h.prior, h.entries.take stop, covered, max lo (zoneTop g bufBlocks stop - g.slots)⟩ stop stop
      (erasedImage g bufBlocks h.entries stop img) := by
  have top := zone_top_lap g bufBlocks stop
  intro p bound
  rcases erased_slot g bufBlocks h.entries stop img p pos bound with ⟨v, lower, upper, slot, bytes⟩ | ⟨apart, bytes⟩
  · have below : v < zoneTop g bufBlocks stop := upper
    rw [bytes]
    refine ⟨fun u from_ before same => ?_, fun valid => ?_⟩
    · have raisedTo : zoneTop g bufBlocks stop - g.slots ≤ u := Nat.le_trans (Nat.le_max_right _ _) from_
      have equal : u = v := by
        rcases Nat.le_total u v with less | less
        · exact g.same_slot u v less (by omega) (same.trans slot.symm)
        · exact (g.same_slot v u less (by omega) (slot.trans same.symm)).symm
      rw [equal, if_pos (by omega), frame_at_take _ _ _ (by omega)]
    · by_cases frame : v < stop
      · refine .inr ⟨v, frame, ?_, slot, by rw [if_pos frame, frame_at_take _ _ _ frame]⟩
        show v < covered ∨ max lo (zoneTop g bufBlocks stop - g.slots) ≤ v
        omega
      · rw [if_neg frame, verify_zeros] at valid
        cases valid
  · rw [bytes]
    refine ⟨fun u from_ before same => ?_, fun valid => ?_⟩
    · rw [frame_at_take _ _ _ before]
      have raisedTo : lo ≤ u := Nat.le_trans (Nat.le_max_left _ _) from_
      by_cases old : u < covered
      · exact (ok p bound).holds u (by omega) (by omega) same
      · have here := (run u (by omega) before).2
        rw [same] at here
        exact here
    · rcases (ok p bound).genuine valid with old | ⟨v, below, _, slot, frame⟩
      · exact .inl old
      · have here : Present g h.entries img v := ⟨by omega, by rw [slot]; exact frame⟩
        have early : v < stop := by
          by_contra late
          have strictly : stop < v := by
            rcases Nat.lt_or_eq_of_le (Nat.le_of_not_lt late) with less | same
            · exact less
            · exact absurd (same ▸ here) absent
          exact apart v (by omega) (tolerated_zone g bufBlocks stop v strictly (by omega) (tolerated v strictly here)) slot
        refine .inr ⟨v, early, ?_, slot, by rw [frame_at_take _ _ _ early]; exact frame⟩
        show v < covered ∨ max lo (zoneTop g bufBlocks stop - g.slots) ≤ v
        by_cases erased : covered ≤ v ∧ v < zoneTop g bufBlocks stop - g.slots
        · have around : (v + g.slots) % g.slots = p := by rw [Nat.add_mod_right, slot]
          have reach : v + g.slots < 32 * (stop / 32 + min bufBlocks (g.toSeam (stop / 32))) := by
            unfold zoneTop at erased
            omega
          exact absurd around (apart (v + g.slots) (by omega) reach)
        · omega

def WalView.recovered (g : Ring) (bufBlocks : Nat) (h : History) (covered stop lo : Nat) : WalView where
  prior := h.prior
  entries := h.entries.take stop
  gone := covered
  lo := lo
  head := covered / 32
  cur := stop / 32
  win := g.openWin bufBlocks (covered / 32) (stop / 32)
  visible := stop
  synced := stop

-- A recovered log is one that could have been written without any crash.
theorem recovered_quiet (g : Ring) (bufBlocks : Nat) (h : History) (covered stop lo : Nat) (w : Wal) (dev : RawDevice)
    (level : WalLevel) (ready : Readable g bufBlocks w) (ring : walRingSize w.dev.sizeBytes = g.bytes)
    (bufRoom : bufBlocks + 1 ≤ g.blocks) (healthy : dev.Healthy)
    (size : dev.sizeBytes = w.dev.sizeBytes) (clean : dev.medium.unsynced = []) (ordered : covered ≤ stop)
    (listed : stop ≤ h.entries.length) (near : stop + 32 ≤ 32 * (covered / 32) + g.slots) (loHead : 32 * (covered / 32) ≤ lo + 32)
    (loCur : lo ≤ 32 * (stop / 32)) (short : ∀ e ∈ h.entries, e.key.length ≤ kWalKeyMax)
    (ok : RingOk g (WalView.recovered g bufBlocks h covered stop lo).toHistory stop stop dev.medium.cur) :
    Quiet g bufBlocks level (.recovered g bufBlocks h covered stop lo)
      (recoveredWal g bufBlocks h.entries covered stop w dev) := by
  have length : (h.entries.take stop).length = stop := by simp [listed]
  have near' : stop / 32 + 1 ≤ covered / 32 + g.blocks := by
    rw [Ring.slots] at near
    omega
  have seamPos := g.to_seam_pos (stop / 32)
  have bufPos := ready.bufPos
  have same : dev.medium.versions = [dev.medium.cur] := by rw [Medium.versions, clean]
  have stable : dev.medium.stable = dev.medium.cur := by rw [Medium.stable, clean]; rfl
  refine ⟨?_, healthy, clean, rfl, fun _ => ⟨length.symm, Nat.mod_lt _ (by decide)⟩⟩
  exact {
    bufPos := ready.bufPos
    bufRoom := bufRoom
    opened := healthy.opened
    sized := by
      show 8192 + g.bytes ≤ dev.sizeBytes
      rw [size]
      exact ready.sized
    ring := by
      show walRingSize dev.sizeBytes = g.bytes
      rw [size]
      exact ring
    bufSize := ready.bufSize
    ringStart := ready.ringStart
    ringEnd := ready.ringEnd
    seqNext := by
      show stop + 1 = (h.entries.take stop).length + 1
      rw [length]
    curOff := rfl
    headOff := rfl
    window := rfl
    count := by
      show 32 * (stop / 32) + stop % 32 = (h.entries.take stop).length
      omega
    buffer := by
      show some _ = some (windowBuf (h.entries.take stop) (32 * (stop / 32)) (stop % 32) (4096 * bufBlocks))
      rw [windowBuf, windowBuf, frames_from_take _ _ _ _ (by omega)]
    headCur := Nat.div_le_div_right ordered
    winBuf := Nat.min_le_left _ _
    winSeam := Nat.le_trans (Nat.min_le_right _ _) (Nat.min_le_left _ _)
    winRoom := by
      show stop / 32 + g.openWin bufBlocks (covered / 32) (stop / 32) + 1 ≤ covered / 32 + g.blocks
      unfold Ring.openWin
      omega
    framesFit := by
      show stop % 32 ≤ 32 * g.openWin bufBlocks (covered / 32) (stop / 32)
      by_cases room : stop / 32 + 2 ≤ covered / 32 + g.blocks
      · unfold Ring.openWin
        omega
      · rw [Ring.slots] at near
        have full : stop % 32 = 0 := by omega
        omega
    loHead := loHead
    loCur := loCur
    visibleCur := by
      show 32 * (stop / 32) ≤ stop
      omega
    visibleAll := Nat.le_of_eq length.symm
    syncedVisible := Nat.le_refl _
    shortKeys := fun e member => short e (List.mem_of_mem_take member)
    current := by
      have all := ok
      show RingOk g _ stop (h.entries.take stop).length dev.medium.cur
      rw [length]
      exact all
    medium := by
      show MediumOk g _ stop (h.entries.take stop).length dev.medium
      rw [length]
      exact medium_ok_still g _ stop dev.medium clean ok }

-- The callback that keeps what it is given.
def collect : WalReplayFn (List (WalEntry × Nat)) := fun seen e seq => .ok (seen ++ [(e, seq)])

def framesOf (entries : List WalEntry) (covered count : Nat) : List (WalEntry × Nat) :=
  (List.range' covered count).map fun v => ((entries[v]?).getD default, v + 1)

theorem replay_collect (entries : List WalEntry) (count : Nat) :
    ∀ v seen, replayFrom collect entries v count seen = .ok (seen ++ framesOf entries v count) := by
  induction count with
  | zero =>
      intro v seen
      simp [replayFrom, framesOf]
  | succ count ih =>
      intro v seen
      rw [replayFrom]
      simp only [collect]
      rw [ih]
      simp [framesOf, List.range'_succ]

theorem stop_first (g : Ring) (entries : List WalEntry) (img : Image) (covered : Nat) (absent : ¬ Present g entries img covered) :
    stopOf g entries img covered = covered := by
  unfold stopOf
  cases slots : g.slots with
  | zero => rfl
  | succ count => rw [runStop, if_neg absent]

-- The conditions recovery decides on, and what it leaves and delivers when they
-- hold. Where the run stops tells everything else.
structure Replayed (g : Ring) (bufBlocks : Nat) (entries : List WalEntry) (covered stop : Nat) (w : Wal)
    (r : Recovered (List (WalEntry × Nat))) (dev : RawDevice) : Prop where
  result : r = ⟨Err.kSuccess, recoveredWal g bufBlocks entries covered stop w dev, framesOf entries covered (stop - covered)⟩
  untouched : (∀ v, stop < v → ¬ Present g entries w.dev.medium.cur v) → dev = w.dev
  erased : (∃ v, stop < v ∧ Present g entries w.dev.medium.cur v) →
    dev.medium = ⟨erasedImage g bufBlocks entries stop w.dev.medium.cur, []⟩
  erasing : Erasing g w.dev.medium.cur (erasedImage g bufBlocks entries stop w.dev.medium.cur) w.dev dev

theorem recover_replays (g : Ring) (bufBlocks : Nat) (entries : List WalEntry) (written covered : Nat) (w : Wal)
    (r : Recoverable g bufBlocks entries written covered w) (fresh : w.curBuf = none) (healthy : w.dev.Healthy)
    (clean : w.dev.medium.unsynced = []) (stop : Nat) (stopEq : stopOf g entries w.dev.medium.cur covered = stop) :
    ((w.recover covered collect []).rc = Err.kSuccess ↔
      ((∃ v, covered ≤ v ∧ Present g entries w.dev.medium.cur v) → Present g entries w.dev.medium.cur covered) ∧
        ∀ v, stop < v → Present g entries w.dev.medium.cur v → Tolerated g bufBlocks stop v) ∧
    ((w.recover covered collect []).rc = Err.kSuccess →
      ∃ dev, Replayed g bufBlocks entries covered stop w (w.recover covered collect []) dev) := by
  have wide : 32 ≤ g.slots := by
    have := g.room
    rw [Ring.slots]
    omega
  by_cases first : Present g entries w.dev.medium.cur covered
  · obtain ⟨_, run⟩ := recover_run g bufBlocks entries written covered w r fresh healthy clean collect [] first stop stopEq
    obtain ⟨bad, good⟩ := run _ (replay_collect entries (stop - covered) covered [])
    by_cases tolerated : ∀ v, stop < v → Present g entries w.dev.medium.cur v → Tolerated g bufBlocks stop v
    · obtain ⟨dev, done, untouched, erased, erasing⟩ := good tolerated
      exact ⟨⟨fun _ => ⟨fun _ => first, tolerated⟩, fun _ => by rw [done]⟩, fun _ => ⟨dev, done, untouched, erased, erasing⟩⟩
    · have refused := bad (by
        by_contra all
        exact tolerated fun v late here => by
          by_contra out
          exact all ⟨v, late, here, out⟩)
      refine ⟨⟨fun success => ?_, fun both => absurd both.2 tolerated⟩, fun success => ?_⟩ <;>
        exact absurd (refused.symm.trans success) (by decide)
  · have here := stop_first g entries w.dev.medium.cur covered first
    rw [stopEq] at here
    by_cases live : ∃ v, covered ≤ v ∧ Present g entries w.dev.medium.cur v
    · have refused := recover_gate g bufBlocks entries written covered w r.toScannable fresh collect [] live first
      refine ⟨⟨fun success => ?_, fun both => absurd (both.1 live) first⟩, fun success => ?_⟩ <;>
        exact absurd (refused.symm.trans success) (by decide)
    · have none_ : ∀ v, covered ≤ v → ¬ Present g entries w.dev.medium.cur v := fun v lower at_ => live ⟨v, lower, at_⟩
      have done := recover_idle g bufBlocks entries written covered w r fresh healthy clean wide collect [] none_
      refine ⟨⟨fun _ => ⟨fun some_ => absurd some_ live, fun v late at_ => absurd at_ (none_ v (by omega))⟩, fun _ => by rw [done]⟩,
        fun _ => ⟨w.dev, ?_, fun _ => rfl, ?_, erasing_refl g _ w.dev healthy clean⟩⟩
      · rw [done, here, Nat.sub_self]
        rfl
      · rintro ⟨v, late, at_⟩
        exact absurd at_ (none_ v (by omega))

end Cabe
