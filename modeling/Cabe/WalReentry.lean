import Cabe.WalTorn

set_option autoImplicit false

namespace Cabe

open Storage

-- Where the frame of this number belongs, whoever writes it.
def Wal.frameOff (w : Wal) (seq : Nat) : Nat := w.ringStart + (seq - 1) * kWalFrameSize % (w.ringEnd - w.ringStart)

-- Uncovered frames lie behind the end of the run that starts at covered, and the
-- blocks from there on that recovery writes with zeros reach the one that the
-- live region starts in.
def ErasesHead (w : Wal) (img : Image) (covered : Nat) : Prop :=
  ∃ last, covered ≤ last ∧ (∀ seq, covered < seq → seq ≤ last → FrameOn w.slotCount img seq) ∧
    ¬ FrameOn w.slotCount img (last + 1) ∧ (∃ seq, last + 1 < seq ∧ FrameOn w.slotCount img seq) ∧
    blockFloor (w.frameOff (last + 1)) < blockFloor (w.frameOff (covered + 1)) ∧
    blockFloor (w.frameOff (covered + 1)) < zoneEnd (w.frameOff (last + 1)) w.bufSize w.ringEnd

-- Every slot that held a delivered frame holds the same bytes.
def KeepsDelivered (slots : Nat) (before after : Image) (st : List (WalEntry × Nat)) : Prop :=
  ∀ p < slots, verifyFrame (slotFrame before p) = true → (∃ e, (e, (slotFrame before p).seq.toNat) ∈ st) →
    slotBytes after p = slotBytes before p

def Session.Repeats (s : Session) (bufSize : Nat) (img : Image) (st : List (WalEntry × Nat)) : Prop :=
  ∀ opts w, s.Reopens img opts w → w.bufSize = bufSize →
    (w.recover s.covered collect []).rc = Err.kSuccess ∧ (w.recover s.covered collect []).st = st

-- A recovery that succeeded can be run again: after closing what it returned,
-- and after a crash at any point of its own writes.
structure Reentrant (s : Session) (w : Wal) (img : Image) (r : Recovered (List (WalEntry × Nat))) : Prop where
  keeps : KeepsDelivered w.slotCount img r.wal.dev.medium.cur r.st
  repeats : ∀ level, s.Repeats w.bufSize (r.wal.close level).2.dev.medium.cur r.st
  crashed : ∀ m ∈ r.wal.dev.trace.drop w.dev.trace.length, ∀ img', m.Survives kSectorSize img' →
    KeepsDelivered w.slotCount img img' r.st ∧ s.Repeats w.bufSize img' r.st

theorem readable_frame_off (g : Ring) (bufBlocks : Nat) (w : Wal) (ready : Readable g bufBlocks w) (v : Nat) :
    w.frameOff (v + 1) = g.slotOff v := by
  have size : g.bytes = 128 * g.slots := by
    rw [Ring.bytes, Ring.slots]
    omega
  unfold Wal.frameOff
  rw [ready.ringStart, ready.ringEnd, kWalFrameSize, Nat.add_sub_cancel, Nat.add_sub_cancel_left, size, Nat.mul_comm v,
    Nat.mul_mod_mul_left, Ring.slotOff]

-- The erased zone in virtual numbers and in offsets.
theorem zone_reaches_head (g : Ring) (bufBlocks covered stop : Nat) (ordered : covered ≤ stop)
    (near : stop + 32 ≤ 32 * (covered / 32) + g.slots) :
    32 * (covered / 32) + g.slots < zoneTop g bufBlocks stop ↔
      g.blockOff (stop / 32) < g.blockOff (covered / 32) ∧
        g.blockOff (covered / 32) < zoneEnd (g.slotOff stop) (4096 * bufBlocks) (8192 + g.bytes) := by
  have low := g.block_lt (stop / 32)
  have low' := g.block_lt (covered / 32)
  have step : covered / 32 ≤ stop / 32 := Nat.div_le_div_right ordered
  rw [zoneEnd, g.block_floor_slot]
  unfold zoneTop Ring.toSeam
  rw [Ring.slots] at near ⊢
  rw [Ring.blockOff, Ring.blockOff, Ring.bytes]
  have parts := Nat.div_add_mod (stop / 32) g.blocks
  have parts' := Nat.div_add_mod (covered / 32) g.blocks
  constructor
  · intro reach
    have far : stop / 32 % g.blocks + (covered / 32 + g.blocks - stop / 32) < g.blocks := by omega
    have around : covered / 32 % g.blocks = stop / 32 % g.blocks + (covered / 32 + g.blocks - stop / 32) := by
      rw [← Nat.mod_eq_of_lt far, Nat.add_mod, Nat.mod_mod, ← Nat.add_mod,
        show stop / 32 + (covered / 32 + g.blocks - stop / 32) = covered / 32 + g.blocks by omega, Nat.add_mod_right]
    omega
  · rintro ⟨after, before⟩
    have same : (stop / 32 + (covered / 32 % g.blocks - stop / 32 % g.blocks)) % g.blocks = (covered / 32 + g.blocks) % g.blocks := by
      rw [Nat.add_mod_right, Nat.add_mod, Nat.mod_eq_of_lt (show covered / 32 % g.blocks - stop / 32 % g.blocks < g.blocks by omega),
        show stop / 32 % g.blocks + (covered / 32 % g.blocks - stop / 32 % g.blocks) = covered / 32 % g.blocks by omega,
        Nat.mod_eq_of_lt low']
    have equal : stop / 32 + (covered / 32 % g.blocks - stop / 32 % g.blocks) = covered / 32 + g.blocks := by
      rcases Nat.le_total (stop / 32 + (covered / 32 % g.blocks - stop / 32 % g.blocks)) (covered / 32 + g.blocks) with less | less
      · exact lap_unique g.blocks _ _ less (by omega) same
      · exact (lap_unique g.blocks _ _ less (by omega) same.symm).symm
    omega

theorem frames_of_take (entries : List WalEntry) (covered count total : Nat) (fits : covered + count ≤ total) :
    framesOf (entries.take total) covered count = framesOf entries covered count := by
  unfold framesOf
  apply List.map_congr_left
  intro v member
  have bound := (List.mem_range'_1.mp member).2
  rw [List.getElem?_take_of_lt (by omega)]

theorem frames_of_seq (entries : List WalEntry) (covered count seq : Nat) :
    (∃ e, (e, seq) ∈ framesOf entries covered count) ↔ covered < seq ∧ seq ≤ covered + count := by
  unfold framesOf
  constructor
  · rintro ⟨e, member⟩
    obtain ⟨v, inside, same⟩ := List.mem_map.mp member
    have bound := List.mem_range'_1.mp inside
    have number : v + 1 = seq := congrArg Prod.snd same
    omega
  · rintro ⟨lower, upper⟩
    refine ⟨(entries[seq - 1]?).getD default, List.mem_map.mpr ⟨seq - 1, List.mem_range'_1.mpr (by omega), ?_⟩⟩
    rw [show seq - 1 + 1 = seq by omega]

theorem erases_head_iff (g : Ring) (bufBlocks : Nat) (h : History) (synced written covered stop : Nat) (img : Image) (w : Wal)
    (crash : CrashImage g h synced written covered img) (reopened : Reopened g bufBlocks img w)
    (found : CrashRun g bufBlocks h synced written covered stop img w) :
    ErasesHead w img covered ↔
      (∃ v, stop < v ∧ Present g h.entries img v) ∧ 32 * (covered / 32) + g.slots < zoneTop g bufBlocks stop := by
  have ready := reopened.ready
  have placed := placed_of_ring g h synced written img crash.ring crash.stale crash.listed crash.fits crash.short
  have near := crash.near
  have lower := found.lower
  have upper := found.upper
  have on (v : Nat) (from_ : covered ≤ v) := frame_on_present g h.entries written img placed covered v from_
  have reach := zone_reaches_head g bufBlocks covered stop lower (by omega)
  rw [reach]
  unfold ErasesHead
  rw [readable_slots g bufBlocks w ready]
  constructor
  · rintro ⟨last, from_, run, absent, ⟨seq, late, later⟩, after, before⟩
    have same : last = stop := by
      rcases Nat.lt_trichotomy last stop with less | equal | more
      · exact absurd ((on last from_).mpr (found.run last from_ less)) absent
      · exact equal
      · exact absurd ((on stop lower).mp (run (stop + 1) (by omega) (by omega))) found.absent
    subst same
    obtain ⟨v, rfl⟩ : ∃ v, seq = v + 1 := ⟨seq - 1, by omega⟩
    rw [readable_frame_off g bufBlocks w ready, readable_frame_off g bufBlocks w ready, g.block_floor_slot, g.block_floor_slot] at after
    rw [readable_frame_off g bufBlocks w ready, readable_frame_off g bufBlocks w ready, g.block_floor_slot, ready.bufSize,
      ready.ringEnd] at before
    exact ⟨⟨v, by omega, (on v (by omega)).mp later⟩, after, before⟩
  · rintro ⟨⟨v, late, here⟩, after, before⟩
    refine ⟨stop, lower, fun seq above within => ?_, fun next => found.absent ((on stop lower).mp next),
      ⟨v + 1, by omega, (on v (by omega)).mpr here⟩, ?_, ?_⟩
    · obtain ⟨u, rfl⟩ : ∃ u, seq = u + 1 := ⟨seq - 1, by omega⟩
      exact (on u (by omega)).mpr (found.run u (by omega) (by omega))
    · rw [readable_frame_off g bufBlocks w ready, readable_frame_off g bufBlocks w ready, g.block_floor_slot, g.block_floor_slot]
      exact after
    · rw [readable_frame_off g bufBlocks w ready, readable_frame_off g bufBlocks w ready, g.block_floor_slot, ready.bufSize,
        ready.ringEnd]
      exact before

-- Erasing behind the run leaves the run alone as long as the zone ends before
-- the block that the live region starts in.
theorem erased_keeps (g : Ring) (bufBlocks : Nat) (entries : List WalEntry) (covered stop v : Nat) (img : Image) (pos : 0 < bufBlocks)
    (here : Present g entries img v) (lower : covered ≤ v) (upper : v < stop)
    (zone : zoneTop g bufBlocks stop ≤ 32 * (covered / 32) + g.slots) :
    slotBytes (erasedImage g bufBlocks entries stop img) (v % g.slots) = slotBytes img (v % g.slots) := by
  have wide : 64 ≤ g.slots := by
    have := g.room
    rw [Ring.slots]
    omega
  rcases erased_slot g bufBlocks entries stop img _ pos (g.slot_lt v) with ⟨u, from_, below, slot, bytes⟩ | ⟨_, same⟩
  · have inside : u < zoneTop g bufBlocks stop := below
    have equal : u = v := by
      rcases Nat.le_total u v with less | less
      · exact g.same_slot u v less (by omega) slot
      · exact (g.same_slot v u less (by omega) slot.symm).symm
    rw [bytes, equal, if_pos upper, here.2]
  · exact same

theorem ring_ok_take (g : Ring) (prior : Nat → Bytes) (entries : List WalEntry) (gone lo stop written : Nat) (img : Image)
    (bound : stop ≤ written) (ok : RingOk g ⟨prior, entries.take stop, gone, lo⟩ stop stop img) :
    RingOk g ⟨prior, entries, gone, lo⟩ stop written img := by
  intro p inside
  refine ⟨fun v lower upper slot => ?_, fun valid => ?_⟩
  · rw [(ok p inside).holds v lower upper slot]
    exact frame_at_take entries stop v upper
  · rcases (ok p inside).genuine valid with old | ⟨v, below, place, slot, bytes⟩
    · exact .inl old
    · exact .inr ⟨v, by omega, place, slot, bytes.trans (frame_at_take entries stop v below)⟩

theorem ring_ok_blend (g : Ring) (h : History) (kept written : Nat) (old new img : Image) (blend : Blend g old new img)
    (before : RingOk g h kept written old) (after : RingOk g h kept written new) : RingOk g h kept written img := by
  intro p bound
  rcases blend p bound with same | same
  · rw [same]
    exact before p bound
  · rw [same]
    exact after p bound

-- What recovery found, on an image that its erasure has partly changed.
theorem blended_image_recovers (g : Ring) (bufBlocks : Nat) (h : History) (synced written covered stop : Nat) (img img' : Image)
    (w w' : Wal) (crash : CrashImage g h synced written covered img) (reopened : Reopened g bufBlocks img w)
    (found : CrashRun g bufBlocks h synced written covered stop img w) (begun : covered < stop) (low : h.lo ≤ 32 * (covered / 32))
    (tolerated : ∀ v, stop < v → Present g h.entries img v → Tolerated g bufBlocks stop v)
    (zone : zoneTop g bufBlocks stop ≤ 32 * (covered / 32) + g.slots)
    (blend : Blend g img (erasedImage g bufBlocks h.entries stop img) img') (stale : NoStale g h.prior img')
    (reopened' : Reopened g bufBlocks img' w') :
    (w'.recover covered collect []).rc = Err.kSuccess ∧
      (w'.recover covered collect []).st = framesOf h.entries covered (stop - covered) := by
  have listed := crash.listed
  have inside := crash.inside
  have near := crash.near
  have fits := crash.fits
  have upper := found.upper
  have placed := placed_of_ring g h synced written img crash.ring crash.stale listed crash.fits crash.short
  have erased := ring_ok_erased g bufBlocks h synced written covered stop (max h.lo (32 * (covered / 32) - 32)) img
    reopened.ready.bufPos crash.ring listed inside (Nat.le_max_left _ _) (by omega) found.lower (by omega) (by omega) found.run
    found.absent tolerated
  have lo : max (max h.lo (32 * (covered / 32) - 32)) (zoneTop g bufBlocks stop - g.slots) ≤ 32 * (covered / 32) := by omega
  have raised : h.lo ≤ max (max h.lo (32 * (covered / 32) - 32)) (zoneTop g bufBlocks stop - g.slots) := by omega
  generalize max (max h.lo (32 * (covered / 32) - 32)) (zoneTop g bufBlocks stop - g.slots) = lo' at erased lo raised
  have after := ring_ok_take g h.prior h.entries covered lo' stop written _ upper erased
  have before : RingOk g ⟨h.prior, h.entries, covered, lo'⟩ stop written img := by
    intro p bound
    refine ⟨fun v from_ below slot => ?_, fun valid => ?_⟩
    · have from' : lo' ≤ v := from_
      by_cases old : v < covered
      · exact (crash.ring p bound).holds v (by omega) (by omega) slot
      · have here := (found.run v (by omega) below).2
        rw [slot] at here
        exact here
    · rcases (crash.ring p bound).genuine valid with old | ⟨v, below, _, slot, bytes⟩
      · exact .inl old
      · exact .inr ⟨v, below, by show v < covered ∨ lo' ≤ v; omega, slot, bytes⟩
  have blended := ring_ok_blend g _ stop written img _ img' blend before after
  have crash' : CrashImage g ⟨h.prior, h.entries, covered, lo'⟩ stop written covered img' :=
    ⟨blended, stale, found.lower, upper, listed, fits, near, .inl ⟨by show lo' ≤ 32 * (covered / 32); omega, .inr (.inr begun)⟩,
      crash.short⟩
  obtain ⟨stop', found'⟩ := crash_image_run g bufBlocks _ stop written covered img' w' crash' reopened'
    (by show lo' ≤ 32 * (covered / 32); omega)
  -- A live frame behind the run is one that the first recovery saw there too.
  have later (v : Nat) (late : stop ≤ v) (here : Present g h.entries img' v) : Present g h.entries img v := by
    rcases blend _ (g.slot_lt v) with same | same
    · exact ⟨here.1, by rw [← same]; exact here.2⟩
    · have bytes : slotBytes (erasedImage g bufBlocks h.entries stop img) (v % g.slots) = frameAt h.entries v := same.symm.trans here.2
      have valid := frame_at_verifies h.entries crash.short v
      rw [← bytes] at valid
      rcases (erased _ (g.slot_lt v)).genuine valid with old | ⟨u, below, _, _, frame⟩
      · have found_ := stale _ (g.slot_lt v) (same.trans old)
        rw [slotFrame, same] at found_
        exact absurd (found_.symm.trans valid) (by decide)
      · have listed' := here.1
        have equal := frame_at_injective h.entries u v (by omega) (by omega)
          ((frame_at_take h.entries stop u below).symm.trans (frame.symm.trans bytes))
        omega
  have same : stop' = stop := by
    have reach := found'.reach
    rcases Nat.lt_or_ge stop stop' with more | less
    · exact absurd (later stop (Nat.le_refl _) (found'.run stop (by omega) more)) found.absent
    · omega
  subst same
  have success := found'.success.mpr ⟨fun _ => found'.run covered (Nat.le_refl _) begun,
    fun v late here => tolerated v late (later v (by omega) here)⟩
  obtain ⟨dev, replayed⟩ := found'.replayed success
  exact ⟨success, by rw [replayed.result]⟩

theorem reopens_again (g : Ring) (bufBlocks : Nat) (s : Session) (img img' : Image) (opts opts' : Options) (w w' : Wal)
    (reopens : s.Reopens img opts w) (reopened : Reopened g bufBlocks img w) (again : s.Reopens img' opts' w')
    (same : w'.bufSize = w.bufSize) : Reopened g bufBlocks img' w' := by
  have device := (open_wal_success _ opts w reopens.opened).device
  have size := reopened.ready.bufSize
  have bufPos := reopened.ready.bufPos
  have ring : walRingSize s.wal.dev.sizeBytes = g.bytes := by
    rw [← reopened.ring, device]
    rfl
  have readable : ∀ k, s.wal.dev.unreadable k = false := by
    intro k
    rw [← reopened.healthy.readable k, device]
    rfl
  obtain ⟨b, reopened'⟩ := reopens_ready g s img' opts' w' again (by omega) ring readable
  have size' := reopened'.ready.bufSize
  have equal : b = bufBlocks := by omega
  exact equal ▸ reopened'

-- The life after a recovery that kept away from the live region, once closed.
theorem closed_life_repeats (g : Ring) (bufBlocks : Nat) (s : Session) (h : History) (synced stop : Nat) (level : WalLevel)
    (img : Image) (r : Recovered (List (WalEntry × Nat))) (w' : Wal)
    (restarted : Restarted g bufBlocks s h synced stop level img r) (blank : BlankPrior g h.prior) (fits : h.entries.length < 2 ^ 64)
    (apart : ¬ ((∃ v, stop < v ∧ Present g h.entries img v) ∧ 32 * (s.covered / 32) + g.slots < zoneTop g bufBlocks stop))
    (reopened : Reopened g bufBlocks (r.wal.close level).2.dev.medium.cur w') :
    (w'.recover s.covered collect []).rc = Err.kSuccess ∧ (w'.recover s.covered collect []).st = r.st := by
  obtain ⟨lo, inv, around⟩ := restarted.inv
  have listed := restarted.listed
  have ordered := inv.covered
  have inside : s.covered ≤ stop := ordered
  have taken : (s.restart level h.entries r.wal).entries = h.entries.take stop := by
    rw [← restarted.last]
    rfl
  have count : (h.entries.take stop).length = stop := by simp [listed]
  have bound : lo ≤ 32 * (s.covered / 32) := by
    by_contra high
    obtain ⟨reach, fragments⟩ := around (by omega)
    exact apart ⟨fragments, reach⟩
  obtain ⟨success, frames⟩ := closed_life_recovers g bufBlocks bufBlocks _ (s.restart level h.entries r.wal) w' inv bound
    (fun img' => blank_stale g h.prior img' blank) (by rw [taken, count]; omega) reopened
  rw [taken, count] at frames
  refine ⟨success, frames.trans ?_⟩
  show framesOf (h.entries.take stop) s.covered (stop - s.covered) = r.st
  rw [restarted.frames, frames_of_take _ _ _ _ (by omega)]

-- What a successful recovery is known by: the image it found, where its run
-- stopped and the device it left.
structure Recovery (g : Ring) (bufBlocks : Nat) (s : Session) (h : History) (synced written stop : Nat) (img : Image) (w : Wal)
    (dev : RawDevice) : Prop where
  blank : BlankPrior g h.prior
  crash : CrashImage g h synced written s.covered img
  reopened : Reopened g bufBlocks img w
  low : h.lo ≤ 32 * (s.covered / 32)
  found : CrashRun g bufBlocks h synced written s.covered stop img w
  success : (w.recover s.covered collect []).rc = Err.kSuccess
  replayed : Replayed g bufBlocks h.entries s.covered stop w (w.recover s.covered collect []) dev

theorem recovery_of_image (g : Ring) (bufBlocks : Nat) (s : Session) (h : History) (synced written : Nat) (img : Image) (w : Wal)
    (blank : BlankPrior g h.prior) (crash : CrashImage g h synced written s.covered img) (reopened : Reopened g bufBlocks img w)
    (success : (w.recover s.covered collect []).rc = Err.kSuccess) :
    ∃ stop dev, Recovery g bufBlocks s h synced written stop img w dev := by
  rcases crash_image_recoverable g bufBlocks h synced written s.covered img w crash reopened with ⟨low, _⟩ | ⟨_, refused⟩
  · obtain ⟨stop, found⟩ := crash_image_run g bufBlocks h synced written s.covered img w crash reopened low
    obtain ⟨dev, replayed⟩ := found.replayed success
    exact ⟨stop, dev, blank, crash, reopened, low, found, success, replayed⟩
  · exact absurd ((refused _ collect []).symm.trans success) (by decide)

section Recovery

variable (g : Ring) (bufBlocks : Nat) (s : Session) (h : History) (synced written stop : Nat) (img : Image) (w : Wal) (dev : RawDevice)

theorem recovery_image (r : Recovery g bufBlocks s h synced written stop img w dev) : w.dev.medium.cur = img := by
  rw [r.reopened.image]
  rfl

theorem recovery_frames (r : Recovery g bufBlocks s h synced written stop img w dev) :
    (w.recover s.covered collect []).st = framesOf h.entries s.covered (stop - s.covered) := by
  rw [r.replayed.result]

theorem recovery_device (r : Recovery g bufBlocks s h synced written stop img w dev) :
    (w.recover s.covered collect []).wal.dev = dev := by
  rw [r.replayed.result]
  rfl

theorem recovery_placed (r : Recovery g bufBlocks s h synced written stop img w dev) : Placed g h.entries written img :=
  placed_of_ring g h synced written img r.crash.ring r.crash.stale r.crash.listed r.crash.fits r.crash.short

theorem recovery_untouched (r : Recovery g bufBlocks s h synced written stop img w dev)
    (none_ : ¬ ∃ v, stop < v ∧ Present g h.entries img v) : dev = w.dev :=
  r.replayed.untouched fun v late here => none_ ⟨v, late, by rw [← recovery_image g bufBlocks s h synced written stop img w dev r]; exact here⟩

theorem recovery_erased (r : Recovery g bufBlocks s h synced written stop img w dev)
    (some_ : ∃ v, stop < v ∧ Present g h.entries img v) : dev.medium.cur = erasedImage g bufBlocks h.entries stop img := by
  have image := recovery_image g bufBlocks s h synced written stop img w dev r
  rw [r.replayed.erased (by rw [image]; exact some_), image]

-- Fragments are only ever found behind a run that has begun.
theorem recovery_begun (r : Recovery g bufBlocks s h synced written stop img w dev)
    (some_ : ∃ v, stop < v ∧ Present g h.entries img v) : s.covered < stop := by
  obtain ⟨v, late, here⟩ := some_
  have lower := r.found.lower
  rcases Nat.lt_or_eq_of_le lower with less | same
  · exact less
  · exact absurd (same ▸ (r.found.success.mp r.success).1 ⟨v, by omega, here⟩) r.found.absent

theorem recovery_delivered (r : Recovery g bufBlocks s h synced written stop img w dev) (p : Nat) (bound : p < g.slots)
    (valid : verifyFrame (slotFrame img p) = true)
    (listed : ∃ e, (e, (slotFrame img p).seq.toNat) ∈ (w.recover s.covered collect []).st) :
    ∃ v, s.covered ≤ v ∧ v < stop ∧ v % g.slots = p ∧ Present g h.entries img v := by
  have lower := r.found.lower
  rw [recovery_frames g bufBlocks s h synced written stop img w dev r, frames_of_seq] at listed
  obtain ⟨v, from_, _, slot, number, here⟩ := live_present g h.entries written img
    (recovery_placed g bufBlocks s h synced written stop img w dev r) s.covered p bound valid (by omega)
  exact ⟨v, from_, by omega, slot, here⟩

-- The slot of the first delivered frame has been written with zeros.
theorem erasing_head_loses (r : Recovery g bufBlocks s h synced written stop img w dev)
    (fragments : ∃ v, stop < v ∧ Present g h.entries img v) (reach : 32 * (s.covered / 32) + g.slots < zoneTop g bufBlocks stop) :
    ¬ KeepsDelivered w.slotCount img (w.recover s.covered collect []).wal.dev.medium.cur (w.recover s.covered collect []).st := by
  intro keeps
  have begun := recovery_begun g bufBlocks s h synced written stop img w dev r fragments
  have near := r.crash.near
  have upper := r.found.upper
  have first := r.found.run s.covered (Nat.le_refl _) begun
  obtain ⟨valid, number, _⟩ := present_frame g h.entries written img (recovery_placed g bufBlocks s h synced written stop img w dev r)
    s.covered first
  have kept := keeps _ (by rw [readable_slots g bufBlocks w r.reopened.ready]; exact g.slot_lt s.covered) valid
    ⟨(h.entries[s.covered]?).getD default, by
      rw [recovery_frames g bufBlocks s h synced written stop img w dev r, number]
      exact List.mem_map.mpr ⟨s.covered, List.mem_range'_1.mpr (by omega), rfl⟩⟩
  have top := zone_top_lap g bufBlocks stop
  have aligned : zoneTop g bufBlocks stop % 32 = 0 := by
    unfold zoneTop
    omega
  have size : g.slots % 32 = 0 := by
    rw [Ring.slots]
    omega
  have around : (s.covered + g.slots) % g.slots = s.covered % g.slots := Nat.add_mod_right _ _
  rw [recovery_device g bufBlocks s h synced written stop img w dev r,
    recovery_erased g bufBlocks s h synced written stop img w dev r fragments] at kept
  rcases erased_slot g bufBlocks h.entries stop img _ r.reopened.ready.bufPos (g.slot_lt s.covered) with
    ⟨u, from_, below, slot, bytes⟩ | ⟨apart, _⟩
  · have inside : u < zoneTop g bufBlocks stop := below
    have equal : u = s.covered + g.slots := by
      rcases Nat.le_total u (s.covered + g.slots) with less | less
      · exact g.same_slot u _ less (by omega) (slot.trans around.symm)
      · exact (g.same_slot _ u less (by omega) (around.trans slot.symm)).symm
    rw [bytes, if_neg (by omega)] at kept
    rw [slotFrame, ← kept, verify_zeros] at valid
    cases valid
  · have inside : s.covered + g.slots < zoneTop g bufBlocks stop := by omega
    exact absurd around (apart (s.covered + g.slots) (by omega) inside)

theorem zone_apart_keeps (r : Recovery g bufBlocks s h synced written stop img w dev)
    (apart : ¬ ((∃ v, stop < v ∧ Present g h.entries img v) ∧ 32 * (s.covered / 32) + g.slots < zoneTop g bufBlocks stop)) :
    KeepsDelivered w.slotCount img (w.recover s.covered collect []).wal.dev.medium.cur (w.recover s.covered collect []).st := by
  intro p bound valid listed
  rw [readable_slots g bufBlocks w r.reopened.ready] at bound
  obtain ⟨v, from_, below, slot, here⟩ := recovery_delivered g bufBlocks s h synced written stop img w dev r p bound valid listed
  subst slot
  rw [recovery_device g bufBlocks s h synced written stop img w dev r]
  by_cases fragments : ∃ v, stop < v ∧ Present g h.entries img v
  · rw [recovery_erased g bufBlocks s h synced written stop img w dev r fragments]
    exact erased_keeps g bufBlocks h.entries s.covered stop v img r.reopened.ready.bufPos here from_ below
      (Nat.le_of_not_lt fun reach => apart ⟨fragments, reach⟩)
  · rw [recovery_untouched g bufBlocks s h synced written stop img w dev r fragments,
      recovery_image g bufBlocks s h synced written stop img w dev r]

theorem zone_apart_repeats (r : Recovery g bufBlocks s h synced written stop img w dev) (opts : Options) (reopens : s.Reopens img opts w)
    (apart : ¬ ((∃ v, stop < v ∧ Present g h.entries img v) ∧ 32 * (s.covered / 32) + g.slots < zoneTop g bufBlocks stop))
    (level : WalLevel) :
    s.Repeats w.bufSize ((w.recover s.covered collect []).wal.close level).2.dev.medium.cur (w.recover s.covered collect []).st := by
  intro opts' w' again same
  obtain ⟨stop', restarted⟩ := crash_image_restarts g bufBlocks s h synced written img w level r.crash r.reopened r.success
  have equal : stop' = stop := by
    rw [← restarted.last, r.replayed.result]
    exact Nat.add_sub_cancel stop 1
  subst equal
  exact closed_life_repeats g bufBlocks s h synced stop' level img _ w' restarted r.blank r.crash.fits apart
    (reopens_again g bufBlocks s img _ opts opts' w w' reopens r.reopened again same)

theorem zone_apart_crashes (r : Recovery g bufBlocks s h synced written stop img w dev) (opts : Options) (reopens : s.Reopens img opts w)
    (apart : ¬ ((∃ v, stop < v ∧ Present g h.entries img v) ∧ 32 * (s.covered / 32) + g.slots < zoneTop g bufBlocks stop))
    (m : Medium) (during : m ∈ (w.recover s.covered collect []).wal.dev.trace.drop w.dev.trace.length) (img' : Image)
    (alive : m.Survives kSectorSize img') :
    KeepsDelivered w.slotCount img img' (w.recover s.covered collect []).st ∧
      s.Repeats w.bufSize img' (w.recover s.covered collect []).st := by
  have image := recovery_image g bufBlocks s h synced written stop img w dev r
  obtain ⟨calls, trace, _, every⟩ := r.replayed.erasing.traced
  rw [recovery_device g bufBlocks s h synced written stop img w dev r, trace, List.drop_left] at during
  have blend := blend_mix g _ _ m.versions img' alive (every m during)
  rw [image] at blend
  -- Without fragments no call is made at all.
  have fragments : ∃ v, stop < v ∧ Present g h.entries img v := by
    by_contra none_
    rw [recovery_untouched g bufBlocks s h synced written stop img w dev r none_] at trace
    have empty : calls = [] := by simpa using trace
    rw [empty] at during
    cases during
  have zone := Nat.le_of_not_lt fun reach => apart ⟨fragments, reach⟩
  have begun := recovery_begun g bufBlocks s h synced written stop img w dev r fragments
  refine ⟨fun p bound valid listed => ?_, fun opts' w' again same => ?_⟩
  · rw [readable_slots g bufBlocks w r.reopened.ready] at bound
    obtain ⟨v, from_, below, slot, here⟩ := recovery_delivered g bufBlocks s h synced written stop img w dev r p bound valid listed
    subst slot
    rcases blend _ (g.slot_lt v) with old | new
    · exact old
    · rw [new]
      exact erased_keeps g bufBlocks h.entries s.covered stop v img r.reopened.ready.bufPos here from_ below zone
  · rw [recovery_frames g bufBlocks s h synced written stop img w dev r]
    exact blended_image_recovers g bufBlocks h synced written s.covered stop img img' w w' r.crash r.reopened r.found begun r.low
      (r.found.success.mp r.success).2 zone blend (blank_stale g h.prior img' r.blank)
      (reopens_again g bufBlocks s img img' opts opts' w w' reopens r.reopened again same)

end Recovery

-- A recovery that succeeded keeps what it delivered and can be repeated, after a
-- crash of its own as well, exactly when its erasure stays off the live region.
theorem recover_reentrant_iff (s : Session) (entries : List WalEntry) (m : Medium) (acked : Nat) (img : Image) (opts : Options)
    (w : Wal) (lives : Lives s) (ends : s.Ends entries m acked) (fits : entries.length < 2 ^ 64)
    (alive : m.Survives kSectorSize img) (reopens : s.Reopens img opts w)
    (success : (w.recover s.covered collect []).rc = Err.kSuccess) :
    Reentrant s w img (w.recover s.covered collect []) ↔ ¬ ErasesHead w img s.covered := by
  have pos := reopens_pos s img opts w s.covered collect [] reopens success
  obtain ⟨g, bufBlocks, h, synced, written, rfl, blank, _, crash, reopened⟩ :=
    life_crash_image s entries m acked img opts w (lives_inv s lives) ends fits alive reopens pos
  obtain ⟨stop, dev, r⟩ := recovery_of_image g bufBlocks s h synced written img w blank crash reopened success
  rw [erases_head_iff g bufBlocks h synced written s.covered stop img w crash reopened r.found]
  constructor
  · rintro reentrant ⟨fragments, reach⟩
    exact erasing_head_loses g bufBlocks s h synced written stop img w dev r fragments reach reentrant.keeps
  · intro apart
    exact ⟨zone_apart_keeps g bufBlocks s h synced written stop img w dev r apart,
      zone_apart_repeats g bufBlocks s h synced written stop img w dev r opts reopens apart,
      zone_apart_crashes g bufBlocks s h synced written stop img w dev r opts reopens apart⟩

-- A live region that starts in the third block of four, and a tail that has come
-- around to the first: the three blocks of a buffer reach from there into it.
def erasingLife : Session :=
  let written := (Session.start (blankWal 4 3) .valueSync).run ((List.replicate 70 (plainEntry 1)).map .write)
  let reclaimed := (written.flushAll.2.reclaimPair 0).2
  let around := (reclaimed.run ((List.replicate 58 (plainEntry 1)).map .write)).flushAll.2
  around.run ((List.replicate 10 (plainEntry 1)).map .write)

theorem erasing_life_lives : Lives erasingLife := by
  have written := lives_run ((List.replicate 70 (plainEntry 1)).map .write) _
    (blank_life 4 3 .valueSync (by decide) (by decide) (by decide))
  have reclaimed := Lives.step _ (.reclaim 0) (.step _ .flush written)
  have around := Lives.step _ .flush (lives_run ((List.replicate 58 (plainEntry 1)).map .write) _ reclaimed)
  exact lives_run ((List.replicate 10 (plainEntry 1)).map .write) _ around

theorem erasing_life_inv : ∃ g v, SessionInv g 3 v erasingLife ∧ BlankPrior g v.prior ∧ g.blocks = 4 ∧ v.lo = 32 ∧ v.synced = 128 ∧
    v.entries.length = 138 ∧ erasingLife.wal.nFrames = 10 ∧ erasingLife.level = .valueSync ∧ erasingLife.covered = 70 := by
  unfold erasingLife
  dsimp only
  have short (count : Nat) : ∀ e ∈ List.replicate count (plainEntry 1), e.key.length ≤ kWalKeyMax := by
    intro e member
    rw [(List.mem_replicate.mp member).2]
    decide
  obtain ⟨g, blocks, inv0, blank⟩ := blank_session 4 3 .valueSync (by decide) (by decide) (by decide)
  obtain ⟨v1, inv1, grown1, kept1⟩ :=
    writes_session g 3 (List.replicate 70 (plainEntry 1)) _ _ inv0 (short 70) (show 70 ≤ 32 * (0 + g.blocks - 1) by omega)
  have count1 : v1.entries.length = 70 := by
    rw [grown1.entries]
    rfl
  obtain ⟨v2, step2, grown2, synced2, _, captured2, covered2, reclaimed2, level2, _⟩ := flush_all_view g 3 v1 _ inv1
  have reclaimed1 := inv1.reclaimed
  rw [kept1.captured, count1] at captured2
  rw [kept1.covered] at covered2 reclaimed1
  rw [kept1.level] at level2
  obtain ⟨step3, covered3, _, level3, _⟩ := reclaim_view g 3 v2 _ 0 70 _ step2.inv (by rw [captured2]; rfl)
    (by rw [reclaimed2]; exact Nat.le_trans reclaimed1 (Nat.zero_le _))
  rw [covered2] at covered3
  rw [level2] at level3
  have count3 : (v2.reclaimed (70 / 32)).entries.length = 70 := by
    show v2.entries.length = 70
    rw [grown2.entries, List.append_nil, count1]
  have low3 : (v2.reclaimed (70 / 32)).lo = 32 := by
    show max v2.lo (32 * (70 / 32) - 32) = 32
    rw [grown2.lo, grown1.lo]
    rfl
  obtain ⟨v4, inv4, grown4, kept4⟩ :=
    writes_session g 3 (List.replicate 58 (plainEntry 1)) _ _ step3.inv (short 58) (by
      rw [count3]
      show 70 + 58 ≤ 32 * (2 + g.blocks - 1)
      omega)
  have count4 : v4.entries.length = 128 := by rw [grown4.entries, List.length_append, count3, List.length_replicate]
  obtain ⟨v5, step5, grown5, synced5, few5, _, covered5, _, level5, _⟩ := flush_all_view g 3 v4 _ inv4
  have count5 : v5.entries.length = 128 := by rw [grown5.entries, List.append_nil, count4]
  have frames5 := step5.inv.quiet.inv.count
  have cur5 : v5.cur = 4 := by omega
  have head5 : v5.head = 2 := by
    rw [grown5.head, grown4.head]
    rfl
  have window : 1 ≤ (v5.reopened g 3).win := by
    unfold WalView.reopened
    split
    · show 1 ≤ g.openWin 3 v5.head v5.cur
      rw [head5, cur5, Ring.openWin, Ring.toSeam, blocks]
      decide
    · omega
  obtain ⟨v6, inv6, entries6, synced6, prior6, lo6, _, frames6, covered6, level6⟩ :=
    buffered_session g 3 (List.replicate 10 (plainEntry 1)) _ _ step5.inv (short 10) (by rw [level5, kept4.level, level3]; rfl)
      (by rw [List.length_replicate]; omega)
  refine ⟨g, v6, inv6, ?_, blocks, ?_, ?_, ?_, ?_, ?_, ?_⟩
  · rw [prior6, grown5.prior, grown4.prior]
    show BlankPrior g v2.prior
    rw [grown2.prior, grown1.prior]
    exact blank
  · rw [lo6, grown5.lo, grown4.lo, low3]
  · rw [synced6, synced5, count5]
  · rw [entries6, List.length_append, count5, List.length_replicate]
  · refine frames6.trans ?_
    rw [List.length_replicate]
    omega
  · exact level6.trans (level5.trans (kept4.level.trans level3))
  · exact covered6.trans (covered5.trans (kept4.covered.trans (covered3.trans (by decide))))

-- Only the sector of the first four frames of the last window is lost.
theorem erasing_life_recovery : erasingLife.Ends (erasingLife.step .flush).2.entries erasingLife.tornMedium erasingLife.acked ∧
    (erasingLife.step .flush).2.entries.length < 2 ^ 64 ∧
    ∃ w, erasingLife.Reopens (erasingLife.tornImage tornSector) (plainOptions false 3) w ∧ ∃ g h synced written dev,
      Recovery g 3 erasingLife h synced written 128 (erasingLife.tornImage tornSector) w dev ∧
      (∃ v, 128 < v ∧ Present g h.entries (erasingLife.tornImage tornSector) v) ∧
      32 * (erasingLife.covered / 32) + g.slots < zoneTop g 3 128 := by
  obtain ⟨g, v, inv, blank, blocks, low, synced, count, frames, level, covered⟩ := erasing_life_inv
  have batched : isWalSyncLevel erasingLife.level = false := by rw [level]; rfl
  have busy : erasingLife.wal.nFrames ≠ 0 := by omega
  have slots : g.slots = 128 := by rw [Ring.slots, blocks]
  obtain ⟨during, _⟩ := torn_flush g 3 v erasingLife tornSector inv batched busy
  have ends := Session.Ends.inside (s := erasingLife) .flush _ during
  obtain ⟨w, reopens, same, reopened⟩ := plain_reopens g 3 v erasingLife (erasingLife.tornImage tornSector) inv (by decide)
  obtain ⟨h, synced', written, ok, prior, lo, later, entries, _⟩ := ends_ok g 3 v erasingLife _ _ _ inv ends
  have total : h.entries = v.entries := by rw [entries, (flush_step_wal erasingLife).2, inv.entries]
  have fits : h.entries.length < 2 ^ 64 := by rw [total, count]; decide
  rw [← prior] at blank
  have crash := crash_image g 3 erasingLife h synced' written _ _ ok (torn_image_mix erasingLife tornSector)
    (blank_stale g h.prior _ blank) fits
  have gone := torn_lost g 3 v erasingLife tornSector 128 inv batched busy (by rw [← prior]; exact blank) (by omega) (by omega)
    (by rw [slots]; decide)
  have kept := torn_kept g 3 v erasingLife tornSector 132 inv batched busy (by omega) (by omega) (by rw [slots]; decide)
  rw [← total] at gone kept
  obtain ⟨stop, found⟩ := crash_image_run g 3 h synced' written erasingLife.covered _ w crash reopened
    (by rw [lo, low, covered]; decide)
  have reach := found.reach
  have stopped : stop = 128 := by
    rcases Nat.lt_or_ge 128 stop with more | less
    · exact absurd (found.run 128 (by omega) more) gone
    · omega
  subst stopped
  have placed := placed_of_ring g h synced' written _ crash.ring crash.stale crash.listed crash.fits crash.short
  have success := found.success.mpr ⟨fun _ => found.run _ (Nat.le_refl _) (by omega),
    fun u late here => torn_tolerated g 3 synced' written 128 u ok.torn reach late (present_written g h.entries written _ placed u here)⟩
  obtain ⟨dev, replayed⟩ := found.replayed success
  refine ⟨ends, by rw [← entries]; exact fits, w, reopens, g, h, synced', written, dev,
    ⟨blank, crash, reopened, by rw [lo, low, covered]; decide, found, success, replayed⟩, ⟨132, by decide, kept⟩, ?_⟩
  rw [covered, slots, zoneTop, Ring.toSeam, blocks]
  decide

theorem erasing_life_loses : ∃ w, Lives erasingLife ∧
    erasingLife.Ends (erasingLife.step .flush).2.entries erasingLife.tornMedium erasingLife.acked ∧
    erasingLife.tornMedium.Survives kSectorSize (erasingLife.tornImage tornSector) ∧
    erasingLife.Reopens (erasingLife.tornImage tornSector) (plainOptions false 3) w ∧
    (w.recover erasingLife.covered collect []).rc = Err.kSuccess ∧
    ¬ Reentrant erasingLife w (erasingLife.tornImage tornSector) (w.recover erasingLife.covered collect []) := by
  obtain ⟨ends, _, w, reopens, g, h, synced, written, dev, r, fragments, reach⟩ := erasing_life_recovery
  refine ⟨w, erasing_life_lives, ends, torn_image_mix erasingLife tornSector, reopens, r.success, fun reentrant => ?_⟩
  exact erasing_head_loses g 3 erasingLife h synced written 128 _ w dev r fragments reach reentrant.keeps

theorem recover_reentrant_erasing : ∃ w, erasingLife.Reopens (erasingLife.tornImage tornSector) (plainOptions false 3) w ∧
    (Reentrant erasingLife w (erasingLife.tornImage tornSector) (w.recover erasingLife.covered collect []) ↔
      ¬ ErasesHead w (erasingLife.tornImage tornSector) erasingLife.covered) := by
  obtain ⟨ends, fits, w, reopens, _, _, _, _, _, r, _, _⟩ := erasing_life_recovery
  exact ⟨w, reopens, recover_reentrant_iff erasingLife _ _ _ _ _ w erasing_life_lives ends fits (torn_image_mix erasingLife tornSector)
    reopens r.success⟩

end Cabe
