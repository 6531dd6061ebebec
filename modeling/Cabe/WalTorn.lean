import Cabe.WalGenerations

set_option autoImplicit false

namespace Cabe

open Storage

def Wal.slotCount (w : Wal) : Nat := (w.ringEnd - w.ringStart) / kWalFrameSize

-- The frame of this number is in one of the ring's slots and verifies.
def FrameOn (slots : Nat) (img : Image) (seq : Nat) : Prop :=
  ∃ p < slots, verifyFrame (slotFrame img p) = true ∧ (slotFrame img p).seq.toNat = seq

-- The first uncovered frame is there, or no uncovered frame is.
def FirstFrameThere (slots covered : Nat) (img : Image) : Prop :=
  (∃ seq, covered < seq ∧ FrameOn slots img seq) → FrameOn slots img (covered + 1)

-- Recovery succeeds with a stretch of the uncovered frames, in order, in which
-- no frame is missing that the last completed sync had made durable.
def DeliversSynced (slots covered : Nat) (m : Medium) (entries : List WalEntry) (r : Recovered (List (WalEntry × Nat))) : Prop :=
  r.rc = Err.kSuccess ∧ ∃ last, r.st = framesOf entries covered (last - covered) ∧ last ≤ entries.length ∧
    ∀ seq, covered < seq → FrameOn slots m.stable seq → seq ≤ last

theorem readable_slots (g : Ring) (bufBlocks : Nat) (w : Wal) (ready : Readable g bufBlocks w) : w.slotCount = g.slots := by
  unfold Wal.slotCount
  rw [ready.ringStart, ready.ringEnd, kWalFrameSize, Ring.bytes, Ring.slots]
  omega

theorem frame_on_present (g : Ring) (entries : List WalEntry) (written : Nat) (img : Image) (placed : Placed g entries written img)
    (covered v : Nat) (lower : covered ≤ v) : FrameOn g.slots img (v + 1) ↔ Present g entries img v := by
  constructor
  · rintro ⟨p, bound, valid, number⟩
    obtain ⟨u, _, _, _, same, here⟩ := live_present g entries written img placed covered p bound valid (by omega)
    have equal : u = v := by omega
    exact equal ▸ here
  · intro here
    obtain ⟨valid, number, _⟩ := present_frame g entries written img placed v here
    exact ⟨v % g.slots, g.slot_lt v, valid, number⟩

theorem first_frame_present (g : Ring) (entries : List WalEntry) (written : Nat) (img : Image) (placed : Placed g entries written img)
    (covered : Nat) : FirstFrameThere g.slots covered img ↔
      ((∃ v, covered ≤ v ∧ Present g entries img v) → Present g entries img covered) := by
  unfold FirstFrameThere
  rw [frame_on_present g entries written img placed covered covered (Nat.le_refl _)]
  constructor
  · rintro first ⟨v, lower, here⟩
    exact first ⟨v + 1, by omega, (frame_on_present g entries written img placed covered v lower).mpr here⟩
  · rintro first ⟨seq, above, on⟩
    obtain ⟨v, rfl⟩ : ∃ v, seq = v + 1 := ⟨seq - 1, by omega⟩
    exact first ⟨v, by omega, (frame_on_present g entries written img placed covered v (by omega)).mp on⟩

-- A crash image whose torn part is one window of the same buffer.
theorem torn_image_delivers (g : Ring) (bufBlocks : Nat) (h : History) (synced written covered : Nat) (m : Medium) (img : Image) (w : Wal)
    (crash : CrashImage g h synced written covered img) (reopened : Reopened g bufBlocks img w)
    (torn : TornAt g bufBlocks synced written) (durable : RingOk g h synced synced m.stable) (stale : NoStale g h.prior m.stable) :
    DeliversSynced g.slots covered m h.entries (w.recover covered collect []) ↔ FirstFrameThere g.slots covered img := by
  have image : w.dev.medium.cur = img := by rw [reopened.image]; rfl
  have listed := crash.listed
  have ordered := crash.ordered
  have inside := crash.inside
  have placed := placed_of_ring g h synced written img crash.ring crash.stale listed crash.fits crash.short
  have placedStable := placed_of_ring g h synced synced m.stable durable stale (by omega) crash.fits crash.short
  rw [first_frame_present g h.entries written img placed covered]
  rcases crash_image_recoverable g bufBlocks h synced written covered img w crash reopened with ⟨low, _⟩ | ⟨high, refused⟩
  · obtain ⟨stop, found⟩ := crash_image_run g bufBlocks h synced written covered img w crash reopened low
    obtain ⟨_, lower, reach, upper, run, absent, decides, leaves⟩ := found
    constructor
    · rintro ⟨success, _⟩
      exact (decides.mp success).1
    · intro first
      have success := decides.mpr ⟨first, fun v late here =>
        torn_tolerated g bufBlocks synced written stop v torn reach late (present_written g h.entries written img placed v here)⟩
      obtain ⟨dev, replayed⟩ := leaves success
      refine ⟨success, stop, by rw [replayed.result], by omega, fun seq above on => ?_⟩
      obtain ⟨v, rfl⟩ : ∃ v, seq = v + 1 := ⟨seq - 1, by omega⟩
      have here := (frame_on_present g h.entries synced m.stable placedStable covered v (by omega)).mp on
      have below := present_written g h.entries synced m.stable placedStable v here
      omega
  · constructor
    · rintro ⟨success, _⟩
      exact absurd ((refused _ collect []).symm.trans success) (by decide)
    · intro first
      rcases crash.base with ⟨low, _⟩ | ⟨gone, erased, beyond⟩
      · omega
      · have later := present_kept g h synced written img crash.ring (by omega) h.lo (Nat.le_refl _) beyond
        exact absurd (first ⟨h.lo, by omega, later⟩)
          (gone_absent g h synced written img crash.ring crash.stale crash.fits listed crash.short covered gone erased)

theorem reopened_buffer (g : Ring) (a b : Nat) (v : WalView) (s : Session) (img : Image) (w : Wal) (inv : SessionInv g a v s)
    (reopened : Reopened g b img w) (same : w.bufSize = s.wal.bufSize) : b = a := by
  have left := reopened.ready.bufSize
  have right := inv.quiet.inv.bufSize
  omega

-- Power is lost while a window is being written. Recovery with the same buffer
-- gives back what was synced exactly when the first uncovered frame reached the
-- device or no uncovered frame did.
theorem torn_window_delivered_iff (s : Session) (op : SessionOp) (m : Medium) (img : Image) (opts : Options) (w : Wal)
    (lives : Lives s) (during : m ∈ (s.step op).2.wal.dev.trace.drop s.wal.dev.trace.length)
    (fits : (s.step op).2.entries.length < 2 ^ 64) (alive : m.Survives kSectorSize img) (reopens : s.Reopens img opts w)
    (same : w.bufSize = s.wal.bufSize) :
    DeliversSynced w.slotCount s.covered m (s.step op).2.entries (w.recover s.covered collect []) ↔
      FirstFrameThere w.slotCount s.covered img := by
  cases lives_inv s lives with
  | running g bufBlocks v inv blank =>
      obtain ⟨h, synced, written, ok, prior, _, _, entries, _⟩ := ends_ok g bufBlocks v s _ m _ inv (.inside op m during)
      have pos : 0 < w.bufSize := by
        rw [same, inv.quiet.inv.bufSize]
        have := inv.quiet.inv.bufPos
        omega
      obtain ⟨b, reopened⟩ := reopens_ready g s img opts w reopens pos inv.quiet.inv.ring inv.quiet.healthy.readable
      have equal := reopened_buffer g bufBlocks b v s img w inv reopened same
      subst equal
      rw [← prior] at blank
      rw [← entries] at fits ⊢
      rw [readable_slots g b w reopened.ready]
      exact torn_image_delivers g b h synced written s.covered m img w
        (crash_image g b s h synced written m img ok alive (blank_stale g h.prior img blank) fits) reopened ok.torn
        ok.medium.durable (blank_stale g h.prior m.stable blank)
  | stuck first empty still _ =>
      rw [(stuck_step first empty s op still).wal, still.wal, List.drop_length] at during
      cases during

-- The medium of a flush between its write and its sync, and the image of a crash
-- there that loses these sectors of the write.
def Session.tornMedium (s : Session) : Medium := s.wal.dev.medium.put (s.step .flush).2.wal.dev.medium.cur

def Session.tornImage (s : Session) (lost : Nat → Bool) : Image :=
  fun o => if lost (o / kSectorSize) then s.wal.dev.medium.cur o else (s.step .flush).2.wal.dev.medium.cur o

theorem torn_image_mix (s : Session) (lost : Nat → Bool) : s.tornMedium.Survives kSectorSize (s.tornImage lost) := by
  intro k
  cases chosen : lost k with
  | true =>
      refine ⟨s.wal.dev.medium.cur, by simp [Session.tornMedium, Medium.versions, Medium.put], fun o inside => ?_⟩
      simp [Session.tornImage, inside, chosen]
  | false =>
      refine ⟨(s.step .flush).2.wal.dev.medium.cur, by simp [Session.tornMedium], fun o inside => ?_⟩
      simp [Session.tornImage, inside, chosen]

theorem torn_image_slot (s : Session) (lost : Nat → Bool) (p : Nat) : slotBytes (s.tornImage lost) p =
    if lost ((8192 + 128 * p) / kSectorSize) then slotBytes s.wal.dev.medium.cur p
    else slotBytes (s.step .flush).2.wal.dev.medium.cur p := by
  cases chosen : lost ((8192 + 128 * p) / kSectorSize) with
  | true =>
      refine read_congr _ _ _ _ fun i bound => ?_
      simp [Session.tornImage, slot_in_sector p i bound, chosen]
  | false =>
      refine read_congr _ _ _ _ fun i bound => ?_
      simp [Session.tornImage, slot_in_sector p i bound, chosen]

theorem flush_step_wal (s : Session) : (s.step .flush).2.wal = (s.wal.flush s.level).2 ∧ (s.step .flush).2.entries = s.entries := by
  show s.flushAll.2.wal = _ ∧ s.flushAll.2.entries = _
  unfold Session.flushAll
  dsimp only
  split <;> exact ⟨rfl, rfl⟩

theorem torn_flush (g : Ring) (bufBlocks : Nat) (v : WalView) (s : Session) (lost : Nat → Bool) (inv : SessionInv g bufBlocks v s)
    (batched : isWalSyncLevel s.level = false) (busy : s.wal.nFrames ≠ 0) :
    s.tornMedium ∈ (s.step .flush).2.wal.dev.trace.drop s.wal.dev.trace.length ∧
      ∀ p < g.slots, SlotOk g v.toHistory (if lost ((8192 + 128 * p) / kSectorSize) then v.synced else v.entries.length)
        (if lost ((8192 + 128 * p) / kSectorSize) then v.synced else v.entries.length) p (slotBytes (s.tornImage lost) p) := by
  obtain ⟨trace, cur⟩ := flush_media g bufBlocks s.level v s.wal inv.quiet batched busy
  obtain ⟨wal, _⟩ := flush_step_wal s
  have held := inv.quiet.inv.medium.durable
  have stable : s.wal.dev.medium.stable = s.wal.dev.medium.cur := by
    rw [Medium.stable, inv.quiet.clean]
    rfl
  rw [stable] at held
  refine ⟨?_, fun p bound => ?_⟩
  · rw [Session.tornMedium, wal, cur, trace, List.drop_left]
    exact List.mem_cons_self
  · rw [torn_image_slot]
    split
    · exact held p bound
    · rw [wal, cur]
      exact span_image_ok g bufBlocks v s.wal inv.quiet.inv p bound

theorem torn_kept (g : Ring) (bufBlocks : Nat) (v : WalView) (s : Session) (lost : Nat → Bool) (u : Nat) (inv : SessionInv g bufBlocks v s)
    (batched : isWalSyncLevel s.level = false) (busy : s.wal.nFrames ≠ 0) (lower : v.lo ≤ u) (upper : u < v.entries.length)
    (kept : lost ((8192 + 128 * (u % g.slots)) / kSectorSize) = false) : Present g v.entries (s.tornImage lost) u := by
  have ok := (torn_flush g bufBlocks v s lost inv batched busy).2 _ (g.slot_lt u)
  rw [kept] at ok
  exact ⟨upper, ok.holds u lower upper rfl⟩

theorem torn_lost (g : Ring) (bufBlocks : Nat) (v : WalView) (s : Session) (lost : Nat → Bool) (u : Nat) (inv : SessionInv g bufBlocks v s)
    (batched : isWalSyncLevel s.level = false) (busy : s.wal.nFrames ≠ 0) (blank : BlankPrior g v.prior)
    (fits : v.entries.length < 2 ^ 64) (lower : v.synced ≤ u) (gone : lost ((8192 + 128 * (u % g.slots)) / kSectorSize) = true) :
    ¬ Present g v.entries (s.tornImage lost) u := by
  rintro ⟨listed, bytes⟩
  have ok := (torn_flush g bufBlocks v s lost inv batched busy).2 _ (g.slot_lt u)
  have synced := wal_synced_bound g bufBlocks v s.wal inv.quiet.inv
  rw [gone, bytes] at ok
  rcases ok.genuine (frame_at_verifies v.entries inv.quiet.inv.shortKeys u) with old | ⟨x, below, _, _, same⟩
  · have valid := frame_at_verifies v.entries inv.quiet.inv.shortKeys u
    rw [old, blank _ (g.slot_lt u), verify_zeros] at valid
    cases valid
  · have early : x < v.synced := below
    have equal := frame_at_injective v.entries u x (by omega) (by omega) same
    omega

-- Five frames in one window, of which the crash keeps only the last one's sector.
def tornLife : Session := (Session.start (blankWal 2 1) .valueSync).run ((List.replicate 5 (plainEntry 1)).map .write)

def tornSector (k : Nat) : Bool := k == 16

theorem torn_life_lives : Lives tornLife := lives_run _ _ (blank_life 2 1 .valueSync (by decide) (by decide) (by decide))

theorem torn_life_inv : ∃ g v, SessionInv g 1 v tornLife ∧ BlankPrior g v.prior ∧ g.blocks = 2 ∧ v.lo = 0 ∧ v.synced = 0 ∧
    v.entries.length = 5 ∧ tornLife.wal.nFrames = 5 ∧ tornLife.level = .valueSync ∧ tornLife.covered = 0 := by
  obtain ⟨g, blocks, inv, blank⟩ := blank_session 2 1 .valueSync (by decide) (by decide) (by decide)
  have seam : g.toSeam 0 = 2 := by
    rw [Ring.toSeam, blocks]
  have wide : (WalView.created g 1 (blankDevice 2).medium.cur).win = 1 := by
    show g.openWin 1 0 0 = 1
    rw [Ring.openWin, seam, blocks]
    decide
  have window : ((WalView.created g 1 (blankDevice 2).medium.cur).reopened g 1).win = 1 := by
    unfold WalView.reopened
    rw [if_neg (by omega), wide]
  have idle : (Session.start (blankWal 2 1) .valueSync).wal.nFrames = 0 := by
    have count : 32 * 0 + (Session.start (blankWal 2 1) .valueSync).wal.nFrames = 0 := inv.quiet.inv.count
    omega
  obtain ⟨next, inv', entries, synced, prior, lo, _, frames, covered, level⟩ :=
    buffered_session g 1 (List.replicate 5 (plainEntry 1)) _ _ inv (by decide) rfl (by rw [idle, window]; decide)
  refine ⟨g, next, inv', by rw [prior]; exact blank, blocks, lo, synced, ?_, ?_, level, covered⟩
  · rw [entries]
    rfl
  · rw [idle] at frames
    exact frames

theorem torn_first_frame_refused : ∃ w, Lives tornLife ∧
    tornLife.tornMedium ∈ (tornLife.step .flush).2.wal.dev.trace.drop tornLife.wal.dev.trace.length ∧
    tornLife.tornMedium.Survives kSectorSize (tornLife.tornImage tornSector) ∧
    tornLife.Reopens (tornLife.tornImage tornSector) (plainOptions false 1) w ∧ w.bufSize = tornLife.wal.bufSize ∧
    ¬ DeliversSynced w.slotCount tornLife.covered tornLife.tornMedium (tornLife.step .flush).2.entries
      (w.recover tornLife.covered collect []) := by
  obtain ⟨g, v, inv, blank, blocks, low, synced, count, frames, level, covered⟩ := torn_life_inv
  have batched : isWalSyncLevel tornLife.level = false := by rw [level]; rfl
  have busy : tornLife.wal.nFrames ≠ 0 := by omega
  have slots : g.slots = 64 := by rw [Ring.slots, blocks]
  obtain ⟨during, _⟩ := torn_flush g 1 v tornLife tornSector inv batched busy
  have alive := torn_image_mix tornLife tornSector
  obtain ⟨w, reopens, same, reopened⟩ := plain_reopens g 1 v tornLife (tornLife.tornImage tornSector) inv (by decide)
  refine ⟨w, torn_life_lives, during, alive, reopens, same, ?_⟩
  obtain ⟨h, synced', written, ok, prior, _, _, entries, _⟩ := ends_ok g 1 v tornLife _ _ _ inv (.inside .flush _ during)
  rw [← prior] at blank
  have total : (tornLife.step .flush).2.entries = v.entries := by rw [(flush_step_wal tornLife).2, inv.entries]
  have fits : h.entries.length < 2 ^ 64 := by rw [entries, total, count]; decide
  have crash := crash_image g 1 tornLife h synced' written _ _ ok alive (blank_stale g h.prior _ blank) fits
  have placed := placed_of_ring g h synced' written _ crash.ring crash.stale crash.listed crash.fits crash.short
  have delivers := torn_image_delivers g 1 h synced' written tornLife.covered _ _ w crash reopened ok.torn ok.medium.durable
    (blank_stale g h.prior _ blank)
  rw [readable_slots g 1 w reopened.ready, ← entries, delivers, first_frame_present g h.entries written _ placed, covered, entries,
    total]
  intro first
  have last := torn_kept g 1 v tornLife tornSector 4 inv batched busy (by omega) (by omega) (by rw [slots]; decide)
  exact torn_lost g 1 v tornLife tornSector 0 inv batched busy (by rw [← prior]; exact blank) (by omega) (by omega)
    (by rw [slots]; decide) (first ⟨4, by decide, last⟩)

theorem torn_window_delivered_short : ∃ w, tornLife.Reopens (tornLife.tornImage tornSector) (plainOptions false 1) w ∧
    (DeliversSynced w.slotCount tornLife.covered tornLife.tornMedium (tornLife.step .flush).2.entries
      (w.recover tornLife.covered collect []) ↔ FirstFrameThere w.slotCount tornLife.covered (tornLife.tornImage tornSector)) := by
  obtain ⟨g, v, inv, _, _, _, _, count, frames, level, _⟩ := torn_life_inv
  obtain ⟨during, _⟩ := torn_flush g 1 v tornLife tornSector inv (by rw [level]; rfl) (by omega)
  obtain ⟨w, reopens, same, _⟩ := plain_reopens g 1 v tornLife (tornLife.tornImage tornSector) inv (by decide)
  have total : (tornLife.step .flush).2.entries = v.entries := by rw [(flush_step_wal tornLife).2, inv.entries]
  exact ⟨w, reopens, torn_window_delivered_iff tornLife .flush _ _ _ w torn_life_lives during (by rw [total, count]; decide)
    (torn_image_mix tornLife tornSector) reopens same⟩

end Cabe
