import Cabe.WalSession

set_option autoImplicit false

namespace Cabe

open Storage

-- The life that a successful recovery opens: its entries are those of the last
-- one up to the number it reached, which from then on is a promise.
def Session.restart (s : Session) (level : WalLevel) (entries : List WalEntry) (w : Wal) : Session where
  wal := w
  level := level
  entries := entries.take w.lastSeq
  acked := w.lastSeq
  captured := []
  covered := s.covered
  reclaimed := s.covered

-- The next process finds this image and opens the log for recovery.
structure Session.Reopens (s : Session) (img : Image) (opts : Options) (w : Wal) : Prop where
  recovering : opts.create = false
  opened : (Wal.unopened (s.wal.dev.reboot img)).openWal opts = (Err.kSuccess, w)
  allocated : Allocated w

theorem ring_unique (g h : Ring) (same : g.bytes = h.bytes) : g = h := by
  cases g with
  | mk blocks room =>
      cases h with
      | mk blocks' room' =>
          have equal : blocks = blocks' := by
            simp only [Ring.bytes] at same
            omega
          subst equal
          rfl

-- The log as Open leaves it for recovery.
structure Reopened (g : Ring) (bufBlocks : Nat) (img : Image) (w : Wal) : Prop where
  ready : Readable g bufBlocks w
  bufRoom : bufBlocks + 1 ≤ g.blocks
  ring : walRingSize w.dev.sizeBytes = g.bytes
  image : w.dev.medium = .ofImage img
  fresh : w.curBuf = none
  healthy : w.dev.Healthy

theorem reopens_ready (g : Ring) (s : Session) (img : Image) (opts : Options) (w : Wal) (reopens : s.Reopens img opts w)
    (pos : 0 < w.bufSize) (ring : walRingSize s.wal.dev.sizeBytes = g.bytes) (readable : ∀ k, s.wal.dev.unreadable k = false) :
    ∃ bufBlocks, Reopened g bufBlocks img w := by
  have opened := open_wal_success _ opts w reopens.opened
  obtain ⟨h, bufBlocks, accepts⟩ := open_accepts _ opts w opened reopens.allocated pos
  have same : h = g := ring_unique h g (accepts.ring.symm.trans ring)
  subst same
  have buffer := opened.buffer
  rw [if_neg (by simp [reopens.recovering])] at buffer
  refine ⟨bufBlocks, open_readable h bufBlocks _ opts w accepts opened readable, accepts.bufRoom, ?_, ?_, buffer, ?_⟩
  · rw [opened.device]
    exact ring
  · rw [opened.device]
    rfl
  · rw [opened.device]
    exact ⟨rfl, rfl, readable⟩

-- A crash image on which recovery is run: its frames are those of one history.
structure CrashImage (g : Ring) (h : History) (synced written covered : Nat) (img : Image) : Prop where
  ring : RingOk g h synced written img
  stale : NoStale g h.prior img
  inside : covered ≤ synced
  ordered : synced ≤ written
  listed : written ≤ h.entries.length
  fits : h.entries.length < 2 ^ 64
  near : written + 32 ≤ 32 * (covered / 32) + g.slots
  base : (h.lo ≤ 32 * (covered / 32) ∧ (covered = 0 ∨ h.lo < covered ∨ covered < synced)) ∨
    (h.gone ≤ covered ∧ covered < h.lo ∧ h.lo < synced)
  short : ∀ e ∈ h.entries, e.key.length ≤ kWalKeyMax

theorem crash_image (g : Ring) (bufBlocks : Nat) (s : Session) (h : History) (synced written : Nat) (m : Medium) (img : Image)
    (ok : CrashOk g bufBlocks s h synced written m) (alive : m.Survives kSectorSize img) (stale : NoStale g h.prior img)
    (fits : h.entries.length < 2 ^ 64) : CrashImage g h synced written s.covered img :=
  ⟨medium_ok_survives g h synced written m img ok.medium alive, stale, ok.covered, ok.ordered, ok.listed, fits, ok.near, ok.base,
    ok.short⟩

-- Recovery refuses an image whose first live frames an earlier recovery erased,
-- and has everything it needs on any other.
theorem crash_image_recoverable (g : Ring) (bufBlocks : Nat) (h : History) (synced written covered : Nat) (img : Image) (w : Wal)
    (crash : CrashImage g h synced written covered img) (reopened : Reopened g bufBlocks img w) :
    (h.lo ≤ 32 * (covered / 32) ∧ Recoverable g bufBlocks h.entries written covered w) ∨
      (h.lo > 32 * (covered / 32) ∧ ∀ (σ : Type) (fn : WalReplayFn σ) (st : σ), (w.recover covered fn st).rc = Err.kWalRecoveryCorrupted) := by
  have image : w.dev.medium.cur = img := by rw [reopened.image]; rfl
  have ok := crash.ring
  have stale := crash.stale
  rw [← image] at ok stale
  have near := crash.near
  have inside := crash.inside
  have ordered := crash.ordered
  have listed := crash.listed
  rcases crash.base with ⟨low, anchor⟩ | ⟨gone, erased, beyond⟩
  · exact .inl ⟨low, recoverable_of_ring g bufBlocks h synced written covered w reopened.ready ok stale listed crash.fits crash.short
      ordered inside low anchor (by omega)⟩
  · refine .inr ⟨by omega, fun σ fn st => ?_⟩
    have scannable : Scannable g bufBlocks h.entries written covered w :=
      ⟨reopened.ready, placed_of_ring g h synced written _ ok stale listed crash.fits crash.short, by omega⟩
    exact recover_gate g bufBlocks h.entries written covered w scannable reopened.fresh fn st
      ⟨h.lo, by omega, present_kept g h synced written _ ok (by omega) h.lo (Nat.le_refl _) beyond⟩
      (gone_absent g h synced written _ ok stale crash.fits listed crash.short covered gone erased)

-- What a successful recovery delivers and the life it leaves. Its erasure may
-- have reached around into the blocks the live region starts with.
structure Restarted (g : Ring) (bufBlocks : Nat) (s : Session) (h : History) (synced stop : Nat) (level : WalLevel) (img : Image)
    (r : Recovered (List (WalEntry × Nat))) : Prop where
  reach : synced ≤ stop
  listed : stop ≤ h.entries.length
  run : ∀ v, s.covered ≤ v → v < stop → Present g h.entries img v
  absent : ¬ Present g h.entries img stop
  last : r.wal.lastSeq = stop
  frames : r.st = framesOf h.entries s.covered (stop - s.covered)
  inv : ∃ lo, SessionInv g bufBlocks (.recovered g bufBlocks h s.covered stop lo) (s.restart level h.entries r.wal) ∧
    (32 * (s.covered / 32) < lo →
      32 * (s.covered / 32) + g.slots < zoneTop g bufBlocks stop ∧ ∃ v, stop < v ∧ Present g h.entries img v)

theorem recovered_session (g : Ring) (bufBlocks : Nat) (s : Session) (h : History) (stop lo : Nat) (level : WalLevel) (w : Wal)
    (quiet : Quiet g bufBlocks level (.recovered g bufBlocks h s.covered stop lo) w) (ordered : s.covered ≤ stop)
    (listed : stop ≤ h.entries.length)
    (base : BaseOk (.recovered g bufBlocks h s.covered stop lo) s.covered) :
    w.lastSeq = stop ∧ SessionInv g bufBlocks (.recovered g bufBlocks h s.covered stop lo) (s.restart level h.entries w) := by
  have last : w.lastSeq = stop := by
    rw [last_seq_length g bufBlocks _ w quiet.inv]
    show (h.entries.take stop).length = stop
    simp [listed]
  refine ⟨last, quiet, ?_, ?_, ordered, rfl, Nat.le_refl _, fun pair member => ?_, base⟩
  · show h.entries.take stop = h.entries.take w.lastSeq
    rw [last]
  · exact Nat.le_of_eq last
  · cases member

-- The facts both ends of a recovery share: where its run stops and what it needs
-- to find there.
structure CrashRun (g : Ring) (bufBlocks : Nat) (h : History) (synced written covered stop : Nat) (img : Image) (w : Wal) : Prop
    where
  recoverable : Recoverable g bufBlocks h.entries written covered w
  lower : covered ≤ stop
  reach : synced ≤ stop
  upper : stop ≤ written
  run : ∀ v, covered ≤ v → v < stop → Present g h.entries img v
  absent : ¬ Present g h.entries img stop
  success : (w.recover covered collect []).rc = Err.kSuccess ↔
    ((∃ v, covered ≤ v ∧ Present g h.entries img v) → Present g h.entries img covered) ∧
      ∀ v, stop < v → Present g h.entries img v → Tolerated g bufBlocks stop v
  replayed : (w.recover covered collect []).rc = Err.kSuccess →
    ∃ dev, Replayed g bufBlocks h.entries covered stop w (w.recover covered collect []) dev

theorem crash_image_run (g : Ring) (bufBlocks : Nat) (h : History) (synced written covered : Nat) (img : Image) (w : Wal)
    (crash : CrashImage g h synced written covered img) (reopened : Reopened g bufBlocks img w) (low : h.lo ≤ 32 * (covered / 32)) :
    ∃ stop, CrashRun g bufBlocks h synced written covered stop img w := by
  have image : w.dev.medium.cur = img := by rw [reopened.image]; rfl
  have clean : w.dev.medium.unsynced = [] := by rw [reopened.image]; rfl
  have inside := crash.inside
  have ordered := crash.ordered
  have listed := crash.listed
  rcases crash_image_recoverable g bufBlocks h synced written covered img w crash reopened with ⟨_, r⟩ | ⟨high, _⟩
  · have ok := crash.ring
    obtain ⟨lower, upper, run, absent⟩ := stop_spec g bufBlocks h.entries written covered w r.toScannable
    have reach := stop_reach g bufBlocks h.entries written covered synced w r fun v from_ below =>
      present_kept g h synced written _ (by rw [image]; exact ok) (by omega) v (by omega) below
    obtain ⟨decides, leaves⟩ := recover_replays g bufBlocks h.entries written covered w r reopened.fresh reopened.healthy clean _ rfl
    rw [image] at lower upper run absent reach decides leaves
    exact ⟨_, r, lower, by omega, by omega, run, absent, decides, leaves⟩
  · omega

-- With nothing torn there is nothing to refuse and nothing to erase.
theorem whole_image_recovers (g : Ring) (bufBlocks : Nat) (h : History) (synced covered : Nat) (img : Image) (w : Wal)
    (crash : CrashImage g h synced synced covered img) (reopened : Reopened g bufBlocks img w) (low : h.lo ≤ 32 * (covered / 32)) :
    w.recover covered collect [] = ⟨Err.kSuccess, recoveredWal g bufBlocks h.entries covered synced w w.dev,
      framesOf h.entries covered (synced - covered)⟩ := by
  obtain ⟨stop, found⟩ := crash_image_run g bufBlocks h synced synced covered img w crash reopened low
  have same : stop = synced := Nat.le_antisymm found.upper found.reach
  subst same
  have image : w.dev.medium.cur = img := by rw [reopened.image]; rfl
  have placed := found.recoverable.placed
  rw [image] at placed
  have listed := crash.listed
  have none_ : ∀ v, stop < v → ¬ Present g h.entries img v := fun v late here => by
    have below := present_written g h.entries stop img placed v here
    omega
  have success := found.success.mpr ⟨fun ⟨v, from_, here⟩ =>
      present_kept g h stop stop img crash.ring listed covered (by omega) (by
        have below := present_written g h.entries stop img placed v here
        omega),
    fun v late here => absurd here (none_ v late)⟩
  obtain ⟨dev, replayed⟩ := found.replayed success
  have untouched := replayed.untouched fun v late => by
    rw [image]
    exact none_ v late
  rw [replayed.result, untouched]

theorem crash_image_restarts (g : Ring) (bufBlocks : Nat) (s : Session) (h : History) (synced written : Nat) (img : Image) (w : Wal)
    (level : WalLevel) (crash : CrashImage g h synced written s.covered img) (reopened : Reopened g bufBlocks img w)
    (success : (w.recover s.covered collect []).rc = Err.kSuccess) :
    ∃ stop, Restarted g bufBlocks s h synced stop level img (w.recover s.covered collect []) := by
  have image : w.dev.medium.cur = img := by rw [reopened.image]; rfl
  have clean : w.dev.medium.unsynced = [] := by rw [reopened.image]; rfl
  have near := crash.near
  have inside := crash.inside
  have ordered' := crash.ordered
  have listed := crash.listed
  rcases crash_image_recoverable g bufBlocks h synced written s.covered img w crash reopened with ⟨low, _⟩ | ⟨_, refused⟩
  · obtain ⟨stop, found⟩ := crash_image_run g bufBlocks h synced written s.covered img w crash reopened low
    obtain ⟨_, lower, reach, upper, run, absent, decides, leaves⟩ := found
    have ok := crash.ring
    obtain ⟨dev, replayed⟩ := leaves success
    obtain ⟨live, tolerated⟩ := decides.mp success
    have erasing := replayed.erasing
    have bufRoom := reopened.bufRoom
    have finish (lo : Nat) (loHead : 32 * (s.covered / 32) ≤ lo + 32) (loCur : lo ≤ 32 * (stop / 32))
        (base : BaseOk (.recovered g bufBlocks h s.covered stop lo) s.covered) (clean' : dev.medium.unsynced = [])
        (held : RingOk g (WalView.recovered g bufBlocks h s.covered stop lo).toHistory stop stop dev.medium.cur)
        (around : 32 * (s.covered / 32) < lo →
          32 * (s.covered / 32) + g.slots < zoneTop g bufBlocks stop ∧ ∃ v, stop < v ∧ Present g h.entries img v) :
        ∃ stop, Restarted g bufBlocks s h synced stop level img (w.recover s.covered collect []) := by
      have quiet := recovered_quiet g bufBlocks h s.covered stop lo w dev level reopened.ready reopened.ring bufRoom erasing.healthy
        erasing.size clean' lower (by omega) (by omega) loHead loCur crash.short held
      obtain ⟨last, inv⟩ := recovered_session g bufBlocks s h stop lo level _ quiet lower (by omega) base
      refine ⟨stop, reach, by omega, run, absent, ?_, ?_, lo, ?_, around⟩
      · rw [replayed.result]
        exact last
      · rw [replayed.result]
      · rw [replayed.result]
        exact inv
    have anchor : s.covered = 0 ∨ h.lo < s.covered ∨ s.covered < stop := by
      rcases crash.base with ⟨_, first⟩ | ⟨_, erased, _⟩ <;> omega
    by_cases fragments : ∃ v, stop < v ∧ Present g h.entries img v
    · have begun : s.covered < stop := by
        obtain ⟨v, late, here⟩ := fragments
        have first := live ⟨v, by omega, here⟩
        rcases Nat.lt_or_eq_of_le lower with less | same
        · exact less
        · exact absurd (same ▸ first) absent
      have medium := replayed.erased (by rw [image]; exact fragments)
      rw [image] at medium
      have top := zone_top_lap g bufBlocks stop
      have short : zoneTop g bufBlocks stop < 32 * (stop / 32) + g.slots := by
        unfold zoneTop
        rw [Ring.slots]
        omega
      refine finish (max (max h.lo (32 * (s.covered / 32) - 32)) (zoneTop g bufBlocks stop - g.slots)) (by omega) (by omega) ?_
        (by rw [medium]) ?_ fun high => ⟨by omega, fragments⟩
      · by_cases around : zoneTop g bufBlocks stop - g.slots ≤ 32 * (s.covered / 32)
        · refine .inl ⟨?_, .inr (.inr begun)⟩
          show max (max h.lo (32 * (s.covered / 32) - 32)) (zoneTop g bufBlocks stop - g.slots) ≤ 32 * (s.covered / 32)
          omega
        · refine .inr ⟨Nat.le_refl _, ?_, ?_⟩
          · show s.covered < max (max h.lo (32 * (s.covered / 32) - 32)) (zoneTop g bufBlocks stop - g.slots)
            unfold zoneTop at around ⊢
            rw [Ring.slots] at around ⊢
            omega
          · show max (max h.lo (32 * (s.covered / 32) - 32)) (zoneTop g bufBlocks stop - g.slots) < stop
            omega
      · rw [medium]
        exact ring_ok_erased g bufBlocks h synced written s.covered stop _ _ reopened.ready.bufPos ok listed inside
          (Nat.le_max_left _ _) (by omega) lower (by omega) (by omega) run absent tolerated
    · have untouched := replayed.untouched fun v late here => fragments ⟨v, late, by rw [image] at here; exact here⟩
      refine finish (max h.lo (32 * (s.covered / 32) - 32)) (by omega) (by omega) ?_ (by rw [untouched]; exact clean) ?_
        fun high => by omega
      · refine .inl ⟨?_, ?_⟩
        · show max h.lo (32 * (s.covered / 32) - 32) ≤ 32 * (s.covered / 32)
          omega
        · show s.covered = 0 ∨ max h.lo (32 * (s.covered / 32) - 32) < s.covered ∨ s.covered < stop
          omega
      · rw [untouched, image]
        refine ring_ok_recovered g h synced written s.covered stop _ _ ok listed inside (Nat.le_max_left _ _) (by omega) run
          fun v late here => ?_
        rcases Nat.lt_or_eq_of_le late with less | same
        · exact fragments ⟨v, less, here⟩
        · exact absurd (same ▸ here) absent
  · exact absurd ((refused _ collect []).symm.trans success) (by decide)

-- A life that was closed is recovered whole.
theorem closed_life_recovers (g : Ring) (bufBlocks bufBlocks' : Nat) (v : WalView) (s : Session) (w : Wal)
    (inv : SessionInv g bufBlocks v s) (low : v.lo ≤ 32 * (s.covered / 32)) (stale : ∀ img, NoStale g v.prior img)
    (fits : s.entries.length < 2 ^ 64) (reopened : Reopened g bufBlocks' (s.wal.close s.level).2.dev.medium.cur w) :
    (w.recover s.covered collect []).rc = Err.kSuccess ∧
      (w.recover s.covered collect []).st = framesOf s.entries s.covered (s.entries.length - s.covered) := by
  obtain ⟨_, h, ok, prior, lo, entries, _⟩ := close_session g bufBlocks v s inv
  have crash := crash_image g bufBlocks s h _ _ _ _ ok (survives_self kSectorSize _) (by rw [prior]; exact stale _)
    (by rw [entries]; exact fits)
  have whole := whole_image_recovers g bufBlocks' h _ s.covered _ w crash reopened (by rw [lo]; exact low)
  rw [entries] at whole
  rw [whole]
  exact ⟨rfl, rfl⟩

-- A life cut between two operations has lost what was not synced.
theorem rested_life_recovers (g : Ring) (bufBlocks bufBlocks' : Nat) (v : WalView) (s : Session) (w : Wal)
    (inv : SessionInv g bufBlocks v s) (low : v.lo ≤ 32 * (s.covered / 32)) (stale : ∀ img, NoStale g v.prior img)
    (fits : s.entries.length < 2 ^ 64) (reopened : Reopened g bufBlocks' s.wal.dev.medium.cur w) :
    (w.recover s.covered collect []).rc = Err.kSuccess ∧
      (w.recover s.covered collect []).st = framesOf s.entries s.covered (v.synced - s.covered) := by
  have crash := crash_image g bufBlocks s v.toHistory _ _ _ _ (crash_at_rest g bufBlocks v s inv) (survives_self kSectorSize _) (stale _)
    (by rw [show v.toHistory.entries = s.entries from inv.entries]; exact fits)
  rw [whole_image_recovers g bufBlocks' v.toHistory _ s.covered _ w crash reopened low]
  exact ⟨rfl, by rw [show v.toHistory.entries = s.entries from inv.entries]⟩

end Cabe
