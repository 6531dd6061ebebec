import Cabe.WalRestart
import Cabe.WalStuck

set_option autoImplicit false

namespace Cabe

open Storage

-- A device that never fails and whose ring was written with zeros.
structure FreshDevice (dev : RawDevice) : Prop where
  succeeds : dev.outcomes = []
  readable : ∀ k, dev.unreadable k = false
  durable : dev.medium.unsynced = []
  zeroed : ∀ o, kDataRegionOffset ≤ o → o < kDataRegionOffset + walRingSize dev.sizeBytes → dev.medium.cur o = 0

-- Every state that any number of lives can reach, each opened by recovering from
-- whatever the one before left. The buffer may have another size every time.
inductive Lives : Session → Prop where
  | created (dev : RawDevice) (opts : Options) (w : Wal) (level : WalLevel) (fresh : FreshDevice dev) (create : opts.create = true)
      (opened : (Wal.unopened dev).openWal opts = (Err.kSuccess, w)) (allocated : Allocated w) : Lives (.start w level)
  | step (s : Session) (op : SessionOp) (lives : Lives s) : Lives (s.step op).2
  | restarted (s : Session) (entries : List WalEntry) (m : Medium) (acked : Nat) (img : Image) (opts : Options) (w : Wal)
      (level : WalLevel) (lives : Lives s) (ends : s.Ends entries m acked) (fits : entries.length < 2 ^ 64)
      (alive : m.Survives kSectorSize img) (reopens : s.Reopens img opts w)
      (recovered : (w.recover s.covered collect []).rc = Err.kSuccess) :
      Lives (s.restart level entries (w.recover s.covered collect []).wal)

-- The ring that the first life of a device found was zero, so nothing but the
-- frames of these lives verifies on it.
def BlankPrior (g : Ring) (prior : Nat → Bytes) : Prop := ∀ p < g.slots, prior p = zeros 128

theorem blank_stale (g : Ring) (prior : Nat → Bytes) (img : Image) (blank : BlankPrior g prior) : NoStale g prior img := by
  intro p bound old
  rw [blank p bound] at old
  rw [slotFrame, old]
  exact verify_zeros

theorem fresh_blank (g : Ring) (dev : RawDevice) (fresh : FreshDevice dev) (ring : walRingSize dev.sizeBytes = g.bytes) :
    BlankPrior g (slotBytes dev.medium.cur) := by
  intro p bound
  have size : walRingSize dev.sizeBytes = 128 * g.slots := by
    rw [ring, Ring.bytes, Ring.slots]
    omega
  apply read_zeros
  intro i inside
  exact fresh.zeroed _ (by unfold kDataRegionOffset; omega) (by unfold kDataRegionOffset; omega)

theorem fresh_opened (dev : RawDevice) (opts : Options) (w : Wal) (fresh : FreshDevice dev) (opened : JustOpened dev opts w) :
    FreshDevice w.dev := by
  rw [opened.device]
  exact ⟨fresh.succeeds, fresh.readable, fresh.durable, fresh.zeroed⟩

theorem created_session (dev : RawDevice) (opts : Options) (w : Wal) (level : WalLevel) (fresh : FreshDevice dev)
    (create : opts.create = true) (opened : JustOpened dev opts w) (allocated : Allocated w) (pos : 0 < w.bufSize) :
    ∃ g bufBlocks, SessionInv g bufBlocks (.created g bufBlocks dev.medium.cur) (.start w level) ∧
      BlankPrior g (slotBytes dev.medium.cur) := by
  obtain ⟨g, bufBlocks, accepts⟩ := open_accepts dev opts w opened allocated pos
  have inv := create_inv g bufBlocks dev opts w accepts opened create fresh.durable
  have fresh' := fresh_opened dev opts w fresh opened
  have quiet : Quiet g bufBlocks level (.created g bufBlocks dev.medium.cur) w :=
    ⟨inv, ⟨inv.opened, fresh'.succeeds, fresh'.readable⟩, fresh'.durable, rfl,
      fun _ => ⟨rfl, by rw [opened.position.2.2.1]; decide⟩⟩
  refine ⟨g, bufBlocks, ⟨quiet, rfl, Nat.le_refl _, Nat.le_refl _, (Nat.zero_div 32).symm, Nat.le_refl _, fun pair member => ?_,
    .inl ⟨Nat.zero_le _, .inl rfl⟩⟩, fresh_blank g dev fresh accepts.ring⟩
  cases member

-- The invariant of every life, with whatever buffer its log was opened.
inductive LifeInv (s : Session) : Prop where
  | running (g : Ring) (bufBlocks : Nat) (v : WalView) (inv : SessionInv g bufBlocks v s) (blank : BlankPrior g v.prior)
  | stuck (w : Wal) (empty : StuckWal w) (still : StuckSession w s) (fresh : FreshDevice w.dev)

-- What any life leaves, its closing or crash included, as recovery finds it.
theorem life_crash_image (s : Session) (entries : List WalEntry) (m : Medium) (acked : Nat) (img : Image) (opts : Options) (w : Wal)
    (life : LifeInv s) (ends : s.Ends entries m acked) (fits : entries.length < 2 ^ 64) (alive : m.Survives kSectorSize img)
    (reopens : s.Reopens img opts w) (pos : 0 < w.bufSize) :
    ∃ g bufBlocks h synced written, h.entries = entries ∧ BlankPrior g h.prior ∧ acked ≤ synced ∧
      CrashImage g h synced written s.covered img ∧ Reopened g bufBlocks img w := by
  cases life with
  | running g bufBlocks v inv blank =>
      obtain ⟨h, synced, written, ok, prior, _, _, rfl, promised⟩ := ends_ok g bufBlocks v s entries m acked inv ends
      obtain ⟨bufBlocks', reopened⟩ := reopens_ready g s img opts w reopens pos inv.quiet.inv.ring inv.quiet.healthy.readable
      rw [← prior] at blank
      exact ⟨g, bufBlocks', h, synced, written, rfl, blank, promised,
        crash_image g bufBlocks s h synced written m img ok alive (blank_stale g h.prior img blank) fits, reopened⟩
  | stuck first empty still fresh =>
      obtain ⟨rfl, rfl, rfl⟩ := stuck_ends first empty s still entries m acked ends
      have same := survives_flushed kSectorSize _ img fresh.durable alive
      have opened := open_wal_success _ opts w reopens.opened
      obtain ⟨g, _, accepts⟩ := open_accepts _ opts w opened reopens.allocated pos
      have ring : walRingSize s.wal.dev.sizeBytes = g.bytes := accepts.ring
      obtain ⟨bufBlocks, reopened⟩ := reopens_ready g s img opts w reopens pos ring (by rw [still.wal]; exact fresh.readable)
      have blank := fresh_blank g first.dev fresh (by rw [← still.wal]; exact ring)
      have room := g.room
      refine ⟨g, bufBlocks, (WalView.created g bufBlocks img).toHistory, 0, 0, rfl, by rw [same]; exact blank, Nat.le_refl _, ?_, reopened⟩
      rw [still.covered]
      exact ⟨ring_ok_created g bufBlocks img, blank_stale g _ img (by rw [same]; exact blank), Nat.le_refl _, Nat.le_refl _,
        Nat.le_refl _, fits, by rw [Ring.slots]; omega, .inl ⟨Nat.zero_le _, .inl rfl⟩, fun e member => by cases member⟩

theorem reopens_pos {σ : Type} (s : Session) (img : Image) (opts : Options) (w : Wal) (covered : Nat) (fn : WalReplayFn σ) (st : σ)
    (reopens : s.Reopens img opts w) (success : (w.recover covered fn st).rc = Err.kSuccess) : 0 < w.bufSize := by
  have opened := open_wal_success _ opts w reopens.opened
  by_contra empty
  exact stuck_recover _ opts w opened (by omega) covered fn st success

theorem lives_inv (s : Session) (lives : Lives s) : LifeInv s := by
  induction lives with
  | created dev opts w level fresh create opened allocated =>
      have just := open_wal_success dev opts w opened
      by_cases empty : w.bufSize = 0
      · exact .stuck w (stuck_open dev opts w just create empty) (stuck_start w level) (fresh_opened dev opts w fresh just)
      · obtain ⟨g, bufBlocks, inv, blank⟩ := created_session dev opts w level fresh create just allocated (by omega)
        exact .running g bufBlocks _ inv blank
  | step s op _ ih =>
      cases ih with
      | running g bufBlocks v inv blank =>
          obtain ⟨next, step⟩ := session_step g bufBlocks v s op inv
          exact .running g bufBlocks next step.inv (by rw [step.prior]; exact blank)
      | stuck w empty still fresh => exact .stuck w empty (stuck_step w empty s op still) fresh
  | restarted s entries m acked img opts w level _ ends fits alive reopens recovered ih =>
      have pos := reopens_pos s img opts w s.covered collect [] reopens recovered
      obtain ⟨g, bufBlocks, h, synced, written, rfl, blank, _, crash, reopened⟩ :=
        life_crash_image s entries m acked img opts w ih ends fits alive reopens pos
      obtain ⟨stop, restarted⟩ := crash_image_restarts g bufBlocks s h synced written img w level crash reopened recovered
      obtain ⟨lo, inv, _⟩ := restarted.inv
      exact .running g bufBlocks _ inv blank

theorem lives_run (ops : List SessionOp) : ∀ s, Lives s → Lives (s.run ops) := by
  induction ops with
  | nil => exact fun _ lives => lives
  | cons op ops ih => exact fun s lives => ih _ (.step s op lives)

-- In whichever life power is lost, a recovery that succeeds has delivered the
-- frames after the covered ones up to some number, each once and in order, and
-- that number is not below any that was promised.
theorem recover_sound_and_complete (s : Session) (entries : List WalEntry) (m : Medium) (acked : Nat) (img : Image) (opts : Options)
    (w : Wal) (lives : Lives s) (ends : s.Ends entries m acked) (fits : entries.length < 2 ^ 64)
    (alive : m.Survives kSectorSize img) (reopens : s.Reopens img opts w)
    (success : (w.recover s.covered collect []).rc = Err.kSuccess) :
    ∃ last, (w.recover s.covered collect []).wal.lastSeq = last ∧ s.covered ≤ last ∧ acked ≤ last ∧ last ≤ entries.length ∧
      (w.recover s.covered collect []).st = framesOf entries s.covered (last - s.covered) := by
  have pos := reopens_pos s img opts w s.covered collect [] reopens success
  obtain ⟨g, bufBlocks, h, synced, written, rfl, _, promised, crash, reopened⟩ :=
    life_crash_image s entries m acked img opts w (lives_inv s lives) ends fits alive reopens pos
  obtain ⟨stop, restarted⟩ := crash_image_restarts g bufBlocks s h synced written img w s.level crash reopened success
  have reach := restarted.reach
  have inside := crash.inside
  exact ⟨stop, restarted.last, by omega, by omega, restarted.listed, restarted.frames⟩

-- A zeroed device of this many ring blocks, and options for a buffer of so many.
def blankDevice (blocks : Nat) : RawDevice where
  isOpen := false
  sizeBytes := 8192 + 4096 * blocks
  medium := .ofImage fun _ => 0
  outcomes := []
  unreadable := fun _ => false
  trace := []

def plainOptions (create : Bool) (bufBlocks : Nat) : Options where
  create := create
  walLevel := .walSync
  walBufferSize := 4096 * bufBlocks
  snapshotThresholdBytes := 4096
  snapshotBufferSize := 4096
  verifyValueCrcOnRecovery := false

def blankWal (blocks bufBlocks : Nat) : Wal := ((Wal.unopened (blankDevice blocks)).openWal (plainOptions true bufBlocks)).2

theorem blank_fresh (blocks : Nat) : FreshDevice (blankDevice blocks) := ⟨rfl, fun _ => rfl, rfl, fun _ _ _ => rfl⟩

theorem plain_buffer (bufBlocks : Nat) (pos : 0 < bufBlocks) (small : bufBlocks ≤ 2 ^ 32) :
    roundUpBufferSize (4096 * bufBlocks) kWalBlockSize = 4096 * bufBlocks := by
  unfold roundUpBufferSize kWalBlockSize
  split <;> omega

theorem plain_open (dev : RawDevice) (create : Bool) (bufBlocks : Nat) (closed : dev.isOpen = false) (pos : 0 < bufBlocks)
    (small : bufBlocks ≤ 2 ^ 32) (room : 4096 * bufBlocks + 4096 ≤ walRingSize dev.sizeBytes) :
    ∃ w, (Wal.unopened dev).openWal (plainOptions create bufBlocks) = (Err.kSuccess, w) ∧ w.bufSize = 4096 * bufBlocks := by
  have buffer := plain_buffer bufBlocks pos small
  have enough : ¬ walRingSize dev.sizeBytes <
      max (min (4096 * 2) (2 ^ 64 - 1)) ((4096 * bufBlocks + kWalBlockSize) % 2 ^ 64) := by
    unfold kWalBlockSize
    omega
  have opens : (Wal.unopened dev).dev.openDevice = (Err.kSuccess, { dev with isOpen := true }) := by
    simp [Wal.unopened, RawDevice.openDevice, closed]
  unfold Wal.openWal
  simp only [opens, plainOptions, buffer, ne_eq, not_true_eq_false, if_false, if_neg enough]
  cases create with
  | true => exact ⟨_, rfl, rfl⟩
  | false => exact ⟨_, rfl, rfl⟩

theorem blank_opens (blocks bufBlocks : Nat) (pos : 0 < bufBlocks) (small : bufBlocks ≤ 2 ^ 32) (room : bufBlocks + 1 ≤ blocks) :
    (Wal.unopened (blankDevice blocks)).openWal (plainOptions true bufBlocks) = (Err.kSuccess, blankWal blocks bufBlocks) ∧
      (blankWal blocks bufBlocks).bufSize = 4096 * bufBlocks := by
  have ring : walRingSize (blankDevice blocks).sizeBytes = 4096 * blocks := by
    show walRingSize (8192 + 4096 * blocks) = _
    unfold walRingSize kDataRegionOffset kWalBlockSize
    rw [if_neg (by omega)]
    omega
  obtain ⟨w, opened, size⟩ := plain_open (blankDevice blocks) true bufBlocks rfl pos small (by omega)
  have same : blankWal blocks bufBlocks = w := by rw [blankWal, opened]
  rw [same]
  exact ⟨opened, size⟩

theorem blank_life (blocks bufBlocks : Nat) (level : WalLevel) (pos : 0 < bufBlocks) (small : bufBlocks ≤ 2 ^ 32)
    (room : bufBlocks + 1 ≤ blocks) : Lives (.start (blankWal blocks bufBlocks) level) := by
  obtain ⟨opened, size⟩ := blank_opens blocks bufBlocks pos small room
  exact .created _ _ _ level (blank_fresh blocks) rfl opened (by unfold Allocated; omega)

theorem blank_session (blocks bufBlocks : Nat) (level : WalLevel) (pos : 0 < bufBlocks) (small : bufBlocks ≤ 2 ^ 32)
    (room : bufBlocks + 1 ≤ blocks) : ∃ g : Ring, g.blocks = blocks ∧
      SessionInv g bufBlocks (.created g bufBlocks (blankDevice blocks).medium.cur) (.start (blankWal blocks bufBlocks) level) ∧
      BlankPrior g (slotBytes (blankDevice blocks).medium.cur) := by
  obtain ⟨opened, size⟩ := blank_opens blocks bufBlocks pos small room
  have just := open_wal_success _ _ _ opened
  generalize blankWal blocks bufBlocks = w at size just ⊢
  obtain ⟨g, b, inv, blank⟩ := created_session _ _ _ level (blank_fresh blocks) rfl just (by unfold Allocated; omega) (by omega)
  have sameBuf : b = bufBlocks := by
    have bytes : w.bufSize = 4096 * b := inv.quiet.inv.bufSize
    omega
  have sameRing : g.blocks = blocks := by
    have ring : walRingSize w.dev.sizeBytes = g.bytes := inv.quiet.inv.ring
    have device : w.dev.sizeBytes = (blankDevice blocks).sizeBytes := by rw [just.device]
    have size : (blankDevice blocks).sizeBytes = 8192 + 4096 * blocks := rfl
    rw [device, size, Ring.bytes] at ring
    unfold walRingSize kDataRegionOffset kWalBlockSize at ring
    rw [if_neg (by omega)] at ring
    omega
  subst sameBuf
  exact ⟨g, sameRing, inv, blank⟩

theorem plain_reopens (g : Ring) (bufBlocks : Nat) (v : WalView) (s : Session) (img : Image) (inv : SessionInv g bufBlocks v s)
    (small : bufBlocks ≤ 2 ^ 32) : ∃ w, s.Reopens img (plainOptions false bufBlocks) w ∧ w.bufSize = s.wal.bufSize ∧
      Reopened g bufBlocks img w := by
  have ring := inv.quiet.inv.ring
  have room := inv.quiet.inv.bufRoom
  have pos := inv.quiet.inv.bufPos
  have size := inv.quiet.inv.bufSize
  obtain ⟨w, opened, same⟩ := plain_open (s.wal.dev.reboot img) false bufBlocks rfl pos small (by
    show _ ≤ walRingSize s.wal.dev.sizeBytes
    rw [ring, Ring.bytes]
    omega)
  have reopens : s.Reopens img (plainOptions false bufBlocks) w := ⟨rfl, opened, by unfold Allocated; omega⟩
  obtain ⟨b, reopened⟩ := reopens_ready g s img _ w reopens (by omega) ring inv.quiet.healthy.readable
  have equal : b = bufBlocks := by
    have size' := reopened.ready.bufSize
    omega
  exact ⟨w, reopens, by omega, equal ▸ reopened⟩

def plainEntry (key : UInt8) : WalEntry where
  type := .put
  key := [key]
  block := .make 0 0
  valueCrc := 0
  timestamp := 0

-- Two writes before a close, then a batched life that is flushed after one
-- write and loses the next in the crash.
def firstLife : Session := (Session.start (blankWal 2 1) .strict).run [.write (plainEntry 1), .write (plainEntry 2)]

def secondLife (w : Wal) : Session :=
  (firstLife.restart .valueSync firstLife.entries (w.recover firstLife.covered collect []).wal).run
    [.write (plainEntry 3), .flush, .write (plainEntry 4)]

theorem first_life_inv : ∃ g v, g.blocks = 2 ∧ SessionInv g 1 v firstLife ∧ BlankPrior g v.prior ∧ v.lo = 0 ∧ firstLife.covered = 0 ∧
    firstLife.entries = [plainEntry 1, plainEntry 2] := by
  obtain ⟨g, blocks, inv, blank⟩ := blank_session 2 1 .strict (by decide) (by decide) (by decide)
  obtain ⟨next, inv', grown, kept⟩ := writes_session g 1 [plainEntry 1, plainEntry 2] _ _ inv (by decide)
    (show 2 ≤ 32 * (0 + g.blocks - 1) by omega)
  exact ⟨g, next, blocks, inv', by rw [grown.prior]; exact blank, grown.lo, kept.covered, inv'.entries.symm.trans grown.entries⟩

theorem second_life_inv (g : Ring) (s : Session) (covered stop lo : Nat) (h : History) (blocks : g.blocks = 2) (low : lo = 0) (two : stop = 2)
    (listed : h.entries.length = 2) (same : s.covered = covered) (zero : covered = 0)
    (inv : SessionInv g 1 (.recovered g 1 h covered stop lo) s) :
    ∃ v, SessionInv g 1 v (s.run [.write (plainEntry 3), .flush, .write (plainEntry 4)]) ∧ v.prior = h.prior ∧ v.lo = 0 ∧
      (s.run [.write (plainEntry 3), .flush, .write (plainEntry 4)]).covered = 0 ∧
      (s.run [.write (plainEntry 3), .flush, .write (plainEntry 4)]).entries.length = 4 ∧
      3 ≤ (s.run [.write (plainEntry 3), .flush, .write (plainEntry 4)]).acked := by
  have count : (WalView.recovered g 1 h covered stop lo).entries.length = 2 := by
    show (h.entries.take stop).length = 2
    rw [List.length_take]
    omega
  have head : (WalView.recovered g 1 h covered stop lo).head = 0 := by
    show covered / 32 = 0
    omega
  obtain ⟨v1, inv1, grown1, kept1⟩ := writes_session g 1 [plainEntry 3] _ s inv (by decide) (by
    rw [count, head, blocks]
    decide)
  have split : s.run [.write (plainEntry 3), .flush, .write (plainEntry 4)] =
      ((s.run ([plainEntry 3].map .write)).flushAll.2).run ([plainEntry 4].map .write) := rfl
  rw [split]
  generalize s.run ([plainEntry 3].map .write) = s1 at inv1 kept1 ⊢
  have count1 : v1.entries.length = 3 := by
    rw [grown1.entries, List.length_append, count]
    rfl
  obtain ⟨v2, step2, grown2, all, _, _, covered2, _, _, done⟩ := flush_all_view g 1 v1 s1 inv1
  have count2 : v2.entries.length = 3 := by rw [grown2.entries, List.append_nil, count1]
  have acked : s1.flushAll.2.acked = s1.flushAll.2.wal.lastSeq := by
    unfold Session.flushAll at done ⊢
    generalize s1.wal.flush s1.level = out at done ⊢
    by_cases fine : out.1 = Err.kSuccess
    · simp only [if_pos fine]
    · simp only [if_neg fine] at done
      exact absurd done fine
  rw [last_seq_length g 1 v2 _ step2.inv.quiet.inv, count2] at acked
  obtain ⟨v3, inv3, grown3, kept3⟩ := writes_session g 1 [plainEntry 4] v2 s1.flushAll.2 step2.inv (by decide) (by
    rw [count2, grown2.head, grown1.head, head, blocks]
    decide)
  have step3 : s1.flushAll.2.acked ≤ (s1.flushAll.2.run ([plainEntry 4].map .write)).acked := by
    obtain ⟨_, step⟩ := session_step g 1 v2 s1.flushAll.2 (.write (plainEntry 4)) step2.inv
    exact step.acked
  refine ⟨v3, inv3, by rw [grown3.prior, grown2.prior, grown1.prior]; rfl, ?_, ?_, ?_, by omega⟩
  · rw [grown3.lo, grown2.lo, grown1.lo]
    exact low
  · rw [kept3.covered, covered2, kept1.covered, same, zero]
  · rw [← inv3.entries, grown3.entries, List.length_append, count2]
    rfl

theorem recover_sound_and_complete_again : ∃ first w,
    firstLife.Reopens (firstLife.wal.close firstLife.level).2.dev.medium.cur (plainOptions false 1) first ∧
    (secondLife first).Reopens (secondLife first).wal.dev.medium.cur (plainOptions false 1) w ∧ (secondLife first).entries.length = 4 ∧
    ∃ last, (w.recover (secondLife first).covered collect []).wal.lastSeq = last ∧ (secondLife first).covered ≤ last ∧
      3 ≤ last ∧ last ≤ (secondLife first).entries.length ∧
      (w.recover (secondLife first).covered collect []).st =
        framesOf (secondLife first).entries (secondLife first).covered (last - (secondLife first).covered) := by
  obtain ⟨g, v, blocks, inv, blank, low, covered, entries⟩ := first_life_inv
  have total : firstLife.entries.length = 2 := by rw [entries]; rfl
  obtain ⟨closed, h, ok, prior, lo, same, _⟩ := close_session g 1 v firstLife inv
  obtain ⟨first, reopens, _, reopened⟩ := plain_reopens g 1 v firstLife (firstLife.wal.close firstLife.level).2.dev.medium.cur inv (by decide)
  obtain ⟨success, _⟩ := closed_life_recovers g 1 1 v firstLife first inv (by rw [low]; exact Nat.zero_le _)
    (fun img => blank_stale g v.prior img blank) (by rw [total]; decide) reopened
  have crash := crash_image g 1 firstLife h _ _ _ _ ok (survives_self kSectorSize _) (blank_stale g h.prior _ (by rw [prior]; exact blank))
    (by rw [same, total]; decide)
  obtain ⟨stop, restarted⟩ := crash_image_restarts g 1 firstLife h _ _ _ first .valueSync crash reopened success
  have listed := restarted.listed
  have reach := restarted.reach
  rw [same, total] at listed
  rw [total] at reach
  obtain ⟨lo', inv', around⟩ := restarted.inv
  have two : stop = 2 := by omega
  have bottom : lo' = 0 := by
    by_contra raised
    have wide := (around (by omega)).1
    have least := Nat.min_le_left 1 (g.toSeam (stop / 32))
    unfold zoneTop at wide
    rw [Ring.slots, blocks] at wide
    omega
  rw [same] at inv'
  obtain ⟨v2, inv2, prior2, low2, covered2, entries2, acked2⟩ := second_life_inv g
    (firstLife.restart .valueSync firstLife.entries (first.recover firstLife.covered collect []).wal) firstLife.covered stop lo' h blocks bottom two
    (by rw [same, total]) (by rw [Session.restart]) covered inv'
  obtain ⟨w, reopens2, _, reopened2⟩ := plain_reopens g 1 v2 (secondLife first) (secondLife first).wal.dev.medium.cur inv2 (by decide)
  obtain ⟨success2, _⟩ := rested_life_recovers g 1 1 v2 (secondLife first) w inv2 (by rw [low2]; exact Nat.zero_le _)
    (fun img => blank_stale g v2.prior img (by rw [prior2, prior]; exact blank))
    (by rw [show (secondLife first).entries.length = 4 from entries2]; decide) reopened2
  have lived : Lives firstLife := lives_run [.write (plainEntry 1), .write (plainEntry 2)] _
    (blank_life 2 1 .strict (by decide) (by decide) (by decide))
  have lives : Lives (secondLife first) := lives_run [.write (plainEntry 3), .flush, .write (plainEntry 4)] _
    (.restarted firstLife _ _ _ _ _ first .valueSync lived (.closed closed) (by rw [total]; decide) (survives_self kSectorSize _) reopens success)
  obtain ⟨last, seq, above, promised, below, frames⟩ := recover_sound_and_complete (secondLife first) _ _ _ _ _ w lives .atRest
    (by rw [show (secondLife first).entries.length = 4 from entries2]; decide) (survives_self kSectorSize _) reopens2 success2
  exact ⟨first, w, reopens, reopens2, entries2, last, seq, above, Nat.le_trans acked2 promised, below, frames⟩

end Cabe
