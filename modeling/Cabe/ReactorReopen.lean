import Cabe.BlockFifo
import Cabe.ReactorLasting

set_option autoImplicit false

namespace Cabe

open Storage Concurrency

-- A run that starts at one place ends at one place.
theorem run_end_unique (P : Nat → Prop) (from_ a b : Nat) (lowerA : from_ ≤ a) (lowerB : from_ ≤ b) (runA : ∀ v, from_ ≤ v → v < a → P v)
    (runB : ∀ v, from_ ≤ v → v < b → P v) (endA : ¬ P a) (endB : ¬ P b) : a = b := by
  rcases Nat.lt_trichotomy a b with less | same | more
  · exact absurd (runB a lowerA less) endA
  · exact same
  · exact absurd (runA b lowerB more) endB

-- What opening the log again gives when at most one frame was on its way: the
-- entries up to some number, all of them handed to whoever replays them.
structure Resumes (g : Ring) (bufBlocks : Nat) (s : Session) (h : History) (synced written : Nat) (level : WalLevel) (w : Wal) (stop lo : Nat)
    (wal : Wal) : Prop where
  reach : synced ≤ stop
  upper : stop ≤ written
  low : lo ≤ 32 * (s.covered / 32)
  last : wal.lastSeq = stop
  inv : SessionInv g bufBlocks (.recovered g bufBlocks h s.covered stop lo) (s.restart level h.entries wal)
  replays : ∀ (σ : Type) (fn : WalReplayFn σ) (st st' : σ), replayFrom fn h.entries s.covered (stop - s.covered) st = .ok st' →
    w.recover s.covered fn st = ⟨Err.kSuccess, wal, st'⟩

theorem crash_image_resumes (g : Ring) (bufBlocks : Nat) (s : Session) (h : History) (synced written : Nat) (img : Image) (w : Wal)
    (level : WalLevel) (crash : CrashImage g h synced written s.covered img) (reopened : Reopened g bufBlocks img w)
    (low : h.lo ≤ 32 * (s.covered / 32)) (one : written ≤ synced + 1) :
    ∃ stop lo wal, Resumes g bufBlocks s h synced written level w stop lo wal := by
  obtain ⟨stop, found⟩ := crash_image_run g bufBlocks h synced written s.covered img w crash reopened low
  have image : w.dev.medium.cur = img := by rw [reopened.image]; rfl
  have clean : w.dev.medium.unsynced = [] := by rw [reopened.image]; rfl
  have placed := found.recoverable.placed
  rw [image] at placed
  have listed := crash.listed
  have reach := found.reach
  have upper := found.upper
  have lower := found.lower
  -- A frame beyond the run would be a second one in flight.
  have none_ : ∀ v, stop < v → ¬ Present g h.entries img v := fun v late here => by
    have below := present_written g h.entries written img placed v here
    omega
  have gate : (∃ v, s.covered ≤ v ∧ Present g h.entries img v) → Present g h.entries img s.covered := by
    rintro ⟨v, from_, here⟩
    rcases Nat.lt_or_ge s.covered stop with before | after
    · exact found.run s.covered (Nat.le_refl _) before
    · rcases Nat.lt_or_eq_of_le (Nat.le_trans after from_) with late | same
      · exact absurd here (none_ v late)
      · rw [show s.covered = v by omega]
        exact here
  have success := found.success.mpr ⟨gate, fun v late here => absurd here (none_ v late)⟩
  obtain ⟨dev, replayed⟩ := found.replayed success
  have untouched := replayed.untouched fun v late => by
    rw [image]
    exact none_ v late
  obtain ⟨stop', restarted⟩ := crash_image_restarts g bufBlocks s h synced written img w level crash reopened success
  have wal : (w.recover s.covered collect []).wal = recoveredWal g bufBlocks h.entries s.covered stop w w.dev := by
    rw [replayed.result, untouched]
  have inside := crash.inside
  have reach' := restarted.reach
  have same : stop' = stop := run_end_unique (Present g h.entries img) s.covered stop' stop (by omega) lower restarted.run found.run
    restarted.absent found.absent
  subst same
  obtain ⟨lo, inv, around⟩ := restarted.inv
  have last := restarted.last
  rw [wal] at inv last
  refine ⟨stop', lo, _, reach, upper, ?_, last, inv, fun σ fn st st' replay => ?_⟩
  · by_contra high
    obtain ⟨_, v, late, here⟩ := around (by omega)
    exact none_ v late here
  · by_cases first : Present g h.entries img s.covered
    · have stopEq : stopOf g h.entries w.dev.medium.cur s.covered = stop' := by
        obtain ⟨lower', _, run', absent'⟩ := stop_spec g bufBlocks h.entries written s.covered w found.recoverable.toScannable
        rw [image] at lower' run' absent' ⊢
        exact run_end_unique (Present g h.entries img) s.covered _ _ lower' lower run' found.run absent' found.absent
      obtain ⟨_, run⟩ := recover_run g bufBlocks h.entries written s.covered w found.recoverable reopened.fresh reopened.healthy clean fn st
        (by rw [image]; exact first) stop' stopEq
      obtain ⟨dev', done, untouched', _⟩ := (run st' replay).2 fun v late here => absurd (image ▸ here) (none_ v late)
      rw [done, untouched' fun v late => by rw [image]; exact none_ v late]
    · have idle : stop' = s.covered := by
        rcases Nat.lt_or_eq_of_le lower with less | same
        · exact absurd (found.run s.covered (Nat.le_refl _) less) first
        · exact same.symm
      subst idle
      rw [Nat.sub_self] at replay
      cases replay
      have wide : 32 ≤ g.slots := by
        have room := g.room
        rw [Ring.slots]
        omega
      exact recover_idle g bufBlocks h.entries written s.covered w found.recoverable reopened.fresh reopened.healthy clean wide fn st
        fun v from_ here => first (gate ⟨v, from_, image ▸ here⟩)

theorem collect_blocks (m : MetaIndex) (walk : Walk) :
    m.forEach walk (fun active _ meta_ => (Err.kSuccess, active ++ [meta_.block])) ([] : List BlockId) =
      (Err.kSuccess, (walk.order m).map fun e => e.2.block) := by
  have visited := visit_all_accepting (fun (active : List BlockId) (_ : Key) (meta_ : ValueMeta) => (Err.kSuccess, active ++ [meta_.block]))
    (walk.order m) (fun _ _ _ => rfl) []
  have collected : ∀ (entries : List IndexEntry) (front : List BlockId),
      entries.foldl (fun active e => active ++ [e.2.block]) front = front ++ entries.map fun e => e.2.block := by
    intro entries
    induction entries with
    | nil => simp
    | cons e rest ih =>
        intro front
        rw [List.foldl_cons, ih, List.map_cons, List.append_assoc]
        rfl
  rw [collected, List.nil_append] at visited
  exact visited

-- An index that names blocks of its device, none of them twice, is taken over.
theorem rebuild_allocator_done (dc : DeviceContext) (walk : Walk) (lawful : Lawful dc.superBlock dc.metaIndex)
    (nodup : dc.metaIndex.blocks.Nodup) : (dc.rebuildAllocator walk).1 = Err.kSuccess := by
  have named (id : BlockId) (member : id ∈ dc.metaIndex.blocks) : id.dev = dc.superBlock.dev ∧ id.blockIdx < dc.superBlock.blockCount := by
    obtain ⟨⟨key, meta_⟩, inside, rfl⟩ := List.mem_map.mp member
    exact (lawful key meta_ (AList.mem_lookup_iff.mpr inside)).2.2
  have perm := walk_blocks dc.metaIndex walk
  have clean : Clean dc.superBlock.blockCount ((walk.order dc.metaIndex).map fun e => e.2.block) := by
    refine ⟨fun id member => (named id (perm.mem_iff.mp member)).2, ?_⟩
    refine (perm.map BlockId.blockIdx).nodup_iff.mpr (List.Nodup.map_on (fun a memA b memB same => ?_) nodup)
    rw [← block_make_parts a, ← block_make_parts b, same, (named a memA).1, (named b memB).1]
  unfold DeviceContext.rebuildAllocator
  simp only [collect_blocks, ne_eq, not_true_eq_false, if_false]
  rcases mark_used_outcome dc.superBlock.blockCount ((walk.order dc.metaIndex).map fun e => e.2.block) [] _
    (marks_none dc.superBlock.blockCount) with ⟨marked, done, _⟩ | ⟨rc, before, id, after, _, split, _, offends⟩
  · exact (rebuild_holds dc.superBlock.dev _ _ _ done).1
  · rw [split] at clean
    exact absurd clean (offends_unclean _ before after id rc offends)

theorem verify_values_done (dc : DeviceContext) (walk : Walk) (free : dc.pool.allocate ≠ none)
    (reads : ∀ key meta_, dc.metaIndex.lookup key = some meta_ → ∃ bytes, dc.io.read meta_.block.blockIdx = .ok bytes) :
    (dc.verifyValuesCrc walk).1 = Err.kSuccess := by
  unfold DeviceContext.verifyValuesCrc
  cases taken : dc.pool.allocate with
  | none => exact absurd taken free
  | some got =>
      simp only [MetaIndex.forEach]
      rw [visit_all_accepting]
      intro bad e member
      have known := AList.mem_lookup_iff.mpr ((walk.perm dc.metaIndex).mem_iff.mp member)
      obtain ⟨bytes, done⟩ := reads e.1 e.2 known
      rw [done]

theorem recover_device_goes (opts : Options) (env : OpenEnv) (dc : DeviceContext) (snapshot : Snapshot) (loaded index : MetaIndex)
    (opened_ wal : Wal) (opened : dc.snapshot.openSnapshot opts env.toSnapshotEnv dc.superBlock = (Err.kSuccess, snapshot))
    (base : snapshot.load opts env.toSnapshotEnv (applyRecoveredEntry dc.superBlock) dc.metaIndex = (Err.kSuccess, loaded))
    (walOpened : dc.wal.openWal opts = (Err.kSuccess, opened_))
    (replayed : opened_.recover snapshot.lastCoveredSeq (applyWalEntry dc.superBlock) loaded = ⟨Err.kSuccess, wal, index⟩)
    (lawful : Lawful dc.superBlock index) (nodup : index.blocks.Nodup) (free : dc.pool.allocate ≠ none)
    (reads : opts.verifyValueCrcOnRecovery = true → ∀ key meta_, index.lookup key = some meta_ →
      ∃ bytes, dc.io.read meta_.block.blockIdx = .ok bytes) :
    ∃ allocator, recoverDevice opts env dc = (Err.kSuccess,
      { dc with snapshot := snapshot, metaIndex := index, wal := wal, blockAllocator := allocator }) := by
  unfold recoverDevice
  simp only [opened, ne_eq, not_true_eq_false, if_false, base, walOpened, replayed]
  have rebuilt := rebuild_allocator_done { dc with snapshot := snapshot, metaIndex := index, wal := wal } env.rebuild lawful nodup
  have other := rebuild_allocator_other { dc with snapshot := snapshot, metaIndex := index, wal := wal } env.rebuild
  generalize ({ dc with snapshot := snapshot, metaIndex := index, wal := wal } : DeviceContext).rebuildAllocator env.rebuild = out
    at rebuilt other ⊢
  refine ⟨out.2.blockAllocator, ?_⟩
  rw [if_neg (not_not.mpr rebuilt)]
  split
  · rename_i verified
    have done := verify_values_done out.2 env.verify (by rw [other]; exact free) (by rw [other]; exact reads verified)
    exact Prod.ext done ((verify_values_same out.2 env.verify).trans other)
  · exact Prod.ext rfl other

-- A data device with room for the blocks of the index.
structure SyncIoBackend.Houses (io : SyncIoBackend) (blockCount : Nat) : Prop where
  opened : io.dev.isOpen = true
  word : io.dev.sizeBytes < 2 ^ 64
  count : io.blockCount = (io.dev.sizeBytes - kDataRegionOffset) / kValueSize
  some_ : io.blockCount ≠ 0
  enough : blockCount ≤ io.blockCount

theorem open_io_houses (dev : RawDevice) (io : SyncIoBackend) (blockCount : Nat) (word : dev.sizeBytes < 2 ^ 64)
    (done : SyncIoBackend.openIo ⟨dev, 0⟩ = (Err.kSuccess, io)) (enough : blockCount ≤ io.blockCount) : io.Houses blockCount := by
  unfold SyncIoBackend.openIo RawDevice.openDevice at done
  by_cases busy : dev.isOpen = true
  · simp [busy, Err.kIoBase, Err.kSuccess] at done
  · simp only [busy, Bool.false_eq_true, if_false, ne_eq, not_true_eq_false] at done
    by_cases small : dev.sizeBytes ≤ kDataRegionOffset
    · simp [small, Err.kEngineInvalidOpts, Err.kSuccess] at done
    · rw [if_neg small] at done
      by_cases none_ : (dev.sizeBytes - kDataRegionOffset) / kValueSize = 0
      · simp [none_, Err.kEngineInvalidOpts, Err.kSuccess] at done
      · simp only [none_, if_false, Prod.mk.injEq, true_and] at done
        subst done
        exact ⟨rfl, word, rfl, none_, enough⟩

-- The same device opens again, whatever it holds.
theorem houses_opens (io : SyncIoBackend) (blockCount : Nat) (img : Image) (houses : io.Houses blockCount) :
    SyncIoBackend.openIo ⟨io.dev.reboot img, 0⟩ = (Err.kSuccess, ⟨{ io.dev.reboot img with isOpen := true }, io.blockCount⟩) := by
  have some_ := houses.some_
  have count := houses.count
  have large : ¬ io.dev.sizeBytes ≤ kDataRegionOffset := by
    intro small
    rw [count, Nat.sub_eq_zero_of_le small, Nat.zero_div] at some_
    exact some_ rfl
  unfold SyncIoBackend.openIo RawDevice.openDevice RawDevice.reboot
  simp only [Bool.false_eq_true, if_false, ne_eq, not_true_eq_false, large, ← count, some_]

theorem houses_reads (io : SyncIoBackend) (blockCount idx : Nat) (houses : io.Houses blockCount) (readable : ∀ k, io.dev.unreadable k = false)
    (inside : idx < blockCount) : ∃ bytes, io.read idx = .ok bytes := by
  have enough := houses.enough
  have count := houses.count
  have fits : valueOffset idx + kValueSize ≤ io.dev.sizeBytes := by
    unfold valueOffset kDataRegionOffset at *
    unfold kValueSize at *
    omega
  unfold SyncIoBackend.read
  rw [if_neg (by omega), read_at_readable io.dev _ _ houses.opened readable fits]
  exact ⟨_, rfl⟩

-- What a start has to be given. It reads the values only when it is told to.
structure Provided (r : Reactor) (opts : Options) (env : OpenEnv) (wal : Image) : Prop where
  recovering : opts.create = false
  usable : Usable opts env.toSnapshotEnv
  buffer : opts.walBufferSize ≤ 2 ^ 63
  room : ((Wal.unopened (r.dc.wal.dev.reboot wal)).openWal opts).1 = Err.kSuccess
  readable : opts.verifyValueCrcOnRecovery = true → ∀ k, r.dc.io.dev.unreadable k = false

-- The devices of a thread as the next process finds them.
def Reactor.left (r : Reactor) (data wal snapshot : Image) : DeviceGroup :=
  ⟨r.dc.io.dev.reboot data, r.dc.wal.dev.reboot wal, r.dc.snapshot.dev.reboot snapshot⟩

theorem provided_buffer (opts : Options) (size : opts.walBufferSize ≤ 2 ^ 63) :
    0 < roundUpBufferSize opts.walBufferSize kWalBlockSize ∧ roundUpBufferSize opts.walBufferSize kWalBlockSize ≤ 2 ^ 63 := by
  have aligned := round_up_aligned opts.walBufferSize
  obtain ⟨_, lower, upper⟩ := round_up_bounds opts.walBufferSize (by omega)
  show 0 < roundUpBufferSize opts.walBufferSize 4096 ∧ roundUpBufferSize opts.walBufferSize 4096 ≤ 2 ^ 63
  omega

theorem open_device_recovered (opts : Options) (env : OpenEnv) (sb : SuperBlock) (group : DeviceGroup) (io : SyncIoBackend) (dc : DeviceContext)
    (mode : opts.create = false) (ioOpened : SyncIoBackend.openIo ⟨group.data, 0⟩ = (Err.kSuccess, io)) (count : sb.blockCount ≤ io.blockCount)
    (recovered : recoverDevice opts env (baseContext sb group io) = (Err.kSuccess, dc)) : openDevice opts env sb group = (Err.kSuccess, dc) := by
  unfold openDevice
  simp only [ioOpened, ne_eq, not_true_eq_false, if_false]
  rw [if_neg (by omega), if_neg (by simp [mode])]
  exact recovered

-- What a start leaves of the thread that has gone.
structure ReopenedAs (sb : SuperBlock) (count : Nat) (r next : Reactor) (data : Image) (live : MetaIndex) : Prop where
  lasts : Lasts sb count ⟨.rest, next⟩
  index : next.dc.metaIndex.Same live
  io : next.dc.io = ⟨{ r.dc.io.dev.reboot data with isOpen := true }, r.dc.io.blockCount⟩

theorem reactor_reopens (sb : SuperBlock) (g : Ring) (bufBlocks : Nat) (v : WalView) (s : Session) (kept : List IndexEntry) (count : Nat)
    (stage : LogStage) (r : Reactor) (lasting : Lasting sb g bufBlocks v s kept count ⟨stage, r⟩) (houses : r.dc.io.Houses sb.blockCount)
    (h : History) (synced written : Nat) (data wal snapshot : Image) (crash : CrashImage g h synced written s.covered wal)
    (prior : h.prior = v.prior) (lo : h.lo = v.lo) (one : written ≤ synced + 1)
    (alive : r.dc.snapshot.dev.medium.Survives kSectorSize snapshot) (opts : Options) (env : OpenEnv) (provided : Provided r opts env wal)
    (lives : Nat → MetaIndex) (restores : ∀ stop, synced ≤ stop → stop ≤ written → Restores sb kept s.covered (h.entries.take stop) (lives stop))
    (lawful : ∀ stop, synced ≤ stop → stop ≤ written → Lawful sb (lives stop) ∧ (lives stop).blocks.Nodup)
    (few : h.entries.length ≤ count) (gens : count + 2 < 2 ^ 64) :
    ∃ stop dc, synced ≤ stop ∧ stop ≤ written ∧ openDevice opts env sb (r.left data wal snapshot) = (Err.kSuccess, dc) ∧
      ReopenedAs sb count r ⟨opts, dc⟩ data (lives stop) := by
  have inv := lasting.tracks.inv
  have sameWal : r.dc.wal = s.wal := lasting.tracks.wal
  -- The log opens, and recovers its entries up to some number.
  obtain ⟨opened_, walOpened⟩ : ∃ w, (Wal.unopened (r.dc.wal.dev.reboot wal)).openWal opts = (Err.kSuccess, w) :=
    ⟨_, Prod.ext provided.room rfl⟩
  have just := open_wal_success _ opts opened_ walOpened
  obtain ⟨bufPos, bufMax⟩ := provided_buffer opts provided.buffer
  have reopens : s.Reopens wal opts opened_ :=
    ⟨provided.recovering, by rw [← sameWal]; exact walOpened, by unfold Allocated; rw [just.bufSize]; exact bufMax⟩
  obtain ⟨bufBlocks', reopened⟩ := reopens_ready g s wal opts opened_ reopens (by rw [just.bufSize]; exact bufPos) inv.quiet.inv.ring
    inv.quiet.healthy.readable
  have intact := lasting.intact
  have low : h.lo ≤ 32 * (s.covered / 32) := by
    have head := session_head g bufBlocks v s inv
    unfold WalView.Intact at intact
    omega
  obtain ⟨stop, lo', after, resumes⟩ := crash_image_resumes g bufBlocks' s h synced written wal opened_ opts.walLevel crash reopened low one
  have reach := resumes.reach
  have upper := resumes.upper
  have listed := crash.listed
  -- The snapshot opens and loads what it kept.
  obtain ⟨snap, snapOpened, covered, loads, rests⟩ := rests_reopen sb r.dc.snapshot s.covered kept count lasting.rests snapshot alive opts
    env.toSnapshotEnv (r.dc.snapshot.dev.reboot snapshot) ⟨rfl, rfl, rfl, rfl, lasting.rests.ready.healthy.readable⟩ rfl provided.recovering
    provided.usable gens
  obtain ⟨base, index, loaded, replayed, same⟩ := restores stop reach upper
  obtain ⟨lawful', nodup⟩ := lawful stop reach upper
  have length : (h.entries.take stop).length = stop := by
    rw [List.length_take]
    omega
  rw [length] at replayed
  have whole : replayFrom (applyWalEntry sb) h.entries s.covered (stop - s.covered) base = .ok index := by
    have front := replay_from_append (applyWalEntry sb) (h.entries.take stop) (h.entries.drop stop) (stop - s.covered) s.covered base
      (by have inside := crash.inside; omega)
    rw [List.take_append_drop] at front
    exact front.trans replayed
  have indexLawful := same_lawful sb index _ same lawful'
  have goes := recover_device_goes opts env
    (baseContext sb (r.left data wal snapshot) ⟨{ r.dc.io.dev.reboot data with isOpen := true }, r.dc.io.blockCount⟩) snap base index opened_ after
    snapOpened (by rw [loads]; exact loaded) walOpened (by rw [covered]; exact resumes.replays _ _ _ _ whole) indexLawful
    ((same_blocks index _ same).nodup_iff.mpr nodup) (by
      show (BufferPool.create kDefaultPoolBlocks).allocate ≠ none
      simp [BufferPool.allocate, BufferPool.create, kDefaultPoolBlocks, List.range_succ])
    (fun verified key meta_ found => by
      refine houses_reads _ sb.blockCount _ ⟨rfl, houses.word, houses.count, houses.some_, houses.enough⟩ (provided.readable verified) ?_
      exact (indexLawful key meta_ found).2.2.2)
  obtain ⟨allocator, recovered⟩ := goes
  have ioOpened := houses_opens r.dc.io sb.blockCount data houses
  have session := resumes.inv
  have last := resumes.last
  refine ⟨stop, _, reach, upper, open_device_recovered opts env sb (r.left data wal snapshot) _ _ provided.recovering ioOpened houses.enough
    recovered, ⟨g, bufBlocks', .recovered g bufBlocks' h s.covered stop lo', s.restart opts.walLevel h.entries after, kept, ?_⟩, same, rfl⟩
  refine ⟨⟨rfl, rfl, session, trivial⟩, ?_, resumes.low, rests, ?_, indexLawful, nofun, buffer_pos opts provided.usable.size, ?_⟩
  · show BlankPrior g h.prior
    rw [prior]
    exact lasting.blank
  · show Restores sb kept s.covered (h.entries.take after.lastSeq) index
    rw [last]
    exact ⟨base, index, loaded, by rw [length]; exact replayed, same_refl index⟩
  · show (h.entries.take after.lastSeq).length ≤ count
    rw [last, length]
    omega

end Cabe
