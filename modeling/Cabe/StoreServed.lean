import Cabe.StoreLives

set_option autoImplicit false

namespace Cabe

open Storage Concurrency

-- A thread on a data device that does not fail, in a log that has not come to
-- the end of its first block.
structure Faultless (sb : SuperBlock) (ops : Nat) (r : Reactor) : Prop where
  alive : Alive sb (3 * ops) r
  healthy : r.dc.io.dev.Healthy
  early : r.dc.wal.seqNext ≤ ops + 1

theorem io_write_healthy (io : SyncIoBackend) (level : WalLevel) (idx : Nat) (buffer : IoWriteBuffer) (healthy : io.dev.Healthy) :
    (io.write level idx buffer).2.dev.Healthy := by
  unfold SyncIoBackend.write
  split
  · exact healthy
  · cases buffer.data with
    | none => exact healthy
    | some bytes =>
        simp only
        split
        · exact healthy
        · by_cases fits : valueOffset idx + bytes.length ≤ io.dev.sizeBytes
          · have wrote := healthy_record io.dev (io.dev.medium.put (write io.dev.medium.cur (valueOffset idx) bytes)) healthy
            rw [healthy_write io.dev _ bytes healthy fits]
            simp only [ne_eq, not_true_eq_false, if_false]
            split
            · rw [healthy_sync _ wrote]
              exact healthy_record _ _ wrote
            · exact wrote
          · have refused : io.dev.writeAt (valueOffset idx) bytes = (Err.kIoBase, io.dev) := by
              unfold RawDevice.writeAt
              rw [if_neg fun both => fits both.2]
            rw [refused]
            exact healthy

theorem faultless_execute (sb : SuperBlock) (ops : Nat) (r : Reactor) (env : OpEnv) (req : Request) (faultless : Faultless sb ops r)
    (admitted : req.Admitted) (few : 3 * ops + 5 < 2 ^ 64) : Faultless sb (ops + 1) (r.execute env req).2 := by
  obtain ⟨alive, healthy, early⟩ := faultless
  have small := alive.small
  have lawful : Lawful sb r.dc.metaIndex := by
    obtain ⟨_, _, _, _, _, lasting⟩ := alive.lasts
    exact lasting.lawful
  obtain ⟨events, logs⟩ := execute_logs sb r env req _ alive.sound.owns.blocks lawful (by omega) admitted
  have numbers := log_run_numbers sb _ _ _ logs.run
  have one := logs.one
  refine ⟨(alive_execute sb r env req _ alive admitted few).1, ?_, by simp only at numbers; omega⟩
  rcases execute_io r env req with same | ⟨level, idx, buffer, same⟩
  · rw [same]
    exact healthy
  · rw [same]
    exact io_write_healthy _ _ _ _ healthy

-- There is room in the log for another frame.
theorem faultless_logs (sb : SuperBlock) (ops : Nat) (r : Reactor) (e : WalEntry) (faultless : Faultless sb ops r) (few : ops ≤ 31)
    (short : e.key.length ≤ kWalKeyMax) : (r.dc.wal.writeWal r.options.walLevel e).1 = Err.kSuccess := by
  obtain ⟨g, bufBlocks, v, s, kept, lasting⟩ := faultless.alive.lasts
  have wal : r.dc.wal = s.wal := lasting.tracks.wal
  have level : r.options.walLevel = s.level := lasting.tracks.level
  have inv := lasting.tracks.inv
  have early := faultless.early
  have room := g.room
  have seq := inv.quiet.inv.seqNext
  rw [wal, seq] at early
  obtain ⟨_, _, _, _, _, outcome⟩ := write_view g bufBlocks v s e inv short
  rcases outcome with ⟨done, _⟩ | ⟨_, _, full⟩
  · rw [wal, level]
    exact done
  · omega

theorem rescuing_done (r : Reactor) (env : ScanEnv) (e : WalEntry) (done : (r.dc.wal.writeWal r.options.walLevel e).1 = Err.kSuccess) :
    r.writeWalRescuing env e = (Err.kSuccess, r.withWal (r.dc.wal.writeWal r.options.walLevel e).2) := by
  have other : Err.kSuccess ≠ Err.kWalFull := by decide
  unfold Reactor.writeWalRescuing
  simp only [done, ne_eq, other, not_false_eq_true, if_true]

-- A pool with a free buffer always has one to lend.
theorem lease_served (r : Reactor) (req : PutRequest) (buffers : r.dc.pool.freeList = List.range kDefaultPoolBlocks) :
    ∃ lease buffer next, r.leaseWriteBuffer req = .ok (lease, buffer, next) ∧ buffer.data = some req.value.bytes ∧
      buffer.size = kValueSize ∧ next.dc.io = r.dc.io ∧ next.dc.wal = r.dc.wal ∧ next.dc.metaIndex = r.dc.metaIndex ∧
      next.options = r.options ∧ next.dc.snapshot = r.dc.snapshot := by
  unfold Reactor.leaseWriteBuffer
  cases plan : buildPutWritePlan req.value req.valueSource defaultBackendDirectWriteCaps with
  | direct =>
      have here : req.value.addr ≠ 0 := by
        intro null
        unfold buildPutWritePlan at plan
        rw [if_pos (.inr null)] at plan
        cases plan
      refine ⟨none, directWriteBuffer req, r, rfl, ?_, ?_, rfl, rfl, rfl, rfl, rfl⟩
      · have data : req.value.data = some req.value.bytes := if_neg here
        rw [← data]
        unfold directWriteBuffer
        split <;> rfl
      · unfold directWriteBuffer
        split <;> rfl
  | copyFallback =>
      obtain ⟨taken, lent⟩ : ∃ taken, r.dc.pool.allocate = some taken := by
        unfold BufferPool.allocate
        rw [buffers]
        exact ⟨_, rfl⟩
      simp only [lent]
      exact ⟨_, _, _, rfl, rfl, rfl, rfl, rfl, rfl, rfl, rfl⟩

theorem io_write_done (io : SyncIoBackend) (blockCount : Nat) (level : WalLevel) (idx : Nat) (buffer : IoWriteBuffer) (bytes : Bytes)
    (houses : io.Houses blockCount) (healthy : io.dev.Healthy) (inside : idx < blockCount) (given : buffer.data = some bytes)
    (size : buffer.size = kValueSize) (length : bytes.length = kValueSize) : (io.write level idx buffer).1 = Err.kSuccess := by
  have enough := houses.enough
  have count := houses.count
  have fits : valueOffset idx + bytes.length ≤ io.dev.sizeBytes := by
    rw [length]
    unfold valueOffset kDataRegionOffset at *
    unfold kValueSize at *
    omega
  have wrote := healthy_record io.dev (io.dev.medium.put (write io.dev.medium.cur (valueOffset idx) bytes)) healthy
  unfold SyncIoBackend.write
  rw [if_neg (by omega), given]
  simp only [size, ne_eq, not_true_eq_false, if_false]
  rw [healthy_write io.dev _ bytes healthy fits]
  simp only [not_true_eq_false, if_false]
  split
  · rw [healthy_sync _ wrote]
    rfl
  · rfl

-- The blocks that no key has are free, and only these.
theorem acquire_served (sb : SuperBlock) (r : Reactor) (owns : r.Owns sb) :
    if r.dc.metaIndex.blocks.length < sb.blockCount then ∃ taken, r.dc.blockAllocator.acquire = .ok taken
    else r.dc.blockAllocator.acquire = .error Err.kEngineNoSpace := by
  obtain ⟨items, held, perm⟩ := owns.blocks.free
  have count := perm.length_eq
  simp only [List.length_append, deviceBlocks, List.length_map, List.length_range] at count
  unfold RingBlockAllocator.acquire
  cases items with
  | nil =>
      rw [List.length_nil] at count
      rw [if_neg (by omega), queue_pop_nil _ held]
  | cons first rest =>
      obtain ⟨after, popped, _⟩ := queue_pop_cons _ first rest held
      rw [List.length_cons] at count
      rw [if_pos (by omega), popped]
      exact ⟨_, rfl⟩

theorem maybe_request_seq (sb : SuperBlock) (r : Reactor) (env : ScanEnv) :
    (r.maybeRequestSnapshot env).dc.wal.seqNext = r.dc.wal.seqNext := by
  obtain ⟨events, run, only⟩ := maybe_request_logs sb r env
  have numbers := log_run_numbers sb _ _ _ run
  rw [snapshots_numbers events only] at numbers
  exact numbers

-- Up to its frame a Put takes a block, lends its value, writes it and logs it.
structure PutParts (r : Reactor) (env : OpEnv) (req : PutRequest) (block : BlockId) (allocator : RingBlockAllocator) (lease : Option Nat)
    (buffer : IoWriteBuffer) (next logging : Reactor) : Prop where
  taken : r.dc.blockAllocator.acquire = .ok (block, allocator)
  leased : (r.withAllocator allocator).leaseWriteBuffer req = .ok (lease, buffer, next)
  stored : (next.dc.io.write next.options.walLevel block.blockIdx buffer).1 = Err.kSuccess
  named : logging = (next.withIo (next.dc.io.write next.options.walLevel block.blockIdx buffer).2).resetLease lease
  wal : logging.dc.wal = r.dc.wal
  index : logging.dc.metaIndex = r.dc.metaIndex
  snapshot : logging.dc.snapshot = r.dc.snapshot
  options : logging.options = r.options
  logged : (logging.dc.wal.writeWal logging.options.walLevel (putEntry req.key block (Util.crc32 req.value.bytes) env.now)).1 = Err.kSuccess

theorem put_parts (sb : SuperBlock) (ops : Nat) (r : Reactor) (env : OpEnv) (req : PutRequest) (faultless : Faultless sb ops r)
    (admitted : (Request.put req).Admitted) (few : ops ≤ 31) (free : r.dc.metaIndex.blocks.length < sb.blockCount) :
    ∃ block allocator lease buffer next logging, PutParts r env req block allocator lease buffer next logging := by
  obtain ⟨_, short, size⟩ := admitted
  have small := faultless.alive.small
  have owns := faultless.alive.sound.owns
  have acquired := acquire_served sb r owns
  rw [if_pos free] at acquired
  obtain ⟨⟨block, allocator⟩, taken⟩ := acquired
  have inside : block.blockIdx < sb.blockCount := by
    obtain ⟨_, perm⟩ := conserved_items _ _ _ _ (acquire_conserved _ _ _ _ _ _ owns.blocks taken)
    exact ((mem_device_blocks sb.dev sb.blockCount block (by omega)).mp
      (perm.mem_iff.mp (List.mem_append_right _ List.mem_cons_self))).2
  obtain ⟨lease, buffer, next, leased, given, length, io, wal, index, options, snapshot⟩ :=
    lease_served (r.withAllocator allocator) req owns.buffers
  have stored := io_write_done r.dc.io sb.blockCount r.options.walLevel block.blockIdx buffer req.value.bytes faultless.alive.houses
    faultless.healthy inside given length size
  have logged := faultless_logs sb ops r (putEntry req.key block (Util.crc32 req.value.bytes) env.now) faultless few short
  have same : next.dc.io.write next.options.walLevel block.blockIdx buffer = r.dc.io.write r.options.walLevel block.blockIdx buffer := by
    rw [io, options]
    rfl
  obtain ⟨logging, named⟩ : ∃ logging, logging =
    (next.withIo (next.dc.io.write next.options.walLevel block.blockIdx buffer).2).resetLease lease := ⟨_, rfl⟩
  have kept : logging.dc.wal = r.dc.wal ∧ logging.dc.metaIndex = r.dc.metaIndex ∧ logging.dc.snapshot = r.dc.snapshot ∧
      logging.options = r.options := by
    rw [named]
    cases lease <;> exact ⟨wal, index, snapshot, options⟩
  obtain ⟨wal', index', snapshot', options'⟩ := kept
  exact ⟨block, allocator, lease, buffer, next, logging, taken, leased, by rw [same]; exact stored, named, wal', index', snapshot', options',
    by rw [wal', options']; exact logged⟩

-- A Put is refused only when every block is in use.
theorem put_served (sb : SuperBlock) (ops : Nat) (r : Reactor) (env : OpEnv) (req : PutRequest) (faultless : Faultless sb ops r)
    (admitted : (Request.put req).Admitted) (few : ops ≤ 31) :
    if r.dc.metaIndex.blocks.length < sb.blockCount then
      (r.executePut env req).1 = .code Err.kSuccess ∧ (r.executePut env req).2.dc.wal.seqNext = r.dc.wal.seqNext + 1 ∧
        ∃ meta_, (r.executePut env req).2.dc.metaIndex = r.dc.metaIndex.insert req.key meta_
    else r.executePut env req = (.code Err.kEngineNoSpace, r) := by
  split
  · rename_i free
    obtain ⟨block, allocator, lease, buffer, next, logging, parts⟩ := put_parts sb ops r env req faultless admitted few free
    have numbered := (write_wal_numbered logging.dc.wal logging.options.walLevel _).done parts.logged
    rw [parts.wal] at numbered
    unfold Reactor.executePut
    simp only [parts.taken, parts.leased, parts.stored, ne_eq, not_true_eq_false, if_false]
    rw [← parts.named, rescuing_done logging env.rescue _ parts.logged]
    simp only [not_true_eq_false, if_false, with_wal_index, parts.index]
    refine ⟨trivial, ?_, ⟨block, env.now, Util.crc32 req.value.bytes, .active⟩, ?_⟩
    · rw [maybe_request_seq sb, ← numbered]
      cases r.dc.metaIndex.lookupMeta req.key <;> rw [← parts.wal] <;> rfl
    · rw [(maybe_request_store _ env.auto).index]
      cases r.dc.metaIndex.lookupMeta req.key <;> rfl
  · rename_i none_
    have acquired := acquire_served sb r faultless.alive.sound.owns
    rw [if_neg none_] at acquired
    unfold Reactor.executePut
    rw [acquired]

-- A Delete takes the key away when it is there.
theorem delete_served (sb : SuperBlock) (ops : Nat) (r : Reactor) (env : OpEnv) (key : Key) (meta_ : ValueMeta) (faultless : Faultless sb ops r)
    (few : ops ≤ 31) (found : r.dc.metaIndex.lookup key = some meta_) :
    (r.executeDelete env key).1 = .code Err.kSuccess ∧ (r.executeDelete env key).2.dc.wal.seqNext = r.dc.wal.seqNext + 1 ∧
      (r.executeDelete env key).2.dc.metaIndex = r.dc.metaIndex.erase key := by
  have lawful : Lawful sb r.dc.metaIndex := by
    obtain ⟨_, _, _, _, _, lasting⟩ := faultless.alive.lasts
    exact lasting.lawful
  have logged := faultless_logs sb ops r (deleteEntry key env.now) faultless few (lawful key meta_ found).2.1
  have here : r.dc.metaIndex.lookupMeta key = .ok meta_ := by
    unfold MetaIndex.lookupMeta
    rw [found]
  unfold Reactor.executeDelete
  rw [here]
  simp only
  rw [rescuing_done r env.rescue _ logged]
  simp only [ne_eq, not_true_eq_false, if_false, with_wal_index]
  refine ⟨trivial, ?_, ?_⟩
  · rw [maybe_request_seq sb]
    exact (write_wal_numbered r.dc.wal r.options.walLevel _).done logged
  · rw [(maybe_request_store _ env.auto).index]
    show (r.dc.metaIndex.deleteMeta key).2 = _
    unfold MetaIndex.deleteMeta
    rw [found]

theorem do_snapshot_done (r : Reactor) (env : ScanEnv) (taken : Snapshot) (flushed : (r.dc.wal.flush r.options.walLevel).1 = Err.kSuccess)
    (written : (r.dc.snapshot.noteTriggerAttempt r.dc.wal.lastSeq).write r.options env.toSnapshotEnv
      (r.dc.wal.flush r.options.walLevel).2.lastSeq (r.dc.metaIndex.forEach env.walk) = (Err.kSuccess, taken)) :
    (r.doSnapshot env).1 = Err.kSuccess ∧ (r.doSnapshot env).2.dc.snapshot = taken ∧ (r.doSnapshot env).2.dc.wal =
      ((r.dc.wal.flush r.options.walLevel).2.reclaimUpTo (r.dc.wal.flush r.options.walLevel).2.reclaimBoundary).2 := by
  unfold Reactor.doSnapshot
  cases flush : r.dc.wal.flush r.options.walLevel with
  | mk rc wal =>
  rw [flush] at flushed written
  simp only at flushed written
  subst flushed
  have log : (r.withSnapshot (r.dc.snapshot.noteTriggerAttempt r.dc.wal.lastSeq)).dc.wal.flush
    (r.withSnapshot (r.dc.snapshot.noteTriggerAttempt r.dc.wal.lastSeq)).options.walLevel = (Err.kSuccess, wal) := flush
  have same : ((r.withSnapshot (r.dc.snapshot.noteTriggerAttempt r.dc.wal.lastSeq)).withWal wal).dc.snapshot.write
    ((r.withSnapshot (r.dc.snapshot.noteTriggerAttempt r.dc.wal.lastSeq)).withWal wal).options env.toSnapshotEnv wal.lastSeq
    (((r.withSnapshot (r.dc.snapshot.noteTriggerAttempt r.dc.wal.lastSeq)).withWal wal).dc.metaIndex.forEach env.walk) =
      (Err.kSuccess, taken) := written
  simp only [log, ne_eq, not_true_eq_false, if_false]
  rw [same]
  exact ⟨rfl, rfl, rfl⟩

-- A snapshot is taken whenever there is memory for its buffer.
theorem snapshot_served (sb : SuperBlock) (ops : Nat) (r : Reactor) (env : OpEnv) (faultless : Faultless sb ops r)
    (memory : ∀ n, env.auto.alloc n = true) : (r.executeSnapshot env).1 = .code Err.kSuccess ∧
      (r.executeSnapshot env).2.dc.wal.seqNext = r.dc.wal.seqNext ∧
      (r.executeSnapshot env).2.dc.snapshot.activeEntryCount = r.dc.metaIndex.blocks.length := by
  obtain ⟨g, bufBlocks, v, s, kept, lasting⟩ := faultless.alive.lasts
  have wal : r.dc.wal = s.wal := lasting.tracks.wal
  have level : r.options.walLevel = s.level := lasting.tracks.level
  obtain ⟨flushed, _⟩ := flush_fits g bufBlocks v s lasting.tracks.inv
  rw [← wal, ← level] at flushed
  obtain ⟨_, perm⟩ := conserved_items _ _ _ _ faultless.alive.sound.owns.blocks
  have count := perm.length_eq
  simp only [List.length_append, deviceBlocks, List.length_map, List.length_range, MetaIndex.blocks] at count
  have walked := (env.auto.walk.perm r.dc.metaIndex)
  have ready := (rests_noted sb _ r.dc.wal.lastSeq _ _ _ lasting.rests).ready
  have written := write_succeeds (r.dc.snapshot.noteTriggerAttempt r.dc.wal.lastSeq) sb r.options env.auto.toSnapshotEnv
    (r.dc.wal.flush r.options.walLevel).2.lastSeq (env.auto.walk.order r.dc.metaIndex) ready lasting.buffered
    (by rw [walked.length_eq]; omega) (fun e member => by
      have bound := (lasting.lawful e.1 e.2 (AList.mem_lookup_iff.mpr (walked.mem_iff.mp member))).2.1
      unfold kWalKeyMax at bound
      unfold kSnapshotKeyMax
      omega)
  rcases written with ⟨_, short⟩ | ⟨done, _⟩
  · rw [memory] at short
    cases short
  · have fields := (write_success _ _ _ _ _ lasting.buffered done).fields
    obtain ⟨taken, named⟩ : ∃ taken, (r.dc.snapshot.noteTriggerAttempt r.dc.wal.lastSeq).write r.options env.auto.toSnapshotEnv
      (r.dc.wal.flush r.options.walLevel).2.lastSeq (r.dc.metaIndex.forEach env.auto.walk) = (Err.kSuccess, taken) := ⟨_, Prod.ext done rfl⟩
    have result : ((r.dc.snapshot.noteTriggerAttempt r.dc.wal.lastSeq).write r.options env.auto.toSnapshotEnv
      (r.dc.wal.flush r.options.walLevel).2.lastSeq fun visitor st => visitAll visitor st (env.auto.walk.order r.dc.metaIndex)).2 = taken :=
      congrArg Prod.snd named
    rw [result] at fields
    obtain ⟨code, kept, log⟩ := do_snapshot_done r env.auto taken flushed named
    refine ⟨congrArg Reply.code code, ?_, ?_⟩
    · show (r.doSnapshot env.auto).2.dc.wal.seqNext = _
      rw [log, reclaim_seq]
      exact (flush_codes r.dc.wal r.options.walLevel).2
    · show (r.doSnapshot env.auto).2.dc.snapshot.activeEntryCount = _
      rw [kept, fields]
      show (env.auto.walk.order r.dc.metaIndex).length = (r.dc.metaIndex.entries.map _).length
      rw [walked.length_eq, List.length_map]

-- The plain options with a threshold of their own.
def pacedOptions (threshold : Nat) : Options := { plainOptions true 1 with snapshotThresholdBytes := threshold }

theorem paced_opens (threshold : Nat) (low : threshold ≤ 4096) :
    (Wal.unopened (blankDevice 2)).openWal (pacedOptions threshold) = (Err.kSuccess, blankWal 2 1) := by
  have floor : max (min (threshold * 2) (2 ^ 64 - 1)) ((roundUpBufferSize (4096 * 1) kWalBlockSize + kWalBlockSize) % 2 ^ 64) =
      max (min (4096 * 2) (2 ^ 64 - 1)) ((roundUpBufferSize (4096 * 1) kWalBlockSize + kWalBlockSize) % 2 ^ 64) := by
    rw [plain_buffer 1 (by decide) (by decide), kWalBlockSize]
    omega
  rw [← (blank_opens 2 1 (by decide) (by decide) (by decide)).1]
  unfold Wal.openWal
  simp only [pacedOptions, plainOptions, floor]
  congr

theorem blank_group_paced (threshold : Nat) (low : threshold ≤ 4096) : ∃ dc,
    openDevice (pacedOptions threshold) plainOpenEnv blankSuperBlock blankGroup = (Err.kSuccess, dc) ∧ dc.metaIndex = ∅ ∧
      dc.wal.seqNext = 1 ∧ Faultless blankSuperBlock 0 ⟨pacedOptions threshold, dc⟩ := by
  obtain ⟨snapshot, snapshotOpened, _⟩ := snapshot_created blankSuperBlock (pacedOptions threshold) plainOpenEnv.toSnapshotEnv (blankDevice 4)
    rfl rfl (fun _ => rfl) rfl rfl (by decide)
  have ioOpened : SyncIoBackend.openIo ⟨blankDevice 512, 0⟩ = (Err.kSuccess, ⟨{ blankDevice 512 with isOpen := true }, 2⟩) := by
    simp [SyncIoBackend.openIo, RawDevice.openDevice, blankDevice, kDataRegionOffset, kValueSize]
  obtain ⟨dc, named⟩ : ∃ dc, dc = { baseContext blankSuperBlock blankGroup ⟨{ blankDevice 512 with isOpen := true }, 2⟩ with
    wal := blankWal 2 1, snapshot := snapshot } := ⟨_, rfl⟩
  have opened := open_device_created (pacedOptions threshold) plainOpenEnv blankSuperBlock blankGroup _ _ snapshot rfl ioOpened (by decide)
    (paced_opens threshold low) snapshotOpened
  rw [← named] at opened
  have created : BlankGroup blankSuperBlock ⟨pacedOptions threshold, dc⟩ := ⟨rfl, (by decide : 4096 ≤ 2 ^ 64 - 4096), (by decide : 4096 * 1 ≤ 2 ^ 63),
    plainOpenEnv, blankGroup, (by decide : 8192 + 4096 * 512 < 2 ^ 64), (by decide : 8192 + 4096 * 4 < 2 ^ 64), blank_fresh 2, rfl, fun _ => rfl,
    opened⟩
  refine ⟨dc, opened, by rw [named]; rfl, by rw [named]; rfl, (blank_group_alive blankSuperBlock _ created).1, ?_, ?_⟩
  · rw [named]
    exact ⟨rfl, rfl, fun _ => rfl⟩
  · have just := open_wal_success _ _ _ (blank_opens 2 1 (by decide) (by decide) (by decide)).1
    show dc.wal.seqNext ≤ 1
    rw [named, just.position.2.2.2]

theorem blank_group_serves : ∃ dc, openDevice (plainOptions true 1) plainOpenEnv blankSuperBlock blankGroup = (Err.kSuccess, dc) ∧
    dc.metaIndex = ∅ ∧ Faultless blankSuperBlock 0 ⟨plainOptions true 1, dc⟩ := by
  obtain ⟨dc, opened, empty, _, ready⟩ := blank_group_paced 4096 (Nat.le_refl _)
  exact ⟨dc, opened, empty, ready⟩

section Plain

variable (ops : Nat) (r : Reactor) (index : MetaIndex) (ready : Faultless blankSuperBlock ops r) (few : ops ≤ 31)
  (here : r.dc.metaIndex = index)

include ready few here

theorem plain_put (key : UInt8) (free : index.blocks.length < blankSuperBlock.blockCount) : ∃ meta_,
    (r.execute plainOpEnv (.put (zeroPut key))).1 = .code Err.kSuccess ∧
    (r.execute plainOpEnv (.put (zeroPut key))).2.dc.wal.seqNext = r.dc.wal.seqNext + 1 ∧
    (r.execute plainOpEnv (.put (zeroPut key))).2.dc.metaIndex = index.insert [key] meta_ ∧
    Faultless blankSuperBlock (ops + 1) (r.execute plainOpEnv (.put (zeroPut key))).2 := by
  have served := put_served blankSuperBlock ops r plainOpEnv (zeroPut key) ready (zero_put_admitted key) few
  rw [here, if_pos free] at served
  obtain ⟨code, seq, meta_, changed⟩ := served
  exact ⟨meta_, code, seq, changed, faultless_execute _ ops r plainOpEnv (.put (zeroPut key)) ready (zero_put_admitted key) (by omega)⟩

theorem plain_put_refused (key : UInt8) (full : ¬ index.blocks.length < blankSuperBlock.blockCount) :
    r.execute plainOpEnv (.put (zeroPut key)) = (.code Err.kEngineNoSpace, r) := by
  have served := put_served blankSuperBlock ops r plainOpEnv (zeroPut key) ready (zero_put_admitted key) few
  rw [here, if_neg full] at served
  exact served

theorem plain_delete (key : UInt8) (meta_ : ValueMeta) (found : index.lookup [key] = some meta_) :
    (r.execute plainOpEnv (.delete [key])).1 = .code Err.kSuccess ∧
    (r.execute plainOpEnv (.delete [key])).2.dc.wal.seqNext = r.dc.wal.seqNext + 1 ∧
    (r.execute plainOpEnv (.delete [key])).2.dc.metaIndex = index.erase [key] ∧
    Faultless blankSuperBlock (ops + 1) (r.execute plainOpEnv (.delete [key])).2 := by
  rw [← here] at found ⊢
  obtain ⟨code, seq, changed⟩ := delete_served blankSuperBlock ops r plainOpEnv [key] meta_ ready few found
  exact ⟨code, seq, changed, faultless_execute _ ops r plainOpEnv (.delete [key]) ready (Nat.le_refl 1) (by omega)⟩

theorem plain_snapshot : (r.execute plainOpEnv .snapshot).1 = .code Err.kSuccess ∧
    (r.execute plainOpEnv .snapshot).2.dc.wal.seqNext = r.dc.wal.seqNext ∧
    (r.execute plainOpEnv .snapshot).2.dc.snapshot.activeEntryCount = index.blocks.length ∧
    (r.execute plainOpEnv .snapshot).2.dc.metaIndex = index ∧ Faultless blankSuperBlock (ops + 1) (r.execute plainOpEnv .snapshot).2 := by
  rw [← here]
  obtain ⟨code, seq, count⟩ := snapshot_served blankSuperBlock ops r plainOpEnv ready fun _ => rfl
  exact ⟨code, seq, count, (do_snapshot_store r plainOpEnv.auto).index,
    faultless_execute _ ops r plainOpEnv .snapshot ready trivial (by omega)⟩

end Plain

end Cabe
