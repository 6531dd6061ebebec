import Cabe.Engine

set_option autoImplicit false

namespace Cabe

open Storage

-- Whatever a callback keeps true of its state is true after it was called for
-- every record or frame.
theorem load_records_keeps {σ : Type} (visitor : MetaIndexVisitor σ) (P : σ → Prop) (buf : Bytes)
    (kept : ∀ st key meta_, P st → (visitor st key meta_).1 = Err.kSuccess → P (visitor st key meta_).2) (slots : List Nat) :
    ∀ st, P st → (loadRecords visitor buf slots st).1 = Err.kSuccess → P (loadRecords visitor buf slots st).2 := by
  induction slots with
  | nil => exact fun st holds _ => holds
  | cons i rest ih =>
      intro st holds done
      unfold loadRecords at done ⊢
      simp only at done ⊢
      split at done
      · exact absurd (show Err.kSnapshotCorrupted = Err.kSuccess from done) (by decide)
      · split at done
        · exact absurd done ‹_›
        · rename_i long refused
          rw [if_neg long, if_neg refused]
          exact ih _ (kept st _ _ holds (not_not.mp refused)) done

theorem load_from_keeps {σ : Type} (s : Snapshot) (visitor : MetaIndexVisitor σ) (P : σ → Prop)
    (kept : ∀ st key meta_, P st → (visitor st key meta_).1 = Err.kSuccess → P (visitor st key meta_).2) (bufSize off remaining : Nat)
    (st : σ) (holds : P st) (done : (s.loadFrom visitor bufSize off remaining st).1 = Err.kSuccess) :
    P (s.loadFrom visitor bufSize off remaining st).2 := by
  fun_induction Snapshot.loadFrom s visitor bufSize off remaining st with
  | case1 => exact absurd (show Err.kSnapshotReadFailed = Err.kSuccess from done) (by decide)
  | case2 off remaining st more want buf found recsHere rc st1 loaded refused => exact absurd done refused
  | case3 off remaining st more want buf found recsHere rc st1 loaded fine moved ih =>
      apply ih _ done
      have records := load_records_keeps visitor P buf kept (List.range recsHere) st holds
      rw [loaded] at records
      exact records (not_not.mp fine)
  | case4 => exact absurd (show Err.kNeverReturns = Err.kSuccess from done) (by decide)
  | case5 => exact holds

theorem load_keeps {σ : Type} (s : Snapshot) (opts : Options) (env : SnapshotEnv) (visitor : MetaIndexVisitor σ) (P : σ → Prop)
    (kept : ∀ st key meta_, P st → (visitor st key meta_).1 = Err.kSuccess → P (visitor st key meta_).2) (st : σ) (holds : P st)
    (done : (s.load opts env visitor st).1 = Err.kSuccess) : P (s.load opts env visitor st).2 := by
  unfold Snapshot.load at done ⊢
  split at done
  · exact absurd (show Err.kSnapshotReadFailed = Err.kSuccess from done) (by decide)
  · rw [if_neg ‹_›]
    cases active : s.activeSlot with
    | none => exact holds
    | some slot =>
        simp only [active] at done ⊢
        by_cases empty : s.activeEntryCount = 0
        · rw [if_pos empty]
          exact holds
        · rw [if_neg empty] at done ⊢
          by_cases short : env.alloc (roundUpBufferSize opts.snapshotBufferSize kSnapshotBlockSize) = false
          · rw [if_pos short] at done
            exact absurd (show Err.kSnapshotReadFailed = Err.kSuccess from done) (by decide)
          · rw [if_neg short] at done ⊢
            exact load_from_keeps s visitor P kept _ _ _ st holds done

theorem slot_keeps {σ : Type} (s : Scan σ) (w : Wal) (coveredSeq : Nat) (fn : WalReplayFn σ) (f : WalFrame) (next : Scan σ)
    (P : σ → Prop) (kept : ∀ st e seq st', P st → fn st e seq = .ok st' → P st') (holds : P s.st)
    (done : s.slot w coveredSeq fn f = .ok next) : P next.st := by
  have swept : ∀ (t u : Scan σ), P t.st → t.sweep w coveredSeq f = .ok u → P u.st := by
    intro t u old done
    unfold Scan.sweep at done
    split at done
    · simp only at done
      split at done
      · cases done
      · cases done
        split <;> split <;> exact old
    · cases done
      exact old
  have advanced : ∀ (r : Except Rc (Scan σ)), r.map (·.next w) = .ok next → (∀ u, r = .ok u → P u.st) → P next.st := by
    intro r moved every
    cases r with
    | error rc => cases moved
    | ok u =>
        cases moved
        exact every u rfl
  unfold Scan.slot at done
  split at done
  · split at done
    · refine advanced _ done fun u delivered => ?_
      unfold Scan.deliver at delivered
      cases called : fn s.st (decodeEntry f) f.seq.toNat with
      | error rc =>
          rw [called] at delivered
          cases delivered
      | ok st =>
          rw [called] at delivered
          cases delivered
          exact kept _ _ _ _ holds called
    · exact advanced _ done fun u found => swept { s with inRun := false, stopOff := s.pos } u holds found
  · exact advanced _ done fun u found => swept s u holds found

theorem walk_keeps {σ : Type} (w : Wal) (coveredSeq : Nat) (fn : WalReplayFn σ) (P : σ → Prop)
    (kept : ∀ st e seq st', P st → fn st e seq = .ok st' → P st') (slots : Nat) :
    ∀ (chunk : Option Chunk) (s last : Scan σ), P s.st → w.walk coveredSeq fn slots chunk s = .ok last → P last.st := by
  induction slots with
  | zero =>
      intro chunk s last holds done
      cases done
      exact holds
  | succ slots ih =>
      intro chunk s last holds done
      unfold Wal.walk at done
      cases fetched : w.fetch chunk s.pos with
      | error rc =>
          rw [fetched] at done
          cases done
      | ok c =>
          rw [fetched] at done
          simp only at done
          cases moved : s.slot w coveredSeq fn (frameIn c.bytes (s.pos - c.off)) with
          | error rc =>
              rw [moved] at done
              cases done
          | ok next =>
              rw [moved] at done
              exact ih (some c) next last (slot_keeps s w coveredSeq fn _ next P kept holds moved) done

theorem survey_keeps {σ : Type} (w : Wal) (coveredSeq : Nat) (fn : WalReplayFn σ) (P : σ → Prop)
    (kept : ∀ st e seq st', P st → fn st e seq = .ok st' → P st') (st : σ) (c : RecoverCensus) (s : Scan σ) (holds : P st)
    (done : w.survey coveredSeq fn st = .ok (c, s)) : P s.st := by
  unfold Wal.survey at done
  cases scanned : w.censusScan coveredSeq with
  | error rc =>
      rw [scanned] at done
      cases done
  | ok census =>
      rw [scanned] at done
      simp only at done
      split at done
      · cases done
      · split at done
        · split at done
          · cases done
          · cases walked : w.walk coveredSeq fn ((w.ringEnd - w.ringStart) / kWalFrameSize) none
                (.start coveredSeq census.minLiveOff st) with
            | error rc =>
                rw [walked] at done
                cases done
            | ok last =>
                rw [walked] at done
                cases done
                exact walk_keeps w coveredSeq fn P kept _ none _ s holds walked
        · cases done
          exact holds

theorem recover_keeps {σ : Type} (w : Wal) (coveredSeq : Nat) (fn : WalReplayFn σ) (P : σ → Prop)
    (kept : ∀ st e seq st', P st → fn st e seq = .ok st' → P st') (st : σ) (holds : P st) : P (w.recover coveredSeq fn st).st := by
  unfold Wal.recover
  split
  · exact holds
  · split
    · exact holds
    · simp only
      cases surveyed : ({ w with curBuf := some (zeros w.bufSize) } : Wal).survey coveredSeq fn st with
      | error rc => exact holds
      | ok found =>
          obtain ⟨c, s⟩ := found
          have after := survey_keeps _ coveredSeq fn P kept st c s holds surveyed
          simp only
          split
          · exact after
          · simp only
            split
            · exact after
            · exact holds

-- An index whose entries could have been written to this device.
def Lawful (sb : SuperBlock) (index : MetaIndex) : Prop :=
  ∀ key meta_, index.lookup key = some meta_ →
    1 ≤ key.length ∧ key.length ≤ kWalKeyMax ∧ meta_.block.dev = sb.dev ∧ meta_.block.blockIdx < sb.blockCount

theorem validate_meta (sb : SuperBlock) (key : Key) (id : BlockId) :
    validateRecoveredMeta sb key (some id) = true ↔
      1 ≤ key.length ∧ key.length ≤ kWalKeyMax ∧ id.dev = sb.dev ∧ id.blockIdx < sb.blockCount := by
  unfold validateRecoveredMeta
  by_cases bad : key.length = 0 ∨ key.length > kWalKeyMax
  · simp only [if_pos bad, Bool.false_eq_true, false_iff]
    omega
  · rw [if_neg bad]
    have short : 1 ≤ key.length ∧ key.length ≤ kWalKeyMax := by omega
    by_cases dev : id.dev = sb.dev
    · by_cases idx : id.blockIdx < sb.blockCount
      · simp [dev, idx, short]
      · simp [dev, idx]
    · simp [dev]

theorem lawful_insert (sb : SuperBlock) (index : MetaIndex) (key : Key) (meta_ : ValueMeta) (lawful : Lawful sb index)
    (valid : validateRecoveredMeta sb key (some meta_.block) = true) : Lawful sb (index.insert key meta_) := by
  intro other found known
  by_cases same : other = key
  · subst same
    rw [AList.lookup_insert, Option.some.injEq] at known
    subst known
    exact (validate_meta sb other meta_.block).mp valid
  · rw [AList.lookup_insert_ne same] at known
    exact lawful other found known

theorem lawful_erase (sb : SuperBlock) (index : MetaIndex) (key : Key) (lawful : Lawful sb index) : Lawful sb (index.erase key) := by
  intro other found known
  by_cases same : other = key
  · subst same
    rw [AList.lookup_erase] at known
    cases known
  · rw [AList.lookup_erase_ne same] at known
    exact lawful other found known

theorem lawful_empty (sb : SuperBlock) : Lawful sb ∅ := by
  intro key meta_ found
  cases found

theorem apply_recovered_lawful (sb : SuperBlock) (index : MetaIndex) (key : Key) (meta_ : ValueMeta) (lawful : Lawful sb index)
    (done : (applyRecoveredEntry sb index key meta_).1 = Err.kSuccess) : Lawful sb (applyRecoveredEntry sb index key meta_).2 := by
  unfold applyRecoveredEntry at done ⊢
  cases valid : validateRecoveredMeta sb key (some meta_.block) with
  | false =>
      rw [valid] at done
      exact absurd (show Err.kSnapshotCorrupted = Err.kSuccess from done) (by decide)
  | true => exact lawful_insert sb index key meta_ lawful valid

theorem apply_wal_lawful (sb : SuperBlock) (index next : MetaIndex) (e : WalEntry) (seq : Nat) (lawful : Lawful sb index)
    (done : applyWalEntry sb index e seq = .ok next) : Lawful sb next := by
  unfold applyWalEntry at done
  split at done
  · cases valid : validateRecoveredMeta sb e.key (some e.block) with
    | false => simp [valid] at done
    | true =>
        simp only [valid, Bool.true_eq_false, if_false, Except.ok.injEq] at done
        subst done
        exact lawful_insert sb index e.key _ lawful valid
  · split at done
    · split at done
      · cases done
      · unfold MetaIndex.deleteMeta at done
        cases found : index.lookup e.key with
        | none => simp [found] at done
        | some meta_ =>
            simp only [found] at done
            split at done
            · cases done
            · simp only [ne_eq, not_true_eq_false, if_false, Except.ok.injEq] at done
              subst done
              exact lawful_erase sb index e.key lawful
    · cases done

-- The rebuilt allocator owns what the index does not.
theorem rebuild_allocator_conserved (dc : DeviceContext) (walk : Walk) (lawful : Lawful dc.superBlock dc.metaIndex)
    (fits : dc.superBlock.blockCount ≤ 2 ^ 56) (done : (dc.rebuildAllocator walk).1 = Err.kSuccess) :
    Conserved dc.superBlock.dev dc.superBlock.blockCount (dc.rebuildAllocator walk).2.blockAllocator dc.metaIndex.blocks ∧
      (dc.rebuildAllocator walk).2 = { dc with blockAllocator := (dc.rebuildAllocator walk).2.blockAllocator } := by
  have visited := visit_all_accepting (fun (active : List BlockId) (_ : Key) (meta_ : ValueMeta) => (Err.kSuccess, active ++ [meta_.block]))
    (walk.order dc.metaIndex) (fun _ _ _ => rfl) []
  have collected : ∀ (entries : List IndexEntry) (front : List BlockId),
      entries.foldl (fun active e => active ++ [e.2.block]) front = front ++ entries.map fun e => e.2.block := by
    intro entries
    induction entries with
    | nil => simp
    | cons e rest ih =>
        intro front
        rw [List.foldl_cons, ih, List.map_cons, List.append_assoc]
        rfl
  simp only [collected, List.nil_append] at visited
  unfold DeviceContext.rebuildAllocator at done ⊢
  simp only [MetaIndex.forEach, visited, ne_eq, not_true_eq_false, if_false] at done ⊢
  have here : ∀ id ∈ (walk.order dc.metaIndex).map (fun e => e.2.block), id.dev = dc.superBlock.dev := by
    intro id member
    obtain ⟨⟨key, meta_⟩, inside, rfl⟩ := List.mem_map.mp member
    have known := AList.mem_lookup_iff.mpr ((walk.perm dc.metaIndex).mem_iff.mp inside)
    exact (lawful key meta_ known).2.2.1
  obtain ⟨conserved, _⟩ := rebuild_conserved dc.superBlock.dev dc.superBlock.blockCount _ fits here done
  exact ⟨conserved_perm _ _ _ _ _ conserved (walk_blocks dc.metaIndex walk), trivial⟩

theorem verify_values_same (dc : DeviceContext) (walk : Walk) : (dc.verifyValuesCrc walk).2 = dc := by
  unfold DeviceContext.verifyValuesCrc
  cases taken : dc.pool.allocate with
  | none => rfl
  | some found =>
      obtain ⟨buf, pool⟩ := found
      simp only [free_allocated dc.pool pool buf taken]

-- The stations of a start that succeeds.
structure RecoveredDevice (opts : Options) (env : OpenEnv) (before after : DeviceContext) where
  snapshot : Snapshot
  loaded : MetaIndex
  wal : Wal
  opened : before.snapshot.openSnapshot opts env.toSnapshotEnv before.superBlock = (Err.kSuccess, snapshot)
  base : snapshot.load opts env.toSnapshotEnv (applyRecoveredEntry before.superBlock) before.metaIndex = (Err.kSuccess, loaded)
  walOpened : before.wal.openWal opts = (Err.kSuccess, wal)
  replayed : (wal.recover snapshot.lastCoveredSeq (applyWalEntry before.superBlock) loaded).rc = Err.kSuccess
  sameSnapshot : after.snapshot = snapshot
  sameWal : after.wal = (wal.recover snapshot.lastCoveredSeq (applyWalEntry before.superBlock) loaded).wal
  sameIndex : after.metaIndex = (wal.recover snapshot.lastCoveredSeq (applyWalEntry before.superBlock) loaded).st
  sameIo : after.io = before.io
  samePool : after.pool = before.pool
  sameSuperBlock : after.superBlock = before.superBlock
  rebuilt : (after.rebuildAllocator env.rebuild).1 = Err.kSuccess
  allocator : after.blockAllocator = (after.rebuildAllocator env.rebuild).2.blockAllocator

theorem rebuild_allocator_other (dc : DeviceContext) (walk : Walk) :
    (dc.rebuildAllocator walk).2 = { dc with blockAllocator := (dc.rebuildAllocator walk).2.blockAllocator } := by
  unfold DeviceContext.rebuildAllocator
  simp only
  split <;> rfl

theorem rebuild_allocator_again (dc : DeviceContext) (walk : Walk) (allocator : RingBlockAllocator) :
    ({ dc with blockAllocator := allocator }.rebuildAllocator walk).1 = (dc.rebuildAllocator walk).1 ∧
      ((dc.rebuildAllocator walk).1 = Err.kSuccess →
        ({ dc with blockAllocator := allocator }.rebuildAllocator walk).2.blockAllocator = (dc.rebuildAllocator walk).2.blockAllocator) := by
  unfold DeviceContext.rebuildAllocator
  simp only
  split
  · exact ⟨rfl, fun done => absurd done ‹_›⟩
  · exact ⟨rfl, fun _ => rfl⟩

theorem recover_device_ok (opts : Options) (env : OpenEnv) (dc : DeviceContext)
    (done : (recoverDevice opts env dc).1 = Err.kSuccess) :
    Nonempty (RecoveredDevice opts env dc (recoverDevice opts env dc).2) := by
  unfold recoverDevice at done ⊢
  cases opened : dc.snapshot.openSnapshot opts env.toSnapshotEnv dc.superBlock with
  | mk rc snapshot =>
  simp only [opened] at done ⊢
  by_cases openFine : rc = Err.kSuccess
  swap
  · rw [if_pos openFine] at done
    exact absurd done openFine
  subst openFine
  simp only [ne_eq, not_true_eq_false, if_false] at done ⊢
  cases base : snapshot.load opts env.toSnapshotEnv (applyRecoveredEntry dc.superBlock) dc.metaIndex with
  | mk rc loaded =>
  simp only [base] at done ⊢
  by_cases loadFine : rc = Err.kSuccess
  swap
  · rw [if_pos loadFine] at done
    exact absurd done loadFine
  subst loadFine
  simp only [not_true_eq_false, if_false] at done ⊢
  cases walOpened : dc.wal.openWal opts with
  | mk rc wal =>
  simp only [walOpened] at done ⊢
  by_cases walFine : rc = Err.kSuccess
  swap
  · rw [if_pos walFine] at done
    exact absurd done walFine
  subst walFine
  simp only [not_true_eq_false, if_false] at done ⊢
  generalize replay : wal.recover snapshot.lastCoveredSeq (applyWalEntry dc.superBlock) loaded = out at done ⊢
  by_cases replayFine : out.rc = Err.kSuccess
  swap
  · rw [if_pos replayFine] at done
    exact absurd done replayFine
  simp only [replayFine, not_true_eq_false, if_false] at done ⊢
  generalize middle : ({ dc with snapshot := snapshot, metaIndex := out.st, wal := out.wal } : DeviceContext) = mid
  simp only [middle] at done ⊢
  cases rebuilt : mid.rebuildAllocator env.rebuild with
  | mk rc after =>
  simp only [rebuilt] at done ⊢
  by_cases rebuildFine : rc = Err.kSuccess
  swap
  · rw [if_pos rebuildFine] at done
    exact absurd done rebuildFine
  subst rebuildFine
  simp only [not_true_eq_false, if_false] at done ⊢
  have final : (if opts.verifyValueCrcOnRecovery = true then after.verifyValuesCrc env.verify else (Err.kSuccess, after)).2 = after := by
    split
    · exact verify_values_same after env.verify
    · rfl
  rw [final]
  have other := rebuild_allocator_other mid env.rebuild
  have again := rebuild_allocator_again mid env.rebuild after.blockAllocator
  rw [rebuilt] at other again
  simp only at other again
  rw [← other] at again
  subst middle
  exact ⟨{
    snapshot := snapshot
    loaded := loaded
    wal := wal
    opened := opened
    base := base
    walOpened := walOpened
    replayed := by rw [replay]; exact replayFine
    sameSnapshot := by rw [other]
    sameWal := by rw [other, replay]
    sameIndex := by rw [other, replay]
    sameIo := by rw [other]
    samePool := by rw [other]
    sameSuperBlock := by rw [other]
    rebuilt := again.1
    allocator := (again.2 trivial).symm }⟩

-- What the opening loop has built before it reaches the WAL and the snapshot.
def baseContext (sb : SuperBlock) (group : DeviceGroup) (io : SyncIoBackend) : DeviceContext where
  io := io
  wal := .unopened group.wal
  snapshot := .unopened group.snapshot
  pool := .create kDefaultPoolBlocks
  blockAllocator := (RingBlockAllocator.init sb.dev sb.blockCount).2
  metaIndex := ∅
  superBlock := sb

theorem open_device_ok (opts : Options) (env : OpenEnv) (sb : SuperBlock) (group : DeviceGroup) (dc : DeviceContext)
    (done : openDevice opts env sb group = (Err.kSuccess, dc)) :
    ∃ io, SyncIoBackend.openIo ⟨group.data, 0⟩ = (Err.kSuccess, io) ∧ sb.blockCount ≤ io.blockCount ∧
      ((opts.create = true ∧ ∃ wal snapshot, (Wal.unopened group.wal).openWal opts = (Err.kSuccess, wal) ∧
          (Snapshot.unopened group.snapshot).openSnapshot opts env.toSnapshotEnv sb = (Err.kSuccess, snapshot) ∧
          dc = { baseContext sb group io with wal := wal, snapshot := snapshot }) ∨
        (opts.create = false ∧ Nonempty (RecoveredDevice opts env (baseContext sb group io) dc))) := by
  unfold openDevice at done
  cases opened : SyncIoBackend.openIo ⟨group.data, 0⟩ with
  | mk rc io =>
  simp only [opened] at done
  by_cases fine : rc = Err.kSuccess
  swap
  · rw [if_pos fine] at done
    exact absurd (congrArg Prod.fst done) fine
  subst fine
  simp only [ne_eq, not_true_eq_false, if_false] at done
  by_cases large : sb.blockCount > io.blockCount
  · rw [if_pos large] at done
    exact absurd (show Err.kSuperBlockSizeMismatch = Err.kSuccess from congrArg Prod.fst done) (by decide)
  rw [if_neg large] at done
  refine ⟨io, rfl, by omega, ?_⟩
  cases mode : opts.create with
  | true =>
      simp only [mode, if_true] at done
      cases walOpened : (Wal.unopened group.wal).openWal opts with
      | mk rc wal =>
      simp only [walOpened] at done
      by_cases walFine : rc = Err.kSuccess
      swap
      · rw [if_pos walFine] at done
        exact absurd (congrArg Prod.fst done) walFine
      subst walFine
      simp only [not_true_eq_false, if_false] at done
      cases snapOpened : (Snapshot.unopened group.snapshot).openSnapshot opts env.toSnapshotEnv sb with
      | mk rc snapshot =>
      simp only [snapOpened, Prod.mk.injEq] at done
      obtain ⟨rfl, rfl⟩ := done
      exact .inl ⟨rfl, wal, snapshot, rfl, rfl, rfl⟩
  | false =>
      simp only [mode, Bool.false_eq_true, if_false] at done
      have result : recoverDevice opts env (baseContext sb group io) = (Err.kSuccess, dc) := done
      have recovered := recover_device_ok opts env (baseContext sb group io) (congrArg Prod.fst result)
      rw [result] at recovered
      exact .inr ⟨rfl, recovered⟩

-- A size in bytes fits a word, so the numbers of the blocks fit their field.
theorem open_io_count (group : DeviceGroup) (io : SyncIoBackend) (word : group.data.sizeBytes < 2 ^ 64)
    (done : SyncIoBackend.openIo ⟨group.data, 0⟩ = (Err.kSuccess, io)) : io.blockCount < 2 ^ 44 := by
  unfold SyncIoBackend.openIo RawDevice.openDevice at done
  by_cases busy : group.data.isOpen = true
  · simp [busy, Err.kIoBase, Err.kSuccess] at done
  · simp only [busy, Bool.false_eq_true, if_false, ne_eq, not_true_eq_false] at done
    by_cases small : group.data.sizeBytes ≤ kDataRegionOffset
    · simp [small, Err.kEngineInvalidOpts, Err.kSuccess] at done
    · rw [if_neg small] at done
      by_cases none_ : (group.data.sizeBytes - kDataRegionOffset) / kValueSize = 0
      · simp [none_, Err.kEngineInvalidOpts, Err.kSuccess] at done
      · simp only [none_, if_false, Prod.mk.injEq, true_and] at done
        subst done
        show (group.data.sizeBytes - kDataRegionOffset) / kValueSize < 2 ^ 44
        unfold kDataRegionOffset kValueSize
        omega

theorem recovered_lawful (opts : Options) (env : OpenEnv) (before after : DeviceContext)
    (recovered : RecoveredDevice opts env before after) (empty : before.metaIndex = ∅) : Lawful before.superBlock after.metaIndex := by
  have loaded : Lawful before.superBlock recovered.loaded := by
    have kept := load_keeps recovered.snapshot opts env.toSnapshotEnv (applyRecoveredEntry before.superBlock) (Lawful before.superBlock)
      (fun index key meta_ lawful done => apply_recovered_lawful before.superBlock index key meta_ lawful done) before.metaIndex
      (by rw [empty]; exact lawful_empty _)
    rw [recovered.base] at kept
    exact kept rfl
  rw [recovered.sameIndex]
  exact recover_keeps recovered.wal recovered.snapshot.lastCoveredSeq (applyWalEntry before.superBlock) (Lawful before.superBlock)
    (fun index e seq next lawful done => apply_wal_lawful before.superBlock index next e seq lawful done) recovered.loaded loaded

-- A device context that was opened owns its blocks.
theorem opened_conserved (opts : Options) (env : OpenEnv) (sb : SuperBlock) (group : DeviceGroup) (dc : DeviceContext)
    (word : group.data.sizeBytes < 2 ^ 64) (done : openDevice opts env sb group = (Err.kSuccess, dc)) :
    Conserved sb.dev sb.blockCount dc.blockAllocator dc.metaIndex.blocks ∧ dc.pool = .create kDefaultPoolBlocks ∧
      dc.superBlock = sb ∧ Lawful sb dc.metaIndex ∧ sb.blockCount < 2 ^ 44 := by
  obtain ⟨io, opened, count, modes⟩ := open_device_ok opts env sb group dc done
  have bound := open_io_count group io word opened
  rcases modes with ⟨_, wal, snapshot, _, _, rfl⟩ | ⟨_, ⟨recovered⟩⟩
  · exact ⟨init_conserved sb.dev sb.blockCount, rfl, rfl, lawful_empty sb, by omega⟩
  · have lawful := recovered_lawful opts env _ dc recovered rfl
    have same : dc.superBlock = sb := recovered.sameSuperBlock
    have conserved := (rebuild_allocator_conserved dc env.rebuild (by rw [same]; exact lawful) (by rw [same]; omega) recovered.rebuilt).1
    rw [same, ← recovered.allocator] at conserved
    exact ⟨conserved, recovered.samePool, same, lawful, by omega⟩

end Cabe
