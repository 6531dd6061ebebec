import Cabe.BlockOwnership
import Cabe.SnapshotBounds
import Cabe.WalLegal

set_option autoImplicit false

namespace Cabe

open Storage

-- The two headers a recovery reads do not claim more bytes than a word counts.
def HeadersBounded (dev : RawDevice) : Prop :=
  ∀ off, off = kDataRegionOffset ∨ off = kDataRegionOffset + snapshotSlotSize dev.sizeBytes →
    (SnapshotSlotHeader.ofBytes (read dev.medium.cur off kSnapshotSlotHeaderSize)).entryCount.toNat * kSnapshotRecordSize +
      kSnapshotSlotHeaderSize < 2 ^ 64

theorem apply_recovered_answers (sb : SuperBlock) (index : MetaIndex) (key : Key) (meta_ : ValueMeta) :
    (applyRecoveredEntry sb index key meta_).1 = Err.kSuccess ∨ (applyRecoveredEntry sb index key meta_).1 < 0 := by
  unfold applyRecoveredEntry
  split
  · exact .inr (show Err.kSnapshotCorrupted < 0 by decide)
  · exact .inl rfl

theorem apply_wal_answers (sb : SuperBlock) (index : MetaIndex) (e : WalEntry) (seq : Nat) (rc : Rc)
    (failed : applyWalEntry sb index e seq = .error rc) : rc < 0 := by
  unfold applyWalEntry at failed
  split at failed
  · split at failed
    · cases failed
      decide
    · cases failed
  · split at failed
    · split at failed
      · cases failed
        decide
      · unfold MetaIndex.deleteMeta at failed
        cases found : index.lookup e.key with
        | none =>
            simp only [found, if_true] at failed
            cases failed
            decide
        | some meta_ =>
            simp only [found, ne_eq, not_true_eq_false, if_false] at failed
            split at failed
            · cases failed
              decide
            · cases failed
    · cases failed
      decide

section SnapshotSide

variable (s : Snapshot) (opts : Options) (env : SnapshotEnv)

theorem choose_refuses (h : Slot → SnapshotSlotHeader) (ok : Slot → Bool) (cand : Slot) (rc : Rc) (fine : ok cand = true)
    (answers : ∀ slot, ok slot = true →
      s.verifySlotData opts env slot (h slot) = Err.kSuccess ∨ s.verifySlotData opts env slot (h slot) < 0)
    (failed : s.choose opts env h ok cand = .error rc) : rc < 0 := by
  unfold Snapshot.choose at failed
  simp only at failed
  split at failed
  · cases failed
  · rename_i bad
    split at failed
    · cases failed
      exact (answers cand fine).resolve_left bad
    · split at failed
      · rename_i otherFine
        split at failed
        · cases failed
        · rename_i worse
          split at failed
          · cases failed
            exact (answers cand.other otherFine).resolve_left worse
          · cases failed
            decide
      · cases failed
        decide

-- A recovery refuses, has found no snapshot, or adopts a header it accepted.
theorem adjudicate_answers (answers : ∀ slot h, s.readHeader slot = some h → s.slotOk h = true →
      s.verifySlotData opts env slot h = Err.kSuccess ∨ s.verifySlotData opts env slot h < 0) :
    (∃ rc, s.adjudicate opts env = .error rc ∧ rc < 0) ∨ s.adjudicate opts env = .ok s.never ∨
      ∃ slot h maxGen, s.readHeader slot = some h ∧ s.slotOk h = true ∧ s.adjudicate opts env = .ok (s.adopt slot h maxGen) := by
  unfold Snapshot.adjudicate
  split
  · exact .inl ⟨_, rfl, by decide⟩
  · split
    · rename_i ha hb readA readB
      simp only
      split
      · exact .inl ⟨_, rfl, by decide⟩
      · split
        · exact .inr (.inl rfl)
        · rename_i some_
          have accepted := candidate_accepted (fun slot => s.slotOk (slot.pick ha hb))
            (ha.generation.toNat > hb.generation.toNat) some_
          have every : ∀ slot, s.slotOk (slot.pick ha hb) = true →
              s.verifySlotData opts env slot (slot.pick ha hb) = Err.kSuccess ∨
                s.verifySlotData opts env slot (slot.pick ha hb) < 0 := by
            intro slot fine
            cases slot with
            | a => exact answers .a ha readA fine
            | b => exact answers .b hb readB fine
          split
          · rename_i code refused
            exact .inl ⟨code, rfl, choose_refuses s opts env _ _ _ code accepted every refused⟩
          · rename_i chosen decided
            have fine := choose_accepted s opts env _ _ _ chosen accepted decided
            cases chosen with
            | a => exact .inr (.inr ⟨.a, ha, _, readA, fine, rfl⟩)
            | b => exact .inr (.inr ⟨.b, hb, _, readB, fine, rfl⟩)
    · exact .inl ⟨_, rfl, by decide⟩

end SnapshotSide

-- Every step of a start but the log's and the snapshot's own.
theorem visit_all_answers {σ : Type} (visitor : MetaIndexVisitor σ) (answers : ∀ st key meta_,
    (visitor st key meta_).1 = Err.kSuccess ∨ (visitor st key meta_).1 < 0) (entries : List IndexEntry) :
    ∀ st, (visitAll visitor st entries).1 = Err.kSuccess ∨ (visitAll visitor st entries).1 < 0 := by
  induction entries with
  | nil => exact fun _ => .inl rfl
  | cons e rest ih =>
      intro st
      unfold visitAll
      simp only
      split
      · exact answers st e.1 e.2
      · exact ih _

theorem mark_used_refuses (blockCount : Nat) (active : List BlockId) : ∀ (used : List Bool) (rc : Rc),
    markUsed blockCount used active = .error rc → rc < 0 := by
  induction active with
  | nil =>
      intro used rc failed
      cases failed
  | cons id rest ih =>
      intro used rc failed
      rw [markUsed] at failed
      split at failed
      · cases failed
        decide
      · split at failed
        · cases failed
          decide
        · exact ih _ rc failed

theorem rebuild_allocator_answers (dc : DeviceContext) (walk : Walk) :
    (dc.rebuildAllocator walk).1 = Err.kSuccess ∨ (dc.rebuildAllocator walk).1 < 0 := by
  have visited := visit_all_answers (fun (active : List BlockId) (_ : Key) (meta_ : ValueMeta) => (Err.kSuccess, active ++ [meta_.block]))
    (fun _ _ _ => .inl rfl) (walk.order dc.metaIndex) []
  unfold DeviceContext.rebuildAllocator MetaIndex.forEach
  simp only
  split
  · exact visited
  · unfold RingBlockAllocator.rebuildFromActive
    split
    · rename_i rc refused
      exact .inr (mark_used_refuses _ _ _ rc refused)
    · exact .inl rfl

theorem verify_values_answers (dc : DeviceContext) (walk : Walk) :
    (dc.verifyValuesCrc walk).1 = Err.kSuccess ∨ (dc.verifyValuesCrc walk).1 < 0 := by
  unfold DeviceContext.verifyValuesCrc
  split
  · exact .inr (show Err.kEnginePoolExhausted < 0 by decide)
  · apply visit_all_answers
    intro st key meta_
    cases found : dc.io.read meta_.block.blockIdx with
    | ok bytes => exact .inl rfl
    | error rc =>
        refine .inr ?_
        unfold SyncIoBackend.read at found
        split at found
        · cases found
          exact show Err.kIoBase < 0 by decide
        · split at found
          · cases found
            exact show Err.kIoBase < 0 by decide
          · cases found

-- The numbers of the frames that a start replays.
def replayedNumbers (opts : Options) (env : OpenEnv) (dc : DeviceContext) : List Nat :=
  let snapshot := (dc.snapshot.openSnapshot opts env.toSnapshotEnv dc.superBlock).2
  let index := (snapshot.load opts env.toSnapshotEnv (applyRecoveredEntry dc.superBlock) dc.metaIndex).2
  let wal := (dc.wal.openWal opts).2
  (wal.recover snapshot.lastCoveredSeq (recording (applyWalEntry dc.superBlock)) (index, [])).st.2

-- What a device context may be served from.
structure LegalDevice (sb : SuperBlock) (dc : DeviceContext) (numbers : List Nat) : Prop where
  keys : ∀ key meta_, dc.metaIndex.lookup key = some meta_ → 1 ≤ key.length ∧ key.length ≤ kWalKeyMax
  blocks : ∀ key meta_, dc.metaIndex.lookup key = some meta_ → meta_.block.dev = sb.dev ∧ meta_.block.blockIdx < sb.blockCount
  distinct : ∀ a b metaA metaB, dc.metaIndex.lookup a = some metaA → dc.metaIndex.lookup b = some metaB →
    metaA.block = metaB.block → a = b
  once : dc.blockAllocator.items.Nodup
  free : ∀ id, id ∈ dc.blockAllocator.items ↔
    (id.dev = sb.dev ∧ id.blockIdx < sb.blockCount) ∧ ∀ key meta_, dc.metaIndex.lookup key = some meta_ → meta_.block ≠ id
  log : dc.wal.Legal dc.snapshot.lastCoveredSeq numbers

def RefusesOrLegal (opts : Options) (env : OpenEnv) (dc : DeviceContext) : Prop :=
  ((recoverDevice opts env dc).1 = Err.kSuccess ∧
      LegalDevice dc.superBlock (recoverDevice opts env dc).2 (replayedNumbers opts env dc)) ∨
    (recoverDevice opts env dc).1 < 0

theorem mem_index_blocks (m : MetaIndex) (id : BlockId) : id ∈ m.blocks ↔ ∃ key meta_, m.lookup key = some meta_ ∧ meta_.block = id := by
  unfold MetaIndex.blocks
  rw [List.mem_map]
  constructor
  · rintro ⟨⟨key, meta_⟩, member, rfl⟩
    exact ⟨key, meta_, AList.mem_lookup_iff.mpr member, rfl⟩
  · rintro ⟨key, meta_, known, rfl⟩
    exact ⟨⟨key, meta_⟩, AList.mem_lookup_iff.mp known, rfl⟩

-- A start that succeeds leaves a legal device, whatever it found.
theorem recovered_legal (opts : Options) (env : OpenEnv) (sb : SuperBlock) (group : DeviceGroup) (io : SyncIoBackend)
    (fits : sb.blockCount ≤ 2 ^ 56) (allocated : roundUpBufferSize opts.walBufferSize kWalBlockSize ≤ 2 ^ 63)
    (buffer : 0 < roundUpBufferSize opts.walBufferSize kWalBlockSize)
    (done : (recoverDevice opts env (baseContext sb group io)).1 = Err.kSuccess) :
    LegalDevice sb (recoverDevice opts env (baseContext sb group io)).2 (replayedNumbers opts env (baseContext sb group io)) := by
  obtain ⟨recovered⟩ := recover_device_ok opts env (baseContext sb group io) done
  generalize (recoverDevice opts env (baseContext sb group io)).2 = dc at recovered ⊢
  have same : dc.superBlock = sb := recovered.sameSuperBlock
  have lawful : Lawful sb dc.metaIndex := recovered_lawful opts env _ dc recovered rfl
  have conserved := (rebuild_allocator_conserved dc env.rebuild (by rw [same]; exact lawful) (by rw [same]; exact fits)
    recovered.rebuilt).1
  rw [same, ← recovered.allocator] at conserved
  obtain ⟨_, perm⟩ := conserved_items _ _ _ _ conserved
  have nodup := perm.nodup_iff.mpr (device_blocks_nodup sb.dev sb.blockCount fits)
  have just := open_wal_success group.wal opts recovered.wal recovered.walOpened
  have size := just.bufSize
  have whole := round_up_aligned opts.walBufferSize
  have enough := just.enough
  unfold kWalBlockSize at size allocated buffer enough
  have big : 4096 ≤ recovered.wal.bufSize := by omega
  have numbers : replayedNumbers opts env (baseContext sb group io) =
      (recovered.wal.recover recovered.snapshot.lastCoveredSeq (recording (applyWalEntry sb)) (recovered.loaded, [])).st.2 := by
    have opened := recovered.opened
    have base := recovered.base
    have walOpened := recovered.walOpened
    unfold replayedNumbers
    simp only [opened, base, walOpened]
    rfl
  have seen := recover_seen Prod.fst (recording (applyWalEntry sb)) (applyWalEntry sb) (recording_commutes _) recovered.wal
    recovered.snapshot.lastCoveredSeq (recovered.loaded, [])
  have replayed : (recovered.wal.recover recovered.snapshot.lastCoveredSeq (applyWalEntry sb) recovered.loaded).rc = Err.kSuccess :=
    recovered.replayed
  have legal := recover_legal recovered.wal recovered.snapshot.lastCoveredSeq (applyWalEntry sb) recovered.loaded
    (fun index e seq rc failed => apply_wal_answers sb index e seq rc failed) (by rw [just.ringStart]; rfl)
    (by rw [just.ringStart, just.ringEnd]; omega) big (seen.1.trans replayed)
  refine ⟨fun key meta_ known => ?_, fun key meta_ known => ?_, blocks_injective _ (List.Nodup.of_append_right nodup),
    List.Nodup.of_append_left nodup, fun id => ?_, ?_⟩
  · exact ⟨(lawful key meta_ known).1, (lawful key meta_ known).2.1⟩
  · exact ⟨(lawful key meta_ known).2.2.1, (lawful key meta_ known).2.2.2⟩
  · rw [free_exactly _ _ _ _ fits conserved, mem_device_blocks _ _ _ fits, mem_index_blocks]
    constructor
    · rintro ⟨here, unused⟩
      exact ⟨here, fun key meta_ known shared => unused ⟨key, meta_, known, shared⟩⟩
    · rintro ⟨here, unused⟩
      exact ⟨here, fun ⟨key, meta_, known, shared⟩ => unused key meta_ known shared⟩
  · rw [numbers, recovered.sameSnapshot, recovered.sameWal]
    rw [seen.2.1] at legal
    exact legal

theorem open_wal_answers (w : Wal) (opts : Options) : (w.openWal opts).1 = Err.kSuccess ∨ (w.openWal opts).1 < 0 := by
  unfold Wal.openWal RawDevice.openDevice
  by_cases opened : w.dev.isOpen = true
  · simp only [opened, if_true]
    rw [if_pos (by decide)]
    exact .inr (show Err.kIoBase < 0 by decide)
  · simp only [opened, Bool.false_eq_true, if_false, ne_eq, not_true_eq_false]
    split
    · exact .inr (show Err.kDeviceTooSmall < 0 by decide)
    · split <;> exact .inl rfl

-- There is memory to read records into, or a slot has no room for any.
def RecordsReadable (opts : Options) (deviceBytes : Nat) : Prop :=
  0 < roundUpBufferSize opts.snapshotBufferSize kSnapshotBlockSize ∨
    snapshotSlotSize deviceBytes < kSnapshotSlotHeaderSize + kSnapshotRecordSize

theorem laid_header (dev : RawDevice) (s : Snapshot) (laid : SlotsOf dev s) (bounded : HeadersBounded dev) (slot : Slot)
    (h : SnapshotSlotHeader) (found : s.readHeader slot = some h) :
    h.entryCount.toNat * kSnapshotRecordSize + kSnapshotSlotHeaderSize < 2 ^ 64 := by
  have place : s.slotOff slot = kDataRegionOffset ∨ s.slotOff slot = kDataRegionOffset + snapshotSlotSize dev.sizeBytes := by
    cases slot with
    | a => exact .inl laid.slotA
    | b => exact .inr laid.slotB
  have bytes : h = .ofBytes (read s.dev.medium.cur (s.slotOff slot) kSnapshotSlotHeaderSize) := by
    unfold Snapshot.readHeader RawDevice.readAt at found
    split at found
    · exact (Option.some.inj found).symm
    · cases found
  have word := bounded (s.slotOff slot) place
  rw [← laid.medium, ← bytes] at word
  exact word

theorem laid_readable (dev : RawDevice) (s : Snapshot) (laid : SlotsOf dev s) (opts : Options) (readable : RecordsReadable opts dev.sizeBytes)
    (h : SnapshotSlotHeader) (accepted : s.slotOk h = true)
    (word : h.entryCount.toNat * kSnapshotRecordSize + kSnapshotSlotHeaderSize < 2 ^ 64) :
    0 < roundUpBufferSize opts.snapshotBufferSize kSnapshotBlockSize ∨ h.dataLen.toNat = 0 := by
  rcases readable with some_ | small
  · exact .inl some_
  · obtain ⟨len, fits⟩ := slot_ok_lengths s h accepted word
    rw [laid.size] at fits
    unfold kSnapshotSlotHeaderSize kSnapshotRecordSize at small
    exact .inr (by omega)

-- What opening the snapshot device again comes to.
theorem open_snapshot_answers (opts : Options) (env : SnapshotEnv) (sb : SuperBlock) (dev : RawDevice) (mode : opts.create = false)
    (readable : RecordsReadable opts dev.sizeBytes) (bounded : HeadersBounded dev) :
    ((Snapshot.unopened dev).openSnapshot opts env sb).1 < 0 ∨
      ∃ s : Snapshot, SlotsOf dev s ∧
        ((Snapshot.unopened dev).openSnapshot opts env sb = (Err.kSuccess, s.never) ∨
          ∃ slot h maxGen, s.readHeader slot = some h ∧ s.slotOk h = true ∧
            (Snapshot.unopened dev).openSnapshot opts env sb = (Err.kSuccess, s.adopt slot h maxGen)) := by
  rcases open_snapshot_sized opts env sb dev with negative | ⟨closed, some_, room⟩
  · exact .inl negative
  · obtain ⟨s, laid, _, _, judged⟩ := open_snapshot_judges opts env sb dev mode closed some_ room
    have answers : ∀ slot h, s.readHeader slot = some h → s.slotOk h = true →
        s.verifySlotData opts env slot h = Err.kSuccess ∨ s.verifySlotData opts env slot h < 0 := by
      intro slot h header accepted
      have memory := laid_readable dev s laid opts readable h accepted (laid_header dev s laid bounded slot h header)
      rcases verify_slot_returns s opts slot h memory env with rc | rc | rc
      · exact .inl rc
      · exact .inr (by rw [rc]; decide)
      · exact .inr (by rw [rc]; decide)
    rw [judged]
    rcases adjudicate_answers s opts env answers with ⟨rc, refused, negative⟩ | never | ⟨slot, h, maxGen, header, accepted, adopted⟩
    · rw [refused]
      exact .inl negative
    · rw [never]
      exact .inr ⟨s, laid, .inl rfl⟩
    · rw [adopted]
      exact .inr ⟨s, laid, .inr ⟨slot, h, maxGen, header, accepted, rfl⟩⟩

-- With buffers to read into, a start always comes to an answer.
theorem recover_device_returns (opts : Options) (env : OpenEnv) (sb : SuperBlock) (group : DeviceGroup) (io : SyncIoBackend)
    (mode : opts.create = false) (walBuffer : 0 < roundUpBufferSize opts.walBufferSize kWalBlockSize)
    (readable : RecordsReadable opts group.snapshot.sizeBytes) (bounded : HeadersBounded group.snapshot) :
    (recoverDevice opts env (baseContext sb group io)).1 = Err.kSuccess ∨ (recoverDevice opts env (baseContext sb group io)).1 < 0 := by
  have snapshotStart : (baseContext sb group io).snapshot = .unopened group.snapshot := rfl
  have superBlock : (baseContext sb group io).superBlock = sb := rfl
  have walStart : (baseContext sb group io).wal = .unopened group.wal := rfl
  unfold recoverDevice
  simp only [snapshotStart, superBlock, walStart]
  have opening := open_snapshot_answers opts env.toSnapshotEnv sb group.snapshot mode readable bounded
  cases opened : (Snapshot.unopened group.snapshot).openSnapshot opts env.toSnapshotEnv sb with
  | mk rc snapshot =>
  rw [opened] at opening
  by_cases openFine : rc = Err.kSuccess
  swap
  · simp only [ne_eq, openFine, not_false_eq_true, if_true]
    rcases opening with negative | ⟨s, _, never | ⟨slot, h, maxGen, _, _, adopted⟩⟩
    · exact .inr negative
    · exact absurd (congrArg Prod.fst never) openFine
    · exact absurd (congrArg Prod.fst adopted) openFine
  subst openFine
  have loads : (snapshot.load opts env.toSnapshotEnv (applyRecoveredEntry sb) (baseContext sb group io).metaIndex).1 = Err.kSuccess ∨
      (snapshot.load opts env.toSnapshotEnv (applyRecoveredEntry sb) (baseContext sb group io).metaIndex).1 < 0 := by
    rcases opening with negative | ⟨s, laid, never | ⟨slot, h, maxGen, header, accepted, adopted⟩⟩
    · exact absurd (show Err.kSuccess < 0 from negative) (by decide)
    · cases never
      unfold Snapshot.load
      split
      · exact .inr (show Err.kSnapshotReadFailed < 0 by decide)
      · exact .inl rfl
    · cases adopted
      have word := laid_header group.snapshot s laid bounded slot h header
      exact load_slot_returns s opts slot h (laid_readable _ s laid opts readable h accepted word) accepted word (applyRecoveredEntry sb)
        (fun rc => rc = Err.kSuccess ∨ rc < 0)
        (.inr (by decide)) (.inr (by decide)) (.inl rfl) (apply_recovered_answers sb) env.toSnapshotEnv _ maxGen
  simp only [ne_eq, not_true_eq_false, if_false]
  cases base : snapshot.load opts env.toSnapshotEnv (applyRecoveredEntry sb) (baseContext sb group io).metaIndex with
  | mk rc loaded =>
  rw [base] at loads
  by_cases loadFine : rc = Err.kSuccess
  swap
  · simp only [loadFine, not_false_eq_true, if_true]
    exact .inr (loads.resolve_left loadFine)
  subst loadFine
  simp only [not_true_eq_false, if_false]
  have walAnswers := open_wal_answers (Wal.unopened group.wal) opts
  cases walOpened : (Wal.unopened group.wal).openWal opts with
  | mk rc wal =>
  rw [walOpened] at walAnswers
  by_cases walFine : rc = Err.kSuccess
  swap
  · simp only [walFine, not_false_eq_true, if_true]
    exact .inr (walAnswers.resolve_left walFine)
  subst walFine
  simp only [not_true_eq_false, if_false]
  have just := open_wal_success group.wal opts wal walOpened
  have answers := recover_returns wal snapshot.lastCoveredSeq (applyWalEntry sb) loaded (by rw [just.bufSize]; exact walBuffer)
    (fun index e seq rc failed => apply_wal_answers sb index e seq rc failed)
  generalize wal.recover snapshot.lastCoveredSeq (applyWalEntry sb) loaded = out at answers ⊢
  by_cases replayFine : out.rc = Err.kSuccess
  swap
  · simp only [replayFine, not_false_eq_true, if_true]
    exact .inr (answers.resolve_left replayFine)
  simp only [replayFine, not_true_eq_false, if_false]
  split
  · exact rebuild_allocator_answers _ env.rebuild
  · split
    · exact verify_values_answers _ env.verify
    · exact .inl rfl

-- A closed device of zeros, and the same with one slot header on it.
def blankBytes (size : Nat) : RawDevice := { zeroDevice size with isOpen := false }

def plantedBytes (size : Nat) (h : SnapshotSlotHeader) : RawDevice :=
  { blankBytes size with medium := .ofImage (write (fun _ => 0) kDataRegionOffset h.toBytes) }

-- A configuration that the opening of a log and a snapshot device of these
-- sizes accepts.
structure Accepted (opts : Options) (sb : SuperBlock) (walBytes snapshotBytes : Nat) : Prop where
  recovering : opts.create = false
  allocated : roundUpBufferSize opts.walBufferSize kWalBlockSize ≤ 2 ^ 63
  wal : ((Wal.unopened (blankBytes walBytes)).openWal opts).1 = Err.kSuccess
  snapshot : ((Snapshot.unopened (blankBytes snapshotBytes)).openSnapshot opts ⟨fun _ => true, 0⟩ sb).1 = Err.kSuccess

theorem recover_opens (opts : Options) (env : OpenEnv) (sb : SuperBlock) (group : DeviceGroup) (io : SyncIoBackend) (snapshot : Snapshot)
    (wal : Wal) (opened : (Snapshot.unopened group.snapshot).openSnapshot opts env.toSnapshotEnv sb = (Err.kSuccess, snapshot))
    (inactive : snapshot.activeSlot = none) (live : snapshot.dev.isOpen = true)
    (walOpened : (Wal.unopened group.wal).openWal opts = (Err.kSuccess, wal))
    (failed : ∀ (fn : WalReplayFn MetaIndex) (st : MetaIndex), (wal.recover snapshot.lastCoveredSeq fn st).rc = Err.kNeverReturns) :
    (recoverDevice opts env (baseContext sb group io)).1 = Err.kNeverReturns := by
  have snapshotStart : (baseContext sb group io).snapshot = .unopened group.snapshot := rfl
  have superBlock : (baseContext sb group io).superBlock = sb := rfl
  have walStart : (baseContext sb group io).wal = .unopened group.wal := rfl
  have base : snapshot.load opts env.toSnapshotEnv (applyRecoveredEntry sb) (baseContext sb group io).metaIndex =
      (Err.kSuccess, (baseContext sb group io).metaIndex) := by
    unfold Snapshot.load
    rw [if_neg (by rw [live]; exact Bool.noConfusion), inactive]
  unfold recoverDevice
  simp only [snapshotStart, superBlock, walStart, opened, base, walOpened, ne_eq, not_true_eq_false, if_false]
  have endless := failed (applyWalEntry sb) (baseContext sb group io).metaIndex
  generalize wal.recover snapshot.lastCoveredSeq (applyWalEntry sb) (baseContext sb group io).metaIndex = out at endless
  simp only [endless]
  rw [if_pos (by decide)]

theorem blank_headers_bounded (size : Nat) : HeadersBounded (blankBytes size) := by
  intro off _
  have zero : read (blankBytes size).medium.cur off kSnapshotSlotHeaderSize = zeros kSnapshotSlotHeaderSize := read_zeros _ _ _ fun _ _ => rfl
  rw [zero]
  have count : (SnapshotSlotHeader.ofBytes (zeros kSnapshotSlotHeaderSize)).entryCount.toNat = 0 := by
    show (UInt64.ofNat (leNat (slice (zeros kSnapshotSlotHeaderSize) 24 8))).toNat = 0
    rw [slice_zeros _ _ _ (by decide)]
    decide
  rw [count]
  decide

theorem accepted_sized (opts : Options) (sb : SuperBlock) (walBytes snapshotBytes : Nat)
    (accepted : Accepted opts sb walBytes snapshotBytes) : snapshotSlotSize snapshotBytes ≠ 0 ∧
      ¬ snapshotSlotSize snapshotBytes < kSnapshotSlotHeaderSize + alignUp (sb.blockCount * kSnapshotRecordSize) kSnapshotBlockSize := by
  have fine := accepted.snapshot
  rcases open_snapshot_sized opts ⟨fun _ => true, 0⟩ sb (blankBytes snapshotBytes) with negative | ⟨_, some_, room⟩
  · rw [fine] at negative
    exact absurd negative (by decide)
  · exact ⟨some_, room⟩

theorem laid_inside (dev : RawDevice) (s : Snapshot) (laid : SlotsOf dev s) (large : 4096 ≤ snapshotSlotSize dev.sizeBytes) (slot : Slot) :
    s.slotOff slot + 4096 ≤ dev.sizeBytes := by
  have sizes := slot_size_fits dev.sizeBytes (by omega)
  unfold kDataRegionOffset at sizes
  cases slot with
  | a =>
      show s.slotAOff + 4096 ≤ dev.sizeBytes
      rw [laid.slotA, kDataRegionOffset]
      omega
  | b =>
      show s.slotBOff + 4096 ≤ dev.sizeBytes
      rw [laid.slotB, kDataRegionOffset]
      omega

theorem blank_snapshot_opens (opts : Options) (sb : SuperBlock) (size : Nat) (mode : opts.create = false)
    (some_ : snapshotSlotSize size ≠ 0)
    (room : ¬ snapshotSlotSize size < kSnapshotSlotHeaderSize + alignUp (sb.blockCount * kSnapshotRecordSize) kSnapshotBlockSize) :
    ∃ s : Snapshot, s.activeSlot = none ∧ s.dev.isOpen = true ∧
      (Snapshot.unopened (blankBytes size)).openSnapshot opts ⟨fun _ => true, 0⟩ sb = (Err.kSuccess, s) := by
  obtain ⟨s, laid, device, _, judged⟩ := open_snapshot_judges opts ⟨fun _ => true, 0⟩ sb (blankBytes size) mode rfl some_ room
  have zero : s.dev = zeroDevice size := device
  have large : 4096 ≤ snapshotSlotSize size := by
    unfold kSnapshotSlotHeaderSize at room
    omega
  have never := adjudicate_never s opts ⟨fun _ => true, 0⟩ rfl (by rw [zero]; rfl) (fun _ => by rw [zero]; rfl)
    (fun slot => by rw [zero]; exact laid_inside (blankBytes size) s laid large slot)
    (fun slot => zero_header_dead s slot (by rw [zero]; exact read_zeros _ _ _ fun _ _ => rfl))
  rw [never] at judged
  exact ⟨s.never, rfl, by show s.dev.isOpen = true; rw [zero]; rfl, judged⟩

def plantedHeader (sb : SuperBlock) : SnapshotSlotHeader :=
  ({ Snapshot.unopened (blankBytes 0) with engineUuid := sb.engineUuid } : Snapshot).header 0 1 0 0

theorem planted_lengths (sb : SuperBlock) : (plantedHeader sb).entryCount.toNat = 1 ∧ (plantedHeader sb).dataLen.toNat = 128 :=
  ⟨UInt64.toNat_ofNat_of_lt' (by decide), UInt64.toNat_ofNat_of_lt' (by decide)⟩

theorem planted_read (size : Nat) (h : SnapshotSlotHeader) :
    read (plantedBytes size h).medium.cur kDataRegionOffset kSnapshotSlotHeaderSize = h.toBytes := by
  show read (write (fun _ => 0) kDataRegionOffset h.toBytes) kDataRegionOffset kSnapshotSlotHeaderSize = h.toBytes
  have length := header_bytes_length h
  rw [read_write_inside _ _ _ _ _ (Nat.le_refl _) (by rw [length]; exact Nat.le_refl _), Nat.sub_self, kSnapshotSlotHeaderSize, ← length,
    slice_all]

theorem planted_other (size off : Nat) (h : SnapshotSlotHeader) (behind : kDataRegionOffset + 4096 ≤ off) :
    read (plantedBytes size h).medium.cur off kSnapshotSlotHeaderSize = zeros kSnapshotSlotHeaderSize := by
  show read (write (fun _ => 0) kDataRegionOffset h.toBytes) off kSnapshotSlotHeaderSize = zeros kSnapshotSlotHeaderSize
  rw [read_write_disjoint _ _ _ _ _ (by rw [header_bytes_length]; omega), read_zeros _ _ _ fun _ _ => rfl]

theorem planted_bounded (size : Nat) (sb : SuperBlock) (large : 4096 ≤ snapshotSlotSize size) :
    HeadersBounded (plantedBytes size (plantedHeader sb)) := by
  have bytes : (plantedBytes size (plantedHeader sb)).sizeBytes = size := rfl
  intro off place
  rcases place with rfl | rfl
  · rw [planted_read, header_of_to_bytes, (planted_lengths sb).1]
    decide
  · rw [bytes, planted_other _ _ _ (Nat.add_le_add_left large _)]
    have blank := blank_headers_bounded size kDataRegionOffset (.inl rfl)
    rw [show read (blankBytes size).medium.cur kDataRegionOffset kSnapshotSlotHeaderSize = zeros kSnapshotSlotHeaderSize from
      read_zeros _ _ _ fun _ _ => rfl] at blank
    exact blank

-- A record buffer of zero bytes: the check of one record reads nothing, for ever.
theorem planted_endless (opts : Options) (sb : SuperBlock) (size : Nat) (mode : opts.create = false)
    (some_ : snapshotSlotSize size ≠ 0)
    (room : ¬ snapshotSlotSize size < kSnapshotSlotHeaderSize + alignUp (sb.blockCount * kSnapshotRecordSize) kSnapshotBlockSize)
    (fits : kSnapshotSlotHeaderSize + kSnapshotRecordSize ≤ snapshotSlotSize size)
    (empty : roundUpBufferSize opts.snapshotBufferSize kSnapshotBlockSize = 0) :
    ((Snapshot.unopened (plantedBytes size (plantedHeader sb))).openSnapshot opts ⟨fun _ => true, 0⟩ sb).1 = Err.kNeverReturns := by
  obtain ⟨s, laid, device, uuid, judged⟩ := open_snapshot_judges opts ⟨fun _ => true, 0⟩ sb (plantedBytes size (plantedHeader sb)) mode
    rfl some_ room
  have large : 4096 ≤ snapshotSlotSize size := by
    unfold kSnapshotSlotHeaderSize at fits
    omega
  have bytes : (plantedBytes size (plantedHeader sb)).sizeBytes = size := rfl
  have opened : s.dev.isOpen = true := by rw [device]
  have readable : ∀ k, s.dev.unreadable k = false := fun k => by rw [device]; rfl
  have inside : ∀ slot, s.slotOff slot + 4096 ≤ s.dev.sizeBytes := fun slot => by
    rw [device]
    exact laid_inside _ s laid large slot
  have readA : s.readHeader .a = some (plantedHeader sb) := by
    rw [adjudicate_reads s opened readable inside]
    unfold Snapshot.headerAt
    rw [show s.slotOff .a = kDataRegionOffset from laid.slotA, laid.medium]
    have found := planted_read size (plantedHeader sb)
    rw [kSnapshotSlotHeaderSize] at found
    rw [found, header_of_to_bytes]
  have readB : s.readHeader .b = some (.ofBytes (zeros kSnapshotSlotHeaderSize)) := by
    rw [adjudicate_reads s opened readable inside]
    unfold Snapshot.headerAt
    rw [show s.slotOff .b = kDataRegionOffset + snapshotSlotSize size from laid.slotB, laid.medium]
    have found := planted_other size (kDataRegionOffset + snapshotSlotSize size) (plantedHeader sb) (Nat.add_le_add_left large _)
    rw [kSnapshotSlotHeaderSize] at found
    rw [found, kSnapshotSlotHeaderSize]
  have accepted : s.slotOk (plantedHeader sb) = true := by
    have verified : verifySlotHeader (plantedHeader sb) = true := header_verifies _ _ _ _ _
    have same : (plantedHeader sb).engineUuid = s.engineUuid := by
      rw [uuid]
      rfl
    have slotSize : s.slotSize = snapshotSlotSize size := laid.size
    unfold Snapshot.slotOk
    rw [verified, (planted_lengths sb).1, (planted_lengths sb).2, slotSize]
    simp only [same, decide_true, Bool.and_self, Bool.true_and]
    exact decide_eq_true (by
      unfold kSnapshotSlotHeaderSize kSnapshotRecordSize at *
      omega)
  have refused : s.slotOk (.ofBytes (zeros kSnapshotSlotHeaderSize)) = false := zero_header_refused s
  have hereA := Option.some.inj ((adjudicate_reads s opened readable inside .a).symm.trans readA)
  have hereB := Option.some.inj ((adjudicate_reads s opened readable inside .b).symm.trans readB)
  have stuck := verify_slot_endless s opts ⟨fun _ => true, 0⟩ .a (plantedHeader sb) opened readable (inside .a) empty rfl
    (by rw [(planted_lengths sb).2]; decide)
  have endless := adjudicate_stuck s opts ⟨fun _ => true, 0⟩ .a (plantedHeader sb) rfl opened readable inside hereA accepted
    (fun taken => absurd (refused.symm.trans (hereB ▸ taken)) (by decide)) stuck
  rw [judged, endless]

theorem blank_start_endless (opts : Options) (sb : SuperBlock) (data : RawDevice) (io : SyncIoBackend) (walBytes snapshotBytes : Nat)
    (accepted : Accepted opts sb walBytes snapshotBytes) (empty : roundUpBufferSize opts.walBufferSize kWalBlockSize = 0) :
    (recoverDevice opts plainOpenEnv (baseContext sb ⟨data, blankBytes walBytes, blankBytes snapshotBytes⟩ io)).1 = Err.kNeverReturns := by
  obtain ⟨some_, room⟩ := accepted_sized opts sb walBytes snapshotBytes accepted
  obtain ⟨snapshot, inactive, live, snapshotOpened⟩ := blank_snapshot_opens opts sb snapshotBytes accepted.recovering some_ room
  have walOpened := Prod.mk.eta (p := (Wal.unopened (blankBytes walBytes)).openWal opts)
  rw [accepted.wal] at walOpened
  have just := open_wal_success (blankBytes walBytes) opts _ walOpened.symm
  exact recover_opens opts plainOpenEnv sb ⟨data, blankBytes walBytes, blankBytes snapshotBytes⟩ io snapshot _ snapshotOpened
    inactive live walOpened.symm fun fn st =>
      stuck_recover_endless _ opts _ just (just.bufSize.trans empty) accepted.recovering snapshot.lastCoveredSeq fn st

theorem endless_illegal (opts : Options) (env : OpenEnv) (dc : DeviceContext) (endless : (recoverDevice opts env dc).1 = Err.kNeverReturns) :
    ¬ RefusesOrLegal opts env dc := by
  rintro (⟨done, _⟩ | negative)
  · rw [endless] at done
    exact absurd done (by decide)
  · rw [endless] at negative
    exact absurd negative (by decide)

-- Whatever bytes the snapshot device and the log hold and however they fail, a
-- start refuses or yields a legal state, exactly when neither configured
-- buffer size is rounded up past the end of its word.
theorem recovery_legal_iff (opts : Options) (sb : SuperBlock) (data : RawDevice) (io : SyncIoBackend) (walBytes snapshotBytes : Nat)
    (word : data.sizeBytes < 2 ^ 64) (opened : SyncIoBackend.openIo ⟨data, 0⟩ = (Err.kSuccess, io)) (count : sb.blockCount ≤ io.blockCount)
    (accepted : Accepted opts sb walBytes snapshotBytes) :
    (∀ (env : OpenEnv) (wal snapshot : RawDevice), wal.sizeBytes = walBytes → snapshot.sizeBytes = snapshotBytes →
        HeadersBounded snapshot → RefusesOrLegal opts env (baseContext sb ⟨data, wal, snapshot⟩ io)) ↔
      0 < roundUpBufferSize opts.walBufferSize kWalBlockSize ∧ RecordsReadable opts snapshotBytes := by
  have bound := open_io_count ⟨data, data, data⟩ io word opened
  have mode := accepted.recovering
  obtain ⟨some_, room⟩ := accepted_sized opts sb walBytes snapshotBytes accepted
  have large : 4096 ≤ snapshotSlotSize snapshotBytes := by
    unfold kSnapshotSlotHeaderSize at room
    omega
  constructor
  · intro every
    refine ⟨?_, ?_⟩
    · by_contra none_
      have empty : roundUpBufferSize opts.walBufferSize kWalBlockSize = 0 := by omega
      exact endless_illegal _ _ _ (blank_start_endless opts sb data io walBytes snapshotBytes accepted empty)
        (every plainOpenEnv (blankBytes walBytes) (blankBytes snapshotBytes) rfl rfl (blank_headers_bounded snapshotBytes))
    · by_contra neither
      obtain ⟨none_, fits⟩ := not_or.mp neither
      have endless := planted_endless opts sb snapshotBytes mode some_ room (Nat.le_of_not_lt fits) (Nat.eq_zero_of_not_pos none_)
      have stuck : (recoverDevice opts plainOpenEnv
          (baseContext sb ⟨data, blankBytes walBytes, plantedBytes snapshotBytes (plantedHeader sb)⟩ io)).1 = Err.kNeverReturns := by
        have start : (baseContext sb ⟨data, blankBytes walBytes, plantedBytes snapshotBytes (plantedHeader sb)⟩ io).snapshot =
          .unopened (plantedBytes snapshotBytes (plantedHeader sb)) := rfl
        have superBlock : (baseContext sb ⟨data, blankBytes walBytes, plantedBytes snapshotBytes (plantedHeader sb)⟩ io).superBlock = sb := rfl
        have env : plainOpenEnv.toSnapshotEnv = ⟨fun _ => true, 0⟩ := rfl
        unfold recoverDevice
        simp only [start, superBlock, env, endless]
        rw [if_pos (by decide)]
      exact endless_illegal _ _ _ stuck (every plainOpenEnv (blankBytes walBytes) (plantedBytes snapshotBytes (plantedHeader sb)) rfl rfl
        (planted_bounded snapshotBytes sb large))
  · rintro ⟨walBuffer, readable⟩ env wal snapshot walSize snapshotSize bounded
    rw [← snapshotSize] at readable
    rcases recover_device_returns opts env sb ⟨data, wal, snapshot⟩ io mode walBuffer readable bounded with done | negative
    · exact .inl ⟨done, recovered_legal opts env sb ⟨data, wal, snapshot⟩ io (by omega) accepted.allocated walBuffer done⟩
    · exact .inr negative

theorem blank_data_opens :
    SyncIoBackend.openIo ⟨blankDevice 512, 0⟩ = (Err.kSuccess, ⟨{ blankDevice 512 with isOpen := true }, 2⟩) := by
  simp [SyncIoBackend.openIo, RawDevice.openDevice, blankDevice, kDataRegionOffset, kValueSize]

theorem sized_accepted (opts : Options) (mode : opts.create = false) (threshold : opts.snapshotThresholdBytes ≤ 4096)
    (small : roundUpBufferSize opts.walBufferSize kWalBlockSize ≤ 4096) : Accepted opts blankSuperBlock 16384 24576 := by
  have bytes : (Wal.unopened (blankBytes 16384)).dev.openDevice = (Err.kSuccess, zeroDevice 16384) := rfl
  have ring : walRingSize (zeroDevice 16384).sizeBytes = 8192 := by decide
  refine ⟨mode, by omega, ?_, ?_⟩
  · unfold Wal.openWal
    simp only [bytes, ne_eq, not_true_eq_false, if_false, ring, mode, if_true]
    rw [if_neg (by unfold kWalBlockSize at *; omega)]
  · obtain ⟨s, _, _, opens⟩ := blank_snapshot_opens opts blankSuperBlock 24576 mode (by decide) (by decide)
    rw [opens]

-- The largest size a word holds is rounded up to no buffer at all, and a start
-- with it never ends.
theorem wrapped_buffer_endless : ∃ opts : Options, opts.walBufferSize = 2 ^ 64 - 1 ∧ Accepted opts blankSuperBlock 16384 24576 ∧
    ¬ RefusesOrLegal opts plainOpenEnv (baseContext blankSuperBlock ⟨blankDevice 512, blankBytes 16384, blankBytes 24576⟩
      ⟨{ blankDevice 512 with isOpen := true }, 2⟩) := by
  have empty : roundUpBufferSize (2 ^ 64 - 1) kWalBlockSize = 0 := by decide
  have accepted : Accepted { plainOptions false 1 with walBufferSize := 2 ^ 64 - 1 } blankSuperBlock 16384 24576 :=
    sized_accepted _ rfl (Nat.le_refl 4096) (by rw [empty]; exact Nat.zero_le _)
  exact ⟨_, rfl, accepted, endless_illegal _ _ _ (blank_start_endless _ blankSuperBlock (blankDevice 512) _ 16384 24576 accepted empty)⟩

theorem recovery_legal_iff_plain : 0 < roundUpBufferSize (plainOptions false 1).walBufferSize kWalBlockSize ∧
    ∀ (env : OpenEnv) (wal snapshot : RawDevice), wal.sizeBytes = 16384 → snapshot.sizeBytes = 24576 →
      HeadersBounded snapshot → RefusesOrLegal (plainOptions false 1) env
        (baseContext blankSuperBlock ⟨blankDevice 512, wal, snapshot⟩ ⟨{ blankDevice 512 with isOpen := true }, 2⟩) :=
  ⟨by decide, (recovery_legal_iff (plainOptions false 1) blankSuperBlock (blankDevice 512) _ 16384 24576 (by decide) blank_data_opens
    (by decide) (sized_accepted _ rfl (Nat.le_refl 4096) (by decide))).mpr ⟨by decide, .inl (by decide)⟩⟩

end Cabe
