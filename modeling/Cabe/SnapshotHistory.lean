import Cabe.SnapshotLives
import Cabe.SnapshotRoundTrip

set_option autoImplicit false

namespace Cabe

open Storage

def Snapshot.laidOut (sb : SuperBlock) (dev : RawDevice) : Snapshot :=
  { Snapshot.unopened dev with
    slotAOff := kDataRegionOffset
    slotBOff := kDataRegionOffset + snapshotSlotSize dev.sizeBytes
    slotSize := snapshotSlotSize dev.sizeBytes
    engineUuid := sb.engineUuid }

-- What the calls of the next Write will meet.
def Snapshot.feed (s : Snapshot) (outcomes : List Outcome) : Snapshot := { s with dev := { s.dev with outcomes := outcomes } }

-- A process that has the device open, with the headers its Writes have handed
-- over since the last Sync, or the device on its own.
inductive SnapshotWorld where
  | up (s : Snapshot) (issued : List SnapshotSlotHeader)
  | down (dev : RawDevice)

structure SnapshotHistory where
  world : SnapshotWorld
  returned : Option Nat
  writes : Nat

-- One event in the life of a snapshot device. The covered_seq of a Write is not
-- below that of the last one that succeeded. A reopen that is refused writes
-- nothing and is no event.
inductive SnapshotStep (sb : SuperBlock) : SnapshotHistory → SnapshotHistory → Prop where
  | write (s : Snapshot) (issued : List SnapshotSlotHeader) (returned : Option Nat) (writes : Nat) (c : SnapshotCall)
      (outcomes : List Outcome) (covered : c.coveredSeq < 2 ^ 64) (mono : ∀ k, returned = some k → k ≤ c.coveredSeq)
      (done : (c.run (s.feed outcomes)).1 = Err.kSuccess) :
      SnapshotStep sb ⟨.up s issued, returned, writes⟩ ⟨.up (c.run (s.feed outcomes)).2 [], some c.coveredSeq, writes + 1⟩
  | fail (s : Snapshot) (issued : List SnapshotSlotHeader) (returned : Option Nat) (writes : Nat) (c : SnapshotCall)
      (outcomes : List Outcome) (pos : 0 < c.bufSize) (covered : c.coveredSeq < 2 ^ 64) (mono : ∀ k, returned = some k → k ≤ c.coveredSeq)
      (failed : (c.run (s.feed outcomes)).1 ≠ Err.kSuccess) :
      SnapshotStep sb ⟨.up s issued, returned, writes⟩
        ⟨.up (c.run (s.feed outcomes)).2 (issued ++ c.issues (s.feed outcomes)), returned, writes + 1⟩
  | crash (s : Snapshot) (issued : List SnapshotSlotHeader) (returned : Option Nat) (writes : Nat) (c : SnapshotCall)
      (outcomes : List Outcome) (pos : 0 < c.bufSize) (covered : c.coveredSeq < 2 ^ 64) (mono : ∀ k, returned = some k → k ≤ c.coveredSeq)
      (m : Medium) (during : m ∈ (c.run (s.feed outcomes)).2.dev.trace.drop s.dev.trace.length) (img : Image)
      (alive : m.Survives kSectorSize img) (whole : Whole s (issued ++ c.issues (s.feed outcomes)) m.stable img) :
      SnapshotStep sb ⟨.up s issued, returned, writes⟩ ⟨.down (s.dev.reboot img), returned, writes + 1⟩
  | stop (s : Snapshot) (issued : List SnapshotSlotHeader) (returned : Option Nat) (writes : Nat) (img : Image)
      (alive : s.dev.medium.Survives kSectorSize img) (whole : Whole s issued s.dev.medium.stable img) :
      SnapshotStep sb ⟨.up s issued, returned, writes⟩ ⟨.down (s.dev.reboot img), returned, writes⟩
  | reopen (dev : RawDevice) (returned : Option Nat) (writes : Nat) (opts : Options) (env : SnapshotEnv) (unreadable : Nat → Bool)
      (s : Snapshot) (mode : opts.create = false)
      (opened : (Snapshot.unopened { dev with unreadable := unreadable }).openSnapshot opts env sb = (Err.kSuccess, s)) :
      SnapshotStep sb ⟨.down dev, returned, writes⟩ ⟨.up s [], returned, writes⟩

inductive SnapshotReached (sb : SuperBlock) : SnapshotHistory → Prop where
  | created (dev : RawDevice) (opts : Options) (env : SnapshotEnv) (s : Snapshot) (word : dev.sizeBytes < 2 ^ 64)
      (mode : opts.create = true) (opened : (Snapshot.unopened dev).openSnapshot opts env sb = (Err.kSuccess, s)) :
      SnapshotReached sb ⟨.up s [], none, 0⟩
  | step (h next : SnapshotHistory) (before : SnapshotReached sb h) (step : SnapshotStep sb h next) : SnapshotReached sb next

structure Down (sb : SuperBlock) (dev : RawDevice) (writes : Nat) (returned : Option Nat) : Prop where
  closed : dev.isOpen = false
  clean : dev.medium.unsynced = []
  word : dev.sizeBytes < 2 ^ 64
  capacity : 4096 + alignUp (sb.blockCount * 128) 4096 ≤ snapshotSlotSize dev.sizeBytes
  disk : OnDisk (.laidOut sb dev) dev.medium.cur writes returned

def Sound (sb : SuperBlock) (h : SnapshotHistory) : Prop :=
  match h.world with
  | .up s issued => Live s sb s.dev.medium issued h.writes h.returned
  | .down dev => Down sb dev h.writes h.returned

theorem laid_layout (s : Snapshot) (sb : SuperBlock) (laid : SnapshotLaid s sb) (dev : RawDevice) (size : dev.sizeBytes = s.dev.sizeBytes) :
    SameLayout s (.laidOut sb dev) := by
  have a := laid.slotA
  have b := laid.slotB
  have slots := laid.size
  rw [← size] at slots
  refine ⟨?_, slots, ?_⟩
  · intro slot
    cases slot with
    | a => exact a
    | b =>
        show s.slotBOff = kDataRegionOffset + snapshotSlotSize dev.sizeBytes
        rw [b, slots, kDataRegionOffset]
  · intro h
    unfold Snapshot.slotOk Snapshot.laidOut
    rw [laid.uuid, slots]

theorem disk_down (s : Snapshot) (sb : SuperBlock) (laid : SnapshotLaid s sb) (img : Image) (writes : Nat) (returned : Option Nat)
    (disk : OnDisk s img writes returned) : Down sb (s.dev.reboot img) writes returned := by
  have capacity := laid.capacity
  rw [laid.size] at capacity
  exact ⟨rfl, rfl, laid.word, capacity, on_disk_layout s _ img writes returned (laid_layout s sb laid (s.dev.reboot img) rfl) disk⟩

theorem feed_live (s : Snapshot) (sb : SuperBlock) (outcomes : List Outcome) (issued : List SnapshotSlotHeader) (writes : Nat)
    (returned : Option Nat) (live : Live s sb s.dev.medium issued writes returned) :
    Live (s.feed outcomes) sb (s.feed outcomes).dev.medium issued writes returned :=
  live_device s sb _ issued writes returned live { s.dev with outcomes := outcomes } rfl rfl

-- What a reopen that succeeds has found.
structure Readopted (s : Snapshot) (returned : Option Nat) : Prop where
  above : ∀ slot, s.slotOk (s.headerAt slot) = true → (s.headerAt slot).generation.toNat < s.nextGen
  never : s.activeSlot = none → ∀ slot, s.slotOk (s.headerAt slot) = false
  best : ∀ slot, s.activeSlot = some slot → s.Best slot ∧ s.lastCoveredSeq = (s.headerAt slot).coveredSeq.toNat
  recent : ∀ k, returned = some k → s.activeSlot ≠ none ∧ k ≤ s.lastCoveredSeq

theorem same_layout_symm (s t : Snapshot) (same : SameLayout s t) : SameLayout t s :=
  ⟨fun slot => (same.offs slot).symm, same.size.symm, fun h => (same.oks h).symm⟩

section Judged

variable (sb : SuperBlock) (t : Snapshot) (writes : Nat) (returned : Option Nat)

theorem never_live (laid : SnapshotLaid t sb) (opened : t.dev.isOpen = true) (clean : t.dev.medium.unsynced = [])
    (disk : OnDisk t t.dev.medium.cur writes returned) (dead : ∀ slot, t.slotOk (t.headerAt slot) = false) :
    Live t.never sb t.never.dev.medium [] writes returned ∧ Readopted t.never returned := by
  have stable : t.dev.medium.stable = t.dev.medium.cur := by
    unfold Medium.stable
    rw [clean]
    rfl
  have none_ : returned = none := by
    cases returned with
    | none => rfl
    | some k =>
        obtain ⟨slot, taken, _⟩ := disk.kept k rfl
        exact absurd (taken.symm.trans (dead slot)) (by decide)
  have refused : ∀ slot, ¬ t.never.acceptsIn t.never.dev.medium.stable slot := by
    intro slot taken
    have here : t.slotOk (t.headerIn t.dev.medium.stable slot) = true := taken
    rw [stable] at here
    exact absurd (here.symm.trans (dead slot)) (by decide)
  refine ⟨⟨⟨laid.slotA, laid.slotB, laid.size, laid.capacity, laid.word, laid.uuid⟩, opened, ?_, Nat.le_refl 1, ?_,
    (fun h member => nomatch member), ?_, ?_, ?_, fun _ => ⟨none_, refused⟩, ?_⟩, ⟨?_, ?_, ?_, ?_⟩⟩
  · intro v member o _
    have only : v = t.dev.medium.cur := by
      have here : v ∈ t.dev.medium.cur :: t.dev.medium.unsynced := member
      rw [clean] at here
      exact List.mem_singleton.mp here
    rw [only]
    exact congrFun stable.symm o
  · show 1 ≤ writes + 1
    omega
  · exact fun slot taken => absurd taken (refused slot)
  · exact fun slot taken => absurd taken (refused slot)
  · exact fun taken => absurd taken (refused .a)
  · intro slot active
    cases active
  · intro slot accepted
    rw [never_header, never_slot_ok, dead] at accepted
    cases accepted
  · intro _ slot
    rw [never_header, never_slot_ok]
    exact dead slot
  · intro slot active
    cases active
  · intro k last
    rw [none_] at last
    cases last

theorem adopt_layout (slot : Slot) (h : SnapshotSlotHeader) (maxGen : Nat) : SameLayout t (t.adopt slot h maxGen) :=
  ⟨fun other => by cases other <;> rfl, rfl, fun _ => rfl⟩

theorem adopted_live (laid : SnapshotLaid t sb) (opened : t.dev.isOpen = true) (clean : t.dev.medium.unsynced = [])
    (disk : OnDisk t t.dev.medium.cur writes returned) (word : writes + 1 < 2 ^ 64) (slot : Slot) (best : t.Best slot)
    (h : SnapshotSlotHeader) (here : t.headerAt slot = h) (maxGen : Nat) (most : ∀ other, t.slotOk (t.headerAt other) = true →
      (t.headerAt other).generation.toNat ≤ maxGen) (bound : maxGen ≤ writes) :
    Live (t.adopt slot h maxGen) sb t.dev.medium [] writes returned ∧ Readopted (t.adopt slot h maxGen) returned := by
  have stable : t.dev.medium.stable = t.dev.medium.cur := by
    unfold Medium.stable
    rw [clean]
    rfl
  have layout := adopt_layout t slot h maxGen
  have device : (t.adopt slot h maxGen).dev = t.dev := rfl
  have next : (t.adopt slot h maxGen).nextGen = maxGen + 1 := Nat.mod_eq_of_lt (by omega)
  have active : (t.adopt slot h maxGen).activeSlot = some slot := rfl
  have covered : (t.adopt slot h maxGen).lastCoveredSeq = (t.headerAt slot).coveredSeq.toNat := by
    rw [here]
    rfl
  have disk' := on_disk_layout _ _ _ _ _ layout disk
  have headers : ∀ other, (t.adopt slot h maxGen).headerIn t.dev.medium.cur other = t.headerAt other :=
    fun other => adopt_header t slot other h maxGen
  have oks : ∀ h', (t.adopt slot h maxGen).slotOk h' = t.slotOk h' := fun _ => rfl
  have data : ∀ other, (t.adopt slot h maxGen).dataIn t.dev.medium.cur other ↔ t.DataOk other (t.headerAt other) := by
    intro other
    unfold Snapshot.dataIn Snapshot.DataOk
    rw [headers, layout.offs]
  have best' : (t.adopt slot h maxGen).Best slot := by
    refine ⟨by rw [adopt_header]; exact best.ok, ?_, ?_⟩
    · rw [adopt_header]
      exact (data slot).mpr best.data
    · intro other taken valid
      rw [adopt_header] at taken valid ⊢
      rw [adopt_header]
      exact best.greatest other taken ((data other).mp valid)
  -- The slot of the last Write that succeeded is not newer than the one taken.
  have recent : ∀ k, returned = some k → k ≤ (t.headerAt slot).coveredSeq.toNat ∧
      (t.slotOk (t.headerAt slot.other) = true → (t.headerAt slot).generation.toNat < (t.headerAt slot.other).generation.toNat →
        k ≤ (t.headerAt slot.other).coveredSeq.toNat) := by
    intro k last
    obtain ⟨kept, taken, valid, late, newer⟩ := disk.kept k last
    have order := best.greatest kept taken valid
    refine ⟨?_, fun there above => newer slot.other there (Nat.lt_of_le_of_lt order above)⟩
    by_cases same : slot = kept
    · rw [same]
      exact late
    · refine newer slot best.ok (Nat.lt_of_le_of_ne order ?_)
      intro equal
      have differ : ∀ one two : Slot, one ≠ two → t.acceptsIn t.dev.medium.cur one → t.acceptsIn t.dev.medium.cur two →
          t.genIn t.dev.medium.cur one ≠ t.genIn t.dev.medium.cur two := by
        intro one two apart takenA takenB
        cases one <;> cases two
        · exact absurd rfl apart
        · exact disk.differ takenA takenB
        · exact (disk.differ takenB takenA).symm
        · exact absurd rfl apart
      exact differ slot kept same best.ok taken equal.symm
  have accepts : ∀ other, (t.adopt slot h maxGen).acceptsIn t.dev.medium.cur other ↔ t.slotOk (t.headerAt other) = true := by
    intro other
    unfold Snapshot.acceptsIn
    rw [headers, oks]
  have gens : ∀ other, (t.adopt slot h maxGen).genIn t.dev.medium.cur other = (t.headerAt other).generation.toNat := by
    intro other
    unfold Snapshot.genIn
    rw [headers]
  refine ⟨⟨⟨laid.slotA, laid.slotB, laid.size, laid.capacity, laid.word, laid.uuid⟩, opened, ?_, by omega, by omega,
    (fun h member => nomatch member), ?_, ?_, ?_, ?_, ?_⟩, ⟨?_, ?_, ?_, ?_⟩⟩
  · intro v member o _
    unfold Medium.versions at member
    rw [clean, List.mem_singleton] at member
    rw [member, stable]
  · intro other taken
    rw [stable] at taken ⊢
    have less := most other ((accepts other).mp taken)
    rw [gens, next]
    omega
  · intro other taken
    rw [stable] at taken ⊢
    exact disk'.fits other taken
  · rw [stable]
    exact disk'.differ
  · intro none_
    rw [active] at none_
    cases none_
  · intro other turn
    rw [active] at turn
    cases turn
    rw [stable]
    refine ⟨(accepts slot).mpr best.ok, (data slot).mpr best.data, ?_⟩
    intro k last
    obtain ⟨late, newer⟩ := recent k last
    rw [accepts, gens, gens]
    unfold Snapshot.coveredIn
    rw [headers, headers]
    exact ⟨late, newer⟩
  · intro other taken
    rw [adopt_header] at taken ⊢
    have less := most other taken
    rw [next]
    omega
  · intro none_
    rw [active] at none_
    cases none_
  · intro other turn
    rw [active] at turn
    cases turn
    rw [adopt_header]
    exact ⟨best', covered⟩
  · intro k last
    refine ⟨by rw [active]; simp, ?_⟩
    rw [covered]
    exact (recent k last).1

end Judged

theorem laid_of_open (sb : SuperBlock) (dev : RawDevice) (t : Snapshot) (slots : SlotsOf dev t) (size : t.dev.sizeBytes = dev.sizeBytes)
    (uuid : t.engineUuid = sb.engineUuid) (word : dev.sizeBytes < 2 ^ 64)
    (capacity : 4096 + alignUp (sb.blockCount * 128) 4096 ≤ snapshotSlotSize dev.sizeBytes) : SnapshotLaid t sb := by
  have place := slots.slotB
  rw [← slots.size] at place
  exact ⟨slots.slotA, place, by rw [slots.size, size], by rw [slots.size]; exact capacity, by rw [size]; exact word, uuid⟩

-- A later process that opens the device with success.
theorem reopen_live (sb : SuperBlock) (dev : RawDevice) (writes : Nat) (returned : Option Nat) (down : Down sb dev writes returned)
    (word : writes + 1 < 2 ^ 64) (opts : Options) (env : SnapshotEnv) (unreadable : Nat → Bool) (s : Snapshot) (mode : opts.create = false)
    (opened : (Snapshot.unopened { dev with unreadable := unreadable }).openSnapshot opts env sb = (Err.kSuccess, s)) :
    Live s sb s.dev.medium [] writes returned ∧ Readopted s returned := by
  rcases open_snapshot_sized opts env sb { dev with unreadable := unreadable } with negative | ⟨closed, some_, room⟩
  · rw [opened] at negative
    exact absurd (show Err.kSuccess < 0 from negative) (by decide)
  obtain ⟨t, slots, device, uuid, judged⟩ := open_snapshot_judges opts env sb { dev with unreadable := unreadable } mode closed some_ room
  have laid := laid_of_open sb _ t slots (by rw [device]) uuid down.word down.capacity
  have medium : t.dev.medium = dev.medium := slots.medium
  have layout := same_layout_symm _ _ (laid_layout t sb laid dev (by rw [device]))
  have clean : t.dev.medium.unsynced = [] := by
    rw [medium]
    exact down.clean
  have disk : OnDisk t t.dev.medium.cur writes returned := by
    rw [medium]
    exact on_disk_layout _ t _ _ _ layout down.disk
  have isOpen : t.dev.isOpen = true := by rw [device]
  obtain ⟨verdict, named⟩ : ∃ verdict, t.adjudicate opts env = verdict := ⟨_, rfl⟩
  rw [opened, named] at judged
  cases verdict with
  | error rc =>
      cases judged
      exact absurd rfl (adjudicate_error t opts env _ named)
  | ok next =>
      cases judged
      cases adjudicate_found t s opts env (adjudicate_has_read t s opts env named) named with
      | never dead => exact never_live sb t writes returned laid isOpen clean disk dead
      | adopted slot best differ =>
          have most := max_gen_bounds t
          have bound : t.maxGen ≤ writes := by
            unfold Snapshot.maxGen
            apply Nat.max_le.mpr
            constructor
            · split
              · exact disk.below .a (by assumption)
              · exact Nat.zero_le _
            · split
              · exact disk.below .b (by assumption)
              · exact Nat.zero_le _
          obtain ⟨h, here⟩ : ∃ h, t.headerAt slot = h := ⟨_, rfl⟩
          rw [here]
          exact adopted_live sb t writes returned laid isOpen clean disk word slot best h here t.maxGen most bound

-- Once a Write has succeeded a process that can read the device opens it.
theorem reopen_succeeds (sb : SuperBlock) (dev : RawDevice) (writes k : Nat) (down : Down sb dev writes (some k)) (opts : Options)
    (env : SnapshotEnv) (mode : opts.create = false) (buffered : Buffered opts env) (alloc : env.alloc kSnapshotSlotHeaderSize = true)
    (readable : ∀ k, dev.unreadable k = false) : ∃ s, (Snapshot.unopened dev).openSnapshot opts env sb = (Err.kSuccess, s) := by
  have large := down.capacity
  obtain ⟨t, slots, device, uuid, judged⟩ := open_snapshot_judges opts env sb dev mode down.closed (by omega)
    (by unfold kSnapshotSlotHeaderSize kSnapshotRecordSize kSnapshotBlockSize; omega)
  have laid := laid_of_open sb _ t slots (by rw [device]) uuid down.word down.capacity
  have layout := same_layout_symm _ _ (laid_layout t sb laid dev (by rw [device]))
  have disk : OnDisk t t.dev.medium.cur writes (some k) := by
    rw [slots.medium]
    exact on_disk_layout _ t _ _ _ layout down.disk
  have isOpen : t.dev.isOpen = true := by rw [device]
  have readable' : ∀ k, t.dev.unreadable k = false := by
    rw [device]
    exact readable
  have inside := slots_inside t sb laid
  have bytes := laid_large t sb laid
  have answers : t.Answers opts env := by
    refine ⟨alloc, adjudicate_reads t isOpen readable' fun slot => ?_, fun slot taken => ?_⟩
    · have fits := (inside slot).2
      omega
    · refine verify_slot_answers t opts env slot _ buffered isOpen readable' ?_
      have fits := (inside slot).2
      have room := disk.fits slot taken
      have whole : t.slotSize % 4096 = 0 := by
        rw [laid.size]
        exact slot_size_aligned _
      have area : alignUp (t.headerIn t.dev.medium.cur slot).dataLen.toNat 4096 ≤ t.slotSize - 4096 := align_up_whole _ _ (by omega) (by omega)
      have same : t.headerAt slot = t.headerIn t.dev.medium.cur slot := rfl
      rw [same, kSnapshotSlotHeaderSize]
      omega
  obtain ⟨kept, taken, valid, _⟩ := disk.kept k rfl
  have differ : t.Differ := by
    intro takenA takenB same
    exact disk.differ takenA takenB (congrArg UInt64.toNat same)
  obtain ⟨best, good⟩ := best_exists t kept taken valid
  rw [judged, adjudicate_best t opts env answers differ best good]
  exact ⟨_, rfl⟩

-- A create that succeeds, whatever the device did before.
structure Cleared (s next : Snapshot) : Prop where
  fields : next = ({ s with dev := next.dev } : Snapshot).never
  clean : next.dev.medium.unsynced = []
  size : next.dev.sizeBytes = s.dev.sizeBytes
  opened : next.dev.isOpen = true
  zeroA : read next.dev.medium.cur s.slotAOff kSnapshotSlotHeaderSize = zeros kSnapshotSlotHeaderSize
  zeroB : read next.dev.medium.cur s.slotBOff kSnapshotSlotHeaderSize = zeros kSnapshotSlotHeaderSize

theorem clear_success (s next : Snapshot) (env : SnapshotEnv) (apart : s.slotAOff + kSnapshotSlotHeaderSize ≤ s.slotBOff)
    (done : s.clear env = (Err.kSuccess, next)) : Cleared s next := by
  have len : (zeros kSnapshotSlotHeaderSize).length = kSnapshotSlotHeaderSize := zeros_length _
  have failing : ∀ t : Snapshot, (Err.kSnapshotWriteFailed, t) ≠ (Err.kSuccess, next) := by
    intro t same
    exact absurd (show Err.kSnapshotWriteFailed = Err.kSuccess from congrArg Prod.fst same) (by decide)
  unfold Snapshot.clear at done
  split at done
  · exact absurd done (failing _)
  obtain ⟨blank, named⟩ : ∃ blank, zeros kSnapshotSlotHeaderSize = blank := ⟨_, rfl⟩
  simp only [named] at done len
  cases first : s.dev.writeAt s.slotAOff blank with
  | mk wa one =>
  simp only [first] at done
  cases second : one.writeAt s.slotBOff blank with
  | mk wb two =>
  simp only [second] at done
  by_cases fine : wa ≠ Err.kSuccess ∨ wb ≠ Err.kSuccess
  · rw [if_pos fine] at done
    simp only at done
    rw [if_pos (by decide)] at done
    exact absurd done (failing _)
  · obtain ⟨fineA, fineB⟩ : wa = Err.kSuccess ∧ wb = Err.kSuccess := by
      constructor <;> by_contra bad
      · exact fine (.inl bad)
      · exact fine (.inr bad)
    rw [if_neg fine] at done
    by_cases synced : two.sync.1 = Err.kSuccess
    · rw [if_neg (fun bad => bad synced)] at done
      have here := congrArg Prod.snd done
      simp only at here
      obtain ⟨isOpen, _, wroteA⟩ := write_at_ok s.dev s.slotAOff blank (by rw [first]; exact fineA)
      obtain ⟨_, _, wroteB⟩ := write_at_ok one s.slotBOff blank (by rw [second]; exact fineB)
      obtain ⟨_, flushed⟩ := sync_ok two synced
      rw [first] at wroteA
      rw [second] at wroteB
      have device : next.dev = two.record two.medium.flush := by
        rw [← here, ← flushed]
        rfl
      have cur : next.dev.medium.cur = write (write s.dev.medium.cur s.slotAOff blank) s.slotBOff blank := by
        simp only at wroteA wroteB
        rw [device, wroteB, wroteA]
        rfl
      have same : next.dev.sizeBytes = s.dev.sizeBytes ∧ next.dev.isOpen = s.dev.isOpen := by
        simp only at wroteA wroteB
        rw [device, wroteB, wroteA]
        exact ⟨rfl, rfl⟩
      refine ⟨?_, by rw [device]; rfl, same.1, same.2.trans isOpen, ?_, ?_⟩
      · rw [← here]
        rfl
      · rw [cur, named, ← len, read_write_disjoint _ _ _ _ _ (by omega), read_write_inside _ _ _ _ _ (Nat.le_refl _) (Nat.le_refl _),
          Nat.sub_self, slice_all]
      · rw [cur, named, ← len, read_write_inside _ _ _ _ _ (Nat.le_refl _) (Nat.le_refl _), Nat.sub_self, slice_all]
    · rw [if_pos synced] at done
      exact absurd done (failing _)

theorem created_live (sb : SuperBlock) (dev : RawDevice) (opts : Options) (env : SnapshotEnv) (s : Snapshot) (word : dev.sizeBytes < 2 ^ 64)
    (mode : opts.create = true) (opened : (Snapshot.unopened dev).openSnapshot opts env sb = (Err.kSuccess, s)) :
    Live s sb s.dev.medium [] 0 none := by
  rcases open_snapshot_sized opts env sb dev with negative | ⟨closed, some_, room⟩
  · rw [opened] at negative
    exact absurd (show Err.kSuccess < 0 from negative) (by decide)
  have capacity : 4096 + alignUp (sb.blockCount * 128) 4096 ≤ snapshotSlotSize dev.sizeBytes := Nat.le_of_not_lt room
  obtain ⟨t, slots, device, uuid, opens⟩ := open_snapshot_begins opts env sb dev closed some_ room
  rw [opened, mode, if_pos rfl] at opens
  have laid := laid_of_open sb dev t slots (by rw [device]) uuid word capacity
  have a := laid.slotA
  have b := laid.slotB
  have large := laid_large t sb laid
  have cleared := clear_success t s env (by unfold kSnapshotSlotHeaderSize; omega) opens.symm
  generalize named : ({ t with dev := s.dev } : Snapshot) = u
  have fields : s = u.never := by
    rw [← named]
    exact cleared.fields
  have device' : u.dev = s.dev := by rw [← named]
  have offs : ∀ slot, u.slotOff slot = t.slotOff slot := by
    intro slot
    rw [← named]
    cases slot <;> rfl
  have laid' : SnapshotLaid u sb := by
    have size := laid.size
    have small := laid.word
    rw [← cleared.size] at size small
    rw [← named]
    exact ⟨laid.slotA, laid.slotB, size, laid.capacity, small, laid.uuid⟩
  have dead : ∀ slot, u.slotOk (u.headerAt slot) = false := by
    intro slot
    apply zero_header_dead
    rw [device', offs]
    cases slot with
    | a => exact cleared.zeroA
    | b => exact cleared.zeroB
  have refused : ∀ slot, ¬ u.acceptsIn u.dev.medium.cur slot := by
    intro slot taken
    exact absurd (taken.symm.trans (dead slot)) (by decide)
  have disk : OnDisk u u.dev.medium.cur 0 none :=
    ⟨fun taken => absurd taken (refused .a), fun slot taken => absurd taken (refused slot), fun slot taken => absurd taken (refused slot),
      fun k last => by cases last⟩
  have live := (never_live sb u 0 none laid' (by rw [device']; exact cleared.opened) (by rw [device']; exact cleared.clean) disk dead).1
  rw [← fields] at live
  exact live

-- One event keeps what all of them rely on.
theorem step_sound (sb : SuperBlock) (h next : SnapshotHistory) (sound : Sound sb h) (step : SnapshotStep sb h next)
    (word : next.writes + 2 < 2 ^ 64) : Sound sb next := by
  cases step with
  | write s issued returned writes c outcomes covered mono done =>
      have live : Live s sb s.dev.medium issued writes returned := sound
      have fed := feed_live s sb outcomes issued writes returned live
      have gens : (s.feed outcomes).nextGen ≤ writes + 1 := fed.gens
      have bound : writes + 1 + 2 < 2 ^ 64 := word
      exact run_live_done c (s.feed outcomes) sb issued writes returned fed (by omega) covered done
  | fail s issued returned writes c outcomes pos covered mono failed =>
      have live : Live s sb s.dev.medium issued writes returned := sound
      have fed := feed_live s sb outcomes issued writes returned live
      have gens : (s.feed outcomes).nextGen ≤ writes + 1 := fed.gens
      have bound : writes + 1 + 2 < 2 ^ 64 := word
      have issuing := live_issue c (s.feed outcomes) sb _ issued writes returned fed
        (issues_issued c _ writes returned pos (laid_large _ sb fed.laid) (by omega) fed.gens covered mono)
      exact (run_live_failed c (s.feed outcomes) sb _ _ _ issuing failed).1
  | crash s issued returned writes c outcomes pos covered mono m during img alive whole =>
      have live : Live s sb s.dev.medium issued writes returned := sound
      have fed := feed_live s sb outcomes issued writes returned live
      have gens : (s.feed outcomes).nextGen ≤ writes + 1 := fed.gens
      have bound : writes + 1 + 2 < 2 ^ 64 := word
      have disk := run_crash c (s.feed outcomes) sb issued writes returned fed pos (by omega) covered mono m during img alive whole
      exact disk_down s sb live.laid img _ _
        (on_disk_layout (s.feed outcomes) s img _ _ ⟨fun slot => by cases slot <;> rfl, rfl, fun _ => rfl⟩ disk)
  | stop s issued returned writes img alive whole =>
      have live : Live s sb s.dev.medium issued writes returned := sound
      exact disk_down s sb live.laid img _ _ (live_on_disk s sb _ _ _ _ live img alive whole)
  | reopen dev returned writes opts env unreadable s mode opened =>
      have down : Down sb dev writes returned := sound
      have bound : writes + 2 < 2 ^ 64 := word
      exact (reopen_live sb dev writes returned down (by omega) opts env unreadable s mode opened).1

theorem step_writes (sb : SuperBlock) (h next : SnapshotHistory) (step : SnapshotStep sb h next) : h.writes ≤ next.writes := by
  cases step with
  | write => exact Nat.le_succ _
  | fail => exact Nat.le_succ _
  | crash => exact Nat.le_succ _
  | stop => exact Nat.le_refl _
  | reopen => exact Nat.le_refl _

theorem reached_sound (sb : SuperBlock) (h : SnapshotHistory) (reached : SnapshotReached sb h) (word : h.writes + 2 < 2 ^ 64) :
    Sound sb h := by
  induction reached with
  | created dev opts env s small mode opened => exact created_live sb dev opts env s small mode opened
  | step h next _ step ih =>
      have before := step_writes sb h next step
      exact step_sound sb h next (ih (by omega)) step word

-- What holds in every state of every such history.
structure SnapshotSafe (sb : SuperBlock) (h : SnapshotHistory) : Prop where
  distinctUp : ∀ s issued img, h.world = .up s issued → s.dev.medium.Survives kSectorSize img → Whole s issued s.dev.medium.stable img →
    s.acceptsIn img .a → s.acceptsIn img .b → s.genIn img .a ≠ s.genIn img .b
  distinctDown : ∀ dev, h.world = .down dev → (Snapshot.laidOut sb dev).acceptsIn dev.medium.cur .a →
    (Snapshot.laidOut sb dev).acceptsIn dev.medium.cur .b →
    (Snapshot.laidOut sb dev).genIn dev.medium.cur .a ≠ (Snapshot.laidOut sb dev).genIn dev.medium.cur .b
  above : ∀ s issued slot, h.world = .up s issued → s.activeSlot = some slot → s.slotOk (s.headerAt slot) = true ∧
    (s.headerAt slot).generation.toNat < s.nextGen
  spared : ∀ s issued slot (c : SnapshotCall) (outcomes : List Outcome), h.world = .up s issued → s.activeSlot = some slot →
    Driven (s.feed outcomes).dev (c.run (s.feed outcomes)).2.dev fun offset buf =>
      offset + buf.length ≤ s.slotOff slot ∨ s.slotOff slot + s.slotSize ≤ offset
  reopened : ∀ dev (opts : Options) (env : SnapshotEnv) (unreadable : Nat → Bool) (s : Snapshot), h.world = .down dev → opts.create = false →
    (Snapshot.unopened { dev with unreadable := unreadable }).openSnapshot opts env sb = (Err.kSuccess, s) → Readopted s h.returned
  opens : ∀ dev (opts : Options) (env : SnapshotEnv), h.world = .down dev → h.returned ≠ none → opts.create = false → Buffered opts env →
    env.alloc kSnapshotSlotHeaderSize = true → (∀ k, dev.unreadable k = false) →
    ∃ s, (Snapshot.unopened dev).openSnapshot opts env sb = (Err.kSuccess, s)

theorem snapshot_history_safe (sb : SuperBlock) (h : SnapshotHistory) (reached : SnapshotReached sb h) (word : h.writes + 2 < 2 ^ 64) :
    SnapshotSafe sb h := by
  have sound := reached_sound sb h reached word
  obtain ⟨world, returned, writes⟩ := h
  cases world with
  | up s issued =>
      have live : Live s sb s.dev.medium issued writes returned := sound
      have large := laid_large s sb live.laid
      refine ⟨?_, fun dev down => (by cases down), ?_, ?_, fun dev opts env unreadable s down => (by cases down),
        fun dev opts env down => (by cases down)⟩
      · intro s' issued' img same alive whole
        cases same
        exact (live_on_disk s sb _ _ _ _ live img alive whole).differ
      · intro s' issued' slot same active
        cases same
        have apart := active_not_target s slot active
        have header : s.headerAt slot = s.headerIn s.dev.medium.stable slot :=
          header_in_congr s s.dev.medium.cur s.dev.medium.stable slot fun i bound =>
            survivor_other s sb _ _ _ _ live _ (survives_self kSectorSize s.dev.medium) slot apart _ (by omega) (by omega)
        have accepted := (live.active slot active).1
        rw [header]
        exact ⟨accepted, live.below slot accepted⟩
      · intro s' issued' slot c outcomes same active
        cases same
        have apart := slots_disjoint s sb live.laid slot s.target (active_not_target s slot active)
        refine driven_mono _ _ _ _ (fun offset buf area => ?_) (run_driven c (s.feed outcomes) ?_)
        · have lower : s.slotOff s.target ≤ offset := area.1
          have upper : offset + buf.length ≤ s.slotOff s.target + s.slotSize := area.2
          omega
        · show kSnapshotSlotHeaderSize ≤ s.slotSize
          unfold kSnapshotSlotHeaderSize
          exact large
  | down dev =>
      have down : Down sb dev writes returned := sound
      refine ⟨fun s issued img up => (by cases up), ?_, fun s issued slot up => (by cases up), fun s issued slot c outcomes up => (by cases up),
        ?_, ?_⟩
      · intro dev' same
        cases same
        exact down.disk.differ
      · intro dev' opts env unreadable s same mode opened
        cases same
        exact (reopen_live sb dev writes returned down (by
          have bound : writes + 2 < 2 ^ 64 := word
          omega) opts env unreadable s mode opened).2
      · intro dev' opts env same some_ mode buffered alloc readable
        cases same
        cases returned with
        | none => exact absurd rfl some_
        | some k => exact reopen_succeeds sb dev writes k down opts env mode buffered alloc readable

def smallBlock : SuperBlock := ⟨Vector.replicate 16 0, 0, 2⟩

theorem one_entry_runs (s : Snapshot) (ready : SnapshotReady s smallBlock) : (oneEntryCall.run s).1 = Err.kSuccess := by
  unfold SnapshotCall.run
  rw [show oneEntryCall.code = Err.kSuccess from rfl, scanning_success]
  rcases write_succeeds s smallBlock oneEntryCall.opts oneEntryCall.env oneEntryCall.coveredSeq oneEntryCall.entries ready (by decide)
    (by decide) (by decide) with ⟨_, none_⟩ | ⟨done, _⟩
  · exact absurd none_ (by decide)
  · exact done

-- A create and a first Write.
structure FirstWrite (s : Snapshot) : Prop where
  reached : SnapshotReached smallBlock ⟨.up (oneEntryCall.run s).2 [], some 1, 1⟩
  done : (oneEntryCall.run s).1 = Err.kSuccess
  ready : SnapshotReady (oneEntryCall.run s).2 smallBlock
  holds : SnapshotHolds (oneEntryCall.run s).2 smallBlock 1 oneEntryCall.entries
  synced : (oneEntryCall.run s).2.dev.medium.unsynced = []
  size : (oneEntryCall.run s).2.slotSize = 8192

theorem first_write_made : ∃ s, FirstWrite s := by
  obtain ⟨s, opened, ready, holds, _, first⟩ := snapshot_created smallBlock { bareOptions with create := true } ⟨fun _ => true, 0⟩
    { zeroDevice 24576 with isOpen := false } rfl rfl (fun _ => rfl) rfl rfl (by decide)
  have same : s.feed [] = s := by
    unfold Snapshot.feed
    rw [← ready.healthy.succeeds]
  have done := one_entry_runs s ready
  have created : SnapshotReached smallBlock ⟨.up s [], none, 0⟩ := .created _ _ _ s (by decide) rfl opened
  have wrote : SnapshotStep smallBlock _ _ := .write s [] none 0 oneEntryCall [] (by decide) nofun (by rw [same]; exact done)
  rw [same] at wrote
  have written := run_wrote oneEntryCall s done
  have size : s.slotSize = 8192 := by
    obtain ⟨t, slots, _, _, opens⟩ := open_snapshot_begins { bareOptions with create := true } ⟨fun _ => true, 0⟩ smallBlock
      { zeroDevice 24576 with isOpen := false } rfl (by decide) (by decide)
    rw [opened, if_pos rfl] at opens
    have cleared := clear_success t s _ (by rw [slots.slotA, slots.slotB]; decide) opens.symm
    rw [cleared.fields]
    exact slots.size
  exact ⟨s, .step _ _ created wrote, done, run_ready oneEntryCall s smallBlock ready,
    wrote_holds s _ smallBlock 1 0 _ _ [] ready holds written (by decide) (by decide) (by rw [first]; decide) (by decide), written.synced,
    (run_layout oneEntryCall s).2.2.1.trans size⟩

-- The write of the record's block fails with its first sector on the medium.
def tornRecord : List Outcome := [.fail fun sector => sector % 8 = 0]

def Snapshot.tornImage (s : Snapshot) : Image :=
  writeSome kSectorSize s.dev.medium.cur (s.slotOff s.target + 4096)
    ((encodeSnapshotRecord [1] default).toBytes ++ zeros 3968) fun sector => sector % 8 = 0

theorem torn_image_outside (s : Snapshot) (o : Nat) (apart : o < s.slotOff s.target + 4096 ∨ s.slotOff s.target + 8192 ≤ o) :
    s.tornImage o = s.dev.medium.cur o := by
  have length : ((encodeSnapshotRecord [1] default).toBytes ++ zeros 3968).length = 4096 := by
    rw [List.length_append, record_bytes_length, zeros_length]
  unfold Snapshot.tornImage writeSome
  split
  · exact write_outside _ _ _ _ (by omega)
  · rfl

-- A Write whose device fails so.
theorem record_torn (s : Snapshot) (opened : s.dev.isOpen = true) (size : s.slotSize = 8192)
    (fits : s.slotOff s.target + s.slotSize ≤ s.dev.sizeBytes) : oneEntryCall.run (s.feed tornRecord) =
      (Err.kSnapshotWriteFailed, { s with dev := (s.feed tornRecord).dev.record (s.dev.medium.put s.tornImage) }) := by
  have record := record_bytes_length (encodeSnapshotRecord [1] default)
  have buffer : oneEntryCall.bufSize = 4096 := by decide
  have place : (s.feed tornRecord).slotOff (s.feed tornRecord).target = s.slotOff s.target := rfl
  have area : (s.feed tornRecord).slotSize = 8192 := size
  have scanned : oneEntryCall.scanned (s.feed tornRecord) =
      (Err.kSuccess, ⟨(s.feed tornRecord).dev, (encodeSnapshotRecord [1] default).toBytes, s.slotOff s.target + 4096, 1,
        Util.crc32cStreamUpdate 0xFFFFFFFF (encodeSnapshotRecord [1] default).toBytes⟩) := by
    have visited (dev : RawDevice) (off dataEnd : Nat) (crc : UInt32) : Encoding.visit 4096 dataEnd ⟨dev, [], off, 0, crc⟩ [1] default =
        (Err.kSuccess, ⟨dev, (encodeSnapshotRecord [1] default).toBytes, off, 1,
          Util.crc32cStreamUpdate crc (encodeSnapshotRecord [1] default).toBytes⟩) := by
      unfold Encoding.visit
      generalize (encodeSnapshotRecord [1] default).toBytes = bytes at record
      simp only [List.nil_append, record]
      rfl
    unfold SnapshotCall.scanned
    rw [show oneEntryCall.code = Err.kSuccess from rfl, scanning_success, buffer, place,
      show oneEntryCall.entries = [⟨[1], default⟩] from rfl]
    simp only [visitAll, visited, ne_eq, not_true_eq_false, if_false, kSnapshotSlotHeaderSize]
  have drained : oneEntryCall.drained (s.feed tornRecord) =
      (Err.kSnapshotWriteFailed, { (oneEntryCall.scanned (s.feed tornRecord)).2 with
        dev := (s.feed tornRecord).dev.record (s.dev.medium.put s.tornImage) }) := by
    have length : ((encodeSnapshotRecord [1] default).toBytes ++ zeros (4096 - 128)).length = 4096 := by
      rw [List.length_append, record, zeros_length]
    have failed : (s.feed tornRecord).dev.writeAt (s.slotOff s.target + 4096)
        ((encodeSnapshotRecord [1] default).toBytes ++ zeros (4096 - 128)) =
          (Err.kIoBase, (s.feed tornRecord).dev.record (s.dev.medium.put s.tornImage)) := by
      unfold RawDevice.writeAt
      rw [if_pos ⟨opened, by rw [length]; show _ ≤ s.dev.sizeBytes; omega⟩]
      rfl
    have bytes : alignUp 128 kSnapshotBlockSize = 4096 := rfl
    have bad : Err.kIoBase ≠ Err.kSuccess := by decide
    unfold SnapshotCall.drained Encoding.drain
    rw [scanned, place, area]
    simp only [record, bytes]
    rw [if_pos (by omega), if_neg (by omega), failed]
    simp only [ne_eq, bad, not_false_eq_true, if_true]
  have code : (oneEntryCall.drained (s.feed tornRecord)).1 = Err.kSnapshotWriteFailed := by rw [drained]
  have dev : (oneEntryCall.drained (s.feed tornRecord)).2.dev = (s.feed tornRecord).dev.record (s.dev.medium.put s.tornImage) := by
    rw [drained]
  have stops : (oneEntryCall.drained (s.feed tornRecord)).1 ≠ Err.kSuccess := by
    rw [code]
    decide
  have passed : (oneEntryCall.scanned (s.feed tornRecord)).1 = Err.kSuccess := by rw [scanned]
  clear drained scanned
  have alloc : oneEntryCall.env.alloc oneEntryCall.bufSize = true := rfl
  have ran := run_ran oneEntryCall (s.feed tornRecord)
  generalize oneEntryCall.run (s.feed tornRecord) = out at ran ⊢
  obtain ⟨rc, after⟩ := out
  simp only at ran
  cases ran with
  | refused closed =>
      rcases closed with shut | none_
      · exact absurd (opened.symm.trans shut) (by decide)
      · exact absurd (alloc.symm.trans none_) (by decide)
  | scan failed => exact absurd passed failed
  | drain =>
      rw [code, dev]
      rfl
  | overrun _ fine => exact absurd fine stops
  | header _ fine => exact absurd fine stops
  | sync _ fine => exact absurd fine stops
  | done _ fine => exact absurd fine stops

-- A second Write fails, a third is cut off by power loss with the first sector of
-- its records on the medium, and the device is opened again.
theorem snapshot_history_safe_again : ∃ s failed next, FirstWrite s ∧
    oneEntryCall.run ((oneEntryCall.run s).2.feed tornRecord) = (Err.kSnapshotWriteFailed, failed) ∧
    (Snapshot.unopened (failed.dev.reboot failed.tornImage)).openSnapshot bareOptions ⟨fun _ => true, 0⟩ smallBlock = (Err.kSuccess, next) ∧
    SnapshotSafe smallBlock ⟨.up next [], some 1, 3⟩ := by
  obtain ⟨s, first⟩ := first_write_made
  have reached := first.reached
  have ready := first.ready
  have synced := first.synced
  have size := first.size
  refine ⟨s, ?_⟩
  generalize (oneEntryCall.run s).2 = after at reached ready synced size ⊢
  have inside := slot_inside after smallBlock ready
  have second := record_torn after ready.healthy.opened size (inside _).2
  generalize torn : ({ after with dev := (after.feed tornRecord).dev.record (after.dev.medium.put after.tornImage) } : Snapshot) = failed at second
  have third := record_torn failed (by rw [← torn]; exact ready.healthy.opened) (by rw [← torn]; exact size)
    (by rw [← torn]; exact (inside _).2)
  have stable : (failed.dev.medium.put failed.tornImage).stable = after.dev.medium.cur := by
    rw [medium_stable_put, ← torn]
    show (after.dev.medium.put _).stable = _
    rw [medium_stable_put]
    unfold Medium.stable
    rw [synced]
    rfl
  have headers (slot : Slot) : failed.headerIn failed.tornImage slot = failed.headerIn after.dev.medium.cur slot := by
    have apart : after.slotOff slot + 4096 ≤ after.slotOff after.target + 4096 ∨ after.slotOff after.target + 8192 ≤ after.slotOff slot := by
      have a := ready.slotA
      have b := ready.slotB
      cases slot <;> cases after.target <;> simp only [Snapshot.slotOff] <;> omega
    have place : failed.slotOff failed.target = after.slotOff after.target := by rw [← torn]; rfl
    have cur : failed.dev.medium.cur = after.tornImage := by rw [← torn]; rfl
    refine header_in_congr failed _ _ slot fun i below => ?_
    have here : failed.slotOff slot = after.slotOff slot := by rw [← torn]; cases slot <;> rfl
    rw [here, torn_image_outside failed _ (by omega), cur, torn_image_outside after _ (by omega)]
  have stopped : SnapshotStep smallBlock _ _ := .fail after [] (some 1) 1 oneEntryCall tornRecord (by decide) (by decide)
    (fun k last => by cases last; exact Nat.le_refl _) (by rw [second]; exact show Err.kSnapshotWriteFailed ≠ Err.kSuccess by decide)
  rw [second] at stopped
  have recorded : (oneEntryCall.run (failed.feed tornRecord)).2.dev.trace = failed.dev.trace ++ [failed.dev.medium.put failed.tornImage] := by
    rw [third]
    rfl
  have lost : SnapshotStep smallBlock _ _ := .crash failed ([] ++ oneEntryCall.issues (after.feed tornRecord))
    (some 1) 2 oneEntryCall tornRecord (by decide) (by decide)
    (fun k last => by cases last; exact Nat.le_refl _) (failed.dev.medium.put failed.tornImage)
    (by rw [recorded, List.drop_left]; exact List.mem_singleton_self _) failed.tornImage
    (survives_self kSectorSize _) (fun slot _ => .inl (by rw [stable]; exact headers slot))
  have down := SnapshotReached.step _ _ (.step _ _ reached stopped) lost
  obtain ⟨next, opened⟩ := (snapshot_history_safe smallBlock _ down (show 3 + 2 < 2 ^ 64 by decide)).opens _ bareOptions ⟨fun _ => true, 0⟩ rfl
    (Option.some_ne_none 1) rfl ⟨by decide, rfl⟩ rfl (by rw [← torn]; exact ready.healthy.readable)
  exact ⟨failed, next, first, second, opened, snapshot_history_safe smallBlock _
    (.step _ _ down (.reopen _ (some 1) 3 bareOptions _ _ next rfl opened)) (show 3 + 2 < 2 ^ 64 by decide)⟩

-- A process whose snapshot_buffer_size is rounded up to nothing never gets past
-- the snapshot that another has written.
theorem wrapped_buffer_reopens_never : ∃ (dev : RawDevice) (opts : Options), SnapshotReached smallBlock ⟨.down dev, some 1, 1⟩ ∧
    opts.snapshotBufferSize = 2 ^ 64 - 1 ∧ opts.create = false ∧ (∀ k, dev.unreadable k = false) ∧
    ((Snapshot.unopened dev).openSnapshot opts ⟨fun _ => true, 0⟩ smallBlock).1 = Err.kNeverReturns := by
  obtain ⟨s, reached, done, ready, holds, synced⟩ := first_write_made
  generalize (oneEntryCall.run s).2 = after at reached ready holds synced
  have stopped : SnapshotStep smallBlock _ _ := .stop after [] (some 1) 1 after.dev.medium.cur (survives_self kSectorSize _)
    (fun slot _ => .inl (by unfold Medium.stable; rw [synced]; rfl))
  refine ⟨_, { bareOptions with create := false, snapshotBufferSize := 2 ^ 64 - 1 }, .step _ _ reached stopped, rfl, rfl,
    ready.healthy.readable, ?_⟩
  exact snapshot_reopen_endless after smallBlock _ _ _ 1 _ ready holds ⟨rfl, rfl, rfl, rfl, ready.healthy.readable⟩ rfl (by decide)
    (fun _ => rfl) (by decide)

end Cabe
