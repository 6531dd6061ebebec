import Cabe.SnapshotHistory

set_option autoImplicit false

namespace Cabe

open Storage

-- What every call keeps of the medium holds at each point in between.
theorem driven_traced (before after : RawDevice) (P : Nat → Bytes → Prop) (Q : Medium → Prop) (driven : Driven before after P)
    (start : Q before.medium) (flushed : ∀ m, Q m → Q m.flush) (kept : ∀ m img, Q m →
      (∃ offset buf, P offset buf ∧ ∀ o, (o < offset ∨ offset + buf.length ≤ o) → img o = m.cur o) → Q (m.put img)) :
    Traced before after Q := by
  obtain ⟨calls, rfl, every⟩ := driven
  induction calls generalizing before with
  | nil => exact traced_refl before Q
  | cons call rest ih =>
      have others : ∀ offset buf, .write offset buf ∈ rest → P offset buf :=
        fun offset buf member => every offset buf (List.mem_cons_of_mem _ member)
      rw [List.foldl_cons]
      have step : Traced before (before.call call) Q ∧ Q (before.call call).medium := by
        cases call with
        | write offset buf =>
            show Traced before (before.writeAt offset buf).2 Q ∧ Q (before.writeAt offset buf).2.medium
            rcases write_at_medium before offset buf with same | ⟨img, put, outside⟩
            · rw [same]
              exact ⟨traced_refl before Q, start⟩
            · have here := kept before.medium img start ⟨offset, buf, every offset buf List.mem_cons_self, outside⟩
              rw [put]
              exact ⟨traced_record before _ Q here, here⟩
        | sync =>
            show Traced before before.sync.2 Q ∧ Q before.sync.2.medium
            by_cases done : before.sync.1 = Err.kSuccess
            · rw [(sync_ok before done).2]
              exact ⟨traced_record before _ Q (flushed _ start), flushed _ start⟩
            · rcases sync_failed before done with same | same
              · rw [same]
                exact ⟨traced_refl before Q, start⟩
              · rw [same]
                exact ⟨traced_record before _ Q start, start⟩
      exact traced_trans _ _ _ Q step.1 (ih (before.call call) step.2 others)

-- A super block that counts as many blocks as a slot has room for records.
def SuperBlock.wide (sb : SuperBlock) (slotSize : Nat) : SuperBlock := { sb with blockCount := (slotSize - 4096) / 128 }

theorem wide_count (sb : SuperBlock) (slotSize : Nat) : (sb.wide slotSize).blockCount = (slotSize - 4096) / 128 := rfl

theorem wide_uuid (sb : SuperBlock) (slotSize : Nat) : (sb.wide slotSize).engineUuid = sb.engineUuid := by
  cases sb
  unfold SuperBlock.wide
  rfl

theorem wide_capacity (slotSize : Nat) (large : 4096 ≤ slotSize) (aligned : slotSize % 4096 = 0) :
    4096 + alignUp ((slotSize - 4096) / 128 * 128) 4096 ≤ slotSize := by
  have whole := align_up_whole ((slotSize - 4096) / 128 * 128) (slotSize - 4096) (by omega) (by omega)
  omega

theorem ready_aligned (s : Snapshot) (sb : SuperBlock) (ready : SnapshotReady s sb) : 4096 ≤ s.slotSize ∧ s.slotSize % 4096 = 0 := by
  have capacity := ready.capacity
  refine ⟨by omega, ?_⟩
  rw [ready.size]
  exact slot_size_aligned _

theorem ready_wide (s : Snapshot) (sb : SuperBlock) (ready : SnapshotReady s sb) : SnapshotReady s (sb.wide s.slotSize) := by
  obtain ⟨large, aligned⟩ := ready_aligned s sb ready
  refine ⟨ready.healthy, ready.slotA, ready.slotB, ready.size, ready.pos, ?_, ?_⟩
  · rw [wide_count]
    exact wide_capacity s.slotSize large aligned
  · rw [wide_uuid]
    exact ready.uuid

-- Opening asks the block count only whether a slot is large enough.
theorem open_wide (opts : Options) (env : SnapshotEnv) (sb : SuperBlock) (dev : RawDevice) (closed : dev.isOpen = false)
    (capacity : 4096 + alignUp (sb.blockCount * 128) 4096 ≤ snapshotSlotSize dev.sizeBytes) :
    (Snapshot.unopened dev).openSnapshot opts env sb =
      (Snapshot.unopened dev).openSnapshot opts env (sb.wide (snapshotSlotSize dev.sizeBytes)) := by
  have wide := wide_capacity (snapshotSlotSize dev.sizeBytes) (by omega) (slot_size_aligned _)
  have some_ : snapshotSlotSize dev.sizeBytes ≠ 0 := by omega
  have room : ¬ snapshotSlotSize dev.sizeBytes < 4096 + alignUp (sb.blockCount * 128) 4096 := by omega
  have room' : ¬ snapshotSlotSize dev.sizeBytes < 4096 + alignUp ((snapshotSlotSize dev.sizeBytes - 4096) / 128 * 128) 4096 := by omega
  unfold Snapshot.openSnapshot RawDevice.openDevice
  simp only [Snapshot.unopened, closed, Bool.false_eq_true, if_false, ne_eq, not_true_eq_false, kSnapshotSlotHeaderSize, kSnapshotRecordSize,
    kSnapshotBlockSize, wide_count, wide_uuid, if_neg some_, if_neg room, if_neg room']

-- A device that was created, and the Writes that have succeeded on it since,
-- with the covered_seq and the entries of the last one.
inductive SnapshotWritten (sb : SuperBlock) : Snapshot → Nat → List IndexEntry → Nat → Prop where
  | created (dev : RawDevice) (opts : Options) (env : SnapshotEnv) (s : Snapshot) (word : dev.sizeBytes < 2 ^ 64) (outcomes : dev.outcomes = [])
      (readable : ∀ k, dev.unreadable k = false) (mode : opts.create = true)
      (opened : (Snapshot.unopened dev).openSnapshot opts env sb = (Err.kSuccess, s)) : SnapshotWritten sb s 0 [] 0
  | wrote (s : Snapshot) (coveredSeq : Nat) (entries : List IndexEntry) (writes : Nat) (c : SnapshotCall)
      (before : SnapshotWritten sb s coveredSeq entries writes) (covered : c.coveredSeq < 2 ^ 64)
      (done : (c.run s).1 = Err.kSuccess) : SnapshotWritten sb (c.run s).2 c.coveredSeq c.entries (writes + 1)

structure Standing (sb : SuperBlock) (s : Snapshot) (coveredSeq : Nat) (entries : List IndexEntry) (writes : Nat) : Prop where
  ready : SnapshotReady s sb
  holds : SnapshotHolds s (sb.wide s.slotSize) coveredSeq entries
  clean : s.dev.medium.unsynced = []
  word : s.dev.sizeBytes < 2 ^ 64
  gen : s.nextGen = writes + 1
  active : s.activeSlot = none ↔ writes = 0

theorem created_standing (sb : SuperBlock) (dev : RawDevice) (opts : Options) (env : SnapshotEnv) (s : Snapshot) (word : dev.sizeBytes < 2 ^ 64)
    (outcomes : dev.outcomes = []) (readable : ∀ k, dev.unreadable k = false) (mode : opts.create = true)
    (opened : (Snapshot.unopened dev).openSnapshot opts env sb = (Err.kSuccess, s)) : Standing sb s 0 [] 0 := by
  rcases open_snapshot_sized opts env sb dev with negative | ⟨closed, some_, room⟩
  · rw [opened] at negative
    exact absurd (show Err.kSuccess < 0 from negative) (by decide)
  have capacity : 4096 + alignUp (sb.blockCount * 128) 4096 ≤ snapshotSlotSize dev.sizeBytes := Nat.le_of_not_lt room
  obtain ⟨t, slots, device, uuid, opens⟩ := open_snapshot_begins opts env sb dev closed some_ room
  rw [opened, mode, if_pos rfl] at opens
  have alloc : env.alloc kSnapshotSlotHeaderSize = true := by
    by_contra short
    have clears : t.clear env = (Err.kSnapshotWriteFailed, { t with dev := t.dev.close.2 }) := by
      unfold Snapshot.clear
      rw [if_pos (Bool.not_eq_true _ ▸ short)]
    rw [clears] at opens
    exact absurd (show Err.kSuccess = Err.kSnapshotWriteFailed from congrArg Prod.fst opens) (by decide)
  obtain ⟨next, opened', ready, holds, _, first⟩ := snapshot_created sb opts env dev closed outcomes readable mode alloc capacity
  rw [opened] at opened'
  cases opened'
  have large := ready_aligned s sb ready
  have cleared := clear_success t s env (by
    have a := slots.slotA
    have b := slots.slotB
    unfold kSnapshotSlotHeaderSize
    omega) opens.symm
  refine ⟨ready, ?_, cleared.clean, ?_, first, ?_⟩
  · cases holds with
    | never inactive gen covered count dead => exact .never inactive gen covered count dead
    | held slot h _ _ active =>
        rw [cleared.fields] at active
        cases active
  · rw [cleared.size, device]
    exact word
  · rw [cleared.fields]
    exact ⟨fun _ => rfl, fun _ => rfl⟩

theorem wrote_standing (sb : SuperBlock) (s : Snapshot) (coveredSeq : Nat) (entries : List IndexEntry) (writes : Nat)
    (standing : Standing sb s coveredSeq entries writes) (c : SnapshotCall) (covered : c.coveredSeq < 2 ^ 64)
    (done : (c.run s).1 = Err.kSuccess) (gens : writes + 2 < 2 ^ 64) : Standing sb (c.run s).2 c.coveredSeq c.entries (writes + 1) := by
  have ready := standing.ready
  have gen := standing.gen
  obtain ⟨large, aligned⟩ := ready_aligned s sb ready
  have wide := ready_wide s sb ready
  have word := standing.word
  have inside := (slot_inside s sb ready .a).2
  have wrote := run_wrote c s done
  have ready' := run_ready c s sb ready
  have slotSize := (run_layout c s).2.2.1
  have room := run_room c s large done
  have count : c.entries.length ≤ (sb.wide s.slotSize).blockCount := by
    rw [wide_count]
    omega
  have bytes : (sb.wide s.slotSize).blockCount * 128 < 2 ^ 64 := by
    rw [wide_count]
    omega
  have next : (c.run s).2.nextGen = s.nextGen + 1 := by
    rw [wrote.fields]
    exact Nat.mod_eq_of_lt (by omega)
  have active : (c.run s).2.activeSlot = some s.target := by rw [wrote.fields]
  have held := wrote_holds s _ (sb.wide s.slotSize) c.coveredSeq coveredSeq c.env.now c.entries entries wide standing.holds wrote count covered
    (by omega) bytes
  refine ⟨ready', ?_, wrote.synced, ?_, by omega, ?_⟩
  · rw [slotSize]
    exact held
  · rw [wrote.device.size]
    exact word
  · rw [active]
    exact ⟨nofun, nofun⟩

theorem written_standing (sb : SuperBlock) (s : Snapshot) (coveredSeq : Nat) (entries : List IndexEntry) (writes : Nat)
    (written : SnapshotWritten sb s coveredSeq entries writes) (gens : writes + 1 < 2 ^ 64) : Standing sb s coveredSeq entries writes := by
  induction written with
  | created dev opts env s word outcomes readable mode opened => exact created_standing sb dev opts env s word outcomes readable mode opened
  | wrote s coveredSeq entries writes c _ covered done ih =>
      exact wrote_standing sb s coveredSeq entries writes (ih (by omega)) c covered done (by omega)

-- Whoever opens the device next finds this snapshot in force, and loads it.
def Gives (sb : SuperBlock) (dev : RawDevice) (slot : Option Slot) (coveredSeq : Nat) (entries : List IndexEntry) : Prop :=
  ∀ (opts : Options) (env : SnapshotEnv) (next : RawDevice), opts.create = false → Usable opts env → CarriedOver dev next →
    ∃ r, (Snapshot.unopened next).openSnapshot opts env sb = (Err.kSuccess, r) ∧ r.activeSlot = slot ∧ r.lastCoveredSeq = coveredSeq ∧
      ∀ (σ : Type) (visitor : MetaIndexVisitor σ) (st : σ), r.load opts env visitor st = visitAll visitor st entries

theorem wide_bytes (sb : SuperBlock) (slotSize deviceBytes : Nat) (inside : slotSize ≤ deviceBytes) (word : deviceBytes < 2 ^ 64) :
    (sb.wide slotSize).blockCount * 128 < 2 ^ 64 := by
  rw [wide_count]
  omega

theorem holds_gives (s : Snapshot) (sb : SuperBlock) (coveredSeq : Nat) (entries : List IndexEntry) (ready : SnapshotReady s sb)
    (held : SnapshotHolds s (sb.wide s.slotSize) coveredSeq entries) (word : s.dev.sizeBytes < 2 ^ 64) (gens : s.nextGen < 2 ^ 64) :
    Gives sb s.dev s.activeSlot coveredSeq entries := by
  intro opts env next mode usable carried
  have inside := (slot_inside s sb ready .a).2
  have size := ready.size
  have capacity := ready.capacity
  rw [size, ← carried.size] at capacity
  obtain ⟨r, opened, reopened, ready', held'⟩ := snapshot_reopens s (sb.wide s.slotSize) opts env next coveredSeq entries
    (ready_wide s sb ready) held carried mode (usable_buffered opts env usable) (usable.alloc _) gens
  have delivered := held_delivered r (sb.wide s.slotSize) opts env coveredSeq entries ready' held' usable
    (wide_bytes sb s.slotSize s.dev.sizeBytes (by omega) word)
  refine ⟨r, ?_, reopened.active, delivered.covered, delivered.loads⟩
  rw [open_wide opts env sb next carried.closed capacity, carried.size, ← size]
  exact opened

theorem gives_carried (sb : SuperBlock) (a b : RawDevice) (slot : Option Slot) (coveredSeq : Nat) (entries : List IndexEntry)
    (size : a.sizeBytes = b.sizeBytes) (cur : a.medium.cur = b.medium.cur) (gives : Gives sb a slot coveredSeq entries) :
    Gives sb b slot coveredSeq entries := by
  intro opts env next mode usable carried
  exact gives opts env next mode usable ⟨carried.closed, carried.size.trans size.symm, carried.cur.trans cur.symm, carried.outcomes,
    carried.readable⟩

-- Power may fail before the first call of a Write and after each of them.
def SnapshotCall.During (c : SnapshotCall) (s : Snapshot) (m : Medium) : Prop :=
  m = s.dev.medium ∨ m ∈ (c.run s).2.dev.trace.drop s.dev.trace.length

def SnapshotCall.newHeader (c : SnapshotCall) (s : Snapshot) : SnapshotSlotHeader :=
  s.header c.coveredSeq c.entries.length (Util.crc32 (recordsBytes c.entries)) c.env.now

def SnapshotCall.recordsIn (c : SnapshotCall) (s : Snapshot) (img : Image) : Bytes :=
  read img (s.slotOff s.target + 4096) (128 * c.entries.length)

-- CRC32C does not accept a header put together from sectors of two, nor records
-- of which only some have arrived.
structure CrcRejects (c : SnapshotCall) (s : Snapshot) (img : Image) : Prop where
  header : s.acceptsIn img s.target → read img (s.slotOff s.target) 4096 = read s.dev.medium.cur (s.slotOff s.target) 4096 ∨
    read img (s.slotOff s.target) 4096 = (c.newHeader s).toBytes
  records : Util.crc32 (c.recordsIn s img) = Util.crc32 (recordsBytes c.entries) → c.recordsIn s img = recordsBytes c.entries

-- The header has arrived in full, and the records it describes have not.
structure SnapshotCall.Torn (c : SnapshotCall) (s : Snapshot) (img : Image) : Prop where
  header : read img (s.slotOff s.target) 4096 = (c.newHeader s).toBytes
  records : c.recordsIn s img ≠ recordsBytes c.entries

theorem during_confined (c : SnapshotCall) (s : Snapshot) (clean : s.dev.medium.unsynced = []) (large : 4096 ≤ s.slotSize) (m : Medium)
    (during : c.During s m) (img : Image) (alive : m.Survives kSectorSize img) (o : Nat)
    (outside : o < s.slotOff s.target ∨ s.slotOff s.target + s.slotSize ≤ o) : img o = s.dev.medium.cur o := by
  have start : ∀ v ∈ s.dev.medium.versions, v o = s.dev.medium.cur o := by
    intro v member
    unfold Medium.versions at member
    rw [clean, List.mem_singleton] at member
    rw [member]
  have every : ∀ v ∈ m.versions, v o = s.dev.medium.cur o := by
    rcases during with rfl | inside
    · exact start
    · obtain ⟨calls, trace, _, kept⟩ := driven_traced _ _ _ (fun m => ∀ v ∈ m.versions, v o = s.dev.medium.cur o)
        (run_driven c s (by unfold kSnapshotSlotHeaderSize; exact large)) start
        (fun m same v member => by
          rw [medium_versions_flush, List.mem_singleton] at member
          rw [member]
          exact same _ (medium_cur_mem m))
        (fun m img same area v member => by
          obtain ⟨offset, buf, within, away⟩ := area
          obtain ⟨lower, upper⟩ := within
          rw [medium_versions_put] at member
          rcases List.mem_cons.mp member with rfl | old
          · rw [away o (by omega)]
            exact same _ (medium_cur_mem m)
          · exact same v old)
      rw [trace, List.drop_left] at inside
      exact kept m inside
  obtain ⟨v, member, same⟩ := alive (o / kSectorSize)
  rw [same o rfl]
  exact every v member

-- The process that wrote, on what the crash left of its device.
def Snapshot.crashed (s : Snapshot) (img : Image) : Snapshot := { s with dev := { s.dev.reboot img with isOpen := true } }

section Crash

variable (sb : SuperBlock) (s : Snapshot) (coveredSeq : Nat) (entries : List IndexEntry) (writes : Nat)
  (standing : Standing sb s coveredSeq entries writes) (img : Image)
  (confined : ∀ o, (o < s.slotOff s.target ∨ s.slotOff s.target + s.slotSize ≤ o) → img o = s.dev.medium.cur o)

theorem crashed_off (slot : Slot) : (s.crashed img).slotOff slot = s.slotOff slot := by cases slot <;> rfl

theorem crashed_header (slot : Slot) : (s.crashed img).headerAt slot = s.headerIn img slot := by
  unfold Snapshot.headerAt Snapshot.headerIn
  rw [crashed_off]
  rfl

include standing

theorem crashed_ready : SnapshotReady (s.crashed img) sb := by
  have ready := standing.ready
  exact ⟨⟨rfl, rfl, ready.healthy.readable⟩, ready.slotA, ready.slotB, ready.size, ready.pos, ready.capacity, ready.uuid⟩

include confined

-- The other slot is as it was.
theorem crashed_other (slot : Slot) (apart : slot ≠ s.target) (o : Nat) (lower : s.slotOff slot ≤ o) (upper : o < s.slotOff slot + s.slotSize) :
    img o = s.dev.medium.cur o := by
  have disjoint := slots_apart s sb standing.ready s.target
  rw [other_of_ne slot s.target apart] at lower upper
  exact confined o (by omega)

theorem crashed_other_header (slot : Slot) (apart : slot ≠ s.target) : (s.crashed img).headerAt slot = s.headerAt slot := by
  have large := (ready_aligned s sb standing.ready).1
  rw [crashed_header]
  refine congrArg SnapshotSlotHeader.ofBytes (read_congr _ _ _ _ fun i bound => ?_)
  exact crashed_other sb s coveredSeq entries writes standing img confined slot apart _ (by omega) (by omega)

-- The snapshot in force before the Write is still there.
theorem crashed_active (slot : Slot) (apart : slot ≠ s.target) (h : SnapshotSlotHeader) (bound : entries.length ≤ (sb.wide s.slotSize).blockCount)
    (holds : SlotHolds s.dev (s.slotOff slot) h entries) : SlotHolds (s.crashed img).dev (s.slotOff slot) h entries := by
  obtain ⟨large, _⟩ := ready_aligned s sb standing.ready
  rw [wide_count] at bound
  have same := crashed_other sb s coveredSeq entries writes standing img confined slot apart
  refine ⟨?_, ?_, holds.inside, holds.short⟩
  · rw [← holds.header]
    exact read_congr _ _ _ _ fun i below => same _ (by omega) (by omega)
  · rw [← holds.records]
    exact read_congr _ _ _ _ fun i below => same _ (by omega) (by omega)

-- The slot being written is not accepted, or has its old header.
theorem crashed_before (old : s.acceptsIn img s.target →
    read img (s.slotOff s.target) 4096 = read s.dev.medium.cur (s.slotOff s.target) 4096) :
    SnapshotHolds (s.crashed img) (sb.wide s.slotSize) coveredSeq entries := by
  have headers (slot : Slot) (taken : s.slotOk ((s.crashed img).headerAt slot) = true) : (s.crashed img).headerAt slot = s.headerAt slot := by
    by_cases here : slot = s.target
    · rw [crashed_header, here] at taken ⊢
      exact congrArg SnapshotSlotHeader.ofBytes (old taken)
    · exact crashed_other_header sb s coveredSeq entries writes standing img confined slot here
  cases standing.holds with
  | never inactive gen covered count dead =>
      refine .never inactive gen covered count fun slot => ?_
      rw [Bool.eq_false_iff]
      intro taken
      have same := headers slot taken
      have refused := dead slot
      rw [← same] at refused
      exact absurd (refused.symm.trans taken) (by decide)
  | held slot h _ _ active holds fits verified uuid gen covered count bound older =>
      have apart := active_not_target s slot active
      refine .held slot h coveredSeq entries active ?_ fits verified uuid gen covered count bound ?_
      · rw [crashed_off]
        exact crashed_active sb s coveredSeq entries writes standing img confined slot apart h bound holds
      · intro taken
        have same := headers slot.other taken
        rw [same]
        refine older ?_
        rw [← same]
        exact taken

variable (c : SnapshotCall) (covered : c.coveredSeq < 2 ^ 64) (room : 4096 + 128 * c.entries.length ≤ s.slotSize)
  (short : ∀ entry ∈ c.entries, entry.1.length ≤ kSnapshotKeyMax) (gens : writes + 2 < 2 ^ 64)

omit confined

include covered room

theorem new_header_fits : HeaderFits (c.newHeader s) c.coveredSeq c.entries := by
  have inside := (slot_inside s sb standing.ready .a).2
  have word := standing.word
  exact header_fits s c.coveredSeq c.entries c.env.now covered (by omega)

theorem new_header_ok : s.slotOk (c.newHeader s) = true := by
  obtain ⟨large, aligned⟩ := ready_aligned s sb standing.ready
  refine slot_ok_held s (sb.wide s.slotSize) (ready_wide s sb standing.ready) _ c.coveredSeq c.entries
    (new_header_fits sb s coveredSeq entries writes standing c covered room) (header_verifies s c.coveredSeq _ _ c.env.now) rfl ?_
  rw [wide_count]
  omega

omit covered
include gens

omit room in
theorem new_header_gen : (c.newHeader s).generation.toNat = s.nextGen := by
  have gen := standing.gen
  exact UInt64.toNat_ofNat_of_lt' (by
    show s.nextGen < 2 ^ 64
    omega)

omit gens room in
theorem older_header (slot : Slot) (taken : s.slotOk (s.headerAt slot) = true) : (s.headerAt slot).generation.toNat < s.nextGen :=
  (holds_writable s (sb.wide s.slotSize) coveredSeq entries (ready_wide s sb standing.ready) standing.holds).newest slot taken

-- The new snapshot has arrived in full.
def Snapshot.arrived (s : Snapshot) (c : SnapshotCall) (img : Image) : Snapshot :=
  { s.crashed img with
    activeSlot := some s.target
    lastCoveredSeq := c.coveredSeq
    activeEntryCount := c.entries.length
    nextGen := s.nextGen + 1 }

include confined covered short

theorem crashed_after (header : read img (s.slotOff s.target) 4096 = (c.newHeader s).toBytes)
    (records : c.recordsIn s img = recordsBytes c.entries) : SnapshotHolds (s.arrived c img) (sb.wide s.slotSize) c.coveredSeq c.entries := by
  obtain ⟨large, aligned⟩ := ready_aligned s sb standing.ready
  have inside := (slot_inside s sb standing.ready s.target).2
  have whole := align_up_whole (128 * c.entries.length) (s.slotSize - 4096) (by omega) (by omega)
  have count : c.entries.length ≤ (sb.wide s.slotSize).blockCount := by
    rw [wide_count]
    omega
  have generation := new_header_gen sb s coveredSeq entries writes standing c gens
  have off (slot : Slot) : (s.arrived c img).slotOff slot = s.slotOff slot := by cases slot <;> rfl
  refine .held s.target (c.newHeader s) c.coveredSeq c.entries rfl ⟨?_, ?_, ?_, short⟩
    (new_header_fits sb s coveredSeq entries writes standing c covered room) (header_verifies s c.coveredSeq _ _ c.env.now) rfl ?_ rfl rfl count ?_
  · rw [off]
    exact header
  · rw [off]
    exact records
  · rw [off]
    show _ ≤ s.dev.sizeBytes
    omega
  · rw [generation]
    rfl
  · have apart : s.target.other ≠ s.target := by cases s.target <;> decide
    have same : (s.arrived c img).headerAt s.target.other = s.headerAt s.target.other :=
      crashed_other_header sb s coveredSeq entries writes standing img confined s.target.other apart
    rw [same, generation]
    exact older_header sb s coveredSeq entries writes standing s.target.other

end Crash

-- The next process before it has judged the two headers.
structure Judging (s : Snapshot) (img : Image) (next : RawDevice) (t : Snapshot) : Prop where
  device : t.dev = { next with isOpen := true }
  cur : t.dev.medium.cur = img
  offs : ∀ slot, t.slotOff slot = s.slotOff slot
  oks : ∀ h, t.slotOk h = s.slotOk h
  healthy : t.dev.Healthy
  size : t.dev.sizeBytes = s.dev.sizeBytes

theorem crashed_judging (s : Snapshot) (sb : SuperBlock) (ready : SnapshotReady s sb) (img : Image) (next : RawDevice)
    (carried : CarriedOver (s.dev.reboot img) next) (opts : Options) (env : SnapshotEnv) (mode : opts.create = false) :
    ∃ t, Judging s img next t ∧ (Snapshot.unopened next).openSnapshot opts env sb =
      match t.adjudicate opts env with
      | .error rc => (rc, { t with dev := t.dev.close.2 })
      | .ok r => (Err.kSuccess, r) := by
  have size : next.sizeBytes = s.dev.sizeBytes := carried.size
  have slotSize := ready.size
  have capacity := ready.capacity
  rw [slotSize, ← size] at capacity
  obtain ⟨t, slots, device, uuid, judged⟩ := open_snapshot_judges opts env sb next mode carried.closed (by omega) (by
    unfold kSnapshotSlotHeaderSize kSnapshotRecordSize kSnapshotBlockSize
    omega)
  refine ⟨t, ⟨device, ?_, ?_, ?_, ?_, ?_⟩, judged⟩
  · rw [device]
    exact carried.cur
  · intro slot
    have a := ready.slotA
    have b := ready.slotB
    have a' := slots.slotA
    have b' := slots.slotB
    rw [size, ← slotSize] at b'
    unfold kDataRegionOffset at a' b'
    cases slot with
    | a =>
        show t.slotAOff = s.slotAOff
        rw [a, a']
    | b =>
        show t.slotBOff = s.slotBOff
        rw [b, b']
  · intro h
    unfold Snapshot.slotOk
    rw [uuid, ready.uuid, slots.size, size, ← slotSize]
  · rw [device]
    exact ⟨rfl, carried.outcomes, carried.readable⟩
  · rw [device]
    exact size

theorem adopt_fields (t : Snapshot) (slot : Slot) (h : SnapshotSlotHeader) (maxGen : Nat) :
    (t.adopt slot h maxGen).dev = t.dev ∧ (t.adopt slot h maxGen).slotOff slot = t.slotOff slot ∧
      (t.adopt slot h maxGen).activeSlot = some slot ∧ (t.adopt slot h maxGen).activeEntryCount = h.entryCount.toNat :=
  ⟨rfl, by cases slot <;> rfl, rfl, rfl⟩

section Torn

variable (sb : SuperBlock) (s : Snapshot) (coveredSeq : Nat) (entries : List IndexEntry) (writes : Nat)
  (standing : Standing sb s coveredSeq entries writes) (img : Image)
  (confined : ∀ o, (o < s.slotOff s.target ∨ s.slotOff s.target + s.slotSize ≤ o) → img o = s.dev.medium.cur o)
  (c : SnapshotCall) (covered : c.coveredSeq < 2 ^ 64) (room : 4096 + 128 * c.entries.length ≤ s.slotSize) (gens : writes + 2 < 2 ^ 64)
  (rejects : CrcRejects c s img) (torn : c.Torn s img) (next : RawDevice) (t : Snapshot) (judging : Judging s img next t)

include judging

theorem judging_header (slot : Slot) : t.headerAt slot = (s.crashed img).headerAt slot := by
  rw [crashed_header]
  unfold Snapshot.headerAt Snapshot.headerIn
  rw [judging.cur, judging.offs]

include torn in
theorem judging_new : t.headerAt s.target = c.newHeader s := by
  unfold Snapshot.headerAt
  rw [judging.cur, judging.offs, torn.header]
  exact header_of_to_bytes _

include standing

include covered room rejects torn in
theorem torn_data : ¬ t.DataOk s.target (t.headerAt s.target) := by
  have fits := new_header_fits sb s coveredSeq entries writes standing c covered room
  rw [judging_new s img c torn next t judging]
  intro data
  unfold Snapshot.DataOk at data
  rw [judging.cur, judging.offs, fits.len, fits.crc] at data
  exact torn.records (rejects.records data)

include covered room torn in
theorem torn_accepted : t.slotOk (t.headerAt s.target) = true := by
  rw [judging_new s img c torn next t judging, judging.oks]
  exact new_header_ok sb s coveredSeq entries writes standing c covered room

theorem judging_reads (slot : Slot) : t.readHeader slot = some (t.headerAt slot) := by
  refine adjudicate_reads t judging.healthy.opened judging.healthy.readable (fun slot => ?_) slot
  have inside := (slot_inside s sb standing.ready slot).2
  have large := (ready_aligned s sb standing.ready).1
  rw [judging.offs, judging.size]
  omega

-- A record area as long as the slot allows can be judged.
theorem judging_answers (opts : Options) (env : SnapshotEnv) (usable : Usable opts env) (slot : Slot) (h : SnapshotSlotHeader)
    (fits : 4096 + h.dataLen.toNat ≤ s.slotSize) :
    t.verifySlotData opts env slot h = Err.kSuccess ∨ t.verifySlotData opts env slot h = Err.kSnapshotCorrupted := by
  have inside := (slot_inside s sb standing.ready slot).2
  obtain ⟨large, aligned⟩ := ready_aligned s sb standing.ready
  have whole := align_up_whole h.dataLen.toNat (s.slotSize - 4096) (by omega) (by omega)
  refine verify_slot_answers t opts env slot h (usable_buffered opts env usable) judging.healthy.opened judging.healthy.readable ?_
  rw [judging.offs, judging.size, kSnapshotSlotHeaderSize]
  omega

include confined covered room gens rejects torn

-- With a snapshot in force the recovery falls back to it.
theorem torn_falls_back (slot : Slot) (active : s.activeSlot = some slot) (opts : Options) (env : SnapshotEnv) (usable : Usable opts env) :
    ∃ r, t.adjudicate opts env = .ok r ∧ r.activeSlot = some slot ∧ r.lastCoveredSeq = coveredSeq ∧
      ∀ (σ : Type) (visitor : MetaIndexVisitor σ) (st : σ), r.load opts env visitor st = visitAll visitor st entries := by
  have new := judging_new s img c torn next t judging
  have generation := new_header_gen sb s coveredSeq entries writes standing c gens
  have fitsNew := new_header_fits sb s coveredSeq entries writes standing c covered room
  have data := torn_data sb s coveredSeq entries writes standing img c covered room rejects torn next t judging
  have apart := active_not_target s slot active
  have newest := older_header sb s coveredSeq entries writes standing slot
  cases standing.holds with
  | never inactive =>
      rw [inactive] at active
      cases active
  | held slot' h _ _ active' holds fits verified uuid gen lastCovered count bound older =>
      rw [active] at active'
      cases active'
      have there := crashed_active sb s coveredSeq entries writes standing img confined slot apart h bound holds
      have here : t.headerAt slot = h := by
        rw [judging_header s img next t judging, crashed_other_header sb s coveredSeq entries writes standing img confined slot apart]
        exact header_at_held s slot h entries holds
      have before : h.generation.toNat < s.nextGen := by omega
      have held : SlotHolds t.dev (t.slotOff slot) h entries := by
        rw [judging.offs]
        refine ⟨?_, ?_, ?_, holds.short⟩
        · rw [judging.cur]
          exact there.header
        · rw [judging.cur]
          exact there.records
        · rw [judging.size]
          exact holds.inside
      have ok : t.slotOk (t.headerAt slot) = true := by
        rw [here, judging.oks]
        exact slot_ok_held s (sb.wide s.slotSize) (ready_wide s sb standing.ready) h coveredSeq entries fits verified uuid bound
      have differ : t.Differ := by
        intro _ _ same
        have equal := congrArg UInt64.toNat same
        cases slot <;> cases turn : s.target <;> rw [turn] at apart new <;> first | exact apart rfl | (rw [here, new, generation] at equal; omega)
      have best : t.Best slot := by
        refine ⟨ok, ?_, ?_⟩
        · rw [here]
          unfold Snapshot.DataOk
          rw [fits.len, fits.crc, kSnapshotSlotHeaderSize]
          exact congrArg Util.crc32 held.records
        · intro other _ valid
          by_cases same : other = slot
          · rw [same]
          · have turned : other = s.target := by
              cases other <;> cases slot <;> cases turn : s.target <;> rw [turn] at apart <;>
                first | rfl | exact absurd rfl same | exact absurd rfl apart
            rw [turned] at valid
            exact absurd valid data
      have answers : t.Answers opts env := by
        refine ⟨usable.alloc _, judging_reads sb s coveredSeq entries writes standing img next t judging, ?_⟩
        intro other _
        refine judging_answers sb s coveredSeq entries writes standing img next t judging opts env usable other _ ?_
        by_cases same : other = s.target
        · rw [same, new, fitsNew.len]
          exact room
        · have turned : other = slot := by
            cases other <;> cases slot <;> cases turn : s.target <;> rw [turn] at apart same <;>
              first | rfl | exact absurd rfl same | exact absurd rfl apart
          rw [wide_count] at bound
          have large := (ready_aligned s sb standing.ready).1
          rw [turned, here, fits.len]
          omega
      refine ⟨_, adjudicate_best t opts env answers differ slot best, rfl, ?_, ?_⟩
      · rw [here]
        exact fits.covered
      · intro σ visitor st
        have inside := (slot_inside s sb standing.ready slot).2
        have word := standing.word
        rw [wide_count] at bound
        obtain ⟨device, off, active', count⟩ := adopt_fields t slot (t.headerAt slot) t.maxGen
        generalize t.adopt slot (t.headerAt slot) t.maxGen = r at device off active' count ⊢
        rw [here, fits.count] at count
        refine load_holds r opts env visitor st slot h entries (usable_buffered opts env usable) ?_ ?_ active' count (by omega) ?_
        · rw [device]
          exact judging.healthy.opened
        · rw [device]
          exact judging.healthy.readable
        · rw [device, off]
          exact held

omit gens in
-- Without one there is nothing to fall back to.
theorem torn_refused (inactive : s.activeSlot = none) (opts : Options) (env : SnapshotEnv) (usable : Usable opts env) :
    t.adjudicate opts env = .error Err.kSnapshotCorrupted := by
  have new := judging_new s img c torn next t judging
  have fitsNew := new_header_fits sb s coveredSeq entries writes standing c covered room
  have data := torn_data sb s coveredSeq entries writes standing img c covered room rejects torn next t judging
  have taken := torn_accepted sb s coveredSeq entries writes standing img c covered room torn next t judging
  have turn : s.target = .a := by
    unfold Snapshot.target
    rw [inactive]
    rfl
  rw [turn] at data taken new
  have dead : t.slotOk (t.headerAt .b) = false := by
    cases standing.holds with
    | never _ _ _ _ dead =>
        rw [judging_header s img next t judging, judging.oks,
          crashed_other_header sb s _ _ writes standing img confined .b (by rw [turn]; decide)]
        exact dead .b
    | held slot h _ _ active =>
        rw [inactive] at active
        cases active
  have verdict : t.verifySlotData opts env .a (t.headerAt .a) = Err.kSnapshotCorrupted := by
    refine (judging_answers sb s coveredSeq entries writes standing img next t judging opts env usable .a _ ?_).resolve_left ?_
    · rw [new, fitsNew.len]
      exact room
    · intro fine
      exact data (verify_slot_valid t opts env .a _ fine)
  have readA := judging_reads sb s coveredSeq entries writes standing img next t judging .a
  have readB := judging_reads sb s coveredSeq entries writes standing img next t judging .b
  unfold Snapshot.adjudicate
  rw [usable.alloc, readA, readB]
  generalize t.headerAt .a = ha at *
  generalize t.headerAt .b = hb at *
  simp only [Bool.true_eq_false, if_false, taken, dead, Bool.false_eq_true, false_and, and_false, if_true]
  unfold Snapshot.choose
  simp only [verdict, Slot.other, dead, Bool.false_eq_true, if_false]
  rw [if_neg (by decide), if_neg (by decide)]

end Torn

theorem torn_gives_nothing (sb : SuperBlock) (s : Snapshot) (standing : Standing sb s 0 [] 0) (img : Image)
    (confined : ∀ o, (o < s.slotOff s.target ∨ s.slotOff s.target + s.slotSize ≤ o) → img o = s.dev.medium.cur o) (c : SnapshotCall)
    (covered : c.coveredSeq < 2 ^ 64) (room : 4096 + 128 * c.entries.length ≤ s.slotSize) (rejects : CrcRejects c s img) (torn : c.Torn s img)
    (slot : Option Slot) (coveredSeq : Nat) (entries : List IndexEntry) : ¬ Gives sb (s.dev.reboot img) slot coveredSeq entries := by
  intro gives
  have usable : Usable { bareOptions with create := false } ⟨fun _ => true, 0⟩ := ⟨by decide, fun _ => rfl⟩
  have carried : CarriedOver (s.dev.reboot img) (s.dev.reboot img) := ⟨rfl, rfl, rfl, rfl, standing.ready.healthy.readable⟩
  obtain ⟨r, opened, _⟩ := gives _ _ _ rfl usable carried
  obtain ⟨t, judging, opens⟩ := crashed_judging s sb standing.ready img _ carried { bareOptions with create := false } ⟨fun _ => true, 0⟩ rfl
  rw [opened, torn_refused sb s 0 [] 0 standing img confined c covered room rejects torn _ t judging (standing.active.mpr rfl) _ _ usable] at opens
  exact absurd (show Err.kSuccess = Err.kSnapshotCorrupted from congrArg Prod.fst opens) (by decide)

theorem visit_overrun (bufSize dataEnd : Nat) (e : Encoding) (key : Key) (meta_ : ValueMeta)
    (spills : (Encoding.visit bufSize dataEnd e key meta_).1 = Err.kOverrun) : bufSize = 0 := by
  unfold Encoding.visit at spills
  have unwritten (spills : Err.kSnapshotWriteFailed = Err.kOverrun) : False := absurd spills (by decide)
  have small (spills : Err.kDeviceTooSmall = Err.kOverrun) : False := absurd spills (by decide)
  have fine (spills : Err.kSuccess = Err.kOverrun) : False := absurd spills (by decide)
  by_contra some_
  simp only [if_neg some_] at spills
  split at spills
  · exact unwritten spills
  · split at spills
    · split at spills
      · exact small spills
      · split at spills
        · exact unwritten spills
        · exact fine spills
    · exact fine spills

theorem visit_all_overrun (bufSize dataEnd : Nat) (entries : List IndexEntry) (e : Encoding)
    (spills : (visitAll (Encoding.visit bufSize dataEnd) e entries).1 = Err.kOverrun) : bufSize = 0 ∧ entries ≠ [] := by
  induction entries generalizing e with
  | nil => exact absurd spills (by decide : Err.kSuccess ≠ Err.kOverrun)
  | cons entry rest ih =>
      refine ⟨?_, List.cons_ne_nil _ _⟩
      unfold visitAll at spills
      simp only at spills
      split at spills
      · exact visit_overrun bufSize dataEnd e entry.1 entry.2 spills
      · exact (ih _ spills).1

theorem drain_no_overrun (e : Encoding) (dataEnd : Nat) : (e.drain dataEnd).1 ≠ Err.kOverrun := by
  have unwritten : Err.kSnapshotWriteFailed ≠ Err.kOverrun := by decide
  have small : Err.kDeviceTooSmall ≠ Err.kOverrun := by decide
  have fine : Err.kSuccess ≠ Err.kOverrun := by decide
  unfold Encoding.drain
  split
  · simp only
    split
    · exact small
    · simp only
      split
      · exact unwritten
      · exact fine
  · exact fine

-- A call that puts something into a buffer of no blocks.
structure SnapshotCall.Overruns (c : SnapshotCall) : Prop where
  size : c.bufSize = 0
  alloc : c.env.alloc 0 = true
  used : c.entries ≠ [] ∨ c.code = Err.kSuccess

-- It does so exactly when it gets as far as the first record, or the header.
theorem run_overruns (c : SnapshotCall) (s : Snapshot) (opened : s.dev.isOpen = true) (own : c.code ≠ Err.kOverrun)
    (short : ∀ entry ∈ c.entries, entry.1.length ≤ kSnapshotKeyMax) : (c.run s).1 = Err.kOverrun ↔ c.Overruns := by
  constructor
  · intro spills
    have alloc : c.env.alloc c.bufSize = true := by
      by_contra none_
      have refused : c.run s = (Err.kSnapshotWriteFailed, s) := by
        unfold SnapshotCall.bufSize at none_
        unfold SnapshotCall.run Snapshot.write
        simp [opened, none_]
      rw [refused] at spills
      exact absurd (show Err.kSnapshotWriteFailed = Err.kOverrun from spills) (by decide)
    have ran := run_ran c s
    rw [spills] at ran
    generalize (c.run s).2 = after at ran
    generalize rc : Err.kOverrun = code at ran
    cases ran with
    | refused => exact absurd rc (by decide)
    | scan failed =>
        unfold SnapshotCall.scanned scanning at rc
        simp only at rc
        split at rc
        · obtain ⟨none_, some_⟩ := visit_all_overrun _ _ _ _ rc.symm
          exact ⟨none_, none_ ▸ alloc, .inl some_⟩
        · exact absurd rc.symm own
    | drain => exact absurd rc.symm (drain_no_overrun _ _)
    | overrun scanned _ none_ => exact ⟨none_, none_ ▸ alloc, .inr (scanning_code _ _ _ _ scanned)⟩
    | header => exact absurd rc (by decide)
    | sync => exact absurd rc (by decide)
    | done => exact absurd rc (by decide)
  · rintro ⟨none_, alloc, used⟩
    obtain ⟨opts, env, covered, entries, code⟩ := c
    unfold SnapshotCall.bufSize at none_
    simp only at none_ alloc used short
    unfold SnapshotCall.run Snapshot.write
    cases entries with
    | nil =>
        have fine : code = Err.kSuccess := used.resolve_left fun some_ => some_ rfl
        simp [opened, none_, alloc, scanning, visitAll, fine, Encoding.drain]
    | cons entry rest =>
        have fits : ¬ entry.1.length > kSnapshotKeyMax := Nat.not_lt.mpr (short entry List.mem_cons_self)
        simp [opened, none_, alloc, scanning, visitAll, Encoding.visit, fits, Err.kOverrun, Err.kSuccess]

-- What a crash inside the next Write leaves is the snapshot before it or the
-- new one, unless it is the first Write and its header has outrun its records.
-- A Write without a buffer does what nobody can say.
theorem snapshot_write_atomic_iff (sb : SuperBlock) (s : Snapshot) (coveredSeq : Nat) (entries : List IndexEntry) (writes : Nat)
    (written : SnapshotWritten sb s coveredSeq entries writes) (gens : writes + 2 < 2 ^ 64) (c : SnapshotCall)
    (own : c.code ≠ Err.kOverrun) (covered : c.coveredSeq < 2 ^ 64) (room : 4096 + 128 * c.entries.length ≤ s.slotSize)
    (short : ∀ entry ∈ c.entries, entry.1.length ≤ kSnapshotKeyMax) (m : Medium) (during : c.During s m) (img : Image)
    (alive : m.Survives kSectorSize img) (rejects : CrcRejects c s img) :
    ((c.run s).1 ≠ Err.kOverrun ∧ (Gives sb (s.dev.reboot img) s.activeSlot coveredSeq entries ∨
      Gives sb (s.dev.reboot img) (some s.target) c.coveredSeq c.entries)) ↔ (¬ c.Overruns ∧ (0 < writes ∨ ¬ c.Torn s img)) := by
  have standing := written_standing sb s coveredSeq entries writes written (by omega)
  rw [ne_eq, run_overruns c s standing.ready.healthy.opened own short]
  apply and_congr_right
  intro _
  have confined := during_confined c s standing.clean (ready_aligned s sb standing.ready).1 m during img alive
  have ready := crashed_ready sb s coveredSeq entries writes standing img
  have gen := standing.gen
  constructor
  · intro gives
    by_contra neither
    obtain ⟨none_, torn⟩ := not_or.mp neither
    have torn := not_not.mp torn
    have first : writes = 0 := by omega
    subst first
    have fresh : coveredSeq = 0 ∧ entries = [] := by
      cases standing.holds with
      | never => exact ⟨rfl, rfl⟩
      | held slot h _ _ active =>
          rw [standing.active.mpr rfl] at active
          cases active
    obtain ⟨rfl, rfl⟩ := fresh
    have nothing := torn_gives_nothing sb s standing img confined c covered room rejects torn
    exact gives.elim (nothing _ _ _) (nothing _ _ _)
  · intro either
    have before (old : s.acceptsIn img s.target →
        read img (s.slotOff s.target) 4096 = read s.dev.medium.cur (s.slotOff s.target) 4096) :
        Gives sb (s.dev.reboot img) s.activeSlot coveredSeq entries := by
      have held := crashed_before sb s coveredSeq entries writes standing img confined old
      have bound : (s.crashed img).nextGen < 2 ^ 64 := by
        show s.nextGen < _
        omega
      exact gives_carried sb (s.crashed img).dev _ _ _ _ rfl rfl (holds_gives (s.crashed img) sb coveredSeq entries ready held standing.word bound)
    by_cases taken : s.acceptsIn img s.target
    · rcases rejects.header taken with old | new
      · exact .inl (before fun _ => old)
      · by_cases whole : c.recordsIn s img = recordsBytes c.entries
        · have held := crashed_after sb s coveredSeq entries writes standing img confined c covered room short gens new whole
          have ready' : SnapshotReady (s.arrived c img) sb :=
            ⟨ready.healthy, ready.slotA, ready.slotB, ready.size, ready.pos, ready.capacity, ready.uuid⟩
          have bound : (s.arrived c img).nextGen < 2 ^ 64 := by
            show s.nextGen + 1 < _
            omega
          exact .inr (gives_carried sb (s.arrived c img).dev _ _ _ _ rfl rfl
            (holds_gives (s.arrived c img) sb c.coveredSeq c.entries ready' held standing.word bound))
        · have torn : c.Torn s img := ⟨new, whole⟩
          have some_ : 0 < writes := either.resolve_right fun no => no torn
          left
          intro opts env next mode usable carried
          obtain ⟨t, judging, opens⟩ := crashed_judging s sb standing.ready img next carried opts env mode
          cases active : s.activeSlot with
          | none =>
              have zero := standing.active.mp active
              omega
          | some slot =>
              obtain ⟨r, adjudged, rest⟩ := torn_falls_back sb s coveredSeq entries writes standing img confined c covered room gens rejects torn
                next t judging slot active opts env usable
              rw [adjudged] at opens
              exact ⟨r, opens, rest⟩
    · exact .inl (before fun yes => absurd yes taken)

-- Before its Sync a Write may lose any of its records and keep its header.
def SnapshotCall.outrun (c : SnapshotCall) (s : Snapshot) : Image := fun o =>
  if o < s.slotOff s.target + 4096 then (c.headed s).2.medium.cur o else s.dev.medium.cur o

theorem outrun_survives (c : SnapshotCall) (s : Snapshot) (aligned : s.slotOff s.target % 512 = 0) (large : 4096 ≤ s.slotSize)
    (done : (c.run s).1 = Err.kSuccess) :
    c.During s (c.headed s).2.medium ∧ (c.headed s).2.medium.Survives kSectorSize (c.outrun s) ∧
      (c.run s).2.dev.medium.cur = (c.headed s).2.medium.cur := by
  have written := headed_written c s (by unfold kSnapshotSlotHeaderSize; exact large)
  have kept : s.dev.medium.cur ∈ (c.headed s).2.medium.versions :=
    (written_traced _ _ _ (fun m => s.dev.medium.cur ∈ m.versions) written (medium_cur_mem _) fun m img member _ =>
      List.mem_cons_of_mem img member).2
  have synced : (c.run s).2.dev = (c.headed s).2.record (c.headed s).2.medium.flush ∧ (c.headed s).1 = Err.kSuccess := by
    obtain ⟨_, _, _, headed, fine, device⟩ := run_done c s done
    exact ⟨by rw [device, (sync_ok _ fine).2], headed⟩
  refine ⟨.inr ?_, ?_, ?_⟩
  · obtain ⟨calls, trace, _, _⟩ := (written_traced _ _ _ (fun _ => True) (drained_written c s) trivial fun _ _ _ _ => trivial).1
    obtain ⟨_, _, wrote⟩ := write_at_ok (c.drained s).2.dev _ _ synced.2
    have record : (c.headed s).2 = (c.drained s).2.dev.record (c.headed s).2.medium := by
      show ((c.drained s).2.dev.writeAt _ _).2 = (c.drained s).2.dev.record ((c.drained s).2.dev.writeAt _ _).2.medium
      rw [wrote]
      rfl
    have headed : (c.headed s).2.trace = s.dev.trace ++ (calls ++ [(c.headed s).2.medium]) := by
      rw [record, record_trace, trace, List.append_assoc]
      rfl
    rw [synced.1, record_trace, headed, List.append_assoc, List.drop_left]
    simp
  · intro k
    by_cases before : k * 512 < s.slotOff s.target + 4096
    · refine ⟨_, medium_cur_mem _, fun o sector => if_pos ?_⟩
      unfold kSectorSize at sector
      omega
    · refine ⟨_, kept, fun o sector => if_neg ?_⟩
      unfold kSectorSize at sector
      omega
  · rw [synced.1]
    rfl

theorem small_created : ∃ s, SnapshotWritten smallBlock s 0 [] 0 ∧ s.slotOff s.target = 8192 ∧ s.slotSize = 8192 ∧
    ∀ off, 12288 ≤ off → off + 128 ≤ 16384 ∨ 20480 ≤ off → read s.dev.medium.cur off 128 = zeros 128 := by
  obtain ⟨t, slots, device, uuid, opens⟩ := open_snapshot_begins { bareOptions with create := true } ⟨fun _ => true, 0⟩ smallBlock
    { zeroDevice 24576 with isOpen := false } rfl (by decide) (by decide)
  have a : t.slotAOff = 8192 := slots.slotA
  have b : t.slotBOff = 16384 := slots.slotB
  have size : t.slotSize = 8192 := slots.size
  have bytes : t.dev.sizeBytes = 24576 := by rw [device]; rfl
  have healthy : t.dev.Healthy := by
    rw [device]
    exact ⟨rfl, rfl, fun _ => rfl⟩
  have zero (off : Nat) : read t.dev.medium.cur off 128 = zeros 128 := by
    rw [device]
    exact read_zeros _ _ _ fun _ _ => rfl
  rw [if_pos rfl, clear_healthy t ⟨fun _ => true, 0⟩ rfl healthy (fun slot => by
    unfold kSnapshotSlotHeaderSize
    cases slot <;> simp only [Snapshot.slotOff] <;> omega)] at opens
  refine ⟨_, .created _ _ _ _ (by decide) rfl (fun _ => rfl) rfl opens, a, size, fun off low apart => ?_⟩
  show read (t.dev.cleared t.slotAOff t.slotBOff (zeros kSnapshotSlotHeaderSize)).medium.cur off 128 = zeros 128
  have len : (zeros kSnapshotSlotHeaderSize).length = 4096 := zeros_length _
  unfold RawDevice.cleared
  simp only [record_medium, medium_flush_cur, medium_put_cur]
  rw [read_write_disjoint _ _ _ _ _ (by omega), read_write_disjoint _ _ _ _ _ (by omega), zero]

theorem one_record_differs : Util.crc32 (zeros 128) ≠ Util.crc32 (recordsBytes oneEntryCall.entries) := by decide +kernel

theorem one_entry_short : ∀ entry ∈ oneEntryCall.entries, entry.1.length ≤ kSnapshotKeyMax := by decide

-- A Write into a slot without records that stops when its header has arrived and
-- its one record has not.
structure Outrun (s : Snapshot) (m : Medium) (img : Image) : Prop where
  during : oneEntryCall.During s m
  alive : m.Survives kSectorSize img
  rejects : CrcRejects oneEntryCall s img
  torn : oneEntryCall.Torn s img

theorem one_entry_outrun (s : Snapshot) (ready : SnapshotReady s smallBlock) (size : s.slotSize = 8192)
    (zero : read s.dev.medium.cur (s.slotOff s.target + 4096) 128 = zeros 128) :
    Outrun s (oneEntryCall.headed s).2.medium (oneEntryCall.outrun s) := by
  have done := one_entry_runs s ready
  have wrote := run_wrote oneEntryCall s done
  have aligned : s.slotOff s.target % 512 = 0 := by
    have a := ready.slotA
    have b := ready.slotB
    cases s.target <;> simp only [Snapshot.slotOff] <;> omega
  obtain ⟨during, alive, cur⟩ := outrun_survives oneEntryCall s aligned (by rw [size]; decide) done
  have header : read (oneEntryCall.outrun s) (s.slotOff s.target) 4096 = (oneEntryCall.newHeader s).toBytes := by
    rw [show (oneEntryCall.newHeader s).toBytes = _ from wrote.holds.header.symm, cur]
    exact read_congr _ _ _ _ fun i below => if_pos (by omega)
  have records : oneEntryCall.recordsIn s (oneEntryCall.outrun s) = zeros 128 := by
    rw [← zero, SnapshotCall.recordsIn]
    exact read_congr _ _ _ _ fun i below => if_neg (by omega)
  have differ : oneEntryCall.recordsIn s (oneEntryCall.outrun s) ≠ recordsBytes oneEntryCall.entries := by
    rw [records]
    exact fun same => one_record_differs (congrArg Util.crc32 same)
  refine ⟨during, alive, ⟨fun _ => .inr header, fun same => ?_⟩, header, differ⟩
  rw [records] at same
  exact absurd same one_record_differs

-- A second Write that stops so: the device still gives the first.
theorem snapshot_write_atomic_iff_second : ∃ s m img, SnapshotWritten smallBlock s oneEntryCall.coveredSeq oneEntryCall.entries 1 ∧
    Outrun s m img ∧ ((oneEntryCall.run s).1 ≠ Err.kOverrun ∧
      (Gives smallBlock (s.dev.reboot img) s.activeSlot oneEntryCall.coveredSeq oneEntryCall.entries ∨
        Gives smallBlock (s.dev.reboot img) (some s.target) oneEntryCall.coveredSeq oneEntryCall.entries)) := by
  obtain ⟨s, created, off, size, zero⟩ := small_created
  have ready := (written_standing smallBlock s 0 [] 0 created (by decide)).ready
  have done := one_entry_runs s ready
  have wrote := run_wrote oneEntryCall s done
  have written := SnapshotWritten.wrote s 0 [] 0 oneEntryCall created (by decide) done
  have ready' := (written_standing smallBlock _ _ _ 1 written (by decide)).ready
  have size' : (oneEntryCall.run s).2.slotSize = 8192 := (run_layout oneEntryCall s).2.2.1.trans size
  have place : (oneEntryCall.run s).2.slotOff (oneEntryCall.run s).2.target = 16384 := by
    have first : s.target = .a := by
      unfold Snapshot.target
      rw [(written_standing smallBlock s 0 [] 0 created (by decide)).active.mpr rfl]
      rfl
    have turned : (oneEntryCall.run s).2.target = .b := by
      unfold Snapshot.target
      rw [wrote.fields, first]
      rfl
    rw [turned]
    show (oneEntryCall.run s).2.slotBOff = _
    rw [ready'.slotB, size']
  have zero' : read (oneEntryCall.run s).2.dev.medium.cur 20480 128 = zeros 128 := by
    rw [← zero 20480 (by decide) (.inr (by decide))]
    refine read_congr _ _ _ _ fun i below => wrote.outside _ (.inr ?_)
    rw [off, show alignUp (128 * oneEntryCall.entries.length) 4096 = 4096 from rfl]
    omega
  have outrun := one_entry_outrun _ ready' size' (by rw [place]; exact zero')
  have atomic := (snapshot_write_atomic_iff smallBlock _ _ _ 1 written (by decide) oneEntryCall (by decide) (by decide)
    (by rw [size']; decide) one_entry_short _ outrun.during _ outrun.alive outrun.rejects).mpr
    ⟨fun spills => absurd spills.size (by decide), .inl (by decide)⟩
  exact ⟨_, _, _, written, outrun, atomic⟩

-- The first Write of a device: no process can open it any more.
theorem first_write_torn : ∃ s m img, SnapshotWritten smallBlock s 0 [] 0 ∧ 4096 + 128 * oneEntryCall.entries.length ≤ s.slotSize ∧
    oneEntryCall.During s m ∧ m.Survives kSectorSize img ∧ CrcRejects oneEntryCall s img ∧ (oneEntryCall.run s).1 ≠ Err.kOverrun ∧
    ¬ (Gives smallBlock (s.dev.reboot img) s.activeSlot 0 [] ∨
      Gives smallBlock (s.dev.reboot img) (some s.target) oneEntryCall.coveredSeq oneEntryCall.entries) := by
  obtain ⟨s, written, off, size, zero⟩ := small_created
  have standing := written_standing smallBlock s 0 [] 0 written (by decide)
  have room : 4096 + 128 * oneEntryCall.entries.length ≤ s.slotSize := by
    rw [size]
    decide
  have outrun := one_entry_outrun s standing.ready size (by rw [off]; exact zero 12288 (by decide) (.inl (by decide)))
  have confined := during_confined oneEntryCall s standing.clean (by rw [size]; decide) _ outrun.during _ outrun.alive
  have nothing := torn_gives_nothing smallBlock s standing _ confined oneEntryCall (by decide) room outrun.rejects outrun.torn
  refine ⟨s, _, _, written, room, outrun.during, outrun.alive, outrun.rejects, ?_, fun gives => gives.elim (nothing _ _ _) (nothing _ _ _)⟩
  rw [one_entry_runs s standing.ready]
  decide

end Cabe
