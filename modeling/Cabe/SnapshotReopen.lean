import Cabe.SnapshotVerdict

set_option autoImplicit false

namespace Cabe

open Storage

-- What the snapshot device holds: nothing a recovery would take, or the entries
-- of the last snapshot in the active slot and at most an older one in the other.
inductive SnapshotHolds (s : Snapshot) (sb : SuperBlock) : Nat → List IndexEntry → Prop where
  | never (inactive : s.activeSlot = none) (gen : s.nextGen = 1) (covered : s.lastCoveredSeq = 0) (count : s.activeEntryCount = 0)
      (dead : ∀ slot, s.slotOk (s.headerAt slot) = false) : SnapshotHolds s sb 0 []
  | held (slot : Slot) (h : SnapshotSlotHeader) (coveredSeq : Nat) (entries : List IndexEntry) (active : s.activeSlot = some slot)
      (holds : SlotHolds s.dev (s.slotOff slot) h entries) (fits : HeaderFits h coveredSeq entries) (verified : verifySlotHeader h = true)
      (uuid : h.engineUuid = s.engineUuid) (gen : s.nextGen = h.generation.toNat + 1) (covered : s.lastCoveredSeq = coveredSeq)
      (count : s.activeEntryCount = entries.length) (bound : entries.length ≤ sb.blockCount)
      (older : s.slotOk (s.headerAt slot.other) = true → (s.headerAt slot.other).generation.toNat < h.generation.toNat) :
      SnapshotHolds s sb coveredSeq entries

theorem slot_ok_held (s : Snapshot) (sb : SuperBlock) (ready : SnapshotReady s sb) (h : SnapshotSlotHeader) (coveredSeq : Nat)
    (entries : List IndexEntry) (fits : HeaderFits h coveredSeq entries) (verified : verifySlotHeader h = true)
    (uuid : h.engineUuid = s.engineUuid) (bound : entries.length ≤ sb.blockCount) : s.slotOk h = true := by
  have len := fits.len
  have count := fits.count
  have word : h.dataLen.toNat < 2 ^ 64 := h.dataLen.toNat_lt
  have grown := align_up_mono (128 * entries.length) (sb.blockCount * 128) (by omega)
  have rounded := align_up_bounds (128 * entries.length)
  have capacity := ready.capacity
  unfold Snapshot.slotOk kSnapshotRecordSize kSnapshotSlotHeaderSize
  rw [verified, count, len]
  have product : 128 * entries.length = entries.length * 128 % 2 ^ 64 := by omega
  have inside : (4096 + 128 * entries.length) % 2 ^ 64 ≤ s.slotSize := Nat.le_trans (Nat.mod_le _ _) (by omega)
  rw [← product, decide_eq_true uuid, decide_eq_true rfl, decide_eq_true inside]
  decide

theorem header_at_held (s : Snapshot) (slot : Slot) (h : SnapshotSlotHeader) (entries : List IndexEntry)
    (holds : SlotHolds s.dev (s.slotOff slot) h entries) : s.headerAt slot = h := by
  rw [Snapshot.headerAt, holds.header]
  exact header_of_to_bytes h

theorem target_other (s : Snapshot) : s.activeSlot = none ∧ s.target = .a ∨ s.activeSlot = some s.target.other := by
  unfold Snapshot.target
  cases s.activeSlot with
  | none => exact .inl ⟨rfl, rfl⟩
  | some slot => cases slot <;> exact .inr rfl

-- A snapshot that was written is the newest one on the device.
theorem wrote_newest (s after : Snapshot) (sb : SuperBlock) (coveredSeq : Nat) (now : UInt64) (entries : List IndexEntry)
    (ready : SnapshotReady s sb) (wrote : Wrote s coveredSeq now entries after) (count : entries.length ≤ sb.blockCount)
    (covered : coveredSeq < 2 ^ 64) (gens : s.nextGen + 1 < 2 ^ 64) (word : sb.blockCount * 128 < 2 ^ 64)
    (older : s.slotOk (s.headerAt s.target.other) = true → (s.headerAt s.target.other).generation.toNat < s.nextGen) :
    SnapshotHolds after sb coveredSeq entries := by
  have capacity := ready.capacity
  have grown := align_up_mono (128 * entries.length) (sb.blockCount * 128) (by omega)
  have apart := slots_apart s sb ready s.target
  have sameOff : ∀ slot, after.slotOff slot = s.slotOff slot := by
    intro slot
    rw [wrote.fields]
    cases slot <;> rfl
  have sameOk : ∀ h, after.slotOk h = s.slotOk h := by
    intro h
    rw [wrote.fields]
    rfl
  have otherHeader : after.headerAt s.target.other = s.headerAt s.target.other := by
    unfold Snapshot.headerAt
    rw [sameOff]
    exact congrArg SnapshotSlotHeader.ofBytes (read_congr _ _ _ _ fun i inside => wrote.outside _ (by omega))
  have generation : (s.header coveredSeq entries.length (Util.crc32 (recordsBytes entries)) now).generation.toNat = s.nextGen :=
    UInt64.toNat_ofNat_of_lt' (by
      show s.nextGen < 2 ^ 64
      omega)
  refine .held s.target _ coveredSeq entries (by rw [wrote.fields]) (by rw [sameOff]; exact wrote.holds)
    (header_fits s coveredSeq entries now covered (by omega)) (header_verifies s coveredSeq _ _ now)
    (by rw [wrote.fields]; rfl) ?_ (by rw [wrote.fields]) (by rw [wrote.fields]) count ?_
  · rw [generation, wrote.fields]
    exact Nat.mod_eq_of_lt gens
  · rw [otherHeader, sameOk, generation]
    exact older

-- A snapshot that was written takes the place of the one before.
theorem wrote_holds (s after : Snapshot) (sb : SuperBlock) (coveredSeq old : Nat) (now : UInt64) (entries oldEntries : List IndexEntry)
    (ready : SnapshotReady s sb) (held : SnapshotHolds s sb old oldEntries) (wrote : Wrote s coveredSeq now entries after)
    (count : entries.length ≤ sb.blockCount) (covered : coveredSeq < 2 ^ 64) (gens : s.nextGen + 1 < 2 ^ 64)
    (word : sb.blockCount * 128 < 2 ^ 64) : SnapshotHolds after sb coveredSeq entries := by
  apply wrote_newest s after sb coveredSeq now entries ready wrote count covered gens word
  intro taken
  rcases target_other s with ⟨inactive, first⟩ | active
  · cases held with
    | never _ _ _ _ dead =>
        rw [dead] at taken
        cases taken
    | held slot h _ _ active => rw [inactive] at active; cases active
  · cases held with
    | never inactive => rw [inactive] at active; cases active
    | held slot h _ _ active' holds fits _ _ gen =>
        rw [active] at active'
        cases active'
        rw [header_at_held s _ h oldEntries holds, gen]
        omega

-- The device as the next process finds it.
structure CarriedOver (old dev : RawDevice) : Prop where
  closed : dev.isOpen = false
  size : dev.sizeBytes = old.sizeBytes
  cur : dev.medium.cur = old.medium.cur
  outcomes : dev.outcomes = []
  readable : ∀ k, dev.unreadable k = false

structure SnapshotReopened (s : Snapshot) (dev : RawDevice) (next : Snapshot) : Prop where
  device : next.dev = { dev with isOpen := true }
  active : next.activeSlot = s.activeSlot
  gen : next.nextGen = s.nextGen
  covered : next.lastCoveredSeq = s.lastCoveredSeq
  trigger : next.lastTriggerSeq = s.lastCoveredSeq
  count : next.activeEntryCount = s.activeEntryCount

-- The next process before it has judged the slots: it sees what this one sees.
structure Rejudges (s : Snapshot) (sb : SuperBlock) (opts : Options) (env : SnapshotEnv) (dev : RawDevice) (t : Snapshot) : Prop where
  device : t.dev = { dev with isOpen := true }
  offs : ∀ slot, t.slotOff slot = s.slotOff slot
  oks : ∀ h, t.slotOk h = s.slotOk h
  cur : t.dev.medium.cur = s.dev.medium.cur
  headers : ∀ slot, t.headerAt slot = s.headerAt slot
  ready : SnapshotReady t sb
  inside : ∀ slot, t.slotOff slot + 4096 ≤ t.dev.sizeBytes
  opens : (Snapshot.unopened dev).openSnapshot opts env sb =
    match t.adjudicate opts env with
    | .error rc => (rc, { t with dev := t.dev.close.2 })
    | .ok next => (Err.kSuccess, next)

theorem snapshot_rejudged (s : Snapshot) (sb : SuperBlock) (opts : Options) (env : SnapshotEnv) (dev : RawDevice) (ready : SnapshotReady s sb)
    (carried : CarriedOver s.dev dev) (mode : opts.create = false) : ∃ t, Rejudges s sb opts env dev t := by
  have size := ready.size
  have capacity := ready.capacity
  have pos := ready.pos
  rw [← carried.size] at size
  rw [size] at capacity pos
  obtain ⟨t, slots, device, uuid, opens⟩ := open_snapshot_judges opts env sb dev mode carried.closed (Nat.ne_of_gt pos)
    (by unfold kSnapshotSlotHeaderSize kSnapshotRecordSize kSnapshotBlockSize; omega)
  have offs : ∀ slot, t.slotOff slot = s.slotOff slot := by
    have a := ready.slotA
    have b := ready.slotB
    have a' := slots.slotA
    have b' := slots.slotB
    unfold kDataRegionOffset at a' b'
    intro slot
    cases slot <;> simp only [Snapshot.slotOff] <;> omega
  have oks : ∀ h, t.slotOk h = s.slotOk h := by
    intro h
    unfold Snapshot.slotOk
    rw [ready.uuid, uuid, slots.size, size]
  have cur : t.dev.medium.cur = s.dev.medium.cur := by
    rw [device]
    exact carried.cur
  have ready' : SnapshotReady t sb := by
    refine ⟨⟨?_, ?_, ?_⟩, slots.slotA, ?_, ?_, by rw [slots.size]; exact pos, by rw [slots.size]; exact capacity, uuid⟩
    · rw [device]
    · rw [device]
      exact carried.outcomes
    · rw [device]
      exact carried.readable
    · rw [slots.slotB, slots.size, kDataRegionOffset]
    · rw [slots.size, device]
  refine ⟨t, device, offs, oks, cur, fun slot => ?_, ready', fun slot => ?_, opens⟩
  · unfold Snapshot.headerAt
    rw [offs, cur]
  · have fits := (slot_inside t sb ready' slot).2
    have large := ready'.capacity
    omega

-- Opening the device again finds the snapshot that was in force.
theorem snapshot_reopens (s : Snapshot) (sb : SuperBlock) (opts : Options) (env : SnapshotEnv) (dev : RawDevice) (coveredSeq : Nat)
    (entries : List IndexEntry) (ready : SnapshotReady s sb) (held : SnapshotHolds s sb coveredSeq entries) (carried : CarriedOver s.dev dev)
    (mode : opts.create = false) (buffered : Buffered opts env) (alloc : env.alloc kSnapshotSlotHeaderSize = true)
    (gens : s.nextGen < 2 ^ 64) :
    ∃ next, (Snapshot.unopened dev).openSnapshot opts env sb = (Err.kSuccess, next) ∧ SnapshotReopened s dev next ∧
      SnapshotReady next sb ∧ SnapshotHolds next sb coveredSeq entries := by
  obtain ⟨t, device, offs, oks, cur, headers, ready', inside, judges⟩ := snapshot_rejudged s sb opts env dev ready carried mode
  have opens : ∀ next, t.adjudicate opts env = .ok next → (Snapshot.unopened dev).openSnapshot opts env sb = (Err.kSuccess, next) := by
    intro next judged
    rw [judges, judged]
  cases held with
  | never inactive gen covered count dead =>
      have dead' : ∀ slot, t.slotOk (t.headerAt slot) = false := by
        intro slot
        rw [headers, oks]
        exact dead slot
      have judged := adjudicate_never t opts env alloc ready'.healthy.opened ready'.healthy.readable inside dead'
      refine ⟨t.never, opens _ judged, ⟨device, inactive.symm, gen.symm, covered.symm, covered.symm, count.symm⟩, ?_, ?_⟩
      · exact ⟨ready'.healthy, ready'.slotA, ready'.slotB, ready'.size, ready'.pos, ready'.capacity, ready'.uuid⟩
      · exact .never rfl rfl rfl rfl dead'
  | held slot h _ _ active holds fits verified uuid gen covered count bound older =>
      have uuid' : h.engineUuid = t.engineUuid := by rw [uuid, ready.uuid, ready'.uuid]
      have holds' : SlotHolds t.dev (t.slotOff slot) h entries := by
        rw [offs]
        refine ⟨by rw [cur]; exact holds.header, by rw [cur]; exact holds.records, ?_, holds.short⟩
        rw [device]
        show _ ≤ dev.sizeBytes
        rw [carried.size]
        exact holds.inside
      have here := header_at_held t slot h entries holds'
      have ok := slot_ok_held t sb ready' h coveredSeq entries fits verified uuid' bound
      have older' : t.slotOk (t.headerAt slot.other) = true → (t.headerAt slot.other).generation.toNat < h.generation.toNat := by
        rw [headers, oks]
        exact older
      have fine := verify_slot_holds t opts env slot h coveredSeq entries buffered ready'.healthy.opened ready'.healthy.readable holds' fits
      have judged := adjudicate_active t opts env slot h alloc ready'.healthy.opened ready'.healthy.readable inside here ok older' fine
      refine ⟨_, opens _ judged, ⟨device, active.symm, ?_, ?_, ?_, ?_⟩, ?_, ?_⟩
      · show (h.generation.toNat + 1) % 2 ^ 64 = s.nextGen
        rw [gen] at gens ⊢
        exact Nat.mod_eq_of_lt gens
      · show h.coveredSeq.toNat = s.lastCoveredSeq
        rw [fits.covered, covered]
      · show h.coveredSeq.toNat = s.lastCoveredSeq
        rw [fits.covered, covered]
      · show h.entryCount.toNat = s.activeEntryCount
        rw [fits.count, count]
      · exact ⟨ready'.healthy, ready'.slotA, ready'.slotB, ready'.size, ready'.pos, ready'.capacity, ready'.uuid⟩
      · refine .held slot h coveredSeq entries rfl ?_ fits verified uuid' ?_ fits.covered fits.count bound ?_
        · cases slot <;> exact holds'
        · show (h.generation.toNat + 1) % 2 ^ 64 = h.generation.toNat + 1
          rw [gen] at gens
          exact Nat.mod_eq_of_lt gens
        · cases slot <;> exact older'

-- With a buffer of no blocks nobody gets past a snapshot that has entries.
theorem snapshot_reopen_endless (s : Snapshot) (sb : SuperBlock) (opts : Options) (env : SnapshotEnv) (dev : RawDevice) (coveredSeq : Nat)
    (entries : List IndexEntry) (ready : SnapshotReady s sb) (held : SnapshotHolds s sb coveredSeq entries) (carried : CarriedOver s.dev dev)
    (mode : opts.create = false) (empty : roundUpBufferSize opts.snapshotBufferSize kSnapshotBlockSize = 0) (alloc : ∀ n, env.alloc n = true)
    (some_ : entries ≠ []) : ((Snapshot.unopened dev).openSnapshot opts env sb).1 = Err.kNeverReturns := by
  obtain ⟨t, device, offs, oks, cur, headers, ready', inside, judges⟩ := snapshot_rejudged s sb opts env dev ready carried mode
  cases held with
  | never => exact absurd rfl some_
  | held slot h _ _ active holds fits verified uuid gen covered count bound older =>
      have here : t.headerAt slot = h := (headers slot).trans (header_at_held s slot h entries holds)
      have ok := slot_ok_held t sb ready' h coveredSeq entries fits verified (by rw [uuid, ready.uuid, ready'.uuid]) bound
      have older' : t.slotOk (t.headerAt slot.other) = true → (t.headerAt slot.other).generation.toNat < h.generation.toNat := by
        rw [headers, oks]
        exact older
      have records : h.dataLen.toNat ≠ 0 := by
        rw [fits.len]
        have length := List.length_pos_iff.mpr some_
        omega
      have stuck := verify_slot_endless t opts env slot h ready'.healthy.opened ready'.healthy.readable (inside slot) empty (alloc 0) records
      rw [judges, adjudicate_stuck t opts env slot h (alloc _) ready'.healthy.opened ready'.healthy.readable inside here ok older' stuck]

theorem zero_header_refused (s : Snapshot) : s.slotOk (.ofBytes (zeros 4096)) = false := by
  have magic : (SnapshotSlotHeader.ofBytes (zeros 4096)).magic = 0 := by
    show UInt32.ofNat (leNat (slice (zeros 4096) 0 4)) = 0
    rw [slice_zeros _ _ _ (by omega)]
    decide
  simp [Snapshot.slotOk, verifySlotHeader, magic, kSnapshotSlotMagic]

theorem zero_header_dead (s : Snapshot) (slot : Slot)
    (zero : read s.dev.medium.cur (s.slotOff slot) 4096 = zeros kSnapshotSlotHeaderSize) : s.slotOk (s.headerAt slot) = false := by
  unfold Snapshot.headerAt
  rw [zero]
  exact zero_header_refused s

-- The device after both headers were written and synced.
def RawDevice.cleared (d : RawDevice) (offA offB : Nat) (blank : Bytes) : RawDevice :=
  let one := d.record (d.medium.put (write d.medium.cur offA blank))
  let two := one.record (one.medium.put (write one.medium.cur offB blank))
  two.record two.medium.flush

theorem clear_healthy (s : Snapshot) (env : SnapshotEnv) (alloc : env.alloc kSnapshotSlotHeaderSize = true) (healthy : s.dev.Healthy)
    (fits : ∀ slot, s.slotOff slot + kSnapshotSlotHeaderSize ≤ s.dev.sizeBytes) :
    s.clear env = (Err.kSuccess, ({ s with dev := s.dev.cleared s.slotAOff s.slotBOff (zeros kSnapshotSlotHeaderSize) } : Snapshot).never) := by
  have len : (zeros kSnapshotSlotHeaderSize).length = kSnapshotSlotHeaderSize := zeros_length _
  have fitsA : s.slotAOff + kSnapshotSlotHeaderSize ≤ s.dev.sizeBytes := fits .a
  have fitsB : s.slotBOff + kSnapshotSlotHeaderSize ≤ s.dev.sizeBytes := fits .b
  unfold Snapshot.clear RawDevice.cleared
  rw [alloc]
  generalize zeros kSnapshotSlotHeaderSize = blank at len ⊢
  rw [← len] at fitsA fitsB
  simp only [Bool.true_eq_false, if_false]
  rw [healthy_write s.dev _ _ healthy fitsA]
  simp only
  rw [healthy_write _ _ _ (healthy_record _ _ healthy) fitsB]
  simp only [ne_eq, not_true_eq_false, or_self, if_false]
  rw [healthy_sync _ (healthy_record _ _ (healthy_record _ _ healthy))]
  simp only [not_true_eq_false, if_false]

theorem cleared_reads (d : RawDevice) (offA offB : Nat) (blank : Bytes) (apart : offA + blank.length ≤ offB) :
    read (d.cleared offA offB blank).medium.cur offA blank.length = blank ∧
      read (d.cleared offA offB blank).medium.cur offB blank.length = blank := by
  unfold RawDevice.cleared
  simp only [record_medium, medium_flush_cur, medium_put_cur]
  constructor
  · rw [read_write_disjoint _ _ _ _ _ (by omega), read_write_inside _ _ _ _ _ (Nat.le_refl _) (Nat.le_refl _), Nat.sub_self, slice_all]
  · rw [read_write_inside _ _ _ _ _ (Nat.le_refl _) (Nat.le_refl _), Nat.sub_self, slice_all]

-- Creating clears both slots.
theorem snapshot_created (sb : SuperBlock) (opts : Options) (env : SnapshotEnv) (dev : RawDevice) (closed : dev.isOpen = false)
    (outcomes : dev.outcomes = []) (readable : ∀ k, dev.unreadable k = false) (mode : opts.create = true)
    (alloc : env.alloc kSnapshotSlotHeaderSize = true)
    (capacity : 4096 + alignUp (sb.blockCount * 128) 4096 ≤ snapshotSlotSize dev.sizeBytes) :
    ∃ next, (Snapshot.unopened dev).openSnapshot opts env sb = (Err.kSuccess, next) ∧ SnapshotReady next sb ∧
      SnapshotHolds next sb 0 [] ∧ next.lastTriggerSeq = 0 ∧ next.nextGen = 1 := by
  have pos : 0 < snapshotSlotSize dev.sizeBytes := by omega
  have fits := slot_size_fits dev.sizeBytes pos
  have opened : (Snapshot.unopened dev).dev.openDevice = (Err.kSuccess, { dev with isOpen := true }) := by
    simp [Snapshot.unopened, RawDevice.openDevice, closed]
  generalize found : ({ Snapshot.unopened dev with
    dev := { dev with isOpen := true }, engineUuid := sb.engineUuid, slotSize := snapshotSlotSize dev.sizeBytes,
    slotAOff := kDataRegionOffset, slotBOff := kDataRegionOffset + snapshotSlotSize dev.sizeBytes } : Snapshot) = t
  have opens : (Snapshot.unopened dev).openSnapshot opts env sb = t.clear env := by
    unfold Snapshot.openSnapshot
    simp only [opened, ne_eq, not_true_eq_false, if_false, mode, if_true]
    rw [if_neg (by omega), if_neg (by unfold kSnapshotSlotHeaderSize kSnapshotRecordSize kSnapshotBlockSize; omega)]
    subst found
    rfl
  have healthy : t.dev.Healthy := by
    rw [← found]
    exact ⟨rfl, outcomes, readable⟩
  have slots : t.slotAOff = kDataRegionOffset ∧ t.slotBOff = kDataRegionOffset + snapshotSlotSize dev.sizeBytes ∧
      t.dev.sizeBytes = dev.sizeBytes ∧ t.slotSize = snapshotSlotSize dev.sizeBytes ∧ t.engineUuid = sb.engineUuid := by
    rw [← found]
    exact ⟨rfl, rfl, rfl, rfl, rfl⟩
  obtain ⟨slotA, slotB, size, slotSize, uuid⟩ := slots
  have len : (zeros kSnapshotSlotHeaderSize).length = 4096 := zeros_length _
  rw [clear_healthy t env alloc healthy (fun slot => by
    unfold kSnapshotSlotHeaderSize
    cases slot <;> simp only [Snapshot.slotOff] <;> omega)] at opens
  have blanks := cleared_reads t.dev t.slotAOff t.slotBOff (zeros kSnapshotSlotHeaderSize) (by omega)
  rw [len] at blanks
  refine ⟨_, opens, ⟨?_, slotA, ?_, ?_, ?_, ?_, uuid⟩, .never rfl rfl rfl rfl ?_, rfl, rfl⟩
  · exact healthy_record _ _ (healthy_record _ _ (healthy_record _ _ healthy))
  · show t.slotBOff = 8192 + t.slotSize
    rw [slotB, slotSize, kDataRegionOffset]
  · show t.slotSize = snapshotSlotSize t.dev.sizeBytes
    rw [slotSize, size]
  · show 0 < t.slotSize
    omega
  · show _ ≤ t.slotSize
    omega
  · intro slot
    cases slot with
    | a => exact zero_header_dead _ .a blanks.1
    | b => exact zero_header_dead _ .b blanks.2

end Cabe
