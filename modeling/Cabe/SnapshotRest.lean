import Cabe.Engine
import Cabe.SnapshotAtomic

set_option autoImplicit false

namespace Cabe

open Storage

-- A snapshot device between two calls when no call fails. What is not durable
-- yet are records that no header names, left by a Write that had no room.
structure SnapshotRests (sb : SuperBlock) (s : Snapshot) (coveredSeq : Nat) (entries : List IndexEntry) (writes : Nat) : Prop where
  ready : SnapshotReady s sb
  holds : SnapshotHolds s (sb.wide s.slotSize) coveredSeq entries
  confined : ∀ v ∈ s.dev.medium.versions, ∀ o, (o < s.slotOff s.target + 4096 ∨ s.slotOff s.target + s.slotSize ≤ o) →
    v o = s.dev.medium.cur o
  word : s.dev.sizeBytes < 2 ^ 64
  gen : s.nextGen ≤ writes + 1

theorem rests_more (sb : SuperBlock) (s : Snapshot) (coveredSeq : Nat) (entries : List IndexEntry) (writes more : Nat)
    (rests : SnapshotRests sb s coveredSeq entries writes) (later : writes ≤ more) : SnapshotRests sb s coveredSeq entries more := by
  have gen := rests.gen
  exact ⟨rests.ready, rests.holds, rests.confined, rests.word, by omega⟩

-- The records of the slot that is not active count for nothing.
theorem holds_elsewhere (s t : Snapshot) (sb : SuperBlock) (coveredSeq : Nat) (entries : List IndexEntry) (ready : SnapshotReady s sb)
    (holds : SnapshotHolds s (sb.wide s.slotSize) coveredSeq entries) (same : t = { s with dev := t.dev })
    (size : t.dev.sizeBytes = s.dev.sizeBytes)
    (agree : ∀ o, (o < s.slotOff s.target + 4096 ∨ s.slotOff s.target + s.slotSize ≤ o) → t.dev.medium.cur o = s.dev.medium.cur o) :
    SnapshotHolds t (sb.wide t.slotSize) coveredSeq entries := by
  have large := (ready_aligned s sb ready).1
  have off (slot : Slot) : t.slotOff slot = s.slotOff slot := by
    rw [same]
    cases slot <;> rfl
  have outside (slot : Slot) (apart : slot ≠ s.target) (o : Nat) (lower : s.slotOff slot ≤ o) (upper : o < s.slotOff slot + s.slotSize) :
      t.dev.medium.cur o = s.dev.medium.cur o := by
    have disjoint := slots_apart s sb ready s.target
    rw [← other_of_ne slot s.target apart] at disjoint
    exact agree o (by omega)
  have headers (slot : Slot) : t.headerAt slot = s.headerAt slot := by
    unfold Snapshot.headerAt
    rw [off]
    refine congrArg SnapshotSlotHeader.ofBytes (read_congr _ _ _ _ fun i below => ?_)
    by_cases here : slot = s.target
    · rw [here]
      exact agree _ (by omega)
    · exact outside slot here _ (by omega) (by omega)
  have oks (h : SnapshotSlotHeader) : t.slotOk h = s.slotOk h := by
    rw [same]
    rfl
  have slotSize : t.slotSize = s.slotSize := by rw [same]
  rw [slotSize]
  cases holds with
  | never inactive gen covered count dead =>
      refine .never (by rw [same]; exact inactive) (by rw [same]; exact gen) (by rw [same]; exact covered) (by rw [same]; exact count)
        fun slot => ?_
      rw [headers, oks]
      exact dead slot
  | held slot h _ _ active there fits verified uuid gen covered count bound older =>
      have apart := active_not_target s slot active
      refine .held slot h coveredSeq entries (by rw [same]; exact active) ⟨?_, ?_, ?_, there.short⟩ fits verified
        (by rw [same]; exact uuid) (by rw [same]; exact gen) (by rw [same]; exact covered) (by rw [same]; exact count) bound ?_
      · rw [off, ← there.header]
        exact read_congr _ _ _ _ fun i below => outside slot apart _ (by omega) (by omega)
      · rw [off, ← there.records]
        rw [wide_count] at bound
        exact read_congr _ _ _ _ fun i below => outside slot apart _ (by omega) (by omega)
      · rw [off, size]
        exact there.inside
      · rw [headers, oks]
        exact older

-- The call a thread makes on its snapshot.
def scanCall (opts : Options) (env : ScanEnv) (coveredSeq : Nat) (index : MetaIndex) : SnapshotCall where
  opts := opts
  env := env.toSnapshotEnv
  coveredSeq := coveredSeq
  entries := env.walk.order index
  code := Err.kSuccess

theorem scan_call_run (opts : Options) (env : ScanEnv) (coveredSeq : Nat) (index : MetaIndex) (s : Snapshot) :
    (scanCall opts env coveredSeq index).run s = s.write opts env.toSnapshotEnv coveredSeq (index.forEach env.walk) := by
  unfold SnapshotCall.run
  rw [show (scanCall opts env coveredSeq index).code = Err.kSuccess from rfl, scanning_success]
  rfl

section Calls

variable (sb : SuperBlock) (s : Snapshot) (coveredSeq : Nat) (entries : List IndexEntry) (writes : Nat)
  (rests : SnapshotRests sb s coveredSeq entries writes) (c : SnapshotCall)

include rests

-- On a device that does not fail only the records can keep a Write from
-- succeeding, and then its header is not written.
theorem rest_failed_records (failed : (c.run s).1 ≠ Err.kSuccess) : Written s.dev (c.run s).2.dev s.RecordArea := by
  have ran := run_ran c s
  have healthy := rests.ready.healthy
  have large := (ready_aligned s sb rests.ready).1
  have inside := (slot_inside s sb rests.ready s.target).2
  have drained := written_driven _ _ _ (drained_written c s)
  have drainedHealthy := driven_healthy _ _ _ drained healthy
  have room : s.slotOff s.target + ((s.header c.coveredSeq (c.drained s).2.count (~~~ (c.drained s).2.crc) c.env.now).toBytes).length ≤
      (c.drained s).2.dev.sizeBytes := by
    rw [header_bytes_length, (driven_same _ _ _ drained).1]
    omega
  have headed := healthy_write (c.drained s).2.dev _ _ drainedHealthy room
  have fine : (c.headed s).1 = Err.kSuccess := congrArg Prod.fst headed
  have after : (c.headed s).2.Healthy := by
    show ((c.drained s).2.dev.writeAt _ _).2.Healthy
    rw [headed]
    exact healthy_record _ _ drainedHealthy
  generalize (c.run s).1 = rc at ran failed
  generalize (c.run s).2 = last at ran
  cases ran with
  | refused => exact written_refl s.dev _
  | scan => exact scanned_written c s
  | drain => exact drained_written c s
  | overrun => exact drained_written c s
  | header _ _ _ bad => exact absurd fine bad
  | sync _ _ _ _ bad => exact absurd (congrArg Prod.fst (healthy_sync _ after)) bad
  | done => exact absurd rfl failed

theorem rest_failed (failed : (c.run s).1 ≠ Err.kSuccess) : SnapshotRests sb (c.run s).2 coveredSeq entries writes := by
  have same := run_failed c s failed
  have records := rest_failed_records sb s coveredSeq entries writes rests c failed
  have size := (driven_same _ _ _ (written_driven _ _ _ records)).1
  have outside (o : Nat) (away : o < s.slotOff s.target + 4096 ∨ s.slotOff s.target + s.slotSize ≤ o) :
      (c.run s).2.dev.medium.cur o = s.dev.medium.cur o := by
    refine driven_outside _ _ _ (written_driven _ _ _ records) o fun offset buf area => ?_
    have lower := area.1
    have upper := area.2
    unfold kSnapshotSlotHeaderSize at lower
    omega
  have versions : ∀ v ∈ (c.run s).2.dev.medium.versions, ∀ o, (o < s.slotOff s.target + 4096 ∨ s.slotOff s.target + s.slotSize ≤ o) →
      v o = s.dev.medium.cur o := by
    refine (written_traced _ _ _ (fun m => ∀ v ∈ m.versions, ∀ o, (o < s.slotOff s.target + 4096 ∨ s.slotOff s.target + s.slotSize ≤ o) →
      v o = s.dev.medium.cur o) records rests.confined ?_).2
    intro m img kept area v member o away
    obtain ⟨offset, buf, ⟨lower, upper⟩, away'⟩ := area
    unfold kSnapshotSlotHeaderSize at lower
    rw [medium_versions_put] at member
    rcases List.mem_cons.mp member with rfl | old
    · rw [away' o (by omega)]
      exact kept _ (medium_cur_mem m) o away
    · exact kept v old o away
  have target : (c.run s).2.slotOff (c.run s).2.target = s.slotOff s.target := by
    rw [same]
    unfold Snapshot.target
    simp only
    cases s.activeSlot with
    | none => rfl
    | some slot => cases slot <;> rfl
  have slotSize : (c.run s).2.slotSize = s.slotSize := by rw [same]
  refine ⟨run_ready c s sb rests.ready, holds_elsewhere s _ sb coveredSeq entries rests.ready rests.holds same size outside, ?_, ?_, ?_⟩
  · intro v member o away
    rw [target, slotSize] at away
    rw [outside o away]
    exact versions v member o away
  · rw [size]
    exact rests.word
  · rw [same]
    exact rests.gen

theorem rest_done (covered : c.coveredSeq < 2 ^ 64) (gens : writes + 2 < 2 ^ 64) (done : (c.run s).1 = Err.kSuccess) :
    SnapshotRests sb (c.run s).2 c.coveredSeq c.entries (writes + 1) := by
  have ready := rests.ready
  have gen := rests.gen
  have word := rests.word
  obtain ⟨large, aligned⟩ := ready_aligned s sb ready
  have inside := (slot_inside s sb ready .a).2
  have wrote := run_wrote c s done
  have room := run_room c s large done
  have count : c.entries.length ≤ (sb.wide s.slotSize).blockCount := by
    rw [wide_count]
    omega
  have held := wrote_holds s _ (sb.wide s.slotSize) c.coveredSeq coveredSeq c.env.now c.entries entries (ready_wide s sb ready) rests.holds wrote
    count covered (by omega) (wide_bytes sb s.slotSize s.dev.sizeBytes (by omega) word)
  have next : (c.run s).2.nextGen = s.nextGen + 1 := by
    rw [wrote.fields]
    exact Nat.mod_eq_of_lt (by omega)
  refine ⟨run_ready c s sb ready, ?_, ?_, ?_, by omega⟩
  · rw [(run_layout c s).2.2.1]
    exact held
  · intro v member o _
    unfold Medium.versions at member
    rw [wrote.synced, List.mem_singleton] at member
    rw [member]
  · rw [wrote.device.size]
    exact word

omit rests in
theorem rests_created (dev : RawDevice) (opts : Options) (env : SnapshotEnv) (word : dev.sizeBytes < 2 ^ 64)
    (outcomes : dev.outcomes = []) (readable : ∀ k, dev.unreadable k = false) (mode : opts.create = true)
    (opened : (Snapshot.unopened dev).openSnapshot opts env sb = (Err.kSuccess, s)) : SnapshotRests sb s 0 [] 0 := by
  have standing := created_standing sb dev opts env s word outcomes readable mode opened
  refine ⟨standing.ready, standing.holds, ?_, standing.word, Nat.le_of_eq standing.gen⟩
  intro v member o _
  unfold Medium.versions at member
  rw [standing.clean, List.mem_singleton] at member
  rw [member]

-- The next process finds what this one has left, also when power was lost.
theorem rests_reopen (img : Image) (alive : s.dev.medium.Survives kSectorSize img) (opts : Options) (env : SnapshotEnv) (dev : RawDevice)
    (carried : CarriedOver (s.dev.reboot img) dev) (durable : dev.medium.unsynced = []) (mode : opts.create = false)
    (usable : Usable opts env) (gens : writes + 2 < 2 ^ 64) :
    ∃ next, (Snapshot.unopened dev).openSnapshot opts env sb = (Err.kSuccess, next) ∧ next.lastCoveredSeq = coveredSeq ∧
      (∀ (σ : Type) (visitor : MetaIndexVisitor σ) (st : σ), next.load opts env visitor st = visitAll visitor st entries) ∧
      SnapshotRests sb next coveredSeq entries writes := by
  have ready := rests.ready
  have gen := rests.gen
  have word := rests.word
  have inside := (slot_inside s sb ready .a).2
  have outside (o : Nat) (away : o < s.slotOff s.target + 4096 ∨ s.slotOff s.target + s.slotSize ≤ o) : img o = s.dev.medium.cur o := by
    obtain ⟨v, member, same⟩ := alive (o / kSectorSize)
    rw [same o rfl]
    exact rests.confined v member o away
  have held := holds_elsewhere s (s.crashed img) sb coveredSeq entries ready rests.holds rfl rfl outside
  have ready' : SnapshotReady (s.crashed img) sb :=
    ⟨⟨rfl, rfl, ready.healthy.readable⟩, ready.slotA, ready.slotB, ready.size, ready.pos, ready.capacity, ready.uuid⟩
  have carried' : CarriedOver (s.crashed img).dev dev := ⟨carried.closed, carried.size, carried.cur, carried.outcomes, carried.readable⟩
  have size := ready'.size
  have capacity := ready'.capacity
  rw [size, ← carried'.size] at capacity
  obtain ⟨next, opened, reopened, nextReady, nextHeld⟩ := snapshot_reopens (s.crashed img) (sb.wide (s.crashed img).slotSize) opts env dev
    coveredSeq entries (ready_wide _ sb ready') held carried' mode (usable_buffered opts env usable) (usable.alloc _) (by
      show s.nextGen < _
      omega)
  have delivered := held_delivered next _ opts env coveredSeq entries nextReady nextHeld usable
    (wide_bytes sb s.slotSize s.dev.sizeBytes (by omega) word)
  have nextSize : next.slotSize = s.slotSize := by
    rw [nextReady.size, reopened.device]
    show snapshotSlotSize dev.sizeBytes = _
    rw [carried.size]
    exact ready.size.symm
  refine ⟨next, ?_, delivered.covered, delivered.loads, ⟨?_, ?_, ?_, ?_, ?_⟩⟩
  · rw [open_wide opts env sb dev carried.closed capacity, carried'.size, ← size]
    exact opened
  · have uuid := nextReady.uuid
    rw [wide_uuid] at uuid
    refine ⟨nextReady.healthy, nextReady.slotA, nextReady.slotB, nextReady.size, nextReady.pos, ?_, uuid⟩
    rw [nextSize]
    exact ready.capacity
  · rw [nextSize]
    exact nextHeld
  · intro v member o _
    unfold Medium.versions at member
    rw [reopened.device] at member ⊢
    rw [durable, List.mem_singleton] at member
    rw [member]
  · rw [reopened.device]
    show dev.sizeBytes < _
    rw [carried.size]
    exact word
  · rw [reopened.gen]
    exact gen

end Calls

end Cabe
