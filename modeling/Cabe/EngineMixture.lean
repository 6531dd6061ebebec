import Mathlib.Data.List.Flatten
import Cabe.EngineIdentity

set_option autoImplicit false

namespace Cabe

open Storage

theorem clear_durable (s : Snapshot) (env : SnapshotEnv) (done : (s.clear env).1 = Err.kSuccess) :
    (s.clear env).2.dev.medium.unsynced = [] := by
  unfold Snapshot.clear at done ⊢
  split at done
  · exact absurd (show Err.kSnapshotWriteFailed = Err.kSuccess from done) (by decide)
  · rename_i granted
    rw [if_neg granted]
    cases first : s.dev.writeAt s.slotAOff (zeros kSnapshotSlotHeaderSize) with
    | mk wa one =>
    simp only [first] at done ⊢
    cases second : one.writeAt s.slotBOff (zeros kSnapshotSlotHeaderSize) with
    | mk wb two =>
    simp only [second] at done ⊢
    by_cases failed : wa ≠ Err.kSuccess ∨ wb ≠ Err.kSuccess
    · simp only [if_pos failed] at done
      exact absurd (show Err.kSnapshotWriteFailed = Err.kSuccess from done) (by decide)
    · simp only [if_neg failed] at done ⊢
      by_cases refused : two.sync.1 ≠ Err.kSuccess
      · rw [if_pos refused] at done
        exact absurd (show Err.kSnapshotWriteFailed = Err.kSuccess from done) (by decide)
      · rw [if_neg refused]
        show two.sync.2.medium.unsynced = []
        rw [(sync_ok two (not_not.mp refused)).2]
        rfl

theorem created_snapshot_durable (dev : RawDevice) (opts : Options) (env : SnapshotEnv) (sb : SuperBlock) (next : Snapshot)
    (mode : opts.create = true) (done : (Snapshot.unopened dev).openSnapshot opts env sb = (Err.kSuccess, next)) :
    next.dev.medium.unsynced = [] := by
  unfold Snapshot.openSnapshot RawDevice.openDevice at done
  cases closed : (Snapshot.unopened dev).dev.isOpen with
  | true => simp [closed, Err.kIoBase, Err.kSuccess] at done
  | false =>
      simp only [closed, Bool.false_eq_true, if_false, ne_eq, not_true_eq_false, mode, if_true] at done
      split at done
      · exact absurd (congrArg Prod.fst done) (show Err.kDeviceTooSmall ≠ Err.kSuccess by decide)
      · split at done
        · exact absurd (congrArg Prod.fst done) (show Err.kDeviceTooSmall ≠ Err.kSuccess by decide)
        · have durable := clear_durable _ env (congrArg Prod.fst done)
          rw [done] at durable
          exact durable

-- A ring without a frame brings back nothing.
theorem fresh_ring_recovers {σ : Type} (dev : RawDevice) (opts : Options) (w : Wal) (fresh : FreshDevice dev) (mode : opts.create = false)
    (opened : JustOpened dev opts w) (allocated : Allocated w) (pos : 0 < w.bufSize) (fn : WalReplayFn σ) (st : σ) :
    (w.recover 0 fn st).rc = Err.kSuccess ∧ (w.recover 0 fn st).st = st := by
  obtain ⟨g, bufBlocks, accepts⟩ := open_accepts dev opts w opened allocated pos
  have blank := fresh_blank g dev fresh accepts.ring
  have fresh' := fresh_opened dev opts w fresh opened
  have buffer := opened.buffer
  rw [if_neg (by simp [mode])] at buffer
  have many : 32 ≤ g.slots := by
    have := g.blocks_pos
    unfold Ring.slots
    omega
  have placed : Placed g [] 0 w.dev.medium.cur := by
    refine ⟨fun p bound valid => ?_, Nat.le_refl _, by decide, fun e member => by cases member⟩
    have zero : slotBytes w.dev.medium.cur p = zeros 128 := by
      rw [opened.device]
      exact blank p bound
    rw [slotFrame, zero, verify_zeros] at valid
    cases valid
  have ready := open_readable g bufBlocks dev opts w accepts opened fresh.readable
  have idle := recover_idle g bufBlocks [] 0 0 w
    ⟨⟨ready, placed, by omega⟩, .inl rfl, fun v _ below => absurd below (Nat.not_lt_zero v)⟩ buffer
    ⟨ready.opened, fresh'.succeeds, fresh'.readable⟩ fresh'.durable many fn st (fun v _ here => absurd here.1 (Nat.not_lt_zero v))
  rw [idle]
  exact ⟨rfl, rfl⟩

-- A group as the create that made it has left it, closed.
structure DeviceGroup.Made (call : GroupCall) (g : DeviceGroup) : Prop where
  on : call.On g
  rested : g.Rested
  dataSize : g.data.sizeBytes = 8192 + 4096 * 512
  walSize : g.wal.sizeBytes = 8192 + 4096 * 2
  ring : FreshDevice g.wal
  blocks : call.blockCount = 2
  empty : ∃ s, SnapshotReady s call.dataSb.summary ∧ SnapshotHolds s call.dataSb.summary 0 [] ∧ CarriedOver s.dev g.snapshot ∧ s.nextGen = 1

theorem stamped_behind (d : RawDevice) (sb : DiskSuperBlock) (o : Nat) (behind : 8192 ≤ o) : (d.stamped sb).medium.cur o = d.medium.cur o := by
  have length := super_block_bytes_length sb
  show write (write d.medium.cur 4096 sb.toBytes) 0 sb.toBytes o = d.medium.cur o
  rw [write_outside _ _ _ _ (by omega), write_outside _ _ _ _ (by omega)]

theorem two_blocks_open (d : RawDevice) (closed : d.isOpen = false) (size : d.sizeBytes = 8192 + 4096 * 512) :
    SyncIoBackend.openIo ⟨d, 0⟩ = (Err.kSuccess, ⟨d.opened, 2⟩) := by
  simp [SyncIoBackend.openIo, RawDevice.openDevice, closed, size, kDataRegionOffset, kValueSize, RawDevice.opened]

theorem blank_ring_size (d : RawDevice) (size : d.sizeBytes = 8192 + 4096 * 2) : 4096 * 1 + 4096 ≤ walRingSize d.sizeBytes := by
  rw [size]
  decide

def steadyCreateEnv (uuids : GroupUuids) : CreateEnv := ⟨fun _ => true, some uuids, 0⟩

def steadyRound (uuids : GroupUuids) : RoundEnv := ⟨steadyCreateEnv uuids, plainOpenEnv⟩

def GroupCall.stampedOn (call : GroupCall) (g : DeviceGroup) : DeviceGroup :=
  ⟨g.data.stamped call.dataSb, g.wal.stamped call.walSb, g.snapshot.stamped call.snapSb⟩

theorem summary_blocks (call : GroupCall) (blocks : call.blockCount = 2) : call.dataSb.summary.blockCount = 2 := by
  show call.blockCount.toNat = 2
  rw [blocks]
  rfl

theorem blank_device_created (call : GroupCall) (blocks : call.blockCount = 2) :
    ∃ dc, openDevice (plainOptions true 1) plainOpenEnv call.dataSb.summary (call.stampedOn blankGroup) = (Err.kSuccess, dc) ∧
      dc.released.data = blankGroup.data.stamped call.dataSb ∧ dc.released.wal = blankGroup.wal.stamped call.walSb ∧
      dc.released.snapshot.Rested ∧ ∃ s, SnapshotReady s call.dataSb.summary ∧ SnapshotHolds s call.dataSb.summary 0 [] ∧
        CarriedOver s.dev dc.released.snapshot ∧ s.nextGen = 1 := by
  have walRested := stamped_rested blankGroup.wal call.walSb blank_group_rested.wal
  have snapRested := stamped_rested blankGroup.snapshot call.snapSb blank_group_rested.snapshot
  have count := summary_blocks call blocks
  have room : 4096 + alignUp (2 * 128) 4096 ≤ snapshotSlotSize (8192 + 4096 * 4) := by decide
  obtain ⟨wal, walOpened, _⟩ := plain_open (blankGroup.wal.stamped call.walSb) true 1 rfl (by decide) (by decide)
    (blank_ring_size _ rfl)
  obtain ⟨snapshot, snapOpened, ready, holds, _, gen⟩ := snapshot_created call.dataSb.summary (plainOptions true 1)
    plainOpenEnv.toSnapshotEnv (blankGroup.snapshot.stamped call.snapSb) rfl snapRested.succeeds snapRested.readable rfl rfl
    (by rw [count]; exact room)
  have opened := open_device_created (plainOptions true 1) plainOpenEnv call.dataSb.summary (call.stampedOn blankGroup) _ wal snapshot rfl
    (two_blocks_open (blankGroup.data.stamped call.dataSb) rfl rfl) (by rw [count]) walOpened snapOpened
  have just := open_wal_success _ _ wal walOpened
  have durable := created_snapshot_durable _ (plainOptions true 1) _ _ snapshot rfl snapOpened
  refine ⟨_, opened, opened_close _ (stamped_rested blankGroup.data call.dataSb blank_group_rested.data), ?_,
    ⟨rfl, ready.healthy.succeeds, ready.healthy.readable, durable⟩,
    snapshot, ready, holds, ⟨rfl, rfl, rfl, ready.healthy.succeeds, ready.healthy.readable⟩, gen⟩
  show wal.dev.close.2 = _
  rw [just.device]
  exact opened_close _ walRested

theorem made_blank (call : GroupCall) (g : DeviceGroup) (blocks : call.blockCount = 2) (on : call.On g)
    (data : g.data = blankGroup.data.stamped call.dataSb) (wal : g.wal = blankGroup.wal.stamped call.walSb) (snapshot : g.snapshot.Rested)
    (empty : ∃ s, SnapshotReady s call.dataSb.summary ∧ SnapshotHolds s call.dataSb.summary 0 [] ∧ CarriedOver s.dev g.snapshot ∧
      s.nextGen = 1) : g.Made call := by
  have walRested := stamped_rested blankGroup.wal call.walSb blank_group_rested.wal
  refine ⟨on, ⟨?_, ?_, snapshot⟩, by rw [data]; rfl, by rw [wal]; rfl, ?_, blocks, empty⟩
  · rw [data]
    exact stamped_rested blankGroup.data call.dataSb blank_group_rested.data
  · rw [wal]
    exact walRested
  · rw [wal]
    refine ⟨walRested.succeeds, walRested.readable, walRested.durable, fun o behind _ => ?_⟩
    rw [stamped_behind _ _ o behind]
    rfl

theorem empty_loads {σ : Type} (s : Snapshot) (sb : SuperBlock) (opts : Options) (env : SnapshotEnv) (visitor : MetaIndexVisitor σ) (st : σ)
    (ready : SnapshotReady s sb) (holds : SnapshotHolds s sb 0 []) :
    s.load opts env visitor st = (Err.kSuccess, st) ∧ s.lastCoveredSeq = 0 := by
  unfold Snapshot.load
  rw [if_neg (by rw [ready.healthy.opened]; exact Bool.noConfusion)]
  cases holds with
  | never inactive _ covered _ _ =>
      rw [inactive]
      exact ⟨rfl, covered⟩
  | held slot h _ _ active _ _ _ _ _ covered count _ _ =>
      rw [active]
      exact ⟨if_pos count, covered⟩

theorem empty_allocator_rebuilt (dc : DeviceContext) (empty : dc.metaIndex = ∅) : (dc.rebuildAllocator entryWalk).1 = Err.kSuccess := by
  unfold DeviceContext.rebuildAllocator
  rw [empty]
  rfl

theorem open_device_recovers (opts : Options) (env : OpenEnv) (sb : SuperBlock) (group : DeviceGroup) (io : SyncIoBackend)
    (mode : opts.create = false) (ioOpened : SyncIoBackend.openIo ⟨group.data, 0⟩ = (Err.kSuccess, io)) (count : sb.blockCount ≤ io.blockCount) :
    openDevice opts env sb group = recoverDevice opts env (baseContext sb group io) := by
  unfold openDevice
  simp only [ioOpened, ne_eq, not_true_eq_false, if_false]
  rw [if_neg (by omega), if_neg (by rw [mode]; exact Bool.noConfusion)]
  rfl

theorem made_device_recovers (call : GroupCall) (g : DeviceGroup) (made : g.Made call) :
    ∃ dc, openDevice (plainOptions false 1) plainOpenEnv call.dataSb.summary g = (Err.kSuccess, dc) := by
  have count := summary_blocks call made.blocks
  obtain ⟨s, ready, holds, carried, gen⟩ := made.empty
  obtain ⟨next, snapOpened, _, nextReady, nextHolds⟩ := snapshot_reopens s call.dataSb.summary (plainOptions false 1)
    plainOpenEnv.toSnapshotEnv g.snapshot 0 [] ready holds carried rfl ⟨by decide, rfl⟩ rfl (by rw [gen]; decide)
  obtain ⟨loaded, covered⟩ := empty_loads next call.dataSb.summary (plainOptions false 1) plainOpenEnv.toSnapshotEnv
    (applyRecoveredEntry call.dataSb.summary) ∅ nextReady nextHolds
  obtain ⟨wal, walOpened, size⟩ := plain_open g.wal false 1 made.rested.wal.closed (by decide) (by decide) (blank_ring_size _ made.walSize)
  obtain ⟨replayed, kept⟩ := fresh_ring_recovers g.wal (plainOptions false 1) wal made.ring rfl (open_wal_success _ _ wal walOpened)
    (by unfold Allocated; omega) (by omega) (applyWalEntry call.dataSb.summary) ∅
  rw [← covered] at replayed kept
  rw [open_device_recovers _ _ _ g _ rfl (two_blocks_open g.data made.rested.data.closed made.dataSize) (by rw [count])]
  have done := recover_device_done (plainOptions false 1) plainOpenEnv (baseContext call.dataSb.summary g ⟨g.data.opened, 2⟩) next ∅ wal
    snapOpened loaded walOpened replayed (empty_allocator_rebuilt _ kept) rfl
  exact ⟨_, Prod.ext done rfl⟩

theorem made_holds (call : GroupCall) (g : DeviceGroup) (made : g.Made call) : Holds call g := by
  obtain ⟨s, ready, _, carried, _⟩ := made.empty
  have room := slot_size_fits s.dev.sizeBytes (by rw [← ready.size]; exact ready.pos)
  rw [← carried.size, kDataRegionOffset] at room
  refine ⟨?_, ?_, fun pos place => bears_copy _ _ made.on.data pos place, fun pos place => bears_copy _ _ made.on.wal pos place,
    fun pos place => bears_copy _ _ made.on.snapshot pos place⟩
  · simp only [DeviceGroup.tooSmall, made.dataSize, made.walSize, kDataRegionOffset, kValueSize, Bool.or_eq_false_iff, decide_eq_false_iff_not]
    exact ⟨by omega, decide_eq_false (by omega)⟩
  · rw [made.blocks, DeviceGroup.blocks, made.dataSize]
    decide

section Rounds

variable {Path : Type} [DecidableEq Path]

theorem blank_round_creates (uuids : GroupUuids) (deviceId deviceCount : UInt64) (c : DeviceConfig Path) (w : World Path)
    (distinct : c.paths.Nodup) (blank : w.group c = blankGroup) :
    ∃ dc next, openRound (plainOptions true 1) (steadyRound uuids) deviceId deviceCount c w = (.ok dc, next) ∧
      (next.group c).Made (blankGroup.call uuids 0 deviceId deviceCount) ∧ ∀ p ∉ c.paths, next p = w p := by
  have blocks : (blankGroup.call uuids 0 deviceId deviceCount).blockCount = 2 := show UInt64.ofNat blankGroup.blocks = 2 by decide
  rcases create_cases (steadyCreateEnv uuids) deviceId deviceCount blankGroup uuids blank_group_rested rfl with
    ⟨_, _, small | refused⟩ | ⟨_, made⟩
  · exact absurd small (by decide)
  · exact absurd (show true = false from refused) (by decide)
  rw [show (steadyCreateEnv uuids).now = 0 from rfl] at made
  generalize call_ : blankGroup.call uuids 0 deviceId deviceCount = call at made blocks
  obtain ⟨dc, opened, data, wal, snapshot, empty⟩ := blank_device_created call blocks
  have done : openRound (plainOptions true 1) (steadyRound uuids) deviceId deviceCount c w = (.ok dc, w.store c dc.released) := by
    unfold openRound
    rw [if_pos (show (plainOptions true 1).create = true from rfl), blank, show (steadyRound uuids).create = steadyCreateEnv uuids from rfl,
      made]
    simp only
    rw [show (steadyRound uuids).device = plainOpenEnv from rfl]
    rw [GroupCall.stampedOn] at opened
    rw [opened]
    rfl
  obtain ⟨on, kept⟩ := round_creates _ _ uuids _ _ c w _ dc rfl rfl distinct done
  rw [blank, show (steadyRound uuids).create.now = 0 from rfl, call_, store_own w c _ distinct] at on
  refine ⟨dc, _, done, ?_, kept⟩
  rw [store_own w c _ distinct]
  exact made_blank call _ blocks on data wal snapshot empty

theorem made_round_recovers (uuids : GroupUuids) (call : GroupCall) (c : DeviceConfig Path) (w : World Path) (made : (w.group c).Made call) :
    ∃ dc next, openRound (plainOptions false 1) (steadyRound uuids) call.deviceId call.deviceCount c w = (.ok dc, next) ∧
      ∀ p ∉ c.paths, next p = w p := by
  have found := holds_recovers call (w.group c) (steadyCreateEnv uuids).alloc made.rested (made_holds call _ made) rfl
  obtain ⟨dc, opened⟩ := made_device_recovers call (w.group c) made
  refine ⟨dc, w.store c dc.released, ?_, fun p other => store_other w c _ p other⟩
  unfold openRound
  rw [if_neg (show ¬ (plainOptions false 1).create = true from Bool.noConfusion),
    show (steadyRound uuids).create.alloc = (steadyCreateEnv uuids).alloc from rfl, found]
  simp only
  rw [show (steadyRound uuids).device = plainOpenEnv from rfl, opened]
  rfl

omit [DecidableEq Path] in
theorem group_kept (c : DeviceConfig Path) (w next : World Path) (same : ∀ p ∈ c.paths, next p = w p) : next.group c = w.group c := by
  rw [World.group, World.group, same _ (by simp [DeviceConfig.paths]), same _ (by simp [DeviceConfig.paths]),
    same _ (by simp [DeviceConfig.paths])]

-- Rounds on disjoint groups do not disturb each other.
theorem loop_runs (opts : Options) (env : Nat → RoundEnv) (deviceCount : UInt64) (before after : Nat → DeviceGroup → Prop)
    (round : ∀ i (c : DeviceConfig Path) (w : World Path), c.paths.Nodup → before i (w.group c) →
      ∃ dc next, openRound opts (env i) (UInt64.ofNat i) deviceCount c w = (.ok dc, next) ∧ after i (next.group c) ∧
        ∀ p ∉ c.paths, next p = w p)
    (devices : List (DeviceConfig Path)) : ∀ (i : Nat) (w : World Path), (devices.flatMap DeviceConfig.paths).Nodup →
      (∀ k (bound : k < devices.length), before (i + k) (w.group devices[k])) →
      ∃ dcs next, openLoop opts env deviceCount i devices w = (.ok dcs, next) ∧
        (∀ k (bound : k < devices.length), after (i + k) (next.group devices[k])) ∧
        ∀ p ∉ devices.flatMap DeviceConfig.paths, next p = w p := by
  induction devices with
  | nil => exact fun i w _ _ => ⟨[], w, rfl, fun k bound => absurd bound (Nat.not_lt_zero k), fun _ _ => rfl⟩
  | cons c rest ih =>
      intro i w distinct ready
      rw [List.flatMap_cons, List.nodup_append] at distinct
      obtain ⟨own, later, apart⟩ := distinct
      obtain ⟨dc, middle, first, made, kept⟩ := round i c w own (ready 0 (Nat.zero_lt_succ _))
      have still (k : Nat) (bound : k < rest.length) : middle.group rest[k] = w.group rest[k] :=
        group_kept _ _ _ fun p member => kept p fun again =>
          apart p again p (List.mem_flatMap.mpr ⟨rest[k], List.getElem_mem bound, member⟩) rfl
      obtain ⟨dcs, next, more, others, left⟩ := ih (i + 1) middle later fun k bound => by
        rw [still k bound, Nat.add_assoc, Nat.add_comm 1 k]
        exact ready (k + 1) (Nat.succ_lt_succ bound)
      refine ⟨dc :: dcs, next, ?_, fun k bound => ?_, fun p outside => ?_⟩
      · rw [openLoop, first]
        simp only [more]
      · cases k with
        | zero =>
            rw [List.getElem_cons_zero, group_kept c middle next fun p member => left p fun again => apart p member p again rfl]
            exact made
        | succ k =>
            have here := others k (Nat.lt_of_succ_lt_succ bound)
            rw [Nat.add_assoc, Nat.add_comm 1 k] at here
            exact here
      · rw [List.flatMap_cons, List.mem_append, not_or] at outside
        rw [left p outside.2, kept p outside.1]

end Rounds

-- Groups in a line, all blank at first: engine after engine takes the next ones.
abbrev LinePath : Type := Nat × DeviceType

def lineConfig (k : Nat) : DeviceConfig LinePath := ⟨(k, .data), (k, .wal), (k, .snapshot)⟩

def lineWorld : World LinePath := fun p =>
  match p.2 with
  | .data => blankGroup.data
  | .wal => blankGroup.wal
  | .snapshot => blankGroup.snapshot

def lineUuid (n : Nat) : Uuid := ⟨(leBytes 16 n).toArray, by rw [List.size_toArray, leBytes_length]⟩

def lineUuids (k : Nat) : GroupUuids := ⟨lineUuid (4 * k), lineUuid (4 * k + 1), lineUuid (4 * k + 2), lineUuid (4 * k + 3)⟩

def lineEnv (start : Nat) : Nat → RoundEnv := fun i => steadyRound (lineUuids (start + i))

def lineGroup (start n i : Nat) : CreatedGroup LinePath :=
  ⟨lineConfig (start + i), blankGroup.call (lineUuids (start + i)) 0 (UInt64.ofNat i) (UInt64.ofNat n)⟩

def lineGroups (start n : Nat) : List (CreatedGroup LinePath) := (List.range n).map (lineGroup start n)

def lineEngines : Nat → List Nat → List (List (CreatedGroup LinePath))
  | _, [] => []
  | start, n :: rest => lineGroups start n :: lineEngines (start + n) rest

theorem line_engines_append (counts more : List Nat) : ∀ start,
    lineEngines start (counts ++ more) = lineEngines start counts ++ lineEngines (start + counts.sum) more := by
  induction counts with
  | nil => exact fun start => rfl
  | cons n rest ih =>
      intro start
      rw [List.cons_append, lineEngines, lineEngines, ih, List.cons_append, List.sum_cons, Nat.add_assoc]

theorem line_lengths (counts : List Nat) : ∀ start, (lineEngines start counts).map List.length = counts := by
  induction counts with
  | nil => exact fun start => rfl
  | cons n rest ih =>
      intro start
      rw [lineEngines, List.map_cons, ih, lineGroups, List.length_map, List.length_range]

-- All groups in a row are the groups of the line.
theorem line_flatten {α : Type} (counts : List Nat) (f : CreatedGroup LinePath → α) (g : Nat → α)
    (same : ∀ start n i, f (lineGroup start n i) = g (start + i)) :
    ∀ start, (lineEngines start counts).flatten.map f = (List.range' start counts.sum).map g := by
  induction counts with
  | nil => exact fun start => rfl
  | cons n rest ih =>
      intro start
      rw [lineEngines, List.flatten_cons, List.map_append, ih, List.sum_cons, ← List.range'_append_1, List.map_append, lineGroups, List.map_map,
        show List.range' start n = (List.range n).map (start + ·) from List.range'_eq_map_range, List.map_map]
      congr 1
      apply List.map_congr_left
      intro i _
      exact same start n i

theorem line_paths_distinct (counts : List Nat) (start : Nat) :
    (((lineEngines start counts).flatten.map CreatedGroup.config).flatMap DeviceConfig.paths).Nodup := by
  rw [line_flatten counts CreatedGroup.config lineConfig (fun _ _ _ => rfl), List.flatMap_map, List.nodup_flatMap]
  constructor
  · intro k _
    simp [DeviceConfig.paths, lineConfig]
  · apply List.Pairwise.imp _ (show (List.range' start counts.sum).Nodup from List.nodup_range')
    intro a b different p first second
    simp only [DeviceConfig.paths, lineConfig, List.mem_cons, List.not_mem_nil, or_false] at first second
    rcases first with rfl | rfl | rfl <;> rcases second with same | same | same <;>
      exact different (congrArg Prod.fst same)

theorem line_uuid_injective (a b : Nat) (smallA : a < 2 ^ 128) (smallB : b < 2 ^ 128) (same : lineUuid a = lineUuid b) : a = b := by
  have bytes : leBytes 16 a = leBytes 16 b := by
    have lists := congrArg Vector.toList same
    simpa [lineUuid] using lists
  have back := congrArg leNat bytes
  rwa [leNat_leBytes_fits 16 a (by omega), leNat_leBytes_fits 16 b (by omega)] at back

theorem line_calls_apart (counts : List Nat) (few : counts.sum ≤ 2 ^ 126) :
    ((lineEngines 0 counts).flatten.map CreatedGroup.call).Pairwise GroupCall.Apart := by
  have uuids := line_flatten counts (fun g => g.call.uuids) lineUuids (fun _ _ _ => rfl) 0
  have apart : ((List.range' 0 counts.sum).map lineUuids).Pairwise fun a b => a.wal ≠ b.wal ∧ a.snapshot ≠ b.snapshot := by
    rw [List.pairwise_map]
    apply List.Pairwise.imp_of_mem _ (show (List.range' 0 counts.sum).Nodup from List.nodup_range')
    intro a b memberA memberB different
    rw [List.mem_range'_1] at memberA memberB
    constructor
    · exact fun same => different (by have := line_uuid_injective _ _ (by omega) (by omega) same; omega)
    · exact fun same => different (by have := line_uuid_injective _ _ (by omega) (by omega) same; omega)
  rw [← uuids, List.pairwise_map] at apart
  rw [List.pairwise_map]
  exact apart

theorem line_path (k : Nat) (p : LinePath) (inside : p ∈ (lineConfig k).paths) : p.1 = k := by
  simp only [DeviceConfig.paths, lineConfig, List.mem_cons, List.not_mem_nil, or_false] at inside
  rcases inside with rfl | rfl | rfl <;> rfl

theorem line_numbered (counts : List Nat) (g : CreatedGroup LinePath) (member : g ∈ (lineEngines 0 counts).flatten) :
    ∃ k < counts.sum, g.config = lineConfig k := by
  have listed : g.config ∈ (lineEngines 0 counts).flatten.map CreatedGroup.config := List.mem_map_of_mem member
  rw [line_flatten counts CreatedGroup.config lineConfig (fun _ _ _ => rfl), List.mem_map] at listed
  obtain ⟨k, inside, same⟩ := listed
  rw [List.mem_range'_1] at inside
  exact ⟨k, by omega, same.symm⟩

theorem line_devices (start n : Nat) (p : LinePath) (inside : p ∈ ((lineGroups start n).map CreatedGroup.config).flatMap DeviceConfig.paths) :
    start ≤ p.1 ∧ p.1 < start + n := by
  obtain ⟨c, member, own⟩ := List.mem_flatMap.mp inside
  obtain ⟨g, memberG, rfl⟩ := List.mem_map.mp member
  obtain ⟨i, bound, rfl⟩ := List.mem_map.mp memberG
  have number := line_path (start + i) p own
  have bound := List.mem_range.mp bound
  omega

theorem line_engine_opens (opts : Options) (env : Nat → RoundEnv) (devices : List (DeviceConfig LinePath)) (n : Nat)
    (w next : World LinePath) (dcs : List DeviceContext) (length : devices.length = n) (sized : 1 ≤ n ∧ n ≤ 256)
    (loop : openLoop opts env (UInt64.ofNat n) 0 devices w = (.ok dcs, next)) : openEngine opts env devices w = (.ok dcs, next) := by
  unfold openEngine
  have some_ : devices.isEmpty = false := by
    cases devices with
    | nil => rw [← length] at sized; exact absurd sized.1 (by decide)
    | cons c rest => rfl
  rw [if_neg (by rw [some_]; exact Bool.noConfusion), if_neg (by omega), length]
  exact loop

theorem line_step (counts : List Nat) (n : Nat) (sized : 1 ≤ n ∧ n ≤ 256) (few : (counts ++ [n]).sum ≤ 2 ^ 126) (w : World LinePath)
    (created : Created w (lineEngines 0 counts)) (blank : ∀ k, counts.sum ≤ k → w.group (lineConfig k) = blankGroup) :
    ∃ next, Created next (lineEngines 0 (counts ++ [n])) ∧ (∀ g ∈ lineGroups counts.sum n, (next.group g.config).Made g.call) ∧
      ∀ p : LinePath, p.1 < counts.sum ∨ counts.sum + n ≤ p.1 → next p = w p := by
  have engines : lineEngines 0 (counts ++ [n]) = lineEngines 0 counts ++ [lineGroups counts.sum n] := by
    rw [line_engines_append, Nat.zero_add]
    rfl
  have flat : (lineEngines 0 (counts ++ [n])).flatten = (lineEngines 0 counts).flatten ++ lineGroups counts.sum n := by
    rw [engines, List.flatten_append, List.flatten_singleton]
  have paths := line_paths_distinct (counts ++ [n]) 0
  have calls := line_calls_apart (counts ++ [n]) few
  rw [flat] at paths calls
  rw [List.map_append] at paths
  generalize start_ : counts.sum = start at *
  have length : ((lineGroups start n).map CreatedGroup.config).length = n := by simp [lineGroups]
  have at_ (k : Nat) (bound : k < ((lineGroups start n).map CreatedGroup.config).length) :
      ((lineGroups start n).map CreatedGroup.config)[k] = lineConfig (start + k) := by
    simp [lineGroups, lineGroup]
  have own := paths
  rw [List.flatMap_append, List.nodup_append] at own
  obtain ⟨dcs, next, loop, made, kept⟩ := loop_runs (plainOptions true 1) (lineEnv start) (UInt64.ofNat n) (fun _ g => g = blankGroup)
    (fun i g => g.Made (blankGroup.call (lineUuids (start + i)) 0 (UInt64.ofNat i) (UInt64.ofNat n)))
    (fun i c w distinct before => blank_round_creates (lineUuids (start + i)) (UInt64.ofNat i) (UInt64.ofNat n) c w distinct before)
    ((lineGroups start n).map CreatedGroup.config) 0 w own.2.1 (fun k bound => by
      rw [at_ k bound]
      exact blank (start + k) (by omega))
  have opened := line_engine_opens _ _ _ n w next dcs length sized loop
  have groups : createdGroups w (lineEnv start) (fun i => lineUuids (start + i)) ((lineGroups start n).map CreatedGroup.config) =
      lineGroups start n := by
    apply List.ext_getElem
    · simp [createdGroups]
    · intro k bound inside
      have small : k < n := by simpa [lineGroups] using inside
      have here := blank (start + k) (by omega)
      simp only [createdGroups, List.getElem_mapIdx]
      rw [at_ k (by rw [length]; exact small), here, length]
      simp only [lineGroups, List.getElem_map, List.getElem_range]
      rfl
  rw [engines]
  have built := Created.create w (lineEngines 0 counts) (plainOptions true 1) (lineEnv start) (fun i => lineUuids (start + i)) _ dcs next
    created rfl (fun i => rfl) paths (by rw [groups]; exact calls) opened
  rw [groups] at built
  refine ⟨next, built, fun g member => ?_, fun p outside => kept p fun inside => ?_⟩
  · obtain ⟨k, bound, rfl⟩ := List.getElem_of_mem member
    have small : k < n := by simpa [lineGroups] using bound
    have here := made k (by rw [length]; exact small)
    rw [at_ k (by rw [length]; exact small), Nat.zero_add] at here
    simpa [lineGroups, lineGroup] using here
  · have place := line_devices start n p inside
    omega

-- Engines of any sizes, one after the other.
theorem line_created (counts : List Nat) (sized : ∀ n ∈ counts, 1 ≤ n ∧ n ≤ 256) (few : counts.sum ≤ 2 ^ 126) :
    ∃ w, Created w (lineEngines 0 counts) ∧ (∀ g ∈ (lineEngines 0 counts).flatten, (w.group g.config).Made g.call) ∧
      ∀ k, counts.sum ≤ k → w.group (lineConfig k) = blankGroup := by
  induction counts using List.reverseRecOn with
  | nil => exact ⟨lineWorld, .none _, by simp [lineEngines], fun k _ => rfl⟩
  | append_singleton counts n ih =>
      have total : (counts ++ [n]).sum = counts.sum + n := by simp
      obtain ⟨w, created, made, blank⟩ := ih (fun m member => sized m (List.mem_append_left _ member)) (by omega)
      obtain ⟨next, built, fresh, kept⟩ := line_step counts n (sized n (by simp)) few w created blank
      refine ⟨next, built, fun g member => ?_, fun k past => ?_⟩
      · rw [line_engines_append, List.flatten_append, Nat.zero_add] at member
        rcases List.mem_append.mp member with old | new
        · obtain ⟨k, bound, same⟩ := line_numbered counts g old
          rw [group_kept g.config w next fun p inside => kept p (.inl (by rw [same] at inside; rw [line_path k p inside]; exact bound))]
          exact made g old
        · exact fresh g (by simpa [lineEngines] using new)
      · rw [group_kept (lineConfig k) w next fun p inside => kept p (.inr (by rw [line_path k p inside]; omega))]
        exact blank k (by omega)

-- Groups of whatever engines, each at its own place in a list as long as its
-- engine.
theorem mixture_opens (w : World LinePath) (groups : List (CreatedGroup LinePath)) (made : ∀ g ∈ groups, (w.group g.config).Made g.call)
    (numbered : ∀ k (bound : k < groups.length), groups[k].call.deviceId = UInt64.ofNat k ∧
      groups[k].call.deviceCount = UInt64.ofNat groups.length)
    (sized : 1 ≤ groups.length ∧ groups.length ≤ 256) (distinct : ((groups.map CreatedGroup.config).flatMap DeviceConfig.paths).Nodup) :
    ∃ dcs next, openEngine (plainOptions false 1) (lineEnv 0) (groups.map CreatedGroup.config) w = (.ok dcs, next) := by
  have length : (groups.map CreatedGroup.config).length = groups.length := List.length_map _
  obtain ⟨dcs, next, loop, _⟩ := loop_runs (plainOptions false 1) (lineEnv 0) (UInt64.ofNat groups.length)
    (fun i g => ∃ call, g.Made call ∧ call.deviceId = UInt64.ofNat i ∧ call.deviceCount = UInt64.ofNat groups.length) (fun _ _ => True)
    (fun i c w _ before => by
      obtain ⟨call, here, id, count⟩ := before
      obtain ⟨dc, next, done, kept⟩ := made_round_recovers (lineUuids (0 + i)) call c w here
      rw [id, count] at done
      exact ⟨dc, next, done, trivial, kept⟩)
    (groups.map CreatedGroup.config) 0 w distinct (fun k bound => by
      rw [length] at bound
      rw [List.getElem_map, Nat.zero_add]
      exact ⟨groups[k].call, made _ (List.getElem_mem bound), numbered k bound⟩)
  exact ⟨dcs, next, line_engine_opens _ _ _ groups.length w next dcs length sized loop⟩

theorem line_configs_distinct (counts : List Nat) : ((lineEngines 0 counts).flatten.map CreatedGroup.config).Nodup := by
  rw [line_flatten counts CreatedGroup.config lineConfig (fun _ _ _ => rfl)]
  exact List.Nodup.map (fun i j equal => congrArg (fun c : DeviceConfig LinePath => c.dataPath.1) equal) List.nodup_range'

theorem line_one_engine (counts : List Nat) (a b : List (CreatedGroup LinePath)) (memberA : a ∈ lineEngines 0 counts)
    (memberB : b ∈ lineEngines 0 counts) (g h : CreatedGroup LinePath) (ofA : g ∈ a) (ofB : h ∈ b) (same : g.config = h.config) : a = b := by
  have distinct := line_configs_distinct counts
  have one : g = h := List.inj_on_of_nodup_map distinct (List.mem_flatten.mpr ⟨a, memberA, ofA⟩) (List.mem_flatten.mpr ⟨b, memberB, ofB⟩) same
  subst one
  by_contra different
  have : Std.Symm (List.Disjoint : List (CreatedGroup LinePath) → _ → Prop) := ⟨fun _ _ apart _ second first => apart first second⟩
  exact (List.nodup_flatten.mp distinct.of_map).2.forall memberA memberB different ofA ofB

-- The first group of one engine and the others of a second.
theorem identity_mixed (hash : Key → UInt64) (counts : List Nat) (sized : ∀ n ∈ counts, 1 ≤ n ∧ n ≤ 256) (few : counts.sum ≤ 2 ^ 126)
    (shared : ¬ counts.Pairwise fun a b => a = b → a ≤ 1) : ¬ Identity hash counts := by
  intro identity
  obtain ⟨w, created, made, _⟩ := line_created counts sized few
  have stands := created_stands w _ created
  have paths := line_paths_distinct counts 0
  rw [List.pairwise_iff_forall_sublist] at shared
  push Not at shared
  obtain ⟨n, m, pair, same, many⟩ := shared
  rw [← line_lengths counts 0, List.sublist_map_iff] at pair
  obtain ⟨found, inside, lengths⟩ := pair
  obtain ⟨a, b, rfl⟩ : ∃ a b, found = [a, b] := by
    have two := congrArg List.length lengths
    rw [List.length_map] at two
    exact List.length_eq_two.mp two.symm
  simp only [List.map_cons, List.map_nil, List.cons.injEq, and_true] at lengths
  obtain ⟨lengthA, lengthB⟩ := lengths
  obtain ⟨x, as, rfl⟩ := List.exists_cons_of_length_pos (show 0 < a.length by omega)
  obtain ⟨y, bs, rfl⟩ := List.exists_cons_of_length_pos (show 0 < b.length by omega)
  obtain ⟨z, zs, rfl⟩ := List.exists_cons_of_length_pos (show 0 < bs.length by rw [List.length_cons] at lengthB; omega)
  have memberA : x :: as ∈ lineEngines 0 counts := inside.subset (by simp)
  have memberB : y :: z :: zs ∈ lineEngines 0 counts := inside.subset (by simp)
  have few_ := stands.sized _ memberA
  have both : (x :: as ++ y :: z :: zs).Sublist (lineEngines 0 counts).flatten := by
    have parts := inside.flatten
    rwa [List.flatten_cons, List.flatten_singleton] at parts
  have parts : (x :: z :: zs).Sublist (lineEngines 0 counts).flatten :=
    (((List.sublist_cons_self y _).trans (List.sublist_append_right as _)).cons_cons x).trans both
  have length : (x :: z :: zs).length = (x :: as).length := by
    rw [← lengthA, same, lengthB]
    rfl
  obtain ⟨dcs, next, opened⟩ := mixture_opens w (x :: z :: zs) (fun g member => made g (parts.subset member))
    (fun k bound => by
      cases k with
      | zero =>
          rw [length]
          exact stands.numbered _ memberA 0 (Nat.zero_lt_succ _)
      | succ k => exact stands.numbered _ memberB (k + 1) bound)
    (by rw [length]; exact ⟨Nat.succ_le_succ (Nat.zero_le _), few_⟩) (paths.sublist ((parts.map CreatedGroup.config).flatMap _))
  obtain ⟨engine, member, listed, _⟩ := identity LinePath w _ created (line_lengths counts 0) (plainOptions false 1) (lineEnv 0) _ dcs next rfl
    (fun c inList p own => by
      obtain ⟨g, memberG, rfl⟩ := List.mem_map.mp inList
      exact .inl ⟨g, parts.subset memberG, own⟩) opened
  have served (g : CreatedGroup LinePath) (inList : g ∈ x :: z :: zs) (own : List (CreatedGroup LinePath))
      (memberOwn : own ∈ lineEngines 0 counts) (inOwn : g ∈ own) : own = engine := by
    have shown : g.config ∈ engine.map CreatedGroup.config := by
      rw [← listed]
      exact List.mem_map_of_mem inList
    obtain ⟨h, inEngine, config⟩ := List.mem_map.mp shown
    exact line_one_engine counts own engine memberOwn member g h inOwn inEngine config.symm
  have one := (served x (by simp) _ memberA (by simp)).trans (served z (by simp) _ memberB (by simp)).symm
  have distinct := both.nodup ((List.Nodup.of_map _ (line_configs_distinct counts)))
  rw [one] at distinct
  exact (List.nodup_append.mp distinct).2.2 y (by simp) y (by simp) rfl

-- Engines that no size is shared by, except engines of one group.
theorem identity_iff (hash : Key → UInt64) (counts : List Nat) (sized : ∀ n ∈ counts, 1 ≤ n ∧ n ≤ 256) (few : counts.sum ≤ 2 ^ 126) :
    Identity hash counts ↔ counts.Pairwise fun a b => a = b → a ≤ 1 := by
  constructor
  · intro identity
    by_contra shared
    exact identity_mixed hash counts sized few shared identity
  · exact identity_apart hash counts

theorem identity_iff_two_sizes : Identity (fun key => UInt64.ofNat key.length) [1, 2] ↔ [1, 2].Pairwise fun a b => a = b → a ≤ 1 :=
  identity_iff (fun key => UInt64.ofNat key.length) [1, 2] (by decide) (by decide)

-- The first group of one engine of two and the second group of another.
theorem mixed_engines_open : ∃ w dcs next, Created w (lineEngines 0 [2, 2]) ∧
    openEngine (plainOptions false 1) (lineEnv 0) [lineConfig 0, lineConfig 3] w = (.ok dcs, next) ∧
    ¬ ∃ engine ∈ lineEngines 0 [2, 2], [lineConfig 0, lineConfig 3] = engine.map CreatedGroup.config := by
  obtain ⟨w, created, made, _⟩ := line_created [2, 2] (by decide) (by decide)
  obtain ⟨dcs, next, opened⟩ := mixture_opens w [lineGroup 0 2 0, lineGroup 2 2 1]
    (fun g member => made g (by
      rcases List.mem_cons.mp member with rfl | last
      · exact List.mem_flatten.mpr ⟨lineGroups 0 2, by simp [lineEngines], List.mem_map_of_mem (List.mem_range.mpr (by decide))⟩
      · rw [List.mem_singleton.mp last]
        exact List.mem_flatten.mpr ⟨lineGroups 2 2, by simp [lineEngines], List.mem_map_of_mem (List.mem_range.mpr (by decide))⟩))
    (fun k bound => by
      cases k with
      | zero => exact ⟨rfl, rfl⟩
      | succ k =>
          obtain rfl : k = 0 := by
            have two : k + 1 < 2 := bound
            omega
          exact ⟨rfl, rfl⟩)
    (by decide) (by decide)
  refine ⟨w, dcs, next, created, opened, ?_⟩
  simp only [lineEngines, List.mem_cons, List.not_mem_nil, or_false]
  rintro ⟨engine, rfl | rfl, same⟩
  · exact absurd same (by decide)
  · exact absurd same (by decide)

end Cabe
