import Cabe.EngineOpen
import Cabe.SuperBlockPair

set_option autoImplicit false

namespace Cabe

open Storage

structure DeviceGroup.Rested (g : DeviceGroup) : Prop where
  data : g.data.Rested
  wal : g.wal.Rested
  snapshot : g.snapshot.Rested

def DeviceGroup.opened (g : DeviceGroup) : DeviceGroup := ⟨g.data.opened, g.wal.opened, g.snapshot.opened⟩

theorem group_opens (g : DeviceGroup) (rested : g.Rested) : g.openAll = (Err.kSuccess, g.opened) := by
  simp [DeviceGroup.openAll, rested_open _ rested.data, rested_open _ rested.wal, rested_open _ rested.snapshot, DeviceGroup.opened]

theorem opened_close (d : RawDevice) (rested : d.Rested) : d.opened.close.2 = d := by
  obtain ⟨isOpen, sizeBytes, medium, outcomes, unreadable, trace⟩ := d
  have closed : isOpen = false := rested.closed
  rw [closed]
  rfl

theorem group_closes (g : DeviceGroup) (rested : g.Rested) : g.opened.closeAll = g := by
  rw [DeviceGroup.closeAll, DeviceGroup.opened, opened_close _ rested.data, opened_close _ rested.wal, opened_close _ rested.snapshot]

theorem group_room (g : DeviceGroup) (fits : g.tooSmall = false) :
    8192 ≤ g.data.sizeBytes ∧ 8192 ≤ g.wal.sizeBytes ∧ 8192 ≤ g.snapshot.sizeBytes := by
  unfold DeviceGroup.tooSmall kDataRegionOffset kValueSize at fits
  obtain ⟨both, snapshot⟩ := Bool.or_eq_false_iff.mp fits
  obtain ⟨data, wal⟩ := Bool.or_eq_false_iff.mp both
  have data := of_decide_eq_false data
  exact ⟨by omega, Nat.le_of_not_lt (of_decide_eq_false wal), Nat.le_of_not_lt (of_decide_eq_false snapshot)⟩

-- A device that both copies of a super block were written to.
def RawDevice.stamped (d : RawDevice) (sb : DiskSuperBlock) : RawDevice := (d.opened.paired sb.toBytes).close.2

theorem stamped_rested (d : RawDevice) (sb : DiskSuperBlock) (rested : d.Rested) : (d.stamped sb).Rested where
  closed := rfl
  succeeds := by simp [RawDevice.stamped, RawDevice.close, RawDevice.paired, RawDevice.record, RawDevice.opened, rested.succeeds]
  readable := rested.readable
  durable := rfl

theorem stamped_copies (d : RawDevice) (sb : DiskSuperBlock) (pos : Nat) (place : pos = 0 ∨ pos = 4096) :
    copyAt (d.stamped sb).medium.cur pos = sb := stamped_both sb d.medium.cur pos place

theorem create_cases (env : CreateEnv) (deviceId deviceCount : UInt64) (g : DeviceGroup) (uuids : GroupUuids) (rested : g.Rested)
    (entropy : env.entropy = some uuids) :
    (∃ rc, createDeviceGroup env deviceId deviceCount g = (.error rc, g) ∧ (g.tooSmall = true ∨ env.alloc kSuperBlockSize = false)) ∨
      (g.tooSmall = false ∧ createDeviceGroup env deviceId deviceCount g = (.ok (g.call uuids env.now deviceId deviceCount).dataSb,
        ⟨g.data.stamped (g.call uuids env.now deviceId deviceCount).dataSb, g.wal.stamped (g.call uuids env.now deviceId deviceCount).walSb,
          g.snapshot.stamped (g.call uuids env.now deviceId deviceCount).snapSb⟩)) := by
  have closes := group_closes g rested
  unfold createDeviceGroup
  simp only [group_opens g rested, ne_eq, not_true_eq_false, if_false]
  unfold DeviceGroup.createOpened
  by_cases small : g.tooSmall = true
  · rw [if_pos (show g.opened.tooSmall = true from small)]
    exact .inl ⟨_, by rw [closes], .inl small⟩
  · rw [if_neg (show ¬ g.opened.tooSmall = true from small)]
    have fits : g.tooSmall = false := by simpa using small
    obtain ⟨data, wal, snapshot⟩ := group_room g fits
    simp only [entropy]
    rw [show g.opened.call uuids env.now deviceId deviceCount = g.call uuids env.now deviceId deviceCount from rfl]
    generalize g.call uuids env.now deviceId deviceCount = c
    rcases write_pair_cases env.alloc g.opened.wal c.walSb (rested_opened _ rested.wal) wal with ⟨refused, walDone⟩ | ⟨granted, walDone⟩
    · rw [walDone]
      exact .inl ⟨Err.kIoBase, by rw [← closes]; rfl, .inr refused⟩
    · rcases write_pair_cases env.alloc g.opened.snapshot c.snapSb (rested_opened _ rested.snapshot) snapshot with ⟨refused, _⟩ | ⟨_, snapDone⟩
      · rw [granted] at refused
        cases refused
      · rcases write_pair_cases env.alloc g.opened.data c.dataSb (rested_opened _ rested.data) data with ⟨refused, _⟩ | ⟨_, dataDone⟩
        · rw [granted] at refused
          cases refused
        · right
          simp only [walDone, snapDone, dataDone]
          exact ⟨fits, rfl⟩

-- A device before and after it is read, the repair included.
structure RawDevice.Settled (d after : RawDevice) : Prop where
  rested : after.Rested
  size : after.sizeBytes = d.sizeBytes
  mended : Mended d.medium.cur after.medium.cur

theorem settled_refl (d : RawDevice) (rested : d.Rested) : d.Settled d := ⟨rested, rfl, .inl rfl⟩

theorem settled_read (alloc : Nat → Bool) (d : RawDevice) (rested : d.Rested) (room : 8192 ≤ d.sizeBytes) :
    d.Settled (readSuperBlockWithRepair alloc d.opened).2.close.2 := by
  rcases read_repair_cases alloc d.opened (rested_opened d rested) room with ⟨rc, done, _⟩ | ⟨_, done⟩ | ⟨broken, backup, done⟩ <;> rw [done]
  · rw [opened_close d rested]
    exact settled_refl d rested
  · rw [opened_close d rested]
    exact settled_refl d rested
  · rw [opened_medium] at broken backup
    refine ⟨⟨rfl, ?_, rested.readable, rfl⟩, rfl, ?_⟩
    · simp [RawDevice.close, RawDevice.repaired, RawDevice.record, RawDevice.opened, rested.succeeds]
    · simp only [close_medium, repaired_medium, opened_medium]
      exact mended_write d.medium.cur broken backup

theorem read_presented (alloc : Nat → Bool) (d : RawDevice) (sb : DiskSuperBlock) (rested : d.Rested) (room : 8192 ≤ d.sizeBytes)
    (done : (readSuperBlockWithRepair alloc d.opened).1 = .ok sb) : presented d.medium.cur = some sb := by
  rcases read_repair_cases alloc d.opened (rested_opened d rested) room with ⟨rc, result, _⟩ | ⟨primary, result⟩ | ⟨broken, backup, result⟩ <;>
    rw [result] at done
  · cases done
  · rw [opened_medium] at primary done
    rw [presented, if_pos primary, Except.ok.inj done]
  · rw [opened_medium] at broken backup done
    rw [presented, if_neg broken, if_pos backup, Except.ok.inj done]

theorem read_primary (alloc : Nat → Bool) (d : RawDevice) (rested : d.Rested) (room : 8192 ≤ d.sizeBytes) (granted : alloc kSuperBlockSize = true)
    (primary : ValidAt d.medium.cur 0) : readSuperBlockWithRepair alloc d.opened = (.ok (copyAt d.medium.cur 0), d.opened) := by
  rcases read_repair_cases alloc d.opened (rested_opened d rested) room with ⟨rc, _, absent⟩ | ⟨_, done⟩ | ⟨broken, _⟩
  · have shown : presented d.medium.cur = some (copyAt d.medium.cur 0) := if_pos primary
    exact absurd (shown.symm.trans (absent granted)) (by simp)
  · exact done
  · exact absurd primary broken

structure DeviceGroup.Settled (g after : DeviceGroup) : Prop where
  data : g.data.Settled after.data
  wal : g.wal.Settled after.wal
  snapshot : g.snapshot.Settled after.snapshot

-- A group whose three devices show super blocks that pass the check.
def DeviceGroup.Accepts (g : DeviceGroup) (deviceId deviceCount : UInt64) (sb : DiskSuperBlock) : Prop :=
  ∃ data wal snap, presented g.data.medium.cur = some data ∧ presented g.wal.medium.cur = some wal ∧
    presented g.snapshot.medium.cur = some snap ∧ checkDeviceGroup deviceId deviceCount g.blocks data wal snap = .ok sb

theorem recover_settles (alloc : Nat → Bool) (deviceId deviceCount : UInt64) (g : DeviceGroup) (rested : g.Rested) :
    g.Settled (recoverDeviceGroup alloc deviceId deviceCount g).2 ∧
      ∀ sb, (recoverDeviceGroup alloc deviceId deviceCount g).1 = .ok sb → g.Accepts deviceId deviceCount sb := by
  have stays : g.Settled g.opened.closeAll := by
    rw [group_closes g rested]
    exact ⟨settled_refl _ rested.data, settled_refl _ rested.wal, settled_refl _ rested.snapshot⟩
  unfold recoverDeviceGroup
  simp only [group_opens g rested, ne_eq, not_true_eq_false, if_false]
  unfold DeviceGroup.recoverOpened
  by_cases small : g.tooSmall = true
  · rw [if_pos (show g.opened.tooSmall = true from small)]
    exact ⟨stays, fun sb done => by cases done⟩
  · rw [if_neg (show ¬ g.opened.tooSmall = true from small)]
    obtain ⟨dataRoom, walRoom, snapRoom⟩ := group_room g (by simpa using small)
    have data := settled_read alloc g.data rested.data dataRoom
    have dataShown := fun sb => read_presented alloc g.data sb rested.data dataRoom
    have wal := settled_read alloc g.wal rested.wal walRoom
    have walShown := fun sb => read_presented alloc g.wal sb rested.wal walRoom
    have snapshot := settled_read alloc g.snapshot rested.snapshot snapRoom
    have snapShown := fun sb => read_presented alloc g.snapshot sb rested.snapshot snapRoom
    simp only [DeviceGroup.opened]
    generalize readSuperBlockWithRepair alloc g.data.opened = dataRead at data dataShown ⊢
    generalize readSuperBlockWithRepair alloc g.wal.opened = walRead at wal walShown ⊢
    generalize readSuperBlockWithRepair alloc g.snapshot.opened = snapRead at snapshot snapShown ⊢
    obtain ⟨dataSb | dataSb, dataDev⟩ := dataRead
    · exact ⟨⟨data, stays.wal, stays.snapshot⟩, fun sb done => by cases done⟩
    · obtain ⟨walSb | walSb, walDev⟩ := walRead
      · exact ⟨⟨data, wal, stays.snapshot⟩, fun sb done => by cases done⟩
      · obtain ⟨snapSb | snapSb, snapDev⟩ := snapRead
        · exact ⟨⟨data, wal, snapshot⟩, fun sb done => by cases done⟩
        · refine ⟨⟨data, wal, snapshot⟩, fun sb done => ⟨dataSb, walSb, snapSb, dataShown _ rfl, walShown _ rfl, snapShown _ rfl, ?_⟩⟩
          have blocks : (dataDev.sizeBytes - kDataRegionOffset) / kValueSize = g.blocks := by
            have same : dataDev.sizeBytes = g.data.sizeBytes := data.size
            rw [same, DeviceGroup.blocks]
          rw [← blocks]
          exact done

-- With three valid primary copies nothing is written.
theorem recover_primaries (alloc : Nat → Bool) (deviceId deviceCount : UInt64) (g : DeviceGroup) (rested : g.Rested) (fits : g.tooSmall = false)
    (granted : alloc kSuperBlockSize = true) (data : ValidAt g.data.medium.cur 0) (wal : ValidAt g.wal.medium.cur 0)
    (snapshot : ValidAt g.snapshot.medium.cur 0) :
    recoverDeviceGroup alloc deviceId deviceCount g =
      (checkDeviceGroup deviceId deviceCount g.blocks (copyAt g.data.medium.cur 0) (copyAt g.wal.medium.cur 0) (copyAt g.snapshot.medium.cur 0),
        g) := by
  obtain ⟨dataRoom, walRoom, snapRoom⟩ := group_room g fits
  have dataRead := read_primary alloc g.data rested.data dataRoom granted data
  have walRead := read_primary alloc g.wal rested.wal walRoom granted wal
  have snapRead := read_primary alloc g.snapshot rested.snapshot snapRoom granted snapshot
  unfold recoverDeviceGroup
  simp only [group_opens g rested, ne_eq, not_true_eq_false, if_false]
  unfold DeviceGroup.recoverOpened
  rw [if_neg (by rw [show g.opened.tooSmall = false from fits]; exact Bool.false_ne_true)]
  simp only [DeviceGroup.opened, dataRead, walRead, snapRead]
  exact congrArg (Prod.mk _) (group_closes g rested)

structure GroupMedia where
  data : Medium
  wal : Medium
  snapshot : Medium

structure GroupImages where
  data : Image
  wal : Image
  snapshot : Image

def DeviceGroup.reboot (g : DeviceGroup) (images : GroupImages) : DeviceGroup :=
  ⟨g.data.reboot images.data, g.wal.reboot images.wal, g.snapshot.reboot images.snapshot⟩

-- What power loss can leave of three media, of which each was being given the
-- named bytes.
structure GroupLoss (data wal snapshot : Bytes) (m : GroupMedia) (images : GroupImages) : Prop where
  data : m.data.Survives kSectorSize images.data ∧ WholeCopies data m.data images.data
  wal : m.wal.Survives kSectorSize images.wal ∧ WholeCopies wal m.wal images.wal
  snapshot : m.snapshot.Survives kSectorSize images.snapshot ∧ WholeCopies snapshot m.snapshot images.snapshot

-- The points at which power can be lost inside CreateDeviceGroup.
inductive CreateStops (alloc : Nat → Bool) (c : GroupCall) (g : DeviceGroup) : GroupMedia → Prop where
  | inWal (m : Medium) (during : g.wal.During (writeSuperBlockPair alloc g.wal c.walSb).2 m) :
      CreateStops alloc c g ⟨g.data.medium, m, g.snapshot.medium⟩
  | inSnapshot (m : Medium) (walDone : (writeSuperBlockPair alloc g.wal c.walSb).1 = Err.kSuccess)
      (during : g.snapshot.During (writeSuperBlockPair alloc g.snapshot c.snapSb).2 m) :
      CreateStops alloc c g ⟨g.data.medium, (writeSuperBlockPair alloc g.wal c.walSb).2.medium, m⟩
  | inData (m : Medium) (walDone : (writeSuperBlockPair alloc g.wal c.walSb).1 = Err.kSuccess)
      (snapDone : (writeSuperBlockPair alloc g.snapshot c.snapSb).1 = Err.kSuccess)
      (during : g.data.During (writeSuperBlockPair alloc g.data c.dataSb).2 m) :
      CreateStops alloc c g ⟨m, (writeSuperBlockPair alloc g.wal c.walSb).2.medium, (writeSuperBlockPair alloc g.snapshot c.snapSb).2.medium⟩

-- The points at which power can be lost inside RecoverDeviceGroup.
inductive RecoverStops (alloc : Nat → Bool) (g : DeviceGroup) : GroupMedia → Prop where
  | inData (m : Medium) (during : g.data.During (readSuperBlockWithRepair alloc g.data).2 m) :
      RecoverStops alloc g ⟨m, g.wal.medium, g.snapshot.medium⟩
  | inWal (m : Medium) (data : DiskSuperBlock) (dataRead : (readSuperBlockWithRepair alloc g.data).1 = .ok data)
      (during : g.wal.During (readSuperBlockWithRepair alloc g.wal).2 m) :
      RecoverStops alloc g ⟨(readSuperBlockWithRepair alloc g.data).2.medium, m, g.snapshot.medium⟩
  | inSnapshot (m : Medium) (data wal : DiskSuperBlock) (dataRead : (readSuperBlockWithRepair alloc g.data).1 = .ok data)
      (walRead : (readSuperBlockWithRepair alloc g.wal).1 = .ok wal)
      (during : g.snapshot.During (readSuperBlockWithRepair alloc g.snapshot).2 m) :
      RecoverStops alloc g ⟨(readSuperBlockWithRepair alloc g.data).2.medium, (readSuperBlockWithRepair alloc g.wal).2.medium, m⟩

theorem during_end (d : RawDevice) (alloc : Nat → Bool) (sb : DiskSuperBlock) (healthy : d.Healthy) (room : 8192 ≤ d.sizeBytes) :
    d.During (writeSuperBlockPair alloc d sb).2 (writeSuperBlockPair alloc d sb).2.medium := by
  rcases write_pair_cases alloc d sb healthy room with ⟨_, done⟩ | ⟨_, done⟩ <;> rw [done]
  · exact .inl rfl
  · exact .inr (by simp [RawDevice.paired])

theorem stamped_during (d : RawDevice) (alloc : Nat → Bool) (sb : DiskSuperBlock) (rested : d.Rested) (room : 8192 ≤ d.sizeBytes) (m : Medium)
    (img : Image) (during : d.opened.During (writeSuperBlockPair alloc d.opened sb).2 m) (alive : m.Survives kSectorSize img)
    (whole : WholeCopies sb.toBytes m img) : Stamped sb d.medium.cur img := by
  rcases write_pair_cases alloc d.opened sb (rested_opened d rested) room with ⟨_, done⟩ | ⟨_, done⟩ <;> rw [done] at during
  · have same := during_self d.opened m during
    rw [opened_medium] at same
    rw [same] at alive
    rw [survives_flushed kSectorSize _ img rested.durable alive]
    exact fun _ _ _ => .inl rfl
  · exact stamped_crash sb d.opened rested.durable m img during whole

theorem mended_during (d : RawDevice) (alloc : Nat → Bool) (rested : d.Rested) (room : 8192 ≤ d.sizeBytes) (m : Medium) (img : Image)
    (during : d.opened.During (readSuperBlockWithRepair alloc d.opened).2 m) (alive : m.Survives kSectorSize img)
    (whole : WholeCopies (read d.medium.cur 4096 4096) m img) : Mended d.medium.cur img := by
  have untouched (same : m = d.opened.medium) : Mended d.medium.cur img := by
    rw [opened_medium] at same
    rw [same] at alive
    exact .inl (survives_flushed kSectorSize _ img rested.durable alive)
  rcases read_repair_cases alloc d.opened (rested_opened d rested) room with ⟨rc, done, _⟩ | ⟨_, done⟩ | ⟨broken, backup, done⟩ <;>
    rw [done] at during
  · exact untouched (during_self d.opened m during)
  · exact untouched (during_self d.opened m during)
  · exact mended_crash d.opened rested.durable broken backup m img during alive whole

theorem during_read (d : RawDevice) (alloc : Nat → Bool) (healthy : d.Healthy) (room : 8192 ≤ d.sizeBytes) :
    d.During (readSuperBlockWithRepair alloc d).2 (readSuperBlockWithRepair alloc d).2.medium := by
  rcases read_repair_cases alloc d healthy room with ⟨rc, done, _⟩ | ⟨_, done⟩ | ⟨_, _, done⟩ <;> rw [done]
  · exact .inl rfl
  · exact .inl rfl
  · exact .inr (by simp [RawDevice.repaired])

theorem create_stops_stamped (alloc : Nat → Bool) (c : GroupCall) (g : DeviceGroup) (rested : g.Rested) (fits : g.tooSmall = false)
    (m : GroupMedia) (images : GroupImages) (stops : CreateStops alloc c g.opened m)
    (loss : GroupLoss c.dataSb.toBytes c.walSb.toBytes c.snapSb.toBytes m images) :
    Stamped c.dataSb g.data.medium.cur images.data ∧ Stamped c.walSb g.wal.medium.cur images.wal ∧
      Stamped c.snapSb g.snapshot.medium.cur images.snapshot := by
  obtain ⟨dataRoom, walRoom, snapRoom⟩ := group_room g fits
  have data := stamped_during g.data alloc c.dataSb rested.data dataRoom m.data images.data
  have wal := stamped_during g.wal alloc c.walSb rested.wal walRoom m.wal images.wal
  have snapshot := stamped_during g.snapshot alloc c.snapSb rested.snapshot snapRoom m.snapshot images.snapshot
  have walEnd := during_end g.wal.opened alloc c.walSb (rested_opened _ rested.wal) walRoom
  have snapEnd := during_end g.snapshot.opened alloc c.snapSb (rested_opened _ rested.snapshot) snapRoom
  cases stops with
  | inWal m during =>
      exact ⟨data (.inl rfl) loss.data.1 loss.data.2, wal during loss.wal.1 loss.wal.2, snapshot (.inl rfl) loss.snapshot.1 loss.snapshot.2⟩
  | inSnapshot m walDone during =>
      exact ⟨data (.inl rfl) loss.data.1 loss.data.2, wal walEnd loss.wal.1 loss.wal.2, snapshot during loss.snapshot.1 loss.snapshot.2⟩
  | inData m walDone snapDone during =>
      exact ⟨data during loss.data.1 loss.data.2, wal walEnd loss.wal.1 loss.wal.2, snapshot snapEnd loss.snapshot.1 loss.snapshot.2⟩

-- The bytes of the backup copies, which a repair puts over the primaries.
def DeviceGroup.Loses (g : DeviceGroup) (m : GroupMedia) (images : GroupImages) : Prop :=
  GroupLoss (read g.data.medium.cur 4096 4096) (read g.wal.medium.cur 4096 4096) (read g.snapshot.medium.cur 4096 4096) m images

theorem recover_stops_mended (alloc : Nat → Bool) (g : DeviceGroup) (rested : g.Rested) (fits : g.tooSmall = false) (m : GroupMedia)
    (images : GroupImages) (stops : RecoverStops alloc g.opened m) (loss : g.Loses m images) :
    Mended g.data.medium.cur images.data ∧ Mended g.wal.medium.cur images.wal ∧ Mended g.snapshot.medium.cur images.snapshot := by
  obtain ⟨dataRoom, walRoom, snapRoom⟩ := group_room g fits
  have data := mended_during g.data alloc rested.data dataRoom m.data images.data
  have wal := mended_during g.wal alloc rested.wal walRoom m.wal images.wal
  have snapshot := mended_during g.snapshot alloc rested.snapshot snapRoom m.snapshot images.snapshot
  have dataEnd := during_read g.data.opened alloc (rested_opened _ rested.data) dataRoom
  have walEnd := during_read g.wal.opened alloc (rested_opened _ rested.wal) walRoom
  cases stops with
  | inData m during =>
      exact ⟨data during loss.data.1 loss.data.2, wal (.inl rfl) loss.wal.1 loss.wal.2, snapshot (.inl rfl) loss.snapshot.1 loss.snapshot.2⟩
  | inWal m dataSb dataRead during =>
      exact ⟨data dataEnd loss.data.1 loss.data.2, wal during loss.wal.1 loss.wal.2, snapshot (.inl rfl) loss.snapshot.1 loss.snapshot.2⟩
  | inSnapshot m dataSb walSb dataRead walRead during =>
      exact ⟨data dataEnd loss.data.1 loss.data.2, wal walEnd loss.wal.1 loss.wal.2, snapshot during loss.snapshot.1 loss.snapshot.2⟩

-- The super blocks of two calls are told apart by their UUIDs.
def GroupCall.Apart (a b : GroupCall) : Prop := a.uuids.wal ≠ b.uuids.wal ∧ a.uuids.snapshot ≠ b.uuids.snapshot

instance : Std.Symm GroupCall.Apart := ⟨fun _ _ apart => ⟨apart.1.symm, apart.2.symm⟩⟩

-- A group of devices between two calls of a process that uses it, with the
-- CreateDeviceGroup calls that have left copies on them and the last one, if it
-- returned success and none followed it.
structure GroupState where
  group : DeviceGroup
  calls : List GroupCall
  created : Option GroupCall

-- A position that holds no valid super block or a copy that some call wrote.
def KnownAt (calls : List GroupCall) (img : Image) (pos : Nat) : Prop :=
  ValidAt img pos → ∃ c ∈ calls, copyAt img pos = c.dataSb ∨ copyAt img pos = c.walSb ∨ copyAt img pos = c.snapSb

def Known (calls : List GroupCall) (img : Image) : Prop := ∀ pos, pos = 0 ∨ pos = 4096 → KnownAt calls img pos

-- A create or a recover that ends, or that power loss ends. Its UUIDs differ
-- from those on the media: a call of which no copy is left may be forgotten.
inductive CreationStep : GroupState → GroupState → Prop where
  | create (s : GroupState) (env : CreateEnv) (deviceId deviceCount : UInt64) (uuids : GroupUuids) (entropy : env.entropy = some uuids)
      (fresh : ∀ c ∈ s.calls, c.Apart (s.group.call uuids env.now deviceId deviceCount)) :
      CreationStep s ⟨(createDeviceGroup env deviceId deviceCount s.group).2, s.calls ++ [s.group.call uuids env.now deviceId deviceCount],
        match (createDeviceGroup env deviceId deviceCount s.group).1 with
        | .ok _ => some (s.group.call uuids env.now deviceId deviceCount)
        | .error _ => none⟩
  | createStops (s : GroupState) (env : CreateEnv) (deviceId deviceCount : UInt64) (uuids : GroupUuids) (entropy : env.entropy = some uuids)
      (fresh : ∀ c ∈ s.calls, c.Apart (s.group.call uuids env.now deviceId deviceCount)) (fits : s.group.tooSmall = false)
      (m : GroupMedia) (images : GroupImages)
      (stops : CreateStops env.alloc (s.group.call uuids env.now deviceId deviceCount) s.group.opened m)
      (loss : GroupLoss (s.group.call uuids env.now deviceId deviceCount).dataSb.toBytes
        (s.group.call uuids env.now deviceId deviceCount).walSb.toBytes (s.group.call uuids env.now deviceId deviceCount).snapSb.toBytes
        m images) :
      CreationStep s ⟨s.group.reboot images, s.calls ++ [s.group.call uuids env.now deviceId deviceCount], none⟩
  | recover (s : GroupState) (alloc : Nat → Bool) (deviceId deviceCount : UInt64) :
      CreationStep s ⟨(recoverDeviceGroup alloc deviceId deviceCount s.group).2, s.calls, s.created⟩
  | recoverStops (s : GroupState) (alloc : Nat → Bool) (fits : s.group.tooSmall = false) (m : GroupMedia) (images : GroupImages)
      (stops : RecoverStops alloc s.group.opened m) (loss : s.group.Loses m images) :
      CreationStep s ⟨s.group.reboot images, s.calls, s.created⟩
  | forget (s : GroupState) (left : List GroupCall) (fewer : left.Sublist s.calls) (data : Known left s.group.data.medium.cur)
      (wal : Known left s.group.wal.medium.cur) (snapshot : Known left s.group.snapshot.medium.cur) :
      CreationStep s ⟨s.group, left, s.created⟩

-- Any content to begin with, the copies of earlier calls mixed at will.
inductive GroupReached : GroupState → Prop where
  | start (group : DeviceGroup) (earlier : List GroupCall) (rested : group.Rested) (apart : earlier.Pairwise GroupCall.Apart)
      (data : Known earlier group.data.medium.cur) (wal : Known earlier group.wal.medium.cur) (snapshot : Known earlier group.snapshot.medium.cur) :
      GroupReached ⟨group, earlier, none⟩
  | step (s next : GroupState) (reached : GroupReached s) (step : CreationStep s next) : GroupReached next

theorem known_stamped (calls : List GroupCall) (c : GroupCall) (sb : DiskSuperBlock) (old img : Image) (known : Known calls old)
    (stamped : Stamped sb old img) (own : sb = c.dataSb ∨ sb = c.walSb ∨ sb = c.snapSb) : Known (calls ++ [c]) img := by
  intro pos place valid
  rcases stamped pos place valid with same | same
  · obtain ⟨b, member, which⟩ := known pos place ((valid_of_copy img old pos pos same).mp valid)
    rw [← same] at which
    exact ⟨b, List.mem_append_left _ member, which⟩
  · rw [← same] at own
    exact ⟨c, by simp, own⟩

theorem known_mended (calls : List GroupCall) (old img : Image) (known : Known calls old) (mended : Mended old img) : Known calls img := by
  rcases mended with rfl | ⟨_, backup, kept, put⟩
  · exact known
  · have source := known 4096 (.inr rfl) backup
    rintro pos (rfl | rfl) valid
    · rw [put valid]
      exact source
    · rw [kept]
      exact source

-- All six copies come from one call, and the group is the size it was.
structure Holds (c : GroupCall) (g : DeviceGroup) : Prop where
  fits : g.tooSmall = false
  blocks : c.blockCount.toNat ≤ g.blocks
  data : ∀ pos, pos = 0 ∨ pos = 4096 → copyAt g.data.medium.cur pos = c.dataSb
  wal : ∀ pos, pos = 0 ∨ pos = 4096 → copyAt g.wal.medium.cur pos = c.walSb
  snapshot : ∀ pos, pos = 0 ∨ pos = 4096 → copyAt g.snapshot.medium.cur pos = c.snapSb

structure CreationInv (s : GroupState) : Prop where
  rested : s.group.Rested
  apart : s.calls.Pairwise GroupCall.Apart
  data : Known s.calls s.group.data.medium.cur
  wal : Known s.calls s.group.wal.medium.cur
  snapshot : Known s.calls s.group.snapshot.medium.cur
  last : ∀ c, s.created = some c → Holds c s.group

theorem call_valid (c : GroupCall) : checkSuperBlock c.dataSb = .valid ∧ checkSuperBlock c.walSb = .valid ∧ checkSuperBlock c.snapSb = .valid := by
  have good (sb : DiskSuperBlock) (magic : sb.magic = kSuperBlockMagic) (version : sb.version = kSuperBlockVersion) :
      checkSuperBlock sb.signed = .valid := by
    have crc : computeCrc sb.signed = sb.signed.crc32c := compute_crc_signed sb
    have magic : sb.signed.magic = kSuperBlockMagic := magic
    have version : sb.signed.version = kSuperBlockVersion := version
    simp [checkSuperBlock, magic, version, crc]
  exact ⟨good _ rfl rfl, good _ rfl rfl, good _ rfl rfl⟩

theorem mended_valid (old img : Image) (valid : ValidAt old 0) (mended : Mended old img) : img = old := by
  rcases mended with same | ⟨broken, _⟩
  · exact same
  · exact absurd valid broken

theorem holds_valid (c : GroupCall) (g : DeviceGroup) (holds : Holds c g) :
    ValidAt g.data.medium.cur 0 ∧ ValidAt g.wal.medium.cur 0 ∧ ValidAt g.snapshot.medium.cur 0 := by
  obtain ⟨data, wal, snapshot⟩ := call_valid c
  unfold ValidAt
  rw [holds.data 0 (.inl rfl), holds.wal 0 (.inl rfl), holds.snapshot 0 (.inl rfl)]
  exact ⟨data, wal, snapshot⟩

theorem holds_mended (c : GroupCall) (g after : DeviceGroup) (holds : Holds c g)
    (sizes : after.data.sizeBytes = g.data.sizeBytes ∧ after.wal.sizeBytes = g.wal.sizeBytes ∧ after.snapshot.sizeBytes = g.snapshot.sizeBytes)
    (data : Mended g.data.medium.cur after.data.medium.cur) (wal : Mended g.wal.medium.cur after.wal.medium.cur)
    (snapshot : Mended g.snapshot.medium.cur after.snapshot.medium.cur) : Holds c after := by
  obtain ⟨dataValid, walValid, snapValid⟩ := holds_valid c g holds
  obtain ⟨dataSize, walSize, snapSize⟩ := sizes
  refine ⟨?_, ?_, ?_, ?_, ?_⟩
  · rw [DeviceGroup.tooSmall, dataSize, walSize, snapSize]
    exact holds.fits
  · rw [DeviceGroup.blocks, dataSize]
    exact holds.blocks
  · rw [mended_valid _ _ dataValid data]
    exact holds.data
  · rw [mended_valid _ _ walValid wal]
    exact holds.wal
  · rw [mended_valid _ _ snapValid snapshot]
    exact holds.snapshot

theorem apart_append (calls : List GroupCall) (c : GroupCall) (apart : calls.Pairwise GroupCall.Apart) (fresh : ∀ b ∈ calls, b.Apart c) :
    (calls ++ [c]).Pairwise GroupCall.Apart := by
  rw [List.pairwise_append]
  exact ⟨apart, List.pairwise_singleton _ _, fun b member d last => by rw [List.mem_singleton.mp last]; exact fresh b member⟩

theorem known_copies (calls : List GroupCall) (c : GroupCall) (sb : DiskSuperBlock) (img : Image)
    (copies : ∀ pos, pos = 0 ∨ pos = 4096 → copyAt img pos = sb) (own : sb = c.dataSb ∨ sb = c.walSb ∨ sb = c.snapSb) :
    Known (calls ++ [c]) img := by
  intro pos place _
  rw [← copies pos place] at own
  exact ⟨c, by simp, own⟩

theorem known_more (calls : List GroupCall) (c : GroupCall) (img : Image) (known : Known calls img) : Known (calls ++ [c]) img := by
  intro pos place valid
  obtain ⟨b, member, which⟩ := known pos place valid
  exact ⟨b, List.mem_append_left _ member, which⟩

theorem reboot_rested (d : RawDevice) (img : Image) (rested : d.Rested) : (d.reboot img).Rested := ⟨rfl, rfl, rested.readable, rfl⟩

theorem group_reboot_rested (g : DeviceGroup) (images : GroupImages) (rested : g.Rested) : (g.reboot images).Rested :=
  ⟨reboot_rested _ _ rested.data, reboot_rested _ _ rested.wal, reboot_rested _ _ rested.snapshot⟩

theorem creation_step_inv (s next : GroupState) (inv : CreationInv s) (step : CreationStep s next) : CreationInv next := by
  cases step with
  | create env deviceId deviceCount uuids entropy fresh =>
      have apart := apart_append s.calls _ inv.apart fresh
      rcases create_cases env deviceId deviceCount s.group uuids inv.rested entropy with ⟨rc, done, _⟩ | ⟨fits, done⟩
      · rw [done]
        exact ⟨inv.rested, apart, known_more _ _ _ inv.data, known_more _ _ _ inv.wal, known_more _ _ _ inv.snapshot,
          fun c absent => by cases absent⟩
      · rw [done]
        have blocks : (s.group.call uuids env.now deviceId deviceCount).blockCount.toNat ≤ s.group.blocks := by
          show (UInt64.ofNat s.group.blocks).toNat ≤ s.group.blocks
          rw [UInt64.toNat_ofNat']
          exact Nat.mod_le _ _
        generalize s.group.call uuids env.now deviceId deviceCount = c at apart blocks ⊢
        refine ⟨⟨stamped_rested _ _ inv.rested.data, stamped_rested _ _ inv.rested.wal, stamped_rested _ _ inv.rested.snapshot⟩, apart,
          known_copies _ _ _ _ (stamped_copies _ _) (.inl rfl), known_copies _ _ _ _ (stamped_copies _ _) (.inr (.inl rfl)),
          known_copies _ _ _ _ (stamped_copies _ _) (.inr (.inr rfl)), ?_⟩
        intro b same
        cases same
        exact ⟨fits, blocks, stamped_copies _ _, stamped_copies _ _, stamped_copies _ _⟩
  | createStops env deviceId deviceCount uuids entropy fresh fits m images stops loss =>
      obtain ⟨data, wal, snapshot⟩ := create_stops_stamped _ _ s.group inv.rested fits m images stops loss
      exact ⟨group_reboot_rested _ _ inv.rested, apart_append s.calls _ inv.apart fresh,
        known_stamped _ _ _ _ _ inv.data data (.inl rfl), known_stamped _ _ _ _ _ inv.wal wal (.inr (.inl rfl)),
        known_stamped _ _ _ _ _ inv.snapshot snapshot (.inr (.inr rfl)), fun c absent => by cases absent⟩
  | recover alloc deviceId deviceCount =>
      obtain ⟨settled, _⟩ := recover_settles alloc deviceId deviceCount s.group inv.rested
      exact ⟨⟨settled.data.rested, settled.wal.rested, settled.snapshot.rested⟩, inv.apart, known_mended _ _ _ inv.data settled.data.mended,
        known_mended _ _ _ inv.wal settled.wal.mended, known_mended _ _ _ inv.snapshot settled.snapshot.mended,
        fun c last => holds_mended c s.group _ (inv.last c last) ⟨settled.data.size, settled.wal.size, settled.snapshot.size⟩
          settled.data.mended settled.wal.mended settled.snapshot.mended⟩
  | recoverStops alloc fits m images stops loss =>
      obtain ⟨data, wal, snapshot⟩ := recover_stops_mended alloc s.group inv.rested fits m images stops loss
      exact ⟨group_reboot_rested _ _ inv.rested, inv.apart, known_mended _ _ _ inv.data data, known_mended _ _ _ inv.wal wal,
        known_mended _ _ _ inv.snapshot snapshot,
        fun c last => holds_mended c s.group _ (inv.last c last) ⟨rfl, rfl, rfl⟩ data wal snapshot⟩
  | forget left fewer data wal snapshot => exact ⟨inv.rested, inv.apart.sublist fewer, data, wal, snapshot, inv.last⟩

theorem creation_reached_inv (s : GroupState) (reached : GroupReached s) : CreationInv s := by
  induction reached with
  | start group earlier rested apart data wal snapshot => exact ⟨rested, apart, data, wal, snapshot, fun c absent => by cases absent⟩
  | step s next _ step ih => exact creation_step_inv s next ih step

-- What an accepted group is made of.
theorem presented_valid (img : Image) (sb : DiskSuperBlock) (shown : presented img = some sb) :
    ∃ pos, (pos = 0 ∨ pos = 4096) ∧ ValidAt img pos ∧ copyAt img pos = sb := by
  unfold presented at shown
  by_cases primary : ValidAt img 0
  · rw [if_pos primary] at shown
    exact ⟨0, .inl rfl, primary, Option.some.inj shown⟩
  · rw [if_neg primary] at shown
    by_cases backup : ValidAt img 4096
    · rw [if_pos backup] at shown
      exact ⟨4096, .inr rfl, backup, Option.some.inj shown⟩
    · rw [if_neg backup] at shown
      cases shown

theorem presented_known (calls : List GroupCall) (img : Image) (sb : DiskSuperBlock) (known : Known calls img) (shown : presented img = some sb) :
    ∃ c ∈ calls, sb = c.dataSb ∨ sb = c.walSb ∨ sb = c.snapSb := by
  obtain ⟨pos, place, valid, rfl⟩ := presented_valid img sb shown
  exact known pos place valid

theorem apart_same (calls : List GroupCall) (apart : calls.Pairwise GroupCall.Apart) (a b : GroupCall) (memberA : a ∈ calls) (memberB : b ∈ calls)
    (shared : a.uuids.wal = b.uuids.wal ∨ a.uuids.snapshot = b.uuids.snapshot) : a = b := by
  by_contra different
  obtain ⟨wal, snapshot⟩ := apart.forall memberA memberB different
  rcases shared with same | same
  · exact wal same
  · exact snapshot same

-- What passes the check is the three super blocks of one call.
theorem check_group_one (calls : List GroupCall) (apart : calls.Pairwise GroupCall.Apart) (deviceId deviceCount : UInt64) (blocks : Nat)
    (data wal snap sb : DiskSuperBlock) (dataKnown : ∃ c ∈ calls, data = c.dataSb ∨ data = c.walSb ∨ data = c.snapSb)
    (walKnown : ∃ c ∈ calls, wal = c.dataSb ∨ wal = c.walSb ∨ wal = c.snapSb)
    (snapKnown : ∃ c ∈ calls, snap = c.dataSb ∨ snap = c.walSb ∨ snap = c.snapSb)
    (passed : checkDeviceGroup deviceId deviceCount blocks data wal snap = .ok sb) :
    ∃ c ∈ calls, data = c.dataSb ∧ wal = c.walSb ∧ snap = c.snapSb ∧ sb = c.dataSb ∧ c.deviceId = deviceId ∧ c.deviceCount = deviceCount := by
  unfold checkDeviceGroup at passed
  split at passed
  · cases passed
  rename_i types
  split at passed
  · cases passed
  split at passed
  · cases passed
  rename_i pairs
  split at passed
  · cases passed
  rename_i ids
  split at passed
  · cases passed
  rename_i counts
  split at passed
  · cases passed
  cases passed
  push Not at types pairs ids counts
  obtain ⟨a, memberA, rfl | rfl | rfl⟩ := dataKnown
  · obtain ⟨b, memberB, rfl | rfl | rfl⟩ := walKnown
    · exact absurd (show DeviceType.data.raw = DeviceType.wal.raw from types.2.1) (by decide)
    · obtain ⟨c, memberC, rfl | rfl | rfl⟩ := snapKnown
      · exact absurd (show DeviceType.data.raw = DeviceType.snapshot.raw from types.2.2) (by decide)
      · exact absurd (show DeviceType.wal.raw = DeviceType.snapshot.raw from types.2.2) (by decide)
      · have second := apart_same calls apart a b memberA memberB (.inl pairs.1)
        have third := apart_same calls apart a c memberA memberC (.inr pairs.2.2.1)
        subst second third
        exact ⟨a, memberA, rfl, rfl, rfl, rfl, ids.1, counts.1⟩
    · exact absurd (show DeviceType.snapshot.raw = DeviceType.wal.raw from types.2.1) (by decide)
  · exact absurd (show DeviceType.wal.raw = DeviceType.data.raw from types.1) (by decide)
  · exact absurd (show DeviceType.snapshot.raw = DeviceType.data.raw from types.1) (by decide)

theorem holds_recovers (c : GroupCall) (g : DeviceGroup) (alloc : Nat → Bool) (rested : g.Rested) (holds : Holds c g)
    (granted : alloc kSuperBlockSize = true) : recoverDeviceGroup alloc c.deviceId c.deviceCount g = (.ok c.dataSb, g) := by
  obtain ⟨data, wal, snapshot⟩ := holds_valid c g holds
  rw [recover_primaries alloc c.deviceId c.deviceCount g rested holds.fits granted data wal snapshot, holds.data 0 (.inl rfl),
    holds.wal 0 (.inl rfl), holds.snapshot 0 (.inl rfl)]
  have blocks : ¬ c.dataSb.blockCount.toNat > g.blocks := Nat.not_lt.mpr holds.blocks
  simp only [checkDeviceGroup]
  rw [if_neg, if_neg, if_neg, if_neg, if_neg, if_neg blocks]
  · exact fun different => by rcases different with d | d | d <;> exact d rfl
  · exact fun different => by rcases different with d | d | d <;> exact d rfl
  · exact fun different => by rcases different with d | d | d | d <;> exact d rfl
  · exact fun different => by rcases different with d | d <;> exact d rfl
  · exact fun different => by rcases different with d | d | d <;> exact d rfl

-- What every reader can rely on. A repair changes on no device which super
-- block it shows, wherever power is lost in it, and so never completes a group
-- out of the super blocks of several calls.
structure GroupSafe (s : GroupState) : Prop where
  accepted : ∀ (alloc : Nat → Bool) (deviceId deviceCount : UInt64) (sb : DiskSuperBlock),
    (recoverDeviceGroup alloc deviceId deviceCount s.group).1 = .ok sb → ∃ c ∈ s.calls, sb = c.dataSb ∧
      presented s.group.data.medium.cur = some c.dataSb ∧ presented s.group.wal.medium.cur = some c.walSb ∧
      presented s.group.snapshot.medium.cur = some c.snapSb ∧ c.deviceId = deviceId ∧ c.deviceCount = deviceCount
  repaired : ∀ (alloc : Nat → Bool) (deviceId deviceCount : UInt64) (after : DeviceGroup),
    after = (recoverDeviceGroup alloc deviceId deviceCount s.group).2 →
      presented after.data.medium.cur = presented s.group.data.medium.cur ∧
      presented after.wal.medium.cur = presented s.group.wal.medium.cur ∧
      presented after.snapshot.medium.cur = presented s.group.snapshot.medium.cur
  interrupted : ∀ (alloc : Nat → Bool) (m : GroupMedia) (images : GroupImages), s.group.tooSmall = false →
    RecoverStops alloc s.group.opened m → s.group.Loses m images →
    presented images.data = presented s.group.data.medium.cur ∧ presented images.wal = presented s.group.wal.medium.cur ∧
      presented images.snapshot = presented s.group.snapshot.medium.cur
  lasting : ∀ c, s.created = some c → ∀ alloc : Nat → Bool, alloc kSuperBlockSize = true →
    recoverDeviceGroup alloc c.deviceId c.deviceCount s.group = (.ok c.dataSb, s.group)

theorem torn_creation_safe (s : GroupState) (reached : GroupReached s) : GroupSafe s := by
  have inv := creation_reached_inv s reached
  refine ⟨fun alloc deviceId deviceCount sb done => ?_, fun alloc deviceId deviceCount after same => ?_, fun alloc m images fits stops loss => ?_,
    fun c last alloc granted => ?_⟩
  · obtain ⟨data, wal, snap, dataShown, walShown, snapShown, passed⟩ :=
      (recover_settles alloc deviceId deviceCount s.group inv.rested).2 sb done
    obtain ⟨c, member, rfl, rfl, rfl, own, id, count⟩ := check_group_one s.calls inv.apart deviceId deviceCount _ data wal snap sb
      (presented_known _ _ _ inv.data dataShown) (presented_known _ _ _ inv.wal walShown) (presented_known _ _ _ inv.snapshot snapShown) passed
    exact ⟨c, member, own, dataShown, walShown, snapShown, id, count⟩
  · have settled := (recover_settles alloc deviceId deviceCount s.group inv.rested).1
    rw [same]
    exact ⟨mended_presented _ _ settled.data.mended, mended_presented _ _ settled.wal.mended, mended_presented _ _ settled.snapshot.mended⟩
  · obtain ⟨data, wal, snapshot⟩ := recover_stops_mended alloc s.group inv.rested fits m images stops loss
    exact ⟨mended_presented _ _ data, mended_presented _ _ wal, mended_presented _ _ snapshot⟩
  · exact holds_recovers c s.group alloc inv.rested (inv.last c last) granted

def plainUuids (n : UInt8) : GroupUuids :=
  ⟨Vector.replicate 16 n, Vector.replicate 16 (n + 1), Vector.replicate 16 (n + 2), Vector.replicate 16 (n + 3)⟩

def plainCreateEnv (n : UInt8) : CreateEnv := ⟨fun _ => true, some (plainUuids n), 0⟩

theorem blank_invalid (blocks pos : Nat) : ¬ ValidAt (blankDevice blocks).medium.cur pos := by
  have zero : read (blankDevice blocks).medium.cur pos 4096 = zeros 4096 := read_zeros _ _ _ fun _ _ => rfl
  have magic : (copyAt (blankDevice blocks).medium.cur pos).magic = 0 := by
    simp only [copyAt, zero, DiskSuperBlock.ofBytes]
    rw [slice_zeros 4096 0 4 (by decide)]
    decide
  unfold ValidAt checkSuperBlock
  rw [magic, if_pos (by decide)]
  decide

theorem blank_rested (blocks : Nat) : (blankDevice blocks).Rested := ⟨rfl, rfl, fun _ => rfl, rfl⟩

theorem blank_group_rested : blankGroup.Rested := ⟨blank_rested 512, blank_rested 2, blank_rested 4⟩

-- Power loss before anything was written.
theorem rested_loss (g : DeviceGroup) (rested : g.Rested) (data wal snapshot : Bytes) :
    GroupLoss data wal snapshot ⟨g.data.medium, g.wal.medium, g.snapshot.medium⟩ ⟨g.data.medium.cur, g.wal.medium.cur, g.snapshot.medium.cur⟩ := by
  have here (d : RawDevice) (rest : d.Rested) (bytes : Bytes) :
      d.medium.Survives kSectorSize d.medium.cur ∧ WholeCopies bytes d.medium d.medium.cur :=
    ⟨survives_self kSectorSize d.medium, fun pos _ _ => .inl (by rw [rested_stable d rest])⟩
  exact ⟨here _ rested.data data, here _ rested.wal wal, here _ rested.snapshot snapshot⟩

-- One creation that power loss stops at once, and one that succeeds.
theorem torn_creation_safe_blank : ∃ s : GroupState, s.calls.length = 2 ∧ s.created ≠ none ∧ GroupSafe s := by
  have blank (blocks : Nat) : Known [] (blankDevice blocks).medium.cur := fun pos _ valid => absurd valid (blank_invalid blocks pos)
  have start : GroupReached ⟨blankGroup, [], none⟩ := .start blankGroup [] blank_group_rested .nil (blank 512) (blank 2) (blank 4)
  have stopped := GroupReached.step _ _ start (.createStops _ (plainCreateEnv 1) 0 1 (plainUuids 1) rfl (fun c member => by cases member)
    (by decide) _ _ (.inWal blankGroup.wal.medium (.inl rfl)) (rested_loss blankGroup blank_group_rested _ _ _))
  have rested := (creation_reached_inv _ stopped).rested
  generalize images_ : GroupImages.mk _ _ _ = images at stopped rested
  have created := GroupReached.step _ _ stopped (.create _ (plainCreateEnv 5) 0 1 (plainUuids 5) rfl fun c member => by
    rw [List.mem_singleton.mp member]
    exact ⟨show (plainUuids 1).wal ≠ (plainUuids 5).wal by decide, show (plainUuids 1).snapshot ≠ (plainUuids 5).snapshot by decide⟩)
  refine ⟨_, rfl, ?_, torn_creation_safe _ created⟩
  rcases create_cases (plainCreateEnv 5) 0 1 (blankGroup.reboot images) (plainUuids 5) rested rfl with ⟨rc, _, small | refused⟩ | ⟨_, done⟩
  · exact absurd small (show ¬ blankGroup.tooSmall = true by decide)
  · exact absurd (show true = false from refused) (by decide)
  · simp [done]

end Cabe
