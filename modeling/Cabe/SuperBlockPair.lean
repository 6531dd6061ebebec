import Cabe.SuperBlock

set_option autoImplicit false

namespace Cabe

open Storage

def copyAt (img : Image) (pos : Nat) : DiskSuperBlock := .ofBytes (read img pos 4096)

def ValidAt (img : Image) (pos : Nat) : Prop := checkSuperBlock (copyAt img pos) = .valid

instance (img : Image) (pos : Nat) : Decidable (ValidAt img pos) := inferInstanceAs (Decidable (_ = _))

-- The super block that a device shows to a reader: the primary copy where it is
-- valid, else the backup.
def presented (img : Image) : Option DiskSuperBlock :=
  if ValidAt img 0 then some (copyAt img 0)
  else if ValidAt img 4096 then some (copyAt img 4096)
  else none

-- A closed device that works and has nothing left to make durable.
structure RawDevice.Rested (d : RawDevice) : Prop where
  closed : d.isOpen = false
  succeeds : d.outcomes = []
  readable : ∀ k, d.unreadable k = false
  durable : d.medium.unsynced = []

def RawDevice.opened (d : RawDevice) : RawDevice := { d with isOpen := true }

@[simp] theorem opened_medium (d : RawDevice) : d.opened.medium = d.medium := rfl

@[simp] theorem close_medium (d : RawDevice) : d.close.2.medium = d.medium := rfl

theorem rested_opened (d : RawDevice) (rested : d.Rested) : d.opened.Healthy := ⟨rfl, rested.succeeds, rested.readable⟩

theorem rested_open (d : RawDevice) (rested : d.Rested) : d.openDevice = (Err.kSuccess, d.opened) := by
  simp [RawDevice.openDevice, rested.closed, RawDevice.opened]

theorem rested_stable (d : RawDevice) (rested : d.Rested) : d.medium.stable = d.medium.cur := by
  simp [Medium.stable, rested.durable]

-- The medium as it was before a call or after any of the calls it made.
def RawDevice.During (before after : RawDevice) (m : Medium) : Prop := m = before.medium ∨ m ∈ after.trace.drop before.trace.length

theorem during_self (d : RawDevice) (m : Medium) (during : d.During d m) : m = d.medium := by
  rcases during with same | member
  · exact same
  · simp at member

-- The medium after each call of a pair of writes: the backup, then the primary.
def pairBackup (m : Medium) (bytes : Bytes) : Medium := m.put (write m.cur 4096 bytes)
def pairPrimary (m : Medium) (bytes : Bytes) : Medium := (pairBackup m bytes).flush.put (write (write m.cur 4096 bytes) 0 bytes)

def RawDevice.paired (d : RawDevice) (bytes : Bytes) : RawDevice :=
  (((d.record (pairBackup d.medium bytes)).record (pairBackup d.medium bytes).flush).record (pairPrimary d.medium bytes)).record
    (pairPrimary d.medium bytes).flush

theorem write_pair_cases (alloc : Nat → Bool) (d : RawDevice) (sb : DiskSuperBlock) (healthy : d.Healthy) (room : 8192 ≤ d.sizeBytes) :
    (alloc kSuperBlockSize = false ∧ writeSuperBlockPair alloc d sb = (Err.kIoBase, d)) ∨
      (alloc kSuperBlockSize = true ∧ writeSuperBlockPair alloc d sb = (Err.kSuccess, d.paired sb.toBytes)) := by
  have length := super_block_bytes_length sb
  unfold writeSuperBlockPair
  cases alloc kSuperBlockSize with
  | false => exact .inl ⟨rfl, rfl⟩
  | true =>
      right
      have backup := healthy_write d kSuperBlockSize sb.toBytes healthy (by rw [length, kSuperBlockSize]; omega)
      have one := healthy_record d (pairBackup d.medium sb.toBytes) healthy
      have synced := healthy_sync _ one
      have two := healthy_record _ (pairBackup d.medium sb.toBytes).flush one
      have primary := healthy_write _ 0 sb.toBytes two (by rw [length]; show 0 + 4096 ≤ d.sizeBytes; omega)
      have last := healthy_sync _ (healthy_record _ (pairPrimary d.medium sb.toBytes) two)
      refine ⟨rfl, ?_⟩
      simp only [Bool.true_eq_false, if_false, backup, ne_eq, not_true_eq_false]
      rw [show d.medium.put (write d.medium.cur kSuperBlockSize sb.toBytes) = pairBackup d.medium sb.toBytes from rfl, synced]
      simp only [not_true_eq_false, if_false]
      rw [show (d.record (pairBackup d.medium sb.toBytes)).medium = pairBackup d.medium sb.toBytes from rfl, primary]
      simp only [not_true_eq_false, if_false]
      exact last

theorem paired_during (d : RawDevice) (bytes : Bytes) (m : Medium) (during : d.During (d.paired bytes) m) :
    m = d.medium ∨ m = pairBackup d.medium bytes ∨ m = (pairBackup d.medium bytes).flush ∨ m = pairPrimary d.medium bytes ∨
      m = (pairPrimary d.medium bytes).flush := by
  rcases during with same | member
  · exact .inl same
  · right
    simpa [RawDevice.paired] using member

-- The device once the backup has been written over its primary copy.
def repairPrimary (m : Medium) : Medium := m.put (write m.cur 0 (read m.cur 4096 4096))

def RawDevice.repaired (d : RawDevice) : RawDevice := (d.record (repairPrimary d.medium)).record (repairPrimary d.medium).flush

theorem repaired_medium (d : RawDevice) : d.repaired.medium = ⟨write d.medium.cur 0 (read d.medium.cur 4096 4096), []⟩ := by
  simp only [RawDevice.repaired, repairPrimary, record_medium, Medium.flush, Medium.put]

theorem repaired_during (d : RawDevice) (m : Medium) (during : d.During d.repaired m) :
    m = d.medium ∨ m = repairPrimary d.medium ∨ m = (repairPrimary d.medium).flush := by
  rcases during with same | member
  · exact .inl same
  · right
    simpa [RawDevice.repaired] using member

theorem read_backup_valid (d : RawDevice) (healthy : d.Healthy) (room : 8192 ≤ d.sizeBytes) (primaryReadOk : Bool) (primaryCheck : SbCheck)
    (valid : ValidAt d.medium.cur 4096) :
    readBackupWithRepair d primaryReadOk primaryCheck = (.ok (copyAt d.medium.cur 4096), d.repaired) := by
  have found := read_at_readable d kSuperBlockSize kSuperBlockSize healthy.opened healthy.readable (by unfold kSuperBlockSize; omega)
  have length : (read d.medium.cur 4096 4096).length = 4096 := read_length _ _ _
  have written := healthy_write d 0 (read d.medium.cur 4096 4096) healthy (by rw [length]; omega)
  have synced := healthy_sync _ (healthy_record d (repairPrimary d.medium) healthy)
  unfold readBackupWithRepair
  rw [found]
  simp only
  rw [if_pos (show checkSuperBlock (DiskSuperBlock.ofBytes (read d.medium.cur kSuperBlockSize kSuperBlockSize)) = .valid from valid)]
  have written : d.writeAt 0 (read d.medium.cur kSuperBlockSize kSuperBlockSize) = (Err.kSuccess, d.record (repairPrimary d.medium)) := written
  rw [written]
  simp only [ne_eq, not_true_eq_false, if_false]
  exact congrArg (Prod.mk _) (congrArg Prod.snd synced)

theorem read_backup_invalid (d : RawDevice) (healthy : d.Healthy) (room : 8192 ≤ d.sizeBytes) (primaryReadOk : Bool) (primaryCheck : SbCheck)
    (invalid : ¬ ValidAt d.medium.cur 4096) : ∃ rc, readBackupWithRepair d primaryReadOk primaryCheck = (.error rc, d) := by
  have found := read_at_readable d kSuperBlockSize kSuperBlockSize healthy.opened healthy.readable (by unfold kSuperBlockSize; omega)
  unfold readBackupWithRepair
  rw [found]
  simp only
  rw [if_neg (show ¬ checkSuperBlock (DiskSuperBlock.ofBytes (read d.medium.cur kSuperBlockSize kSuperBlockSize)) = .valid from invalid)]
  exact ⟨_, rfl⟩

-- The three ways in which a device can be read, and the one that writes to it.
theorem read_repair_cases (alloc : Nat → Bool) (d : RawDevice) (healthy : d.Healthy) (room : 8192 ≤ d.sizeBytes) :
    (∃ rc, readSuperBlockWithRepair alloc d = (.error rc, d) ∧ (alloc kSuperBlockSize = true → presented d.medium.cur = none)) ∨
      (ValidAt d.medium.cur 0 ∧ readSuperBlockWithRepair alloc d = (.ok (copyAt d.medium.cur 0), d)) ∨
      (¬ ValidAt d.medium.cur 0 ∧ ValidAt d.medium.cur 4096 ∧ readSuperBlockWithRepair alloc d = (.ok (copyAt d.medium.cur 4096), d.repaired)) := by
  unfold readSuperBlockWithRepair
  cases alloc kSuperBlockSize with
  | false => exact .inl ⟨Err.kIoBase, rfl, fun absurd => by cases absurd⟩
  | true =>
      have found := read_at_readable d 0 kSuperBlockSize healthy.opened healthy.readable (by unfold kSuperBlockSize; omega)
      simp only [Bool.true_eq_false, if_false, found]
      by_cases primary : ValidAt d.medium.cur 0
      · rw [if_pos (show checkSuperBlock (DiskSuperBlock.ofBytes (read d.medium.cur 0 kSuperBlockSize)) = .valid from primary)]
        exact .inr (.inl ⟨primary, rfl⟩)
      · rw [if_neg (show ¬ checkSuperBlock (DiskSuperBlock.ofBytes (read d.medium.cur 0 kSuperBlockSize)) = .valid from primary)]
        by_cases backup : ValidAt d.medium.cur 4096
        · exact .inr (.inr ⟨primary, backup, read_backup_valid d healthy room _ _ backup⟩)
        · obtain ⟨rc, done⟩ := read_backup_invalid d healthy room true
            (checkSuperBlock (DiskSuperBlock.ofBytes (read d.medium.cur 0 kSuperBlockSize))) backup
          exact .inl ⟨rc, done, fun _ => by rw [presented, if_neg primary, if_neg backup]⟩

-- CRC32C does not accept a super block put together from sectors of several:
-- a copy that power loss leaves valid was durable or is the one being written.
def WholeCopies (written : Bytes) (m : Medium) (img : Image) : Prop :=
  ∀ pos, pos = 0 ∨ pos = 4096 → ValidAt img pos → read img pos 4096 = read m.stable pos 4096 ∨ read img pos 4096 = written

-- A device under a pair of writes: no third super block appears on it.
def Stamped (sb : DiskSuperBlock) (old img : Image) : Prop :=
  ∀ pos, pos = 0 ∨ pos = 4096 → ValidAt img pos → copyAt img pos = copyAt old pos ∨ copyAt img pos = sb

theorem copy_of_bytes (img : Image) (pos : Nat) (sb : DiskSuperBlock) (same : read img pos 4096 = sb.toBytes) : copyAt img pos = sb := by
  rw [copyAt, same, super_block_of_to_bytes]

theorem copy_of_read (a b : Image) (at_ pos : Nat) (same : read a at_ 4096 = read b pos 4096) : copyAt a at_ = copyAt b pos := by
  rw [copyAt, same, copyAt]

theorem valid_of_copy (a b : Image) (at_ pos : Nat) (same : copyAt a at_ = copyAt b pos) : ValidAt a at_ ↔ ValidAt b pos := by
  rw [ValidAt, same, ValidAt]

theorem stamped_backup (sb : DiskSuperBlock) (old : Image) : Stamped sb old (write old 4096 sb.toBytes) := by
  have length := super_block_bytes_length sb
  rintro pos (rfl | rfl) _
  · exact .inl (copy_of_read _ _ _ _ (read_write_disjoint old 4096 0 4096 sb.toBytes (.inl (by omega))))
  · refine .inr (copy_of_bytes _ _ sb ?_)
    rw [read_write_inside old 4096 4096 4096 sb.toBytes (by omega) (by omega), ← length, Nat.sub_self]
    exact slice_all _

theorem stamped_bytes (sb : DiskSuperBlock) (old : Image) (pos : Nat) (place : pos = 0 ∨ pos = 4096) :
    read (write (write old 4096 sb.toBytes) 0 sb.toBytes) pos 4096 = sb.toBytes := by
  have length := super_block_bytes_length sb
  rcases place with rfl | rfl
  · rw [read_write_inside _ 0 0 4096 sb.toBytes (by omega) (by omega), ← length, Nat.sub_self]
    exact slice_all _
  · rw [read_write_disjoint _ 0 4096 4096 sb.toBytes (.inr (by omega)), read_write_inside old 4096 4096 4096 sb.toBytes (by omega) (by omega),
      ← length, Nat.sub_self]
    exact slice_all _

theorem stamped_both (sb : DiskSuperBlock) (old : Image) (pos : Nat) (place : pos = 0 ∨ pos = 4096) :
    copyAt (write (write old 4096 sb.toBytes) 0 sb.toBytes) pos = sb :=
  copy_of_bytes _ _ sb (stamped_bytes sb old pos place)

-- Power loss anywhere in a pair of writes.
theorem stamped_crash (sb : DiskSuperBlock) (d : RawDevice) (durable : d.medium.unsynced = []) (m : Medium) (img : Image)
    (during : d.During (d.paired sb.toBytes) m) (whole : WholeCopies sb.toBytes m img) : Stamped sb d.medium.cur img := by
  have here : d.medium.stable = d.medium.cur := by simp [Medium.stable, durable]
  have backup := stamped_backup sb d.medium.cur
  have stable : Stamped sb d.medium.cur m.stable := by
    rcases paired_during d sb.toBytes m during with rfl | rfl | rfl | rfl | rfl
    · rw [here]
      exact fun _ _ _ => .inl rfl
    · rw [pairBackup, medium_stable_put, here]
      exact fun _ _ _ => .inl rfl
    · exact backup
    · rw [pairPrimary, medium_stable_put]
      exact backup
    · exact fun pos place _ => .inr (stamped_both sb d.medium.cur pos place)
  intro pos place valid
  rcases whole pos place valid with same | same
  · have copy := copy_of_read img m.stable pos pos same
    rcases stable pos place ((valid_of_copy img m.stable pos pos copy).mp valid) with old | new
    · exact .inl (copy.trans old)
    · exact .inr (copy.trans new)
  · exact .inr (copy_of_bytes img pos sb same)

-- A device under a repair: it stays as it is, or its backup is put over a
-- primary copy that was not valid.
def Mended (old img : Image) : Prop :=
  img = old ∨ (¬ ValidAt old 0 ∧ ValidAt old 4096 ∧ copyAt img 4096 = copyAt old 4096 ∧ (ValidAt img 0 → copyAt img 0 = copyAt old 4096))

theorem mended_presented (old img : Image) (mended : Mended old img) : presented img = presented old := by
  rcases mended with rfl | ⟨broken, backup, kept, put⟩
  · rfl
  · have still := (valid_of_copy img old 4096 4096 kept).mpr backup
    rw [presented, presented, if_neg broken, if_pos backup]
    by_cases primary : ValidAt img 0
    · rw [if_pos primary, put primary]
    · rw [if_neg primary, if_pos still, kept]

theorem mended_write (old : Image) (broken : ¬ ValidAt old 0) (backup : ValidAt old 4096) : Mended old (write old 0 (read old 4096 4096)) := by
  have length : (read old 4096 4096).length = 4096 := read_length _ _ _
  refine .inr ⟨broken, backup, copy_of_read _ _ _ _ (read_write_disjoint old 0 4096 4096 _ (.inr (by omega))), fun _ => copy_of_read _ _ _ _ ?_⟩
  have all := slice_all (read old 4096 4096)
  rw [length] at all
  rw [read_write_inside old 0 0 4096 _ (by omega) (by omega), Nat.sub_self, all]

theorem mended_crash (d : RawDevice) (durable : d.medium.unsynced = []) (broken : ¬ ValidAt d.medium.cur 0) (backup : ValidAt d.medium.cur 4096)
    (m : Medium) (img : Image) (during : d.During d.repaired m) (alive : m.Survives kSectorSize img)
    (whole : WholeCopies (read d.medium.cur 4096 4096) m img) : Mended d.medium.cur img := by
  have here : d.medium.stable = d.medium.cur := by simp [Medium.stable, durable]
  have length : (read d.medium.cur 4096 4096).length = 4096 := read_length _ _ _
  rcases repaired_during d m during with rfl | rfl | rfl
  · exact .inl (survives_flushed kSectorSize _ img durable alive)
  · have kept : read img 4096 4096 = read d.medium.cur 4096 4096 := by
      apply mix_read_agree kSectorSize _ img alive
      intro v member
      simp only [repairPrimary, Medium.put, Medium.versions, durable, List.mem_cons, List.not_mem_nil, or_false] at member
      rcases member with new | old
      · rw [new]
        exact read_write_disjoint _ 0 4096 4096 _ (.inr (by omega))
      · rw [old]
    refine .inr ⟨broken, backup, copy_of_read _ _ _ _ kept, fun valid => ?_⟩
    rcases whole 0 (.inl rfl) valid with same | same
    · rw [repairPrimary, medium_stable_put, here] at same
      exact absurd ((valid_of_copy img d.medium.cur 0 0 (copy_of_read _ _ _ _ same)).mp valid) broken
    · exact copy_of_read _ _ _ _ same
  · have last := survives_flushed kSectorSize _ img rfl alive
    simp only [repairPrimary, Medium.put, Medium.flush] at last
    rw [last]
    exact mended_write d.medium.cur broken backup

end Cabe
