import Cabe.Recovery
import Cabe.SnapshotReopen
import Cabe.WalGenerations

set_option autoImplicit false

namespace Cabe

open Storage

-- A start goes through when each of its stations does.
theorem open_device_created (opts : Options) (env : OpenEnv) (sb : SuperBlock) (group : DeviceGroup) (io : SyncIoBackend) (wal : Wal)
    (snapshot : Snapshot) (mode : opts.create = true) (ioOpened : SyncIoBackend.openIo ⟨group.data, 0⟩ = (Err.kSuccess, io))
    (count : sb.blockCount ≤ io.blockCount) (walOpened : (Wal.unopened group.wal).openWal opts = (Err.kSuccess, wal))
    (snapshotOpened : (Snapshot.unopened group.snapshot).openSnapshot opts env.toSnapshotEnv sb = (Err.kSuccess, snapshot)) :
    openDevice opts env sb group = (Err.kSuccess, { baseContext sb group io with wal := wal, snapshot := snapshot }) := by
  unfold openDevice
  simp only [ioOpened, ne_eq, not_true_eq_false, if_false]
  rw [if_neg (by omega)]
  simp only [mode, if_true, walOpened, not_true_eq_false, if_false, snapshotOpened]
  rfl

theorem recover_device_done (opts : Options) (env : OpenEnv) (dc : DeviceContext) (snapshot : Snapshot) (loaded : MetaIndex) (wal : Wal)
    (opened : dc.snapshot.openSnapshot opts env.toSnapshotEnv dc.superBlock = (Err.kSuccess, snapshot))
    (base : snapshot.load opts env.toSnapshotEnv (applyRecoveredEntry dc.superBlock) dc.metaIndex = (Err.kSuccess, loaded))
    (walOpened : dc.wal.openWal opts = (Err.kSuccess, wal))
    (replayed : (wal.recover snapshot.lastCoveredSeq (applyWalEntry dc.superBlock) loaded).rc = Err.kSuccess)
    (rebuilt : (({ dc with
      snapshot := snapshot
      metaIndex := (wal.recover snapshot.lastCoveredSeq (applyWalEntry dc.superBlock) loaded).st
      wal := (wal.recover snapshot.lastCoveredSeq (applyWalEntry dc.superBlock) loaded).wal } : DeviceContext).rebuildAllocator
        env.rebuild).1 = Err.kSuccess)
    (unverified : opts.verifyValueCrcOnRecovery = false) : (recoverDevice opts env dc).1 = Err.kSuccess := by
  unfold recoverDevice
  simp only [opened, ne_eq, not_true_eq_false, if_false, base, walOpened]
  generalize wal.recover snapshot.lastCoveredSeq (applyWalEntry dc.superBlock) loaded = out at replayed rebuilt ⊢
  simp only [replayed, not_true_eq_false, if_false, unverified, Bool.false_eq_true]
  split
  · rename_i failed
    exact absurd rebuilt failed
  · rfl

-- The index walked in the order of its entries.
def entryWalk : Walk := ⟨fun m => m.entries, fun m => List.Perm.refl m.entries⟩

def plainScanEnv : ScanEnv := { alloc := fun _ => true, now := 0, walk := entryWalk }

def plainOpEnv : OpEnv := ⟨0, plainScanEnv, plainScanEnv⟩

def plainOpenEnv : OpenEnv := { alloc := fun _ => true, now := 0, rebuild := entryWalk, verify := entryWalk }

-- A zeroed group with room for two values.
def blankGroup : DeviceGroup := ⟨blankDevice 512, blankDevice 2, blankDevice 4⟩

def blankSuperBlock : SuperBlock := ⟨Vector.replicate 16 0, 0, 2⟩

theorem blank_group_opens : ∃ dc, openDevice (plainOptions true 1) plainOpenEnv blankSuperBlock blankGroup = (Err.kSuccess, dc) ∧
    dc.metaIndex = ∅ ∧ dc.wal = blankWal 2 1 := by
  have walOpened := (blank_opens 2 1 (by decide) (by decide) (by decide)).1
  obtain ⟨snapshot, snapshotOpened, _⟩ := snapshot_created blankSuperBlock (plainOptions true 1) plainOpenEnv.toSnapshotEnv (blankDevice 4)
    rfl rfl (fun _ => rfl) rfl rfl (by decide)
  have ioOpened : SyncIoBackend.openIo ⟨blankDevice 512, 0⟩ = (Err.kSuccess, ⟨{ blankDevice 512 with isOpen := true }, 2⟩) := by
    simp [SyncIoBackend.openIo, RawDevice.openDevice, blankDevice, kDataRegionOffset, kValueSize]
  exact ⟨_, open_device_created (plainOptions true 1) plainOpenEnv blankSuperBlock blankGroup _ _ snapshot rfl ioOpened (by decide)
    walOpened snapshotOpened, rfl, rfl⟩

end Cabe
