import Cabe.GroupCreation
import Cabe.WalResults

set_option autoImplicit false

namespace Cabe

open Storage

-- A device that still holds the first 8192 bytes it held.
def SameHead (before after : RawDevice) : Prop := ∀ o < 8192, after.medium.cur o = before.medium.cur o

theorem same_head_refl (d : RawDevice) : SameHead d d := fun _ _ => rfl

theorem same_head_trans (a b c : RawDevice) (first : SameHead a b) (second : SameHead b c) : SameHead a c :=
  fun o inside => (second o inside).trans (first o inside)

def Behind (offset : Nat) (_ : Bytes) : Prop := 8192 ≤ offset

theorem driven_head (before after : RawDevice) (driven : Driven before after Behind) : SameHead before after := by
  intro o inside
  exact driven_outside before after Behind driven o fun offset buf behind => .inl (Nat.lt_of_lt_of_le inside behind)

theorem erase_from_driven (w : Wal) (off zone : Nat) (behind : 8192 ≤ off) : Driven w.dev (w.eraseFrom off zone).2.dev Behind := by
  fun_induction Wal.eraseFrom w off zone with
  | case1 w off inside len rc dev wrote failed =>
      have step := driven_write w.dev off ((w.curBuf.getD []).take len) Behind behind
      rw [wrote] at step
      exact step
  | case2 w off inside len rc dev wrote fine more ih =>
      have step := driven_write w.dev off ((w.curBuf.getD []).take len) Behind behind
      rw [wrote] at step
      exact driven_trans _ _ _ _ step (ih (by omega))
  | case3 w off inside len rc dev wrote fine stuck => exact driven_refl _ _
  | case4 w off outside => exact driven_refl _ _

theorem erase_zone_driven (w : Wal) (fragments stopOff : Nat) (behind : 8192 ≤ w.curOff) :
    Driven w.dev (w.eraseZone fragments stopOff).2.dev Behind := by
  unfold Wal.eraseZone
  split
  · refine erase_from_driven w _ _ ?_
    split <;> omega
  · exact driven_refl _ _

theorem refill_tail (w : Wal) (fragments : Nat) : (w.refill fragments).2.curOff = w.curOff := by
  unfold Wal.refill
  split
  · split
    · rfl
    · dsimp only
      split <;> rfl
  · rfl

theorem refill_driven (w : Wal) (fragments : Nat) (behind : 8192 ≤ w.curOff) : Driven w.dev (w.refill fragments).2.dev Behind := by
  unfold Wal.refill
  split
  · split
    · exact driven_refl _ _
    · dsimp only
      split
      · exact driven_write _ _ _ _ behind
      · exact driven_refl _ _
  · exact driven_refl _ _

theorem seal_driven (w : Wal) (fragments : Nat) : Driven w.dev (w.seal fragments).2.dev Behind ∧ (w.seal fragments).2.curOff = w.curOff := by
  unfold Wal.seal
  split
  · exact ⟨driven_sync _ _, rfl⟩
  · exact ⟨driven_refl _ _, rfl⟩

-- The self check passes only where the tail lies in the ring, and the tail was
-- there from the first write on.
theorem rebuild_driven {σ : Type} (w : Wal) (covered : Nat) (c : RecoverCensus) (s : Scan σ) (start : w.ringStart = 8192)
    (done : (w.rebuild covered c s).1 = Err.kSuccess) : Driven w.dev (w.rebuild covered c s).2.dev Behind := by
  have ground := rebuild_ground w covered c s
  unfold Wal.rebuild at done ground ⊢
  simp only at done ground ⊢
  generalize placed_ : w.placeTail c (if s.hasAnchor = true then s.anchorOff else c.maxValidOff)
    (if s.hasAnchor = true then s.anchorSeq else c.maxValidSeq) = placed at done ground ⊢
  have device : placed.dev = w.dev := by rw [← placed_]; rfl
  have erased := (erase_zone_place placed s.fragments s.stopOff).1.curOff
  have first := erase_zone_driven placed s.fragments s.stopOff
  rw [← device]
  cases out : placed.eraseZone s.fragments s.stopOff with
  | mk rc w1 =>
  rw [out] at erased first
  simp only [out] at done ground ⊢
  by_cases refused : rc ≠ Err.kSuccess
  · rw [if_pos refused] at done
    exact absurd done refused
  rw [if_neg refused] at done ground ⊢
  have filled := refill_tail w1 s.fragments
  have second := refill_driven w1 s.fragments
  cases out : w1.refill s.fragments with
  | mk rc w2 =>
  rw [out] at filled second
  simp only [out] at done ground ⊢
  by_cases refused : rc ≠ Err.kSuccess
  · rw [if_pos refused] at done
    exact absurd done refused
  rw [if_neg refused] at done ground ⊢
  obtain ⟨third, sealed_⟩ := seal_driven w2 s.fragments
  cases out : w2.seal s.fragments with
  | mk rc w3 =>
  rw [out] at third sealed_
  simp only [out] at done ground ⊢
  by_cases refused : rc ≠ Err.kSuccess
  · rw [if_pos refused] at done
    exact absurd done refused
  rw [if_neg refused] at done ground ⊢
  split at done
  · rename_i checked
    rw [if_pos checked] at ground ⊢
    have start_ : w3.ringStart = 8192 := ground.ringStart.trans start
    have inside : w3.ringStart ≤ w3.curOff := (of_decide_eq_true checked).2.2.1
    simp only at erased filled sealed_
    have here : 8192 ≤ placed.curOff := by omega
    exact driven_trans _ _ _ _ (first here) (driven_trans _ _ _ _ (second (by omega)) third)
  · exact absurd (show Err.kWalRecoveryInvariant = Err.kSuccess from done) (by decide)

theorem recover_driven {σ : Type} (w : Wal) (covered : Nat) (fn : WalReplayFn σ) (st : σ) (start : w.ringStart = 8192)
    (done : (w.recover covered fn st).rc = Err.kSuccess) : Driven w.dev (w.recover covered fn st).wal.dev Behind := by
  unfold Wal.recover at done ⊢
  split at done
  · exact absurd (show Err.kEngineInvalidOpts = Err.kSuccess from done) (by decide)
  · rename_i closed
    rw [if_neg closed]
    split at done
    · exact absurd (show Err.kEngineInvalidOpts = Err.kSuccess from done) (by decide)
    · rename_i held
      rw [if_neg held]
      simp only at done ⊢
      generalize armed_ : ({ w with curBuf := some (zeros w.bufSize) } : Wal) = armed at done ⊢
      have device : armed.dev = w.dev := by rw [← armed_]
      have here : armed.ringStart = 8192 := by rw [← armed_, start]
      rw [← device]
      cases surveyed : armed.survey covered fn st with
      | error rc => exact driven_refl _ _
      | ok found =>
          obtain ⟨c, s⟩ := found
          simp only [surveyed] at done ⊢
          split at done
          · rename_i none_
            rw [if_pos none_]
            exact driven_refl _ _
          · rename_i some_
            rw [if_neg some_]
            exact rebuild_driven armed covered c s here done

theorem clear_driven (s : Snapshot) (env : SnapshotEnv) (slotA : 8192 ≤ s.slotAOff) (slotB : 8192 ≤ s.slotBOff)
    (done : (s.clear env).1 = Err.kSuccess) : Driven s.dev (s.clear env).2.dev Behind := by
  unfold Snapshot.clear at done ⊢
  split at done
  · exact absurd (show Err.kSnapshotWriteFailed = Err.kSuccess from done) (by decide)
  · rename_i granted
    rw [if_neg granted]
    have first := driven_write s.dev s.slotAOff (zeros kSnapshotSlotHeaderSize) Behind slotA
    cases out : s.dev.writeAt s.slotAOff (zeros kSnapshotSlotHeaderSize) with
    | mk wa one =>
    rw [out] at first
    have second := driven_write one s.slotBOff (zeros kSnapshotSlotHeaderSize) Behind slotB
    simp only [out] at done ⊢
    cases out : one.writeAt s.slotBOff (zeros kSnapshotSlotHeaderSize) with
    | mk wb two =>
    rw [out] at second
    have both := driven_trans _ _ _ _ first second
    simp only [out] at done ⊢
    by_cases failed : wa ≠ Err.kSuccess ∨ wb ≠ Err.kSuccess
    · simp only [if_pos failed] at done
      exact absurd (show Err.kSnapshotWriteFailed = Err.kSuccess from done) (by decide)
    · simp only [if_neg failed] at done ⊢
      by_cases refused : two.sync.1 ≠ Err.kSuccess
      · rw [if_pos refused] at done
        exact absurd (show Err.kSnapshotWriteFailed = Err.kSuccess from done) (by decide)
      · rw [if_neg refused]
        exact driven_trans _ _ _ _ both (driven_sync two Behind)

theorem adjudicate_device (s next : Snapshot) (opts : Options) (env : SnapshotEnv) (done : s.adjudicate opts env = .ok next) :
    next.dev = s.dev := by
  unfold Snapshot.adjudicate at done
  split at done
  · cases done
  · split at done
    · simp only at done
      split at done
      · cases done
      · split at done
        · cases done
          rfl
        · split at done
          · cases done
          · cases done
            rfl
    · cases done

theorem open_snapshot_head (dev : RawDevice) (opts : Options) (env : SnapshotEnv) (sb : SuperBlock) (next : Snapshot)
    (done : (Snapshot.unopened dev).openSnapshot opts env sb = (Err.kSuccess, next)) : SameHead dev next.dev := by
  unfold Snapshot.openSnapshot RawDevice.openDevice at done
  cases closed : (Snapshot.unopened dev).dev.isOpen with
  | true => simp [closed, Err.kIoBase, Err.kSuccess] at done
  | false =>
      simp only [closed, Bool.false_eq_true, if_false, ne_eq, not_true_eq_false] at done
      split at done
      · exact absurd (congrArg Prod.fst done) (show Err.kDeviceTooSmall ≠ Err.kSuccess by decide)
      · split at done
        · exact absurd (congrArg Prod.fst done) (show Err.kDeviceTooSmall ≠ Err.kSuccess by decide)
        · split at done
          · have driven := clear_driven _ env (Nat.le_refl _) (Nat.le_add_right _ _) (congrArg Prod.fst done)
            rw [done] at driven
            exact fun o inside => driven_head _ _ driven o inside
          · split at done
            · cases done
              exact fun o _ => rfl
            · rename_i adjudicated
              cases done
              exact fun o _ => by rw [adjudicate_device _ _ opts env adjudicated]; rfl

theorem open_io_head (dev : RawDevice) (io : SyncIoBackend) (done : SyncIoBackend.openIo ⟨dev, 0⟩ = (Err.kSuccess, io)) :
    SameHead dev io.dev := by
  unfold SyncIoBackend.openIo RawDevice.openDevice at done
  cases closed : dev.isOpen with
  | true => simp [closed, Err.kIoBase, Err.kSuccess] at done
  | false =>
      simp only [closed, Bool.false_eq_true, if_false, ne_eq, not_true_eq_false] at done
      split at done
      · exact absurd (congrArg Prod.fst done) (show Err.kEngineInvalidOpts ≠ Err.kSuccess by decide)
      · split at done
        · exact absurd (congrArg Prod.fst done) (show Err.kEngineInvalidOpts ≠ Err.kSuccess by decide)
        · cases done
          exact fun o _ => rfl

theorem open_wal_head (dev : RawDevice) (opts : Options) (w : Wal) (opened : JustOpened dev opts w) : SameHead dev w.dev := by
  intro o _
  rw [opened.device]

-- A round of the opening loop writes behind the super blocks.
theorem open_device_heads (opts : Options) (env : OpenEnv) (sb : SuperBlock) (g : DeviceGroup) (dc : DeviceContext)
    (done : openDevice opts env sb g = (Err.kSuccess, dc)) :
    SameHead g.data dc.io.dev ∧ SameHead g.wal dc.wal.dev ∧ SameHead g.snapshot dc.snapshot.dev := by
  obtain ⟨io, ioOpened, _, created | recovered⟩ := open_device_ok opts env sb g dc done
  · obtain ⟨_, wal, snapshot, walOpened, snapshotOpened, rfl⟩ := created
    exact ⟨open_io_head g.data io ioOpened, open_wal_head g.wal opts wal (open_wal_success g.wal opts wal walOpened),
      open_snapshot_head g.snapshot opts _ sb snapshot snapshotOpened⟩
  · obtain ⟨_, ⟨stations⟩⟩ := recovered
    have just := open_wal_success g.wal opts stations.wal stations.walOpened
    have driven := driven_head _ _ (recover_driven stations.wal _ _ _ just.ringStart stations.replayed)
    rw [stations.sameIo, stations.sameWal, stations.sameSnapshot]
    exact ⟨open_io_head g.data io ioOpened, same_head_trans _ _ _ (open_wal_head g.wal opts _ just) driven,
      open_snapshot_head g.snapshot opts _ sb _ stations.opened⟩

-- Both copies on the device are the given super block, byte for byte.
def RawDevice.Bears (d : RawDevice) (sb : DiskSuperBlock) : Prop :=
  ∀ pos, pos = 0 ∨ pos = 4096 → read d.medium.cur pos 4096 = sb.toBytes

def RawDevice.Unformatted (d : RawDevice) : Prop := ¬ ValidAt d.medium.cur 0 ∧ ¬ ValidAt d.medium.cur 4096

theorem head_read (before after : RawDevice) (same : SameHead before after) (pos : Nat) (place : pos = 0 ∨ pos = 4096) :
    read after.medium.cur pos 4096 = read before.medium.cur pos 4096 := by
  apply read_congr
  intro i inside
  exact same (pos + i) (by omega)

theorem bears_head (before after : RawDevice) (sb : DiskSuperBlock) (same : SameHead before after) (bears : before.Bears sb) : after.Bears sb :=
  fun pos place => (head_read before after same pos place).trans (bears pos place)

theorem unformatted_head (before after : RawDevice) (same : SameHead before after) (blank : before.Unformatted) : after.Unformatted := by
  have primary := head_read before after same 0 (.inl rfl)
  have backup := head_read before after same 4096 (.inr rfl)
  constructor
  · exact fun valid => blank.1 ((valid_of_copy _ _ 0 0 (copy_of_read _ _ 0 0 primary)).mp valid)
  · exact fun valid => blank.2 ((valid_of_copy _ _ 4096 4096 (copy_of_read _ _ 4096 4096 backup)).mp valid)

theorem bears_copy (d : RawDevice) (sb : DiskSuperBlock) (bears : d.Bears sb) (pos : Nat) (place : pos = 0 ∨ pos = 4096) :
    copyAt d.medium.cur pos = sb := copy_of_bytes _ _ _ (bears pos place)

theorem bears_one (d : RawDevice) (a b : DiskSuperBlock) (first : d.Bears a) (second : d.Bears b) : a = b :=
  (bears_copy d a first 0 (.inl rfl)).symm.trans (bears_copy d b second 0 (.inl rfl))

theorem write_pair_bears (alloc : Nat → Bool) (d : RawDevice) (sb : DiskSuperBlock) (done : (writeSuperBlockPair alloc d sb).1 = Err.kSuccess) :
    (writeSuperBlockPair alloc d sb).2.Bears sb := by
  unfold writeSuperBlockPair at done ⊢
  split at done
  · exact absurd (show Err.kIoBase = Err.kSuccess from done) (by decide)
  · rename_i granted
    rw [if_neg granted]
    have first := write_at_ok d kSuperBlockSize sb.toBytes
    cases out : d.writeAt kSuperBlockSize sb.toBytes with
    | mk rc one =>
    rw [out] at first
    simp only [out] at done ⊢
    by_cases refused : rc ≠ Err.kSuccess
    · rw [if_pos refused] at done
      exact absurd done refused
    rw [if_neg refused] at done ⊢
    obtain ⟨_, _, backup⟩ := first (not_not.mp refused)
    have second := sync_ok one
    cases out : one.sync with
    | mk rc two =>
    rw [out] at second
    simp only [out] at done ⊢
    by_cases refused : rc ≠ Err.kSuccess
    · rw [if_pos refused] at done
      exact absurd done refused
    rw [if_neg refused] at done ⊢
    obtain ⟨_, synced⟩ := second (not_not.mp refused)
    have third := write_at_ok two 0 sb.toBytes
    cases out : two.writeAt 0 sb.toBytes with
    | mk rc three =>
    rw [out] at third
    simp only [out] at done ⊢
    by_cases refused : rc ≠ Err.kSuccess
    · rw [if_pos refused] at done
      exact absurd done refused
    rw [if_neg refused] at done ⊢
    obtain ⟨_, _, primary⟩ := third (not_not.mp refused)
    obtain ⟨_, last⟩ := sync_ok three done
    simp only at backup synced primary
    rw [last, primary, synced, backup]
    exact stamped_bytes sb d.medium.cur

-- Bytes that a device holds already can be written to it again in vain, also
-- where the write fails halfway.
theorem write_again (d : RawDevice) (offset : Nat) (buf : Bytes) (held : read d.medium.cur offset buf.length = buf) :
    (d.writeAt offset buf).2.medium.cur = d.medium.cur := by
  have same : write d.medium.cur offset buf = d.medium.cur := by
    funext o
    by_cases inside : offset ≤ o ∧ o < offset + buf.length
    · rw [write_inside _ _ _ _ inside.1 inside.2]
      have byte := read_getElem? d.medium.cur offset buf.length (o - offset) (by omega)
      rw [held, Nat.add_sub_cancel' inside.1] at byte
      simp [byte]
    · exact write_outside _ _ _ _ (by omega)
  unfold RawDevice.writeAt
  split
  · split
    · exact same
    · funext o
      simp only [record_medium, medium_put_cur, writeSome, same, ite_self]
  · rfl

theorem sync_image (d : RawDevice) : d.sync.2.medium.cur = d.medium.cur := by
  unfold RawDevice.sync
  split
  · split <;> rfl
  · rfl

theorem read_at_bytes (d : RawDevice) (offset len : Nat) (buf : Bytes) (found : d.readAt offset len = some buf) :
    buf = read d.medium.cur offset len := by
  unfold RawDevice.readAt at found
  split at found
  · exact (Option.some.inj found).symm
  · cases found

-- Whatever part of a device can be read, it shows the super block it bears, and
-- a repair changes none of its bytes.
theorem read_bears (alloc : Nat → Bool) (d after : RawDevice) (sb found : DiskSuperBlock) (bears : d.Bears sb)
    (done : readSuperBlockWithRepair alloc d = (.ok found, after)) : found = sb ∧ SameHead d after := by
  have backup (primaryReadOk : Bool) (primaryCheck : SbCheck)
      (done : readBackupWithRepair d primaryReadOk primaryCheck = (.ok found, after)) : found = sb ∧ SameHead d after := by
    unfold readBackupWithRepair at done
    cases shown : d.readAt kSuperBlockSize kSuperBlockSize with
    | none => simp [shown] at done
    | some buf =>
        have bytes : buf = sb.toBytes := (read_at_bytes d _ _ buf shown).trans (bears 4096 (.inr rfl))
        simp only [shown] at done
        split at done
        · have again := write_again d 0 buf (by rw [bytes, super_block_bytes_length]; exact bears 0 (.inl rfl))
          cases out : d.writeAt 0 buf with
          | mk rc one =>
          rw [out] at again
          simp only [out, Prod.mk.injEq, Except.ok.injEq] at done
          obtain ⟨rfl, rfl⟩ := done
          refine ⟨by rw [bytes, super_block_of_to_bytes], fun o _ => ?_⟩
          split
          · rw [again]
          · rw [sync_image, again]
        · simp at done
  unfold readSuperBlockWithRepair at done
  split at done
  · simp at done
  · cases shown : d.readAt 0 kSuperBlockSize with
    | none =>
        rw [shown] at done
        exact backup _ _ done
    | some buf =>
        have bytes : buf = sb.toBytes := (read_at_bytes d _ _ buf shown).trans (bears 0 (.inl rfl))
        simp only [shown] at done
        split at done
        · simp only [Prod.mk.injEq, Except.ok.injEq] at done
          obtain ⟨rfl, rfl⟩ := done
          exact ⟨by rw [bytes, super_block_of_to_bytes], same_head_refl d⟩
        · exact backup _ _ done

theorem read_unformatted (alloc : Nat → Bool) (d after : RawDevice) (found : DiskSuperBlock) (blank : d.Unformatted) :
    readSuperBlockWithRepair alloc d ≠ (.ok found, after) := by
  intro done
  have backup (primaryReadOk : Bool) (primaryCheck : SbCheck) : readBackupWithRepair d primaryReadOk primaryCheck ≠ (.ok found, after) := by
    intro done
    unfold readBackupWithRepair at done
    cases shown : d.readAt kSuperBlockSize kSuperBlockSize with
    | none => simp [shown] at done
    | some buf =>
        simp only [shown] at done
        split at done
        · rename_i valid
          rw [read_at_bytes d _ _ buf shown] at valid
          exact blank.2 valid
        · simp at done
  unfold readSuperBlockWithRepair at done
  split at done
  · simp at done
  · cases shown : d.readAt 0 kSuperBlockSize with
    | none =>
        rw [shown] at done
        exact backup _ _ done
    | some buf =>
        simp only [shown] at done
        split at done
        · rename_i valid
          rw [read_at_bytes d _ _ buf shown] at valid
          exact blank.1 valid
        · exact backup _ _ done

theorem open_all_done (g after : DeviceGroup) (done : g.openAll = (Err.kSuccess, after)) : after = g.opened := by
  have opens (d : RawDevice) (rc : Rc) (one : RawDevice) (out : d.openDevice = (rc, one)) (fine : ¬ rc ≠ Err.kSuccess) : one = d.opened := by
    unfold RawDevice.openDevice at out
    split at out
    · cases out
      exact absurd (show Err.kIoBase ≠ Err.kSuccess by decide) fine
    · cases out
      rfl
  unfold DeviceGroup.openAll at done
  cases dataOut : g.data.openDevice with
  | mk rc data =>
  simp only [dataOut] at done
  by_cases dataFine : rc ≠ Err.kSuccess
  · rw [if_pos dataFine] at done
    exact absurd (congrArg Prod.fst done) (show Err.kIoBase ≠ Err.kSuccess by decide)
  rw [if_neg dataFine] at done
  cases walOut : g.wal.openDevice with
  | mk rc wal =>
  simp only [walOut] at done
  by_cases walFine : rc ≠ Err.kSuccess
  · rw [if_pos walFine] at done
    exact absurd (congrArg Prod.fst done) (show Err.kIoBase ≠ Err.kSuccess by decide)
  rw [if_neg walFine] at done
  cases snapOut : g.snapshot.openDevice with
  | mk rc snapshot =>
  simp only [snapOut] at done
  by_cases snapFine : rc ≠ Err.kSuccess
  · rw [if_pos snapFine] at done
    exact absurd (congrArg Prod.fst done) (show Err.kIoBase ≠ Err.kSuccess by decide)
  rw [if_neg snapFine] at done
  cases done
  rw [opens _ _ _ dataOut dataFine, opens _ _ _ walOut walFine, opens _ _ _ snapOut snapFine]
  rfl

-- Whatever the devices do, a create that reports success has put its super
-- blocks on all three.
theorem create_bears (env : CreateEnv) (deviceId deviceCount : UInt64) (g after : DeviceGroup) (sb : DiskSuperBlock)
    (done : createDeviceGroup env deviceId deviceCount g = (.ok sb, after)) :
    ∃ uuids, env.entropy = some uuids ∧ sb = (g.call uuids env.now deviceId deviceCount).dataSb ∧
      after.data.Bears (g.call uuids env.now deviceId deviceCount).dataSb ∧ after.wal.Bears (g.call uuids env.now deviceId deviceCount).walSb ∧
      after.snapshot.Bears (g.call uuids env.now deviceId deviceCount).snapSb := by
  unfold createDeviceGroup at done
  cases opened : g.openAll with
  | mk rc o =>
  simp only [opened] at done
  by_cases refused : rc ≠ Err.kSuccess
  · rw [if_pos refused] at done
    cases done
  rw [if_neg refused] at done
  have same := open_all_done g o (by rw [opened, not_not.mp refused])
  subst same
  unfold DeviceGroup.createOpened at done
  by_cases small : g.opened.tooSmall = true
  · rw [if_pos small] at done
    cases done
  rw [if_neg small] at done
  cases entropy : env.entropy with
  | none => simp [entropy] at done
  | some uuids =>
      refine ⟨uuids, rfl, ?_⟩
      simp only [entropy] at done
      rw [show g.opened.call uuids env.now deviceId deviceCount = g.call uuids env.now deviceId deviceCount from rfl] at done
      generalize g.call uuids env.now deviceId deviceCount = c at done ⊢
      have walBears := write_pair_bears env.alloc g.opened.wal c.walSb
      generalize writeSuperBlockPair env.alloc g.opened.wal c.walSb = out at done walBears
      obtain ⟨rc, wal⟩ := out
      by_cases walFine : rc ≠ Err.kSuccess
      · simp [walFine] at done
      simp only [if_neg walFine] at done
      have snapBears := write_pair_bears env.alloc g.opened.snapshot c.snapSb
      generalize writeSuperBlockPair env.alloc g.opened.snapshot c.snapSb = out at done snapBears
      obtain ⟨rc, snapshot⟩ := out
      by_cases snapFine : rc ≠ Err.kSuccess
      · simp [snapFine] at done
      simp only [if_neg snapFine] at done
      have dataBears := write_pair_bears env.alloc g.opened.data c.dataSb
      generalize writeSuperBlockPair env.alloc g.opened.data c.dataSb = out at done dataBears
      obtain ⟨rc, data⟩ := out
      by_cases dataFine : rc ≠ Err.kSuccess
      · simp [dataFine] at done
      simp only [if_neg dataFine, Prod.mk.injEq, Except.ok.injEq] at done
      obtain ⟨rfl, rfl⟩ := done
      exact ⟨rfl, dataBears (not_not.mp dataFine), walBears (not_not.mp walFine), snapBears (not_not.mp snapFine)⟩

theorem recover_reads (alloc : Nat → Bool) (deviceId deviceCount : UInt64) (g after : DeviceGroup) (sb : DiskSuperBlock)
    (done : recoverDeviceGroup alloc deviceId deviceCount g = (.ok sb, after)) :
    ∃ data wal snap dataDev walDev snapDev, readSuperBlockWithRepair alloc g.data.opened = (.ok data, dataDev) ∧
      readSuperBlockWithRepair alloc g.wal.opened = (.ok wal, walDev) ∧
      readSuperBlockWithRepair alloc g.snapshot.opened = (.ok snap, snapDev) ∧
      (∃ blocks, checkDeviceGroup deviceId deviceCount blocks data wal snap = .ok sb) ∧
      after = ⟨dataDev.close.2, walDev.close.2, snapDev.close.2⟩ := by
  unfold recoverDeviceGroup at done
  cases opened : g.openAll with
  | mk rc o =>
  simp only [opened] at done
  by_cases refused : rc ≠ Err.kSuccess
  · rw [if_pos refused] at done
    cases done
  rw [if_neg refused] at done
  have same := open_all_done g o (by rw [opened, not_not.mp refused])
  subst same
  unfold DeviceGroup.recoverOpened at done
  by_cases small : g.opened.tooSmall = true
  · rw [if_pos small] at done
    cases done
  rw [if_neg small] at done
  simp only [DeviceGroup.opened] at done
  generalize readSuperBlockWithRepair alloc g.data.opened = dataRead at done ⊢
  obtain ⟨rc | data, dataDev⟩ := dataRead
  · cases done
  generalize readSuperBlockWithRepair alloc g.wal.opened = walRead at done ⊢
  obtain ⟨rc | wal, walDev⟩ := walRead
  · cases done
  generalize readSuperBlockWithRepair alloc g.snapshot.opened = snapRead at done ⊢
  obtain ⟨rc | snap, snapDev⟩ := snapRead
  · cases done
  simp only [Prod.mk.injEq] at done
  obtain ⟨passed, rfl⟩ := done
  exact ⟨data, wal, snap, dataDev, walDev, snapDev, rfl, rfl, rfl, ⟨_, passed⟩, rfl⟩

end Cabe
