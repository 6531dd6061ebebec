import Cabe.ReactorCrash
import Cabe.SnapshotTrigger
import Cabe.StoreLives

set_option autoImplicit false

namespace Cabe

open Storage Concurrency

-- Every content the medium may come back with holds the values of this index.
def SyncIoBackend.Holds (io : SyncIoBackend) (index : MetaIndex) (m : Medium) : Prop :=
  ∀ key meta_, index.lookup key = some meta_ → ∀ img ∈ m.versions,
    Storage.read img (valueOffset meta_.block.blockIdx) kValueSize = io.valueAt meta_

def Reactor.Durable (r : Reactor) : Prop := r.dc.io.Holds r.dc.metaIndex r.dc.io.dev.medium

theorem holds_flushed (io : SyncIoBackend) (index : MetaIndex) (clean : io.dev.medium.unsynced = []) : io.Holds index io.dev.medium := by
  intro key meta_ _ img member
  rw [Medium.versions, clean, List.mem_singleton] at member
  rw [member, SyncIoBackend.valueAt]

theorem holds_survives (io : SyncIoBackend) (index : MetaIndex) (m : Medium) (img : Image) (holds : io.Holds index m)
    (alive : m.Survives kSectorSize img) (key : Key) (meta_ : ValueMeta) (found : index.lookup key = some meta_) :
    Storage.read img (valueOffset meta_.block.blockIdx) kValueSize = io.valueAt meta_ :=
  mix_read_agree kSectorSize m.versions img alive _ _ _ (holds key meta_ found)

-- A block that no entry of the index names.
def MetaIndex.FreeBlock (index : MetaIndex) (idx : Nat) : Prop := ∀ key meta_, index.lookup key = some meta_ → meta_.block.blockIdx ≠ idx

theorem holds_put (io : SyncIoBackend) (index : MetaIndex) (m : Medium) (idx : Nat) (bytes : Bytes) (img : Image) (holds : io.Holds index m)
    (now : m.cur = io.dev.medium.cur) (free : index.FreeBlock idx) (size : bytes.length = kValueSize)
    (outside : ∀ o, (o < valueOffset idx ∨ valueOffset idx + bytes.length ≤ o) → img o = m.cur o) : io.Holds index (m.put img) := by
  intro key meta_ found v member
  have apart := free key meta_ found
  have far (o : Nat) (bound : o < kValueSize) :
      valueOffset meta_.block.blockIdx + o < valueOffset idx ∨ valueOffset idx + bytes.length ≤ valueOffset meta_.block.blockIdx + o := by
    rw [size]
    simp only [valueOffset, kValueSize] at *
    omega
  rw [medium_versions_put] at member
  rcases List.mem_cons.mp member with rfl | old
  · rw [SyncIoBackend.valueAt, ← now]
    exact read_congr _ _ _ _ fun o bound => outside _ (far o bound)
  · exact holds key meta_ found v old

theorem traced_last (before after : RawDevice) (P : Medium → Prop) (traced : Traced before after P) (here : P before.medium) : P after.medium := by
  obtain ⟨calls, _, medium, every⟩ := traced
  rw [medium]
  cases last : calls.getLast? with
  | none => exact here
  | some m => exact every m (List.mem_of_getLast? last)

theorem sync_traced_holds (io : SyncIoBackend) (index : MetaIndex) (d : RawDevice) (holds : io.Holds index d.medium) :
    Traced d d.sync.2 (io.Holds index) := by
  by_cases opened : d.isOpen = true
  · rcases sync_cases d opened with ⟨_, done⟩ | ⟨_, _, failed⟩
    · rw [done]
      refine traced_record _ _ _ fun key meta_ found v member => holds key meta_ found v ?_
      rw [medium_versions_flush, List.mem_singleton] at member
      rw [member]
      exact medium_cur_mem d.medium
    · rw [failed]
      exact traced_record _ _ _ holds
  · have still : d.sync = (Err.kIoBase, d) := by
      unfold RawDevice.sync
      rw [if_neg opened]
    rw [still]
    exact traced_refl _ _

-- A value that is written to a free block endangers no other, whatever becomes of
-- the calls and wherever power is lost.
theorem io_write_holds (io : SyncIoBackend) (index : MetaIndex) (level : WalLevel) (idx : Nat) (buffer : IoWriteBuffer)
    (holds : io.Holds index io.dev.medium) (free : index.FreeBlock idx)
    (short : ∀ bytes, buffer.data = some bytes → bytes.length = kValueSize) :
    Traced io.dev (io.write level idx buffer).2.dev (io.Holds index) := by
  unfold SyncIoBackend.write
  split
  · exact traced_refl _ _
  · cases given : buffer.data with
    | none => exact traced_refl _ _
    | some bytes =>
        simp only
        split
        · exact traced_refl _ _
        · have wrote : Traced io.dev (io.dev.writeAt (valueOffset idx) bytes).2 (io.Holds index) := by
            rcases write_at_medium io.dev (valueOffset idx) bytes with same | ⟨img, put, outside⟩
            · rw [same]
              exact traced_refl _ _
            · rw [put]
              exact traced_record _ _ _ (holds_put io index _ idx bytes img holds rfl free (short bytes given) outside)
          generalize io.dev.writeAt (valueOffset idx) bytes = out at wrote ⊢
          split
          · exact wrote
          · split
            · exact traced_trans _ _ _ _ wrote (sync_traced_holds io index out.2 (traced_last _ _ _ wrote holds))
            · exact wrote

-- At the strict level a write that succeeds is durable when it returns.
theorem io_write_flushed (io : SyncIoBackend) (level : WalLevel) (idx : Nat) (buffer : IoWriteBuffer) (fua : isValueFuaLevel level = true)
    (done : (io.write level idx buffer).1 = Err.kSuccess) : (io.write level idx buffer).2.dev.medium.unsynced = [] := by
  have failed : Err.kIoBase ≠ Err.kSuccess := by decide
  unfold SyncIoBackend.write at done ⊢
  split at done
  · exact absurd done failed
  · rename_i inside
    rw [if_neg inside]
    cases given : buffer.data with
    | none =>
        rw [given] at done
        exact absurd done failed
    | some bytes =>
        rw [given] at done
        simp only at done ⊢
        split at done
        · exact absurd done failed
        · rename_i whole
          rw [if_neg whole]
          generalize io.dev.writeAt (valueOffset idx) bytes = out at done ⊢
          split at done
          · exact absurd done failed
          · rename_i wrote
            rw [if_neg wrote, if_pos fua]
            by_cases synced : out.2.sync.1 = Err.kSuccess
            · rw [(sync_ok out.2 synced).2]
              rfl
            · simp only [synced, ne_eq, not_false_eq_true, if_true] at done
              exact absurd done failed

-- What an operation does to the data device: nothing, or one write to a block that
-- the index names, if at all, only once the write has succeeded.
inductive Reactor.Stores (r after : Reactor) : Prop
  | still (io : after.dc.io = r.dc.io)
      (fewer : ∀ key meta_, after.dc.metaIndex.lookup key = some meta_ → r.dc.metaIndex.lookup key = some meta_) : Stores r after
  | wrote (idx : Nat) (buffer : IoWriteBuffer) (io : after.dc.io = (r.dc.io.write r.options.walLevel idx buffer).2)
      (short : ∀ bytes, buffer.data = some bytes → bytes.length = kValueSize) (free : r.dc.metaIndex.FreeBlock idx)
      (named : (r.dc.io.write r.options.walLevel idx buffer).1 = Err.kSuccess ∨ after.dc.metaIndex = r.dc.metaIndex) : Stores r after

theorem stores_same (r after : Reactor) (io : after.dc.io = r.dc.io) (index : after.dc.metaIndex = r.dc.metaIndex) : r.Stores after :=
  .still io fun _ _ found => index ▸ found

theorem put_stores (sb : SuperBlock) (r : Reactor) (env : OpEnv) (req : PutRequest) (fits : sb.blockCount ≤ 2 ^ 56) (owns : r.Owns sb)
    (size : req.value.bytes.length = kValueSize) : r.Stores (r.executePut env req).2 := by
  unfold Reactor.executePut
  cases taken : r.dc.blockAllocator.acquire with
  | error rc => exact stores_same _ _ rfl rfl
  | ok got =>
      obtain ⟨block, allocator⟩ := got
      simp only
      cases leased : (r.withAllocator allocator).leaseWriteBuffer req with
      | error rc => exact stores_same _ _ rfl rfl
      | ok got =>
          obtain ⟨lease, buffer, r1⟩ := got
          obtain ⟨given, index, io⟩ := lease_buffer _ _ _ _ _ leased
          have level : r1.options.walLevel = r.options.walLevel := congrArg Options.walLevel (lease_log _ _ _ _ _ leased).options
          have short (bytes : Bytes) (data : buffer.data = some bytes) : bytes.length = kValueSize := by
            rcases given with none_ | some_
            · rw [none_] at data
              cases data
            · rw [some_] at data
              cases data
              exact size
          have free : r.dc.metaIndex.FreeBlock block.blockIdx := fun key meta_ found =>
            acquired_apart sb r block allocator fits owns taken key meta_ found
          simp only
          have device : ((r1.withIo (r1.dc.io.write r1.options.walLevel block.blockIdx buffer).2).resetLease lease).dc.io =
              (r.dc.io.write r.options.walLevel block.blockIdx buffer).2 ∧
              ((r1.withIo (r1.dc.io.write r1.options.walLevel block.blockIdx buffer).2).resetLease lease).dc.metaIndex = r.dc.metaIndex := by
            rw [level, io]
            cases lease <;> exact ⟨rfl, index⟩
          have code : (r1.dc.io.write r1.options.walLevel block.blockIdx buffer).1 =
              (r.dc.io.write r.options.walLevel block.blockIdx buffer).1 := by
            rw [level, io]
            rfl
          generalize r1.dc.io.write r1.options.walLevel block.blockIdx buffer = out at device code ⊢
          generalize (r1.withIo out.2).resetLease lease = r2 at device ⊢
          have unnamed (after : Reactor) (sameIo : after.dc.io = r2.dc.io) (sameIndex : after.dc.metaIndex = r2.dc.metaIndex) :
              r.Stores after :=
            .wrote block.blockIdx buffer (sameIo.trans device.1) short free (.inr (sameIndex.trans device.2))
          split
          · exact unnamed _ rfl rfl
          · rename_i done
            rw [code] at done
            have store := write_rescuing_store r2 env.rescue (putEntry req.key block (Util.crc32 req.value.bytes) env.now)
            generalize r2.writeWalRescuing env.rescue (putEntry req.key block (Util.crc32 req.value.bytes) env.now) = logged at store ⊢
            split
            · exact unnamed _ store.io store.index
            · refine .wrote block.blockIdx buffer ?_ short free (.inl (not_not.mp done))
              rw [(maybe_request_store _ env.auto).io, ← device.1, ← store.io]
              cases logged.2.dc.metaIndex.lookupMeta req.key <;> rfl

theorem delete_stores (r : Reactor) (env : OpEnv) (key : Key) : r.Stores (r.executeDelete env key).2 := by
  refine .still (delete_io r env key) fun other found looked => ?_
  unfold Reactor.executeDelete at looked
  cases present : r.dc.metaIndex.lookupMeta key with
  | error rc =>
      rw [present] at looked
      exact looked
  | ok meta_ =>
      have store := write_rescuing_store r env.rescue (deleteEntry key env.now)
      rw [present] at looked
      simp only at looked
      generalize r.writeWalRescuing env.rescue (deleteEntry key env.now) = logged at store looked
      split at looked
      · rwa [← store.index]
      · rw [(maybe_request_store _ env.auto).index] at looked
        have here : (logged.2.dc.metaIndex.deleteMeta key).2.lookup other = some found := looked
        rw [delete_meta_erases _ key meta_ (by rw [store.index]; exact lookup_meta_ok _ _ _ present), store.index] at here
        by_cases same : other = key
        · rw [same, AList.lookup_erase] at here
          cases here
        · rwa [AList.lookup_erase_ne same] at here

theorem execute_stores (sb : SuperBlock) (r : Reactor) (env : OpEnv) (req : Request) (fits : sb.blockCount ≤ 2 ^ 56) (owns : r.Owns sb)
    (admitted : req.Admitted) : r.Stores (r.execute env req).2 := by
  cases req with
  | get key => exact stores_same _ _ (get_io r key) (get_values r key).index
  | put req => exact put_stores sb r env req fits owns admitted.2.2
  | delete key => exact delete_stores r env key
  | setWalLevel level => exact stores_same _ _ (set_level_store r level).io (set_level_store r level).index
  | snapshot => exact stores_same _ _ (do_snapshot_store r env.auto).io (do_snapshot_store r env.auto).index

theorem stores_holds (r after : Reactor) (stores : r.Stores after) (durable : r.Durable) :
    Traced r.dc.io.dev after.dc.io.dev (r.dc.io.Holds r.dc.metaIndex) := by
  cases stores with
  | still io _ =>
      rw [io]
      exact traced_refl _ _
  | wrote idx buffer io short free _ =>
      rw [io]
      exact io_write_holds r.dc.io r.dc.metaIndex r.options.walLevel idx buffer durable free short

-- At the strict level every value that the index names is durable between two
-- operations.
theorem stores_durable (r after : Reactor) (stores : r.Stores after) (durable : r.Durable) (fua : isValueFuaLevel r.options.walLevel = true) :
    after.Durable := by
  have holds := traced_last _ _ _ (stores_holds r after stores durable) durable
  cases stores with
  | still io fewer =>
      intro key meta_ found
      rw [io]
      exact durable key meta_ (fewer key meta_ found)
  | wrote idx buffer io short free named =>
      rcases named with done | index
      · rw [Reactor.Durable, io]
        exact holds_flushed _ _ (io_write_flushed r.dc.io r.options.walLevel idx buffer fua done)
      · intro key meta_ found v member
        rw [index] at found
        rw [holds key meta_ found v member, io]
        exact (io_write_elsewhere r.dc.io r.options.walLevel idx buffer meta_ short (free key meta_ found)).symm

theorem write_rescuing_options (r : Reactor) (env : ScanEnv) (e : WalEntry) : (r.writeWalRescuing env e).2.options = r.options := by
  unfold Reactor.writeWalRescuing
  simp only
  split
  · rfl
  · have kept := (do_snapshot_mark (r.withWal (r.dc.wal.writeWal r.options.walLevel e).2) env).2.2
    split <;> exact kept

theorem maybe_request_options (r : Reactor) (env : ScanEnv) : (r.maybeRequestSnapshot env).options = r.options := by
  unfold Reactor.maybeRequestSnapshot
  simp only
  split
  · exact (do_snapshot_mark r env).2.2
  · rfl

theorem put_options (r : Reactor) (env : OpEnv) (req : PutRequest) : (r.executePut env req).2.options = r.options := by
  unfold Reactor.executePut
  cases r.dc.blockAllocator.acquire with
  | error rc => rfl
  | ok got =>
      obtain ⟨block, allocator⟩ := got
      simp only
      cases leased : (r.withAllocator allocator).leaseWriteBuffer req with
      | error rc => rfl
      | ok got =>
          obtain ⟨lease, buffer, r1⟩ := got
          simp only
          generalize r1.dc.io.write r1.options.walLevel block.blockIdx buffer = out
          have same : ((r1.withIo out.2).resetLease lease).options = r.options :=
            (reset_log (r1.withIo out.2) lease).options.trans (lease_log _ _ _ _ _ leased).options
          generalize (r1.withIo out.2).resetLease lease = r2 at same ⊢
          split
          · exact same
          · have wrote := write_rescuing_options r2 env.rescue (putEntry req.key block (Util.crc32 req.value.bytes) env.now)
            generalize r2.writeWalRescuing env.rescue (putEntry req.key block (Util.crc32 req.value.bytes) env.now) = logged at wrote ⊢
            split
            · exact wrote.trans same
            · rw [maybe_request_options, ← same, ← wrote]
              cases logged.2.dc.metaIndex.lookupMeta req.key <;> rfl

theorem get_options (r : Reactor) (key : Key) : (r.executeGet key).2.options = r.options := by
  unfold Reactor.executeGet
  cases r.dc.metaIndex.lookupMeta key with
  | error rc => rfl
  | ok meta_ =>
      simp only
      cases r.dc.pool.allocate with
      | none => rfl
      | some got =>
          simp only
          cases (r.withPool got.2).dc.io.read meta_.block.blockIdx with
          | error rc => rfl
          | ok value =>
              simp only
              split <;> rfl

theorem delete_options (r : Reactor) (env : OpEnv) (key : Key) : (r.executeDelete env key).2.options = r.options := by
  unfold Reactor.executeDelete
  cases r.dc.metaIndex.lookupMeta key with
  | error rc => rfl
  | ok meta_ =>
      have wrote := write_rescuing_options r env.rescue (deleteEntry key env.now)
      simp only
      generalize r.writeWalRescuing env.rescue (deleteEntry key env.now) = logged at wrote ⊢
      split
      · exact wrote
      · rw [maybe_request_options]
        exact wrote

-- A request that does not ask for another level.
def Request.Strict : Request → Prop
  | .setWalLevel level => level = .strict
  | _ => True

theorem execute_strict (r : Reactor) (env : OpEnv) (req : Request) (strict : r.options.walLevel = .strict) (kept : req.Strict) :
    (r.execute env req).2.options.walLevel = .strict := by
  cases req with
  | get key => exact (congrArg Options.walLevel (get_options r key)).trans strict
  | put req => exact (congrArg Options.walLevel (put_options r env req)).trans strict
  | delete key => exact (congrArg Options.walLevel (delete_options r env key)).trans strict
  | setWalLevel level =>
      cases kept
      show (r.executeSetWalLevel .strict).2.options.walLevel = .strict
      unfold Reactor.executeSetWalLevel
      simp only
      split
      · split
        · exact strict
        · rfl
      · rfl
  | snapshot => exact (congrArg Options.walLevel (do_snapshot_mark r env.auto).2.2).trans strict

-- Where power can be lost: between two operations, at a call on the data device,
-- with the log as it was, or at a call on the log, with the value in its block.
-- With it goes the thread as it is by then, its data medium and its log's.
inductive Ends (sb : SuperBlock) (r : Reactor) : Option Request → Reactor → Medium → Medium → Prop
  | idle : Ends sb r none r r.dc.io.dev.medium r.dc.wal.dev.medium
  | storing (req : Request) (env : OpEnv) (m : Medium) (admitted : req.Admitted)
      (inside : m ∈ (r.execute env req).2.dc.io.dev.trace.drop r.dc.io.dev.trace.length) : Ends sb r (some req) r m r.dc.wal.dev.medium
  | logging (req : Request) (env : OpEnv) (at_ : Logging) (m : Medium) (admitted : req.Admitted) (cut : LogCut sb r (r.execute env req).2 at_ m) :
      Ends sb r (some req) (at_.reactor.withIo (r.execute env req).2.dc.io) (r.execute env req).2.dc.io.dev.medium m

-- What power loss does to the map: the request that it cut off was done, or was not.
inductive Survived (m : ValueMap) : Option Request → ValueMap → Prop
  | kept (cut : Option Request) : Survived m cut m
  | done (req : Request) (reply : Reply) (next : ValueMap) (answers : Answers m req reply next) : Survived m (some req) next

-- The values as the source has them, read from what was left of its device.
theorem left_contents (sb : SuperBlock) (count : Nat) (dying next source : Reactor) (data : Image) (m : Medium)
    (reopened : ReopenedAs sb count dying next data source.dc.metaIndex) (holds : source.dc.io.Holds source.dc.metaIndex m)
    (alive : m.Survives kSectorSize data) (checked : source.Checked) : next.contents = source.contents ∧ next.Checked := by
  have value (key : Key) (meta_ : ValueMeta) (found : source.dc.metaIndex.lookup key = some meta_) :
      next.dc.io.valueAt meta_ = source.dc.io.valueAt meta_ := by
    rw [← holds_survives source.dc.io source.dc.metaIndex m data holds alive key meta_ found, SyncIoBackend.valueAt, reopened.io]
    rfl
  constructor
  · funext key
    have same := reopened.index key
    cases found : source.dc.metaIndex.lookup key with
    | none => rw [contents_none source key found, contents_none next key (same.trans found)]
    | some meta_ => rw [contents_some source key meta_ found, contents_some next key meta_ (same.trans found), value key meta_ found]
  · intro key meta_ found
    have here := (reopened.index key).symm.trans found
    rw [value key meta_ here]
    exact checked key meta_ here

-- The group opens again wherever power was lost, with the map from before the
-- request that was cut off or the one it would have left.
theorem alive_crash (sb : SuperBlock) (count : Nat) (r dying : Reactor) (cut : Option Request) (dataMedium walMedium : Medium)
    (data wal snapshot : Image) (opts : Options) (env : OpenEnv) (alive : Alive sb count r) (durable : r.Durable)
    (strict : r.options.walLevel = .strict) (room : count + 8 < 2 ^ 64) (ends : Ends sb r cut dying dataMedium walMedium)
    (dataAlive : dataMedium.Survives kSectorSize data) (walAlive : walMedium.Survives kSectorSize wal)
    (snapshotAlive : dying.dc.snapshot.dev.medium.Survives kSectorSize snapshot) (provided : Provided dying opts env wal) :
    ∃ dc, openDevice opts env sb (dying.left data wal snapshot) = (Err.kSuccess, dc) ∧ Alive sb (count + 3) ⟨opts, dc⟩ ∧
      Survived r.contents cut (⟨opts, dc⟩ : Reactor).contents ∧ (⟨opts, dc⟩ : Reactor).Durable := by
  have small := alive.small
  have lawful (r : Reactor) (count : Nat) (alive : Alive sb count r) : Lawful sb r.dc.metaIndex ∧ r.dc.metaIndex.blocks.Nodup := by
    obtain ⟨_, _, _, _, _, lasting⟩ := alive.lasts
    exact ⟨lasting.lawful, owned_nodup sb r alive.sound.owns (by omega)⟩
  have still : LogCut sb r r ⟨.rest, r⟩ r.dc.wal.dev.medium := .between _ [] [] (.done _) (.done _) (Nat.zero_le 3)
  -- What is opened has the values of whichever thread its index is from.
  have settle (at_ : Logging) (io : SyncIoBackend) (m : Medium) (dc : DeviceContext) (source : Reactor) (houses : io.Houses sb.blockCount)
      (checked : source.Checked) (holds : source.dc.io.Holds source.dc.metaIndex m) (dataAlive : m.Survives kSectorSize data)
      (done : openDevice opts env sb ((at_.reactor.withIo io).left data wal snapshot) = (Err.kSuccess, dc))
      (reopened : ReopenedAs sb (count + 3) (at_.reactor.withIo io) ⟨opts, dc⟩ data source.dc.metaIndex) :
      Alive sb (count + 3) ⟨opts, dc⟩ ∧ (⟨opts, dc⟩ : Reactor).contents = source.contents ∧ (⟨opts, dc⟩ : Reactor).Durable := by
    obtain ⟨same, fits⟩ := left_contents sb (count + 3) _ ⟨opts, dc⟩ source data m reopened holds dataAlive checked
    have device : dc.io = ⟨{ io.dev.reboot data with isOpen := true }, io.blockCount⟩ := reopened.io
    refine ⟨⟨⟨opened_owns sb opts env _ dc houses.word done, fits⟩, small, ?_, reopened.lasts⟩, same, holds_flushed dc.io dc.metaIndex ?_⟩
    · show dc.io.Houses sb.blockCount
      rw [device]
      exact ⟨rfl, houses.word, houses.count, houses.some_, houses.enough⟩
    · rw [device]
      rfl
  cases ends with
  | idle =>
      obtain ⟨live, dc, which, done, reopened⟩ := cut_reopens sb count r r ⟨.rest, r⟩ _ r.dc.io data wal snapshot opts env alive.lasts strict
        (by omega) (by omega) still alive.houses walAlive snapshotAlive provided (lawful r count alive) (lawful r count alive)
      have here : live = r.dc.metaIndex := which.elim id id
      rw [here] at reopened
      obtain ⟨alive', same, durable'⟩ := settle _ _ _ dc r alive.houses alive.sound.checked durable dataAlive done reopened
      exact ⟨dc, done, alive', by rw [same]; exact .kept none, durable'⟩
  | storing req env' m admitted inside =>
      obtain ⟨live, dc, which, done, reopened⟩ := cut_reopens sb count r r ⟨.rest, r⟩ _ r.dc.io data wal snapshot opts env alive.lasts strict
        (by omega) (by omega) still alive.houses walAlive snapshotAlive provided (lawful r count alive) (lawful r count alive)
      have here : live = r.dc.metaIndex := which.elim id id
      rw [here] at reopened
      have stores := execute_stores sb r env' req (by omega) alive.sound.owns admitted
      obtain ⟨calls, trace, _, every⟩ := stores_holds r _ stores durable
      rw [trace, List.drop_left] at inside
      obtain ⟨alive', same, durable'⟩ := settle _ _ _ dc r alive.houses alive.sound.checked (every _ inside) dataAlive done reopened
      exact ⟨dc, done, alive', by rw [same]; exact .kept _, durable'⟩
  | logging req env' at_ m admitted cut =>
      obtain ⟨after, answers⟩ := alive_execute sb r env' req count alive admitted (by omega)
      have stores := execute_stores sb r env' req (by omega) alive.sound.owns admitted
      obtain ⟨events, logs⟩ := execute_logs sb r env' req _ alive.sound.owns.blocks (lawful r count alive).1 (by omega) admitted
      have numbers := log_run_numbers sb _ _ _ logs.run
      have one := logs.one
      simp only at numbers
      obtain ⟨live, dc, which, done, reopened⟩ := cut_reopens sb count r _ at_ _ (r.execute env' req).2.dc.io data wal snapshot opts env alive.lasts
        strict (by omega) (by omega) cut after.houses walAlive snapshotAlive provided (lawful r count alive) (lawful _ _ after)
      rcases which with here | here
      · rw [here] at reopened
        have holds := traced_last _ _ _ (stores_holds r _ stores durable) durable
        obtain ⟨alive', same, durable'⟩ := settle _ _ _ dc r after.houses alive.sound.checked holds dataAlive done reopened
        exact ⟨dc, done, alive', by rw [same]; exact .kept _, durable'⟩
      · rw [here] at reopened
        have holds := stores_durable r _ stores durable (by rw [strict]; rfl)
        obtain ⟨alive', same, durable'⟩ := settle _ _ _ dc _ after.houses after.sound.checked holds dataAlive done reopened
        exact ⟨dc, done, alive', by rw [same]; exact .done req _ _ answers, durable'⟩

inductive CrashMove where
  | request (req : Request) (env : OpEnv)
  | fault (data : Faults)
  | reopen (opts : Options) (env : OpenEnv)
  | lose (data wal snapshot : Image) (opts : Options) (env : OpenEnv)

inductive CrashEvent where
  | answered (req : Request) (reply : Reply)
  | reopened (closed opened : Rc)
  | lost (cut : Option Request) (opened : Rc)
deriving DecidableEq, Repr

-- The lives of a group at the strict level. Any of them may end with power loss,
-- which leaves of each device an arbitrary choice of its unsynced sectors.
def crashMachine (sb : SuperBlock) : Machine Reactor CrashMove CrashEvent where
  start r := BlankGroup sb r ∧ r.options.walLevel = .strict
  step r move events r' :=
    match move with
    | .request req env => req.Admitted ∧ req.Strict ∧ events = [.answered req (r.execute env req).1] ∧ r' = (r.execute env req).2
    | .fault data => events = [] ∧ r' = r.withIo { r.dc.io with dev := r.dc.io.dev.suffer data }
    | .reopen opts env => opts.walLevel = .strict ∧ Provided r opts env r.closeDc.2.dc.wal.dev.medium.cur ∧
        events = [.reopened r.closeDc.1 (openDevice opts env sb r.shutGroup).1] ∧ r' = ⟨opts, (openDevice opts env sb r.shutGroup).2⟩
    | .lose data wal snapshot opts env => ∃ cut dying dataMedium walMedium, Ends sb r cut dying dataMedium walMedium ∧
        dataMedium.Survives kSectorSize data ∧ walMedium.Survives kSectorSize wal ∧
        dying.dc.snapshot.dev.medium.Survives kSectorSize snapshot ∧ opts.walLevel = .strict ∧ Provided dying opts env wal ∧
        events = [.lost cut (openDevice opts env sb (dying.left data wal snapshot)).1] ∧
        r' = ⟨opts, (openDevice opts env sb (dying.left data wal snapshot)).2⟩

-- A map that keeps what it has answered. Every start of it succeeds, and what
-- power loss cuts off has been done or has not.
def durableMachine : Machine ValueMap Unit CrashEvent where
  start m := ∀ key, m key = none
  step m _ events m' :=
    (∃ req reply, events = [.answered req reply] ∧ Answers m req reply m') ∨ (events = [.reopened Err.kSuccess Err.kSuccess] ∧ m' = m) ∨
      ∃ cut, events = [.lost cut Err.kSuccess] ∧ Survived m cut m'

-- What holds between two operations of a life at the strict level.
structure StrictAlive (sb : SuperBlock) (count : Nat) (r : Reactor) : Prop where
  alive : Alive sb count r
  durable : r.Durable
  strict : r.options.walLevel = .strict

theorem crash_run (sb : SuperBlock) (history : List CrashEvent) (r : Reactor) (run : (crashMachine sb).Run history r) :
    3 * history.length + 5 < 2 ^ 64 → StrictAlive sb (3 * history.length) r ∧ durableMachine.Run history r.contents := by
  refine run_invariant (crashMachine sb)
    (fun history r => 3 * history.length + 5 < 2 ^ 64 → StrictAlive sb (3 * history.length) r ∧ durableMachine.Run history r.contents)
    (fun r begun _ => ?_) (fun history r move events r' ih step => ?_) history r run
  · obtain ⟨created, strict⟩ := begun
    obtain ⟨alive, empty⟩ := blank_group_alive sb r created
    refine ⟨⟨alive, fun key meta_ found => ?_, strict⟩, .begin _ empty⟩
    have none_ := empty key
    rw [contents_some r key meta_ found] at none_
    cases none_
  · cases move with
    | request req env =>
        obtain ⟨admitted, kept, rfl, rfl⟩ := step
        intro room
        simp only [List.length_append, List.length_singleton] at room ⊢
        obtain ⟨here, map⟩ := ih (by omega)
        have small := here.alive.small
        obtain ⟨alive, answers⟩ := alive_execute sb r env req _ here.alive admitted (by omega)
        have stores := execute_stores sb r env req (by omega) here.alive.sound.owns admitted
        have durable := stores_durable r _ stores here.durable (by rw [here.strict]; rfl)
        exact ⟨⟨alive, durable, execute_strict r env req here.strict kept⟩, .next _ _ _ _ () map (.inl ⟨req, _, rfl, answers⟩)⟩
    | fault data =>
        obtain ⟨rfl, rfl⟩ := step
        rw [List.append_nil]
        intro room
        obtain ⟨here, map⟩ := ih room
        obtain ⟨alive, same⟩ := alive_fault sb r data _ here.alive
        exact ⟨⟨alive, here.durable, here.strict⟩, by rw [same]; exact map⟩
    | reopen opts env =>
        obtain ⟨strict, provided, rfl, rfl⟩ := step
        intro room
        simp only [List.length_append, List.length_singleton] at room ⊢
        obtain ⟨here, map⟩ := ih (by omega)
        obtain ⟨closed, dc, done, alive, same, clean⟩ := alive_reopen sb r opts env _ here.alive (by omega) provided
        rw [closed, done]
        refine ⟨⟨alive_more sb _ _ _ alive (by omega), holds_flushed dc.io dc.metaIndex clean, strict⟩, ?_⟩
        exact .next _ _ _ _ () map (.inr (.inl ⟨rfl, same⟩))
    | lose data wal snapshot opts env =>
        obtain ⟨cut, dying, dataMedium, walMedium, ends, dataAlive, walAlive, snapshotAlive, strict, provided, rfl, rfl⟩ := step
        intro room
        simp only [List.length_append, List.length_singleton] at room ⊢
        obtain ⟨here, map⟩ := ih (by omega)
        obtain ⟨dc, done, alive, survived, durable⟩ := alive_crash sb _ r dying cut dataMedium walMedium data wal snapshot opts env here.alive
          here.durable here.strict (by omega) ends dataAlive walAlive snapshotAlive provided
        rw [done]
        exact ⟨⟨alive, durable, strict⟩, .next _ _ _ _ () map (.inr (.inr ⟨cut, rfl, survived⟩))⟩

-- What a key may hold, by the history alone: what was acknowledged last, or what
-- a request that was cut off since would have stored.
def allow (key : Key) (may : Option Bytes → Prop) : CrashEvent → Option Bytes → Prop
  | .answered (.put req) reply => if reply.rc = Err.kSuccess ∧ req.key = key then fun v => v = some req.value.bytes else may
  | .answered (.delete gone) reply => if reply.rc = Err.kSuccess ∧ gone = key then fun v => v = none else may
  | .lost (some (.put req)) _ => fun v => may v ∨ (req.key = key ∧ v = some req.value.bytes)
  | .lost (some (.delete gone)) _ => fun v => may v ∨ (gone = key ∧ v = none)
  | _ => may

def mayHold (history : List CrashEvent) (key : Key) : Option Bytes → Prop := history.foldl (allow key) fun v => v = none

-- A Get finds one of these, or says that it could not read it.
def Recalls (history : List CrashEvent) : Prop :=
  ∀ front key reply back, history = front ++ .answered (.get key) reply :: back →
    ∃ v, mayHold front key v ∧ match v with
      | none => reply = .code Err.kIndexKeyNotFound
      | some value => reply = ⟨Err.kSuccess, some value⟩ ∨ reply = .code Err.kIoBase

theorem answers_allowed (m next : ValueMap) (req : Request) (reply : Reply) (answers : Answers m req reply next) (key : Key)
    (may : Option Bytes → Prop) (here : may (m key)) : allow key may (.answered req reply) (next key) := by
  cases answers with
  | stored req =>
      by_cases same : req.key = key
      · simp [allow, Reply.code, same]
      · simpa [allow, Reply.code, same, Function.update_of_ne (Ne.symm same)] using here
  | notStored req rc failed => simpa [allow, Reply.code, failed] using here
  | deleted gone known =>
      by_cases same : gone = key
      · simp [allow, Reply.code, same]
      · simpa [allow, Reply.code, same, Function.update_of_ne (Ne.symm same)] using here
  | absent gone missing => simpa [allow, Reply.code, Err.kIndexKeyNotFound, Err.kSuccess] using here
  | notDeleted gone rc known failed kept => simpa [allow, Reply.code, failed] using here
  | _ => exact here

theorem survived_allowed (m next : ValueMap) (cut : Option Request) (opened : Rc) (survived : Survived m cut next) (key : Key)
    (may : Option Bytes → Prop) (here : may (m key)) : allow key may (.lost cut opened) (next key) := by
  cases survived with
  | kept cut =>
      rcases cut with _ | req
      · exact here
      · cases req with
        | put req => exact .inl here
        | delete gone => exact .inl here
        | _ => exact here
  | done req reply next answers =>
      cases answers with
      | stored req =>
          by_cases same : req.key = key
          · exact .inr ⟨same, by rw [same, Function.update_self]⟩
          · exact .inl (by rw [Function.update_of_ne (Ne.symm same)]; exact here)
      | deleted gone known =>
          by_cases same : gone = key
          · exact .inr ⟨same, by rw [same, Function.update_self]⟩
          · exact .inl (by rw [Function.update_of_ne (Ne.symm same)]; exact here)
      | notStored req rc failed => exact .inl here
      | absent gone missing => exact .inl here
      | notDeleted gone rc known failed kept => exact .inl here
      | _ => exact here

theorem durable_run_recalls (history : List CrashEvent) (m : ValueMap) (run : durableMachine.Run history m) :
    (∀ key, mayHold history key (m key)) ∧ Recalls history := by
  induction run with
  | begin m first => exact ⟨fun key => first key, fun front _ _ _ no => by cases front <;> cases no⟩
  | next history events m m' _ _ step ih =>
      obtain ⟨may, recalls⟩ := ih
      have one (event : CrashEvent) (only : events = [event]) (next : ∀ key, allow key (mayHold history key) event (m' key))
          (reads : ∀ key reply, event = .answered (.get key) reply → ∃ v, mayHold history key v ∧ match v with
            | none => reply = .code Err.kIndexKeyNotFound
            | some value => reply = ⟨Err.kSuccess, some value⟩ ∨ reply = .code Err.kIoBase) :
          (∀ key, mayHold (history ++ events) key (m' key)) ∧ Recalls (history ++ events) := by
        subst only
        refine ⟨fun key => ?_, fun front key reply back split => ?_⟩
        · rw [mayHold, List.foldl_append]
          exact next key
        · rcases List.eq_nil_or_concat back with rfl | ⟨rest, last, rfl⟩
          · obtain ⟨rfl, same⟩ := List.append_inj' split rfl
            exact reads key reply (List.cons.inj same).1
          · rw [List.concat_eq_append, ← List.cons_append, ← List.append_assoc] at split
            exact recalls front key reply rest (List.append_inj' split rfl).1
      rcases step with ⟨req, reply, only, answers⟩ | ⟨only, same⟩ | ⟨cut, only, survived⟩
      · refine one _ only (fun key => answers_allowed m m' req reply answers key _ (may key)) fun key reply' same => ?_
        cases same
        cases answers with
        | found key value here => exact ⟨some value, here ▸ may key, .inl rfl⟩
        | missing key gone => exact ⟨none, gone ▸ may key, rfl⟩
        | unread key here =>
            obtain ⟨value, known⟩ := Option.ne_none_iff_exists'.mp here
            exact ⟨some value, known ▸ may key, .inr rfl⟩
      · exact one _ only (fun key => by rw [same]; exact may key) nofun
      · exact one _ only (fun key => survived_allowed m m' cut _ survived key _ (may key)) nofun

-- At the strict level no acknowledged request is lost, whenever power goes, and
-- every start succeeds.
theorem strict_store_durable (sb : SuperBlock) (history : List CrashEvent) (r : Reactor) (run : (crashMachine sb).Run history r)
    (few : 3 * history.length + 5 < 2 ^ 64) :
    durableMachine.Run history r.contents ∧ (∀ key, mayHold history key (r.contents key)) ∧ Recalls history := by
  obtain ⟨_, map⟩ := crash_run sb history r run few
  exact ⟨map, durable_run_recalls history r.contents map⟩

-- A start does not ask for the level.
theorem open_wal_level (w : Wal) (opts : Options) (level : WalLevel) : w.openWal { opts with walLevel := level } = w.openWal opts := by
  unfold Wal.openWal
  rfl

theorem open_snapshot_level (s : Snapshot) (opts : Options) (level : WalLevel) (env : SnapshotEnv) (sb : SuperBlock) :
    s.openSnapshot { opts with walLevel := level } env sb = s.openSnapshot opts env sb := by
  unfold Snapshot.openSnapshot
  rfl

theorem open_device_level (opts : Options) (level : WalLevel) (env : OpenEnv) (sb : SuperBlock) (group : DeviceGroup) :
    openDevice { opts with walLevel := level } env sb group = openDevice opts env sb group := by
  unfold openDevice recoverDevice
  simp only [open_wal_level, open_snapshot_level]
  rfl

def strictOptions (create : Bool) : Options := { plainOptions create 1 with walLevel := .strict }

theorem strict_store_durable_put : ∃ first second r,
    (crashMachine blankSuperBlock).Run
      [.answered (.put (zeroPut 1)) first, .lost none Err.kSuccess, .answered (.get [1]) second] r ∧
      Recalls [.answered (.put (zeroPut 1)) first, .lost none Err.kSuccess, .answered (.get [1]) second] := by
  obtain ⟨dc, _, snapshotBuffer, walBuffer, env, group, word, wide, fresh, sound, readable, opened⟩ := blank_group_created
  rw [← open_device_level _ .strict] at opened
  have created : BlankGroup blankSuperBlock ⟨strictOptions true, dc⟩ :=
    ⟨rfl, snapshotBuffer, walBuffer, env, group, word, wide, fresh, sound, readable, opened⟩
  have begun := Machine.Run.begin (m := crashMachine blankSuperBlock) ⟨strictOptions true, dc⟩ ⟨created, rfl⟩
  have put := Machine.Run.next _ _ _ _ (.request (.put (zeroPut 1)) plainOpEnv) begun (by exact ⟨zero_put_admitted 1, trivial, rfl, rfl⟩)
  generalize Reactor.execute ⟨strictOptions true, dc⟩ plainOpEnv (.put (zeroPut 1)) = out at put
  obtain ⟨here, _⟩ := crash_run blankSuperBlock _ _ put (by simp)
  obtain ⟨mode, usable, buffer, room, values⟩ := plain_provided blankSuperBlock out.2 _ out.2.dc.wal.dev.medium.cur here.alive
  have provided : Provided out.2 (strictOptions false) plainOpenEnv out.2.dc.wal.dev.medium.cur :=
    ⟨mode, ⟨usable.size, usable.alloc⟩, buffer, by rw [strictOptions, open_wal_level]; exact room, values⟩
  obtain ⟨dc', reopened, _⟩ := alive_crash blankSuperBlock _ _ _ none _ _ out.2.dc.io.dev.medium.cur out.2.dc.wal.dev.medium.cur
    out.2.dc.snapshot.dev.medium.cur (strictOptions false) plainOpenEnv here.alive here.durable here.strict (by simp) .idle
    (survives_self _ _) (survives_self _ _) (survives_self _ _) provided
  have lost := Machine.Run.next _ _ _ _ (.lose _ _ _ (strictOptions false) plainOpenEnv) put
    (by exact ⟨none, _, _, _, .idle, survives_self _ _, survives_self _ _, survives_self _ _, rfl, provided, rfl, rfl⟩)
  rw [reopened] at lost
  have got := Machine.Run.next _ _ _ _ (.request (.get [1]) plainOpEnv) lost (by exact ⟨Nat.le_refl 1, trivial, rfl, rfl⟩)
  exact ⟨_, _, _, got, (strict_store_durable blankSuperBlock _ _ got (by simp)).2.2⟩

end Cabe
