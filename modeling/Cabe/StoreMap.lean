import Cabe.BlockOwnership
import Cabe.Concurrency.Refinement
import Cabe.ReactorLog
import Cabe.WalCodes

set_option autoImplicit false

namespace Cabe

open Storage Concurrency

-- What a store is for: a value for each key that was put and not deleted.
abbrev ValueMap := Key → Option Bytes

-- A request that fails changes nothing. A Get fails only when the device does,
-- and then neither returns other bytes nor hides the key.
inductive Answers (m : ValueMap) : Request → Reply → ValueMap → Prop
  | stored (req : PutRequest) : Answers m (.put req) (.code Err.kSuccess) (Function.update m req.key (some req.value.bytes))
  | notStored (req : PutRequest) (rc : Rc) (failed : rc ≠ Err.kSuccess) : Answers m (.put req) (.code rc) m
  | found (key : Key) (value : Bytes) (here : m key = some value) : Answers m (.get key) ⟨Err.kSuccess, some value⟩ m
  | missing (key : Key) (gone : m key = none) : Answers m (.get key) (.code Err.kIndexKeyNotFound) m
  | unread (key : Key) (here : m key ≠ none) : Answers m (.get key) (.code Err.kIoBase) m
  | deleted (key : Key) (here : m key ≠ none) : Answers m (.delete key) (.code Err.kSuccess) (Function.update m key none)
  | absent (key : Key) (gone : m key = none) : Answers m (.delete key) (.code Err.kIndexKeyNotFound) m
  | notDeleted (key : Key) (rc : Rc) (here : m key ≠ none) (failed : rc ≠ Err.kSuccess) (kept : rc ≠ Err.kIndexKeyNotFound) :
      Answers m (.delete key) (.code rc) m
  | level (level : WalLevel) (rc : Rc) : Answers m (.setWalLevel level) (.code rc) m
  | snapshot (rc : Rc) : Answers m .snapshot (.code rc) m

def mapMachine : Machine ValueMap Unit (Request × Reply) where
  start m := ∀ key, m key = none
  step m _ events m' := ∃ req reply, events = [(req, reply)] ∧ Answers m req reply m'

def SyncIoBackend.valueAt (io : SyncIoBackend) (meta_ : ValueMeta) : Bytes :=
  Storage.read io.dev.medium.cur (valueOffset meta_.block.blockIdx) kValueSize

-- The map a thread's index and data device stand for.
def Reactor.contents (r : Reactor) : ValueMap := fun key => (r.dc.metaIndex.lookup key).map r.dc.io.valueAt

-- Every value in the index is on the device as it was put.
def Reactor.Checked (r : Reactor) : Prop :=
  ∀ key meta_, r.dc.metaIndex.lookup key = some meta_ → Util.crc32 (r.dc.io.valueAt meta_) = meta_.crc

structure Reactor.Sound (sb : SuperBlock) (r : Reactor) : Prop where
  owns : r.Owns sb
  checked : r.Checked

theorem contents_none (r : Reactor) (key : Key) (missing : r.dc.metaIndex.lookup key = none) : r.contents key = none := by
  rw [Reactor.contents, missing, Option.map_none]

theorem contents_some (r : Reactor) (key : Key) (meta_ : ValueMeta) (found : r.dc.metaIndex.lookup key = some meta_) :
    r.contents key = some (r.dc.io.valueAt meta_) := by
  rw [Reactor.contents, found, Option.map_some]

theorem sync_cur (d : RawDevice) : d.sync.2.medium.cur = d.medium.cur :=
  funext fun o => call_outside d .sync o fun _ _ no => nomatch no

-- What a write to the data device leaves of the values elsewhere.
theorem io_write_elsewhere (io : SyncIoBackend) (level : WalLevel) (idx : Nat) (buffer : IoWriteBuffer) (meta_ : ValueMeta)
    (short : ∀ bytes, buffer.data = some bytes → bytes.length = kValueSize) (apart : meta_.block.blockIdx ≠ idx) :
    (io.write level idx buffer).2.valueAt meta_ = io.valueAt meta_ := by
  have far (o : Nat) (bound : o < kValueSize) : valueOffset meta_.block.blockIdx + o < valueOffset idx ∨
      valueOffset idx + kValueSize ≤ valueOffset meta_.block.blockIdx + o := by
    simp only [valueOffset, kValueSize] at *
    omega
  unfold SyncIoBackend.write
  split
  · rfl
  · cases given : buffer.data with
    | none => rfl
    | some bytes =>
        have size := short bytes given
        have wrote : read (io.dev.writeAt (valueOffset idx) bytes).2.medium.cur (valueOffset meta_.block.blockIdx) kValueSize =
            io.valueAt meta_ := by
          refine read_congr _ _ _ _ fun o bound => ?_
          rcases write_at_medium io.dev (valueOffset idx) bytes with same | ⟨img, put, outside⟩
          · rw [same]
          · rw [put]
            exact outside _ (size ▸ far o bound)
        simp only
        split
        · rfl
        · split
          · exact wrote
          · split
            · unfold SyncIoBackend.valueAt
              rw [sync_cur]
              exact wrote
            · exact wrote

-- A write that succeeds has stored the bytes it was given.
theorem io_write_stored (io : SyncIoBackend) (level : WalLevel) (idx : Nat) (buffer : IoWriteBuffer) (value : Bytes) (meta_ : ValueMeta)
    (given : buffer.data = none ∨ buffer.data = some value) (size : value.length = kValueSize) (here : meta_.block.blockIdx = idx)
    (done : (io.write level idx buffer).1 = Err.kSuccess) : (io.write level idx buffer).2.valueAt meta_ = value := by
  have failed : Err.kIoBase ≠ Err.kSuccess := by decide
  unfold SyncIoBackend.write at done ⊢
  split at done
  · exact absurd done failed
  · rename_i inside
    rw [if_neg inside]
    rcases given with none_ | some_
    · rw [none_] at done
      exact absurd done failed
    · rw [some_] at done ⊢
      simp only at done ⊢
      split at done
      · exact absurd done failed
      · rename_i whole
        rw [if_neg whole]
        by_cases wrote : (io.dev.writeAt (valueOffset idx) value).1 = Err.kSuccess
        · obtain ⟨_, _, put⟩ := write_at_ok _ _ _ wrote
          have stored : read (io.dev.writeAt (valueOffset idx) value).2.medium.cur (valueOffset meta_.block.blockIdx) kValueSize = value := by
            rw [put, here, record_medium, medium_put_cur,
              read_write_inside _ _ _ _ _ (Nat.le_refl _) (by rw [size]), Nat.sub_self, slice, List.drop_zero, ← size, List.take_length]
          rw [if_neg (not_not.mpr wrote)] at done ⊢
          split
          · unfold SyncIoBackend.valueAt
            rw [sync_cur]
            exact stored
          · exact stored
        · rw [if_pos wrote] at done
          exact absurd done failed

theorem io_read_bytes (io : SyncIoBackend) (meta_ : ValueMeta) (bytes : Bytes) (done : io.read meta_.block.blockIdx = .ok bytes) :
    bytes = io.valueAt meta_ := by
  unfold SyncIoBackend.read RawDevice.readAt at done
  split at done
  · cases done
  · by_cases fits : io.dev.isOpen = true ∧ valueOffset meta_.block.blockIdx + kValueSize ≤ io.dev.sizeBytes ∧
        (List.range kValueSize).all (fun i => !io.dev.unreadable ((valueOffset meta_.block.blockIdx + i) / kSectorSize))
    · rw [if_pos fits] at done
      exact (Except.ok.inj done).symm
    · rw [if_neg fits] at done
      cases done

theorem io_read_error (io : SyncIoBackend) (idx : Nat) (rc : Rc) (failed : io.read idx = .error rc) : rc = Err.kIoBase := by
  unfold SyncIoBackend.read at failed
  split at failed
  · exact (Except.error.inj failed).symm
  · cases got : io.dev.readAt (valueOffset idx) kValueSize with
    | none =>
        rw [got] at failed
        exact (Except.error.inj failed).symm
    | some buf =>
        rw [got] at failed
        cases failed

-- What is kept of the index and of its values.
structure Reactor.SameValues (a b : Reactor) : Prop where
  index : b.dc.metaIndex = a.dc.metaIndex
  values : ∀ key meta_, a.dc.metaIndex.lookup key = some meta_ → b.dc.io.valueAt meta_ = a.dc.io.valueAt meta_

theorem same_values_same (a b : Reactor) (index : b.dc.metaIndex = a.dc.metaIndex) (io : b.dc.io = a.dc.io) : a.SameValues b :=
  ⟨index, fun _ _ _ => by rw [io]⟩

theorem same_values_store (a b : Reactor) (store : a.SameStore b) : a.SameValues b := same_values_same a b store.index store.io

theorem same_values_trans (a b c : Reactor) (first : a.SameValues b) (second : b.SameValues c) : a.SameValues c :=
  ⟨second.index.trans first.index,
    fun key meta_ found => (second.values key meta_ (first.index ▸ found)).trans (first.values key meta_ found)⟩

theorem same_values_checked (a b : Reactor) (same : a.SameValues b) (checked : a.Checked) : b.Checked := by
  intro key meta_ found
  rw [same.index] at found
  rw [same.values key meta_ found]
  exact checked key meta_ found

theorem same_values_contents (a b : Reactor) (same : a.SameValues b) : b.contents = a.contents := by
  funext key
  cases found : a.dc.metaIndex.lookup key with
  | none => rw [contents_none a key found, contents_none b key (same.index ▸ found)]
  | some meta_ => rw [contents_some a key meta_ found, contents_some b key meta_ (same.index ▸ found), same.values key meta_ found]

-- An entry that is inserted with its value in place.
theorem inserted_contents (r : Reactor) (key : Key) (meta_ : ValueMeta) (value : Bytes) (stored : r.dc.io.valueAt meta_ = value) :
    (r.withIndex (r.dc.metaIndex.insertMeta key meta_).2).contents = Function.update r.contents key (some value) := by
  funext other
  by_cases same : other = key
  · subst same
    rw [Function.update_self, contents_some _ other meta_ (AList.lookup_insert _)]
    exact congrArg some stored
  · rw [Function.update_of_ne same]
    exact congrArg (Option.map r.dc.io.valueAt) (AList.lookup_insert_ne same)

theorem inserted_checked (r : Reactor) (key : Key) (meta_ : ValueMeta) (checked : r.Checked)
    (fits : Util.crc32 (r.dc.io.valueAt meta_) = meta_.crc) : (r.withIndex (r.dc.metaIndex.insertMeta key meta_).2).Checked := by
  intro other found looked
  by_cases same : other = key
  · subst same
    have only : found = meta_ := Option.some.inj (looked.symm.trans (AList.lookup_insert _))
    rw [only]
    exact fits
  · exact checked other found ((AList.lookup_insert_ne same).symm.trans looked)

theorem delete_meta_erases (m : MetaIndex) (key : Key) (meta_ : ValueMeta) (found : m.lookup key = some meta_) :
    (m.deleteMeta key).2 = m.erase key := by
  unfold MetaIndex.deleteMeta
  rw [found]

theorem erased_contents (r : Reactor) (key : Key) (meta_ : ValueMeta) (found : r.dc.metaIndex.lookup key = some meta_) :
    (r.withIndex (r.dc.metaIndex.deleteMeta key).2).contents = Function.update r.contents key none := by
  rw [delete_meta_erases _ _ _ found]
  funext other
  by_cases same : other = key
  · subst same
    rw [Function.update_self]
    exact contents_none _ other (AList.lookup_erase _ _)
  · rw [Function.update_of_ne same]
    exact congrArg (Option.map r.dc.io.valueAt) (AList.lookup_erase_ne same)

theorem erased_checked (r : Reactor) (key : Key) (meta_ : ValueMeta) (found : r.dc.metaIndex.lookup key = some meta_) (checked : r.Checked) :
    (r.withIndex (r.dc.metaIndex.deleteMeta key).2).Checked := by
  rw [delete_meta_erases _ _ _ found]
  intro other meta' looked
  by_cases same : other = key
  · subst same
    cases (AList.lookup_erase _ _).symm.trans looked
  · exact checked other meta' ((AList.lookup_erase_ne same).symm.trans looked)

theorem get_values (r : Reactor) (key : Key) : r.SameValues (r.executeGet key).2 := by
  unfold Reactor.executeGet
  cases r.dc.metaIndex.lookupMeta key with
  | error rc => exact same_values_same _ _ rfl rfl
  | ok meta_ =>
      simp only
      cases r.dc.pool.allocate with
      | none => exact same_values_same _ _ rfl rfl
      | some got =>
          obtain ⟨buf, pool⟩ := got
          simp only
          cases (r.withPool pool).dc.io.read meta_.block.blockIdx with
          | error rc => exact same_values_same _ _ rfl rfl
          | ok value =>
              simp only
              split <;> exact same_values_same _ _ rfl rfl

theorem get_answers (sb : SuperBlock) (r : Reactor) (key : Key) (sound : r.Sound sb) :
    Answers r.contents (.get key) (r.executeGet key).1 (r.executeGet key).2.contents := by
  unfold Reactor.executeGet
  cases looked : r.dc.metaIndex.lookupMeta key with
  | error rc =>
      obtain ⟨missing, rfl⟩ := lookup_meta_error _ _ _ looked
      exact .missing key (contents_none r key missing)
  | ok meta_ =>
      have found := lookup_meta_ok _ _ _ looked
      have here := contents_some r key meta_ found
      simp only
      cases taken : r.dc.pool.allocate with
      | none =>
          exfalso
          unfold BufferPool.allocate at taken
          rw [sound.owns.buffers] at taken
          simp [kDefaultPoolBlocks, List.range_succ] at taken
      | some got =>
          obtain ⟨buf, pool⟩ := got
          simp only [show (r.withPool pool).dc.io = r.dc.io from rfl]
          have same (p : BufferPool) : ((r.withPool pool).withPool p).contents = r.contents :=
            same_values_contents _ _ (same_values_same _ _ rfl rfl)
          cases bytes : r.dc.io.read meta_.block.blockIdx with
          | error rc =>
              cases io_read_error _ _ _ bytes
              simp only [same]
              exact .unread key (by rw [here]; nofun)
          | ok value =>
              have stored := io_read_bytes r.dc.io meta_ value bytes
              have fits := sound.checked key meta_ found
              rw [← stored] at fits here
              simp only [fits, ne_eq, not_true_eq_false, if_false, same]
              exact .found key value here

theorem lease_buffer (r next : Reactor) (req : PutRequest) (lease : Option Nat) (buffer : IoWriteBuffer)
    (leased : r.leaseWriteBuffer req = .ok (lease, buffer, next)) :
    (buffer.data = none ∨ buffer.data = some req.value.bytes) ∧ next.dc.metaIndex = r.dc.metaIndex ∧ next.dc.io = r.dc.io := by
  unfold Reactor.leaseWriteBuffer at leased
  cases plan : buildPutWritePlan req.value req.valueSource defaultBackendDirectWriteCaps with
  | direct =>
      simp only [plan, Except.ok.injEq, Prod.mk.injEq] at leased
      obtain ⟨_, rfl, rfl⟩ := leased
      refine ⟨?_, rfl, rfl⟩
      have data : (directWriteBuffer req).data = req.value.data := by
        unfold directWriteBuffer
        split <;> rfl
      rw [data]
      unfold DataView.data
      split
      · exact .inl rfl
      · exact .inr rfl
  | copyFallback =>
      rw [plan] at leased
      simp only at leased
      cases taken : r.dc.pool.allocate with
      | none => rw [taken] at leased; cases leased
      | some got =>
          obtain ⟨buf, pool⟩ := got
          simp only [taken, Except.ok.injEq, Prod.mk.injEq] at leased
          obtain ⟨_, rfl, rfl⟩ := leased
          exact ⟨.inr rfl, rfl, rfl⟩

-- A block that was just taken from the queue holds no value of the index.
theorem acquired_apart (sb : SuperBlock) (r : Reactor) (block : BlockId) (allocator : RingBlockAllocator) (fits : sb.blockCount ≤ 2 ^ 56)
    (owns : r.Owns sb) (taken : r.dc.blockAllocator.acquire = .ok (block, allocator)) (key : Key) (meta_ : ValueMeta)
    (found : r.dc.metaIndex.lookup key = some meta_) : meta_.block.blockIdx ≠ block.blockIdx := by
  obtain ⟨_, perm⟩ := conserved_items _ _ _ _ (acquire_conserved _ _ _ _ _ _ owns.blocks taken)
  have nodup := perm.nodup_iff.mpr (device_blocks_nodup sb.dev sb.blockCount fits)
  have named := mem_blocks _ _ _ found
  have inside (id : BlockId) (member : id ∈ block :: r.dc.metaIndex.blocks) : id.dev = sb.dev :=
    ((mem_device_blocks sb.dev sb.blockCount id fits).mp (perm.mem_iff.mp (List.mem_append_right _ member))).1
  have fresh := (List.nodup_cons.mp (List.Nodup.of_append_right nodup)).1
  intro same
  have equal : meta_.block = block := by
    rw [← block_make_parts meta_.block, ← block_make_parts block, same, inside _ (List.mem_cons_of_mem _ named),
      inside _ List.mem_cons_self]
  exact fresh (equal ▸ named)

-- What an operation has answered, and the values it has left.
structure Answered (m : ValueMap) (req : Request) (out : Reply × Reactor) : Prop where
  answers : Answers m req out.1 out.2.contents
  checked : out.2.Checked

theorem answered_after (m : ValueMap) (req : Request) (reply : Reply) (r after : Reactor) (same : r.SameValues after)
    (answered : Answered m req (reply, r)) : Answered m req (reply, after) :=
  ⟨by rw [same_values_contents r after same]; exact answered.answers, same_values_checked r after same answered.checked⟩

theorem reset_values (r : Reactor) (lease : Option Nat) : r.SameValues (r.resetLease lease) := by
  cases lease <;> exact same_values_same _ _ rfl rfl

theorem lease_error (r : Reactor) (req : PutRequest) (rc : Rc) (refused : r.leaseWriteBuffer req = .error rc) : rc ≠ Err.kSuccess := by
  unfold Reactor.leaseWriteBuffer at refused
  cases plan : buildPutWritePlan req.value req.valueSource defaultBackendDirectWriteCaps with
  | direct => rw [plan] at refused; cases refused
  | copyFallback =>
      rw [plan] at refused
      simp only at refused
      cases taken : r.dc.pool.allocate with
      | none =>
          rw [taken] at refused
          cases refused
          decide
      | some got => rw [taken] at refused; cases refused

theorem put_answers (sb : SuperBlock) (r : Reactor) (env : OpEnv) (req : PutRequest) (fits : sb.blockCount ≤ 2 ^ 56) (sound : r.Sound sb)
    (size : req.value.bytes.length = kValueSize) : Answered r.contents (.put req) (r.executePut env req) := by
  have refused (rc : Rc) (failed : rc ≠ Err.kSuccess) (after : Reactor) (same : r.SameValues after) :
      Answered r.contents (.put req) (.code rc, after) :=
    answered_after _ _ _ r after same ⟨.notStored req rc failed, sound.checked⟩
  unfold Reactor.executePut
  cases taken : r.dc.blockAllocator.acquire with
  | error rc =>
      cases acquire_error _ _ taken
      exact refused _ (by decide) r (same_values_same _ _ rfl rfl)
  | ok got =>
      obtain ⟨block, allocator⟩ := got
      simp only
      cases leased : (r.withAllocator allocator).leaseWriteBuffer req with
      | error rc => exact refused rc (lease_error _ _ _ leased) _ (same_values_same _ _ rfl rfl)
      | ok got =>
          obtain ⟨lease, buffer, r1⟩ := got
          obtain ⟨given, index, io⟩ := lease_buffer _ _ _ _ _ leased
          simp only
          have short (bytes : Bytes) (data : buffer.data = some bytes) : bytes.length = kValueSize := by
            rcases given with none_ | some_
            · rw [none_] at data
              cases data
            · rw [some_] at data
              cases data
              exact size
          -- The block was free, so the write touches no value of the index.
          have wrote : r.SameValues ((r1.withIo (r1.dc.io.write r1.options.walLevel block.blockIdx buffer).2).resetLease lease) := by
            refine same_values_trans r (r1.withIo (r1.dc.io.write r1.options.walLevel block.blockIdx buffer).2) _
              ⟨index, fun key meta_ found => ?_⟩ (reset_values _ lease)
            have apart := acquired_apart sb r block allocator fits sound.owns taken key meta_ found
            have kept := io_write_elsewhere r1.dc.io r1.options.walLevel block.blockIdx buffer meta_ short apart
            exact kept.trans (congrArg (fun i : SyncIoBackend => i.valueAt meta_) io)
          let meta_ : ValueMeta := ⟨block, env.now, Util.crc32 req.value.bytes, .active⟩
          have put := io_write_stored r1.dc.io r1.options.walLevel block.blockIdx buffer req.value.bytes meta_ given size rfl
          generalize r1.dc.io.write r1.options.walLevel block.blockIdx buffer = out at wrote put ⊢
          generalize after_ : (r1.withIo out.2).resetLease lease = r2 at wrote ⊢
          have device : r2.dc.io = out.2 := by
            rw [← after_]
            cases lease <;> rfl
          split
          · rename_i failed
            exact refused _ failed _ (same_values_trans r r2 _ wrote (same_values_same _ _ rfl rfl))
          · rename_i done
            have store := write_rescuing_store r2 env.rescue (putEntry req.key block (Util.crc32 req.value.bytes) env.now)
            generalize r2.writeWalRescuing env.rescue (putEntry req.key block (Util.crc32 req.value.bytes) env.now) = logged at store ⊢
            have logs := same_values_trans r r2 logged.2 wrote (same_values_store _ _ store)
            split
            · rename_i failed
              exact refused _ failed _ (same_values_trans r logged.2 _ logs (same_values_same _ _ rfl rfl))
            · have stored : logged.2.dc.io.valueAt meta_ = req.value.bytes := by
                rw [store.io, device]
                exact put (not_not.mp done)
              have answered : Answered r.contents (.put req) (.code Err.kSuccess, logged.2.withIndex
                  (logged.2.dc.metaIndex.insertMeta req.key meta_).2) := by
                refine ⟨?_, inserted_checked _ _ _ (same_values_checked _ _ logs sound.checked) (by rw [stored])⟩
                rw [inserted_contents _ _ _ _ stored, same_values_contents _ _ logs]
                exact .stored req
              refine answered_after _ _ _ _ _ (same_values_trans _ _ _ ?_ (same_values_store _ _ (maybe_request_store _ env.auto))) answered
              cases logged.2.dc.metaIndex.lookupMeta req.key <;> exact same_values_same _ _ rfl rfl

theorem delete_answers (sb : SuperBlock) (r : Reactor) (env : OpEnv) (key : Key) (sound : r.Sound sb) :
    Answered r.contents (.delete key) (r.executeDelete env key) := by
  unfold Reactor.executeDelete
  cases looked : r.dc.metaIndex.lookupMeta key with
  | error rc =>
      obtain ⟨missing, rfl⟩ := lookup_meta_error _ _ _ looked
      exact ⟨.absent key (contents_none r key missing), sound.checked⟩
  | ok meta_ =>
      have found := lookup_meta_ok _ _ _ looked
      have here : r.contents key ≠ none := by
        rw [contents_some r key meta_ found]
        nofun
      have store := write_rescuing_store r env.rescue (deleteEntry key env.now)
      have code := write_rescuing_code r env.rescue (deleteEntry key env.now)
      simp only
      generalize r.writeWalRescuing env.rescue (deleteEntry key env.now) = logged at store code ⊢
      have logs := same_values_store r logged.2 store
      split
      · rename_i failed
        exact answered_after _ _ _ r _ logs ⟨.notDeleted key _ here failed (log_code_not_found _ code), sound.checked⟩
      · have kept : logged.2.dc.metaIndex.lookup key = some meta_ := logs.index ▸ found
        have answered : Answered r.contents (.delete key) (.code Err.kSuccess, logged.2.withIndex
            (logged.2.dc.metaIndex.deleteMeta key).2) := by
          refine ⟨?_, erased_checked _ _ _ kept (same_values_checked _ _ logs sound.checked)⟩
          rw [erased_contents _ _ _ kept, same_values_contents _ _ logs]
          exact .deleted key here
        refine answered_after _ _ _ _ _ (same_values_trans _ _ _ ?_ (same_values_store _ _ (maybe_request_store _ env.auto))) answered
        exact same_values_same _ _ rfl rfl

theorem set_level_store (r : Reactor) (level : WalLevel) : r.SameStore (r.executeSetWalLevel level).2 := by
  unfold Reactor.executeSetWalLevel
  simp only
  split
  · split <;> exact ⟨rfl, rfl, rfl, rfl, rfl⟩
  · exact ⟨rfl, rfl, rfl, rfl, rfl⟩

theorem code_reply (r : Reactor) (env : OpEnv) : (∀ level, ∃ rc, (r.executeSetWalLevel level).1 = .code rc) ∧
    ∃ rc, (r.executeSnapshot env).1 = .code rc := by
  refine ⟨fun level => ?_, _, rfl⟩
  unfold Reactor.executeSetWalLevel
  simp only
  split
  · split <;> exact ⟨_, rfl⟩
  · exact ⟨_, rfl⟩

-- Whatever the devices do, an operation answers as the map would.
theorem execute_answers (sb : SuperBlock) (r : Reactor) (env : OpEnv) (req : Request) (fits : sb.blockCount ≤ 2 ^ 56) (sound : r.Sound sb)
    (admitted : req.Admitted) : Answers r.contents req (r.execute env req).1 (r.execute env req).2.contents ∧
      (r.execute env req).2.Sound sb := by
  have owns := execute_owns sb r env req sound.owns
  have answered : Answered r.contents req (r.execute env req) := by
    cases req with
    | get key => exact ⟨get_answers sb r key sound, same_values_checked _ _ (get_values r key) sound.checked⟩
    | put req => exact put_answers sb r env req fits sound admitted.2.2
    | delete key => exact delete_answers sb r env key sound
    | setWalLevel level =>
        obtain ⟨rc, reply⟩ := (code_reply r env).1 level
        have same := same_values_store _ _ (set_level_store r level)
        refine ⟨?_, same_values_checked _ _ same sound.checked⟩
        show Answers r.contents (.setWalLevel level) (r.executeSetWalLevel level).1 (r.executeSetWalLevel level).2.contents
        rw [reply, same_values_contents _ _ same]
        exact .level level rc
    | snapshot =>
        have same := same_values_store _ _ (do_snapshot_store r env.auto)
        refine ⟨?_, same_values_checked _ _ same sound.checked⟩
        show Answers r.contents .snapshot (.code (r.doSnapshot env.auto).1) (r.doSnapshot env.auto).2.contents
        rw [same_values_contents _ _ same]
        exact .snapshot _
  exact ⟨answered.answers, owns, answered.checked⟩

-- How the coming calls of a device go, and which of its sectors can be read.
structure Faults where
  outcomes : List Outcome
  unreadable : Nat → Bool

def RawDevice.suffer (d : RawDevice) (faults : Faults) : RawDevice :=
  { d with outcomes := faults.outcomes, unreadable := faults.unreadable }

inductive StoreMove where
  | request (req : Request) (env : OpEnv)
  | fault (data wal snapshot : Faults)

def Reactor.suffer (r : Reactor) (data wal snapshot : Faults) : Reactor :=
  ((r.withIo { r.dc.io with dev := r.dc.io.dev.suffer data }).withWal { r.dc.wal with dev := r.dc.wal.dev.suffer wal }).withSnapshot
    { r.dc.snapshot with dev := r.dc.snapshot.dev.suffer snapshot }

-- A thread from the creation of its device on. Any call on any of the three
-- devices may fail, and a write that fails may have been done in part.
def storeMachine (sb : SuperBlock) : Machine Reactor StoreMove (Request × Reply) where
  start r := r.options.create = true ∧ ∃ env group, group.data.sizeBytes < 2 ^ 64 ∧ openDevice r.options env sb group = (Err.kSuccess, r.dc)
  step r move events r' :=
    match move with
    | .request req env => req.Admitted ∧ events = [(req, (r.execute env req).1)] ∧ r' = (r.execute env req).2
    | .fault data wal snapshot => events = [] ∧ r' = r.suffer data wal snapshot

theorem suffer_values (r : Reactor) (data wal snapshot : Faults) : r.SameValues (r.suffer data wal snapshot) := ⟨rfl, fun _ _ _ => rfl⟩

theorem created_sound (sb : SuperBlock) (r : Reactor) (env : OpenEnv) (group : DeviceGroup) (mode : r.options.create = true)
    (word : group.data.sizeBytes < 2 ^ 64) (opened : openDevice r.options env sb group = (Err.kSuccess, r.dc)) :
    r.Sound sb ∧ (∀ key, r.contents key = none) ∧ sb.blockCount < 2 ^ 44 := by
  obtain ⟨blocks, pool, _, _, small⟩ := opened_conserved r.options env sb group r.dc word opened
  have empty : r.dc.metaIndex = ∅ := by
    obtain ⟨io, _, _, modes⟩ := open_device_ok r.options env sb group r.dc opened
    rcases modes with ⟨_, wal, snapshot, _, _, made⟩ | ⟨other, _⟩
    · rw [made]
      rfl
    · rw [mode] at other
      cases other
  have none_ (key : Key) : r.dc.metaIndex.lookup key = none := by rw [empty, AList.lookup_empty]
  refine ⟨⟨⟨blocks, by rw [pool]; rfl⟩, fun key meta_ found => ?_⟩, fun key => contents_none r key (none_ key), small⟩
  rw [none_ key] at found
  cases found

-- The thread's part of the invariant behind the map it stands for.
structure StandsFor (sb : SuperBlock) (r : Reactor) (m : ValueMap) : Prop where
  sound : r.Sound sb
  small : sb.blockCount < 2 ^ 44
  same : m = r.contents

theorem store_simulates (sb : SuperBlock) : Simulates (storeMachine sb) mapMachine (StandsFor sb) := by
  refine ⟨fun r begun => ?_, fun r m move events r' stands step => ?_⟩
  · obtain ⟨mode, env, group, word, opened⟩ := begun
    obtain ⟨sound, empty, small⟩ := created_sound sb r env group mode word opened
    exact ⟨r.contents, empty, sound, small, rfl⟩
  · obtain ⟨sound, small, rfl⟩ := stands
    cases move with
    | request req env =>
        obtain ⟨admitted, rfl, rfl⟩ := step
        obtain ⟨answers, sound'⟩ := execute_answers sb r env req (by omega) sound admitted
        exact ⟨_, steps_one mapMachine _ _ () _ ⟨req, _, rfl, answers⟩, sound', small, rfl⟩
    | fault data wal snapshot =>
        obtain ⟨rfl, rfl⟩ := step
        have same := suffer_values r data wal snapshot
        have owns : (r.suffer data wal snapshot).Owns sb := ⟨sound.owns.blocks, sound.owns.buffers⟩
        exact ⟨r.contents, .stop _, ⟨owns, same_values_checked r _ same sound.checked⟩, small, (same_values_contents r _ same).symm⟩

-- What the requests so far have stored, by their answers alone.
def effect (m : ValueMap) (answered : Request × Reply) : ValueMap :=
  match answered.1 with
  | .put req => if answered.2.rc = Err.kSuccess then Function.update m req.key (some req.value.bytes) else m
  | .delete key => if answered.2.rc = Err.kSuccess then Function.update m key none else m
  | _ => m

def lastStored (history : List (Request × Reply)) : ValueMap := history.foldl effect fun _ => none

theorem answers_effect (m next : ValueMap) (req : Request) (reply : Reply) (answers : Answers m req reply next) :
    next = effect m (req, reply) := by
  cases answers with
  | stored req => simp [effect, Reply.code]
  | notStored req rc failed => simp [effect, Reply.code, failed]
  | deleted key here => simp [effect, Reply.code]
  | absent key gone => simp [effect, Reply.code, Err.kIndexKeyNotFound, Err.kSuccess]
  | notDeleted key rc here failed kept => simp [effect, Reply.code, failed]
  | _ => rfl

-- A Get finds what was stored last, or says that it could not read it.
def ReadsBack (history : List (Request × Reply)) : Prop :=
  ∀ front key reply back, history = front ++ (.get key, reply) :: back →
    (∃ value, lastStored front key = some value ∧ (reply = ⟨Err.kSuccess, some value⟩ ∨ reply = .code Err.kIoBase)) ∨
      (lastStored front key = none ∧ reply = .code Err.kIndexKeyNotFound)

theorem map_run_reads (history : List (Request × Reply)) (m : ValueMap) (run : mapMachine.Run history m) :
    m = lastStored history ∧ ReadsBack history := by
  induction run with
  | begin m first => exact ⟨funext first, fun front _ _ _ no => by cases front <;> cases no⟩
  | next history events m m' _ _ step ih =>
      obtain ⟨req, reply, rfl, answers⟩ := step
      obtain ⟨rfl, reads⟩ := ih
      refine ⟨?_, fun front key reply' back split => ?_⟩
      · rw [lastStored, List.foldl_append]
        exact answers_effect _ _ _ _ answers
      · rcases List.eq_nil_or_concat back with rfl | ⟨rest, last, rfl⟩
        · obtain ⟨rfl, same⟩ := List.append_inj' split rfl
          cases same
          cases answers with
          | found key value here => exact .inl ⟨value, here, .inl rfl⟩
          | missing key gone => exact .inr ⟨gone, rfl⟩
          | unread key here =>
              obtain ⟨value, known⟩ := Option.ne_none_iff_exists'.mp here
              exact .inl ⟨value, known, .inr rfl⟩
        · rw [List.concat_eq_append, ← List.cons_append, ← List.append_assoc] at split
          exact reads front key reply' rest (List.append_inj' split rfl).1

-- In every run, and whatever the devices do, the store is the map of the Puts and
-- Deletes that succeeded.
theorem store_refines_map (sb : SuperBlock) (history : List (Request × Reply)) (r : Reactor) (run : (storeMachine sb).Run history r) :
    mapMachine.Run history r.contents ∧ r.contents = lastStored history ∧ ReadsBack history := by
  obtain ⟨m, mapRun, stands⟩ := simulated_run _ _ _ (store_simulates sb) history r run
  obtain ⟨_, _, rfl⟩ := stands
  exact ⟨mapRun, map_run_reads history _ mapRun⟩

def zeroPut (key : UInt8) : PutRequest where
  key := [key]
  value := ⟨4096, zeros kValueSize⟩
  valueSource := .fallback

theorem zero_put_admitted (key : UInt8) : (Request.put (zeroPut key)).Admitted :=
  ⟨Nat.le_refl 1, (by decide : 1 ≤ kWalKeyMax), zeros_length kValueSize⟩

theorem store_refines_map_put : ∃ first second r,
    (storeMachine blankSuperBlock).Run [(.put (zeroPut 1), first), (.get [1], second)] r ∧
      r.contents = lastStored [(.put (zeroPut 1), first), (.get [1], second)] := by
  obtain ⟨dc, opened, _⟩ := blank_group_opens
  have begun := Machine.Run.begin (m := storeMachine blankSuperBlock) ⟨plainOptions true 1, dc⟩
    ⟨rfl, plainOpenEnv, blankGroup, (by decide : 8192 + 4096 * 512 < 2 ^ 64), opened⟩
  have put := Machine.Run.next _ _ _ _ (.request (.put (zeroPut 1)) plainOpEnv) begun (by exact ⟨zero_put_admitted 1, rfl, rfl⟩)
  have got := Machine.Run.next _ _ _ _ (.request (.get [1]) plainOpEnv) put (by exact ⟨Nat.le_refl 1, rfl, rfl⟩)
  exact ⟨_, _, _, got, (store_refines_map blankSuperBlock _ _ got).2.1⟩

end Cabe
