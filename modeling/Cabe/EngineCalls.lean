import Cabe.EngineGroups
import Cabe.RecoverLegal
import Cabe.StoreLives
import Cabe.ValueBufferPool

set_option autoImplicit false

namespace Cabe

open Storage

-- What an operation can answer: success, or an error, and those are negative.
def AnswerCode (rc : Rc) : Prop := rc = Err.kSuccess ∨ rc < 0

section Codes

theorem error_answer (n : Nat) : AnswerCode (.negSucc n) := .inr (Int.negSucc_lt_zero n)

theorem log_code_answer (rc : Rc) (code : LogCode rc) : AnswerCode rc := by
  rcases code with rfl | rfl | rfl | rfl
  · exact .inl rfl
  all_goals exact error_answer _

theorem visit_code (bufSize dataEnd : Nat) (e : Encoding) (key : Key) (meta_ : ValueMeta) :
    AnswerCode (Encoding.visit bufSize dataEnd e key meta_).1 := by
  unfold Encoding.visit
  split
  · exact error_answer _
  · split
    · exact error_answer _
    · simp only
      split
      · split
        · exact error_answer _
        · split
          · exact error_answer _
          · exact .inl rfl
      · exact .inl rfl

theorem drain_code (e : Encoding) (dataEnd : Nat) : AnswerCode (e.drain dataEnd).1 := by
  unfold Encoding.drain
  split
  · simp only
    split
    · exact error_answer _
    · simp only
      split
      · exact error_answer _
      · exact .inl rfl
  · exact .inl rfl

theorem scan_call_code (opts : Options) (env : ScanEnv) (coveredSeq : Nat) (index : MetaIndex) (s : Snapshot) :
    AnswerCode ((scanCall opts env coveredSeq index).run s).1 := by
  have ran := run_ran (scanCall opts env coveredSeq index) s
  generalize (scanCall opts env coveredSeq index).run s = out at ran
  obtain ⟨rc, after⟩ := out
  cases ran with
  | refused closed => exact error_answer _
  | scan failed =>
      unfold SnapshotCall.scanned
      rw [show (scanCall opts env coveredSeq index).code = Err.kSuccess from rfl, scanning_success]
      exact visit_all_answers _ (fun st key meta_ => visit_code _ _ st key meta_) _ _
  | drain scanned failed => exact drain_code _ _
  | overrun => exact error_answer _
  | header => exact error_answer _
  | sync => exact error_answer _
  | done => exact .inl rfl

theorem do_snapshot_code (r : Reactor) (env : ScanEnv) : AnswerCode (r.doSnapshot env).1 := by
  unfold Reactor.doSnapshot
  simp only
  generalize r.withSnapshot (r.dc.snapshot.noteTriggerAttempt r.dc.wal.lastSeq) = r1
  have flushed := log_code_answer _ (flush_log_code r1.dc.wal r1.options.walLevel)
  split
  · exact flushed
  · split
    · rw [← scan_call_run]
      exact scan_call_code _ _ _ _ _
    · exact .inl rfl

theorem get_code (r : Reactor) (key : Key) : AnswerCode (r.executeGet key).1.rc := by
  unfold Reactor.executeGet
  cases found : r.dc.metaIndex.lookupMeta key with
  | error rc =>
      rw [(lookup_meta_error _ _ _ found).2]
      exact error_answer _
  | ok meta_ =>
      cases taken : r.dc.pool.allocate with
      | none => exact error_answer _
      | some got =>
          simp only
          cases bytes : (r.withPool got.2).dc.io.read meta_.block.blockIdx with
          | error rc =>
              rw [io_read_error _ _ _ bytes]
              exact error_answer _
          | ok value =>
              simp only
              split
              · exact error_answer _
              · exact .inl rfl

theorem io_write_code (io : SyncIoBackend) (level : WalLevel) (idx : Nat) (buffer : IoWriteBuffer) : AnswerCode (io.write level idx buffer).1 := by
  unfold SyncIoBackend.write
  split
  · exact error_answer _
  · split
    · exact error_answer _
    · split
      · exact error_answer _
      · simp only
        split
        · exact error_answer _
        · split
          · simp only
            split
            · exact error_answer _
            · exact .inl rfl
          · exact .inl rfl

theorem lease_code (r : Reactor) (req : PutRequest) (rc : Rc) (refused : r.leaseWriteBuffer req = .error rc) : AnswerCode rc := by
  unfold Reactor.leaseWriteBuffer at refused
  cases plan : buildPutWritePlan req.value req.valueSource defaultBackendDirectWriteCaps with
  | direct => rw [plan] at refused; cases refused
  | copyFallback =>
      rw [plan] at refused
      cases taken : r.dc.pool.allocate with
      | none =>
          rw [taken] at refused
          cases refused
          exact error_answer _
      | some got => rw [taken] at refused; cases refused

theorem put_code (r : Reactor) (env : OpEnv) (req : PutRequest) : AnswerCode (r.executePut env req).1.rc := by
  unfold Reactor.executePut
  cases acquired : r.dc.blockAllocator.acquire with
  | error rc =>
      rw [acquire_error _ _ acquired]
      exact error_answer _
  | ok got =>
      obtain ⟨block, allocator⟩ := got
      simp only
      cases leased : (r.withAllocator allocator).leaseWriteBuffer req with
      | error rc => exact lease_code _ _ _ leased
      | ok got =>
          obtain ⟨lease, buffer, r1⟩ := got
          simp only
          have wrote := io_write_code r1.dc.io r1.options.walLevel block.blockIdx buffer
          generalize (r1.withIo (r1.dc.io.write r1.options.walLevel block.blockIdx buffer).2).resetLease lease = r2
          split
          · exact wrote
          · have logged := log_code_answer _ (write_rescuing_code r2 env.rescue (putEntry req.key block (Util.crc32 req.value.bytes) env.now))
            split
            · exact logged
            · exact .inl rfl

theorem delete_code (r : Reactor) (env : OpEnv) (key : Key) : AnswerCode (r.executeDelete env key).1.rc := by
  unfold Reactor.executeDelete
  cases found : r.dc.metaIndex.lookupMeta key with
  | error rc =>
      rw [(lookup_meta_error _ _ _ found).2]
      exact error_answer _
  | ok meta_ =>
      have logged := log_code_answer _ (write_rescuing_code r env.rescue (deleteEntry key env.now))
      simp only
      split
      · exact logged
      · exact .inl rfl

theorem set_level_code (r : Reactor) (level : WalLevel) : AnswerCode (r.executeSetWalLevel level).1.rc := by
  have flushed := log_code_answer _ (flush_log_code r.dc.wal r.options.walLevel)
  unfold Reactor.executeSetWalLevel
  simp only
  split
  · split
    · exact flushed
    · exact .inl rfl
  · exact .inl rfl

theorem execute_code (r : Reactor) (env : OpEnv) (req : Request) : AnswerCode (r.execute env req).1.rc := by
  cases req with
  | get key => exact get_code r key
  | put req => exact put_code r env req
  | delete key => exact delete_code r env key
  | setWalLevel level => exact set_level_code r level
  | snapshot => exact do_snapshot_code r env.auto

end Codes

-- The pools are asked in the order of the devices. A slot that is in use decides,
-- an address inside a pool is remembered, and the last one that was counts.
def classifyFrom (target : DeviceId) (key : Key) : List (Option SourceInfo) → Option PutValueSource → PutValueSource
  | [], seen => seen.getD .fallback
  | none :: rest, seen => classifyFrom target key rest seen
  | some info :: rest, seen =>
      let source (kind : PutValueSourceKind) : PutValueSource :=
        ⟨kind, info.deviceId, info.poolId, info.slotIndex, info.slotGeneration⟩
      match info.kind with
      | .notInPool => classifyFrom target key rest seen
      | .poolAddressNotAllocated => classifyFrom target key rest (some (source .poolAddressNotAllocated))
      | .allocatedSlot =>
          if info.deviceId ≠ target then source .otherDeviceValueBuffer
          else if info.matched = true ∧ info.boundKey = key then source .targetKeyValueBuffer
          else source .otherKeyValueBuffer

def classifyPutValueSource (pools : List (Option SourceInfo)) (target : DeviceId) (key : Key) : PutValueSource :=
  classifyFrom target key pools none

namespace Engine

variable (hash : Key → UInt64) (n : Nat)

-- The calls of the engine up to the point where they reach a reactor.
def putRequest (pools : List (Option SourceInfo)) (key : Key) (value : DataView) : Except Rc Request :=
  if key.length = 0 then .error Err.kMemEmptyKey
  else if value.bytes.length ≠ kValueSize then .error Err.kEngineInvalidValue
  else if key.length > kWalKeyMax then .error Err.kWalKeyTooLong
  else .ok (.put ⟨key, value, classifyPutValueSource pools (routeToDevice hash key n) key⟩)

def getRequest (key : Key) (outSize : Nat) : Except Rc Request :=
  if key.length = 0 then .error Err.kMemEmptyKey
  else if outSize ≠ kValueSize then .error Err.kEngineInvalidValue
  else .ok (.get key)

def deleteRequest (key : Key) : Except Rc Request := if key.length = 0 then .error Err.kMemEmptyKey else .ok (.delete key)

variable [NeZero n]

-- The reactors are a vector, and the route is an index into it.
def routeKey (key : Key) : Fin n := Fin.ofNat n (routeToDevice hash key n).toNat

theorem route_key_val (key : Key) : (routeKey hash n key).val = (routeToDevice hash key n).toNat := by
  have pos : 0 < n := Nat.pos_of_ne_zero (NeZero.ne n)
  have small : (routeToDevice hash key n).toNat < n := by
    have rest : (hash key).toNat % n < n := Nat.mod_lt _ pos
    unfold routeToDevice
    rw [UInt8.toNat_ofNat']
    exact Nat.lt_of_le_of_lt (Nat.mod_le _ _) rest
  exact Nat.mod_eq_of_lt small

-- What reaches a reactor: a call on its keys, or its share of a broadcast.
inductive Submits : Fin n → Request → Prop
  | put (pools : List (Option SourceInfo)) (key : Key) (value : DataView) (req : Request) (checked : putRequest hash n pools key value = .ok req) :
      Submits (routeKey hash n key) req
  | get (key : Key) (outSize : Nat) (req : Request) (checked : getRequest key outSize = .ok req) : Submits (routeKey hash n key) req
  | delete (key : Key) (req : Request) (checked : deleteRequest key = .ok req) : Submits (routeKey hash n key) req
  | setWalLevel (d : Fin n) (level : WalLevel) : Submits d (.setWalLevel level)
  | snapshot (d : Fin n) : Submits d .snapshot

end Engine

def Request.key? : Request → Option Key
  | .get key => some key
  | .put req => some req.key
  | .delete key => some key
  | _ => none

theorem put_request_ok (hash : Key → UInt64) (n : Nat) (pools : List (Option SourceInfo)) (key : Key) (value : DataView) (req : Request)
    (checked : Engine.putRequest hash n pools key value = .ok req) :
    req = .put ⟨key, value, classifyPutValueSource pools (routeToDevice hash key n) key⟩ ∧ req.Admitted := by
  unfold Engine.putRequest at checked
  split at checked
  · cases checked
  · split at checked
    · cases checked
    · split at checked
      · cases checked
      · rename_i named size long
        cases checked
        exact ⟨rfl, Nat.one_le_iff_ne_zero.mpr named, Nat.le_of_not_lt long, not_not.mp size⟩

theorem get_request_ok (key : Key) (outSize : Nat) (req : Request) (checked : Engine.getRequest key outSize = .ok req) :
    req = .get key ∧ req.Admitted := by
  unfold Engine.getRequest at checked
  split at checked
  · cases checked
  · split at checked
    · cases checked
    · rename_i named size
      cases checked
      exact ⟨rfl, Nat.one_le_iff_ne_zero.mpr named⟩

theorem delete_request_ok (key : Key) (req : Request) (checked : Engine.deleteRequest key = .ok req) : req = .delete key ∧ req.Admitted := by
  unfold Engine.deleteRequest at checked
  split at checked
  · cases checked
  · rename_i named
    cases checked
    exact ⟨rfl, Nat.one_le_iff_ne_zero.mpr named⟩

-- The checks of the engine are what its reactors rely on, and a key has one reactor.
theorem submits_admitted (hash : Key → UInt64) (n : Nat) [NeZero n] (d : Fin n) (req : Request) (submits : Engine.Submits hash n d req) :
    req.Admitted ∧ ∀ key, req.key? = some key → Engine.routeKey hash n key = d := by
  cases submits with
  | put pools key value req checked =>
      obtain ⟨rfl, admitted⟩ := put_request_ok hash n pools key value req checked
      exact ⟨admitted, fun other same => by cases same; rfl⟩
  | get key outSize req checked =>
      obtain ⟨rfl, admitted⟩ := get_request_ok key outSize req checked
      exact ⟨admitted, fun other same => by cases same; rfl⟩
  | delete key req checked =>
      obtain ⟨rfl, admitted⟩ := delete_request_ok key req checked
      exact ⟨admitted, fun other same => by cases same; rfl⟩
  | setWalLevel d level => exact ⟨trivial, nofun⟩
  | snapshot d => exact ⟨trivial, nofun⟩

end Cabe
