import Cabe.Concurrency.Machine
import Cabe.EngineOpen

set_option autoImplicit false

namespace Cabe

open Storage Concurrency

-- Where the operation in progress stands, after each of its calls.
inductive Stage where
  | idle
  | started (req : Request)
  | acquired (req : PutRequest) (block : BlockId)
  | leased (req : PutRequest) (block : BlockId) (lease : Option Nat) (buffer : IoWriteBuffer)
  | written (req : PutRequest) (block : BlockId) (lease : Option Nat) (rc : Rc)
  | released (req : PutRequest) (block : BlockId) (rc : Rc)
  | logged (req : PutRequest) (block : BlockId) (rc : Rc)
  | located (key : Key) (meta_ : ValueMeta)
  | buried (key : Key) (meta_ : ValueMeta) (rc : Rc)
  | replaced (old : Option BlockId)
  | settled
  | reading (meta_ : ValueMeta) (buf : Nat)
  | fetched (buf : Nat) (reply : Reply)
  | finished (reply : Reply)

-- The block the operation holds outside the queue and the index.
def Stage.held : Stage → List BlockId
  | .acquired _ block => [block]
  | .leased _ block _ _ => [block]
  | .written _ block _ _ => [block]
  | .released _ block _ => [block]
  | .logged _ block _ => [block]
  | .replaced (some block) => [block]
  | _ => []

def Stage.buffers : Stage → List Nat
  | .leased _ _ (some buf) _ => [buf]
  | .written _ _ (some buf) _ => [buf]
  | .reading _ buf => [buf]
  | .fetched buf _ => [buf]
  | _ => []

def Stage.between : Stage → Prop
  | .idle => True
  | .finished _ => True
  | _ => False

-- The first call of an operation.
def Reactor.enter (r : Reactor) (env : OpEnv) : Request → Stage × Reactor
  | .get key =>
      match r.dc.metaIndex.lookupMeta key with
      | .error rc => (.finished (.code rc), r)
      | .ok meta_ =>
          match r.dc.pool.allocate with
          | none => (.finished (.code Err.kEnginePoolExhausted), r)
          | some (buf, pool) => (.reading meta_ buf, r.withPool pool)
  | .put req =>
      match r.dc.blockAllocator.acquire with
      | .error rc => (.finished (.code rc), r)
      | .ok (block, allocator) => (.acquired req block, r.withAllocator allocator)
  | .delete key =>
      match r.dc.metaIndex.lookupMeta key with
      | .error rc => (.finished (.code rc), r)
      | .ok meta_ => (.located key meta_, r)
  | .setWalLevel level =>
      match r.executeSetWalLevel level with
      | (reply, r) => (.finished reply, r)
  | .snapshot =>
      match r.executeSnapshot env with
      | (reply, r) => (.finished reply, r)

def Reactor.advance (r : Reactor) (env : OpEnv) : Stage → Stage × Reactor
  | .idle => (.idle, r)
  | .started req => r.enter env req
  | .acquired req block =>
      match r.leaseWriteBuffer req with
      | .error rc => (.finished (.code rc), r.recycle block)
      | .ok (lease, buffer, r) => (.leased req block lease buffer, r)
  | .leased req block lease buffer =>
      match r.dc.io.write r.options.walLevel block.blockIdx buffer with
      | (rc, io) => (.written req block lease rc, r.withIo io)
  | .written req block lease rc => (.released req block rc, r.resetLease lease)
  | .released req block rc =>
      if rc ≠ Err.kSuccess then (.finished (.code rc), r.recycle block)
      else
        match r.writeWalRescuing env.rescue (putEntry req.key block (Util.crc32 req.value.bytes) env.now) with
        | (rc, r) => (.logged req block rc, r)
  | .logged req block rc =>
      if rc ≠ Err.kSuccess then (.finished (.code rc), r.recycle block)
      else
        let meta_ : ValueMeta := { block := block, timestamp := env.now, crc := Util.crc32 req.value.bytes, state := .active }
        let next := r.withIndex (r.dc.metaIndex.insertMeta req.key meta_).2
        match r.dc.metaIndex.lookupMeta req.key with
        | .error _ => (.replaced none, next)
        | .ok old => (.replaced (some old.block), next)
  | .located key meta_ =>
      match r.writeWalRescuing env.rescue (deleteEntry key env.now) with
      | (rc, r) => (.buried key meta_ rc, r)
  | .buried key meta_ rc =>
      if rc ≠ Err.kSuccess then (.finished (.code rc), r)
      else (.replaced (some meta_.block), r.withIndex (r.dc.metaIndex.deleteMeta key).2)
  | .replaced none => (.settled, r)
  | .replaced (some old) => (.settled, (r.recycle old).trimDeviceBlock old)
  | .settled => (.finished (.code Err.kSuccess), r.maybeRequestSnapshot env.auto)
  | .reading meta_ buf =>
      match r.dc.io.read meta_.block.blockIdx with
      | .error rc => (.fetched buf (.code rc), r)
      | .ok bytes =>
          if Util.crc32 bytes ≠ meta_.crc then (.fetched buf (.code Err.kEngineDataCorrupted), r)
          else (.fetched buf ⟨Err.kSuccess, some bytes⟩, r)
  | .fetched buf reply => (.finished reply, r.withPool (r.dc.pool.free buf))
  | .finished reply => (.finished reply, r)

-- The calls of an operation, taken one after another, are the operation.
inductive Reactor.Calls (env : OpEnv) : Stage × Reactor → Stage × Reactor → Prop
  | done (at_ : Stage × Reactor) : Calls env at_ at_
  | call (at_ last : Stage × Reactor) (rest : Calls env (at_.2.advance env at_.1) last) : Calls env at_ last

theorem get_calls (r : Reactor) (env : OpEnv) (key : Key) :
    Reactor.Calls env (.started (.get key), r) (.finished (r.executeGet key).1, (r.executeGet key).2) := by
  apply Reactor.Calls.call
  simp only [Reactor.advance, Reactor.enter, Reactor.executeGet]
  cases r.dc.metaIndex.lookupMeta key with
  | error rc => exact .done _
  | ok meta_ =>
      simp only
      cases r.dc.pool.allocate with
      | none => exact .done _
      | some taken =>
          obtain ⟨buf, pool⟩ := taken
          apply Reactor.Calls.call
          simp only [Reactor.advance]
          rw [show (r.withPool pool).dc.io = r.dc.io from rfl]
          cases r.dc.io.read meta_.block.blockIdx with
          | error rc => exact .call _ _ (.done _)
          | ok bytes =>
              simp only
              split <;> exact .call _ _ (.done _)

theorem settle_calls (r : Reactor) (env : OpEnv) (old : Option BlockId) (after : Reactor)
    (given : after = match old with | none => r | some id => (r.recycle id).trimDeviceBlock id) :
    Reactor.Calls env (.replaced old, r) (.finished (.code Err.kSuccess), after.maybeRequestSnapshot env.auto) := by
  subst given
  cases old with
  | none => exact .call _ _ (.call _ _ (.done _))
  | some id => exact .call _ _ (.call _ _ (.done _))

theorem delete_calls (r : Reactor) (env : OpEnv) (key : Key) :
    Reactor.Calls env (.started (.delete key), r) (.finished (r.executeDelete env key).1, (r.executeDelete env key).2) := by
  apply Reactor.Calls.call
  simp only [Reactor.advance, Reactor.enter, Reactor.executeDelete]
  cases r.dc.metaIndex.lookupMeta key with
  | error rc => exact .done _
  | ok meta_ =>
      simp only
      apply Reactor.Calls.call
      simp only [Reactor.advance]
      generalize r.writeWalRescuing env.rescue (deleteEntry key env.now) = written
      apply Reactor.Calls.call
      simp only [Reactor.advance]
      split
      · exact .done _
      · exact settle_calls _ env (some meta_.block) _ rfl

theorem put_calls (r : Reactor) (env : OpEnv) (req : PutRequest) :
    Reactor.Calls env (.started (.put req), r) (.finished (r.executePut env req).1, (r.executePut env req).2) := by
  apply Reactor.Calls.call
  simp only [Reactor.advance, Reactor.enter, Reactor.executePut]
  cases r.dc.blockAllocator.acquire with
  | error rc => exact .done _
  | ok taken =>
      obtain ⟨block, allocator⟩ := taken
      simp only
      apply Reactor.Calls.call
      simp only [Reactor.advance]
      cases (r.withAllocator allocator).leaseWriteBuffer req with
      | error rc => exact .done _
      | ok leased =>
          obtain ⟨lease, buffer, r1⟩ := leased
          simp only
          apply Reactor.Calls.call
          simp only [Reactor.advance]
          generalize r1.dc.io.write r1.options.walLevel block.blockIdx buffer = stored
          apply Reactor.Calls.call
          simp only [Reactor.advance]
          generalize (r1.withIo stored.2).resetLease lease = r2
          apply Reactor.Calls.call
          simp only [Reactor.advance]
          split
          · exact .done _
          · generalize r2.writeWalRescuing env.rescue (putEntry req.key block (Util.crc32 req.value.bytes) env.now) = written
            apply Reactor.Calls.call
            simp only [Reactor.advance]
            split
            · exact .done _
            · cases written.2.dc.metaIndex.lookupMeta req.key with
              | error rc => exact settle_calls _ env none _ rfl
              | ok old => exact settle_calls _ env (some old.block) _ rfl

theorem execute_calls (r : Reactor) (env : OpEnv) (req : Request) :
    Reactor.Calls env (.started req, r) (.finished (r.execute env req).1, (r.execute env req).2) := by
  cases req with
  | get key => exact get_calls r env key
  | put req => exact put_calls r env req
  | delete key => exact delete_calls r env key
  | setWalLevel level => exact .call _ _ (.done _)
  | snapshot => exact .call _ _ (.done _)

-- A device context with its thread, and what the operation in progress found
-- when it began.
structure Running where
  env : OpEnv
  stage : Stage
  reactor : Reactor
  before : DeviceContext

inductive DeviceMove where
  | begin (req : Request) (env : OpEnv)
  | call
  | fault (unreadable : Nat → Bool)

def Stage.reply : Stage → List Reply
  | .finished reply => [reply]
  | _ => []

def Reactor.withFault (r : Reactor) (unreadable : Nat → Bool) : Reactor :=
  r.withIo { r.dc.io with dev := { r.dc.io.dev with unreadable := unreadable } }

-- One operation follows the other. Which sectors of the data device can be read
-- changes at any time.
def deviceMachine (sb : SuperBlock) : Machine Running DeviceMove Reply where
  start s := s.stage = .idle ∧ s.before = s.reactor.dc ∧ ∃ env group, group.data.sizeBytes < 2 ^ 64 ∧
    openDevice s.reactor.options env sb group = (Err.kSuccess, s.reactor.dc)
  step s move events s' :=
    match move with
    | .begin req env => s.stage.between ∧ events = [] ∧ s' = { env := env, stage := .started req, reactor := s.reactor, before := s.reactor.dc }
    | .call => ¬ s.stage.between ∧ s' = { s with stage := (s.reactor.advance s.env s.stage).1, reactor := (s.reactor.advance s.env s.stage).2 } ∧
        events = s'.stage.reply
    | .fault unreadable => events = [] ∧ s' = { s with reactor := s.reactor.withFault unreadable }

-- The entry a delete has looked up.
def Stage.target : Stage → Option (Key × ValueMeta)
  | .located key meta_ => some (key, meta_)
  | .buried key meta_ _ => some (key, meta_)
  | _ => none

-- The index has been changed and the operation can only succeed.
def Stage.committed : Stage → Prop
  | .replaced _ => True
  | .settled => True
  | .finished reply => reply.rc = Err.kSuccess
  | _ => False

structure Owning (sb : SuperBlock) (s : Running) : Prop where
  blocks : Conserved sb.dev sb.blockCount s.reactor.dc.blockAllocator (s.reactor.dc.metaIndex.blocks ++ s.stage.held)
  buffers : s.reactor.dc.pool.freeList ++ s.stage.buffers = List.range kDefaultPoolBlocks
  target : ∀ key meta_, s.stage.target = some (key, meta_) → s.reactor.dc.metaIndex.lookup key = some meta_
  found : Conserved sb.dev sb.blockCount s.before.blockAllocator s.before.metaIndex.blocks
  same : ¬ s.stage.committed → s.reactor.dc.metaIndex = s.before.metaIndex

theorem lookup_meta_ok (m : MetaIndex) (key : Key) (meta_ : ValueMeta) (found : m.lookupMeta key = .ok meta_) :
    m.lookup key = some meta_ := by
  unfold MetaIndex.lookupMeta at found
  cases known : m.lookup key with
  | none => simp [known] at found
  | some other => simpa [known] using found

theorem lookup_meta_error (m : MetaIndex) (key : Key) (rc : Rc) (missing : m.lookupMeta key = .error rc) :
    m.lookup key = none ∧ rc = Err.kIndexKeyNotFound := by
  unfold MetaIndex.lookupMeta at missing
  cases known : m.lookup key with
  | none => simpa [known, eq_comm] using missing
  | some other => simp [known] at missing

theorem give_back (sb : SuperBlock) (a : RingBlockAllocator) (used : List BlockId) (block : BlockId)
    (held : Conserved sb.dev sb.blockCount a (used ++ [block])) : Conserved sb.dev sb.blockCount (a.recycle block) (used ++ []) := by
  rw [List.append_nil]
  exact recycle_conserved _ _ _ _ _ (conserved_perm _ _ _ _ _ held (List.perm_append_singleton block used))

-- An operation that only touches the WAL and the snapshot moves no block.
theorem owning_quiet (sb : SuperBlock) (s : Running) (after : Reactor) (stage : Stage) (owning : Owning sb s)
    (store : s.reactor.SameStore after) (held : stage.held = s.stage.held) (buffers : stage.buffers = s.stage.buffers)
    (target : ∀ key meta_, stage.target = some (key, meta_) → s.stage.target = some (key, meta_))
    (committed : ¬ stage.committed → ¬ s.stage.committed) : Owning sb { s with stage := stage, reactor := after } := by
  refine ⟨?_, ?_, ?_, owning.found, ?_⟩
  · show Conserved sb.dev sb.blockCount after.dc.blockAllocator (after.dc.metaIndex.blocks ++ stage.held)
    rw [store.allocator, store.index, held]
    exact owning.blocks
  · show after.dc.pool.freeList ++ stage.buffers = _
    rw [store.pool, buffers]
    exact owning.buffers
  · intro key meta_ looked
    show after.dc.metaIndex.lookup key = some meta_
    rw [store.index]
    exact owning.target key meta_ (target key meta_ looked)
  · intro open_
    exact store.index.trans (owning.same (committed open_))

theorem enter_owning (sb : SuperBlock) (s : Running) (req : Request) (owning : Owning sb s) (here : s.stage = .started req) :
    Owning sb { s with stage := (s.reactor.enter s.env req).1, reactor := (s.reactor.enter s.env req).2 } := by
  have blocks := owning.blocks
  have buffers := owning.buffers
  have same := owning.same
  rw [here] at blocks buffers same
  have unchanged : s.reactor.dc.metaIndex = s.before.metaIndex := same (fun committed => committed)
  have refused (rc : Rc) : Owning sb { s with stage := .finished (.code rc) } :=
    ⟨blocks, buffers, (fun _ _ looked => nomatch looked), owning.found, (fun _ => unchanged)⟩
  cases req with
  | get key =>
      simp only [Reactor.enter]
      cases looked : s.reactor.dc.metaIndex.lookupMeta key with
      | error rc => exact refused rc
      | ok meta_ =>
          cases taken : s.reactor.dc.pool.allocate with
          | none => exact refused _
          | some found =>
              obtain ⟨buf, pool⟩ := found
              refine ⟨blocks, ?_, (fun _ _ looked => nomatch looked), owning.found, fun _ => unchanged⟩
              have restored := congrArg BufferPool.freeList (free_allocated _ _ _ taken)
              exact restored.trans ((List.append_nil _).symm.trans buffers)
  | put req =>
      simp only [Reactor.enter]
      cases taken : s.reactor.dc.blockAllocator.acquire with
      | error rc => exact refused rc
      | ok found =>
          obtain ⟨block, allocator⟩ := found
          refine ⟨?_, buffers, (fun _ _ looked => nomatch looked), owning.found, fun _ => unchanged⟩
          have all := conserved_perm _ _ _ _ _ blocks (List.Perm.of_eq (List.append_nil _))
          exact conserved_perm _ _ _ _ _ (acquire_conserved _ _ _ _ _ _ all taken) (List.perm_append_singleton block _).symm
  | delete key =>
      simp only [Reactor.enter]
      cases looked : s.reactor.dc.metaIndex.lookupMeta key with
      | error rc => exact refused rc
      | ok meta_ =>
          refine ⟨blocks, buffers, ?_, owning.found, fun _ => unchanged⟩
          intro other meta' target
          cases target
          exact lookup_meta_ok _ _ _ looked
  | setWalLevel level =>
      have store : s.reactor.SameStore (s.reactor.executeSetWalLevel level).2 := by
        unfold Reactor.executeSetWalLevel
        simp only
        split
        · split <;> exact ⟨rfl, rfl, rfl, rfl, rfl⟩
        · exact ⟨rfl, rfl, rfl, rfl, rfl⟩
      exact owning_quiet sb s _ _ owning store (by rw [here]; rfl) (by rw [here]; rfl) (fun _ _ looked => nomatch looked)
        (fun _ committed => by rw [here] at committed; exact committed)
  | snapshot =>
      have store : s.reactor.SameStore (s.reactor.executeSnapshot s.env).2 := do_snapshot_store s.reactor s.env.auto
      exact owning_quiet sb s _ _ owning store (by rw [here]; rfl) (by rw [here]; rfl) (fun _ _ looked => nomatch looked)
        (fun _ committed => by rw [here] at committed; exact committed)

theorem advance_owning (sb : SuperBlock) (s : Running) (owning : Owning sb s) (busy : ¬ s.stage.between) :
    Owning sb { s with stage := (s.reactor.advance s.env s.stage).1, reactor := (s.reactor.advance s.env s.stage).2 } := by
  obtain ⟨env, stage, r, before⟩ := s
  have blocks := owning.blocks
  have buffers := owning.buffers
  have same := owning.same
  have found := owning.found
  simp only at blocks buffers same found busy
  cases stage with
  | idle => exact absurd trivial busy
  | started req => exact enter_owning sb _ req owning rfl
  | acquired req block =>
      have unchanged : r.dc.metaIndex = before.metaIndex := same (fun committed => committed)
      simp only [Reactor.advance, Reactor.leaseWriteBuffer]
      cases buildPutWritePlan req.value req.valueSource defaultBackendDirectWriteCaps with
      | direct => exact ⟨blocks, buffers, (fun _ _ looked => nomatch looked), found, fun _ => unchanged⟩
      | copyFallback =>
          cases taken : r.dc.pool.allocate with
          | none => exact ⟨give_back sb _ _ block blocks, buffers, (fun _ _ looked => nomatch looked), found, fun _ => unchanged⟩
          | some lease =>
              obtain ⟨buf, pool⟩ := lease
              refine ⟨blocks, ?_, (fun _ _ looked => nomatch looked), found, fun _ => unchanged⟩
              have restored := congrArg BufferPool.freeList (free_allocated _ _ _ taken)
              exact restored.trans ((List.append_nil _).symm.trans buffers)
  | leased req block lease buffer =>
      have unchanged : r.dc.metaIndex = before.metaIndex := same (fun committed => committed)
      cases lease with
      | none => exact ⟨blocks, buffers, (fun _ _ looked => nomatch looked), found, fun _ => unchanged⟩
      | some buf => exact ⟨blocks, buffers, (fun _ _ looked => nomatch looked), found, fun _ => unchanged⟩
  | written req block lease rc =>
      have unchanged : r.dc.metaIndex = before.metaIndex := same (fun committed => committed)
      cases lease with
      | none => exact ⟨blocks, buffers, (fun _ _ looked => nomatch looked), found, fun _ => unchanged⟩
      | some buf =>
          refine ⟨blocks, ?_, (fun _ _ looked => nomatch looked), found, fun _ => unchanged⟩
          exact (List.append_nil _).trans buffers
  | released req block rc =>
      have unchanged : r.dc.metaIndex = before.metaIndex := same (fun committed => committed)
      simp only [Reactor.advance]
      split
      · exact ⟨give_back sb _ _ block blocks, buffers, (fun _ _ looked => nomatch looked), found, fun _ => unchanged⟩
      · have store := write_rescuing_store r env.rescue (putEntry req.key block (Util.crc32 req.value.bytes) env.now)
        generalize r.writeWalRescuing env.rescue (putEntry req.key block (Util.crc32 req.value.bytes) env.now) = written at store
        exact owning_quiet sb ⟨env, .released req block rc, r, before⟩ written.2 (.logged req block written.1) owning store rfl rfl
          (fun _ _ looked => nomatch looked) (fun _ committed => committed)
  | logged req block rc =>
      have unchanged : r.dc.metaIndex = before.metaIndex := same (fun committed => committed)
      simp only [Reactor.advance]
      split
      · exact ⟨give_back sb _ _ block blocks, buffers, (fun _ _ looked => nomatch looked), found, fun _ => unchanged⟩
      · have held := conserved_perm _ _ _ _ _ blocks (List.perm_append_singleton block _)
        cases looked : r.dc.metaIndex.lookupMeta req.key with
        | error rc =>
            refine ⟨?_, buffers, (fun _ _ looked => nomatch looked), found, fun committed => absurd trivial committed⟩
            have fresh := blocks_insert_fresh r.dc.metaIndex req.key
              { block := block, timestamp := env.now, crc := Util.crc32 req.value.bytes, state := .active } (lookup_meta_error _ _ _ looked).1
            rw [← fresh] at held
            exact conserved_perm _ _ _ _ _ held (List.Perm.of_eq (List.append_nil _).symm)
        | ok old =>
            refine ⟨?_, buffers, (fun _ _ looked => nomatch looked), found, fun committed => absurd trivial committed⟩
            have replaced := blocks_insert_over r.dc.metaIndex req.key
              { block := block, timestamp := env.now, crc := Util.crc32 req.value.bytes, state := .active } old (lookup_meta_ok _ _ _ looked)
            exact conserved_perm _ _ _ _ _ held (replaced.symm.trans (List.perm_append_singleton old.block _).symm)
  | located key meta_ =>
      have store := write_rescuing_store r env.rescue (deleteEntry key env.now)
      simp only [Reactor.advance]
      generalize r.writeWalRescuing env.rescue (deleteEntry key env.now) = written at store
      exact owning_quiet sb ⟨env, .located key meta_, r, before⟩ written.2 (.buried key meta_ written.1) owning store rfl rfl
        (fun _ _ looked => looked) (fun _ committed => committed)
  | buried key meta_ rc =>
      have unchanged : r.dc.metaIndex = before.metaIndex := same (fun committed => committed)
      have looked := owning.target key meta_ rfl
      simp only [Reactor.advance]
      split
      · exact ⟨blocks, buffers, (fun _ _ looked => nomatch looked), found, fun _ => unchanged⟩
      · refine ⟨?_, buffers, (fun _ _ looked => nomatch looked), found, fun committed => absurd trivial committed⟩
        have erased : (r.dc.metaIndex.deleteMeta key).2 = r.dc.metaIndex.erase key := by
          simp only at looked
          simp [MetaIndex.deleteMeta, looked]
        show Conserved sb.dev sb.blockCount r.dc.blockAllocator (MetaIndex.blocks (r.dc.metaIndex.deleteMeta key).2 ++ [meta_.block])
        rw [erased]
        have all := conserved_perm _ _ _ _ _ blocks (List.Perm.of_eq (List.append_nil _))
        exact conserved_perm _ _ _ _ _ all
          ((blocks_erase r.dc.metaIndex key meta_ looked).symm.trans (List.perm_append_singleton meta_.block _).symm)
  | replaced old =>
      cases old with
      | none => exact ⟨blocks, buffers, (fun _ _ looked => nomatch looked), found, fun committed => absurd trivial committed⟩
      | some block =>
          exact ⟨give_back sb _ _ block blocks, buffers, (fun _ _ looked => nomatch looked), found,
            fun committed => absurd trivial committed⟩
  | settled =>
      have store := maybe_request_store r env.auto
      simp only [Reactor.advance]
      generalize r.maybeRequestSnapshot env.auto = after at store
      exact owning_quiet sb ⟨env, .settled, r, before⟩ after _ owning store rfl rfl (fun _ _ looked => nomatch looked)
        (fun committed => absurd rfl committed)
  | reading meta_ buf =>
      have unchanged : r.dc.metaIndex = before.metaIndex := same (fun committed => committed)
      simp only [Reactor.advance]
      cases r.dc.io.read meta_.block.blockIdx with
      | error rc => exact ⟨blocks, buffers, (fun _ _ looked => nomatch looked), found, fun _ => unchanged⟩
      | ok bytes =>
          simp only
          split <;> exact ⟨blocks, buffers, (fun _ _ looked => nomatch looked), found, fun _ => unchanged⟩
  | fetched buf reply =>
      have unchanged : r.dc.metaIndex = before.metaIndex := same (fun committed => committed)
      refine ⟨blocks, ?_, (fun _ _ looked => nomatch looked), found, fun _ => unchanged⟩
      exact (List.append_nil _).trans buffers
  | finished reply => exact absurd trivial busy

theorem device_run (sb : SuperBlock) (trace : List Reply) (s : Running) (run : (deviceMachine sb).Run trace s) : Owning sb s := by
  refine run_invariant (deviceMachine sb) (fun _ s => Owning sb s) ?_ ?_ trace s run
  · rintro ⟨env, stage, r, before⟩ ⟨idle, found, env', group, word, opened⟩
    obtain ⟨conserved, pool, _⟩ := opened_conserved r.options env' sb group r.dc word opened
    cases idle
    obtain rfl : before = r.dc := found
    exact ⟨conserved_perm _ _ _ _ _ conserved (List.Perm.of_eq (List.append_nil _).symm), by rw [pool]; rfl,
      (fun _ _ looked => nomatch looked), conserved, fun _ => rfl⟩
  · intro _ s move events s' owning step
    cases move with
    | begin req env =>
        obtain ⟨between, _, rfl⟩ := step
        have blocks := owning.blocks
        have buffers := owning.buffers
        have rests : s.stage.held = [] ∧ s.stage.buffers = [] := by
          cases here : s.stage with
          | idle => exact ⟨rfl, rfl⟩
          | finished reply => exact ⟨rfl, rfl⟩
          | _ => rw [here] at between; exact absurd between id
        rw [rests.1] at blocks
        rw [rests.2] at buffers
        exact ⟨blocks, buffers, (fun _ _ looked => nomatch looked),
          conserved_perm _ _ _ _ _ blocks (List.Perm.of_eq (List.append_nil _)), fun _ => rfl⟩
    | call =>
        obtain ⟨busy, rfl, _⟩ := step
        exact advance_owning sb s owning busy
    | fault unreadable =>
        obtain ⟨_, rfl⟩ := step
        exact ⟨owning.blocks, owning.buffers, owning.target, owning.found, owning.same⟩

theorem calls_owning (sb : SuperBlock) (env : OpEnv) (before : DeviceContext) (a b : Stage × Reactor) (calls : Reactor.Calls env a b) :
    Owning sb ⟨env, a.1, a.2, before⟩ → Owning sb ⟨env, b.1, b.2, before⟩ := by
  induction calls with
  | done at_ => exact id
  | call at_ last rest ih =>
      intro owning
      obtain ⟨stage, r⟩ := at_
      apply ih
      by_cases between : stage.between
      · cases stage with
        | idle => exact owning
        | finished reply => exact owning
        | _ => exact absurd between id
      · exact advance_owning sb ⟨env, stage, r, before⟩ owning between

-- Between two operations no block and no buffer is away.
structure Reactor.Owns (sb : SuperBlock) (r : Reactor) : Prop where
  blocks : Conserved sb.dev sb.blockCount r.dc.blockAllocator r.dc.metaIndex.blocks
  buffers : r.dc.pool.freeList = List.range kDefaultPoolBlocks

theorem execute_owns (sb : SuperBlock) (r : Reactor) (env : OpEnv) (req : Request) (owns : r.Owns sb) : (r.execute env req).2.Owns sb := by
  have started : Owning sb ⟨env, .started req, r, r.dc⟩ := by
    refine ⟨?_, ?_, (fun _ _ looked => nomatch looked), owns.blocks, fun _ => rfl⟩
    · exact conserved_perm _ _ _ _ _ owns.blocks (List.Perm.of_eq (List.append_nil _).symm)
    · exact (List.append_nil _).trans owns.buffers
  have finished := calls_owning sb env r.dc _ _ (execute_calls r env req) started
  refine ⟨?_, (List.append_nil _).symm.trans finished.buffers⟩
  exact conserved_perm _ _ _ _ _ finished.blocks (List.Perm.of_eq (List.append_nil _))

theorem conserved_items (dev : DeviceId) (blockCount : Nat) (a : RingBlockAllocator) (used : List BlockId)
    (conserved : Conserved dev blockCount a used) :
    a.Holds a.items ∧ (a.items ++ used).Perm (deviceBlocks dev blockCount) := by
  obtain ⟨items, held, perm⟩ := conserved.free
  rw [queue_items a items held]
  exact ⟨held, perm⟩

theorem owned_nodup (sb : SuperBlock) (r : Reactor) (owns : r.Owns sb) (fits : sb.blockCount ≤ 2 ^ 56) : r.dc.metaIndex.blocks.Nodup := by
  obtain ⟨_, perm⟩ := conserved_items _ _ _ _ owns.blocks
  exact (perm.nodup_iff.mpr (device_blocks_nodup sb.dev sb.blockCount fits)).of_append_right

-- The free blocks are the ones not in use.
theorem free_exactly (dev : DeviceId) (blockCount : Nat) (a : RingBlockAllocator) (used : List BlockId) (fits : blockCount ≤ 2 ^ 56)
    (conserved : Conserved dev blockCount a used) (id : BlockId) : id ∈ a.items ↔ id ∈ deviceBlocks dev blockCount ∧ id ∉ used := by
  obtain ⟨_, perm⟩ := conserved_items dev blockCount a used conserved
  have nodup := perm.nodup_iff.mpr (device_blocks_nodup dev blockCount fits)
  constructor
  · intro free
    exact ⟨perm.mem_iff.mp (List.mem_append_left _ free), fun busy => List.disjoint_of_nodup_append nodup free busy⟩
  · rintro ⟨member, free⟩
    exact (List.mem_append.mp (perm.mem_iff.mpr member)).resolve_right free

end Cabe
