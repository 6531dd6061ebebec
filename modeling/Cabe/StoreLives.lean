import Cabe.ReactorReopen
import Cabe.StoreMap

set_option autoImplicit false

namespace Cabe

open Storage Concurrency

-- An operation makes at most one write to the data device.
def SyncIoBackend.Once (a b : SyncIoBackend) : Prop := b = a ∨ ∃ level idx buffer, b = (a.write level idx buffer).2

theorem get_io (r : Reactor) (key : Key) : (r.executeGet key).2.dc.io = r.dc.io := by
  unfold Reactor.executeGet
  cases r.dc.metaIndex.lookupMeta key with
  | error rc => rfl
  | ok meta_ =>
      simp only
      cases r.dc.pool.allocate with
      | none => rfl
      | some got =>
          simp only
          cases (r.withPool got.2).dc.io.read meta_.block.blockIdx with
          | error rc => rfl
          | ok value =>
              simp only
              split <;> rfl

theorem put_io (r : Reactor) (env : OpEnv) (req : PutRequest) : r.dc.io.Once (r.executePut env req).2.dc.io := by
  unfold Reactor.executePut
  cases r.dc.blockAllocator.acquire with
  | error rc => exact .inl rfl
  | ok got =>
      obtain ⟨block, allocator⟩ := got
      simp only
      cases leased : (r.withAllocator allocator).leaseWriteBuffer req with
      | error rc => exact .inl rfl
      | ok got =>
          obtain ⟨lease, buffer, r1⟩ := got
          obtain ⟨_, _, io⟩ := lease_buffer _ _ _ _ _ leased
          simp only
          have device : ((r1.withIo (r1.dc.io.write r1.options.walLevel block.blockIdx buffer).2).resetLease lease).dc.io =
              (r.dc.io.write r1.options.walLevel block.blockIdx buffer).2 := by
            rw [io]
            cases lease <;> rfl
          generalize r1.dc.io.write r1.options.walLevel block.blockIdx buffer = out at device ⊢
          generalize (r1.withIo out.2).resetLease lease = r2 at device ⊢
          have once : r.dc.io.Once r2.dc.io := .inr ⟨_, _, _, device⟩
          split
          · exact once
          · have store := write_rescuing_store r2 env.rescue (putEntry req.key block (Util.crc32 req.value.bytes) env.now)
            generalize r2.writeWalRescuing env.rescue (putEntry req.key block (Util.crc32 req.value.bytes) env.now) = logged at store ⊢
            rw [← store.io] at once
            split
            · exact once
            · rw [(maybe_request_store _ env.auto).io]
              cases logged.2.dc.metaIndex.lookupMeta req.key <;> exact once

theorem delete_io (r : Reactor) (env : OpEnv) (key : Key) : (r.executeDelete env key).2.dc.io = r.dc.io := by
  unfold Reactor.executeDelete
  cases r.dc.metaIndex.lookupMeta key with
  | error rc => rfl
  | ok meta_ =>
      have store := write_rescuing_store r env.rescue (deleteEntry key env.now)
      simp only
      generalize r.writeWalRescuing env.rescue (deleteEntry key env.now) = logged at store ⊢
      split
      · exact store.io
      · rw [(maybe_request_store _ env.auto).io]
        exact store.io

theorem execute_io (r : Reactor) (env : OpEnv) (req : Request) : r.dc.io.Once (r.execute env req).2.dc.io := by
  cases req with
  | get key => exact .inl (get_io r key)
  | put req => exact put_io r env req
  | delete key => exact .inl (delete_io r env key)
  | setWalLevel level => exact .inl (set_level_store r level).io
  | snapshot => exact .inl (do_snapshot_store r env.auto).io

theorem io_write_same (io : SyncIoBackend) (level : WalLevel) (idx : Nat) (buffer : IoWriteBuffer) :
    (io.write level idx buffer).2.blockCount = io.blockCount ∧ (io.write level idx buffer).2.dev.sizeBytes = io.dev.sizeBytes ∧
      (io.write level idx buffer).2.dev.isOpen = io.dev.isOpen := by
  unfold SyncIoBackend.write
  split
  · exact ⟨rfl, rfl, rfl⟩
  · cases buffer.data with
    | none => exact ⟨rfl, rfl, rfl⟩
    | some bytes =>
        simp only
        split
        · exact ⟨rfl, rfl, rfl⟩
        · obtain ⟨size, opened, _⟩ := write_at_same io.dev (valueOffset idx) bytes
          generalize io.dev.writeAt (valueOffset idx) bytes = out at size opened ⊢
          split
          · exact ⟨rfl, size, opened⟩
          · split
            · obtain ⟨size', opened', _⟩ := sync_same out.2
              exact ⟨rfl, size'.trans size, opened'.trans opened⟩
            · exact ⟨rfl, size, opened⟩

theorem houses_once (a b : SyncIoBackend) (blockCount : Nat) (houses : a.Houses blockCount) (once : a.Once b) : b.Houses blockCount := by
  rcases once with rfl | ⟨level, idx, buffer, rfl⟩
  · exact houses
  · obtain ⟨count, size, opened⟩ := io_write_same a level idx buffer
    exact ⟨opened.trans houses.opened, size ▸ houses.word, by rw [count, size]; exact houses.count, by rw [count]; exact houses.some_,
      by rw [count]; exact houses.enough⟩

-- A group whose log was never used, and a snapshot device that can be written.
structure BlankGroup (sb : SuperBlock) (r : Reactor) : Prop where
  mode : r.options.create = true
  snapshotBuffer : r.options.snapshotBufferSize ≤ 2 ^ 64 - 4096
  walBuffer : r.options.walBufferSize ≤ 2 ^ 63
  opened : ∃ env group, group.data.sizeBytes < 2 ^ 64 ∧ group.snapshot.sizeBytes < 2 ^ 64 ∧ FreshDevice group.wal ∧
    group.snapshot.outcomes = [] ∧ (∀ k, group.snapshot.unreadable k = false) ∧ openDevice r.options env sb group = (Err.kSuccess, r.dc)

-- What holds between two operations, in any life.
structure Alive (sb : SuperBlock) (count : Nat) (r : Reactor) : Prop where
  sound : r.Sound sb
  small : sb.blockCount < 2 ^ 44
  houses : r.dc.io.Houses sb.blockCount
  lasts : Lasts sb count ⟨.rest, r⟩

theorem blank_group_alive (sb : SuperBlock) (r : Reactor) (created : BlankGroup sb r) : Alive sb 0 r ∧ ∀ key, r.contents key = none := by
  obtain ⟨mode, snapshotBuffer, walBuffer, env, group, word, snapWord, fresh, outcomes, readable, opened⟩ := created
  obtain ⟨sound, empty, small⟩ := created_sound sb r env group mode word opened
  obtain ⟨io, ioOpened, count, modes⟩ := open_device_ok r.options env sb group r.dc opened
  rcases modes with ⟨_, wal, snapshot, walOpened, snapOpened, made⟩ | ⟨other, _⟩
  swap
  · rw [mode] at other
    cases other
  have just := open_wal_success _ r.options wal walOpened
  obtain ⟨bufPos, bufMax⟩ := provided_buffer r.options walBuffer
  obtain ⟨g, bufBlocks, inv, blank⟩ := created_session group.wal r.options wal r.options.walLevel fresh mode just
    (by unfold Allocated; rw [just.bufSize]; exact bufMax) (by rw [just.bufSize]; exact bufPos)
  have rests := rests_created sb snapshot group.snapshot r.options env.toSnapshotEnv snapWord outcomes readable mode snapOpened
  have index : r.dc.metaIndex = ∅ := by rw [made]; rfl
  have sameWal : r.dc.wal = wal := by rw [made]
  have sameSnapshot : r.dc.snapshot = snapshot := by rw [made]
  refine ⟨⟨sound, small, ?_, g, bufBlocks, _, _, [], ⟨⟨sameWal, rfl, inv, trivial⟩, blank, Nat.zero_le _, ?_, ?_, ?_,
    nofun, ?_, Nat.le_refl 0⟩⟩, empty⟩
  · rw [made]
    exact open_io_houses group.data io sb.blockCount word ioOpened count
  · show SnapshotRests sb r.dc.snapshot 0 [] 0
    rw [sameSnapshot]
    exact rests
  · show Restores sb [] 0 [] r.dc.metaIndex
    rw [index]
    exact restores_empty sb
  · show Lawful sb r.dc.metaIndex
    rw [index]
    exact lawful_empty sb
  · exact buffer_pos r.options snapshotBuffer

theorem alive_more (sb : SuperBlock) (count more : Nat) (r : Reactor) (alive : Alive sb count r) (later : count ≤ more) : Alive sb more r :=
  ⟨alive.sound, alive.small, alive.houses, lasts_more sb count more _ alive.lasts later⟩

theorem alive_execute (sb : SuperBlock) (r : Reactor) (env : OpEnv) (req : Request) (count : Nat) (alive : Alive sb count r)
    (admitted : req.Admitted) (room : count + 5 < 2 ^ 64) : Alive sb (count + 3) (r.execute env req).2 ∧
      Answers r.contents req (r.execute env req).1 (r.execute env req).2.contents := by
  have small := alive.small
  obtain ⟨answers, sound⟩ := execute_answers sb r env req (by omega) alive.sound admitted
  exact ⟨⟨sound, small, houses_once _ _ _ alive.houses (execute_io r env req),
    execute_lasts sb r env req count (by omega) alive.sound.owns admitted room alive.lasts⟩, answers⟩

-- The data device fails as it likes. The log does not touch it.
theorem alive_fault (sb : SuperBlock) (r : Reactor) (faults : Faults) (count : Nat) (alive : Alive sb count r) :
    Alive sb count (r.withIo { r.dc.io with dev := r.dc.io.dev.suffer faults }) ∧
      (r.withIo { r.dc.io with dev := r.dc.io.dev.suffer faults }).contents = r.contents := by
  obtain ⟨sound, small, houses, g, bufBlocks, v, s, kept, lasting⟩ := alive
  have same : r.SameValues (r.withIo { r.dc.io with dev := r.dc.io.dev.suffer faults }) := ⟨rfl, fun _ _ _ => rfl⟩
  refine ⟨⟨⟨⟨sound.owns.blocks, sound.owns.buffers⟩, same_values_checked _ _ same sound.checked⟩, small,
    ⟨houses.opened, houses.word, houses.count, houses.some_, houses.enough⟩, g, bufBlocks, v, s, kept, ?_⟩, same_values_contents _ _ same⟩
  exact ⟨⟨lasting.tracks.wal, lasting.tracks.level, lasting.tracks.inv, trivial⟩, lasting.blank, lasting.intact, lasting.rests,
    lasting.restores, lasting.lawful, nofun, lasting.buffered, lasting.short⟩

-- The same entries with their values where they were.
theorem reopened_contents (sb : SuperBlock) (count : Nat) (r next : Reactor)
    (reopened : ReopenedAs sb count r next r.dc.io.dev.medium.cur r.dc.metaIndex)
    (checked : r.Checked) : next.contents = r.contents ∧ next.Checked := by
  have value (meta_ : ValueMeta) : next.dc.io.valueAt meta_ = r.dc.io.valueAt meta_ := by
    unfold SyncIoBackend.valueAt
    rw [reopened.io]
    rfl
  constructor
  · funext key
    have same := reopened.index key
    cases found : r.dc.metaIndex.lookup key with
    | none => rw [contents_none r key found, contents_none next key (same.trans found)]
    | some meta_ => rw [contents_some r key meta_ found, contents_some next key meta_ (same.trans found), value]
  · intro key meta_ found
    rw [value]
    exact checked key meta_ ((reopened.index key).symm.trans found)

theorem opened_owns (sb : SuperBlock) (opts : Options) (env : OpenEnv) (group : DeviceGroup) (dc : DeviceContext)
    (word : group.data.sizeBytes < 2 ^ 64) (done : openDevice opts env sb group = (Err.kSuccess, dc)) : (⟨opts, dc⟩ : Reactor).Owns sb := by
  obtain ⟨blocks, pool, _⟩ := opened_conserved opts env sb group dc word done
  exact ⟨blocks, by rw [pool]; rfl⟩

-- What an orderly end leaves of the log is everything that was accepted.
theorem close_leaves (r : Reactor) : (r.closeDc).2.dc.wal = (r.dc.wal.close r.options.walLevel).2 ∧
    (r.closeDc).2.dc.snapshot.dev.medium = r.dc.snapshot.dev.medium ∧ (r.closeDc).2.dc.io.dev.medium = r.dc.io.dev.medium ∧
    ((r.dc.wal.close r.options.walLevel).1 = Err.kSuccess → (r.closeDc).1 = Err.kSuccess) := by
  refine ⟨rfl, rfl, rfl, fun done => ?_⟩
  show (if Err.kSuccess ≠ Err.kSuccess then Err.kSuccess else if (r.dc.wal.close r.options.walLevel).1 ≠ Err.kSuccess then
    (r.dc.wal.close r.options.walLevel).1 else Err.kSuccess) = Err.kSuccess
  rw [done]
  rfl

def Reactor.shutGroup (r : Reactor) : DeviceGroup :=
  r.left r.closeDc.2.dc.io.dev.medium.cur r.closeDc.2.dc.wal.dev.medium.cur r.closeDc.2.dc.snapshot.dev.medium.cur

theorem alive_reopen (sb : SuperBlock) (r : Reactor) (opts : Options) (env : OpenEnv) (count : Nat) (alive : Alive sb count r)
    (room : count + 2 < 2 ^ 64) (provided : Provided r opts env r.closeDc.2.dc.wal.dev.medium.cur) :
    r.closeDc.1 = Err.kSuccess ∧ ∃ dc, openDevice opts env sb r.shutGroup = (Err.kSuccess, dc) ∧ Alive sb count ⟨opts, dc⟩ ∧
      (⟨opts, dc⟩ : Reactor).contents = r.contents ∧ dc.io.dev.medium.unsynced = [] := by
  obtain ⟨sound, small, houses, g, bufBlocks, v, s, kept, lasting⟩ := alive
  have inv := lasting.tracks.inv
  have short := lasting.short
  have wal : r.dc.wal = s.wal := lasting.tracks.wal
  have level : r.options.walLevel = s.level := lasting.tracks.level
  obtain ⟨shut, _, _, code⟩ := close_leaves r
  obtain ⟨closed, h, ok, prior, lo, entries, _⟩ := close_session g bufBlocks v s inv
  rw [← wal, ← level] at closed ok
  rw [← shut] at ok
  have blank : BlankPrior g h.prior := by
    rw [prior]
    exact lasting.blank
  have crash := crash_image g bufBlocks s h s.entries.length s.entries.length _ _ ok (survives_self kSectorSize _)
    (blank_stale g h.prior _ blank) (by rw [entries]; omega)
  have whole (stop : Nat) (lower : s.entries.length ≤ stop) (upper : stop ≤ s.entries.length) : h.entries.take stop = s.entries := by
    rw [entries, Nat.le_antisymm upper lower, List.take_length]
  obtain ⟨stop, dc, _, _, done, reopened⟩ := reactor_reopens sb g bufBlocks v s kept count .rest r lasting houses h _ _
    r.closeDc.2.dc.io.dev.medium.cur _ r.closeDc.2.dc.snapshot.dev.medium.cur crash prior lo (by omega)
    (survives_self kSectorSize _) opts env provided
    (fun _ => r.dc.metaIndex) (fun stop lower upper => by rw [whole stop lower upper]; exact lasting.restores)
    (fun _ _ _ => ⟨lasting.lawful, owned_nodup sb r sound.owns (by omega)⟩) (by rw [entries]; exact short) room
  obtain ⟨same, checked⟩ := reopened_contents sb count r ⟨opts, dc⟩ reopened sound.checked
  have owns := opened_owns sb opts env _ dc houses.word done
  have io : dc.io = ⟨{ r.dc.io.dev.reboot r.closeDc.2.dc.io.dev.medium.cur with isOpen := true }, r.dc.io.blockCount⟩ := reopened.io
  refine ⟨code closed, dc, done, ⟨⟨owns, checked⟩, small, ?_, reopened.lasts⟩, same, by rw [io]; rfl⟩
  show dc.io.Houses sb.blockCount
  rw [io]
  exact ⟨rfl, houses.word, houses.count, houses.some_, houses.enough⟩

inductive LifeMove where
  | request (req : Request) (env : OpEnv)
  | fault (data : Faults)
  | reopen (opts : Options) (env : OpenEnv)

inductive LifeEvent where
  | answered (req : Request) (reply : Reply)
  | reopened (closed opened : Rc)
deriving DecidableEq, Repr

-- Any number of lives of one group, each opened from what the one before left when
-- it was closed. The buffers and the options may differ from life to life.
def lifeMachine (sb : SuperBlock) : Machine Reactor LifeMove LifeEvent where
  start := BlankGroup sb
  step r move events r' :=
    match move with
    | .request req env => req.Admitted ∧ events = [.answered req (r.execute env req).1] ∧ r' = (r.execute env req).2
    | .fault data => events = [] ∧ r' = r.withIo { r.dc.io with dev := r.dc.io.dev.suffer data }
    | .reopen opts env => Provided r opts env r.closeDc.2.dc.wal.dev.medium.cur ∧
        events = [.reopened r.closeDc.1 (openDevice opts env sb r.shutGroup).1] ∧ r' = ⟨opts, (openDevice opts env sb r.shutGroup).2⟩

def answersIn (history : List LifeEvent) : List (Request × Reply) :=
  history.filterMap fun event => match event with | .answered req reply => some (req, reply) | .reopened _ _ => none

-- The lives as their callers see them.
structure OneLife (history : List LifeEvent) (r : Reactor) : Prop where
  run : mapMachine.Run (answersIn history) r.contents
  reopens : ∀ closed opened, .reopened closed opened ∈ history → closed = Err.kSuccess ∧ opened = Err.kSuccess

theorem life_run (sb : SuperBlock) (history : List LifeEvent) (r : Reactor) (run : (lifeMachine sb).Run history r) :
    3 * history.length + 5 < 2 ^ 64 → Alive sb (3 * history.length) r ∧ OneLife history r := by
  refine run_invariant (lifeMachine sb) (fun history r => 3 * history.length + 5 < 2 ^ 64 → Alive sb (3 * history.length) r ∧ OneLife history r)
    (fun r created _ => ?_) (fun history r move events r' ih step => ?_) history r run
  · obtain ⟨alive, empty⟩ := blank_group_alive sb r created
    exact ⟨alive, .begin _ empty, nofun⟩
  · cases move with
    | request req env =>
        obtain ⟨admitted, rfl, rfl⟩ := step
        intro room
        simp only [List.length_append, List.length_singleton] at room ⊢
        obtain ⟨alive, life⟩ := ih (by omega)
        obtain ⟨alive', answers⟩ := alive_execute sb r env req _ alive admitted (by omega)
        refine ⟨alive', ?_, fun closed opened member => ?_⟩
        · rw [answersIn, List.filterMap_append]
          exact .next _ _ _ _ () life.run ⟨req, _, rfl, answers⟩
        · exact life.reopens closed opened ((List.mem_append.mp member).resolve_right (by simp))
    | fault data =>
        obtain ⟨rfl, rfl⟩ := step
        rw [List.append_nil]
        intro room
        obtain ⟨alive, life⟩ := ih room
        obtain ⟨alive', same⟩ := alive_fault sb r data _ alive
        exact ⟨alive', by rw [same]; exact life.run, life.reopens⟩
    | reopen opts env =>
        obtain ⟨provided, rfl, rfl⟩ := step
        intro room
        simp only [List.length_append, List.length_singleton] at room ⊢
        obtain ⟨alive, life⟩ := ih (by omega)
        obtain ⟨closed, dc, done, alive', same, _⟩ := alive_reopen sb r opts env _ alive (by omega) provided
        rw [closed, done]
        refine ⟨alive_more sb _ _ _ alive' (by omega), ?_, fun closed opened member => ?_⟩
        · rw [answersIn, List.filterMap_append, same]
          exact (List.append_nil (answersIn history)).symm ▸ life.run
        · rcases List.mem_append.mp member with old | new
          · exact life.reopens closed opened old
          · cases List.mem_singleton.mp new
            exact ⟨rfl, rfl⟩

-- Closing and opening again changes nothing that a caller could see: the lives
-- together are one run of the map, and no close or start of them fails.
theorem restarts_invisible (sb : SuperBlock) (history : List LifeEvent) (r : Reactor) (run : (lifeMachine sb).Run history r)
    (few : 3 * history.length + 5 < 2 ^ 64) :
    OneLife history r ∧ r.contents = lastStored (answersIn history) ∧ ReadsBack (answersIn history) := by
  obtain ⟨_, life⟩ := life_run sb history r run few
  exact ⟨life, map_run_reads _ _ life.run⟩

theorem plain_provided (sb : SuperBlock) (r : Reactor) (count : Nat) (img : Image) (alive : Alive sb count r) :
    Provided r (plainOptions false 1) plainOpenEnv img := by
  obtain ⟨_, _, _, g, bufBlocks, v, s, kept, lasting⟩ := alive
  have wal : r.dc.wal = s.wal := lasting.tracks.wal
  have ring := lasting.tracks.inv.quiet.inv.ring
  have blocks := g.room
  refine ⟨rfl, ⟨(by decide : 4096 ≤ 2 ^ 64 - 4096), fun _ => rfl⟩, (by decide : 4096 * 1 ≤ 2 ^ 63), ?_, nofun⟩
  obtain ⟨w, opened, _⟩ := plain_open (r.dc.wal.dev.reboot img) false 1 rfl (by decide) (by decide) (by
    show 4096 * 1 + 4096 ≤ walRingSize r.dc.wal.dev.sizeBytes
    rw [wal, ring, Ring.bytes]
    omega)
  rw [opened]

theorem blank_group_created : ∃ dc, BlankGroup blankSuperBlock ⟨plainOptions true 1, dc⟩ := by
  obtain ⟨dc, opened, _⟩ := blank_group_opens
  exact ⟨dc, rfl, (by decide : 4096 ≤ 2 ^ 64 - 4096), (by decide : 4096 * 1 ≤ 2 ^ 63), plainOpenEnv, blankGroup,
    (by decide : 8192 + 4096 * 512 < 2 ^ 64),
    (by decide : 8192 + 4096 * 4 < 2 ^ 64), blank_fresh 2, rfl, fun _ => rfl, opened⟩

theorem restarts_invisible_put : ∃ first second r,
    (lifeMachine blankSuperBlock).Run [.answered (.put (zeroPut 1)) first, .reopened Err.kSuccess Err.kSuccess, .answered (.get [1]) second] r ∧
      ReadsBack [(.put (zeroPut 1), first), (.get [1], second)] := by
  obtain ⟨dc, created⟩ := blank_group_created
  have begun := Machine.Run.begin (m := lifeMachine blankSuperBlock) ⟨plainOptions true 1, dc⟩ created
  have put := Machine.Run.next _ _ _ _ (.request (.put (zeroPut 1)) plainOpEnv) begun (by exact ⟨zero_put_admitted 1, rfl, rfl⟩)
  generalize Reactor.execute ⟨plainOptions true 1, dc⟩ plainOpEnv (.put (zeroPut 1)) = out at put
  obtain ⟨alive, _⟩ := life_run blankSuperBlock _ _ put (by simp)
  have provided := plain_provided blankSuperBlock out.2 _ out.2.closeDc.2.dc.wal.dev.medium.cur alive
  obtain ⟨closed, dc', opened, _⟩ := alive_reopen blankSuperBlock _ _ _ _ alive (by simp) provided
  have shut := Machine.Run.next _ _ _ _ (.reopen (plainOptions false 1) plainOpenEnv) put (by exact ⟨provided, rfl, rfl⟩)
  rw [closed, opened] at shut
  have got := Machine.Run.next _ _ _ _ (.request (.get [1]) plainOpEnv) shut (by exact ⟨Nat.le_refl 1, rfl, rfl⟩)
  exact ⟨_, _, _, got, (restarts_invisible blankSuperBlock _ _ got (by simp)).2.2⟩

end Cabe
