import Cabe.BlockOwnership
import Cabe.WalNumbered

set_option autoImplicit false

namespace Cabe

open Storage Concurrency

-- Where the reactor stands between two calls on its log: a frame is written and
-- the index does not know of it yet, the log is flushed for a snapshot, or the
-- snapshot is there and its boundary has not been given back.
inductive LogStage where
  | rest
  | logged (e : WalEntry)
  | flushed (covered boundary : Nat)
  | saved (covered boundary : Nat)

structure Logging where
  stage : LogStage
  reactor : Reactor

inductive LogMove where
  | store (next : Reactor)
  | note
  | write (e : WalEntry)
  | commit
  | level (level : WalLevel)
  | flush
  | save (env : ScanEnv)
  | reclaim

-- What reaches the two devices for good. A ghost is a frame that was appended by
-- a write that then failed.
inductive LogEvent where
  | frame (f : WalFrame)
  | ghost (f : WalFrame)
  | snapshot (covered : Nat) (taken : Snapshot)

-- An operation moves blocks, buffers and values between its calls on the log.
structure Reactor.SameLog (a b : Reactor) : Prop where
  wal : b.dc.wal = a.dc.wal
  snapshot : b.dc.snapshot = a.dc.snapshot
  index : b.dc.metaIndex = a.dc.metaIndex
  options : b.options = a.options

theorem same_log_refl (r : Reactor) : r.SameLog r := ⟨rfl, rfl, rfl, rfl⟩

-- An entry that the reactor may log: a put names a key and a block that a replay
-- accepts, a delete a key that is there.
inductive Acceptable (sb : SuperBlock) (index : MetaIndex) : WalEntry → Prop
  | put (key : Key) (block : BlockId) (crc : UInt32) (now : UInt64) (named : 1 ≤ key.length) (short : key.length ≤ kWalKeyMax)
      (dev : block.dev = sb.dev) (inside : block.blockIdx < sb.blockCount) : Acceptable sb index (putEntry key block crc now)
  | delete (key : Key) (now : UInt64) (meta_ : ValueMeta) (named : 1 ≤ key.length) (short : key.length ≤ kWalKeyMax)
      (found : index.lookup key = some meta_) : Acceptable sb index (deleteEntry key now)

def Reactor.commit (r : Reactor) (e : WalEntry) : Reactor :=
  if e.type = .put then
    r.withIndex (r.dc.metaIndex.insertMeta e.key { block := e.block, timestamp := e.timestamp, crc := e.valueCrc, state := .active }).2
  else r.withIndex (r.dc.metaIndex.deleteMeta e.key).2

def appended (w next : Wal) (rc : Rc) (e : WalEntry) : List LogEvent :=
  if rc = Err.kSuccess then [.frame (encodeFrame e w.seqNext)]
  else if next.seqNext = w.seqNext then []
  else [.ghost (encodeFrame e w.seqNext)]

-- One call on the log, on the snapshot or on the index.
inductive Logging.Step (sb : SuperBlock) (r : Reactor) : LogStage → LogMove → List LogEvent → Logging → Prop
  | store (stage : LogStage) (next : Reactor) (same : r.SameLog next) : Step sb r stage (.store next) [] ⟨stage, next⟩
  | note : Step sb r .rest .note [] ⟨.rest, r.withSnapshot (r.dc.snapshot.noteTriggerAttempt r.dc.wal.lastSeq)⟩
  | write (e : WalEntry) (acceptable : Acceptable sb r.dc.metaIndex e) :
      Step sb r .rest (.write e) (appended r.dc.wal (r.dc.wal.writeWal r.options.walLevel e).2 (r.dc.wal.writeWal r.options.walLevel e).1 e)
        ⟨if (r.dc.wal.writeWal r.options.walLevel e).1 = Err.kSuccess then .logged e else .rest,
          r.withWal (r.dc.wal.writeWal r.options.walLevel e).2⟩
  | commit (e : WalEntry) : Step sb r (.logged e) .commit [] ⟨.rest, r.commit e⟩
  | level (level : WalLevel) : Step sb r .rest (.level level) [] ⟨.rest, (r.executeSetWalLevel level).2⟩
  | flush : Step sb r .rest .flush []
      ⟨if (r.dc.wal.flush r.options.walLevel).1 = Err.kSuccess then
          .flushed (r.dc.wal.flush r.options.walLevel).2.lastSeq (r.dc.wal.flush r.options.walLevel).2.reclaimBoundary
        else .rest, r.withWal (r.dc.wal.flush r.options.walLevel).2⟩
  | saved (covered boundary : Nat) (env : ScanEnv) (taken : Snapshot)
      (done : r.dc.snapshot.write r.options env.toSnapshotEnv covered (r.dc.metaIndex.forEach env.walk) = (Err.kSuccess, taken)) :
      Step sb r (.flushed covered boundary) (.save env) [.snapshot covered taken] ⟨.saved covered boundary, r.withSnapshot taken⟩
  | unsaved (covered boundary : Nat) (env : ScanEnv) (rc : Rc) (left : Snapshot) (failed : rc ≠ Err.kSuccess)
      (done : r.dc.snapshot.write r.options env.toSnapshotEnv covered (r.dc.metaIndex.forEach env.walk) = (rc, left)) :
      Step sb r (.flushed covered boundary) (.save env) [] ⟨.rest, r.withSnapshot left⟩
  | reclaim (covered boundary : Nat) :
      Step sb r (.saved covered boundary) .reclaim [] ⟨.rest, r.withWal (r.dc.wal.reclaimUpTo boundary).2⟩

-- A buffer for the records that is not empty: near 2^64 the rounded size wraps.
def Options.SnapshotBuffered (opts : Options) : Prop := 0 < roundUpBufferSize opts.snapshotBufferSize kSnapshotBlockSize

-- The calls of a thread on its log, from the creation of its device.
def logMachine (sb : SuperBlock) : Machine Logging LogMove LogEvent where
  start s := s.stage = .rest ∧ s.reactor.options.create = true ∧ s.reactor.options.SnapshotBuffered ∧
    ∃ env group, group.data.sizeBytes < 2 ^ 64 ∧ openDevice s.reactor.options env sb group = (Err.kSuccess, s.reactor.dc)
  step s move events s' := Logging.Step sb s.reactor s.stage move events s'

inductive LogRun (sb : SuperBlock) : Logging → List LogEvent → Logging → Prop
  | done (s : Logging) : LogRun sb s [] s
  | next (s mid last : Logging) (move : LogMove) (events rest : List LogEvent) (step : Logging.Step sb s.reactor s.stage move events mid)
      (run : LogRun sb mid rest last) : LogRun sb s (events ++ rest) last

theorem log_run_one (sb : SuperBlock) (s last : Logging) (move : LogMove) (events : List LogEvent)
    (step : Logging.Step sb s.reactor s.stage move events last) : LogRun sb s events last := by
  have run := LogRun.next s last last move events [] step (.done last)
  rwa [List.append_nil] at run

theorem log_run_append (sb : SuperBlock) (s mid last : Logging) (events rest : List LogEvent) (first : LogRun sb s events mid)
    (second : LogRun sb mid rest last) : LogRun sb s (events ++ rest) last := by
  induction first with
  | done s => exact second
  | next s mid' _ move events more step _ ih =>
      rw [List.append_assoc]
      exact .next s mid' last move events _ step (ih second)

theorem log_run_extends (sb : SuperBlock) (trace events : List LogEvent) (s last : Logging) (run : (logMachine sb).Run trace s)
    (more : LogRun sb s events last) : (logMachine sb).Run (trace ++ events) last := by
  induction more generalizing trace with
  | done s =>
      rw [List.append_nil]
      exact run
  | next s mid _ move events rest step _ ih =>
      rw [← List.append_assoc]
      exact ih _ (.next trace events s mid move run step)

-- One attempt at a snapshot logs nothing.
def SnapshotsOnly (events : List LogEvent) : Prop :=
  events.length ≤ 1 ∧ ∀ event ∈ events, ∃ covered taken, event = .snapshot covered taken

theorem snapshots_only_nil : SnapshotsOnly [] := ⟨Nat.zero_le 1, fun _ member => nomatch member⟩

theorem do_snapshot_logs (sb : SuperBlock) (r : Reactor) (env : ScanEnv) :
    ∃ events, LogRun sb ⟨.rest, r⟩ events ⟨.rest, (r.doSnapshot env).2⟩ ∧ SnapshotsOnly events ∧
      ((r.doSnapshot env).1 = Err.kSuccess → .snapshot r.dc.wal.lastSeq (r.doSnapshot env).2.dc.snapshot ∈ events) := by
  have noted := log_run_one sb ⟨.rest, r⟩ _ .note [] Logging.Step.note
  have flushed := @Logging.Step.flush sb (r.withSnapshot (r.dc.snapshot.noteTriggerAttempt r.dc.wal.lastSeq))
  have drains := (flush_codes r.dc.wal r.options.walLevel).2
  unfold Reactor.doSnapshot
  simp only
  have log : (r.withSnapshot (r.dc.snapshot.noteTriggerAttempt r.dc.wal.lastSeq)).dc.wal = r.dc.wal ∧
    (r.withSnapshot (r.dc.snapshot.noteTriggerAttempt r.dc.wal.lastSeq)).options = r.options := ⟨rfl, rfl⟩
  generalize r.withSnapshot (r.dc.snapshot.noteTriggerAttempt r.dc.wal.lastSeq) = r1 at noted flushed log ⊢
  rw [← log.1, ← log.2] at drains
  cases flush : r1.dc.wal.flush r1.options.walLevel with
  | mk rc wal =>
  rw [flush] at flushed drains
  simp only at flushed ⊢
  have drained := log_run_append sb _ _ _ _ _ noted (log_run_one sb ⟨.rest, r1⟩ _ .flush [] flushed)
  by_cases fine : rc = Err.kSuccess
  swap
  · rw [if_pos fine]
    rw [if_neg fine] at drained
    exact ⟨_, drained, snapshots_only_nil, fun done => absurd done fine⟩
  rw [if_neg (not_not.mpr fine)]
  rw [if_pos fine] at drained
  generalize here : r1.withWal wal = r2 at drained ⊢
  have same : r2.dc.wal = wal := by rw [← here]; rfl
  cases save : r2.dc.snapshot.write r2.options env.toSnapshotEnv wal.lastSeq (r2.dc.metaIndex.forEach env.walk) with
  | mk rc snapshot =>
  simp only
  by_cases saved : rc = Err.kSuccess
  swap
  · rw [if_pos saved]
    have kept := log_run_append sb _ _ _ _ _ drained (log_run_one sb ⟨.flushed wal.lastSeq wal.reclaimBoundary, r2⟩ _ (.save env) []
      (.unsaved wal.lastSeq wal.reclaimBoundary env rc snapshot saved save))
    exact ⟨_, kept, snapshots_only_nil, fun done => absurd done saved⟩
  subst saved
  rw [if_neg (by simp)]
  have taken := log_run_append sb _ _ _ _ _ drained (log_run_one sb ⟨.flushed wal.lastSeq wal.reclaimBoundary, r2⟩ _ (.save env) _
    (.saved wal.lastSeq wal.reclaimBoundary env snapshot save))
  have given := log_run_append sb _ _ _ _ _ taken (log_run_one sb ⟨.saved wal.lastSeq wal.reclaimBoundary, r2.withSnapshot snapshot⟩ _
    .reclaim [] (.reclaim wal.lastSeq wal.reclaimBoundary))
  rw [show (r2.withSnapshot snapshot).dc.wal = wal from same] at given
  have last : wal.lastSeq = r.dc.wal.lastSeq := by
    unfold Wal.lastSeq
    rw [← log.1]
    exact congrArg (fun seq => seq - 1) drains
  refine ⟨_, given, ⟨Nat.le_refl 1, fun event member => ⟨wal.lastSeq, snapshot, by simpa using member⟩⟩, fun _ => ?_⟩
  rw [← last]
  exact List.mem_append_left _ (List.mem_append_right _ (List.mem_singleton_self _))

theorem maybe_request_logs (sb : SuperBlock) (r : Reactor) (env : ScanEnv) :
    ∃ events, LogRun sb ⟨.rest, r⟩ events ⟨.rest, r.maybeRequestSnapshot env⟩ ∧ SnapshotsOnly events := by
  unfold Reactor.maybeRequestSnapshot
  simp only
  split
  · obtain ⟨events, run, only, _⟩ := do_snapshot_logs sb r env
    exact ⟨events, run, only⟩
  · exact ⟨[], .done _, snapshots_only_nil⟩

theorem do_snapshot_index (r : Reactor) (env : ScanEnv) : (r.doSnapshot env).2.dc.metaIndex = r.dc.metaIndex :=
  (do_snapshot_store r env).index

def NoGhost (events : List LogEvent) : Prop := ∀ f, .ghost f ∉ events

theorem snapshots_no_ghost (events : List LogEvent) (only : SnapshotsOnly events) : NoGhost events := by
  intro f member
  obtain ⟨_, _, same⟩ := only.2 _ member
  cases same

theorem no_ghost_append (a b : List LogEvent) (left : NoGhost a) (right : NoGhost b) : NoGhost (a ++ b) := by
  intro f member
  rcases List.mem_append.mp member with first | second
  · exact left f first
  · exact right f second

-- How many numbers the calls have given away.
def numbersIn (events : List LogEvent) : Nat :=
  events.countP fun event => match event with | .snapshot _ _ => false | _ => true

theorem numbers_in_append (a b : List LogEvent) : numbersIn (a ++ b) = numbersIn a + numbersIn b := List.countP_append

theorem snapshots_numbers (events : List LogEvent) (only : SnapshotsOnly events) : numbersIn events = 0 := by
  refine List.countP_eq_zero.mpr fun event member => ?_
  obtain ⟨_, _, rfl⟩ := only.2 event member
  exact Bool.false_ne_true

theorem appended_no_ghost (w next : Wal) (rc : Rc) (e : WalEntry) (clean : rc = Err.kSuccess ∨ next.seqNext = w.seqNext) :
    NoGhost (appended w next rc e) := by
  intro f member
  unfold appended at member
  split at member
  · cases List.mem_singleton.mp member
  · rename_i failed
    rw [if_pos (clean.resolve_left failed)] at member
    cases member

-- The calls of one frame's way into the log, and where they leave the reactor.
structure WroteFrame (sb : SuperBlock) (r : Reactor) (e : WalEntry) (events : List LogEvent) (out : Rc × Reactor) : Prop where
  run : LogRun sb ⟨.rest, r⟩ events ⟨if out.1 = Err.kSuccess then .logged e else .rest, out.2⟩
  ghost : out.1 = Err.kSuccess → NoGhost events
  few : events.length ≤ 2
  one : numbersIn events ≤ 1

theorem appended_few (w next : Wal) (rc : Rc) (e : WalEntry) : (appended w next rc e).length ≤ 1 := by
  unfold appended
  split
  · exact Nat.le_refl 1
  · split
    · exact Nat.zero_le 1
    · exact Nat.le_refl 1

theorem appended_one (w next : Wal) (rc : Rc) (e : WalEntry) : numbersIn (appended w next rc e) ≤ 1 :=
  Nat.le_trans List.countP_le_length (appended_few w next rc e)

theorem appended_none (w next : Wal) (rc : Rc) (e : WalEntry) (failed : rc ≠ Err.kSuccess) (still : next.seqNext = w.seqNext) :
    appended w next rc e = [] := by
  unfold appended
  rw [if_neg failed, if_pos still]

theorem write_rescuing_logs (sb : SuperBlock) (r : Reactor) (env : ScanEnv) (e : WalEntry) (acceptable : Acceptable sb r.dc.metaIndex e) :
    ∃ events, WroteFrame sb r e events (r.writeWalRescuing env e) := by
  have first := log_run_one sb ⟨.rest, r⟩ _ (.write e) _ (.write e acceptable)
  unfold Reactor.writeWalRescuing
  simp only
  cases attempt : r.dc.wal.writeWal r.options.walLevel e with
  | mk rc wal =>
  rw [attempt] at first
  simp only at first ⊢
  by_cases full : rc = Err.kWalFull
  swap
  · rw [if_pos full]
    have short := appended_few r.dc.wal wal rc e
    refine ⟨_, first, fun done => ?_, by omega, appended_one _ _ _ _⟩
    exact appended_no_ghost _ _ _ _ (.inl done)
  rw [if_neg (not_not.mpr full)]
  have refused : rc ≠ Err.kSuccess := by
    rw [full]
    decide
  have numbered := (write_wal_numbered r.dc.wal r.options.walLevel e).full
  rw [attempt] at numbered
  rw [if_neg refused, appended_none _ _ _ _ refused (numbered full)] at first
  have index : (r.withWal wal).dc.metaIndex = r.dc.metaIndex := rfl
  generalize r.withWal wal = r1 at first index ⊢
  obtain ⟨events, rescue, only, _⟩ := do_snapshot_logs sb r1 env
  have store := do_snapshot_index r1 env
  have rescued := log_run_append sb _ _ _ _ _ first rescue
  cases saved : r1.doSnapshot env with
  | mk rc2 r2 =>
  rw [saved] at rescued store
  simp only at rescued store ⊢
  by_cases done : rc2 = Err.kSuccess
  swap
  · rw [if_pos done]
    have still : ¬ Err.kWalFull = Err.kSuccess := by decide
    have short := only.1
    have none_ := snapshots_numbers events only
    exact ⟨events, by simp only [if_neg still]; exact rescued, fun same => absurd same still, by omega, by omega⟩
  rw [if_neg (not_not.mpr done)]
  have acceptable' : Acceptable sb r2.dc.metaIndex e := by
    rw [store, index]
    exact acceptable
  have second := log_run_append sb _ _ _ _ _ rescued (log_run_one sb ⟨.rest, r2⟩ _ (.write e) _ (.write e acceptable'))
  cases again : r2.dc.wal.writeWal r2.options.walLevel e with
  | mk rc3 wal3 =>
  rw [again] at second
  have short := appended_few r2.dc.wal wal3 rc3 e
  refine ⟨_, second, fun done => ?_, ?_, ?_⟩
  · exact no_ghost_append _ _ (snapshots_no_ghost _ only) (appended_no_ghost _ _ _ _ (.inl done))
  · have once := only.1
    simp only [List.nil_append, List.length_append]
    omega
  · rw [List.nil_append, numbers_in_append, snapshots_numbers events only, Nat.zero_add]
    exact appended_one r2.dc.wal wal3 rc3 e

-- What the engine checks before it hands a request to a reactor.
def Request.Admitted : Request → Prop
  | .get key => 1 ≤ key.length
  | .put req => 1 ≤ req.key.length ∧ req.key.length ≤ kWalKeyMax ∧ req.value.bytes.length = kValueSize
  | .delete key => 1 ≤ key.length
  | _ => True

-- The calls of a whole operation.
structure OperationLogs (sb : SuperBlock) (r : Reactor) (events : List LogEvent) (out : Reply × Reactor) : Prop where
  run : LogRun sb ⟨.rest, r⟩ events ⟨.rest, out.2⟩
  ghost : out.1.rc = Err.kSuccess → NoGhost events
  few : events.length ≤ 3
  one : numbersIn events ≤ 1

theorem operation_store (sb : SuperBlock) (r next : Reactor) (reply : Reply) (same : r.SameLog next) :
    OperationLogs sb r [] (reply, next) :=
  ⟨log_run_one sb ⟨.rest, r⟩ _ (.store next) [] (.store .rest next same), (fun _ _ member => nomatch member), Nat.zero_le 3,
    Nat.zero_le 1⟩

theorem get_logs (sb : SuperBlock) (r : Reactor) (key : Key) : OperationLogs sb r [] (r.executeGet key) := by
  have same (reply : Reply) (pool : BufferPool) : OperationLogs sb r [] (reply, r.withPool pool) :=
    operation_store sb r _ reply ⟨rfl, rfl, rfl, rfl⟩
  unfold Reactor.executeGet
  cases r.dc.metaIndex.lookupMeta key with
  | error rc => exact operation_store sb r r _ (same_log_refl r)
  | ok meta_ =>
      simp only
      cases r.dc.pool.allocate with
      | none => exact operation_store sb r r _ (same_log_refl r)
      | some taken =>
          simp only
          rw [show (r.withPool taken.2).dc.io = r.dc.io from rfl]
          cases r.dc.io.read meta_.block.blockIdx with
          | error rc => exact same _ _
          | ok bytes =>
              simp only
              split <;> exact same _ _

-- A frame that is in the log, its entry in the index, and what follows.
theorem commit_logs (sb : SuperBlock) (r after next : Reactor) (e : WalEntry) (events : List LogEvent) (env : ScanEnv)
    (wrote : WroteFrame sb r e events (Err.kSuccess, after)) (same : (after.commit e).SameLog next) :
    ∃ all, OperationLogs sb r all (.code Err.kSuccess, next.maybeRequestSnapshot env) := by
  have run := wrote.run
  simp only [if_true] at run
  have committed := log_run_append sb _ _ _ _ _ run (log_run_one sb ⟨.logged e, after⟩ _ .commit [] (.commit e))
  have given := log_run_append sb _ _ _ _ _ committed (log_run_one sb ⟨.rest, after.commit e⟩ _ (.store next) [] (.store .rest next same))
  obtain ⟨more, asked, only⟩ := maybe_request_logs sb next env
  refine ⟨_, log_run_append sb _ _ _ _ _ given asked, fun _ => ?_, ?_, ?_⟩
  · refine no_ghost_append _ _ ?_ (snapshots_no_ghost _ only)
    rw [List.append_nil, List.append_nil]
    exact wrote.ghost rfl
  · have first := wrote.few
    have second := only.1
    simp only [List.append_nil, List.length_append]
    omega
  · have first := wrote.one
    rw [List.append_nil, List.append_nil, numbers_in_append, snapshots_numbers _ only]
    exact first

theorem operation_after (sb : SuperBlock) (r mid : Reactor) (events : List LogEvent) (out : Reply × Reactor) (same : r.SameLog mid)
    (rest : OperationLogs sb mid events out) : OperationLogs sb r events out :=
  ⟨log_run_append sb _ _ _ _ _ (log_run_one sb ⟨.rest, r⟩ ⟨.rest, mid⟩ (.store mid) [] (.store .rest mid same)) rest.run, rest.ghost,
    rest.few, rest.one⟩

theorem refused_logs (sb : SuperBlock) (r after next : Reactor) (e : WalEntry) (events : List LogEvent) (rc : Rc) (failed : rc ≠ Err.kSuccess)
    (wrote : WroteFrame sb r e events (rc, after)) (same : after.SameLog next) : OperationLogs sb r events (.code rc, next) := by
  have run := wrote.run
  simp only [if_neg failed] at run
  have given := log_run_append sb _ _ _ _ _ run (log_run_one sb ⟨.rest, after⟩ _ (.store next) [] (.store .rest next same))
  rw [List.append_nil] at given
  have few := wrote.few
  exact ⟨given, fun done => absurd done failed, by omega, wrote.one⟩

theorem delete_logs (sb : SuperBlock) (r : Reactor) (env : OpEnv) (key : Key) (lawful : Lawful sb r.dc.metaIndex) :
    ∃ events, OperationLogs sb r events (r.executeDelete env key) := by
  unfold Reactor.executeDelete
  cases looked : r.dc.metaIndex.lookupMeta key with
  | error rc => exact ⟨[], operation_store sb r r _ (same_log_refl r)⟩
  | ok meta_ =>
      have found := lookup_meta_ok _ _ _ looked
      obtain ⟨named, short, _⟩ := lawful key meta_ found
      obtain ⟨events, wrote⟩ := write_rescuing_logs sb r env.rescue (deleteEntry key env.now) (.delete key env.now meta_ named short found)
      cases result : r.writeWalRescuing env.rescue (deleteEntry key env.now) with
      | mk rc after =>
      rw [result] at wrote
      simp only
      by_cases done : rc = Err.kSuccess
      · rw [if_neg (not_not.mpr done)]
        subst done
        exact commit_logs sb r after _ _ events env.auto wrote ⟨rfl, rfl, rfl, rfl⟩
      · rw [if_pos done]
        exact ⟨events, refused_logs sb r after after _ events rc done wrote (same_log_refl _)⟩

theorem lease_log (r next : Reactor) (req : PutRequest) (lease : Option Nat) (buffer : IoWriteBuffer)
    (leased : r.leaseWriteBuffer req = .ok (lease, buffer, next)) : r.SameLog next := by
  unfold Reactor.leaseWriteBuffer at leased
  split at leased
  · cases leased
    exact same_log_refl r
  · split at leased
    · cases leased
    · cases leased
      exact ⟨rfl, rfl, rfl, rfl⟩

theorem reset_log (r : Reactor) (lease : Option Nat) : r.SameLog (r.resetLease lease) := by
  cases lease <;> exact ⟨rfl, rfl, rfl, rfl⟩

theorem same_log_trans (a b c : Reactor) (first : a.SameLog b) (second : b.SameLog c) : a.SameLog c :=
  ⟨second.wal.trans first.wal, second.snapshot.trans first.snapshot, second.index.trans first.index,
    second.options.trans first.options⟩

theorem put_logs (sb : SuperBlock) (r : Reactor) (env : OpEnv) (req : PutRequest) (used : List BlockId)
    (conserved : Conserved sb.dev sb.blockCount r.dc.blockAllocator used) (fits : sb.blockCount ≤ 2 ^ 56)
    (admitted : (Request.put req).Admitted) : ∃ events, OperationLogs sb r events (r.executePut env req) := by
  obtain ⟨named, short, _⟩ := admitted
  unfold Reactor.executePut
  cases taken : r.dc.blockAllocator.acquire with
  | error rc => exact ⟨[], operation_store sb r r _ (same_log_refl r)⟩
  | ok found =>
      obtain ⟨block, allocator⟩ := found
      have member := (acquire_conserved sb.dev sb.blockCount _ allocator block used conserved taken).free
      obtain ⟨items, _, perm⟩ := member
      obtain ⟨dev, inside⟩ := (mem_device_blocks sb.dev sb.blockCount block fits).mp (perm.mem_iff.mp (by simp))
      have first : r.SameLog (r.withAllocator allocator) := ⟨rfl, rfl, rfl, rfl⟩
      simp only
      cases leased : (r.withAllocator allocator).leaseWriteBuffer req with
      | error rc => exact ⟨[], operation_store sb r _ _ ⟨rfl, rfl, rfl, rfl⟩⟩
      | ok got =>
          obtain ⟨lease, buffer, r1⟩ := got
          have second := same_log_trans _ _ _ first (lease_log _ _ _ _ _ leased)
          simp only
          generalize r1.dc.io.write r1.options.walLevel block.blockIdx buffer = stored
          have third := same_log_trans _ _ _ second
            (same_log_trans _ _ _ (⟨rfl, rfl, rfl, rfl⟩ : r1.SameLog (r1.withIo stored.2)) (reset_log (r1.withIo stored.2) lease))
          generalize (r1.withIo stored.2).resetLease lease = r2 at third ⊢
          by_cases kept : stored.1 = Err.kSuccess
          swap
          · rw [if_pos kept]
            exact ⟨[], operation_store sb r _ _ (same_log_trans _ _ _ third ⟨rfl, rfl, rfl, rfl⟩)⟩
          rw [if_neg (not_not.mpr kept)]
          obtain ⟨events, wrote⟩ := write_rescuing_logs sb r2 env.rescue (putEntry req.key block (Util.crc32 req.value.bytes) env.now)
            (.put req.key block _ env.now named short dev inside)
          cases result : r2.writeWalRescuing env.rescue (putEntry req.key block (Util.crc32 req.value.bytes) env.now) with
          | mk rc after =>
          rw [result] at wrote
          by_cases done : rc = Err.kSuccess
          swap
          · rw [if_pos done]
            exact ⟨events, operation_after sb r r2 _ _ third (refused_logs sb r2 after _ _ events rc done wrote ⟨rfl, rfl, rfl, rfl⟩)⟩
          rw [if_neg (not_not.mpr done)]
          subst done
          cases after.dc.metaIndex.lookupMeta req.key with
          | error rc =>
              obtain ⟨all, logs⟩ := commit_logs sb r2 after _ _ events env.auto wrote (same_log_refl _)
              exact ⟨all, operation_after sb r r2 _ _ third logs⟩
          | ok old =>
              obtain ⟨all, logs⟩ := commit_logs sb r2 after _ _ events env.auto wrote
                (⟨rfl, rfl, rfl, rfl⟩ : (after.commit _).SameLog (((after.commit _).recycle old.block).trimDeviceBlock old.block))
              exact ⟨all, operation_after sb r r2 _ _ third logs⟩

-- Every operation is a run of these calls.
theorem execute_logs (sb : SuperBlock) (r : Reactor) (env : OpEnv) (req : Request) (used : List BlockId)
    (conserved : Conserved sb.dev sb.blockCount r.dc.blockAllocator used) (lawful : Lawful sb r.dc.metaIndex)
    (fits : sb.blockCount ≤ 2 ^ 56) (admitted : req.Admitted) : ∃ events, OperationLogs sb r events (r.execute env req) := by
  cases req with
  | get key => exact ⟨[], get_logs sb r key⟩
  | put req => exact put_logs sb r env req used conserved fits admitted
  | delete key => exact delete_logs sb r env key lawful
  | setWalLevel level =>
      exact ⟨[], log_run_one sb ⟨.rest, r⟩ _ (.level level) [] (.level level), (fun _ _ member => nomatch member), Nat.zero_le 3, Nat.zero_le 1⟩
  | snapshot =>
      obtain ⟨events, run, only, _⟩ := do_snapshot_logs sb r env.auto
      have short := only.1
      have none_ := snapshots_numbers events only
      exact ⟨events, run, fun _ => snapshots_no_ghost _ only, by omega, by omega⟩

theorem set_level_still (r : Reactor) (level : WalLevel) : (r.executeSetWalLevel level).2.dc.metaIndex = r.dc.metaIndex ∧
    (r.executeSetWalLevel level).2.dc.wal.seqNext = r.dc.wal.seqNext ∧
    (r.executeSetWalLevel level).2.options.snapshotBufferSize = r.options.snapshotBufferSize := by
  have drained := (flush_codes r.dc.wal r.options.walLevel).2
  unfold Reactor.executeSetWalLevel
  simp only
  split
  · split
    · exact ⟨rfl, drained, rfl⟩
    · exact ⟨rfl, drained, rfl⟩
  · exact ⟨rfl, rfl, rfl⟩

theorem reclaim_seq (w : Wal) (boundary : Nat) : (w.reclaimUpTo boundary).2.seqNext = w.seqNext := by
  unfold Wal.reclaimUpTo
  simp only
  split <;> rfl

theorem appended_numbers (w : Wal) (out : Rc × Wal) (e : WalEntry) (numbered : Numbered w out) :
    out.2.seqNext = w.seqNext + numbersIn (appended w out.2 out.1 e) := by
  unfold appended
  by_cases done : out.1 = Err.kSuccess
  · rw [if_pos done, numbered.done done]
    rfl
  · rw [if_neg done]
    by_cases still : out.2.seqNext = w.seqNext
    · rw [if_pos still, still]
      rfl
    · rw [if_neg still, numbered.once.resolve_left still]
      rfl

theorem log_step_numbers (sb : SuperBlock) (r : Reactor) (stage : LogStage) (move : LogMove) (events : List LogEvent) (after : Logging)
    (step : Logging.Step sb r stage move events after) : after.reactor.dc.wal.seqNext = r.dc.wal.seqNext + numbersIn events := by
  cases step with
  | store _ next same => rw [same.wal]; rfl
  | note => rfl
  | write e acceptable => exact appended_numbers r.dc.wal _ e (write_wal_numbered r.dc.wal r.options.walLevel e)
  | commit e => unfold Reactor.commit; split <;> rfl
  | level level => exact (set_level_still r level).2.1
  | flush => exact (flush_codes r.dc.wal r.options.walLevel).2
  | saved covered boundary env taken done => rfl
  | unsaved covered boundary env rc left failed done => rfl
  | reclaim covered boundary => exact reclaim_seq r.dc.wal boundary

theorem log_run_numbers (sb : SuperBlock) (s last : Logging) (events : List LogEvent) (run : LogRun sb s events last) :
    last.reactor.dc.wal.seqNext = s.reactor.dc.wal.seqNext + numbersIn events := by
  induction run with
  | done s => rfl
  | next s mid last move events rest step _ ih =>
      rw [ih, log_step_numbers sb s.reactor s.stage move events mid step, Nat.add_assoc, numbers_in_append]

-- An operation that succeeds, or that gives no number away, leaves no ghost.
theorem operation_no_ghost (sb : SuperBlock) (r : Reactor) (events : List LogEvent) (out : Reply × Reactor)
    (logs : OperationLogs sb r events out) (clean : out.1.rc = Err.kSuccess ∨ out.2.dc.wal.seqNext = r.dc.wal.seqNext) : NoGhost events := by
  rcases clean with done | still
  · exact logs.ghost done
  · intro f member
    have numbers := log_run_numbers sb _ _ _ logs.run
    have some_ : 0 < numbersIn events := List.countP_pos_iff.mpr ⟨_, member, rfl⟩
    simp only at numbers
    omega

end Cabe
