import Cabe.BlockSafety
import Cabe.RecoverLegal

set_option autoImplicit false

namespace Cabe

open Storage Concurrency

inductive TriggerPath where
  | threshold
  | manual
  | rescue
deriving DecidableEq, Repr

-- DoSnapshot notes the last number there is before it does anything else.
structure Attempt where
  path : TriggerPath
  seq : Nat
deriving DecidableEq, Repr

inductive TriggerEvent where
  | began (req : Request)
  | attempt (a : Attempt)
  | replied (reply : Reply)

-- What MaybeRequestSnapshot compares with the threshold, in words.
def Reactor.grown (r : Reactor) : Nat :=
  (r.dc.wal.lastSeq + 2 ^ 64 - r.dc.snapshot.lastTriggerSeq) % 2 ^ 64 * kWalFrameSize % 2 ^ 64

def Reactor.rescueAttempt (r : Reactor) (e : WalEntry) : Option Attempt :=
  match r.dc.wal.writeWal r.options.walLevel e with
  | (rc, wal) => if rc ≠ Err.kWalFull then none else some ⟨.rescue, wal.lastSeq⟩

def Reactor.thresholdAttempt (r : Reactor) : Option Attempt :=
  if r.grown ≥ r.options.snapshotThresholdBytes then some ⟨.threshold, r.dc.wal.lastSeq⟩ else none

-- The attempt that the next call of an operation makes.
def Reactor.attempt (r : Reactor) (env : OpEnv) : Stage → Option Attempt
  | .started .snapshot => some ⟨.manual, r.dc.wal.lastSeq⟩
  | .released req block rc =>
      if rc ≠ Err.kSuccess then none else r.rescueAttempt (putEntry req.key block (Util.crc32 req.value.bytes) env.now)
  | .located key _ => r.rescueAttempt (deleteEntry key env.now)
  | .settled => r.thresholdAttempt
  | _ => none

-- The operations of one thread, as they are seen by the snapshot trigger.
def triggerMachine (sb : SuperBlock) : Machine Running DeviceMove TriggerEvent where
  start := (deviceMachine sb).start
  step s move events s' := (∃ replies, (deviceMachine sb).step s move replies s') ∧
    match move with
    | .begin req _ => events = [.began req]
    | .call => events = (s.reactor.attempt s.env s.stage).toList.map .attempt ++ s'.stage.reply.map .replied
    | .fault _ => events = []

-- What one call does to the mark. The numbers only go up.
structure Reactor.Moved (r next : Reactor) (attempt : Option Attempt) : Prop where
  threshold : next.options.snapshotThresholdBytes = r.options.snapshotThresholdBytes
  forward : r.dc.wal.seqNext ≤ next.dc.wal.seqNext
  mark : next.dc.snapshot.lastTriggerSeq = (attempt.map Attempt.seq).getD r.dc.snapshot.lastTriggerSeq
  inside : ∀ a, attempt = some a → r.dc.wal.lastSeq ≤ a.seq ∧ a.seq ≤ next.dc.wal.lastSeq
  due : ∀ a, attempt = some a → a.path = .threshold → r.options.snapshotThresholdBytes ≤ r.grown ∧ a.seq = r.dc.wal.lastSeq ∧
    next.dc.wal.lastSeq = r.dc.wal.lastSeq

theorem moved_quiet (r next : Reactor) (threshold : next.options.snapshotThresholdBytes = r.options.snapshotThresholdBytes)
    (forward : r.dc.wal.seqNext ≤ next.dc.wal.seqNext) (mark : next.dc.snapshot.lastTriggerSeq = r.dc.snapshot.lastTriggerSeq) :
    r.Moved next none := by
  refine ⟨threshold, forward, mark, ?_, ?_⟩
  · intro a made
    cases made
  · intro a made
    cases made

theorem moved_still (r next : Reactor) (same : r.SameLog next) : r.Moved next none :=
  moved_quiet r next (by rw [same.options]) (Nat.le_of_eq (by rw [same.wal])) (by rw [same.snapshot])

theorem write_snapshot_trigger (s : Snapshot) (opts : Options) (env : SnapshotEnv) (coveredSeq : Nat)
    (scan : MetaIndexVisitor Encoding → Encoding → Rc × Encoding) : (s.write opts env coveredSeq scan).2.lastTriggerSeq = s.lastTriggerSeq := by
  unfold Snapshot.write
  simp only
  split
  · rfl
  · split
    · rfl
    · split
      · rfl
      · split
        · rfl
        · split
          · rfl
          · split
            · rfl
            · split <;> rfl

theorem do_snapshot_mark (r : Reactor) (env : ScanEnv) : (r.doSnapshot env).2.dc.snapshot.lastTriggerSeq = r.dc.wal.lastSeq ∧
    (r.doSnapshot env).2.dc.wal.seqNext = r.dc.wal.seqNext ∧ (r.doSnapshot env).2.options = r.options := by
  have drained := (flush_codes r.dc.wal r.options.walLevel).2
  unfold Reactor.doSnapshot
  simp only
  split
  · exact ⟨rfl, drained, rfl⟩
  · have kept := write_snapshot_trigger
      (r.dc.snapshot.noteTriggerAttempt r.dc.wal.lastSeq) r.options env.toSnapshotEnv (r.dc.wal.flush r.options.walLevel).2.lastSeq
      (r.dc.metaIndex.forEach env.walk)
    split
    · exact ⟨kept, drained, rfl⟩
    · exact ⟨kept, (reclaim_seq _ _).trans drained, rfl⟩

theorem maybe_request_moved (r : Reactor) (env : ScanEnv) : r.Moved (r.maybeRequestSnapshot env) r.thresholdAttempt := by
  obtain ⟨mark, seq, options⟩ := do_snapshot_mark r env
  unfold Reactor.maybeRequestSnapshot Reactor.thresholdAttempt
  by_cases due : r.grown ≥ r.options.snapshotThresholdBytes
  · have due' := due
    unfold Reactor.grown at due'
    simp only
    rw [if_pos due', if_pos due]
    refine ⟨by rw [Reactor.requestSnapshot, options], Nat.le_of_eq seq.symm, mark, ?_, ?_⟩
    · intro a same
      cases same
      exact ⟨Nat.le_refl _, Nat.le_of_eq (by rw [Reactor.requestSnapshot, Wal.lastSeq, Wal.lastSeq, seq])⟩
    · intro a same _
      cases same
      exact ⟨due, rfl, congrArg (· - 1) seq⟩
  · have due' := due
    unfold Reactor.grown at due'
    simp only
    rw [if_neg due', if_neg due]
    exact moved_still r r (same_log_refl r)

theorem write_rescuing_moved (r : Reactor) (env : ScanEnv) (e : WalEntry) : r.Moved (r.writeWalRescuing env e).2 (r.rescueAttempt e) := by
  have numbered := write_wal_numbered r.dc.wal r.options.walLevel e
  unfold Reactor.writeWalRescuing Reactor.rescueAttempt
  cases attempt : r.dc.wal.writeWal r.options.walLevel e with
  | mk rc wal =>
  rw [attempt] at numbered
  have once : wal.seqNext = r.dc.wal.seqNext ∨ wal.seqNext = r.dc.wal.seqNext + 1 := numbered.once
  simp only
  by_cases full : rc = Err.kWalFull
  swap
  · rw [if_pos full, if_pos full]
    refine moved_quiet r (r.withWal wal) rfl ?_ rfl
    show r.dc.wal.seqNext ≤ wal.seqNext
    omega
  · rw [if_neg (not_not.mpr full), if_neg (not_not.mpr full)]
    obtain ⟨mark, seq, options⟩ := do_snapshot_mark (r.withWal wal) env
    cases saved : (r.withWal wal).doSnapshot env with
    | mk rc2 r2 =>
    rw [saved] at mark seq options
    have marked : r2.dc.snapshot.lastTriggerSeq = wal.lastSeq := mark
    have same : r2.dc.wal.seqNext = wal.seqNext := seq
    simp only
    split
    · refine ⟨by rw [options]; rfl, ?_, marked, ?_, fun a some_ path => by cases some_; cases path⟩
      · show r.dc.wal.seqNext ≤ r2.dc.wal.seqNext
        omega
      · intro a some_
        cases some_
        show r.dc.wal.seqNext - 1 ≤ wal.seqNext - 1 ∧ wal.seqNext - 1 ≤ r2.dc.wal.seqNext - 1
        omega
    · have again := (write_wal_numbered r2.dc.wal r2.options.walLevel e).once
      refine ⟨by show r2.options.snapshotThresholdBytes = _; rw [options]; rfl, ?_, marked, ?_, fun a some_ path => by cases some_; cases path⟩
      · show r.dc.wal.seqNext ≤ (r2.dc.wal.writeWal r2.options.walLevel e).2.seqNext
        omega
      · intro a some_
        cases some_
        show r.dc.wal.seqNext - 1 ≤ wal.seqNext - 1 ∧ wal.seqNext - 1 ≤ (r2.dc.wal.writeWal r2.options.walLevel e).2.seqNext - 1
        omega

theorem set_level_moved (r : Reactor) (level : WalLevel) : r.Moved (r.executeSetWalLevel level).2 none := by
  obtain ⟨_, seq, _⟩ := set_level_still r level
  refine moved_quiet r _ ?_ (Nat.le_of_eq seq.symm) ?_
  · unfold Reactor.executeSetWalLevel
    simp only
    split
    · split <;> rfl
    · rfl
  · unfold Reactor.executeSetWalLevel
    simp only
    split
    · split <;> rfl
    · rfl

theorem enter_moved (r : Reactor) (env : OpEnv) (req : Request) : r.Moved (r.enter env req).2 (r.attempt env (.started req)) := by
  cases req with
  | get key =>
      simp only [Reactor.enter]
      cases r.dc.metaIndex.lookupMeta key with
      | error rc => exact moved_still r r (same_log_refl r)
      | ok meta_ =>
          simp only
          cases r.dc.pool.allocate with
          | none => exact moved_still r r (same_log_refl r)
          | some taken => exact moved_still r _ ⟨rfl, rfl, rfl, rfl⟩
  | put req =>
      simp only [Reactor.enter]
      cases r.dc.blockAllocator.acquire with
      | error rc => exact moved_still r r (same_log_refl r)
      | ok taken => exact moved_still r _ ⟨rfl, rfl, rfl, rfl⟩
  | delete key =>
      simp only [Reactor.enter]
      cases r.dc.metaIndex.lookupMeta key with
      | error rc => exact moved_still r r (same_log_refl r)
      | ok meta_ => exact moved_still r r (same_log_refl r)
  | setWalLevel level => exact set_level_moved r level
  | snapshot =>
      obtain ⟨mark, seq, options⟩ := do_snapshot_mark r env.auto
      refine ⟨congrArg Options.snapshotThresholdBytes options, Nat.le_of_eq seq.symm, mark, ?_, fun a made path => by cases made; cases path⟩
      intro a made
      cases made
      exact ⟨Nat.le_refl _, Nat.le_of_eq (congrArg (· - 1) seq.symm)⟩

theorem advance_moved (r : Reactor) (env : OpEnv) (stage : Stage) : r.Moved (r.advance env stage).2 (r.attempt env stage) := by
  cases stage with
  | idle => exact moved_still r r (same_log_refl r)
  | started req => exact enter_moved r env req
  | acquired req block =>
      simp only [Reactor.advance]
      cases leased : r.leaseWriteBuffer req with
      | error rc => exact moved_still r _ ⟨rfl, rfl, rfl, rfl⟩
      | ok got => exact moved_still r _ (lease_log _ _ _ _ _ leased)
  | leased req block lease buffer => exact moved_still r _ ⟨rfl, rfl, rfl, rfl⟩
  | written req block lease rc => exact moved_still r _ (reset_log r lease)
  | released req block rc =>
      simp only [Reactor.advance, Reactor.attempt]
      by_cases stored : rc = Err.kSuccess
      · rw [if_neg (not_not.mpr stored), if_neg (not_not.mpr stored)]
        exact write_rescuing_moved r env.rescue _
      · rw [if_pos stored, if_pos stored]
        exact moved_still r _ ⟨rfl, rfl, rfl, rfl⟩
  | logged req block rc =>
      simp only [Reactor.advance]
      split
      · exact moved_still r _ ⟨rfl, rfl, rfl, rfl⟩
      · cases r.dc.metaIndex.lookupMeta req.key with
        | error rc => exact moved_quiet r _ rfl (Nat.le_refl _) rfl
        | ok old => exact moved_quiet r _ rfl (Nat.le_refl _) rfl
  | located key meta_ => exact write_rescuing_moved r env.rescue _
  | buried key meta_ rc =>
      simp only [Reactor.advance]
      split
      · exact moved_still r r (same_log_refl r)
      · exact moved_quiet r _ rfl (Nat.le_refl _) rfl
  | replaced old =>
      cases old with
      | none => exact moved_still r r (same_log_refl r)
      | some id => exact moved_still r _ ⟨rfl, rfl, rfl, rfl⟩
  | settled => exact maybe_request_moved r env.auto
  | reading meta_ buf =>
      simp only [Reactor.advance]
      cases r.dc.io.read meta_.block.blockIdx with
      | error rc => exact moved_still r r (same_log_refl r)
      | ok bytes =>
          simp only
          split <;> exact moved_still r r (same_log_refl r)
  | fetched buf reply => exact moved_still r _ ⟨rfl, rfl, rfl, rfl⟩
  | finished reply => exact moved_still r r (same_log_refl r)

-- The mark a snapshot device is opened with is the number its snapshot covers.
theorem adjudicate_mark (s next : Snapshot) (opts : Options) (env : SnapshotEnv) (judged : s.adjudicate opts env = .ok next) :
    next.lastTriggerSeq = next.lastCoveredSeq := by
  unfold Snapshot.adjudicate at judged
  split at judged
  · cases judged
  · split at judged
    · simp only at judged
      split at judged
      · cases judged
      · split at judged
        · cases judged
          rfl
        · split at judged
          · cases judged
          · cases judged
            rfl
    · cases judged

theorem clear_mark (s next : Snapshot) (env : SnapshotEnv) (cleared : s.clear env = (Err.kSuccess, next)) :
    next.lastTriggerSeq = 0 ∧ next.lastCoveredSeq = 0 := by
  have failed : Err.kSnapshotWriteFailed ≠ Err.kSuccess := by decide
  unfold Snapshot.clear at cleared
  split at cleared
  · exact absurd (congrArg Prod.fst cleared) failed
  · simp only at cleared
    by_cases synced : (if (s.dev.writeAt s.slotAOff (zeros kSnapshotSlotHeaderSize)).1 ≠ Err.kSuccess ∨
        ((s.dev.writeAt s.slotAOff (zeros kSnapshotSlotHeaderSize)).2.writeAt s.slotBOff (zeros kSnapshotSlotHeaderSize)).1 ≠ Err.kSuccess then
        (Err.kSnapshotWriteFailed,
          ((s.dev.writeAt s.slotAOff (zeros kSnapshotSlotHeaderSize)).2.writeAt s.slotBOff (zeros kSnapshotSlotHeaderSize)).2)
      else ((s.dev.writeAt s.slotAOff (zeros kSnapshotSlotHeaderSize)).2.writeAt s.slotBOff (zeros kSnapshotSlotHeaderSize)).2.sync).1 ≠
        Err.kSuccess
    · rw [if_pos synced] at cleared
      exact absurd (congrArg Prod.fst cleared) failed
    · rw [if_neg synced] at cleared
      cases cleared
      exact ⟨rfl, rfl⟩

theorem open_snapshot_mark (s next : Snapshot) (opts : Options) (env : SnapshotEnv) (sb : SuperBlock)
    (opened : s.openSnapshot opts env sb = (Err.kSuccess, next)) :
    next.lastTriggerSeq = next.lastCoveredSeq ∧ (opts.create = true → next.lastTriggerSeq = 0) := by
  have small : Err.kDeviceTooSmall ≠ Err.kSuccess := by decide
  unfold Snapshot.openSnapshot at opened
  simp only at opened
  split at opened
  · rename_i refused
    exact absurd (congrArg Prod.fst opened) refused
  · split at opened
    · exact absurd (congrArg Prod.fst opened) small
    · split at opened
      · exact absurd (congrArg Prod.fst opened) small
      · split at opened
        · obtain ⟨mark, covered⟩ := clear_mark _ next env opened
          exact ⟨mark.trans covered.symm, fun _ => mark⟩
        · rename_i recovers
          split at opened
          · rename_i rc judged
            exact absurd (congrArg Prod.fst opened) (adjudicate_error _ opts env rc judged)
          · rename_i judged
            cases opened
            exact ⟨adjudicate_mark _ next opts env judged, fun creates => absurd creates recovers⟩

-- The numbers of a recovered log go on behind the one that is covered.
theorem survey_empty {σ : Type} (w : Wal) (coveredSeq : Nat) (fn : WalReplayFn σ) (st : σ) (c : RecoverCensus) (s : Scan σ)
    (surveyed : w.survey coveredSeq fn st = .ok (c, s)) (none_ : c.validCount = 0) : coveredSeq = 0 := by
  unfold Wal.survey at surveyed
  split at surveyed
  · cases surveyed
  · split at surveyed
    · cases surveyed
    · rename_i fits
      split at surveyed
      · split at surveyed
        · cases surveyed
        · split at surveyed
          · cases surveyed
          · cases surveyed
            omega
      · cases surveyed
        omega

theorem rebuild_above {σ : Type} (w : Wal) (coveredSeq : Nat) (c : RecoverCensus) (s : Scan σ)
    (done : (w.rebuild coveredSeq c s).1 = Err.kSuccess) : coveredSeq + 1 ≤ (w.rebuild coveredSeq c s).2.seqNext := by
  have invariant : Err.kWalRecoveryInvariant ≠ Err.kSuccess := by decide
  unfold Wal.rebuild at done ⊢
  simp only at done ⊢
  generalize w.placeTail c (if s.hasAnchor = true then s.anchorOff else c.maxValidOff)
    (if s.hasAnchor = true then s.anchorSeq else c.maxValidSeq) = placed at done ⊢
  split at done
  · rename_i failed
    exact absurd done failed
  · rename_i erased
    rw [if_neg erased]
    split at done
    · rename_i failed
      exact absurd done failed
    · rename_i refilled
      rw [if_neg refilled]
      split at done
      · rename_i failed
        exact absurd done failed
      · rename_i sealed
        rw [if_neg sealed]
        split at done
        · rename_i checked
          rw [if_pos checked]
          exact (of_decide_eq_true checked).2.2.2.2.2.2.2.1
        · exact absurd done invariant

theorem recover_above {σ : Type} (w : Wal) (coveredSeq : Nat) (fn : WalReplayFn σ) (st : σ)
    (refuses : ∀ st e seq rc, fn st e seq = .error rc → rc < 0) (done : (w.recover coveredSeq fn st).rc = Err.kSuccess) :
    coveredSeq + 1 ≤ (w.recover coveredSeq fn st).wal.seqNext := by
  have refused : Err.kEngineInvalidOpts ≠ Err.kSuccess := by decide
  unfold Wal.recover at done ⊢
  split at done
  · exact absurd done refused
  · rename_i open_
    rw [if_neg open_]
    split at done
    · exact absurd done refused
    · rename_i fresh
      rw [if_neg fresh]
      simp only at done ⊢
      generalize ({ w with curBuf := some (zeros w.bufSize) } : Wal) = ready at done ⊢
      cases surveyed : ready.survey coveredSeq fn st with
      | error rc =>
          rw [surveyed] at done
          rcases survey_error fn refuses ready coveredSeq st rc surveyed with negative | ⟨endless, _⟩
          · rw [show rc = Err.kSuccess from done] at negative
            exact absurd negative (by decide)
          · rw [show rc = Err.kSuccess from done] at endless
            exact absurd endless (by decide)
      | ok found =>
          obtain ⟨c, s⟩ := found
          rw [surveyed] at done
          simp only at done ⊢
          by_cases blank : s.hasAnchor = false ∧ c.validCount = 0
          · rw [if_pos blank, survey_empty ready coveredSeq fn st c s surveyed blank.2]
            exact Nat.le_refl 1
          · rw [if_neg blank] at done ⊢
            exact rebuild_above ready coveredSeq c s done

def attemptsIn (trace : List TriggerEvent) : List Attempt :=
  trace.filterMap fun event => match event with | .attempt a => some a | _ => none

def automatic (trace : List TriggerEvent) : List Attempt := (attemptsIn trace).filter fun a => decide (a.path = .threshold)

-- The operation that began last.
def inProgress (trace : List TriggerEvent) : Option Request :=
  trace.foldl (fun last event => match event with | .began req => some req | _ => last) none

def Request.Writes : Request → Prop
  | .put _ => True
  | .delete _ => True
  | _ => False

def Stage.Serves (req : Request) : Stage → Prop
  | .started other => other = req
  | .acquired put _ => req = .put put
  | .leased put _ _ _ => req = .put put
  | .written put _ _ _ => req = .put put
  | .released put _ _ => req = .put put
  | .logged put _ _ => req = .put put
  | .located key _ => req = .delete key
  | .buried key _ _ => req = .delete key
  | .reading _ _ => ¬ req.Writes
  | .fetched _ _ => ¬ req.Writes
  | _ => True

theorem attempts_append (a b : List TriggerEvent) : attemptsIn (a ++ b) = attemptsIn a ++ attemptsIn b := List.filterMap_append

theorem call_events (made : Option Attempt) (replies : List Reply) (trace : List TriggerEvent) :
    attemptsIn (made.toList.map .attempt ++ replies.map .replied) = made.toList ∧
      inProgress (trace ++ (made.toList.map .attempt ++ replies.map .replied)) = inProgress trace := by
  have quiet (replies : List Reply) : attemptsIn (replies.map .replied) = [] ∧
      ∀ last, (replies.map TriggerEvent.replied).foldl (fun last event => match event with | .began req => some req | _ => last) last = last := by
    induction replies with
    | nil => exact ⟨rfl, fun _ => rfl⟩
    | cons reply rest ih => exact ⟨ih.1, fun last => ih.2 last⟩
  obtain ⟨silent, same⟩ := quiet replies
  cases made with
  | none =>
      refine ⟨silent, ?_⟩
      rw [inProgress, List.foldl_append]
      exact same _
  | some a =>
      refine ⟨by rw [attempts_append, silent]; rfl, ?_⟩
      rw [inProgress, List.foldl_append]
      exact same _

theorem advance_serves (r : Reactor) (env : OpEnv) (stage : Stage) (req : Request) (serves : stage.Serves req) :
    (r.advance env stage).1.Serves req := by
  cases stage with
  | idle => trivial
  | started other =>
      cases (show other = req from serves)
      cases req with
      | get key =>
          simp only [Reactor.advance, Reactor.enter]
          cases r.dc.metaIndex.lookupMeta key with
          | error rc => trivial
          | ok meta_ =>
              simp only
              cases r.dc.pool.allocate with
              | none => trivial
              | some taken => exact fun never => never
      | put req =>
          simp only [Reactor.advance, Reactor.enter]
          cases r.dc.blockAllocator.acquire with
          | error rc => trivial
          | ok taken => rfl
      | delete key =>
          simp only [Reactor.advance, Reactor.enter]
          cases r.dc.metaIndex.lookupMeta key with
          | error rc => trivial
          | ok meta_ => rfl
      | setWalLevel level => trivial
      | snapshot => trivial
  | acquired put block =>
      simp only [Reactor.advance]
      cases r.leaseWriteBuffer put with
      | error rc => trivial
      | ok got => exact serves
  | leased put block lease buffer => exact serves
  | written put block lease rc => exact serves
  | released put block rc =>
      simp only [Reactor.advance]
      split
      · trivial
      · exact serves
  | logged put block rc =>
      simp only [Reactor.advance]
      split
      · trivial
      · cases r.dc.metaIndex.lookupMeta put.key with
        | error rc => trivial
        | ok old => trivial
  | located key meta_ => exact serves
  | buried key meta_ rc =>
      simp only [Reactor.advance]
      split <;> trivial
  | replaced old => cases old <;> trivial
  | settled => trivial
  | reading meta_ buf =>
      simp only [Reactor.advance]
      cases r.dc.io.read meta_.block.blockIdx with
      | error rc => exact serves
      | ok bytes =>
          simp only
          split <;> exact serves
  | fetched buf reply => trivial
  | finished reply => trivial

-- A put or a delete succeeds by its last call only.
theorem success_settled (r : Reactor) (env : OpEnv) (stage : Stage) (req : Request) (reply : Reply) (serves : stage.Serves req)
    (writes : req.Writes) (busy : ¬ stage.between) (last : (r.advance env stage).1 = .finished reply) (done : reply.rc = Err.kSuccess) :
    stage = .settled := by
  have refused (rc : Rc) (failed : rc ≠ Err.kSuccess) (same : Stage.finished (.code rc) = .finished reply) : False := by
    cases same
    exact failed done
  cases stage with
  | idle => exact absurd trivial busy
  | started other =>
      cases (show other = req from serves)
      cases req with
      | get key => exact absurd writes (fun never => never)
      | put req =>
          simp only [Reactor.advance, Reactor.enter, RingBlockAllocator.acquire] at last
          cases popped : r.dc.blockAllocator.pop with
          | none =>
              rw [popped] at last
              exact (refused Err.kEngineNoSpace (by decide) last).elim
          | some taken =>
              rw [popped] at last
              cases last
      | delete key =>
          simp only [Reactor.advance, Reactor.enter] at last
          cases looked : r.dc.metaIndex.lookupMeta key with
          | error rc =>
              rw [looked] at last
              exact (refused rc (by rw [(lookup_meta_error _ _ _ looked).2]; decide) last).elim
          | ok meta_ =>
              rw [looked] at last
              cases last
      | setWalLevel level => exact absurd writes (fun never => never)
      | snapshot => exact absurd writes (fun never => never)
  | acquired put block =>
      simp only [Reactor.advance, Reactor.leaseWriteBuffer] at last
      cases plan : buildPutWritePlan put.value put.valueSource defaultBackendDirectWriteCaps with
      | direct =>
          rw [plan] at last
          cases last
      | copyFallback =>
          rw [plan] at last
          simp only at last
          cases pool : r.dc.pool.allocate with
          | none =>
              rw [pool] at last
              exact (refused Err.kEnginePoolExhausted (by decide) last).elim
          | some taken =>
              rw [pool] at last
              cases last
  | leased put block lease buffer => cases last
  | written put block lease rc => cases last
  | released put block rc =>
      simp only [Reactor.advance] at last
      split at last
      · rename_i failed
        exact (refused rc failed last).elim
      · cases last
  | logged put block rc =>
      simp only [Reactor.advance] at last
      split at last
      · rename_i failed
        exact (refused rc failed last).elim
      · cases found : r.dc.metaIndex.lookupMeta put.key with
        | error rc =>
            rw [found] at last
            cases last
        | ok old =>
            rw [found] at last
            cases last
  | located key meta_ => cases last
  | buried key meta_ rc =>
      simp only [Reactor.advance] at last
      split at last
      · rename_i failed
        exact (refused rc failed last).elim
      · cases last
  | replaced old =>
      cases old <;> cases last
  | settled => rfl
  | reading meta_ buf =>
      simp only [Reactor.advance] at last
      cases read_ : r.dc.io.read meta_.block.blockIdx with
      | error rc =>
          rw [read_] at last
          cases last
      | ok bytes =>
          rw [read_] at last
          simp only at last
          split at last <;> cases last
  | fetched buf reply' => exact absurd writes serves
  | finished reply' => exact absurd trivial busy

-- The bytes of frames that were numbered behind a number.
def Reactor.bytesSince (r : Reactor) (seq : Nat) : Nat := (r.dc.wal.lastSeq - seq) * kWalFrameSize

theorem grown_exact (r : Reactor) (below : r.dc.snapshot.lastTriggerSeq ≤ r.dc.wal.lastSeq) (few : r.dc.wal.seqNext ≤ 2 ^ 57) :
    r.grown = r.bytesSince r.dc.snapshot.lastTriggerSeq := by
  have last : r.dc.wal.lastSeq < 2 ^ 57 := by
    rw [Wal.lastSeq]
    omega
  unfold Reactor.grown Reactor.bytesSince
  rw [kWalFrameSize, show (r.dc.wal.lastSeq + 2 ^ 64 - r.dc.snapshot.lastTriggerSeq) % 2 ^ 64 =
    r.dc.wal.lastSeq - r.dc.snapshot.lastTriggerSeq by omega, Nat.mod_eq_of_lt (by omega)]

structure Triggered (trace : List TriggerEvent) (s : Running) : Prop where
  below : s.reactor.dc.snapshot.lastTriggerSeq ≤ s.reactor.dc.wal.lastSeq
  mark : ∀ a, (attemptsIn trace).getLast? = some a → s.reactor.dc.snapshot.lastTriggerSeq = a.seq
  passed : ∀ a ∈ attemptsIn trace, a.seq ≤ s.reactor.dc.snapshot.lastTriggerSeq
  spaced : s.reactor.dc.wal.seqNext ≤ 2 ^ 57 → (automatic trace).Pairwise fun a b =>
    a.seq ≤ b.seq ∧ s.reactor.options.snapshotThresholdBytes ≤ (b.seq - a.seq) * kWalFrameSize
  serves : ∀ req, inProgress trace = some req → s.stage.Serves req
  settled : ∀ reply req, s.stage = .finished reply → reply.rc = Err.kSuccess → inProgress trace = some req → req.Writes →
    s.reactor.dc.wal.seqNext ≤ 2 ^ 57 →
      (∃ front, trace = front ++ [.attempt ⟨.threshold, s.reactor.dc.wal.lastSeq⟩, .replied reply]) ∨
        s.reactor.bytesSince s.reactor.dc.snapshot.lastTriggerSeq < s.reactor.options.snapshotThresholdBytes

theorem triggered_start (sb : SuperBlock) (s : Running) (start : (triggerMachine sb).start s) : Triggered [] s := by
  obtain ⟨idle, _, env, group, _, opened⟩ := start
  have below : s.reactor.dc.snapshot.lastTriggerSeq ≤ s.reactor.dc.wal.lastSeq := by
    obtain ⟨io, _, _, modes⟩ := open_device_ok s.reactor.options env sb group s.reactor.dc opened
    rcases modes with ⟨create, wal, snapshot, _, snapOpened, made⟩ | ⟨_, ⟨recovered⟩⟩
    · rw [made]
      show snapshot.lastTriggerSeq ≤ _
      rw [(open_snapshot_mark _ snapshot _ _ _ snapOpened).2 create]
      exact Nat.zero_le _
    · have above := recover_above recovered.wal recovered.snapshot.lastCoveredSeq (applyWalEntry _) recovered.loaded (apply_wal_answers _)
        recovered.replayed
      have mark := (open_snapshot_mark _ _ _ _ _ recovered.opened).1
      rw [recovered.sameSnapshot, recovered.sameWal, mark, Wal.lastSeq]
      omega
  refine ⟨below, ?_, ?_, fun _ => .nil, ?_, ?_⟩
  · intro a last
    cases last
  · intro a member
    cases member
  · intro req began
    cases began
  · intro reply req last
    rw [idle] at last
    cases last

theorem triggered_call (trace : List TriggerEvent) (s s' : Running) (inv : Triggered trace s) (busy : ¬ s.stage.between)
    (next : s' = { s with stage := (s.reactor.advance s.env s.stage).1, reactor := (s.reactor.advance s.env s.stage).2 }) :
    Triggered (trace ++ ((s.reactor.attempt s.env s.stage).toList.map .attempt ++ s'.stage.reply.map .replied)) s' := by
  have moved := advance_moved s.reactor s.env s.stage
  obtain ⟨made, kept⟩ := call_events (s.reactor.attempt s.env s.stage) s'.stage.reply trace
  have stage : s'.stage = (s.reactor.advance s.env s.stage).1 := by rw [next]
  have reactor : s'.reactor = (s.reactor.advance s.env s.stage).2 := by rw [next]
  rw [← reactor] at moved
  have forward := moved.forward
  have lasts : s.reactor.dc.wal.lastSeq ≤ s'.reactor.dc.wal.lastSeq := Nat.sub_le_sub_right forward 1
  have marked := moved.mark
  have attempts : attemptsIn (trace ++ ((s.reactor.attempt s.env s.stage).toList.map .attempt ++ s'.stage.reply.map .replied)) =
      attemptsIn trace ++ (s.reactor.attempt s.env s.stage).toList := by rw [attempts_append, made]
  refine ⟨?_, ?_, ?_, ?_, ?_, ?_⟩
  · cases attempt : s.reactor.attempt s.env s.stage with
    | none =>
        rw [attempt] at marked
        have below := inv.below
        rw [show s'.reactor.dc.snapshot.lastTriggerSeq = s.reactor.dc.snapshot.lastTriggerSeq from marked]
        omega
    | some a =>
        rw [attempt] at marked
        rw [show s'.reactor.dc.snapshot.lastTriggerSeq = a.seq from marked]
        exact (moved.inside a attempt).2
  · intro a last
    rw [attempts] at last
    cases attempt : s.reactor.attempt s.env s.stage with
    | none =>
        rw [attempt] at last marked
        rw [show (none : Option Attempt).toList = [] from rfl, List.append_nil] at last
        exact (show s'.reactor.dc.snapshot.lastTriggerSeq = s.reactor.dc.snapshot.lastTriggerSeq from marked).trans (inv.mark a last)
    | some b =>
        rw [attempt] at last marked
        rw [show (some b).toList = [b] from rfl, List.getLast?_append_of_ne_nil _ (by simp), List.getLast?_singleton] at last
        cases last
        exact marked
  · intro a member
    rw [attempts] at member
    cases attempt : s.reactor.attempt s.env s.stage with
    | none =>
        rw [attempt] at member marked
        rw [show (none : Option Attempt).toList = [] from rfl, List.append_nil] at member
        exact Nat.le_trans (inv.passed a member) (Nat.le_of_eq marked.symm)
    | some b =>
        rw [attempt] at member marked
        have new : s'.reactor.dc.snapshot.lastTriggerSeq = b.seq := marked
        have inside := moved.inside b attempt
        rcases List.mem_append.mp member with old | last
        · have passed := inv.passed a old
          have below := inv.below
          omega
        · rw [List.mem_singleton.mp last, new]
  · intro few
    rw [automatic, attempts, List.filter_append, moved.threshold]
    refine List.pairwise_append.mpr ⟨inv.spaced (by omega), ?_, ?_⟩
    · cases s.reactor.attempt s.env s.stage with
      | none => exact .nil
      | some b => exact (List.pairwise_singleton _ b).filter _
    · intro a old b new
      obtain ⟨member, _⟩ := List.mem_filter.mp old
      obtain ⟨here, path⟩ := List.mem_filter.mp new
      obtain ⟨due, last, _⟩ := moved.due b (Option.mem_toList.mp here) (of_decide_eq_true path)
      have passed := inv.passed a member
      have below := inv.below
      rw [grown_exact s.reactor below (by omega), Reactor.bytesSince] at due
      rw [last]
      exact ⟨Nat.le_trans passed below, Nat.le_trans due (Nat.mul_le_mul_right _ (Nat.sub_le_sub_left passed _))⟩
  · intro req began
    rw [kept] at began
    rw [stage]
    exact advance_serves s.reactor s.env s.stage req (inv.serves req began)
  · intro reply req last done began writes few
    rw [kept] at began
    rw [stage] at last
    have here := success_settled s.reactor s.env s.stage req reply (inv.serves req began) writes busy last done
    rw [here] at moved reactor ⊢
    rw [stage, last]
    have below := inv.below
    have grown : s.reactor.grown = s.reactor.bytesSince s.reactor.dc.snapshot.lastTriggerSeq := grown_exact s.reactor below (by omega)
    by_cases due : s.reactor.grown ≥ s.reactor.options.snapshotThresholdBytes
    · have attempt : s.reactor.attempt s.env .settled = some ⟨.threshold, s.reactor.dc.wal.lastSeq⟩ := if_pos due
      obtain ⟨_, _, same⟩ := moved.due _ attempt rfl
      refine .inl ⟨trace, ?_⟩
      rw [attempt, same]
      rfl
    · have still : s'.reactor = s.reactor := by
        rw [reactor]
        exact if_neg due
      refine .inr ?_
      rw [still, ← grown]
      exact Nat.lt_of_not_le due

theorem triggered_step (sb : SuperBlock) (trace events : List TriggerEvent) (s s' : Running) (move : DeviceMove) (inv : Triggered trace s)
    (step : (triggerMachine sb).step s move events s') : Triggered (trace ++ events) s' := by
  obtain ⟨⟨replies, device⟩, seen⟩ := step
  cases move with
  | begin req env =>
      obtain ⟨_, _, rfl⟩ := device
      cases (show events = [.began req] from seen)
      have attempts : attemptsIn (trace ++ [.began req]) = attemptsIn trace := by
        rw [attempts_append]
        exact List.append_nil _
      refine ⟨inv.below, ?_, ?_, ?_, ?_, ?_⟩
      · rw [attempts]
        exact inv.mark
      · rw [attempts]
        exact inv.passed
      · rw [automatic, attempts]
        exact inv.spaced
      · intro other began
        rw [inProgress, List.foldl_append] at began
        cases began
        exact rfl
      · intro reply other last
        cases last
  | call =>
      obtain ⟨busy, next, _⟩ := device
      rw [show events = _ from seen]
      exact triggered_call trace s s' inv busy next
  | fault unreadable =>
      obtain ⟨_, rfl⟩ := device
      cases (show events = [] from seen)
      rw [List.append_nil]
      exact ⟨inv.below, inv.mark, inv.passed, inv.spaced, inv.serves, inv.settled⟩

theorem triggered_run (sb : SuperBlock) (trace : List TriggerEvent) (s : Running) (run : (triggerMachine sb).Run trace s) :
    Triggered trace s :=
  run_invariant (triggerMachine sb) Triggered (triggered_start sb)
    (fun trace s move events s' inv step => triggered_step sb trace events s s' move inv step) trace s run

-- What the trigger promises: its growth is exact, attempts of its own are a
-- threshold of frames apart, and a put or a delete that succeeds has just made
-- one or leaves less than a threshold behind the last.
structure TriggerSound (trace : List TriggerEvent) (s : Running) : Prop where
  below : s.reactor.dc.snapshot.lastTriggerSeq ≤ s.reactor.dc.wal.lastSeq
  mark : ∀ a, (attemptsIn trace).getLast? = some a → s.reactor.dc.snapshot.lastTriggerSeq = a.seq
  growth : s.reactor.grown = s.reactor.bytesSince s.reactor.dc.snapshot.lastTriggerSeq
  spaced : (automatic trace).Pairwise fun a b =>
    a.seq ≤ b.seq ∧ s.reactor.options.snapshotThresholdBytes ≤ (b.seq - a.seq) * kWalFrameSize
  settled : ∀ reply req, s.stage = .finished reply → reply.rc = Err.kSuccess → inProgress trace = some req → req.Writes →
    (∃ front, trace = front ++ [.attempt ⟨.threshold, s.reactor.dc.wal.lastSeq⟩, .replied reply]) ∨
      s.reactor.bytesSince s.reactor.dc.snapshot.lastTriggerSeq < s.reactor.options.snapshotThresholdBytes ∧
        ∀ a, (attemptsIn trace).getLast? = some a → s.reactor.bytesSince a.seq < s.reactor.options.snapshotThresholdBytes

theorem trigger_sound (sb : SuperBlock) (trace : List TriggerEvent) (s : Running) (run : (triggerMachine sb).Run trace s)
    (few : s.reactor.dc.wal.seqNext ≤ 2 ^ 57) : TriggerSound trace s := by
  have inv := triggered_run sb trace s run
  refine ⟨inv.below, inv.mark, grown_exact s.reactor inv.below few, inv.spaced few, ?_⟩
  intro reply req last done began writes
  rcases inv.settled reply req last done began writes few with made | fresh
  · exact .inl made
  · refine .inr ⟨fresh, ?_⟩
    intro a latest
    rw [← inv.mark a latest]
    exact fresh

-- Calls of an operation that attempt nothing and do not answer yet.
inductive Reactor.Silent (env : OpEnv) : Stage × Reactor → Stage × Reactor → Prop
  | done (at_ : Stage × Reactor) : Silent env at_ at_
  | call (at_ next last : Stage × Reactor) (busy : ¬ at_.1.between) (none_ : at_.2.attempt env at_.1 = none)
      (step : at_.2.advance env at_.1 = next) (going : next.1.reply = []) (rest : Silent env next last) : Silent env at_ last

theorem silent_calls (env : OpEnv) (a b c : Stage × Reactor) (silent : Reactor.Silent env a b) (rest : Reactor.Calls env b c) :
    Reactor.Calls env a c := by
  induction silent with
  | done at_ => exact rest
  | call at_ next last busy none_ step going _ ih =>
      subst step
      exact .call _ _ (ih rest)

theorem silent_run (sb : SuperBlock) (env : OpEnv) (before : DeviceContext) (trace : List TriggerEvent) (a b : Stage × Reactor)
    (silent : Reactor.Silent env a b) : (triggerMachine sb).Run trace ⟨env, a.1, a.2, before⟩ →
      (triggerMachine sb).Run trace ⟨env, b.1, b.2, before⟩ := by
  induction silent with
  | done at_ => exact id
  | call at_ next last busy none_ step going _ ih =>
      intro run
      subst step
      have now := Machine.Run.next trace [] _ ⟨env, (at_.2.advance env at_.1).1, (at_.2.advance env at_.1).2, before⟩ .call run
        (by exact ⟨⟨_, busy, rfl, rfl⟩, by simp only [none_, going]; rfl⟩)
      rw [List.append_nil] at now
      exact ih now

-- The calls of an operation end in one way.
theorem calls_agree (env : OpEnv) (a b c : Stage × Reactor) (left : Reactor.Calls env a b) (x y : Reply) :
    Reactor.Calls env a c → b.1 = .finished x → c.1 = .finished y → b = c := by
  induction left with
  | done at_ => exact fun right ended _ => (finished_calls env at_ c right (.inr ⟨x, ended⟩)).symm
  | call at_ last rest ih =>
      intro right ended other
      cases right with
      | done => exact finished_calls env _ _ (.call _ _ rest) (.inr ⟨y, other⟩)
      | call _ _ rest' => exact ih rest' ended other

-- A Put that has room is silent up to the question whether a snapshot is due.
theorem put_silent (sb : SuperBlock) (ops : Nat) (r : Reactor) (env : OpEnv) (req : PutRequest) (faultless : Faultless sb ops r)
    (admitted : (Request.put req).Admitted) (few : ops ≤ 31) (free : r.dc.metaIndex.blocks.length < sb.blockCount) :
    ∃ due, Reactor.Silent env (.started (.put req), r) (.settled, due) ∧ due.dc.wal.seqNext = r.dc.wal.seqNext + 1 ∧
      due.dc.snapshot = r.dc.snapshot ∧ due.options = r.options := by
  obtain ⟨block, allocator, lease, buffer, next, logging, parts⟩ := put_parts sb ops r env req faultless admitted few free
  have numbered := (write_wal_numbered logging.dc.wal logging.options.walLevel _).done parts.logged
  have rescued := rescuing_done logging env.rescue _ parts.logged
  generalize written : logging.dc.wal.writeWal logging.options.walLevel (putEntry req.key block (Util.crc32 req.value.bytes) env.now) = out
    at numbered rescued
  have kept (old : Reactor) (same : old.dc.wal = out.2) (snapshot : old.dc.snapshot = logging.dc.snapshot)
      (options : old.options = logging.options) : old.dc.wal.seqNext = r.dc.wal.seqNext + 1 ∧ old.dc.snapshot = r.dc.snapshot ∧
        old.options = r.options :=
    ⟨by rw [same, numbered, parts.wal], snapshot.trans parts.snapshot, options.trans parts.options⟩
  have logged : ∃ due, Reactor.Silent env (.logged req block Err.kSuccess, logging.withWal out.2) (.settled, due) ∧
      due.dc.wal.seqNext = r.dc.wal.seqNext + 1 ∧ due.dc.snapshot = r.dc.snapshot ∧ due.options = r.options := by
    cases found : (logging.withWal out.2).dc.metaIndex.lookupMeta req.key with
    | error rc =>
        refine ⟨_, .call _ _ _ id rfl (by simp only [Reactor.advance, ne_eq, not_true_eq_false, if_false, found]; rfl) rfl
          (.call _ _ _ id rfl rfl rfl (.done _)), ?_⟩
        exact kept _ rfl rfl rfl
    | ok old =>
        refine ⟨_, .call _ _ _ id rfl (by simp only [Reactor.advance, ne_eq, not_true_eq_false, if_false, found]; rfl) rfl
          (.call _ _ _ id rfl rfl rfl (.done _)), ?_⟩
        exact kept _ rfl rfl rfl
  obtain ⟨due, silent, rest⟩ := logged
  have code : out.1 = Err.kSuccess := by rw [← written]; exact parts.logged
  have unrescued : logging.rescueAttempt (putEntry req.key block (Util.crc32 req.value.bytes) env.now) = none := by
    unfold Reactor.rescueAttempt
    rw [written]
    simp only [code]
    rfl
  refine ⟨due, ?_, rest⟩
  refine .call _ (.acquired req block, r.withAllocator allocator) _ id rfl (by simp only [Reactor.advance, Reactor.enter, parts.taken]) rfl ?_
  refine .call _ (.leased req block lease buffer, next) _ id rfl (by simp only [Reactor.advance, parts.leased]) rfl ?_
  refine .call _ (.written req block lease Err.kSuccess, next.withIo (next.dc.io.write next.options.walLevel block.blockIdx buffer).2) _ id rfl
    (by simp only [Reactor.advance, parts.stored]) rfl ?_
  refine .call _ (.released req block Err.kSuccess, logging) _ id rfl (by simp only [Reactor.advance, ← parts.named]) rfl ?_
  exact .call _ (.logged req block Err.kSuccess, logging.withWal out.2) _ id (by simp only [Reactor.attempt, unrescued]; rfl)
    (by simp only [Reactor.advance, ne_eq, not_true_eq_false, if_false, rescued]) rfl silent

-- The attempt that the next frame makes due.
def paced (threshold last mark : Nat) : List Attempt :=
  if threshold ≤ (last + 1 - mark) * kWalFrameSize then [⟨.threshold, last + 1⟩] else []

theorem put_paced (sb : SuperBlock) (trace : List TriggerEvent) (s : Running) (env : OpEnv) (req : PutRequest) (ops last mark : Nat)
    (run : (triggerMachine sb).Run trace s) (rest : s.stage.between) (faultless : Faultless sb ops s.reactor)
    (admitted : (Request.put req).Admitted) (few : ops ≤ 31) (free : s.reactor.dc.metaIndex.blocks.length < sb.blockCount)
    (seq : s.reactor.dc.wal.seqNext = last + 1) (marked : s.reactor.dc.snapshot.lastTriggerSeq = mark) (behind : mark ≤ last)
    (small : last + 2 ≤ 2 ^ 57) :
    (triggerMachine sb).Run (trace ++ [.began (.put req)] ++
        ((paced s.reactor.options.snapshotThresholdBytes last mark).map .attempt ++ [.replied (.code Err.kSuccess)]))
        ⟨env, .finished (.code Err.kSuccess), (s.reactor.execute env (.put req)).2, s.reactor.dc⟩ ∧
      (s.reactor.execute env (.put req)).2.dc.snapshot.lastTriggerSeq =
        ((paced s.reactor.options.snapshotThresholdBytes last mark).head?.map Attempt.seq).getD mark ∧
      (s.reactor.execute env (.put req)).2.options.snapshotThresholdBytes = s.reactor.options.snapshotThresholdBytes := by
  obtain ⟨due, silent, numbered, snapshot, options⟩ := put_silent sb ops s.reactor env req faultless admitted few free
  have same := calls_agree env _ _ _ (silent_calls env _ _ _ silent (.call _ _ (.done _))) _ _
    (execute_calls s.reactor env (.put req)) rfl rfl
  have ended : (s.reactor.execute env (.put req)).2 = due.maybeRequestSnapshot env.auto := (congrArg Prod.snd same).symm
  have moved := maybe_request_moved due env.auto
  have lastSeq : due.dc.wal.lastSeq = last + 1 := by
    rw [Wal.lastSeq, numbered, seq, Nat.add_sub_cancel]
  have attempt : due.thresholdAttempt.toList = paced s.reactor.options.snapshotThresholdBytes last mark := by
    rw [Reactor.thresholdAttempt, grown_exact due (by rw [snapshot, marked, lastSeq]; omega) (by rw [numbered, seq]; omega),
      Reactor.bytesSince, snapshot, marked, lastSeq, options, paced]
    by_cases due_ : s.reactor.options.snapshotThresholdBytes ≤ (last + 1 - mark) * kWalFrameSize
    · rw [if_pos due_, if_pos due_]
      rfl
    · rw [if_neg due_, if_neg due_]
      rfl
  rw [ended]
  have begun := Machine.Run.next trace [.began (.put req)] s ⟨env, .started (.put req), s.reactor, s.reactor.dc⟩ (.begin (.put req) env) run
    (by exact ⟨⟨[], rest, rfl, rfl⟩, rfl⟩)
  have settled := silent_run sb env s.reactor.dc _ _ _ silent begun
  have answered := Machine.Run.next _ _ _ ⟨env, .finished (.code Err.kSuccess), due.maybeRequestSnapshot env.auto, s.reactor.dc⟩ .call settled
    (by exact ⟨⟨_, id, rfl, rfl⟩, rfl⟩)
  rw [show due.attempt env .settled = due.thresholdAttempt from rfl, attempt] at answered
  refine ⟨answered, ?_, ?_⟩
  · rw [moved.mark, snapshot, marked, ← attempt, Option.head?_toList]
  · rw [moved.threshold, options]

theorem plain_paced (trace : List TriggerEvent) (s : Running) (index : MetaIndex) (ops last mark : Nat)
    (run : (triggerMachine blankSuperBlock).Run trace s) (rest : s.stage.between) (ready : Faultless blankSuperBlock ops s.reactor)
    (few : ops ≤ 31) (here : s.reactor.dc.metaIndex = index) (free : index.blocks.length < blankSuperBlock.blockCount)
    (seq : s.reactor.dc.wal.seqNext = last + 1) (marked : s.reactor.dc.snapshot.lastTriggerSeq = mark) (behind : mark ≤ last)
    (small : last + 2 ≤ 2 ^ 57) (threshold : s.reactor.options.snapshotThresholdBytes = 256) :
    ∃ next meta_, (triggerMachine blankSuperBlock).Run
        (trace ++ [.began (.put (zeroPut 1))] ++ ((paced 256 last mark).map .attempt ++ [.replied (.code Err.kSuccess)])) next ∧
      next.stage = .finished (.code Err.kSuccess) ∧ Faultless blankSuperBlock (ops + 1) next.reactor ∧
      next.reactor.dc.metaIndex = index.insert [1] meta_ ∧ next.reactor.dc.wal.seqNext = last + 2 ∧
      next.reactor.dc.snapshot.lastTriggerSeq = ((paced 256 last mark).head?.map Attempt.seq).getD mark ∧
      next.reactor.options.snapshotThresholdBytes = 256 := by
  obtain ⟨meta_, _, seq', index', ready'⟩ := plain_put ops s.reactor index ready few here 1 free
  obtain ⟨run', mark', threshold'⟩ := put_paced blankSuperBlock trace s plainOpEnv (zeroPut 1) ops last mark run rest ready
    (zero_put_admitted 1) few (by rw [here]; exact free) seq marked behind small
  rw [threshold] at run' mark' threshold'
  exact ⟨_, meta_, run', rfl, ready', index', by rw [seq', seq], mark', threshold'⟩

-- Four writes of one key where every second frame makes a snapshot due.
theorem trigger_sound_paced : ∃ trace s, (triggerMachine blankSuperBlock).Run trace s ∧
    attemptsIn trace = [⟨.threshold, 2⟩, ⟨.threshold, 4⟩] ∧ s.stage = .finished (.code Err.kSuccess) ∧
    inProgress trace = some (.put (zeroPut 1)) ∧ s.reactor.options.snapshotThresholdBytes = 256 ∧ TriggerSound trace s := by
  obtain ⟨dc, opened, empty, first, ready⟩ := blank_group_paced 256 (by decide)
  have begun := Machine.Run.begin (m := triggerMachine blankSuperBlock) ⟨plainOpEnv, .idle, ⟨pacedOptions 256, dc⟩, dc⟩
    ⟨rfl, rfl, plainOpenEnv, blankGroup, (by decide : 8192 + 4096 * 512 < 2 ^ 64), opened⟩
  have unmarked : dc.snapshot.lastTriggerSeq = 0 := by
    have below := (triggered_run blankSuperBlock _ _ begun).below
    rw [Wal.lastSeq, first] at below
    exact Nat.le_zero.mp below
  obtain ⟨s1, m1, run1, at1, ready1, index1, seq1, mark1, threshold1⟩ := plain_paced _ _ ∅ 0 0 0 begun trivial ready (by decide) empty
    (by decide) first unmarked (by decide) (by decide) rfl
  obtain ⟨s2, m2, run2, at2, ready2, index2, seq2, mark2, threshold2⟩ := plain_paced _ s1 _ 1 1 0 run1 (by rw [at1]; trivial) ready1
    (by decide) index1 (by decide : 1 < 2) seq1 mark1 (by decide) (by decide) threshold1
  obtain ⟨s3, m3, run3, at3, ready3, index3, seq3, mark3, threshold3⟩ := plain_paced _ s2 _ 2 2 2 run2 (by rw [at2]; trivial) ready2
    (by decide) index2 (by decide : 1 < 2) seq2 mark2 (by decide) (by decide) threshold2
  obtain ⟨s4, m4, run4, at4, ready4, index4, seq4, mark4, threshold4⟩ := plain_paced _ s3 _ 3 3 2 run3 (by rw [at3]; trivial) ready3
    (by decide) index3 (by decide : 1 < 2) seq3 mark3 (by decide) (by decide) threshold3
  exact ⟨_, s4, run4, rfl, at4, rfl, threshold4, trigger_sound blankSuperBlock _ s4 run4 (by rw [seq4]; decide)⟩

end Cabe
