import Cabe.Concurrency.Machine
import Cabe.DataPath

set_option autoImplicit false

namespace Cabe

open Concurrency

def kQueueDepth : Nat := 64

-- Memory that is handed to the ring, known by its address. Zero is the null
-- pointer.
structure RingBuffer where
  data : Nat
  size : Nat
  kind : IoWriteBufferKind
  slotIndex : Nat

structure RegisteredBufferRecord where
  data : Nat
  size : Nat

-- The options pointer is none where the source holds a null pointer.
structure IoUringIoBackend where
  blockCount : Nat
  buffersRegistered : Bool
  registeredBufferCount : Nat
  registeredBuffers : List RegisteredBufferRecord
  walLevel : Option WalLevel

inductive IoCall where
  | write (blockIdx : Nat) (buffer : RingBuffer)
  | read (blockIdx : Nat) (buf : Nat)

def IoCall.blockIdx : IoCall → Nat
  | .write blockIdx _ => blockIdx
  | .read blockIdx _ => blockIdx

inductive UringOp where
  | write (buf : Nat)
  | writeFixed (buf bufIndex : Nat)
  | read (buf : Nat)

-- The number of the call that queued an entry is not in the ring: the kernel
-- hands back the user data alone.
structure Sqe where
  op : UringOp
  offset : Nat
  userData : Nat
  call : Nat

structure Cqe where
  userData : Nat
  res : Int
  call : Nat

-- Entries not submitted yet, entries the kernel works on, and completions not
-- consumed yet, the oldest first.
structure Uring where
  sq : List Sqe
  inflight : List Sqe
  cq : List Cqe

def Uring.empty : Uring := ⟨[], [], []⟩

def Uring.queue (ring : Uring) (sqe : Sqe) : Uring := { ring with sq := ring.sq ++ [sqe] }

def Uring.submit (ring : Uring) : Uring := { ring with sq := [], inflight := ring.inflight ++ ring.sq }

def Uring.complete (ring : Uring) (i : Nat) (sqe : Sqe) (res : Int) : Uring :=
  { ring with inflight := ring.inflight.eraseIdx i, cq := ring.cq ++ [⟨sqe.userData, res, sqe.call⟩] }

def IoUringIoBackend.useFixedWriteBuffer (b : IoUringIoBackend) (buffer : RingBuffer) : Bool :=
  if buffer.kind ≠ .valueBufferSlot ∨ b.buffersRegistered = false then false
  else if buffer.slotIndex ≥ b.registeredBufferCount then false
  else
    match b.registeredBuffers[buffer.slotIndex]? with
    | none => false
    | some record =>
        decide (buffer.data ≠ 0 ∧ buffer.data = record.data ∧ buffer.size = record.size ∧ buffer.size = kValueSize)

-- Everything before the submission: the checks, the slot in the queue and what
-- is written into it.
def IoUringIoBackend.prepare (b : IoUringIoBackend) (ring : Uring) (number : Nat) : IoCall → Except Rc Sqe
  | .write blockIdx buffer =>
      if blockIdx ≥ b.blockCount then .error Err.kIoBase
      else if buffer.data = 0 ∨ buffer.size ≠ kValueSize then .error Err.kIoBase
      else if ring.sq.length ≥ kQueueDepth then .error Err.kIoBase
      else
        let op : UringOp := if b.useFixedWriteBuffer buffer = true then .writeFixed buffer.data buffer.slotIndex else .write buffer.data
        .ok ⟨op, valueOffset blockIdx, blockIdx, number⟩
  | .read blockIdx buf =>
      if blockIdx ≥ b.blockCount then .error Err.kIoBase
      else if ring.sq.length ≥ kQueueDepth then .error Err.kIoBase
      else .ok ⟨.read buf, valueOffset blockIdx, blockIdx, number⟩

-- What SubmitAndWait makes of the completion it has consumed.
def matchCqe (expect : Nat) (c : Cqe) : Rc :=
  if c.userData ≠ expect then Err.kIoBase
  else if c.res ≠ (kValueSize : Int) then Err.kIoBase
  else Err.kSuccess

def IoUringIoBackend.flushes (b : IoUringIoBackend) : IoCall → Bool
  | .write _ _ => isValueFuaLevel (b.walLevel.getD .walSync)
  | .read _ _ => false

inductive UringPc where
  | idle
  | submitting (call : IoCall)
  | waiting (call : IoCall)
  | flushing (call : IoCall) (consumed : Cqe)

structure UringState where
  backend : IoUringIoBackend
  ring : Uring
  calls : Nat
  pc : UringPc

inductive UringEvent where
  | returned (number : Nat) (rc : Rc) (consumed : Option Cqe)

inductive SubmitOutcome where
  | interrupted
  | failed
  | accepted

inductive WaitOutcome where
  | interrupted
  | failed
  | completion

inductive UringMove where
  | configure (backend : IoUringIoBackend)
  | begin (call : IoCall)
  | submit (outcome : SubmitOutcome)
  | wait (outcome : WaitOutcome)
  | fdatasync (done : Bool)
  | complete (i : Nat) (res : Int)

-- The call in progress returns.
def UringState.answer (s : UringState) (ring : Uring) (rc : Rc) (consumed : Option Cqe) : List UringEvent × UringState :=
  ([.returned s.calls rc consumed], { s with ring := ring, pc := .idle })

-- A submission that takes anything but one entry is an error, and the entries it
-- took are on their way all the same.
def UringState.submitted (s : UringState) (call : IoCall) : List UringEvent × UringState :=
  if s.ring.sq.length ≠ 1 then s.answer s.ring.submit Err.kIoBase none
  else ([], { s with ring := s.ring.submit, pc := .waiting call })

def UringState.reaped (s : UringState) (call : IoCall) (c : Cqe) (rest : List Cqe) : List UringEvent × UringState :=
  let ring := { s.ring with cq := rest }
  let rc := matchCqe call.blockIdx c
  if rc ≠ Err.kSuccess then s.answer ring rc (some c)
  else if s.backend.flushes call = true then ([], { s with ring := ring, pc := .flushing call c })
  else s.answer ring Err.kSuccess (some c)

-- The caller is one thread; the kernel completes what it works on in any order
-- and at any time.
inductive UringStep (s : UringState) : UringMove → List UringEvent × UringState → Prop
  | configure (backend : IoUringIoBackend) (here : s.pc = .idle) : UringStep s (.configure backend) ([], { s with backend := backend })
  | refused (call : IoCall) (rc : Rc) (here : s.pc = .idle) (failed : s.backend.prepare s.ring (s.calls + 1) call = .error rc) :
      UringStep s (.begin call) ({ s with calls := s.calls + 1 }.answer s.ring rc none)
  | queued (call : IoCall) (sqe : Sqe) (here : s.pc = .idle) (done : s.backend.prepare s.ring (s.calls + 1) call = .ok sqe) :
      UringStep s (.begin call) ([], { s with ring := s.ring.queue sqe, calls := s.calls + 1, pc := .submitting call })
  | resubmit (call : IoCall) (here : s.pc = .submitting call) : UringStep s (.submit .interrupted) ([], s)
  | unsubmitted (call : IoCall) (here : s.pc = .submitting call) : UringStep s (.submit .failed) (s.answer s.ring Err.kIoBase none)
  | submitted (call : IoCall) (here : s.pc = .submitting call) : UringStep s (.submit .accepted) (s.submitted call)
  | rewait (call : IoCall) (here : s.pc = .waiting call) : UringStep s (.wait .interrupted) ([], s)
  | unwaited (call : IoCall) (here : s.pc = .waiting call) : UringStep s (.wait .failed) (s.answer s.ring Err.kIoBase none)
  | reaped (call : IoCall) (c : Cqe) (rest : List Cqe) (here : s.pc = .waiting call) (oldest : s.ring.cq = c :: rest) :
      UringStep s (.wait .completion) (s.reaped call c rest)
  | flushed (call : IoCall) (c : Cqe) (done : Bool) (here : s.pc = .flushing call c) :
      UringStep s (.fdatasync done) (s.answer s.ring (if done then Err.kSuccess else Err.kIoBase) (some c))
  | complete (i : Nat) (sqe : Sqe) (res : Int) (taken : s.ring.inflight[i]? = some sqe) :
      UringStep s (.complete i res) ([], { s with ring := s.ring.complete i sqe res })

-- No completion in the ring can be taken for that of a call on this block: an
-- entry that is left over makes the submission fail, an oldest completion that
-- does not fit makes the match fail, and otherwise only the entries at work count.
def Uring.Clear (ring : Uring) (blockIdx : Nat) : Prop :=
  ring.sq ≠ [] ∨
    match ring.cq with
    | [] => ∀ sqe ∈ ring.inflight, sqe.userData ≠ blockIdx
    | c :: _ => matchCqe blockIdx c ≠ Err.kSuccess

def UringState.Safe (s : UringState) (call : IoCall) : Prop :=
  ∀ sqe, s.backend.prepare s.ring (s.calls + 1) call = .ok sqe → s.ring.Clear call.blockIdx

def uringStart (s : UringState) : Prop := s.ring = .empty ∧ s.calls = 0 ∧ s.pc = .idle

def uringMachine : Machine UringState UringMove UringEvent where
  start := uringStart
  step s move events s' := UringStep s move (events, s')

-- The runs in which every call finds its ring clear.
def clearMachine : Machine UringState UringMove UringEvent where
  start := uringStart
  step s move events s' := UringStep s move (events, s') ∧ ∀ call, move = .begin call → s.Safe call

-- What one call does, up to its return.
inductive Serving (s : UringState) (call : IoCall) : List UringEvent → UringState → Prop
  | begun (events : List UringEvent) (s' : UringState) (step : UringStep s (.begin call) (events, s')) : Serving s call events s'
  | moved (events more : List UringEvent) (mid s' : UringState) (move : UringMove) (before : Serving s call events mid)
      (busy : mid.pc ≠ .idle) (step : UringStep mid move (more, s')) : Serving s call (events ++ more) s'

-- A call that succeeds has consumed the completion of its own entry.
def Matched (trace : List UringEvent) : Prop :=
  ∀ number consumed, .returned number Err.kSuccess consumed ∈ trace → ∃ c, consumed = some c ∧ c.call = number

theorem matched_nil : Matched [] := by
  intro number consumed member
  cases member

theorem matched_append (a b : List UringEvent) (first : Matched a) (second : Matched b) : Matched (a ++ b) := by
  intro number consumed member
  rcases List.mem_append.mp member with left | right
  · exact first number consumed left
  · exact second number consumed right

theorem matched_failed (number : Nat) (rc : Rc) (consumed : Option Cqe) (failed : rc ≠ Err.kSuccess) :
    Matched [.returned number rc consumed] := by
  intro number' consumed' member
  cases List.mem_singleton.mp member
  exact absurd rfl failed

theorem matched_own (c : Cqe) (rc : Rc) : Matched [.returned c.call rc (some c)] := by
  intro number consumed member
  cases List.mem_singleton.mp member
  exact ⟨c, rfl, rfl⟩

theorem prepare_ok (b : IoUringIoBackend) (ring : Uring) (number : Nat) (call : IoCall) (sqe : Sqe)
    (done : b.prepare ring number call = .ok sqe) : sqe.userData = call.blockIdx ∧ sqe.call = number := by
  cases call with
  | write blockIdx buffer =>
      simp only [IoUringIoBackend.prepare] at done
      split at done
      · cases done
      · split at done
        · cases done
        · split at done
          · cases done
          · cases done
            exact ⟨rfl, rfl⟩
  | read blockIdx buf =>
      simp only [IoUringIoBackend.prepare] at done
      split at done
      · cases done
      · split at done
        · cases done
        · cases done
          exact ⟨rfl, rfl⟩

theorem prepare_error (b : IoUringIoBackend) (ring : Uring) (number : Nat) (call : IoCall) (rc : Rc)
    (failed : b.prepare ring number call = .error rc) : rc = Err.kIoBase := by
  cases call with
  | write blockIdx buffer =>
      simp only [IoUringIoBackend.prepare] at failed
      split at failed
      · cases failed
        rfl
      · split at failed
        · cases failed
          rfl
        · split at failed
          · cases failed
            rfl
          · cases failed
  | read blockIdx buf =>
      simp only [IoUringIoBackend.prepare] at failed
      split at failed
      · cases failed
        rfl
      · split at failed
        · cases failed
          rfl
        · cases failed

theorem match_cases (expect : Nat) (c : Cqe) : matchCqe expect c = Err.kIoBase ∨
    matchCqe expect c = Err.kSuccess ∧ c.userData = expect ∧ c.res = (kValueSize : Int) := by
  unfold matchCqe
  by_cases other : c.userData ≠ expect
  · rw [if_pos other]
    exact .inl rfl
  · rw [if_neg other]
    by_cases short : c.res ≠ (kValueSize : Int)
    · rw [if_pos short]
      exact .inl rfl
    · rw [if_neg short]
      exact .inr ⟨rfl, not_not.mp other, not_not.mp short⟩

-- What keeps the call in progress from taking a completion that is not its own:
-- too many entries to submit, an oldest completion that does not fit, or nothing
-- of this block in the ring but its own entry.
inductive Guarded (ring : Uring) (number blockIdx : Nat) : Prop
  | front (c : Cqe) (rest : List Cqe) (oldest : ring.cq = c :: rest) (unfit : matchCqe blockIdx c ≠ Err.kSuccess)
  | alone (entries : ∀ sqe ∈ ring.sq ++ ring.inflight, sqe.userData = blockIdx → sqe.call = number)
      (completions : ∀ c ∈ ring.cq, c.userData = blockIdx → c.call = number)

def UringState.Own (s : UringState) : Prop :=
  match s.pc with
  | .idle => True
  | .submitting call => 2 ≤ s.ring.sq.length ∨ Guarded s.ring s.calls call.blockIdx
  | .waiting call => Guarded s.ring s.calls call.blockIdx
  | .flushing _ c => c.call = s.calls

theorem guarded_submit (ring : Uring) (number blockIdx : Nat) (guarded : Guarded ring number blockIdx) :
    Guarded ring.submit number blockIdx := by
  cases guarded with
  | front c rest oldest unfit => exact .front c rest oldest unfit
  | alone entries completions =>
      refine .alone ?_ completions
      intro sqe member
      rcases List.mem_append.mp member with none_ | taken
      · cases none_
      · exact entries sqe (List.mem_append.mpr (List.mem_append.mp taken).symm)

theorem guarded_complete (ring : Uring) (number blockIdx i : Nat) (sqe : Sqe) (res : Int) (taken : ring.inflight[i]? = some sqe)
    (guarded : Guarded ring number blockIdx) : Guarded (ring.complete i sqe res) number blockIdx := by
  cases guarded with
  | front c rest oldest unfit =>
      refine .front c (rest ++ [⟨sqe.userData, res, sqe.call⟩]) ?_ unfit
      rw [Uring.complete, oldest, List.cons_append]
  | alone entries completions =>
      refine .alone ?_ ?_
      · intro other member
        rcases List.mem_append.mp member with queued | left
        · exact entries other (List.mem_append_left _ queued)
        · exact entries other (List.mem_append_right _ (List.mem_of_mem_eraseIdx left))
      · intro c member same
        rcases List.mem_append.mp member with old | new
        · exact completions c old same
        · cases List.mem_singleton.mp new
          exact entries sqe (List.mem_append_right _ (List.mem_of_getElem? taken)) same

theorem guarded_queue (ring : Uring) (sqe : Sqe) (blockIdx : Nat) (clear : ring.Clear blockIdx) :
    2 ≤ (ring.queue sqe).sq.length ∨ Guarded (ring.queue sqe) sqe.call blockIdx := by
  by_cases empty : ring.sq = []
  swap
  · refine .inl ?_
    rw [Uring.queue, List.length_append]
    have some_ := List.length_pos_iff.mpr empty
    exact Nat.add_le_add some_ (Nat.le_refl 1)
  · have front := clear.resolve_left (not_not_intro empty)
    refine .inr ?_
    cases cq : ring.cq with
    | nil =>
        rw [cq] at front
        refine .alone ?_ ?_
        · intro other member same
          rcases List.mem_append.mp member with queued | working
          · rw [Uring.queue, empty] at queued
            rw [List.mem_singleton.mp queued]
          · exact absurd same (front other working)
        · intro c member
          rw [Uring.queue, cq] at member
          cases member
    | cons c rest =>
        rw [cq] at front
        exact .front c rest cq front

theorem reaped_own (s : UringState) (call : IoCall) (c : Cqe) (rest : List Cqe) (oldest : s.ring.cq = c :: rest)
    (guarded : Guarded s.ring s.calls call.blockIdx) : (s.reaped call c rest).2.Own ∧ Matched (s.reaped call c rest).1 := by
  unfold UringState.reaped
  rcases match_cases call.blockIdx c with failed | ⟨fits, same, _⟩
  · have rejected : matchCqe call.blockIdx c ≠ Err.kSuccess := by
      rw [failed]
      decide
    simp only
    rw [if_pos rejected]
    exact ⟨trivial, matched_failed _ _ _ rejected⟩
  · have own : c.call = s.calls := by
      cases guarded with
      | front c' rest' oldest' unfit =>
          rw [oldest] at oldest'
          cases oldest'
          exact absurd fits unfit
      | alone _ completions => exact completions c (by rw [oldest]; exact List.mem_cons_self) same
    simp only
    rw [if_neg (not_not_intro fits)]
    split
    · exact ⟨own, matched_nil⟩
    · rw [UringState.answer, ← own]
      exact ⟨trivial, matched_own c _⟩

-- Every step within a call keeps the guard, and only the call's own completion
-- lets it succeed.
theorem own_step (s : UringState) (move : UringMove) (out : List UringEvent × UringState) (own : s.Own) (step : UringStep s move out)
    (safe : ∀ call, move = .begin call → s.Safe call) : out.2.Own ∧ Matched out.1 := by
  have failed : Err.kIoBase ≠ Err.kSuccess := by decide
  cases step with
  | configure backend here =>
      refine ⟨?_, matched_nil⟩
      unfold UringState.Own
      simp only [here]
  | refused call rc here refused =>
      refine ⟨trivial, matched_failed _ rc none ?_⟩
      rw [prepare_error _ _ _ _ _ refused]
      exact failed
  | queued call sqe here done =>
      obtain ⟨_, number⟩ := prepare_ok _ _ _ _ _ done
      have guarded := guarded_queue s.ring sqe call.blockIdx (safe call rfl sqe done)
      rw [number] at guarded
      exact ⟨guarded, matched_nil⟩
  | resubmit call here => exact ⟨own, matched_nil⟩
  | unsubmitted call here => exact ⟨trivial, matched_failed _ _ _ failed⟩
  | submitted call here =>
      unfold UringState.Own at own
      rw [here] at own
      unfold UringState.submitted
      split
      · exact ⟨trivial, matched_failed _ _ _ failed⟩
      · rename_i one
        refine ⟨?_, matched_nil⟩
        rcases own with many | guarded
        · omega
        · exact guarded_submit s.ring s.calls call.blockIdx guarded
  | rewait call here => exact ⟨own, matched_nil⟩
  | unwaited call here => exact ⟨trivial, matched_failed _ _ _ failed⟩
  | reaped call c rest here oldest =>
      unfold UringState.Own at own
      rw [here] at own
      exact reaped_own s call c rest oldest own
  | flushed call c done here =>
      unfold UringState.Own at own
      rw [here] at own
      refine ⟨trivial, ?_⟩
      rw [UringState.answer, ← (show c.call = s.calls from own)]
      exact matched_own c _
  | complete i sqe res taken =>
      refine ⟨?_, matched_nil⟩
      unfold UringState.Own at own ⊢
      cases here : s.pc with
      | idle => trivial
      | submitting call =>
          rw [here] at own
          simp only
          rcases own with many | guarded
          · exact .inl many
          · exact .inr (guarded_complete s.ring s.calls call.blockIdx i sqe res taken guarded)
      | waiting call =>
          rw [here] at own
          exact guarded_complete s.ring s.calls call.blockIdx i sqe res taken own
      | flushing call c =>
          rw [here] at own
          exact own

theorem clear_run (trace : List UringEvent) (s : UringState) (run : clearMachine.Run trace s) : s.Own ∧ Matched trace := by
  refine run_invariant clearMachine (fun trace s => s.Own ∧ Matched trace) ?_ ?_ trace s run
  · rintro s ⟨_, _, idle⟩
    refine ⟨?_, matched_nil⟩
    unfold UringState.Own
    rw [idle]
    trivial
  · rintro trace s move events s' ⟨own, matched⟩ ⟨step, safe⟩
    obtain ⟨own', new⟩ := own_step s move (events, s') own step safe
    exact ⟨own', matched_append _ _ matched new⟩

-- Nothing in the ring is of a call that has not been made.
structure Past (s : UringState) : Prop where
  entries : ∀ sqe ∈ s.ring.sq ++ s.ring.inflight, sqe.call ≤ s.calls
  completions : ∀ c ∈ s.ring.cq, c.call ≤ s.calls

theorem past_submit (s : UringState) (past : Past s) (pc : UringPc) : Past { s with ring := s.ring.submit, pc := pc } := by
  refine ⟨?_, past.completions⟩
  intro sqe member
  rcases List.mem_append.mp member with none_ | taken
  · cases none_
  · exact past.entries sqe (List.mem_append.mpr (List.mem_append.mp taken).symm)

theorem past_step (s : UringState) (move : UringMove) (out : List UringEvent × UringState) (past : Past s) (step : UringStep s move out) :
    Past out.2 := by
  cases step with
  | configure backend here => exact ⟨past.entries, past.completions⟩
  | refused call rc here refused =>
      exact ⟨fun sqe member => Nat.le_succ_of_le (past.entries sqe member), fun c member => Nat.le_succ_of_le (past.completions c member)⟩
  | queued call sqe here done =>
      refine ⟨?_, fun c member => Nat.le_succ_of_le (past.completions c member)⟩
      intro other member
      rcases List.mem_append.mp member with queued | working
      · rcases List.mem_append.mp queued with old | new
        · exact Nat.le_succ_of_le (past.entries other (List.mem_append_left _ old))
        · have same := congrArg Sqe.call (List.mem_singleton.mp new)
          exact Nat.le_of_eq (same.trans (prepare_ok _ _ _ _ _ done).2)
      · exact Nat.le_succ_of_le (past.entries other (List.mem_append_right _ working))
  | resubmit call here => exact past
  | unsubmitted call here => exact ⟨past.entries, past.completions⟩
  | submitted call here =>
      unfold UringState.submitted
      split
      · exact past_submit s past .idle
      · exact past_submit s past (.waiting call)
  | rewait call here => exact past
  | unwaited call here => exact ⟨past.entries, past.completions⟩
  | reaped call c rest here oldest =>
      have fewer : ∀ c' ∈ rest, c'.call ≤ s.calls := fun c' member => past.completions c' (by rw [oldest]; exact List.mem_cons_of_mem c member)
      unfold UringState.reaped
      simp only
      split
      · exact ⟨past.entries, fewer⟩
      · split
        · exact ⟨past.entries, fewer⟩
        · exact ⟨past.entries, fewer⟩
  | flushed call c done here => exact ⟨past.entries, past.completions⟩
  | complete i sqe res taken =>
      refine ⟨?_, ?_⟩
      · intro other member
        rcases List.mem_append.mp member with queued | left
        · exact past.entries other (List.mem_append_left _ queued)
        · exact past.entries other (List.mem_append_right _ (List.mem_of_mem_eraseIdx left))
      · intro c member
        rcases List.mem_append.mp member with old | new
        · exact past.completions c old
        · cases List.mem_singleton.mp new
          exact past.entries sqe (List.mem_append_right _ (List.mem_of_getElem? taken))

theorem past_run (trace : List UringEvent) (s : UringState) (run : uringMachine.Run trace s) : Past s := by
  refine run_invariant uringMachine (fun _ s => Past s) ?_ ?_ trace s run
  · rintro s ⟨empty, _, _⟩
    refine ⟨?_, ?_⟩
    · intro sqe member
      rw [empty] at member
      cases member
    · intro c member
      rw [empty] at member
      cases member
  · intro trace s move events s' past step
    exact past_step s move (events, s') past step

-- A completion that fits and is not the call's own is taken for it.
theorem takes_stale (s mid : UringState) (call : IoCall) (before : List UringEvent) (c : Cqe) (rest : List Cqe)
    (serving : Serving s call before mid) (here : mid.pc = .waiting call) (oldest : mid.ring.cq = c :: rest)
    (fits : matchCqe call.blockIdx c = Err.kSuccess) (stale : c.call ≠ mid.calls) :
    ∃ events s', Serving s call events s' ∧ ¬ Matched events := by
  have unmatched (events : List UringEvent) (member : .returned mid.calls Err.kSuccess (some c) ∈ events) : ¬ Matched events := by
    intro matched
    obtain ⟨c', same, own⟩ := matched mid.calls (some c) member
    cases same
    exact stale own
  have busy : mid.pc ≠ .idle := by
    rw [here]
    intro never
    cases never
  have reaped := UringStep.reaped call c rest here oldest
  unfold UringState.reaped at reaped
  simp only at reaped
  rw [if_neg (not_not_intro fits)] at reaped
  by_cases flushes : mid.backend.flushes call = true
  · rw [if_pos flushes] at reaped
    have flushing := Serving.moved before [] mid _ (.wait .completion) serving busy reaped
    have done := Serving.moved _ _ _ _ (.fdatasync true) flushing (fun never => by cases never) (.flushed call c true rfl)
    exact ⟨_, _, done, unmatched _ (List.mem_append_right _ List.mem_cons_self)⟩
  · rw [if_neg flushes] at reaped
    have done := Serving.moved before _ mid _ (.wait .completion) serving busy reaped
    exact ⟨_, _, done, unmatched _ (List.mem_append_right _ List.mem_cons_self)⟩

theorem unclear_stale (s : UringState) (call : IoCall) (sqe : Sqe) (past : Past s) (here : s.pc = .idle)
    (done : s.backend.prepare s.ring (s.calls + 1) call = .ok sqe) (unclear : ¬ s.ring.Clear call.blockIdx) :
    ∃ events s', Serving s call events s' ∧ ¬ Matched events := by
  unfold Uring.Clear at unclear
  obtain ⟨empty, front⟩ := not_or.mp unclear
  have empty := not_not.mp empty
  have queued := Serving.begun [] _ (.queued call sqe here done)
  have submitting := UringStep.submitted call
    (show ({ s with ring := s.ring.queue sqe, calls := s.calls + 1, pc := .submitting call } : UringState).pc = .submitting call from rfl)
  have one : ¬ (s.ring.queue sqe).sq.length ≠ 1 := by
    rw [Uring.queue, empty]
    exact not_not_intro rfl
  unfold UringState.submitted at submitting
  rw [if_neg one] at submitting
  have waiting := Serving.moved _ _ _ _ (.submit .accepted) queued (fun never => by cases never) submitting
  cases cq : s.ring.cq with
  | cons c rest =>
      rw [cq] at front
      have fits : matchCqe call.blockIdx c = Err.kSuccess := not_not.mp front
      have older := past.completions c (by rw [cq]; exact List.mem_cons_self)
      refine takes_stale s _ call _ c rest waiting rfl cq fits ?_
      show c.call ≠ s.calls + 1
      omega
  | nil =>
      rw [cq] at front
      obtain ⟨stale, member, same⟩ : ∃ sqe ∈ s.ring.inflight, sqe.userData = call.blockIdx := by
        by_contra none_
        exact front fun sqe member same => none_ ⟨sqe, member, same⟩
      obtain ⟨i, taken⟩ := List.getElem?_of_mem (List.mem_append_left (s.ring.queue sqe).sq member)
      have completed := Serving.moved _ _ _ _ (.complete i kValueSize) waiting (fun never => by cases never) (.complete i stale kValueSize taken)
      have older := past.entries stale (List.mem_append_right _ member)
      refine takes_stale s _ call _ ⟨stale.userData, kValueSize, stale.call⟩ [] completed rfl ?_ ?_ ?_
      · show s.ring.cq ++ [_] = _
        rw [cq]
        rfl
      · unfold matchCqe
        rw [if_neg (not_not_intro same), if_neg (not_not_intro rfl)]
      · show stale.call ≠ s.calls + 1
        omega

theorem serving_own (s s' : UringState) (call : IoCall) (events : List UringEvent) (own : s.Own) (safe : s.Safe call)
    (serving : Serving s call events s') : s'.Own ∧ Matched events := by
  induction serving with
  | begun events s' step =>
      exact own_step s _ (events, s') own step (fun other same => by cases same; exact safe)
  | moved events more mid s' move _ busy step ih =>
      obtain ⟨own', matched⟩ := ih
      have within : ∀ call, move = .begin call → mid.Safe call := by
        intro other same
        subst same
        cases step with
        | refused call rc here refused => exact absurd here busy
        | queued call sqe here done => exact absurd here busy
      obtain ⟨own'', new⟩ := own_step mid move (more, s') own' step within
      exact ⟨own'', matched_append _ _ matched new⟩

theorem idle_own (s : UringState) (here : s.pc = .idle) : s.Own := by
  unfold UringState.Own
  rw [here]
  trivial

-- In a run whose calls all find the ring clear, whatever succeeds has consumed
-- its own completion, and a call that finds it otherwise may consume another's.
theorem completions_matched_iff (trace : List UringEvent) (s : UringState) :
    (clearMachine.Run trace s → Matched trace) ∧
      (uringMachine.Run trace s → s.pc = .idle → ∀ call,
        ((∀ events s', Serving s call events s' → Matched events) ↔ s.Safe call)) := by
  refine ⟨fun run => (clear_run trace s run).2, ?_⟩
  intro run here call
  constructor
  · intro every sqe done
    by_contra unclear
    obtain ⟨events, s', serving, unmatched⟩ := unclear_stale s call sqe (past_run trace s run) here done unclear
    exact unmatched (every events s' serving)
  · intro safe events s' serving
    exact (serving_own s s' call events (idle_own s here) safe serving).2

-- One block, read twice. Waiting for the first completion fails, and the second
-- read takes it for its own while its own entry is still at work.
def oneBlock : IoUringIoBackend := ⟨1, false, 0, [], none⟩

theorem stale_completion_taken : ∃ trace s, uringMachine.Run trace s ∧
    trace = [.returned 1 Err.kIoBase none, .returned 2 Err.kSuccess (some ⟨0, kValueSize, 1⟩)] ∧
    s.ring.inflight = [⟨.read 8192, valueOffset 0, 0, 2⟩] ∧ ¬ Matched trace := by
  have begin_ := Machine.Run.begin (m := uringMachine) ⟨oneBlock, .empty, 0, .idle⟩ ⟨rfl, rfl, rfl⟩
  have called := Machine.Run.next (m := uringMachine) _ _ _ _ (.begin (.read 0 4096)) begin_
    (.queued (.read 0 4096) ⟨.read 4096, valueOffset 0, 0, 1⟩ rfl rfl)
  have submitted := Machine.Run.next (m := uringMachine) _ _ _ _ (.submit .accepted) called (.submitted (.read 0 4096) rfl)
  have failed := Machine.Run.next (m := uringMachine) _ _ _ _ (.wait .failed) submitted (.unwaited (.read 0 4096) rfl)
  have completed := Machine.Run.next (m := uringMachine) _ _ _ _ (.complete 0 kValueSize) failed
    (.complete 0 ⟨.read 4096, valueOffset 0, 0, 1⟩ kValueSize rfl)
  have again := Machine.Run.next (m := uringMachine) _ _ _ _ (.begin (.read 0 8192)) completed
    (.queued (.read 0 8192) ⟨.read 8192, valueOffset 0, 0, 2⟩ rfl rfl)
  have resubmitted := Machine.Run.next (m := uringMachine) _ _ _ _ (.submit .accepted) again (.submitted (.read 0 8192) rfl)
  have taken := Machine.Run.next (m := uringMachine) _ _ _ _ (.wait .completion) resubmitted
    (.reaped (.read 0 8192) ⟨0, kValueSize, 1⟩ [] rfl rfl)
  refine ⟨_, _, taken, rfl, rfl, ?_⟩
  intro matched
  obtain ⟨c, same, own⟩ := matched 2 (some ⟨0, kValueSize, 1⟩) (by simp)
  cases same
  cases own

end Cabe
