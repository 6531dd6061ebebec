import Cabe.Wal
import Cabe.Concurrency.Machine

set_option autoImplicit false

namespace Cabe

open Concurrency

def kWalResultPending : Rc := 1

-- Where a thread stands between two atomic steps of WriteWal at a synchronous
-- level. A node lives in its writer's frame, so a thread's name is the address
-- of the node of its call in progress, and the next call uses it again.
inductive Pc (Tid : Type) where
  | idle
  | arrived
  | pushing (old : Option Tid)
  | electing
  | draining
  | appending (taken rest : List Tid) (wrote dirty : Bool)
  | finishing (taken rejected : List Tid) (wrote dirty : Bool) (failRc : Rc)
  | storing (todo : List (Tid × Rc))
  | bumping
  | notifying
  | rechecking
  | resigning
  | reexamining
  | retaking
  | leaving
  | waiting
  | snapping
  | again (e : Nat)
  | sleeping (e : Nat)
  | asleep (e : Nat)
  | woken (e : Nat)

-- The commit group's atomics with the window state they guard, and each
-- writer's node. calls counts the calls of a thread, to tell them apart.
structure Group (Tid : Type) where
  wal : Wal
  stackHead : List Tid
  leaderActive : Bool
  epoch : Nat
  pc : Tid → Pc Tid
  entry : Tid → WalEntry
  result : Tid → Rc
  calls : Tid → Nat

abbrev Ticket (Tid : Type) := Tid × Nat

inductive GroupEvent (Tid : Type) where
  | pushed (call : Ticket Tid)
  | drained (batch : List (Ticket Tid))
  | numbered (call : Ticket Tid) (seq : Nat)
  | stored (call : Ticket Tid) (rc : Rc)
  | returned (call : Ticket Tid) (rc : Rc)

variable {Tid : Type}

def Group.ticket (s : Group Tid) (t : Tid) : Ticket Tid := (t, s.calls t)

def Group.fresh (w : Wal) : Group Tid where
  wal := w
  stackHead := []
  leaderActive := false
  epoch := 0
  pc := fun _ => .idle
  entry := fun _ => default
  result := fun _ => kWalResultPending
  calls := fun _ => 0

-- The steps that only move their own thread on, by what it reads.
inductive Move (s : Group Tid) (t : Tid) : Pc Tid → Pc Tid → Prop
  | load : Move s t .arrived (.pushing s.stackHead.head?)
  | miss (old : Option Tid) : Move s t (.pushing old) (.pushing s.stackHead.head?)
  | follow (active : s.leaderActive = true) : Move s t .electing .waiting
  | nothing (empty : s.stackHead = []) : Move s t .draining .rechecking
  | taken (batch : List Tid) (wrote dirty : Bool) :
      Move s t (.appending batch [] wrote dirty) (.finishing batch [] wrote dirty Err.kSuccess)
  | more (busy : s.stackHead ≠ []) : Move s t .rechecking .draining
  | quit (empty : s.stackHead = []) : Move s t .rechecking .resigning
  | clear (empty : s.stackHead = []) : Move s t .reexamining .leaving
  | found (busy : s.stackHead ≠ []) : Move s t .reexamining .retaking
  | relieved (active : s.leaderActive = true) : Move s t .retaking .leaving
  | out : Move s t .leaving .waiting
  | unserved (pending : s.result t = kWalResultPending) : Move s t .waiting .snapping
  | snap : Move s t .snapping (.again s.epoch)
  | still (e : Nat) (pending : s.result t = kWalResultPending) : Move s t (.again e) (.sleeping e)
  | changed (e : Nat) (differs : s.epoch ≠ e) : Move s t (.sleeping e) .waiting
  | block (e : Nat) (same : s.epoch = e) : Move s t (.sleeping e) (.asleep e)
  | compare (e : Nat) : Move s t (.woken e) (.sleeping e)
  | back (e : Nat) : Move s t (.woken e) .waiting

variable [DecidableEq Tid]

def Group.goto (s : Group Tid) (t : Tid) (pc : Pc Tid) : Group Tid := { s with pc := Function.update s.pc t pc }

-- What the end of a batch stores: one code for the nodes the loop took, and one
-- for the nodes from the first rejected one on.
def batchResults (taken rejected : List Tid) (failRc prefixRc : Rc) : List (Tid × Rc) :=
  taken.map (fun t => (t, prefixRc)) ++
    rejected.map (fun t => (t, if failRc = Err.kWalFull then Err.kWalFull else prefixRc))

def notifyAll (pc : Tid → Pc Tid) : Tid → Pc Tid := fun t =>
  match pc t with
  | .asleep e => .woken e
  | other => other

inductive GroupStep : Group Tid → Tid → List (GroupEvent Tid) → Group Tid → Prop
  | refuse (s : Group Tid) (t : Tid) (e : WalEntry) (rest : s.pc t = .idle)
      (bad : e.key.length > kWalKeyMax ∨ s.wal.curBuf = none) : GroupStep s t [] s
  | call (s : Group Tid) (t : Tid) (e : WalEntry) (rest : s.pc t = .idle) (short : e.key.length ≤ kWalKeyMax)
      (buffered : s.wal.curBuf ≠ none) :
      GroupStep s t [] ({ s with
        entry := Function.update s.entry t e
        result := Function.update s.result t kWalResultPending
        calls := Function.update s.calls t (s.calls t + 1) }.goto t .arrived)
  | move (s : Group Tid) (t : Tid) (there : Pc Tid) (moves : Move s t (s.pc t) there) : GroupStep s t [] (s.goto t there)
  -- The CAS compares the head with what was loaded, and reports an empty stack.
  | push (s : Group Tid) (t : Tid) (old : Option Tid) (at_ : s.pc t = .pushing old) (same : s.stackHead.head? = old) :
      GroupStep s t [.pushed (s.ticket t)]
        ({ s with stackHead := t :: s.stackHead }.goto t (if old = none then .electing else .waiting))
  | elected (s : Group Tid) (t : Tid) (at_ : s.pc t = .electing ∨ s.pc t = .retaking) (free : s.leaderActive = false) :
      GroupStep s t [] ({ s with leaderActive := true }.goto t .draining)
  | drain (s : Group Tid) (t : Tid) (at_ : s.pc t = .draining) (busy : s.stackHead ≠ []) :
      GroupStep s t [.drained (s.stackHead.reverse.map s.ticket)]
        ({ s with stackHead := [] }.goto t (.appending [] s.stackHead.reverse false false))
  | append (s : Group Tid) (t x : Tid) (taken rest : List Tid) (wrote dirty : Bool) (grown : Wal)
      (at_ : s.pc t = .appending taken (x :: rest) wrote dirty) (space : s.wal.admission.rc = Err.kSuccess)
      (done : s.wal.admission.wal.append (s.entry x) = (Err.kSuccess, grown)) :
      GroupStep s t [.numbered (s.ticket x) s.wal.admission.wal.seqNext]
        ({ s with wal := grown }.goto t (.appending (taken ++ [x]) rest (wrote || s.wal.admission.wrote) true))
  | refused (s : Group Tid) (t x : Tid) (taken rest : List Tid) (wrote dirty : Bool)
      (at_ : s.pc t = .appending taken (x :: rest) wrote dirty) (none_ : s.wal.admission.rc ≠ Err.kSuccess) :
      GroupStep s t []
        ({ s with wal := s.wal.admission.wal }.goto t
          (.finishing taken (x :: rest) (wrote || s.wal.admission.wrote) (dirty && !s.wal.admission.wrote) s.wal.admission.rc))
  | broken (s : Group Tid) (t x : Tid) (taken rest : List Tid) (wrote dirty : Bool) (rc : Rc) (after : Wal)
      (at_ : s.pc t = .appending taken (x :: rest) wrote dirty) (space : s.wal.admission.rc = Err.kSuccess)
      (failed : s.wal.admission.wal.append (s.entry x) = (rc, after)) (bad : rc ≠ Err.kSuccess) :
      GroupStep s t []
        ({ s with wal := after }.goto t
          (.finishing taken (x :: rest) (wrote || s.wal.admission.wrote) (dirty && !s.wal.admission.wrote) rc))
  | finish (s : Group Tid) (t : Tid) (taken rejected : List Tid) (wrote dirty : Bool) (failRc prefixRc : Rc) (after : Wal)
      (at_ : s.pc t = .finishing taken rejected wrote dirty failRc)
      (done : BatchRun.finish ⟨s.wal, wrote, dirty, failRc, rejected.map s.entry⟩ = (prefixRc, after)) :
      GroupStep s t [] ({ s with wal := after }.goto t (.storing (batchResults taken rejected failRc prefixRc)))
  | store (s : Group Tid) (t x : Tid) (rc : Rc) (todo : List (Tid × Rc)) (at_ : s.pc t = .storing ((x, rc) :: todo)) :
      GroupStep s t [.stored (s.ticket x) rc] ({ s with result := Function.update s.result x rc }.goto t (.storing todo))
  | stored (s : Group Tid) (t : Tid) (at_ : s.pc t = .storing []) : GroupStep s t [] (s.goto t .bumping)
  | bump (s : Group Tid) (t : Tid) (at_ : s.pc t = .bumping) :
      GroupStep s t [] ({ s with epoch := (s.epoch + 1) % 2 ^ 64 }.goto t .notifying)
  | notify (s : Group Tid) (t : Tid) (at_ : s.pc t = .notifying) :
      GroupStep s t [] ({ s with pc := notifyAll s.pc }.goto t .rechecking)
  | resign (s : Group Tid) (t : Tid) (at_ : s.pc t = .resigning) :
      GroupStep s t [] ({ s with leaderActive := false }.goto t .reexamining)
  | ret (s : Group Tid) (t : Tid) (e : Nat) (at_ : s.pc t = .waiting ∨ s.pc t = .again e)
      (served : s.result t ≠ kWalResultPending) :
      GroupStep s t [.returned (s.ticket t) (s.result t)] (s.goto t .idle)

def groupMachine (w : Wal) : Machine (Group Tid) Tid (GroupEvent Tid) where
  start s := s = Group.fresh w
  step := GroupStep

end Cabe
