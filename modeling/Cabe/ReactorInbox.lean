import Cabe.Common
import Cabe.Concurrency.Machine

set_option autoImplicit false

namespace Cabe

open Concurrency

def kOpPending : Rc := 1

-- A node lives in the frame of the call that it describes, and a caller has one
-- call at a time. The other node is the one that Stop pushes.
inductive OpNode (Tid Dev : Type) where
  | call (t : Tid)
  | stop (d : Dev)
deriving DecidableEq

-- What a reactor does with a request. The codes of its operations are not the mark
-- of a result that is still to come.
structure Service (σ Req Out : Type) where
  serves : σ → Req → Rc → Out → σ → Prop
  close : σ → σ
  final : ∀ s req rc out s', serves s req rc out s' → rc ≠ kOpPending

section Places

variable (Tid Dev : Type)

-- Where a caller stands between two atomic steps of SubmitAndWait. What it last
-- read of its wake word goes with it.
inductive CallerAt where
  | idle
  | called (d : Dev)
  | snapped (d : Dev) (cur : Nat)
  | pushing (d : Dev) (cur : Nat) (old : Option (OpNode Tid Dev))
  | notifying (d : Dev) (cur : Nat)
  | waiting (d : Dev) (cur : Nat)
  | sleeping (d : Dev) (cur : Nat)
  | asleep (d : Dev) (cur : Nat)
  | woken (d : Dev) (cur : Nat)
  | reloading (d : Dev)
  | leaving (d : Dev)

inductive StopAt where
  | started
  | submitting
  | pushing (old : Option (OpNode Tid Dev))
  | notifying
  | joining
  | joined

-- Which list Run is working on: a batch, what the batch had behind Stop, or what
-- came in while the device was closed.
inductive RunMode where
  | serving
  | failing
  | last
deriving DecidableEq

inductive RunAt where
  | draining
  | waiting
  | asleep
  | woken
  | reversing (mode : RunMode) (prev head : Option (OpNode Tid Dev))
  | ready (mode : RunMode) (op : Option (OpNode Tid Dev))
  | taken (mode : RunMode) (op : OpNode Tid Dev) (next : Option (OpNode Tid Dev))
  | storing (mode : RunMode) (t : Tid) (rc : Rc) (next : Option (OpNode Tid Dev))
  | bumping (mode : RunMode) (w : Tid) (next : Option (OpNode Tid Dev))
  | notifying (mode : RunMode) (w : Tid) (next : Option (OpNode Tid Dev))
  | lastDraining
  | exited

end Places

-- Any number of callers and reactors. A wake word counts its fetch_adds, and a
-- caller reads the count modulo 2^32.
structure Reactors (Tid Dev σ Req Out : Type) where
  inbox : Dev → Option (OpNode Tid Dev)
  next : OpNode Tid Dev → Option (OpNode Tid Dev)
  request : Tid → Req
  out : Tid → Out
  result : Tid → Rc
  wake : Tid → Nat
  calls : Tid → Nat
  caller : Tid → CallerAt Tid Dev
  stop : Dev → StopAt Tid Dev
  run : Dev → RunAt Tid Dev
  device : Dev → σ

abbrev OpTicket (Tid : Type) := Tid × Nat

inductive ReactorEvent (Tid Dev Req Out : Type) where
  | called (c : OpTicket Tid) (d : Dev) (req : Req)
  | pushed (d : Dev) (c : OpTicket Tid)
  | stopped (d : Dev)
  | executed (d : Dev) (c : OpTicket Tid) (req : Req) (rc : Rc) (out : Out)
  | closed (d : Dev)
  | refused (d : Dev) (c : OpTicket Tid)
  | stored (d : Dev) (c : OpTicket Tid) (rc : Rc)
  | drained (d : Dev)
  | returned (c : OpTicket Tid) (rc : Rc) (out : Out)

inductive ReactorActor (Tid Dev : Type) where
  | caller (t : Tid)
  | stop (d : Dev)
  | run (d : Dev)
deriving DecidableEq

variable {Tid Dev σ Req Out : Type}

def Reactors.ticket (s : Reactors Tid Dev σ Req Out) (t : Tid) : OpTicket Tid := (t, s.calls t)

def Reactors.wakeWord (s : Reactors Tid Dev σ Req Out) (t : Tid) : Nat := s.wake t % 2 ^ 32

-- The steps that only move their own thread on, by what it reads. A wait may end
-- by itself, and then compares again.
inductive CallerMove (s : Reactors Tid Dev σ Req Out) (t : Tid) : CallerAt Tid Dev → CallerAt Tid Dev → Prop
  | snap (d : Dev) : CallerMove s t (.called d) (.snapped d (s.wakeWord t))
  | pending (d : Dev) (cur : Nat) (still : s.result t = kOpPending) : CallerMove s t (.waiting d cur) (.sleeping d cur)
  | done (d : Dev) (cur : Nat) (final : s.result t ≠ kOpPending) : CallerMove s t (.waiting d cur) (.leaving d)
  | changed (d : Dev) (cur : Nat) (differs : s.wakeWord t ≠ cur) : CallerMove s t (.sleeping d cur) (.reloading d)
  | block (d : Dev) (cur : Nat) (same : s.wakeWord t = cur) : CallerMove s t (.sleeping d cur) (.asleep d cur)
  | stir (d : Dev) (cur : Nat) : CallerMove s t (.asleep d cur) (.woken d cur)
  | compare (d : Dev) (cur : Nat) : CallerMove s t (.woken d cur) (.sleeping d cur)
  | reload (d : Dev) : CallerMove s t (.reloading d) (.waiting d (s.wakeWord t))

inductive RunMove (s : Reactors Tid Dev σ Req Out) (d : Dev) : RunAt Tid Dev → RunAt Tid Dev → Prop
  | empty (none_ : s.inbox d = none) : RunMove s d .draining .waiting
  | filled (some_ : s.inbox d ≠ none) : RunMove s d .waiting .draining
  | block (none_ : s.inbox d = none) : RunMove s d .waiting .asleep
  | stir : RunMove s d .asleep .woken
  | compare : RunMove s d .woken .waiting
  | reversed (mode : RunMode) (prev : Option (OpNode Tid Dev)) : RunMove s d (.reversing mode prev none) (.ready mode prev)
  | served : RunMove s d (.ready .serving none) .draining
  | failed : RunMove s d (.ready .failing none) .lastDraining
  | ended : RunMove s d (.ready .last none) .exited
  | take (mode : RunMode) (op : OpNode Tid Dev) : RunMove s d (.ready mode (some op)) (.taken mode op (s.next op))

variable [DecidableEq Tid] [DecidableEq Dev]

def Reactors.goCaller (s : Reactors Tid Dev σ Req Out) (t : Tid) (pc : CallerAt Tid Dev) : Reactors Tid Dev σ Req Out :=
  { s with caller := Function.update s.caller t pc }

def Reactors.goStop (s : Reactors Tid Dev σ Req Out) (d : Dev) (pc : StopAt Tid Dev) : Reactors Tid Dev σ Req Out :=
  { s with stop := Function.update s.stop d pc }

def Reactors.goRun (s : Reactors Tid Dev σ Req Out) (d : Dev) (pc : RunAt Tid Dev) : Reactors Tid Dev σ Req Out :=
  { s with run := Function.update s.run d pc }

def Reactors.link (s : Reactors Tid Dev σ Req Out) (op : OpNode Tid Dev) (to_ : Option (OpNode Tid Dev)) : Reactors Tid Dev σ Req Out :=
  { s with next := Function.update s.next op to_ }

def Reactors.setInbox (s : Reactors Tid Dev σ Req Out) (d : Dev) (head : Option (OpNode Tid Dev)) : Reactors Tid Dev σ Req Out :=
  { s with inbox := Function.update s.inbox d head }

-- Nobody but the reactor waits on its inbox, and nobody but the caller on its word.
def RunAt.notified : RunAt Tid Dev → RunAt Tid Dev
  | .asleep => .woken
  | pc => pc

def CallerAt.notified : CallerAt Tid Dev → CallerAt Tid Dev
  | .asleep d cur => .woken d cur
  | pc => pc

variable (service : Service σ Req Out) (admits : Dev → Req → Prop)

inductive ReactorStep : Reactors Tid Dev σ Req Out → ReactorActor Tid Dev → List (ReactorEvent Tid Dev Req Out) → Reactors Tid Dev σ Req Out → Prop
  | call (s : Reactors Tid Dev σ Req Out) (t : Tid) (d : Dev) (req : Req) (rest : s.caller t = .idle) (admitted : admits d req) :
      ReactorStep s (.caller t) [.called (t, s.calls t + 1) d req]
        (({ s with
          request := Function.update s.request t req
          result := Function.update s.result t kOpPending
          calls := Function.update s.calls t (s.calls t + 1) }.link (.call t) none).goCaller t (.called d))
  | caller (s : Reactors Tid Dev σ Req Out) (t : Tid) (there : CallerAt Tid Dev) (moves : CallerMove s t (s.caller t) there) :
      ReactorStep s (.caller t) [] (s.goCaller t there)
  | load (s : Reactors Tid Dev σ Req Out) (t : Tid) (d : Dev) (cur : Nat)
      (at_ : s.caller t = .snapped d cur ∨ ∃ old, s.caller t = .pushing d cur old) :
      ReactorStep s (.caller t) [] ((s.link (.call t) (s.inbox d)).goCaller t (.pushing d cur (s.inbox d)))
  | push (s : Reactors Tid Dev σ Req Out) (t : Tid) (d : Dev) (cur : Nat) (old : Option (OpNode Tid Dev))
      (at_ : s.caller t = .pushing d cur old) (same : s.inbox d = old) :
      ReactorStep s (.caller t) [.pushed d (s.ticket t)] ((s.setInbox d (some (.call t))).goCaller t (.notifying d cur))
  | notifyInbox (s : Reactors Tid Dev σ Req Out) (t : Tid) (d : Dev) (cur : Nat) (at_ : s.caller t = .notifying d cur) :
      ReactorStep s (.caller t) [] ((s.goRun d (s.run d).notified).goCaller t (.waiting d cur))
  | ret (s : Reactors Tid Dev σ Req Out) (t : Tid) (d : Dev) (at_ : s.caller t = .leaving d) :
      ReactorStep s (.caller t) [.returned (s.ticket t) (s.result t) (s.out t)] (s.goCaller t .idle)
  | stop (s : Reactors Tid Dev σ Req Out) (d : Dev) (rest : s.stop d = .started) : ReactorStep s (.stop d) [] (s.goStop d .submitting)
  | loadStop (s : Reactors Tid Dev σ Req Out) (d : Dev) (at_ : s.stop d = .submitting ∨ ∃ old, s.stop d = .pushing old) :
      ReactorStep s (.stop d) [] ((s.link (.stop d) (s.inbox d)).goStop d (.pushing (s.inbox d)))
  | pushStop (s : Reactors Tid Dev σ Req Out) (d : Dev) (old : Option (OpNode Tid Dev)) (at_ : s.stop d = .pushing old) (same : s.inbox d = old) :
      ReactorStep s (.stop d) [.stopped d] ((s.setInbox d (some (.stop d))).goStop d .notifying)
  | notifyStop (s : Reactors Tid Dev σ Req Out) (d : Dev) (at_ : s.stop d = .notifying) :
      ReactorStep s (.stop d) [] ((s.goRun d (s.run d).notified).goStop d .joining)
  | join (s : Reactors Tid Dev σ Req Out) (d : Dev) (at_ : s.stop d = .joining) (gone : s.run d = .exited) :
      ReactorStep s (.stop d) [] (s.goStop d .joined)
  | run (s : Reactors Tid Dev σ Req Out) (d : Dev) (there : RunAt Tid Dev) (moves : RunMove s d (s.run d) there) :
      ReactorStep s (.run d) [] (s.goRun d there)
  | drain (s : Reactors Tid Dev σ Req Out) (d : Dev) (at_ : s.run d = .draining) (some_ : s.inbox d ≠ none) :
      ReactorStep s (.run d) [] ((s.setInbox d none).goRun d (.reversing .serving none (s.inbox d)))
  | lastDrain (s : Reactors Tid Dev σ Req Out) (d : Dev) (at_ : s.run d = .lastDraining) :
      ReactorStep s (.run d) [.drained d] ((s.setInbox d none).goRun d (.reversing .last none (s.inbox d)))
  | reverse (s : Reactors Tid Dev σ Req Out) (d : Dev) (mode : RunMode) (prev : Option (OpNode Tid Dev)) (head : OpNode Tid Dev)
      (at_ : s.run d = .reversing mode prev (some head)) :
      ReactorStep s (.run d) [] ((s.link head prev).goRun d (.reversing mode (some head) (s.next head)))
  | execute (s : Reactors Tid Dev σ Req Out) (d : Dev) (t : Tid) (next : Option (OpNode Tid Dev)) (rc : Rc) (out : Out) (after : σ)
      (at_ : s.run d = .taken .serving (.call t) next) (serves : service.serves (s.device d) (s.request t) rc out after) :
      ReactorStep s (.run d) [.executed d (s.ticket t) (s.request t) rc out]
        ({ s with device := Function.update s.device d after, out := Function.update s.out t out }.goRun d (.storing .serving t rc next))
  -- Stop: the device is closed, and what came in behind is answered without it.
  | close (s : Reactors Tid Dev σ Req Out) (d e : Dev) (next : Option (OpNode Tid Dev)) (at_ : s.run d = .taken .serving (.stop e) next) :
      ReactorStep s (.run d) [.closed d]
        ({ s with device := Function.update s.device d (service.close (s.device d)) }.goRun d (.ready .failing next))
  | refuse (s : Reactors Tid Dev σ Req Out) (d : Dev) (mode : RunMode) (t : Tid) (next : Option (OpNode Tid Dev))
      (at_ : s.run d = .taken mode (.call t) next) (late : mode ≠ .serving) :
      ReactorStep s (.run d) [.refused d (s.ticket t)] (s.goRun d (.storing mode t Err.kEngineNotOpen next))
  -- Finalize: the result first, which is the last use of the node.
  | store (s : Reactors Tid Dev σ Req Out) (d : Dev) (mode : RunMode) (t : Tid) (rc : Rc) (next : Option (OpNode Tid Dev))
      (at_ : s.run d = .storing mode t rc next) :
      ReactorStep s (.run d) [.stored d (s.ticket t) rc] ({ s with result := Function.update s.result t rc }.goRun d (.bumping mode t next))
  | bump (s : Reactors Tid Dev σ Req Out) (d : Dev) (mode : RunMode) (w : Tid) (next : Option (OpNode Tid Dev))
      (at_ : s.run d = .bumping mode w next) :
      ReactorStep s (.run d) [] ({ s with wake := Function.update s.wake w (s.wake w + 1) }.goRun d (.notifying mode w next))
  | notify (s : Reactors Tid Dev σ Req Out) (d : Dev) (mode : RunMode) (w : Tid) (next : Option (OpNode Tid Dev))
      (at_ : s.run d = .notifying mode w next) :
      ReactorStep s (.run d) [] ((s.goCaller w (s.caller w).notified).goRun d (.ready mode next))

-- The reactors run from their Start on, and no node is in an inbox yet.
def reactorMachine : Machine (Reactors Tid Dev σ Req Out) (ReactorActor Tid Dev) (ReactorEvent Tid Dev Req Out) where
  start s := (∀ d, s.inbox d = none) ∧ (∀ t, s.caller t = .idle) ∧ (∀ d, s.stop d = .started) ∧ (∀ d, s.run d = .draining)
  step := ReactorStep service admits

end Cabe
