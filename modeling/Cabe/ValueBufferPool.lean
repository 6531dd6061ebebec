import Cabe.Concurrency.Machine
import Cabe.DataPath
import Cabe.WalFrame

set_option autoImplicit false

namespace Cabe

open Storage Concurrency

def kInvalidSlot : Nat := 2 ^ 32 - 1

-- The head of the free list in its two halves. An index is none where the source
-- holds the invalid one.
structure FreeHead where
  tag : Nat
  index : Option Nat
deriving DecidableEq, Repr

structure ControlBlock where
  slotIndex : Nat
  slotGeneration : Nat
  released : Bool
deriving DecidableEq, Repr

inductive ProbeKind where
  | notInPool
  | allocatedSlot
  | poolAddressNotAllocated
deriving DecidableEq, Repr

structure SourceInfo where
  kind : ProbeKind
  matched : Bool
  deviceId : DeviceId
  poolId : Nat
  slotIndex : Nat
  slotGeneration : Nat
  boundKeyLen : Nat
  boundKeyBytes : Bytes
deriving DecidableEq, Repr

def SourceInfo.none : SourceInfo := ⟨.notInPool, false, 0, 0, 0, 0, 0, []⟩

def SourceInfo.boundKey (info : SourceInfo) : Key := info.boundKeyBytes.take info.boundKeyLen

structure PoolConfig where
  deviceId : DeviceId
  poolId : Nat
  slotCount : Nat
  base : Nat

def PoolConfig.probed (c : PoolConfig) : SourceInfo :=
  { SourceInfo.none with kind := .poolAddressNotAllocated, deviceId := c.deviceId, poolId := c.poolId }

-- What Identify decides by the address alone: its answer, or the slot to look at.
def PoolConfig.locate (c : PoolConfig) (value : DataView) : Except SourceInfo Nat :=
  if value.addr = 0 ∨ c.slotCount = 0 ∨ c.base = 0 then .error .none
  else if value.addr < c.base ∨ value.addr ≥ c.base + c.slotCount * kValueSize then .error .none
  else if value.bytes.length ≠ kValueSize then .error c.probed
  else if (value.addr - c.base) % kValueSize ≠ 0 then .error c.probed
  else if (value.addr - c.base) / kValueSize ≥ c.slotCount then .error c.probed
  else .ok ((value.addr - c.base) / kValueSize)

-- Why a reference is given up: an allocation is refused, or a buffer released.
inductive Purpose where
  | refuse (rc : Rc)
  | release (b : Nat)

structure Probe where
  value : DataView
  slot : Nat

-- Where a thread stands between two atomic steps. Calls begin and end at idle.
inductive PoolPc where
  | idle
  | opening (key : Key)
  | entering (key : Key)
  | checking (key : Key)
  | popping (key : Key)
  | following (key : Key) (head : FreeHead) (i : Nat)
  | swapping (key : Key) (head : FreeHead) (i : Nat) (next : Option Nat)
  | naming (key : Key) (i k : Nat)
  | marking (key : Key) (i : Nat)
  | stamping (i : Nat)
  | wrapping (i g : Nat)
  | flagging (b : Nat)
  | matching (p : Purpose) (i g : Nat)
  | freeing (p : Purpose) (i g : Nat)
  | renewing (p : Purpose) (i : Nat)
  | pushing (p : Purpose) (i : Nat)
  | linking (p : Purpose) (i : Nat) (head : FreeHead)
  | returning (p : Purpose) (i : Nat) (head : FreeHead)
  | dropping (p : Purpose)
  | looking (p : Purpose)
  | notifying (p : Purpose)
  | probing (q : Probe)
  | peeking (q : Probe) (g : Nat)
  | measuring (q : Probe) (g : Nat)
  | copying (q : Probe) (g len : Nat) (bytes : Bytes)
  | confirming (q : Probe) (g len : Nat) (bytes : Bytes)
  | announcing
  | counting
  | comparing (c : UInt32)
  | asleep (c : UInt32)

variable {Tid : Type}

-- The atomics of the pool and of its slots, the control blocks made so far, and
-- beside them the key of the call that marked a slot last.
structure PoolState (Tid : Type) where
  config : PoolConfig
  nextFree : Nat → Option Nat
  allocated : Nat → Bool
  generation : Nat → Nat
  boundKeyLen : Nat → Nat
  boundKeyBytes : Nat → Nat → UInt8
  closing : Bool
  activeCount : UInt32
  freeHead : FreeHead
  buffers : List ControlBlock
  pc : Tid → PoolPc
  tenant : Nat → Key

inductive PoolEvent (Tid : Type) where
  | allocated (t : Tid) (b : Nat)
  | refused (t : Tid) (rc : Rc)
  | gaveBack (b i : Nat)
  | released (t : Tid) (b : Nat)
  | identified (t : Tid) (value : DataView) (info : SourceInfo)
  | closed (t : Tid)
  | settled (t : Tid)

def PoolState.fresh (c : PoolConfig) : PoolState Tid where
  config := c
  nextFree := fun i => if i + 1 = c.slotCount then none else some (i + 1)
  allocated := fun _ => false
  generation := fun _ => 1
  boundKeyLen := fun _ => 0
  boundKeyBytes := fun _ _ => 0
  closing := false
  activeCount := 0
  freeHead := ⟨0, if c.slotCount = 0 then none else some 0⟩
  buffers := []
  pc := fun _ => .idle
  tenant := fun _ => []

-- The base is none when there is no memory for the slots.
def PoolState.create (deviceId : DeviceId) (poolId slotCount : Nat) (base : Option Nat) : Except Rc (PoolState Tid) :=
  if slotCount ≥ kInvalidSlot then .error Err.kEngineInvalidOpts
  else if ¬ slotCount ≤ (2 ^ 64 - 1) / kValueSize then .error Err.kEngineInvalidOpts
  else if slotCount = 0 then .ok (.fresh ⟨deviceId, poolId, 0, 0⟩)
  else
    match base with
    | none => .error Err.kEnginePoolExhausted
    | some base => .ok (.fresh ⟨deviceId, poolId, slotCount, base⟩)

def Purpose.event (p : Purpose) (t : Tid) : PoolEvent Tid :=
  match p with
  | .refuse rc => .refused t rc
  | .release b => .released t b

def Purpose.returns (p : Purpose) (i : Nat) : List (PoolEvent Tid) :=
  match p with
  | .refuse _ => []
  | .release b => [.gaveBack b i]

def PoolConfig.matchedInfo (c : PoolConfig) (q : Probe) (g len : Nat) (bytes : Bytes) : SourceInfo :=
  ⟨.allocatedSlot, true, c.deviceId, c.poolId, q.slot, g, len, bytes⟩

-- A slot that changed while it was read: the length goes, the bytes stay.
def PoolConfig.changedInfo (c : PoolConfig) (bytes : Bytes) : SourceInfo := { c.probed with boundKeyBytes := bytes }

-- The steps that only move their own thread on, by what it reads. A weak
-- exchange may fail for no reason.
inductive PoolMove (s : PoolState Tid) : PoolPc → PoolPc → Prop
  | opened (key : Key) (unclosed : s.closing = false) : PoolMove s (.opening key) (.entering key)
  | admitted (key : Key) (unclosed : s.closing = false) : PoolMove s (.checking key) (.popping key)
  | late (key : Key) (closed : s.closing = true) : PoolMove s (.checking key) (.dropping (.refuse Err.kEngineNotOpen))
  | found (key : Key) (i : Nat) (head : s.freeHead.index = some i) : PoolMove s (.popping key) (.following key s.freeHead i)
  | exhausted (key : Key) (empty : s.freeHead.index = none) : PoolMove s (.popping key) (.dropping (.refuse Err.kEnginePoolExhausted))
  | followed (key : Key) (head : FreeHead) (i : Nat) : PoolMove s (.following key head i) (.swapping key head i (s.nextFree i))
  | missed (key : Key) (head : FreeHead) (i : Nat) (next : Option Nat) : PoolMove s (.swapping key head i next) (.popping key)
  | stamped (i : Nat) : PoolMove s (.stamping i) (.wrapping i (s.generation i))
  | noMemory (i g : Nat) : PoolMove s (.wrapping i g) (.matching (.refuse Err.kEnginePoolExhausted) i g)
  | outside (p : Purpose) (i g : Nat) (beyond : i ≥ s.config.slotCount) : PoolMove s (.matching p i g) (.dropping p)
  | stale (p : Purpose) (i g : Nat) (inside : i < s.config.slotCount) (other : s.generation i ≠ g) : PoolMove s (.matching p i g) (.dropping p)
  | current (p : Purpose) (i g : Nat) (inside : i < s.config.slotCount) (same : s.generation i = g) :
      PoolMove s (.matching p i g) (.freeing p i g)
  | unmarked (p : Purpose) (i g : Nat) (free : s.allocated i = false) : PoolMove s (.freeing p i g) (.dropping p)
  | loaded (p : Purpose) (i : Nat) : PoolMove s (.pushing p i) (.linking p i s.freeHead)
  | again (p : Purpose) (i : Nat) (head : FreeHead) : PoolMove s (.returning p i head) (.pushing p i)
  | heard (p : Purpose) (closed : s.closing = true) : PoolMove s (.looking p) (.notifying p)
  | dated (q : Probe) : PoolMove s (.probing q) (.peeking q (s.generation q.slot))
  | taken (q : Probe) (g : Nat) (used : s.allocated q.slot = true) : PoolMove s (.peeking q g) (.measuring q g)
  | measured (q : Probe) (g : Nat) : PoolMove s (.measuring q g) (.copying q g (min (s.boundKeyLen q.slot) kWalKeyMax) [])
  | copied (q : Probe) (g len : Nat) (bytes : Bytes) (more : bytes.length < len) :
      PoolMove s (.copying q g len bytes) (.copying q g len (bytes ++ [s.boundKeyBytes q.slot bytes.length]))
  | unchanged (q : Probe) (g len : Nat) (bytes : Bytes) (whole : bytes.length = len) (same : s.generation q.slot = g) :
      PoolMove s (.copying q g len bytes) (.confirming q g len bytes)
  | counted (some_ : s.activeCount ≠ 0) : PoolMove s .counting (.comparing s.activeCount)
  | differs (c : UInt32) (other : s.activeCount ≠ c) : PoolMove s (.comparing c) .counting
  | blocks (c : UInt32) (same : s.activeCount = c) : PoolMove s (.comparing c) (.asleep c)
  | wakes (c : UInt32) : PoolMove s (.asleep c) (.comparing c)

-- The reads that end a call.
inductive PoolReturn (s : PoolState Tid) (t : Tid) : PoolPc → PoolEvent Tid → Prop
  | shut (key : Key) (closed : s.closing = true) : PoolReturn s t (.opening key) (.refused t Err.kEngineNotOpen)
  | spent (b : Nat) (cb : ControlBlock) (made : s.buffers[b]? = some cb) (gone : cb.released = true) :
      PoolReturn s t (.flagging b) (.released t b)
  | unheard (p : Purpose) (unclosed : s.closing = false) : PoolReturn s t (.looking p) (p.event t)
  | vacant (q : Probe) (g : Nat) (free : s.allocated q.slot = false) : PoolReturn s t (.peeking q g) (.identified t q.value s.config.probed)
  | moved (q : Probe) (g len : Nat) (bytes : Bytes) (whole : bytes.length = len) (other : s.generation q.slot ≠ g) :
      PoolReturn s t (.copying q g len bytes) (.identified t q.value (s.config.changedInfo bytes))
  | emptied (q : Probe) (g len : Nat) (bytes : Bytes) (free : s.allocated q.slot = false) :
      PoolReturn s t (.confirming q g len bytes) (.identified t q.value (s.config.changedInfo bytes))
  | confirmed (q : Probe) (g len : Nat) (bytes : Bytes) (used : s.allocated q.slot = true) :
      PoolReturn s t (.confirming q g len bytes) (.identified t q.value (s.config.matchedInfo q g len bytes))
  | settled (none_ : s.activeCount = 0) : PoolReturn s t .counting (.settled t)

variable [DecidableEq Tid]

def PoolState.goto (s : PoolState Tid) (t : Tid) (pc : PoolPc) : PoolState Tid := { s with pc := Function.update s.pc t pc }

def wakeAll (pc : Tid → PoolPc) : Tid → PoolPc := fun t =>
  match pc t with
  | .asleep c => .comparing c
  | other => other

-- The steps of a call that change what the others see.
inductive PoolWrite (s : PoolState Tid) (t : Tid) : PoolPc → List (PoolEvent Tid) → PoolState Tid → Prop
  | enter (key : Key) : PoolWrite s t (.entering key) [] ({ s with activeCount := s.activeCount + 1 }.goto t (.checking key))
  | pop (key : Key) (head : FreeHead) (i : Nat) (next : Option Nat) (same : s.freeHead = head) :
      PoolWrite s t (.swapping key head i next) [] ({ s with freeHead := FreeHead.mk (head.tag + 1) next }.goto t (.naming key i 0))
  | name (key : Key) (i k : Nat) (byte : UInt8) (more : key[k]? = some byte) :
      PoolWrite s t (.naming key i k) []
        ({ s with boundKeyBytes := Function.update s.boundKeyBytes i (Function.update (s.boundKeyBytes i) k byte) }.goto t
          (.naming key i (k + 1)))
  | size (key : Key) (i : Nat) :
      PoolWrite s t (.naming key i key.length) [] ({ s with boundKeyLen := Function.update s.boundKeyLen i key.length }.goto t (.marking key i))
  | mark (key : Key) (i : Nat) :
      PoolWrite s t (.marking key i) []
        ({ s with allocated := Function.update s.allocated i true, tenant := Function.update s.tenant i key }.goto t (.stamping i))
  | wrap (i g : Nat) :
      PoolWrite s t (.wrapping i g) [.allocated t s.buffers.length] ({ s with buffers := s.buffers ++ [ControlBlock.mk i g false] }.goto t .idle)
  | flag (b : Nat) (cb : ControlBlock) (made : s.buffers[b]? = some cb) (live : cb.released = false) :
      PoolWrite s t (.flagging b) []
        ({ s with buffers := s.buffers.set b { cb with released := true } }.goto t (.matching (.release b) cb.slotIndex cb.slotGeneration))
  | free (p : Purpose) (i g : Nat) (used : s.allocated i = true) :
      PoolWrite s t (.freeing p i g) [] ({ s with allocated := Function.update s.allocated i false }.goto t (.renewing p i))
  | renew (p : Purpose) (i : Nat) :
      PoolWrite s t (.renewing p i) [] ({ s with generation := Function.update s.generation i (s.generation i + 1) }.goto t (.pushing p i))
  | link (p : Purpose) (i : Nat) (head : FreeHead) :
      PoolWrite s t (.linking p i head) [] ({ s with nextFree := Function.update s.nextFree i head.index }.goto t (.returning p i head))
  | push (p : Purpose) (i : Nat) (head : FreeHead) (same : s.freeHead = head) :
      PoolWrite s t (.returning p i head) (p.returns i) ({ s with freeHead := FreeHead.mk (head.tag + 1) (some i) }.goto t (.dropping p))
  | drop (p : Purpose) : PoolWrite s t (.dropping p) [] ({ s with activeCount := s.activeCount - 1 }.goto t (.looking p))
  | notify (p : Purpose) : PoolWrite s t (.notifying p) [p.event t] ({ s with pc := wakeAll s.pc }.goto t .idle)
  | announce : PoolWrite s t .announcing [.closed t] ({ s with pc := wakeAll s.pc }.goto t .idle)

-- Any thread makes any call at any time. Only buffers that were made can be
-- released, and waiting comes behind the beginning of a close.
inductive PoolStep (s : PoolState Tid) (t : Tid) : List (PoolEvent Tid) → PoolState Tid → Prop
  | unnamed (key : Key) (rc : Rc) (here : s.pc t = .idle)
      (bad : key = [] ∧ rc = Err.kMemEmptyKey ∨ key.length > kWalKeyMax ∧ rc = Err.kWalKeyTooLong) : PoolStep s t [.refused t rc] s
  | allocate (key : Key) (here : s.pc t = .idle) (named : key ≠ []) (short : key.length ≤ kWalKeyMax) :
      PoolStep s t [] (s.goto t (.opening key))
  | release (b : Nat) (here : s.pc t = .idle) (made : b < s.buffers.length) : PoolStep s t [] (s.goto t (.flagging b))
  | outside (value : DataView) (info : SourceInfo) (here : s.pc t = .idle) (found : s.config.locate value = .error info) :
      PoolStep s t [.identified t value info] s
  | identify (value : DataView) (i : Nat) (here : s.pc t = .idle) (found : s.config.locate value = .ok i) :
      PoolStep s t [] (s.goto t (.probing ⟨value, i⟩))
  | beginClose (here : s.pc t = .idle) : PoolStep s t [] ({ s with closing := true }.goto t .announcing)
  | waitUntilIdle (here : s.pc t = .idle) (begun : s.closing = true) : PoolStep s t [] (s.goto t .counting)
  | move (there : PoolPc) (moves : PoolMove s (s.pc t) there) : PoolStep s t [] (s.goto t there)
  | return_ (event : PoolEvent Tid) (returns : PoolReturn s t (s.pc t) event) : PoolStep s t [event] (s.goto t .idle)
  | write (events : List (PoolEvent Tid)) (next : PoolState Tid) (writes : PoolWrite s t (s.pc t) events next) : PoolStep s t events next

def poolMachine (Tid : Type) [DecidableEq Tid] : Machine (PoolState Tid) Tid (PoolEvent Tid) where
  start s := ∃ deviceId poolId slotCount base, PoolState.create deviceId poolId slotCount base = .ok s
  step s t events s' := PoolStep s t events s'

end Cabe
