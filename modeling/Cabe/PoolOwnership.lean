import Cabe.Concurrency.Custody
import Cabe.ValueBufferPool

set_option autoImplicit false

namespace Cabe

open Storage Concurrency

-- The slot that a call has taken out of the list or of a buffer, and not yet
-- handed on.
def PoolPc.slot : PoolPc → Option Nat
  | .naming _ i _ => some i
  | .marking _ i => some i
  | .stamping i => some i
  | .wrapping i _ => some i
  | .matching _ i _ => some i
  | .freeing _ i _ => some i
  | .renewing _ i => some i
  | .pushing _ i => some i
  | .linking _ i _ => some i
  | .returning _ i _ => some i
  | _ => none

-- The call holds a reference of its own.
def PoolPc.counted : PoolPc → Bool
  | .checking _ => true
  | .popping _ => true
  | .following _ _ _ => true
  | .swapping _ _ _ _ => true
  | .dropping _ => true
  | pc => pc.slot.isSome

inductive Holder (Tid : Type) where
  | buffer (b : Nat)
  | call (t : Tid)
deriving DecidableEq

variable {Tid : Type}

def ControlBlock.keeps (cb : ControlBlock) : Option Nat := if cb.released then none else some cb.slotIndex

def PoolState.keeps (s : PoolState Tid) : Holder Tid → Option Nat
  | .buffer b => s.buffers[b]?.bind ControlBlock.keeps
  | .call t => (s.pc t).slot

def PoolState.live (s : PoolState Tid) : Nat := s.buffers.countP fun cb => !cb.released

def PoolState.calls (s : PoolState Tid) : Set Tid := fun t => (s.pc t).counted = true

theorem goto_pc [DecidableEq Tid] (s : PoolState Tid) (t : Tid) (pc : PoolPc) : (s.goto t pc).pc t = pc := Function.update_self ..

-- What a thread may rely on where it stands.
def PoolPc.Ok (s : PoolState Tid) : PoolPc → Prop
  | .following _ head i => head.index = some i ∧ head.tag ≤ s.freeHead.tag
  | .swapping _ head i next => head.index = some i ∧ head.tag ≤ s.freeHead.tag ∧ (s.freeHead = head → s.nextFree i = next)
  | .naming _ i _ => s.allocated i = false
  | .marking _ i => s.allocated i = false
  | .stamping i => s.allocated i = true
  | .wrapping i g => s.allocated i = true ∧ s.generation i = g
  | .matching _ i g => s.allocated i = true ∧ s.generation i = g
  | .freeing _ i g => s.allocated i = true ∧ s.generation i = g
  | .renewing _ i => s.allocated i = false
  | .pushing _ i => s.allocated i = false
  | .linking _ i _ => s.allocated i = false
  | .returning _ i head => s.allocated i = false ∧ s.nextFree i = head.index
  | .counting => s.closing = true
  | .comparing c => s.closing = true ∧ c ≠ 0
  | .asleep c => s.closing = true ∧ c ≠ 0
  | _ => True

structure Pooled (s : PoolState Tid) (free : List Nat) : Prop where
  chain : Chain s.nextFree s.freeHead.index free
  kept : Kept (· < s.config.slotCount) free s.keeps
  vacant : ∀ i ∈ free, s.allocated i = false
  pcs : ∀ t, (s.pc t).Ok s
  buffers : ∀ (b : Nat) (cb : ControlBlock), s.buffers[b]? = some cb → cb.released = false →
    s.allocated cb.slotIndex = true ∧ s.generation cb.slotIndex = cb.slotGeneration
  finite : s.calls.Finite
  counted : s.activeCount = UInt32.ofNat (s.live + s.calls.ncard)

-- One thread leaves alone every slot but the one it has taken.
structure Framed (s s' : PoolState Tid) (own : Option Nat) : Prop where
  config : s'.config = s.config
  slots : ∀ j, own ≠ some j → s'.allocated j = s.allocated j ∧ s'.generation j = s.generation j ∧ s'.nextFree j = s.nextFree j
  head : s'.freeHead = s.freeHead ∨ s.freeHead.tag < s'.freeHead.tag
  closing : s.closing = true → s'.closing = true

theorem framed_tag (s s' : PoolState Tid) (own : Option Nat) (framed : Framed s s' own) : s.freeHead.tag ≤ s'.freeHead.tag := by
  rcases framed.head with same | above
  · rw [same]
  · exact Nat.le_of_lt above

theorem ok_framed (s s' : PoolState Tid) (own : Option Nat) (pc : PoolPc) (framed : Framed s s' own) (ok : pc.Ok s)
    (apart : ∀ j, own = some j → pc.slot ≠ some j) (unlisted : ∀ j, own = some j → s.freeHead.index ≠ some j) : pc.Ok s' := by
  have tag := framed_tag s s' own framed
  have slot (i : Nat) (mine : pc.slot = some i) := framed.slots i fun same => apart i same mine
  cases pc with
  | following key head i => exact ⟨ok.1, Nat.le_trans ok.2 tag⟩
  | swapping key head i next =>
      obtain ⟨index, below, linked⟩ := ok
      refine ⟨index, Nat.le_trans below tag, ?_⟩
      intro same
      rcases framed.head with still | above
      · rw [(framed.slots i fun mine => unlisted i mine (by rw [← still, same, index])).2.2]
        exact linked (still ▸ same)
      · rw [same] at above
        omega
  | naming key i k => exact (slot i rfl).1.trans ok
  | marking key i => exact (slot i rfl).1.trans ok
  | stamping i => exact (slot i rfl).1.trans ok
  | wrapping i g => exact ⟨(slot i rfl).1.trans ok.1, (slot i rfl).2.1.trans ok.2⟩
  | matching p i g => exact ⟨(slot i rfl).1.trans ok.1, (slot i rfl).2.1.trans ok.2⟩
  | freeing p i g => exact ⟨(slot i rfl).1.trans ok.1, (slot i rfl).2.1.trans ok.2⟩
  | renewing p i => exact (slot i rfl).1.trans ok
  | pushing p i => exact (slot i rfl).1.trans ok
  | linking p i head => exact (slot i rfl).1.trans ok
  | returning p i head => exact ⟨(slot i rfl).1.trans ok.1, (slot i rfl).2.2.trans ok.2⟩
  | counting => exact framed.closing ok
  | comparing c => exact ⟨framed.closing ok.1, ok.2⟩
  | asleep c => exact ⟨framed.closing ok.1, ok.2⟩
  | idle | opening _ | entering _ | checking _ | popping _ | flagging _ | dropping _ | looking _ | notifying _ | probing _ | peeking _ _
  | measuring _ _ | copying _ _ _ _ | confirming _ _ _ _ | announcing => trivial

theorem head_listed (s : PoolState Tid) (free : List Nat) (pooled : Pooled s free) (i : Nat) (index : s.freeHead.index = some i) :
    i ∈ free := by
  have chain := pooled.chain
  rw [index] at chain
  obtain ⟨rest, rfl, _⟩ := chain_pop _ _ _ chain
  exact List.mem_cons_self

theorem buffer_keeps (s : PoolState Tid) (b : Nat) (cb : ControlBlock) (made : s.buffers[b]? = some cb) (live : cb.released = false) :
    s.keeps (.buffer b) = some cb.slotIndex := by
  show s.buffers[b]?.bind ControlBlock.keeps = _
  rw [made]
  show cb.keeps = _
  rw [ControlBlock.keeps, live]
  rfl

section Framing

variable (s s' : PoolState Tid) (free : List Nat) (t : Tid) (pooled : Pooled s free) (framed : Framed s s' (s.pc t).slot)

include pooled framed

theorem framed_buffers (b : Nat) (cb : ControlBlock) (made : s.buffers[b]? = some cb) (live : cb.released = false) :
    s'.allocated cb.slotIndex = true ∧ s'.generation cb.slotIndex = cb.slotGeneration := by
  obtain ⟨allocated, generation⟩ := pooled.buffers b cb made live
  have keeps := buffer_keeps s b cb made live
  obtain ⟨first, second, _⟩ := framed.slots cb.slotIndex fun own => by
    cases pooled.kept.alone (.buffer b) (.call t) _ keeps own
  exact ⟨first.trans allocated, second.trans generation⟩

theorem framed_vacant (i : Nat) (member : i ∈ free) : s'.allocated i = false := by
  rw [(framed.slots i fun own => pooled.kept.apart (.call t) i own member).1]
  exact pooled.vacant i member

theorem framed_chain (head : Option Nat) (items : List Nat) (some_ : ∀ i ∈ items, i ∈ free) (chain : Chain s.nextFree head items) :
    Chain s'.nextFree head items := by
  refine chain_congr s.nextFree s'.nextFree items head ?_ chain
  intro i member
  exact (framed.slots i fun own => pooled.kept.apart (.call t) i own (some_ i member)).2.2

theorem framed_pcs [DecidableEq Tid] (pc : PoolPc) (pcs : s'.pc = Function.update s.pc t pc) (ok : pc.Ok s') (t' : Tid) :
    (s'.pc t').Ok s' := by
  by_cases same : t' = t
  · rw [same, pcs, Function.update_self]
    exact ok
  · rw [pcs, Function.update_of_ne same]
    refine ok_framed s s' _ _ framed (pooled.pcs t') ?_ ?_
    · intro j own mine
      cases pooled.kept.alone (.call t') (.call t) j mine own
      exact same rfl
    · intro j own index
      exact pooled.kept.apart (.call t) j own (head_listed s free pooled j index)

end Framing

section Counting

variable [DecidableEq Tid] (s s' : PoolState Tid) (t : Tid) (pc : PoolPc) (pcs : s'.pc = Function.update s.pc t pc)

include pcs

theorem calls_same (counted : pc.counted = (s.pc t).counted) : s'.calls = s.calls := by
  ext t'
  show (s'.pc t').counted = true ↔ (s.pc t').counted = true
  by_cases same : t' = t
  · rw [same, pcs, Function.update_self, counted]
  · rw [pcs, Function.update_of_ne same]

theorem calls_enter (counted : pc.counted = true) : s'.calls = insert t s.calls := by
  ext t'
  show (s'.pc t').counted = true ↔ t' = t ∨ (s.pc t').counted = true
  by_cases same : t' = t
  · rw [same, pcs, Function.update_self]
    exact ⟨fun _ => .inl rfl, fun _ => counted⟩
  · rw [pcs, Function.update_of_ne same]
    exact ⟨.inr, fun either => either.resolve_left same⟩

theorem calls_leave (uncounted : pc.counted = false) : s'.calls = s.calls \ {t} := by
  ext t'
  show (s'.pc t').counted = true ↔ (s.pc t').counted = true ∧ ¬ t' = t
  by_cases same : t' = t
  · rw [same, pcs, Function.update_self, uncounted]
    exact ⟨Bool.noConfusion, fun both => absurd rfl both.2⟩
  · rw [pcs, Function.update_of_ne same]
    exact ⟨fun counted => ⟨counted, same⟩, And.left⟩

theorem keeps_same (buffers : s'.buffers = s.buffers) : s'.keeps = Function.update s.keeps (.call t) pc.slot := by
  funext k
  cases k with
  | buffer b =>
      rw [Function.update_of_ne (fun same => by cases same)]
      show s'.buffers[b]?.bind _ = s.buffers[b]?.bind _
      rw [buffers]
  | call t' =>
      show (s'.pc t').slot = _
      by_cases same : t' = t
      · rw [same, pcs, Function.update_self, Function.update_self]
      · rw [pcs, Function.update_of_ne same, Function.update_of_ne (fun equal => by cases equal; exact same rfl)]
        rfl

end Counting

section Moves

variable [DecidableEq Tid] (s s' : PoolState Tid) (free : List Nat) (t : Tid) (pc : PoolPc) (pooled : Pooled s free)
  (framed : Framed s s' (s.pc t).slot) (pcs : s'.pc = Function.update s.pc t pc) (ok : pc.Ok s')

include pooled framed pcs ok

-- A step that leaves every slot where it is.
theorem pooled_count (slot : pc.slot = (s.pc t).slot) (buffers : s'.buffers = s.buffers) (head : s'.freeHead = s.freeHead)
    (finite : s'.calls.Finite) (count : s'.activeCount = UInt32.ofNat (s.live + s'.calls.ncard)) : Pooled s' free := by
  have keeps : s'.keeps = s.keeps := by
    rw [keeps_same s s' t pc pcs buffers, slot]
    exact Function.update_eq_self (.call t : Holder Tid) s.keeps
  refine ⟨?_, ?_, framed_vacant s s' free t pooled framed, framed_pcs s s' free t pooled framed pc pcs ok, ?_, finite, ?_⟩
  · rw [head]
    exact framed_chain s s' free t pooled framed _ free (fun _ member => member) pooled.chain
  · rw [keeps, framed.config]
    exact pooled.kept
  · intro b cb made live
    rw [buffers] at made
    exact framed_buffers s s' free t pooled framed b cb made live
  · rw [count, PoolState.live, PoolState.live, buffers]

theorem pooled_own (slot : pc.slot = (s.pc t).slot) (counted : pc.counted = (s.pc t).counted) (buffers : s'.buffers = s.buffers)
    (head : s'.freeHead = s.freeHead) (count : s'.activeCount = s.activeCount) : Pooled s' free := by
  have calls := calls_same s s' t pc pcs counted
  refine pooled_count s s' free t pc pooled framed pcs ok slot buffers head ?_ ?_
  · rw [calls]
    exact pooled.finite
  · rw [calls, count]
    exact pooled.counted

theorem pooled_enter (slot : pc.slot = (s.pc t).slot) (before : (s.pc t).counted = false) (after : pc.counted = true)
    (buffers : s'.buffers = s.buffers) (head : s'.freeHead = s.freeHead) (count : s'.activeCount = s.activeCount + 1) : Pooled s' free := by
  have calls := calls_enter s s' t pc pcs after
  have outside : t ∉ s.calls := fun member => by
    rw [show (s.pc t).counted = true from member] at before
    cases before
  refine pooled_count s s' free t pc pooled framed pcs ok slot buffers head ?_ ?_
  · rw [calls]
    exact pooled.finite.insert t
  · rw [calls, Set.ncard_insert_of_notMem outside pooled.finite, count, pooled.counted]
    exact (UInt32.ofNat_add (s.live + s.calls.ncard) 1).symm

theorem pooled_drop (slot : pc.slot = (s.pc t).slot) (before : (s.pc t).counted = true) (after : pc.counted = false)
    (buffers : s'.buffers = s.buffers) (head : s'.freeHead = s.freeHead) (count : s'.activeCount = s.activeCount - 1) : Pooled s' free := by
  have calls := calls_leave s s' t pc pcs after
  have inside : t ∈ s.calls := before
  refine pooled_count s s' free t pc pooled framed pcs ok slot buffers head ?_ ?_
  · rw [calls]
    exact pooled.finite.subset Set.sdiff_subset
  · have one := Set.ncard_sdiff_singleton_add_one inside pooled.finite
    rw [calls, count, pooled.counted, ← one]
    have grown := UInt32.ofNat_add (s.live + (s.calls \ {t}).ncard) 1
    rw [← Nat.add_assoc, grown]
    exact UInt32.add_sub_cancel _ _

end Moves

section Exchanges

variable [DecidableEq Tid] (s : PoolState Tid) (free : List Nat) (t : Tid) (pooled : Pooled s free)

include pooled

theorem pooled_pop (key : Key) (head : FreeHead) (i : Nat) (next : Option Nat) (here : s.pc t = .swapping key head i next)
    (same : s.freeHead = head) : ∃ rest, free = i :: rest ∧
      Pooled ({ s with freeHead := FreeHead.mk (head.tag + 1) next }.goto t (.naming key i 0)) rest := by
  have ok := pooled.pcs t
  rw [here] at ok
  obtain ⟨index, _, linked⟩ := ok
  have chain := pooled.chain
  rw [same, index] at chain
  obtain ⟨rest, rfl, links⟩ := chain_pop _ _ _ chain
  rw [linked same] at links
  have pcs : ({ s with freeHead := FreeHead.mk (head.tag + 1) next }.goto t (.naming key i 0)).pc =
      Function.update s.pc t (.naming key i 0) := rfl
  generalize here' : ({ s with freeHead := FreeHead.mk (head.tag + 1) next } : PoolState Tid).goto t (.naming key i 0) = s' at pcs ⊢
  have config : s'.config = s.config := by rw [← here']; rfl
  have buffers : s'.buffers = s.buffers := by rw [← here']; rfl
  have head' : s'.freeHead = ⟨head.tag + 1, next⟩ := by rw [← here']; rfl
  have framed : Framed s s' (s.pc t).slot := by
    rw [← here']
    refine ⟨rfl, fun _ _ => ⟨rfl, rfl, rfl⟩, .inr ?_, id⟩
    show s.freeHead.tag < head.tag + 1
    rw [same]
    exact Nat.lt_succ_self _
  have calls := calls_same s s' t _ pcs (by rw [here]; rfl)
  have vacant := framed_vacant s s' (i :: rest) t pooled framed
  refine ⟨rest, rfl, ?_, ?_, fun j member => vacant j (List.mem_cons_of_mem i member),
    framed_pcs s s' (i :: rest) t pooled framed _ pcs (vacant i List.mem_cons_self), ?_, ?_, ?_⟩
  · rw [head']
    exact framed_chain s s' (i :: rest) t pooled framed _ rest (fun _ member => List.mem_cons_of_mem i member) links
  · rw [keeps_same s s' t _ pcs buffers, config]
    exact kept_take _ rest s.keeps i (.call t) pooled.kept (by show (s.pc t).slot = none; rw [here]; rfl)
  · intro b cb made live
    rw [buffers] at made
    exact framed_buffers s s' (i :: rest) t pooled framed b cb made live
  · rw [calls]
    exact pooled.finite
  · rw [calls, PoolState.live, buffers, ← here']
    exact pooled.counted

theorem pooled_push (p : Purpose) (i : Nat) (head : FreeHead) (here : s.pc t = .returning p i head) (same : s.freeHead = head) :
    Pooled ({ s with freeHead := FreeHead.mk (head.tag + 1) (some i) }.goto t (.dropping p)) (i :: free) := by
  have ok := pooled.pcs t
  rw [here] at ok
  obtain ⟨unused, linked⟩ := ok
  have holds : s.keeps (.call t) = some i := by
    show (s.pc t).slot = some i
    rw [here]
    rfl
  have pcs : ({ s with freeHead := FreeHead.mk (head.tag + 1) (some i) }.goto t (.dropping p)).pc = Function.update s.pc t (.dropping p) := rfl
  generalize here' : ({ s with freeHead := FreeHead.mk (head.tag + 1) (some i) } : PoolState Tid).goto t (.dropping p) = s' at pcs ⊢
  have buffers : s'.buffers = s.buffers := by rw [← here']; rfl
  have framed : Framed s s' (s.pc t).slot := by
    rw [← here']
    refine ⟨rfl, fun _ _ => ⟨rfl, rfl, rfl⟩, .inr ?_, id⟩
    show s.freeHead.tag < head.tag + 1
    rw [same]
    exact Nat.lt_succ_self _
  have calls := calls_same s s' t _ pcs (by rw [here]; rfl)
  refine ⟨?_, ?_, ?_, framed_pcs s s' free t pooled framed _ pcs trivial, ?_, ?_, ?_⟩
  · have chain := pooled.chain
    rw [same, ← linked] at chain
    rw [← here']
    exact ⟨rfl, chain⟩
  · rw [keeps_same s s' t _ pcs buffers, framed.config]
    exact kept_give _ free s.keeps i (.call t) pooled.kept holds
  · intro j member
    rcases List.mem_cons.mp member with rfl | rest
    · rw [← here']
      exact unused
    · exact framed_vacant s s' free t pooled framed j rest
  · intro b cb made live
    rw [buffers] at made
    exact framed_buffers s s' free t pooled framed b cb made live
  · rw [calls]
    exact pooled.finite
  · rw [calls, PoolState.live, buffers, ← here']
    exact pooled.counted

-- A new buffer takes over the slot, and its call's reference.
theorem pooled_wrap (i g : Nat) (here : s.pc t = .wrapping i g) :
    Pooled ({ s with buffers := s.buffers ++ [ControlBlock.mk i g false] }.goto t .idle) free := by
  have ok := pooled.pcs t
  rw [here] at ok
  have holds : s.keeps (.call t) = some i := by
    show (s.pc t).slot = some i
    rw [here]
    rfl
  have pcs : ({ s with buffers := s.buffers ++ [ControlBlock.mk i g false] }.goto t .idle).pc = Function.update s.pc t .idle := rfl
  generalize here' : ({ s with buffers := s.buffers ++ [ControlBlock.mk i g false] } : PoolState Tid).goto t .idle = s' at pcs ⊢
  have buffers : s'.buffers = s.buffers ++ [ControlBlock.mk i g false] := by rw [← here']; rfl
  have framed : Framed s s' (s.pc t).slot := by
    rw [← here']
    exact ⟨rfl, fun _ _ => ⟨rfl, rfl, rfl⟩, .inl rfl, id⟩
  have inside : t ∈ s.calls := by
    show (s.pc t).counted = true
    rw [here]
    rfl
  have calls := calls_leave s s' t _ pcs rfl
  refine ⟨?_, ?_, framed_vacant s s' free t pooled framed, framed_pcs s s' free t pooled framed _ pcs trivial, ?_, ?_, ?_⟩
  · rw [← here']
    exact pooled.chain
  · have fresh : s.keeps (.buffer s.buffers.length) = none := by
      show s.buffers[s.buffers.length]?.bind _ = none
      rw [List.getElem?_eq_none (Nat.le_refl _)]
      rfl
    have handed := kept_hand _ free s.keeps i (.call t) (.buffer s.buffers.length) pooled.kept holds fresh
    rw [framed.config]
    refine (?_ : s'.keeps = _) ▸ handed
    funext k
    cases k with
    | buffer b =>
        show s'.buffers[b]?.bind ControlBlock.keeps = _
        rw [buffers]
        by_cases last : b = s.buffers.length
        · rw [last, Function.update_self, List.getElem?_concat_length]
          rfl
        · rw [Function.update_of_ne (fun same => last (by cases same; rfl)), Function.update_of_ne (fun same => by cases same)]
          show _ = s.buffers[b]?.bind ControlBlock.keeps
          rcases Nat.lt_or_ge b s.buffers.length with old | beyond
          · rw [List.getElem?_append_left old]
          · rw [List.getElem?_eq_none (by rw [List.length_append]; exact Nat.lt_of_le_of_ne beyond (Ne.symm last)),
              List.getElem?_eq_none beyond]
    | call t' =>
        rw [Function.update_of_ne (fun same => by cases same)]
        show (s'.pc t').slot = _
        by_cases same : t' = t
        · rw [same, pcs, Function.update_self, Function.update_self]
          rfl
        · rw [pcs, Function.update_of_ne same, Function.update_of_ne (fun equal => by cases equal; exact same rfl)]
          rfl
  · intro b cb made live
    rw [buffers] at made
    rcases Nat.lt_or_ge b s.buffers.length with old | beyond
    · rw [List.getElem?_append_left old] at made
      exact framed_buffers s s' free t pooled framed b cb made live
    · rw [List.getElem?_append_right beyond, List.getElem?_singleton] at made
      split at made
      · cases made
        rw [← here']
        exact ok
      · cases made
  · rw [calls]
    exact pooled.finite.subset Set.sdiff_subset
  · have one := Set.ncard_sdiff_singleton_add_one inside pooled.finite
    have live : s'.live = s.live + 1 := by
      rw [PoolState.live, buffers, List.countP_append]
      rfl
    rw [calls, live, ← here', Nat.add_assoc, Nat.add_comm 1, one]
    exact pooled.counted

-- The first release takes the slot out of its buffer, and the reference with it.
theorem pooled_flag (b : Nat) (cb : ControlBlock) (here : s.pc t = .flagging b) (made : s.buffers[b]? = some cb) (unreleased : cb.released = false) :
    Pooled ({ s with buffers := s.buffers.set b { cb with released := true } }.goto t
      (.matching (.release b) cb.slotIndex cb.slotGeneration)) free := by
  have ok := pooled.buffers b cb made unreleased
  obtain ⟨inside, at_⟩ := List.getElem?_eq_some_iff.mp made
  have holds := buffer_keeps s b cb made unreleased
  have empty : s.keeps (.call t) = none := by
    show (s.pc t).slot = none
    rw [here]
    rfl
  have pcs : ({ s with buffers := s.buffers.set b { cb with released := true } }.goto t
      (.matching (.release b) cb.slotIndex cb.slotGeneration)).pc =
      Function.update s.pc t (.matching (.release b) cb.slotIndex cb.slotGeneration) := rfl
  generalize here' : ({ s with buffers := s.buffers.set b { cb with released := true } } : PoolState Tid).goto t
      (.matching (.release b) cb.slotIndex cb.slotGeneration) = s' at pcs ⊢
  have buffers : s'.buffers = s.buffers.set b { cb with released := true } := by rw [← here']; rfl
  have framed : Framed s s' (s.pc t).slot := by
    rw [← here']
    exact ⟨rfl, fun _ _ => ⟨rfl, rfl, rfl⟩, .inl rfl, id⟩
  have outside : t ∉ s.calls := fun member => by
    have counted : (s.pc t).counted = true := member
    rw [here] at counted
    cases counted
  have calls := calls_enter s s' t _ pcs rfl
  refine ⟨?_, ?_, framed_vacant s s' free t pooled framed, framed_pcs s s' free t pooled framed _ pcs ?_, ?_, ?_, ?_⟩
  · rw [← here']
    exact pooled.chain
  · have handed := kept_hand _ free s.keeps cb.slotIndex (.buffer b) (.call t) pooled.kept holds empty
    rw [framed.config]
    refine (?_ : s'.keeps = _) ▸ handed
    funext k
    cases k with
    | buffer b' =>
        rw [Function.update_of_ne (fun same => by cases same)]
        show s'.buffers[b']?.bind ControlBlock.keeps = _
        rw [buffers]
        by_cases same : b' = b
        · rw [same, Function.update_self, List.getElem?_set_self inside]
          rfl
        · rw [Function.update_of_ne (fun equal => same (by cases equal; rfl)), List.getElem?_set_ne (Ne.symm same)]
          rfl
    | call t' =>
        show (s'.pc t').slot = _
        by_cases same : t' = t
        · rw [same, pcs, Function.update_self, Function.update_self]
          rfl
        · rw [pcs, Function.update_of_ne same, Function.update_of_ne (fun equal => by cases equal; exact same rfl),
            Function.update_of_ne (fun equal => by cases equal)]
          rfl
  · rw [← here']
    exact ok
  · intro b' cb' made' live
    rw [buffers] at made'
    by_cases same : b = b'
    · rw [← same, List.getElem?_set_self inside] at made'
      cases made'
      cases live
    · rw [List.getElem?_set_ne same] at made'
      exact framed_buffers s s' free t pooled framed b' cb' made' live
  · rw [calls]
    exact pooled.finite.insert t
  · have fewer : s'.live + 1 = s.live := by
      have pos : 0 < s.buffers.countP fun cb => !cb.released :=
        List.countP_pos_iff.mpr ⟨cb, List.mem_of_getElem? made, by rw [unreleased]; rfl⟩
      rw [PoolState.live, PoolState.live, buffers, List.countP_set inside, at_, unreleased]
      simp only [Bool.not_false, if_true, Bool.not_true, Bool.false_eq_true, if_false]
      omega
    have count : s'.activeCount = s.activeCount := by rw [← here']; rfl
    rw [calls, Set.ncard_insert_of_notMem outside pooled.finite, count, ← Nat.add_assoc, Nat.add_right_comm, fewer]
    exact pooled.counted

end Exchanges

theorem wake_slot (pc : Tid → PoolPc) (t : Tid) : (wakeAll pc t).slot = (pc t).slot ∧ (wakeAll pc t).counted = (pc t).counted := by
  unfold wakeAll
  cases pc t <;> exact ⟨rfl, rfl⟩

-- Waking moves no slot and no reference.
theorem pooled_wake (s : PoolState Tid) (free : List Nat) (pooled : Pooled s free) : Pooled { s with pc := wakeAll s.pc } free := by
  have keeps : ({ s with pc := wakeAll s.pc } : PoolState Tid).keeps = s.keeps := by
    funext k
    cases k with
    | buffer b => rfl
    | call t => exact (wake_slot s.pc t).1
  have calls : ({ s with pc := wakeAll s.pc } : PoolState Tid).calls = s.calls := by
    ext t
    show (wakeAll s.pc t).counted = true ↔ (s.pc t).counted = true
    rw [(wake_slot s.pc t).2]
  refine ⟨pooled.chain, ?_, pooled.vacant, ?_, pooled.buffers, ?_, ?_⟩
  · rw [keeps]
    exact pooled.kept
  · intro t
    have ok := pooled.pcs t
    show (wakeAll s.pc t).Ok _
    unfold wakeAll
    cases here : s.pc t <;> rw [here] at ok <;> exact ok
  · rw [calls]
    exact pooled.finite
  · rw [calls]
    exact pooled.counted

theorem range_chain (count n : Nat) : ∀ k, k + n = count →
    Chain (fun i => if i + 1 = count then none else some (i + 1)) (if n = 0 then none else some k) (List.range' k n) := by
  induction n with
  | zero =>
      intro k _
      rfl
  | succ n ih =>
      intro k whole
      rw [if_neg (Nat.succ_ne_zero n)]
      refine ⟨rfl, ?_⟩
      have last : (if k + 1 = count then none else some (k + 1)) = if n = 0 then none else some (k + 1) :=
        if_congr (by omega) rfl rfl
      show Chain _ (if k + 1 = count then none else some (k + 1)) _
      rw [last]
      exact ih (k + 1) (by omega)

theorem pooled_fresh (c : PoolConfig) : Pooled (PoolState.fresh c : PoolState Tid) (List.range c.slotCount) := by
  have none_ (k : Holder Tid) : (PoolState.fresh c : PoolState Tid).keeps k = none := by
    cases k with
    | buffer b => rfl
    | call t => rfl
  have empty : (PoolState.fresh c : PoolState Tid).calls = ∅ := by
    ext t
    exact ⟨Bool.noConfusion, fun no => no.elim⟩
  refine ⟨?_, ⟨List.nodup_range, ?_, ?_, ?_⟩, fun _ _ => rfl, fun _ => trivial, ?_, ?_, ?_⟩
  · rw [List.range_eq_range']
    exact range_chain c.slotCount c.slotCount 0 (Nat.zero_add _)
  · intro k i holds
    rw [none_ k] at holds
    cases holds
  · intro k l i holds
    rw [none_ k] at holds
    cases holds
  · intro i
    rw [List.mem_range]
    refine ⟨fun either => either.resolve_right ?_, .inl⟩
    rintro ⟨k, holds⟩
    rw [none_ k] at holds
    cases holds
  · intro b cb made
    cases made
  · rw [empty]
    exact Set.finite_empty
  · rw [empty, Set.ncard_empty]
    rfl

theorem created_fresh (s : PoolState Tid) (deviceId : DeviceId) (poolId slotCount : Nat) (base : Option Nat)
    (created : PoolState.create deviceId poolId slotCount base = .ok s) : s = .fresh s.config := by
  unfold PoolState.create at created
  split at created
  · cases created
  split at created
  · cases created
  split at created
  · cases created
    rfl
  · cases base with
    | none => cases created
    | some base =>
        cases created
        rfl

section Steps

variable [DecidableEq Tid] (s : PoolState Tid) (free : List Nat) (t : Tid) (pooled : Pooled s free)

include pooled

omit [DecidableEq Tid] in
-- A slot that was taken is marked as its call expects, so no call turns back
-- with a slot in its hands.
theorem move_ok (here there : PoolPc) (at_ : s.pc t = here) (moves : PoolMove s here there) :
    there.Ok s ∧ there.slot = here.slot ∧ there.counted = here.counted := by
  have ok := pooled.pcs t
  rw [at_] at ok
  cases moves with
  | opened | admitted | late | exhausted | missed | heard | dated | taken | measured | copied | unchanged => exact ⟨trivial, rfl, rfl⟩
  | found key i head => exact ⟨⟨head, Nat.le_refl _⟩, rfl, rfl⟩
  | followed key head i => exact ⟨⟨ok.1, ok.2, fun _ => rfl⟩, rfl, rfl⟩
  | stamped i => exact ⟨⟨ok, rfl⟩, rfl, rfl⟩
  | noMemory i g => exact ⟨ok, rfl, rfl⟩
  | outside p i g beyond =>
      have inside := (pooled.kept.whole i).mp (.inr ⟨.call t, by show (s.pc t).slot = some i; rw [at_]; rfl⟩)
      exact absurd inside (Nat.not_lt.mpr beyond)
  | stale p i g inside other => exact absurd ok.2 other
  | current p i g inside same => exact ⟨ok, rfl, rfl⟩
  | unmarked p i g free =>
      rw [ok.1] at free
      cases free
  | loaded p i => exact ⟨ok, rfl, rfl⟩
  | again p i head => exact ⟨ok.1, rfl, rfl⟩
  | counted some_ => exact ⟨⟨ok, some_⟩, rfl, rfl⟩
  | differs c other => exact ⟨ok.1, rfl, rfl⟩
  | blocks c same => exact ⟨ok, rfl, rfl⟩
  | wakes c => exact ⟨ok, rfl, rfl⟩

omit [DecidableEq Tid] pooled in
theorem return_slot (here : PoolPc) (event : PoolEvent Tid) (returns : PoolReturn s t here event) :
    here.slot = none ∧ here.counted = false := by
  cases returns <;> exact ⟨rfl, rfl⟩

theorem pooled_goto (there : PoolPc) (ok : there.Ok s) (slot : there.slot = (s.pc t).slot) (counted : there.counted = (s.pc t).counted) :
    Pooled (s.goto t there) free := by
  refine pooled_own s (s.goto t there) free t there pooled ⟨rfl, fun _ _ => ⟨rfl, rfl, rfl⟩, .inl rfl, id⟩ rfl ?_ slot counted rfl rfl rfl
  cases there <;> exact ok

theorem pooled_write (here : PoolPc) (at_ : s.pc t = here) (events : List (PoolEvent Tid)) (next : PoolState Tid)
    (writes : PoolWrite s t here events next) : ∃ free', Pooled next free' := by
  have ok := pooled.pcs t
  rw [at_] at ok
  have wake := pooled_wake s free pooled
  cases writes with
  | enter key =>
      refine ⟨free, pooled_enter s _ free t (.checking key) pooled ⟨rfl, fun _ _ => ⟨rfl, rfl, rfl⟩, .inl rfl, id⟩ rfl trivial ?_ ?_ rfl
        rfl rfl rfl⟩
      · rw [at_]
        rfl
      · rw [at_]
        rfl
  | pop key head i next same =>
      obtain ⟨rest, _, popped⟩ := pooled_pop s free t pooled key head i next at_ same
      exact ⟨rest, popped⟩
  | name key i k byte more =>
      refine ⟨free, pooled_own s _ free t (.naming key i (k + 1)) pooled ⟨rfl, fun _ _ => ⟨rfl, rfl, rfl⟩, .inl rfl, id⟩ rfl ok ?_ ?_ rfl
        rfl rfl⟩
      · rw [at_]
        rfl
      · rw [at_]
        rfl
  | size key i =>
      refine ⟨free, pooled_own s _ free t (.marking key i) pooled ⟨rfl, fun _ _ => ⟨rfl, rfl, rfl⟩, .inl rfl, id⟩ rfl ok ?_ ?_ rfl
        rfl rfl⟩
      · rw [at_]
        rfl
      · rw [at_]
        rfl
  | mark key i =>
      refine ⟨free, pooled_own s _ free t (.stamping i) pooled ⟨rfl, ?_, .inl rfl, id⟩ rfl (Function.update_self ..) ?_ ?_ rfl rfl rfl⟩
      · intro j other
        rw [at_] at other
        exact ⟨Function.update_of_ne (fun same => other (congrArg some same.symm)) .., rfl, rfl⟩
      · rw [at_]
        rfl
      · rw [at_]
        rfl
  | wrap i g => exact ⟨free, pooled_wrap s free t pooled i g at_⟩
  | flag b cb made live => exact ⟨free, pooled_flag s free t pooled b cb at_ made live⟩
  | free p i g used =>
      refine ⟨free, pooled_own s _ free t (.renewing p i) pooled ⟨rfl, ?_, .inl rfl, id⟩ rfl (Function.update_self ..) ?_ ?_ rfl rfl rfl⟩
      · intro j other
        rw [at_] at other
        exact ⟨Function.update_of_ne (fun same => other (congrArg some same.symm)) .., rfl, rfl⟩
      · rw [at_]
        rfl
      · rw [at_]
        rfl
  | renew p i =>
      refine ⟨free, pooled_own s _ free t (.pushing p i) pooled ⟨rfl, ?_, .inl rfl, id⟩ rfl ok ?_ ?_ rfl rfl rfl⟩
      · intro j other
        rw [at_] at other
        exact ⟨rfl, Function.update_of_ne (fun same => other (congrArg some same.symm)) .., rfl⟩
      · rw [at_]
        rfl
      · rw [at_]
        rfl
  | link p i head =>
      refine ⟨free, pooled_own s _ free t (.returning p i head) pooled ⟨rfl, ?_, .inl rfl, id⟩ rfl ⟨ok, Function.update_self ..⟩ ?_ ?_ rfl
        rfl rfl⟩
      · intro j other
        rw [at_] at other
        exact ⟨rfl, rfl, Function.update_of_ne (fun same => other (congrArg some same.symm)) ..⟩
      · rw [at_]
        rfl
      · rw [at_]
        rfl
  | push p i head same => exact ⟨i :: free, pooled_push s free t pooled p i head at_ same⟩
  | drop p =>
      refine ⟨free, pooled_drop s _ free t (.looking p) pooled ⟨rfl, fun _ _ => ⟨rfl, rfl, rfl⟩, .inl rfl, id⟩ rfl trivial ?_ ?_ rfl
        rfl rfl rfl⟩
      · rw [at_]
        rfl
      · rw [at_]
        rfl
  | notify p =>
      have woken : wakeAll s.pc t = .notifying p := by rw [wakeAll, at_]
      refine ⟨free, pooled_goto _ free t wake .idle trivial ?_ ?_⟩
      · show _ = (wakeAll s.pc t).slot
        rw [woken]
        rfl
      · show _ = (wakeAll s.pc t).counted
        rw [woken]
        rfl
  | announce =>
      have woken : wakeAll s.pc t = .announcing := by rw [wakeAll, at_]
      refine ⟨free, pooled_goto _ free t wake .idle trivial ?_ ?_⟩
      · show _ = (wakeAll s.pc t).slot
        rw [woken]
        rfl
      · show _ = (wakeAll s.pc t).counted
        rw [woken]
        rfl

theorem pooled_step (events : List (PoolEvent Tid)) (s' : PoolState Tid) (step : PoolStep s t events s') : ∃ free', Pooled s' free' := by
  have call (there : PoolPc) (here : s.pc t = .idle) (ok : there.Ok s) (slot : there.slot = none) (counted : there.counted = false) :
      Pooled (s.goto t there) free := by
    refine pooled_goto s free t pooled there ok ?_ ?_
    · rw [slot, here]
      rfl
    · rw [counted, here]
      rfl
  cases step with
  | unnamed key rc here bad => exact ⟨free, pooled⟩
  | allocate key here named short => exact ⟨free, call _ here trivial rfl rfl⟩
  | release b here made => exact ⟨free, call _ here trivial rfl rfl⟩
  | outside value info here found => exact ⟨free, pooled⟩
  | identify value i here found => exact ⟨free, call _ here trivial rfl rfl⟩
  | beginClose here =>
      refine ⟨free, pooled_own s _ free t .announcing pooled ⟨rfl, fun _ _ => ⟨rfl, rfl, rfl⟩, .inl rfl, fun _ => rfl⟩ rfl trivial ?_ ?_ rfl
        rfl rfl⟩
      · rw [here]
        rfl
      · rw [here]
        rfl
  | waitUntilIdle here begun => exact ⟨free, call _ here begun rfl rfl⟩
  | move there moves =>
      obtain ⟨ok, slot, counted⟩ := move_ok s free t pooled _ there rfl moves
      exact ⟨free, pooled_goto s free t pooled there ok slot counted⟩
  | return_ event returns =>
      obtain ⟨slot, counted⟩ := return_slot s t _ event returns
      exact ⟨free, pooled_goto s free t pooled .idle trivial slot.symm counted.symm⟩
  | write events next writes => exact pooled_write s free t pooled _ rfl events s' writes

end Steps

section Inversion

variable [DecidableEq Tid] (s : PoolState Tid) (t : Tid) (events : List (PoolEvent Tid)) (s' : PoolState Tid)

-- Only an idle thread begins a call.
theorem called_step (step : PoolStep s t events s') (here : PoolPc) (at_ : s.pc t = here) (busy : here ≠ .idle) :
    (∃ there, PoolMove s here there ∧ events = [] ∧ s' = s.goto t there) ∨
      (∃ event, PoolReturn s t here event ∧ events = [event] ∧ s' = s.goto t .idle) ∨ PoolWrite s t here events s' := by
  rw [← at_] at busy ⊢
  cases step with
  | move there moves => exact .inl ⟨there, moves, rfl, rfl⟩
  | return_ event returns => exact .inr (.inl ⟨event, returns, rfl, rfl⟩)
  | write events next writes => exact .inr (.inr writes)
  | unnamed _ _ idle => exact absurd idle busy
  | allocate _ idle => exact absurd idle busy
  | release _ idle => exact absurd idle busy
  | outside _ _ idle => exact absurd idle busy
  | identify _ _ idle => exact absurd idle busy
  | beginClose idle => exact absurd idle busy
  | waitUntilIdle idle => exact absurd idle busy

-- A step moves its own thread, and at most wakes the others.
theorem step_others (step : PoolStep s t events s') (t' : Tid) (other : t' ≠ t) :
    s'.pc t' = s.pc t' ∨ ∃ c, s.pc t' = .asleep c ∧ s'.pc t' = .comparing c := by
  have woken : wakeAll s.pc t' = s.pc t' ∨ ∃ c, s.pc t' = .asleep c ∧ wakeAll s.pc t' = .comparing c := by
    unfold wakeAll
    cases s.pc t' with
    | asleep c => exact .inr ⟨c, rfl, rfl⟩
    | _ => exact .inl rfl
  cases step with
  | unnamed | outside => exact .inl rfl
  | allocate | release | identify | beginClose | waitUntilIdle | move | return_ => exact .inl (Function.update_of_ne other ..)
  | write events next writes =>
      generalize s.pc t = here at writes
      cases writes with
      | notify p =>
          show Function.update (wakeAll s.pc) t _ t' = _ ∨ ∃ c, _ ∧ Function.update (wakeAll s.pc) t _ t' = _
          rw [Function.update_of_ne other]
          exact woken
      | announce =>
          show Function.update (wakeAll s.pc) t _ t' = _ ∨ ∃ c, _ ∧ Function.update (wakeAll s.pc) t _ t' = _
          rw [Function.update_of_ne other]
          exact woken
      | _ => exact .inl (Function.update_of_ne other ..)

theorem config_step (step : PoolStep s t events s') : s'.config = s.config := by
  cases step with
  | write events next writes =>
      generalize s.pc t = here at writes
      cases writes <;> rfl
  | _ => rfl

end Inversion

theorem pooled_run [DecidableEq Tid] (trace : List (PoolEvent Tid)) (s : PoolState Tid) (run : (poolMachine Tid).Run trace s) :
    ∃ free, Pooled s free := by
  refine run_invariant (poolMachine Tid) (fun _ s => ∃ free, Pooled s free) ?_ ?_ trace s run
  · rintro s ⟨deviceId, poolId, slotCount, base, created⟩
    rw [created_fresh s deviceId poolId slotCount base created]
    exact ⟨_, pooled_fresh s.config⟩
  · rintro _ s t events s' ⟨free, pooled⟩ step
    exact pooled_step s free t pooled events s' step

end Cabe
