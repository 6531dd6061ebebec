import Cabe.BlockAllocator

set_option autoImplicit false

namespace Cabe

open Storage

def RingBlockAllocator.available (a : RingBlockAllocator) : Nat := a.size

-- Indices inside the device, none of them twice.
structure Clean (blockCount : Nat) (ids : List BlockId) : Prop where
  inside : ∀ id ∈ ids, id.blockIdx < blockCount
  once : (ids.map BlockId.blockIdx).Nodup

-- The first element of the list that a rebuild cannot accept, and its code.
inductive Offends (blockCount : Nat) (before : List BlockId) (id : BlockId) : Rc → Prop
  | outOfRange (outside : blockCount ≤ id.blockIdx) : Offends blockCount before id Err.kEngineBlockOutOfRange
  | duplicate (inside : id.blockIdx < blockCount) (twice : id.blockIdx ∈ before.map BlockId.blockIdx) :
      Offends blockCount before id Err.kEngineDuplicateBlock

def FirstOffence (blockCount : Nat) (active : List BlockId) (rc : Rc) : Prop :=
  ∃ before id after, active = before ++ id :: after ∧ Clean blockCount before ∧ Offends blockCount before id rc

theorem clean_snoc (blockCount : Nat) (before : List BlockId) (id : BlockId) (clean : Clean blockCount before)
    (inside : id.blockIdx < blockCount) (fresh : id.blockIdx ∉ before.map BlockId.blockIdx) : Clean blockCount (before ++ [id]) := by
  refine ⟨?_, ?_⟩
  · intro other member
    rcases List.mem_append.mp member with old | new
    · exact clean.inside other old
    · rw [List.mem_singleton.mp new]
      exact inside
  · rw [List.map_append, List.nodup_append']
    exact ⟨clean.once, List.nodup_singleton _, by simpa using fresh⟩

theorem clean_part (blockCount : Nat) (a b : List BlockId) (part : a <+: b) (clean : Clean blockCount b) : Clean blockCount a :=
  ⟨fun id member => clean.inside id (part.subset member), clean.once.sublist (part.sublist.map _)⟩

-- The marks are those of the elements that were accepted so far.
structure Marks (blockCount : Nat) (seen : List BlockId) (used : List Bool) : Prop where
  length : used.length = blockCount
  marked : ∀ i, used[i]? = some true ↔ i ∈ seen.map BlockId.blockIdx
  clean : Clean blockCount seen

theorem marks_none (blockCount : Nat) : Marks blockCount [] (List.replicate blockCount false) := by
  refine ⟨by simp, ?_, ⟨by simp, by simp⟩⟩
  intro i
  simp only [List.map_nil, List.not_mem_nil, iff_false]
  intro found
  cases List.eq_of_mem_replicate (List.mem_of_getElem? found)

theorem marks_snoc (blockCount : Nat) (seen : List BlockId) (used : List Bool) (id : BlockId) (marks : Marks blockCount seen used)
    (inside : id.blockIdx < blockCount) (fresh : used[id.blockIdx]? ≠ some true) :
    Marks blockCount (seen ++ [id]) (used.set id.blockIdx true) := by
  have bound : id.blockIdx < used.length := marks.length ▸ inside
  refine ⟨by simpa using marks.length, ?_, clean_snoc _ _ _ marks.clean inside (mt (marks.marked _).mpr fresh)⟩
  intro i
  rw [List.map_append, List.mem_append, ← marks.marked i, List.map_singleton, List.mem_singleton]
  by_cases same : id.blockIdx = i
  · subst same
    simp [List.getElem?_set_self bound]
  · rw [List.getElem?_set_ne same]
    exact ⟨.inl, fun either => either.resolve_right (Ne.symm same)⟩

theorem mark_used_outcome (blockCount : Nat) (rest : List BlockId) : ∀ (seen : List BlockId) (used : List Bool),
    Marks blockCount seen used →
    (∃ marked, markUsed blockCount used rest = .ok marked ∧ Clean blockCount (seen ++ rest)) ∨
    ∃ rc before id after, markUsed blockCount used rest = .error rc ∧ rest = before ++ id :: after ∧
      Clean blockCount (seen ++ before) ∧ Offends blockCount (seen ++ before) id rc := by
  induction rest with
  | nil =>
      intro seen used marks
      exact .inl ⟨used, rfl, by simpa using marks.clean⟩
  | cons id rest ih =>
      intro seen used marks
      rw [markUsed]
      by_cases outside : id.blockIdx ≥ blockCount
      · rw [if_pos outside]
        exact .inr ⟨_, [], id, rest, rfl, rfl, by simpa using marks.clean, .outOfRange outside⟩
      · rw [if_neg outside]
        have inside : id.blockIdx < blockCount := by omega
        by_cases twice : used[id.blockIdx]? = some true
        · rw [if_pos twice]
          exact .inr ⟨_, [], id, rest, rfl, rfl, by simpa using marks.clean,
            .duplicate inside (by simpa using (marks.marked _).mp twice)⟩
        · rw [if_neg twice]
          rcases ih (seen ++ [id]) _ (marks_snoc _ _ _ _ marks inside twice) with ⟨marked, done, clean⟩ | ⟨rc, before, bad, after, done, split,
            clean, offends⟩
          · exact .inl ⟨marked, done, by simpa using clean⟩
          · exact .inr ⟨rc, id :: before, bad, after, done, by rw [split, List.cons_append], by simpa using clean, by simpa using offends⟩

theorem offends_unclean (blockCount : Nat) (before after : List BlockId) (id : BlockId) (rc : Rc)
    (offends : Offends blockCount before id rc) (clean : Clean blockCount (before ++ id :: after)) : False := by
  cases offends with
  | outOfRange outside =>
      have inside := clean.inside id (by simp)
      omega
  | duplicate inside twice =>
      have once := clean.once
      rw [List.map_append, List.map_cons, List.nodup_append'] at once
      exact once.2.2 twice (by simp)

-- There is one first offence.
theorem first_offence_unique (blockCount : Nat) (active : List BlockId) (a b : Rc) (left : FirstOffence blockCount active a)
    (right : FirstOffence blockCount active b) : a = b := by
  obtain ⟨beforeA, idA, afterA, splitA, cleanA, offendsA⟩ := left
  obtain ⟨beforeB, idB, afterB, splitB, cleanB, offendsB⟩ := right
  have shorter (c d e f : List BlockId) (x y : BlockId) (rc : Rc) (same : c ++ x :: e = d ++ y :: f) (less : c.length < d.length)
      (clean : Clean blockCount d) (offends : Offends blockCount c x rc) : False := by
    have part : c ++ [x] <+: d := by
      have whole : c ++ [x] <+: d ++ y :: f := ⟨e, by simpa using same⟩
      exact List.prefix_of_prefix_length_le whole (List.prefix_append d _) (by
        rw [List.length_append, List.length_singleton]
        omega)
    exact offends_unclean blockCount c [] x rc offends (clean_part _ _ _ part clean)
  rcases Nat.lt_trichotomy beforeA.length beforeB.length with less | same | more
  · exact (shorter _ _ _ _ _ _ _ (splitA.symm.trans splitB) less cleanB offendsA).elim
  · obtain ⟨heads, tails⟩ := List.append_inj (splitA.symm.trans splitB) same
    cases heads
    cases tails
    cases offendsA with
    | outOfRange outside =>
        cases offendsB with
        | outOfRange => rfl
        | duplicate inside => omega
    | duplicate inside =>
        cases offendsB with
        | outOfRange outside => omega
        | duplicate => rfl
  · exact (shorter _ _ _ _ _ _ _ (splitB.symm.trans splitA) more cleanA offendsB).elim

-- What the callers do with the allocator, and what they see: each Acquire's
-- answer and the number of available blocks after each call.
inductive AllocatorCall where
  | acquire
  | recycle (id : BlockId)

inductive AllocatorAnswer where
  | acquired (out : Except Rc BlockId) (available : Nat)
  | recycled (available : Nat)

def RingBlockAllocator.answers (a : RingBlockAllocator) : List AllocatorCall → List AllocatorAnswer
  | [] => []
  | .acquire :: calls =>
      match a.acquire with
      | .error rc => .acquired (.error rc) a.available :: a.answers calls
      | .ok (id, next) => .acquired (.ok id) next.available :: RingBlockAllocator.answers next calls
  | .recycle id :: calls => .recycled (a.recycle id).available :: RingBlockAllocator.answers (a.recycle id) calls

-- The same calls on a plain queue.
def queueAnswers : List BlockId → List AllocatorCall → List AllocatorAnswer
  | _, [] => []
  | [], .acquire :: calls => .acquired (.error Err.kEngineNoSpace) 0 :: queueAnswers [] calls
  | id :: rest, .acquire :: calls => .acquired (.ok id) rest.length :: queueAnswers rest calls
  | free, .recycle id :: calls => .recycled (free.length + 1) :: queueAnswers (free ++ [id]) calls

-- A block is given back only while it is outstanding.
def Fair : List BlockId → List BlockId → List AllocatorCall → Prop
  | _, _, [] => True
  | [], out, .acquire :: calls => Fair [] out calls
  | id :: rest, out, .acquire :: calls => Fair rest (id :: out) calls
  | free, out, .recycle id :: calls => id ∈ out ∧ Fair (free ++ [id]) (out.erase id) calls

theorem queue_size (a : RingBlockAllocator) (items : List BlockId) (held : a.Holds items) : a.available = items.length := by
  have same := congrArg List.length (queue_items a items held)
  rw [CircularQueue.items, List.length_map, List.length_range] at same
  exact same

-- The ring and the queue answer alike as long as free and outstanding blocks
-- are together no more than the ring has slots for.
theorem answers_queue (calls : List AllocatorCall) : ∀ (a : RingBlockAllocator) (free out : List BlockId), a.Holds free →
    free.length + out.length < a.capacity → Fair free out calls → a.answers calls = queueAnswers free calls := by
  induction calls with
  | nil =>
      intro a free out _ _ _
      cases free <;> rfl
  | cons call calls ih =>
      intro a free out held room fair
      cases call with
      | acquire =>
          cases free with
          | nil =>
              have empty := queue_pop_nil a held
              simp only [RingBlockAllocator.answers, RingBlockAllocator.acquire, empty, queueAnswers]
              rw [queue_size a [] held, ih a [] out held room fair]
              rfl
          | cons id rest =>
              obtain ⟨next, popped, kept, capacity⟩ := queue_pop_cons a id rest held
              rw [List.length_cons] at room
              simp only [RingBlockAllocator.answers, RingBlockAllocator.acquire, popped, queueAnswers]
              rw [queue_size next rest kept, ih next rest (id :: out) kept (by rw [capacity, List.length_cons]; omega) fair]
      | recycle id =>
          rw [Fair] at fair
          have less := List.length_erase_of_mem fair.1
          have some_ := List.length_pos_of_mem fair.1
          have held' : (a.recycle id).Holds (free ++ [id]) := queue_push a free id held (by omega)
          have capacity : (a.recycle id).capacity = a.capacity := rfl
          rw [RingBlockAllocator.answers, queueAnswers, queue_size _ _ held', ih (a.recycle id) (free ++ [id]) (out.erase id) held' (by
            rw [capacity, List.length_append, List.length_singleton]
            omega) fair.2]
          simp

def AllocatorAnswer.out : AllocatorAnswer → Option (Except Rc BlockId)
  | .acquired out _ => some out
  | .recycled _ => none

-- Acquire alone is always allowed. It hands out the queue and then refuses.
theorem fair_acquires (n : Nat) : ∀ free out : List BlockId, Fair free out (List.replicate n .acquire) := by
  induction n with
  | zero =>
      intro free out
      cases free <;> exact trivial
  | succ n ih =>
      intro free out
      cases free with
      | nil => exact ih [] out
      | cons id rest => exact ih rest (id :: out)

theorem queue_drained (k : Nat) (free : List BlockId) :
    (queueAnswers free (List.replicate (free.length + k) .acquire)).filterMap AllocatorAnswer.out =
      free.map .ok ++ List.replicate k (.error Err.kEngineNoSpace) := by
  induction free with
  | nil =>
      rw [List.length_nil, Nat.zero_add, List.map_nil, List.nil_append]
      induction k with
      | zero => rfl
      | succ k ih =>
          rw [List.replicate_succ, List.replicate_succ, queueAnswers, List.filterMap_cons, AllocatorAnswer.out, ih]
  | cons id rest ih =>
      rw [List.length_cons, Nat.succ_add, List.replicate_succ, queueAnswers, List.filterMap_cons, AllocatorAnswer.out, ih]
      rfl

theorem idle_count (dev : DeviceId) (blockCount : Nat) (active : List BlockId) (clean : Clean blockCount active) :
    (idleBlocks dev blockCount active).length + active.length = blockCount := by
  have inRange : (active.map BlockId.blockIdx).Perm ((List.range blockCount).filter fun i => !decide (i ∉ active.map BlockId.blockIdx)) := by
    apply (List.perm_ext_iff_of_nodup clean.once (List.nodup_range.filter _)).mpr
    intro i
    rw [List.mem_filter, List.mem_range]
    constructor
    · intro member
      obtain ⟨id, busy, rfl⟩ := List.mem_map.mp member
      exact ⟨clean.inside id busy, by simpa using ⟨id, busy, rfl⟩⟩
    · rintro ⟨_, named⟩
      simpa using named
  have parts := List.length_eq_length_filter_add (l := List.range blockCount) (fun i => decide (i ∉ active.map BlockId.blockIdx))
  have count := inRange.length_eq
  rw [idleBlocks, List.length_map]
  rw [List.length_map] at count
  rw [List.length_range] at parts
  omega

theorem rebuild_exact (dev : DeviceId) (blockCount : Nat) (active : List BlockId) :
    ((RingBlockAllocator.rebuildFromActive dev blockCount active).1 = Err.kSuccess ↔ Clean blockCount active) ∧
    (∀ rc, (RingBlockAllocator.rebuildFromActive dev blockCount active).1 = rc ∧
        (rc = Err.kEngineBlockOutOfRange ∨ rc = Err.kEngineDuplicateBlock) ↔ FirstOffence blockCount active rc) ∧
    (blockCount ≤ 2 ^ 56 → (idleBlocks dev blockCount active).map (fun id => (id.dev, id.blockIdx)) =
      ((List.range blockCount).filter fun i => decide (i ∉ active.map BlockId.blockIdx)).map fun i => (dev, i)) ∧
    (Clean blockCount active →
      (RingBlockAllocator.rebuildFromActive dev blockCount active).2.available = blockCount - active.length ∧
      (∀ k, ((RingBlockAllocator.rebuildFromActive dev blockCount active).2.answers
          (List.replicate (blockCount - active.length + k) .acquire)).filterMap AllocatorAnswer.out =
        (idleBlocks dev blockCount active).map .ok ++ List.replicate k (.error Err.kEngineNoSpace)) ∧
      ∀ calls, Fair (idleBlocks dev blockCount active) active calls →
        (RingBlockAllocator.rebuildFromActive dev blockCount active).2.answers calls =
          queueAnswers (idleBlocks dev blockCount active) calls) := by
  have outcome := mark_used_outcome blockCount active [] _ (marks_none blockCount)
  have named : blockCount ≤ 2 ^ 56 → (idleBlocks dev blockCount active).map (fun id => (id.dev, id.blockIdx)) =
      ((List.range blockCount).filter fun i => decide (i ∉ active.map BlockId.blockIdx)).map fun i => (dev, i) := by
    intro fits
    rw [idleBlocks, List.map_map]
    apply List.map_congr_left
    intro i member
    have bound : i < blockCount := List.mem_range.mp (List.mem_of_mem_filter member)
    simp only [Function.comp_apply, block_make_dev dev i (by omega), block_make_idx dev i (by omega)]
  rcases outcome with ⟨marked, done, clean⟩ | ⟨rc, before, id, after, done, split, clean, offends⟩
  · rw [List.nil_append] at clean
    obtain ⟨success, held, capacity⟩ := rebuild_holds dev blockCount active marked done
    have count := idle_count dev blockCount active clean
    have fifo (calls : List AllocatorCall) (fair : Fair (idleBlocks dev blockCount active) active calls) :=
      answers_queue calls _ _ active held (by omega) fair
    refine ⟨iff_of_true success clean, ?_, named, fun _ => ⟨?_, ?_, fifo⟩⟩
    · intro rc
      constructor
      · rintro ⟨same, either⟩
        rw [← same, success] at either
        exact absurd either (by decide)
      · rintro ⟨before, id, after, split, _, offends⟩
        exact (offends_unclean blockCount before after id rc offends (split ▸ clean)).elim
    · rw [queue_size _ _ held]
      omega
    · intro k
      rw [fifo _ (fair_acquires _ _ _), show blockCount - active.length = (idleBlocks dev blockCount active).length by omega]
      exact queue_drained k _
  · rw [List.nil_append] at clean offends
    have refused : (RingBlockAllocator.rebuildFromActive dev blockCount active).1 = rc := by
      rw [RingBlockAllocator.rebuildFromActive, done]
    have unclean : ¬ Clean blockCount active := fun all => offends_unclean blockCount before after id rc offends (split ▸ all)
    have offence : FirstOffence blockCount active rc := ⟨before, id, after, split, clean, offends⟩
    have code : rc = Err.kEngineBlockOutOfRange ∨ rc = Err.kEngineDuplicateBlock := by
      cases offends with
      | outOfRange => exact .inl rfl
      | duplicate => exact .inr rfl
    refine ⟨iff_of_false ?_ unclean, ?_, named, fun all => absurd all unclean⟩
    · rw [refused]
      rcases code with rfl | rfl <;> decide
    · intro other
      rw [refused]
      constructor
      · rintro ⟨rfl, _⟩
        exact offence
      · intro found
        have same := first_offence_unique blockCount active rc other offence found
        exact ⟨same, same ▸ code⟩

example : idleBlocks 3 5 [.make 3 1, .make 3 3] = [.make 3 0, .make 3 2, .make 3 4] := by decide

end Cabe
