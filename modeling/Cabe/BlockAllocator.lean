import Mathlib.Data.List.Perm.Basic
import Cabe.Common
import Cabe.Storage.Queue

set_option autoImplicit false

namespace Cabe

open Storage

-- The free blocks, oldest first.
abbrev RingBlockAllocator := CircularQueue BlockId

def RingBlockAllocator.init (dev : DeviceId) (blockCount : Nat) : Rc × RingBlockAllocator :=
  (Err.kSuccess, (List.range blockCount).foldl (fun q i => q.push (BlockId.make dev i)) (.empty (blockCount + 1)))

def RingBlockAllocator.acquire (a : RingBlockAllocator) : Except Rc (BlockId × RingBlockAllocator) :=
  match a.pop with
  | none => .error Err.kEngineNoSpace
  | some taken => .ok taken

def RingBlockAllocator.recycle (a : RingBlockAllocator) (id : BlockId) : RingBlockAllocator := a.push id

def markUsed (blockCount : Nat) : List Bool → List BlockId → Except Rc (List Bool)
  | used, [] => .ok used
  | used, bid :: rest =>
      if bid.blockIdx ≥ blockCount then .error Err.kEngineBlockOutOfRange
      else if used[bid.blockIdx]? = some true then .error Err.kEngineDuplicateBlock
      else markUsed blockCount (used.set bid.blockIdx true) rest

-- A refused rebuild leaves the queue empty.
def RingBlockAllocator.rebuildFromActive (dev : DeviceId) (blockCount : Nat) (active : List BlockId) : Rc × RingBlockAllocator :=
  match markUsed blockCount (List.replicate blockCount false) active with
  | .error rc => (rc, .empty (blockCount + 1))
  | .ok used =>
      (Err.kSuccess, (List.range blockCount).foldl
        (fun q i => if used[i]? = some true then q else q.push (BlockId.make dev i)) (.empty (blockCount + 1)))

-- The blocks of a device, each once.
def deviceBlocks (dev : DeviceId) (blockCount : Nat) : List BlockId := (List.range blockCount).map (BlockId.make dev)

theorem device_blocks_nodup (dev : DeviceId) (blockCount : Nat) (fits : blockCount ≤ 2 ^ 56) :
    (deviceBlocks dev blockCount).Nodup := by
  apply List.Nodup.map_on _ List.nodup_range
  intro i memberI j memberJ same
  have boundI : i < blockCount := List.mem_range.mp memberI
  have boundJ : j < blockCount := List.mem_range.mp memberJ
  exact block_make_injective dev i j (by omega) (by omega) same

theorem mem_device_blocks (dev : DeviceId) (blockCount : Nat) (id : BlockId) (fits : blockCount ≤ 2 ^ 56) :
    id ∈ deviceBlocks dev blockCount ↔ id.dev = dev ∧ id.blockIdx < blockCount := by
  constructor
  · intro member
    obtain ⟨i, inside, rfl⟩ := List.mem_map.mp member
    have bound : i < blockCount := List.mem_range.mp inside
    exact ⟨block_make_dev dev i (by omega), by rw [block_make_idx dev i (by omega)]; exact bound⟩
  · rintro ⟨here, bound⟩
    refine List.mem_map.mpr ⟨id.blockIdx, List.mem_range.mpr bound, ?_⟩
    rw [← here]
    exact block_make_parts id

-- The free blocks and those in use are together the blocks of the device.
structure Conserved (dev : DeviceId) (blockCount : Nat) (a : RingBlockAllocator) (used : List BlockId) : Prop where
  capacity : a.capacity = blockCount + 1
  free : ∃ items, a.Holds items ∧ (items ++ used).Perm (deviceBlocks dev blockCount)

theorem conserved_perm (dev : DeviceId) (blockCount : Nat) (a : RingBlockAllocator) (used used' : List BlockId)
    (conserved : Conserved dev blockCount a used) (same : used.Perm used') : Conserved dev blockCount a used' := by
  obtain ⟨items, held, perm⟩ := conserved.free
  exact ⟨conserved.capacity, items, held, (same.symm.append_left items).trans perm⟩

theorem init_conserved (dev : DeviceId) (blockCount : Nat) :
    Conserved dev blockCount (RingBlockAllocator.init dev blockCount).2 [] := by
  have start := queue_empty (α := BlockId) (blockCount + 1) (by omega)
  obtain ⟨all, capacity⟩ := queue_push_all (deviceBlocks dev blockCount) _ [] start (by
    simp [deviceBlocks, CircularQueue.empty])
  rw [deviceBlocks, List.foldl_map] at all capacity
  exact ⟨capacity, _, all, by rw [List.nil_append, List.append_nil]; exact List.Perm.refl _⟩

theorem acquire_conserved (dev : DeviceId) (blockCount : Nat) (a next : RingBlockAllocator) (id : BlockId) (used : List BlockId)
    (conserved : Conserved dev blockCount a used) (taken : a.acquire = .ok (id, next)) :
    Conserved dev blockCount next (id :: used) := by
  obtain ⟨items, held, perm⟩ := conserved.free
  cases items with
  | nil => simp [RingBlockAllocator.acquire, queue_pop_nil a held] at taken
  | cons first rest =>
      obtain ⟨after, popped, kept, capacity⟩ := queue_pop_cons a first rest held
      simp only [RingBlockAllocator.acquire, popped, Except.ok.injEq, Prod.mk.injEq] at taken
      obtain ⟨rfl, rfl⟩ := taken
      exact ⟨capacity.trans conserved.capacity, rest, kept, (@List.perm_middle _ _ rest _).trans perm⟩

theorem acquire_error (a : RingBlockAllocator) (rc : Rc) (refused : a.acquire = .error rc) : rc = Err.kEngineNoSpace := by
  unfold RingBlockAllocator.acquire at refused
  cases popped : a.pop with
  | none => simpa [popped] using refused.symm
  | some taken => simp [popped] at refused

-- A block in use can be given back: there is a slot left for it.
theorem recycle_conserved (dev : DeviceId) (blockCount : Nat) (a : RingBlockAllocator) (id : BlockId) (used : List BlockId)
    (conserved : Conserved dev blockCount a (id :: used)) : Conserved dev blockCount (a.recycle id) used := by
  obtain ⟨items, held, perm⟩ := conserved.free
  have count := perm.length_eq
  simp only [List.length_append, List.length_cons, deviceBlocks, List.length_map, List.length_range] at count
  refine ⟨conserved.capacity, items ++ [id], queue_push a items id held (by rw [conserved.capacity]; omega), ?_⟩
  rw [List.append_assoc]
  exact perm

theorem mark_used_ok (blockCount : Nat) (active : List BlockId) : ∀ (used marked : List Bool), used.length = blockCount →
    markUsed blockCount used active = .ok marked →
    marked.length = blockCount ∧ (∀ id ∈ active, id.blockIdx < blockCount) ∧ (active.map BlockId.blockIdx).Nodup ∧
      (∀ id ∈ active, used[id.blockIdx]? ≠ some true) ∧
      ∀ i, marked[i]? = some true ↔ used[i]? = some true ∨ i ∈ active.map BlockId.blockIdx := by
  induction active with
  | nil =>
      intro used marked len done
      cases done
      exact ⟨len, by simp, by simp, by simp, by simp⟩
  | cons id rest ih =>
      intro used marked len done
      rw [markUsed] at done
      by_cases outside : id.blockIdx ≥ blockCount
      · simp [outside] at done
      · by_cases twice : used[id.blockIdx]? = some true
        · simp [outside, twice] at done
        · rw [if_neg outside, if_neg twice] at done
          obtain ⟨length, bounds, nodup, unused, exactly⟩ := ih _ _ (by simpa using len) done
          have inside : id.blockIdx < used.length := by omega
          have fresh : id.blockIdx ∉ rest.map BlockId.blockIdx := by
            intro member
            obtain ⟨other, member, same⟩ := List.mem_map.mp member
            apply unused other member
            rw [same, List.getElem?_set_self inside]
          refine ⟨length, ?_, List.nodup_cons.mpr ⟨fresh, nodup⟩, ?_, ?_⟩
          · intro other member
            rcases List.mem_cons.mp member with rfl | later
            · omega
            · exact bounds other later
          · intro other member
            rcases List.mem_cons.mp member with rfl | later
            · exact twice
            · intro marked
              apply unused other later
              by_cases same : id.blockIdx = other.blockIdx
              · rw [← same, List.getElem?_set_self inside]
              · rw [List.getElem?_set_ne same]
                exact marked
          · intro i
            rw [exactly i, List.map_cons, List.mem_cons]
            by_cases same : id.blockIdx = i
            · subst same
              simp [List.getElem?_set_self inside]
            · rw [List.getElem?_set_ne same]
              constructor
              · rintro (old | later)
                · exact .inl old
                · exact .inr (.inr later)
              · rintro (old | rfl | later)
                · exact .inl old
                · exact absurd rfl same
                · exact .inr later

theorem mark_used_error (blockCount : Nat) (rc : Rc) (active : List BlockId) : ∀ used : List Bool,
    markUsed blockCount used active = .error rc → rc ≠ Err.kSuccess := by
  induction active with
  | nil =>
      intro used refused
      cases refused
  | cons id rest ih =>
      intro used refused
      rw [markUsed] at refused
      split at refused
      · cases refused
        decide
      · split at refused
        · cases refused
          decide
        · exact ih _ refused

-- The blocks that no active one names, ascending.
def idleBlocks (dev : DeviceId) (blockCount : Nat) (active : List BlockId) : List BlockId :=
  ((List.range blockCount).filter fun i => decide (i ∉ active.map BlockId.blockIdx)).map (BlockId.make dev)

theorem rebuild_holds (dev : DeviceId) (blockCount : Nat) (active : List BlockId) (used : List Bool)
    (marked : markUsed blockCount (List.replicate blockCount false) active = .ok used) :
    (RingBlockAllocator.rebuildFromActive dev blockCount active).1 = Err.kSuccess ∧
      (RingBlockAllocator.rebuildFromActive dev blockCount active).2.Holds (idleBlocks dev blockCount active) ∧
      (RingBlockAllocator.rebuildFromActive dev blockCount active).2.capacity = blockCount + 1 := by
  obtain ⟨_, _, _, _, exactly⟩ := mark_used_ok blockCount active _ used (by simp) marked
  have idle : ∀ i, used[i]? = some true ↔ ¬ decide (i ∉ active.map BlockId.blockIdx) = true := by
    intro i
    have unmarked : ¬ (List.replicate blockCount false)[i]? = some true := by
      intro found
      cases List.eq_of_mem_replicate (List.mem_of_getElem? found)
    rw [exactly i, or_iff_right unmarked, decide_eq_true_iff, not_not]
  have skipped : (List.range blockCount).foldl
      (fun (q : RingBlockAllocator) i => if used[i]? = some true then q else q.push (BlockId.make dev i)) (.empty (blockCount + 1)) =
      (idleBlocks dev blockCount active).foldl CircularQueue.push (.empty (blockCount + 1)) := by
    rw [idleBlocks, List.foldl_map, List.foldl_filter]
    congr 1
    funext q i
    simp only [idle i, ite_not]
  have start := queue_empty (α := BlockId) (blockCount + 1) (by omega)
  have count : (idleBlocks dev blockCount active).length ≤ blockCount := by
    rw [idleBlocks, List.length_map]
    exact (List.length_filter_le _ _).trans_eq List.length_range
  obtain ⟨all, capacity⟩ := queue_push_all (idleBlocks dev blockCount active) _ [] start (by
    simp only [List.length_nil, CircularQueue.empty]
    omega)
  rw [RingBlockAllocator.rebuildFromActive, marked]
  dsimp only
  rw [skipped]
  exact ⟨rfl, all, capacity⟩

-- A rebuilt queue holds the blocks that no active one names.
theorem rebuild_conserved (dev : DeviceId) (blockCount : Nat) (active : List BlockId) (fits : blockCount ≤ 2 ^ 56)
    (here : ∀ id ∈ active, id.dev = dev)
    (done : (RingBlockAllocator.rebuildFromActive dev blockCount active).1 = Err.kSuccess) :
    Conserved dev blockCount (RingBlockAllocator.rebuildFromActive dev blockCount active).2 active ∧ active.Nodup := by
  cases marked : markUsed blockCount (List.replicate blockCount false) active with
  | error rc =>
      rw [RingBlockAllocator.rebuildFromActive, marked] at done
      exact absurd done (mark_used_error blockCount rc active _ marked)
  | ok used =>
      obtain ⟨_, bounds, nodup, _, _⟩ := mark_used_ok blockCount active _ used (by simp) marked
      obtain ⟨_, held, capacity⟩ := rebuild_holds dev blockCount active used marked
      have mem : ∀ id, id ∈ idleBlocks dev blockCount active ↔ id ∈ deviceBlocks dev blockCount ∧ id ∉ active := by
        intro id
        constructor
        · intro member
          obtain ⟨i, inside, rfl⟩ := List.mem_map.mp member
          obtain ⟨range, free⟩ := List.mem_filter.mp inside
          refine ⟨List.mem_map_of_mem range, fun busy => of_decide_eq_true free ?_⟩
          have bound : i < blockCount := List.mem_range.mp range
          have named := List.mem_map_of_mem (f := BlockId.blockIdx) busy
          rwa [block_make_idx dev i (by omega)] at named
        · rintro ⟨member, free⟩
          obtain ⟨i, range, rfl⟩ := List.mem_map.mp member
          refine List.mem_map_of_mem (List.mem_filter.mpr ⟨range, decide_eq_true fun named => free ?_⟩)
          obtain ⟨other, busy, same⟩ := List.mem_map.mp named
          rw [← same, ← here other busy, block_make_parts]
          exact busy
      have activeNodup : active.Nodup := List.Nodup.of_map BlockId.blockIdx nodup
      have blocksNodup := device_blocks_nodup dev blockCount fits
      have idleNodup : (idleBlocks dev blockCount active).Nodup := blocksNodup.sublist (List.filter_sublist.map _)
      have perm : (idleBlocks dev blockCount active ++ active).Perm (deviceBlocks dev blockCount) := by
        apply (List.perm_ext_iff_of_nodup _ blocksNodup).mpr
        · intro id
          rw [List.mem_append, mem id]
          constructor
          · rintro (⟨member, _⟩ | busy)
            · exact member
            · exact (mem_device_blocks dev blockCount id fits).mpr ⟨here id busy, bounds id busy⟩
          · intro member
            by_cases busy : id ∈ active
            · exact .inr busy
            · exact .inl ⟨member, busy⟩
        · exact List.nodup_append'.mpr ⟨idleNodup, activeNodup, fun id free busy => ((mem id).mp free).2 busy⟩
      exact ⟨⟨capacity, _, held, perm⟩, activeNodup⟩

end Cabe
