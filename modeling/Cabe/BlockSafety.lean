import Cabe.StoreServed

set_option autoImplicit false

namespace Cabe

open Storage Concurrency

-- A queue with room to spare never closes up when a block is given back.
theorem recycle_not_empty (dev : DeviceId) (blockCount : Nat) (a : RingBlockAllocator) (id : BlockId) (used : List BlockId)
    (conserved : Conserved dev blockCount a (id :: used)) : (a.recycle id).head ≠ (a.recycle id).tail := by
  obtain ⟨items, held, perm⟩ := conserved.free
  have count := perm.length_eq
  simp only [List.length_append, List.length_cons, deviceBlocks, List.length_map, List.length_range] at count
  have pushed := queue_push a items id held (by rw [conserved.capacity]; omega)
  intro same
  have none_ : (a.push id).pop = none := by
    unfold CircularQueue.pop
    exact if_pos same
  cases items with
  | nil =>
      obtain ⟨_, popped, _⟩ := queue_pop_cons (a.push id) id [] pushed
      rw [popped] at none_
      cases none_
  | cons first rest =>
      obtain ⟨_, popped, _⟩ := queue_pop_cons (a.push id) first (rest ++ [id]) pushed
      rw [popped] at none_
      cases none_

-- What holds in every state between two calls of an operation.
structure BlocksOwned (sb : SuperBlock) (s : Running) : Prop where
  queue : s.reactor.dc.blockAllocator.Holds s.reactor.dc.blockAllocator.items
  disjoint : (s.reactor.dc.blockAllocator.items ++ s.reactor.dc.metaIndex.blocks ++ s.stage.held).Nodup
  exactly : ∀ id, id ∈ s.reactor.dc.blockAllocator.items ++ s.reactor.dc.metaIndex.blocks ++ s.stage.held ↔
    ∃ i < sb.blockCount, id = BlockId.make sb.dev i
  distinct : ∀ a b metaA metaB, s.reactor.dc.metaIndex.lookup a = some metaA → s.reactor.dc.metaIndex.lookup b = some metaB →
    metaA.block = metaB.block → a = b
  room : s.reactor.dc.blockAllocator.capacity = sb.blockCount + 1 ∧ s.reactor.dc.blockAllocator.items.length ≤ sb.blockCount
  recycled : ∀ id ∈ s.stage.held, (s.reactor.dc.blockAllocator.recycle id).head ≠ (s.reactor.dc.blockAllocator.recycle id).tail
  buffers : s.stage.between → s.reactor.dc.pool.freeList = List.range kDefaultPoolBlocks
  refused : ∀ reply, s.stage = .finished reply → reply.rc ≠ Err.kSuccess →
    s.reactor.dc.metaIndex = s.before.metaIndex ∧
      ∀ id, id ∈ s.reactor.dc.blockAllocator.items ↔ id ∈ s.before.blockAllocator.items
  whole : ∀ env req, Reactor.Calls env (.started req, s.reactor)
    (.finished (s.reactor.execute env req).1, (s.reactor.execute env req).2)

theorem block_count_fits (sb : SuperBlock) (trace : List Reply) (s : Running) (run : (deviceMachine sb).Run trace s) :
    sb.blockCount < 2 ^ 44 := by
  refine run_invariant (deviceMachine sb) (fun _ _ => sb.blockCount < 2 ^ 44) ?_ (fun _ _ _ _ _ small _ => small) trace s run
  rintro ⟨env, stage, r, before⟩ ⟨_, _, env', group, word, opened⟩
  exact (opened_conserved r.options env' sb group r.dc word opened).2.2.2.2

theorem blocks_owned (sb : SuperBlock) (trace : List Reply) (s : Running) (run : (deviceMachine sb).Run trace s) : BlocksOwned sb s := by
  have owning := device_run sb trace s run
  have fits := block_count_fits sb trace s run
  obtain ⟨queue, perm⟩ := conserved_items _ _ _ _ owning.blocks
  rw [← List.append_assoc] at perm
  have nodup := perm.nodup_iff.mpr (device_blocks_nodup sb.dev sb.blockCount (by omega))
  have count := perm.length_eq
  simp only [List.length_append, deviceBlocks, List.length_map, List.length_range] at count
  refine ⟨queue, nodup, ?_, ?_, ⟨owning.blocks.capacity, by omega⟩, ?_, ?_, ?_, execute_calls s.reactor⟩
  · intro id
    rw [perm.mem_iff]
    simp only [deviceBlocks, List.mem_map, List.mem_range]
    constructor
    · rintro ⟨i, bound, rfl⟩
      exact ⟨i, bound, rfl⟩
    · rintro ⟨i, bound, rfl⟩
      exact ⟨i, bound, rfl⟩
  · exact blocks_injective _ ((List.Nodup.of_append_left nodup).of_append_right)
  · intro id member
    have held : s.stage.held = [id] := by
      cases here : s.stage with
      | replaced old => cases old <;> rw [here] at member <;> simp_all [Stage.held]
      | _ => rw [here] at member; simp_all [Stage.held]
    have blocks := owning.blocks
    rw [held] at blocks
    exact recycle_not_empty _ _ _ _ _ (conserved_perm _ _ _ _ _ blocks (List.perm_append_singleton id _))
  · intro between
    have buffers := owning.buffers
    cases here : s.stage with
    | idle => simpa [here, Stage.buffers] using buffers
    | finished reply => simpa [here, Stage.buffers] using buffers
    | _ => rw [here] at between; exact absurd between id
  · intro reply here failed
    have same := owning.same (by rw [here]; exact failed)
    have blocks := owning.blocks
    rw [here, same] at blocks
    have now := conserved_perm _ _ _ _ _ blocks (List.Perm.of_eq (List.append_nil _))
    refine ⟨same, fun id => ?_⟩
    rw [free_exactly _ _ _ _ (by omega) now, free_exactly _ _ _ _ (by omega) owning.found]

theorem finished_calls (env : OpEnv) (a b : Stage × Reactor) (calls : Reactor.Calls env a b) :
    (a.1 = .idle ∨ ∃ reply, a.1 = .finished reply) → b = a := by
  induction calls with
  | done at_ => exact fun _ => rfl
  | call at_ last rest ih =>
      obtain ⟨stage, r⟩ := at_
      rintro (rfl | ⟨reply, rfl⟩)
      · exact ih (.inl rfl)
      · exact ih (.inr ⟨reply, rfl⟩)

-- The calls of an operation are steps of the machine, and only the last answers.
theorem calls_run (sb : SuperBlock) (env : OpEnv) (before : DeviceContext) (trace : List Reply) (reply : Reply) (a b : Stage × Reactor)
    (calls : Reactor.Calls env a b) : b.1 = .finished reply → ¬ a.1.between →
      (deviceMachine sb).Run trace ⟨env, a.1, a.2, before⟩ → (deviceMachine sb).Run (trace ++ [reply]) ⟨env, b.1, b.2, before⟩ := by
  induction calls with
  | done at_ =>
      intro ended busy _
      rw [ended] at busy
      exact absurd trivial busy
  | call at_ last rest ih =>
      intro ended busy run
      obtain ⟨stage, r⟩ := at_
      have step := Machine.Run.next trace _ _ _ .call run (by exact ⟨busy, rfl, rfl⟩)
      simp only at step
      generalize r.advance env stage = next at rest ih step
      obtain ⟨stage', r'⟩ := next
      cases stage' with
      | idle =>
          rw [finished_calls env _ _ rest (.inl rfl)] at ended
          cases ended
      | finished reply' =>
          have same := finished_calls env _ _ rest (.inr ⟨reply', rfl⟩)
          rw [same] at ended ⊢
          cases ended
          exact step
      | _ =>
          rw [show Stage.reply _ = [] from rfl, List.append_nil] at step
          exact ih ended id step

theorem operation_run (sb : SuperBlock) (trace : List Reply) (s : Running) (env : OpEnv) (req : Request)
    (run : (deviceMachine sb).Run trace s) (rest : s.stage.between) : (deviceMachine sb).Run (trace ++ [(s.reactor.execute env req).1])
      ⟨env, .finished (s.reactor.execute env req).1, (s.reactor.execute env req).2, s.reactor.dc⟩ := by
  have begun := Machine.Run.next trace [] s _ (.begin req env) run (by exact ⟨rest, rfl, rfl⟩)
  rw [List.append_nil] at begun
  exact calls_run sb env s.reactor.dc trace _ _ _ (execute_calls s.reactor env req) rfl id begun

-- Two blocks: a Put, one that replaces it, one under another key, one that is
-- refused, and a Delete.
theorem blocks_owned_full : ∃ s, (deviceMachine blankSuperBlock).Run [.code Err.kSuccess, .code Err.kSuccess, .code Err.kSuccess,
    .code Err.kEngineNoSpace, .code Err.kSuccess] s ∧ BlocksOwned blankSuperBlock s := by
  obtain ⟨dc, opened, empty, fresh⟩ := blank_group_serves
  have begun := Machine.Run.begin (m := deviceMachine blankSuperBlock) ⟨plainOpEnv, .idle, ⟨plainOptions true 1, dc⟩, dc⟩
    ⟨rfl, rfl, plainOpenEnv, blankGroup, (by decide : 8192 + 4096 * 512 < 2 ^ 64), opened⟩
  obtain ⟨m1, code1, _, index1, ready1⟩ := plain_put 0 ⟨plainOptions true 1, dc⟩ ∅ fresh (by decide) empty 1 (by decide)
  have run1 := operation_run blankSuperBlock _ _ plainOpEnv (.put (zeroPut 1)) begun trivial
  rw [code1] at run1
  generalize (Reactor.execute ⟨plainOptions true 1, dc⟩ plainOpEnv (.put (zeroPut 1))).2 = r1 at index1 ready1 run1
  obtain ⟨m2, code2, _, index2, ready2⟩ := plain_put 1 r1 _ ready1 (by decide) index1 1 (by decide : 1 < 2)
  have run2 := operation_run blankSuperBlock _ _ plainOpEnv (.put (zeroPut 1)) run1 trivial
  rw [code2] at run2
  generalize (r1.execute plainOpEnv (.put (zeroPut 1))).2 = r2 at index2 ready2 run2
  obtain ⟨m3, code3, _, index3, ready3⟩ := plain_put 2 r2 _ ready2 (by decide) index2 2 (by decide : 1 < 2)
  have run3 := operation_run blankSuperBlock _ _ plainOpEnv (.put (zeroPut 2)) run2 trivial
  rw [code3] at run3
  generalize (r2.execute plainOpEnv (.put (zeroPut 2))).2 = r3 at index3 ready3 run3
  have refused := plain_put_refused 3 r3 _ ready3 (by decide) index3 3 (by decide : ¬ 2 < 2)
  have run4 := operation_run blankSuperBlock _ _ plainOpEnv (.put (zeroPut 3)) run3 trivial
  rw [refused] at run4
  obtain ⟨code5, _⟩ := plain_delete 3 r3 _ ready3 (by decide) index3 1 m2 rfl
  have run5 := operation_run blankSuperBlock _ _ plainOpEnv (.delete [1]) run4 trivial
  rw [code5] at run5
  exact ⟨_, run5, blocks_owned blankSuperBlock _ _ run5⟩

end Cabe
