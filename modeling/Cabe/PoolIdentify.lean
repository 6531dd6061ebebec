import Cabe.PoolOwnership

set_option autoImplicit false

namespace Cabe

open Storage Concurrency

variable {Tid : Type}

-- The slot whose mark is gone and whose generation is not over yet.
def PoolPc.renews : PoolPc → Option Nat
  | .renewing _ i => some i
  | _ => none

-- The slot is as the call left it that marked it last: no other may have it
-- before its generation is over.
def PoolState.Bound (s : PoolState Tid) (i : Nat) : Prop := s.allocated i = true ∨ ∃ t, (s.pc t).renews = some i

def PoolState.Bytes (s : PoolState Tid) (i : Nat) (key : Key) (k : Nat) : Prop :=
  ∀ j byte, j < k → key[j]? = some byte → s.boundKeyBytes i j = byte

structure PoolState.Spelled (s : PoolState Tid) (i : Nat) (key : Key) : Prop where
  length : s.boundKeyLen i = key.length
  bytes : s.Bytes i key key.length

-- What one step does to one slot.
inductive SlotStep (s : PoolState Tid) (t : Tid) (s' : PoolState Tid) (i : Nat) : Prop
  | still (allocated : s'.allocated i = s.allocated i) (generation : s'.generation i = s.generation i)
      (length : s'.boundKeyLen i = s.boundKeyLen i) (bytes : s'.boundKeyBytes i = s.boundKeyBytes i) (tenant : s'.tenant i = s.tenant i)
      (renews : ∀ t', (s'.pc t').renews = some i ↔ (s.pc t').renews = some i)
  | named (key : Key) (k : Nat) (byte : UInt8) (here : s.pc t = .naming key i k) (there : s'.pc t = .naming key i (k + 1))
      (more : key[k]? = some byte) (bytes : s'.boundKeyBytes i = Function.update (s.boundKeyBytes i) k byte)
      (generation : s'.generation i = s.generation i)
  | sized (key : Key) (here : s.pc t = .naming key i key.length) (there : s'.pc t = .marking key i)
      (length : s'.boundKeyLen i = key.length) (bytes : s'.boundKeyBytes i = s.boundKeyBytes i) (generation : s'.generation i = s.generation i)
  | marked (key : Key) (here : s.pc t = .marking key i) (generation : s'.generation i = s.generation i)
      (length : s'.boundKeyLen i = s.boundKeyLen i) (bytes : s'.boundKeyBytes i = s.boundKeyBytes i) (tenant : s'.tenant i = key)
  | freed (used : s.allocated i = true) (there : (s'.pc t).renews = some i) (generation : s'.generation i = s.generation i)
      (length : s'.boundKeyLen i = s.boundKeyLen i) (bytes : s'.boundKeyBytes i = s.boundKeyBytes i) (tenant : s'.tenant i = s.tenant i)
  | renewed (p : Purpose) (here : s.pc t = .renewing p i) (there : s'.pc t = .pushing p i) (generation : s'.generation i = s.generation i + 1)

section Steps

variable [DecidableEq Tid] (s : PoolState Tid) (t : Tid) (events : List (PoolEvent Tid)) (s' : PoolState Tid)
  (step : PoolStep s t events s')

include step

theorem others_renew (t' : Tid) (other : t' ≠ t) : (s'.pc t').renews = (s.pc t').renews := by
  rcases step_others s t events s' step t' other with same | ⟨c, before, after⟩
  · rw [same]
  · rw [before, after]
    rfl

theorem slot_step (i : Nat) : SlotStep s t s' i := by
  have others := others_renew s t events s' step
  have renews (apart : (s'.pc t).renews = some i ↔ (s.pc t).renews = some i) (t' : Tid) :
      (s'.pc t').renews = some i ↔ (s.pc t').renews = some i := by
    by_cases same : t' = t
    · rw [same]
      exact apart
    · rw [others t' same]
  have moves (here there : PoolPc) (at_ : s.pc t = here) (next : s'.pc t = there) (first : here.renews ≠ some i)
      (second : there.renews ≠ some i) : (s'.pc t).renews = some i ↔ (s.pc t).renews = some i := by
    rw [at_, next]
    exact ⟨fun same => absurd same second, fun same => absurd same first⟩
  cases step with
  | unnamed | outside => exact .still rfl rfl rfl rfl rfl fun _ => Iff.rfl
  | allocate key here => exact .still rfl rfl rfl rfl rfl (renews (moves _ _ here (goto_pc ..) nofun nofun))
  | release b here => exact .still rfl rfl rfl rfl rfl (renews (moves _ _ here (goto_pc ..) nofun nofun))
  | identify value j here => exact .still rfl rfl rfl rfl rfl (renews (moves _ _ here (goto_pc ..) nofun nofun))
  | beginClose here => exact .still rfl rfl rfl rfl rfl (renews (moves _ _ here (goto_pc ..) nofun nofun))
  | waitUntilIdle here => exact .still rfl rfl rfl rfl rfl (renews (moves _ _ here (goto_pc ..) nofun nofun))
  | move there steps =>
      generalize here : s.pc t = pc at steps
      refine .still rfl rfl rfl rfl rfl (renews (moves _ _ here (goto_pc ..) ?_ ?_)) <;> cases steps <;> exact nofun
  | return_ event returns =>
      generalize here : s.pc t = pc at returns
      refine .still rfl rfl rfl rfl rfl (renews (moves _ _ here (goto_pc ..) ?_ nofun))
      cases returns <;> exact nofun
  | write events next writes =>
      generalize here : s.pc t = pc at writes
      cases writes with
      | name key j k byte more =>
          rcases eq_or_ne i j with rfl | apart
          · exact .named key k byte here (goto_pc ..) more (Function.update_self ..) rfl
          · exact .still rfl rfl rfl (Function.update_of_ne apart ..) rfl (renews (moves _ _ here (goto_pc ..) nofun nofun))
      | size key j =>
          rcases eq_or_ne i j with rfl | apart
          · exact .sized key here (goto_pc ..) (Function.update_self ..) rfl rfl
          · exact .still rfl rfl (Function.update_of_ne apart ..) rfl rfl (renews (moves _ _ here (goto_pc ..) nofun nofun))
      | mark key j =>
          rcases eq_or_ne i j with rfl | apart
          · exact .marked key here rfl rfl rfl (Function.update_self ..)
          · exact .still (Function.update_of_ne apart ..) rfl rfl rfl (Function.update_of_ne apart ..)
              (renews (moves _ _ here (goto_pc ..) nofun nofun))
      | free p j g used =>
          rcases eq_or_ne i j with rfl | apart
          · exact .freed used (congrArg PoolPc.renews (goto_pc ..)) rfl rfl rfl rfl
          · refine .still (Function.update_of_ne apart ..) rfl rfl rfl rfl (renews (moves _ _ here (goto_pc ..) nofun ?_))
            exact fun same => apart (Option.some.inj same).symm
      | renew p j =>
          rcases eq_or_ne i j with rfl | apart
          · exact .renewed p here (goto_pc ..) (Function.update_self ..)
          · refine .still rfl (Function.update_of_ne apart ..) rfl rfl rfl (renews (moves _ _ here (goto_pc ..) ?_ nofun))
            exact fun same => apart (Option.some.inj same).symm
      | _ => exact .still rfl rfl rfl rfl rfl (renews (moves _ _ here (goto_pc ..) nofun nofun))

theorem generation_step (i : Nat) : s.generation i ≤ s'.generation i := by
  cases slot_step s t events s' step i with
  | still _ generation => exact Nat.le_of_eq generation.symm
  | named _ _ _ _ _ _ _ generation => exact Nat.le_of_eq generation.symm
  | sized _ _ _ _ _ generation => exact Nat.le_of_eq generation.symm
  | marked _ _ generation => exact Nat.le_of_eq generation.symm
  | freed _ _ generation => exact Nat.le_of_eq generation.symm
  | renewed _ _ _ generation => omega

-- The name of a slot is written by the call that has taken it, and by no other.
theorem names_step (i : Nat) (other : (s.pc t).slot ≠ some i) :
    s'.boundKeyBytes i = s.boundKeyBytes i ∧ s'.boundKeyLen i = s.boundKeyLen i := by
  cases slot_step s t events s' step i with
  | still _ _ length bytes => exact ⟨bytes, length⟩
  | named key k byte here => exact absurd (by rw [here]; rfl) other
  | sized key here => exact absurd (by rw [here]; rfl) other
  | marked key here => exact absurd (by rw [here]; rfl) other
  | freed _ _ _ length bytes => exact ⟨bytes, length⟩
  | renewed p here => exact absurd (by rw [here]; rfl) other

omit [DecidableEq Tid] step in
theorem renews_slot (pc : PoolPc) (i : Nat) (renews : pc.renews = some i) : pc.slot = some i := by
  cases pc with
  | renewing p j => exact renews
  | _ => cases renews

omit [DecidableEq Tid] step in
theorem bound_apart (free : List Nat) (pooled : Pooled s free) (i : Nat) (bound : s.Bound i) (here : PoolPc) (at_ : s.pc t = here)
    (slot : here.slot = some i) (unmarked : s.allocated i = false) (renews : here.renews = none) : False := by
  rcases bound with marked | ⟨t', renewing⟩
  · rw [marked] at unmarked
    cases unmarked
  · have holds : (s.pc t).slot = some i := by rw [at_, slot]
    cases pooled.kept.alone (.call t) (.call t') i holds (renews_slot _ i renewing)
    rw [at_, renews] at renewing
    cases renewing

theorem bound_step (free : List Nat) (pooled : Pooled s free) (i : Nat) (bound : s.Bound i) (same : s'.generation i = s.generation i) :
    s'.Bound i ∧ s'.tenant i = s.tenant i := by
  have apart := bound_apart s t free pooled i bound
  have ok := pooled.pcs t
  cases slot_step s t events s' step i with
  | still allocated _ _ _ tenant renews =>
      refine ⟨?_, tenant⟩
      rcases bound with marked | ⟨t', renewing⟩
      · exact .inl (allocated.trans marked)
      · exact .inr ⟨t', (renews t').mpr renewing⟩
  | named key k byte here =>
      rw [here] at ok
      exact (apart _ here rfl ok rfl).elim
  | sized key here =>
      rw [here] at ok
      exact (apart _ here rfl ok rfl).elim
  | marked key here =>
      rw [here] at ok
      exact (apart _ here rfl ok rfl).elim
  | freed _ there _ _ _ tenant => exact ⟨.inr ⟨t, there⟩, tenant⟩
  | renewed p here there generation => omega

end Steps

-- What a call knows of its key, and of the part of it that it has written.
def PoolPc.Worded (s : PoolState Tid) : PoolPc → Prop
  | .opening key => key.length ≤ kWalKeyMax
  | .entering key => key.length ≤ kWalKeyMax
  | .checking key => key.length ≤ kWalKeyMax
  | .popping key => key.length ≤ kWalKeyMax
  | .following key _ _ => key.length ≤ kWalKeyMax
  | .swapping key _ _ _ => key.length ≤ kWalKeyMax
  | .naming key i k => key.length ≤ kWalKeyMax ∧ s.Bytes i key k
  | .marking key i => key.length ≤ kWalKeyMax ∧ s.Spelled i key
  | _ => True

structure Worded (s : PoolState Tid) : Prop where
  bound : ∀ i, s.Bound i → (s.tenant i).length ≤ kWalKeyMax ∧ s.Spelled i (s.tenant i)
  pcs : ∀ t, (s.pc t).Worded s

theorem spelled_congr (s s' : PoolState Tid) (i : Nat) (key : Key) (length : s'.boundKeyLen i = s.boundKeyLen i)
    (bytes : s'.boundKeyBytes i = s.boundKeyBytes i) (spelled : s.Spelled i key) : s'.Spelled i key := by
  refine ⟨length.trans spelled.length, ?_⟩
  intro j byte before more
  rw [bytes]
  exact spelled.bytes j byte before more

theorem worded_congr (s s' : PoolState Tid) (pc : PoolPc)
    (names : ∀ i, pc.slot = some i → s'.boundKeyBytes i = s.boundKeyBytes i ∧ s'.boundKeyLen i = s.boundKeyLen i) (worded : pc.Worded s) :
    pc.Worded s' := by
  cases pc with
  | naming key i k =>
      refine ⟨worded.1, ?_⟩
      intro j byte before more
      rw [(names i rfl).1]
      exact worded.2 j byte before more
  | marking key i => exact ⟨worded.1, spelled_congr s s' i key (names i rfl).2 (names i rfl).1 worded.2⟩
  | _ => exact worded

section Wording

variable [DecidableEq Tid] (s : PoolState Tid) (t : Tid) (events : List (PoolEvent Tid)) (s' : PoolState Tid)
  (step : PoolStep s t events s')

include step

theorem worded_own (worded : (s.pc t).Worded s) : (s'.pc t).Worded s' := by
  cases step with
  | unnamed | outside => exact worded
  | allocate key here named short =>
      rw [goto_pc]
      exact short
  | release | identify | beginClose | waitUntilIdle | return_ =>
      rw [goto_pc]
      trivial
  | move there moves =>
      rw [goto_pc]
      generalize s.pc t = here at moves worded
      cases moves <;> trivial
  | write events next writes =>
      generalize s.pc t = here at writes worded
      cases writes with
      | enter key =>
          rw [goto_pc]
          exact worded
      | pop key head i next same =>
          rw [goto_pc]
          exact ⟨worded, fun j byte before => absurd before (Nat.not_lt_zero j)⟩
      | name key i k byte more =>
          rw [goto_pc]
          refine ⟨worded.1, ?_⟩
          intro j other before found
          show Function.update s.boundKeyBytes i _ i j = other
          rw [Function.update_self]
          rcases eq_or_ne j k with rfl | apart
          · rw [Function.update_self]
            exact Option.some.inj (more.symm.trans found)
          · rw [Function.update_of_ne apart]
            exact worded.2 j other (by omega) found
      | size key i =>
          rw [goto_pc]
          exact ⟨worded.1, Function.update_self .., worded.2⟩
      | _ =>
          rw [goto_pc]
          trivial

theorem worded_step (free free' : List Nat) (pooled : Pooled s free) (pooled' : Pooled s' free') (worded : Worded s) : Worded s' := by
  refine ⟨?_, ?_⟩
  · intro i bound
    have apart := bound_apart s' t free' pooled' i bound
    have ok := pooled'.pcs t
    have own := worded.pcs t
    cases slot_step s t events s' step i with
    | still allocated _ length bytes tenant renews =>
        have before : s.Bound i := by
          rcases bound with marked | ⟨t', renewing⟩
          · exact .inl (allocated ▸ marked)
          · exact .inr ⟨t', (renews t').mp renewing⟩
        rw [tenant]
        exact ⟨(worded.bound i before).1, spelled_congr s s' i _ length bytes (worded.bound i before).2⟩
    | named key k byte here there =>
        rw [there] at ok
        exact (apart _ there rfl ok rfl).elim
    | sized key here there =>
        rw [there] at ok
        exact (apart _ there rfl ok rfl).elim
    | marked key here _ length bytes tenant =>
        rw [here] at own
        rw [tenant]
        exact ⟨own.1, spelled_congr s s' i key length bytes own.2⟩
    | freed used there _ length bytes tenant =>
        rw [tenant]
        exact ⟨(worded.bound i (.inl used)).1, spelled_congr s s' i _ length bytes (worded.bound i (.inl used)).2⟩
    | renewed p here there =>
        rw [there] at ok
        exact (apart _ there rfl ok rfl).elim
  · intro t'
    by_cases same : t' = t
    · rw [same]
      exact worded_own s t events s' step (worded.pcs t)
    · rcases step_others s t events s' step t' same with still | ⟨c, _, woken⟩
      · rw [still]
        refine worded_congr s s' _ ?_ (worded.pcs t')
        intro i slot
        refine names_step s t events s' step i fun own => ?_
        cases pooled.kept.alone (.call t') (.call t) i slot own
        exact same rfl
      · rw [woken]
        trivial

end Wording

theorem worded_fresh (c : PoolConfig) : Worded (PoolState.fresh c : PoolState Tid) := by
  refine ⟨?_, fun _ => trivial⟩
  rintro i (marked | ⟨t, renewing⟩)
  · cases marked
  · cases renewing

def PoolPc.probe : PoolPc → Option Probe
  | .probing q => some q
  | .peeking q _ => some q
  | .measuring q _ => some q
  | .copying q _ _ _ => some q
  | .confirming q _ _ _ => some q
  | _ => none

theorem locate_error (c : PoolConfig) (value : DataView) (info : SourceInfo) (found : c.locate value = .error info) :
    info.matched = false := by
  unfold PoolConfig.locate at found
  repeat' split at found
  all_goals cases found <;> rfl

theorem locate_slot (c : PoolConfig) (value : DataView) (i : Nat) (found : c.locate value = .ok i) :
    value.addr = c.base + i * kValueSize ∧ i < c.slotCount := by
  unfold PoolConfig.locate at found
  split at found
  · cases found
  split at found
  · cases found
  next inside =>
    split at found
    · cases found
    split at found
    · cases found
    next aligned =>
      split at found
      · cases found
      next slot =>
        cases found
        have whole := Nat.div_add_mod (value.addr - c.base) kValueSize
        rw [Nat.mul_comm] at whole
        refine ⟨?_, Nat.lt_of_not_le slot⟩
        omega

theorem probe_found [DecidableEq Tid] (s : PoolState Tid) (t : Tid) (events : List (PoolEvent Tid)) (s' : PoolState Tid)
    (step : PoolStep s t events s') (located : ∀ t' q, (s.pc t').probe = some q → s.config.locate q.value = .ok q.slot) (t' : Tid) (q : Probe)
    (probes : (s'.pc t').probe = some q) : s'.config.locate q.value = .ok q.slot := by
  rw [config_step s t events s' step]
  by_cases own : t' = t
  · have before := located t
    rw [own] at probes
    cases step with
    | unnamed | outside => exact before q probes
    | allocate | release | beginClose | waitUntilIdle | return_ =>
        rw [goto_pc] at probes
        cases probes
    | identify value i here found =>
        rw [goto_pc] at probes
        cases probes
        exact found
    | move there moves =>
        rw [goto_pc] at probes
        generalize s.pc t = here at moves before
        cases moves <;> exact before q probes
    | write events next writes =>
        generalize s.pc t = here at writes
        cases writes <;> rw [goto_pc] at probes <;> cases probes
  · rcases step_others s t events s' step t' own with same | ⟨c, _, woken⟩
    · exact located t' q (same ▸ probes)
    · rw [woken] at probes
      cases probes

-- A match comes from the last look of an Identify and from nowhere else.
theorem identified_step [DecidableEq Tid] (s : PoolState Tid) (t : Tid) (events : List (PoolEvent Tid)) (s' : PoolState Tid)
    (step : PoolStep s t events s') (t' : Tid) (value : DataView) (info : SourceInfo) (identified : .identified t' value info ∈ events)
    (matched : info.matched = true) :
    ∃ q g len bytes, t' = t ∧ s.pc t = .confirming q g len bytes ∧ q.value = value ∧ info = s.config.matchedInfo q g len bytes := by
  have ends (p : Purpose) : PoolEvent.identified t' value info ≠ p.event t := fun same => by cases p <;> cases same
  cases step with
  | unnamed => cases List.mem_singleton.mp identified
  | allocate | release | identify | beginClose | waitUntilIdle | move => cases identified
  | outside value info here found =>
      cases List.mem_singleton.mp identified
      rw [locate_error s.config value info found] at matched
      cases matched
  | return_ event returns =>
      rw [List.mem_singleton] at identified
      generalize here : s.pc t = pc at returns
      cases returns with
      | unheard p => exact absurd identified (ends p)
      | vacant | moved | emptied =>
          cases identified
          cases matched
      | confirmed q g len bytes =>
          cases identified
          exact ⟨q, g, len, bytes, rfl, rfl, rfl, rfl⟩
      | _ => cases identified
  | write events next writes =>
      generalize s.pc t = here at writes
      cases writes with
      | push p i head same =>
          cases p with
          | refuse rc => cases identified
          | release b => cases List.mem_singleton.mp identified
      | notify p => exact absurd (List.mem_singleton.mp identified) (ends p)
      | wrap | announce => cases List.mem_singleton.mp identified
      | _ => cases identified

section Paths

variable [DecidableEq Tid] (path : (poolMachine Tid).Path)

theorem worded_path (n : Nat) : ∃ free, Pooled (path.state n) free ∧ Worded (path.state n) := by
  refine run_invariant (poolMachine Tid) (fun _ s => ∃ free, Pooled s free ∧ Worded s) ?_ ?_ _ _ (path_run _ path n)
  · rintro s ⟨deviceId, poolId, slotCount, base, created⟩
    rw [created_fresh s deviceId poolId slotCount base created]
    exact ⟨_, pooled_fresh s.config, worded_fresh s.config⟩
  · rintro _ s t events s' ⟨free, pooled, worded⟩ step
    obtain ⟨free', pooled'⟩ := pooled_step s free t pooled events s' step
    exact ⟨free', pooled', worded_step s t events s' step free free' pooled pooled' worded⟩

theorem generation_path (n i : Nat) : (path.state n).generation i ≤ (path.state (n + 1)).generation i := by
  cases moved : path.actor n with
  | none => rw [(path.idles n moved).1]
  | some t => exact generation_step _ t _ _ (path.moves n t moved) i

theorem bound_path (n i : Nat) (bound : (path.state n).Bound i) (same : (path.state (n + 1)).generation i = (path.state n).generation i) :
    (path.state (n + 1)).Bound i ∧ (path.state (n + 1)).tenant i = (path.state n).tenant i := by
  cases moved : path.actor n with
  | none =>
      rw [(path.idles n moved).1]
      exact ⟨bound, rfl⟩
  | some t =>
      obtain ⟨free, pooled, _⟩ := worded_path path n
      exact bound_step _ t _ _ (path.moves n t moved) free pooled i bound same

-- A thread is in one call of Identify from one moment to another.
def InIdentify (t : Tid) (q : Probe) (m n : Nat) : Prop := m ≤ n ∧ ∀ k, m ≤ k → k ≤ n → ((path.state k).pc t).probe = some q

theorem in_identify_next (t : Tid) (q : Probe) (m n : Nat) (within : InIdentify path t q m n)
    (next : ((path.state (n + 1)).pc t).probe = some q) : InIdentify path t q m (n + 1) := by
  refine ⟨Nat.le_succ_of_le within.1, ?_⟩
  intro k from_ upTo
  rcases Nat.lt_or_ge n k with beyond | before
  · cases Nat.le_antisymm upTo beyond
    exact next
  · exact within.2 k from_ before

-- The call saw the slot marked at one moment. As long as the generation it read
-- before that lasts, the slot is bound as it was then.
structure Spotted (t : Tid) (q : Probe) (g m n : Nat) : Prop where
  within : InIdentify path t q m n
  marked : (path.state m).allocated q.slot = true
  below : g ≤ (path.state n).generation q.slot
  lasts : (path.state n).generation q.slot = g →
    (path.state m).generation q.slot = g ∧ (path.state n).Bound q.slot ∧ (path.state n).tenant q.slot = (path.state m).tenant q.slot

theorem spotted_next (t : Tid) (q : Probe) (g m n : Nat) (seen : Spotted path t q g m n) (next : ((path.state (n + 1)).pc t).probe = some q) :
    Spotted path t q g m (n + 1) := by
  have grows := generation_path path n q.slot
  refine ⟨in_identify_next path t q m n seen.within next, seen.marked, Nat.le_trans seen.below grows, ?_⟩
  intro same
  have before : (path.state n).generation q.slot = g := Nat.le_antisymm (same ▸ grows) seen.below
  obtain ⟨dated, bound, tenant⟩ := seen.lasts before
  obtain ⟨bound', tenant'⟩ := bound_path path n q.slot bound (same.trans before.symm)
  exact ⟨dated, bound', tenant'.trans tenant⟩

-- What a call of Identify has gathered, seen from the moment it found the slot
-- marked.
def Sighted (n : Nat) (t : Tid) : PoolPc → Prop
  | .peeking q g => g ≤ (path.state n).generation q.slot
  | .measuring q g => ∃ m, Spotted path t q g m n
  | .copying q g len bytes => ∃ m, Spotted path t q g m n ∧ ((path.state n).generation q.slot = g →
      len = ((path.state m).tenant q.slot).length ∧ bytes = ((path.state m).tenant q.slot).take bytes.length)
  | .confirming q g len bytes => ∃ m, InIdentify path t q m n ∧ (path.state m).allocated q.slot = true ∧
      (path.state m).generation q.slot = g ∧ (path.state m).tenant q.slot = bytes ∧ len = bytes.length
  | _ => True

theorem sighted_next (n : Nat) (t : Tid) (pc : PoolPc) (here : (path.state (n + 1)).pc t = pc) (sighted : Sighted path n t pc) :
    Sighted path (n + 1) t pc := by
  have grows := generation_path path n
  cases pc with
  | peeking q g => exact Nat.le_trans sighted (grows q.slot)
  | measuring q g =>
      obtain ⟨m, seen⟩ := sighted
      exact ⟨m, spotted_next path t q g m n seen (by rw [here]; rfl)⟩
  | copying q g len bytes =>
      obtain ⟨m, seen, read⟩ := sighted
      refine ⟨m, spotted_next path t q g m n seen (by rw [here]; rfl), fun same => read ?_⟩
      exact Nat.le_antisymm (same ▸ grows q.slot) seen.below
  | confirming q g len bytes =>
      obtain ⟨m, within, rest⟩ := sighted
      exact ⟨m, in_identify_next path t q m n within (by rw [here]; rfl), rest⟩
  | _ => trivial

-- While its generation lasts a slot reads as the key it is bound to.
theorem spotted_reads (t : Tid) (q : Probe) (g m n : Nat) (seen : Spotted path t q g m n) (same : (path.state n).generation q.slot = g) :
    ((path.state m).tenant q.slot).length ≤ kWalKeyMax ∧ (path.state n).Spelled q.slot ((path.state m).tenant q.slot) := by
  obtain ⟨_, bound, tenant⟩ := seen.lasts same
  obtain ⟨_, _, worded⟩ := worded_path path n
  rw [← tenant]
  exact worded.bound q.slot bound

theorem sighted_move (n : Nat) (t : Tid) (there : PoolPc) (moves : PoolMove (path.state n) ((path.state n).pc t) there)
    (next : path.state (n + 1) = (path.state n).goto t there) (sighted : Sighted path n t ((path.state n).pc t)) :
    Sighted path (n + 1) t there := by
  have pc : (path.state (n + 1)).pc t = there := by rw [next, goto_pc]
  have generation : (path.state (n + 1)).generation = (path.state n).generation := by rw [next]; rfl
  generalize here : (path.state n).pc t = at_ at moves sighted
  cases moves with
  | dated q => exact Nat.le_of_eq (by rw [generation])
  | taken q g used =>
      refine ⟨n, ⟨⟨Nat.le_succ n, ?_⟩, used, ?_, ?_⟩⟩
      · intro k from_ upTo
        rcases Nat.lt_or_ge n k with beyond | before
        · cases Nat.le_antisymm upTo beyond
          rw [pc]
          rfl
        · cases Nat.le_antisymm from_ before
          rw [here]
          rfl
      · rw [generation]
        exact sighted
      · intro same
        rw [generation] at same
        refine ⟨same, .inl ?_, ?_⟩
        · rw [next]
          exact used
        · rw [next]
          rfl
  | measured q g =>
      obtain ⟨m, seen⟩ := sighted
      refine ⟨m, spotted_next path t q g m n seen (by rw [pc]; rfl), ?_⟩
      intro same
      rw [generation] at same
      obtain ⟨short, spelled⟩ := spotted_reads path t q g m n seen same
      rw [spelled.length]
      exact ⟨Nat.min_eq_left short, rfl⟩
  | copied q g len bytes more =>
      obtain ⟨m, seen, read⟩ := sighted
      refine ⟨m, spotted_next path t q g m n seen (by rw [pc]; rfl), ?_⟩
      intro same
      rw [generation] at same
      obtain ⟨length, prefix_⟩ := read same
      obtain ⟨_, spelled⟩ := spotted_reads path t q g m n seen same
      refine ⟨length, ?_⟩
      rw [length] at more
      rw [spelled.bytes bytes.length _ more (List.getElem?_eq_getElem more), List.length_append, List.length_singleton,
        List.take_succ_eq_append_getElem more, ← prefix_]
  | unchanged q g len bytes whole same =>
      obtain ⟨m, seen, read⟩ := sighted
      obtain ⟨length, prefix_⟩ := read same
      refine ⟨m, in_identify_next path t q m n seen.within (by rw [pc]; rfl), seen.marked, (seen.lasts same).1, ?_, whole.symm⟩
      rw [prefix_, whole, length, List.take_length]
  | _ => trivial

theorem sighted_path (n : Nat) (t : Tid) : Sighted path n t ((path.state n).pc t) := by
  induction n with
  | zero =>
      obtain ⟨deviceId, poolId, slotCount, base, created⟩ := path.first
      rw [created_fresh _ deviceId poolId slotCount base created]
      trivial
  | succ n ih =>
      have rests (same : (path.state (n + 1)).pc t = (path.state n).pc t) : Sighted path (n + 1) t ((path.state (n + 1)).pc t) := by
        rw [same]
        exact sighted_next path n t _ same ih
      cases moved : path.actor n with
      | none => exact rests (by rw [(path.idles n moved).1])
      | some t' =>
          have step := path.moves n t' moved
          by_cases own : t = t'
          · rw [own] at ih rests ⊢
            generalize next : path.state (n + 1) = s' at step rests ⊢
            generalize path.events n = events at step
            have there (pc : PoolPc) (free : pc.probe = none) (at_ : s'.pc t' = pc) : Sighted path (n + 1) t' (s'.pc t') := by
              rw [at_]
              cases pc <;> trivial
            cases step with
            | unnamed | outside => exact rests rfl
            | allocate | release | beginClose | waitUntilIdle | return_ => exact there _ rfl (goto_pc ..)
            | identify value i here found =>
                rw [goto_pc]
                trivial
            | move pc moves =>
                rw [goto_pc]
                exact sighted_move path n t' pc moves next ih
            | write events s' writes =>
                generalize (path.state n).pc t' = here at writes
                cases writes <;> exact there _ rfl (goto_pc ..)
          · rcases step_others _ t' _ _ step t own with same | ⟨c, _, woken⟩
            · exact rests same
            · rw [woken]
              trivial

theorem located_path (n : Nat) : ∀ t q, ((path.state n).pc t).probe = some q → (path.state n).config.locate q.value = .ok q.slot := by
  refine run_invariant (poolMachine Tid) (fun _ s => ∀ t q, (s.pc t).probe = some q → s.config.locate q.value = .ok q.slot) ?_ ?_ _ _
    (path_run _ path n)
  · rintro s ⟨deviceId, poolId, slotCount, base, created⟩ t q probes
    rw [created_fresh s deviceId poolId slotCount base created] at probes
    cases probes
  · intro _ s t events s' located step
    exact probe_found s t events s' step located

-- The slot is in use: marked for this key in this generation, and somebody's.
structure PoolState.BoundTo (s : PoolState Tid) (i g : Nat) (key : Key) : Prop where
  allocated : s.allocated i = true
  generation : s.generation i = g
  tenant : s.tenant i = key
  held : ∃ holder, s.keeps holder = some i

-- A match names a slot start, and the slot was bound to the key at one moment
-- inside the call.
theorem identify_atomic (n : Nat) (t : Tid) (value : DataView) (info : SourceInfo) (identified : .identified t value info ∈ path.events n)
    (matched : info.matched = true) :
    (∃ m, InIdentify path t ⟨value, info.slotIndex⟩ m n ∧ (path.state m).BoundTo info.slotIndex info.slotGeneration info.boundKey) ∧
      value.addr = (path.state n).config.base + info.slotIndex * kValueSize ∧ info.slotIndex < (path.state n).config.slotCount := by
  cases moved : path.actor n with
  | none =>
      rw [(path.idles n moved).2] at identified
      cases identified
  | some t' =>
      obtain ⟨q, g, len, bytes, rfl, here, rfl, rfl⟩ := identified_step _ t' _ _ (path.moves n t' moved) t value info identified matched
      have sighted := sighted_path path n t
      rw [here] at sighted
      obtain ⟨m, within, marked, dated, tenant, whole⟩ := sighted
      have found := located_path path n t q (by rw [here]; rfl)
      obtain ⟨address, inside⟩ := locate_slot _ _ _ found
      refine ⟨⟨m, within, ⟨marked, dated, ?_, ?_⟩⟩, address, inside⟩
      · show (path.state m).tenant q.slot = bytes.take len
        rw [tenant, whole, List.take_length]
      · obtain ⟨free, pooled⟩ := pooled_run _ _ (path_run _ path m)
        have slots := locate_slot _ _ _ (located_path path m t q (within.2 m (Nat.le_refl m) within.1))
        rcases (pooled.kept.whole q.slot).mpr slots.2 with listed | holder
        · rw [pooled.vacant q.slot listed] at marked
          cases marked
        · exact holder

end Paths

def onlySlot : DataView := ⟨kValueSize, List.replicate kValueSize 0⟩

theorem only_slot_found : PoolConfig.locate ⟨0, 0, 1, kValueSize⟩ onlySlot = .ok 0 := by
  have size : onlySlot.bytes.length = kValueSize := List.length_replicate
  have addr : onlySlot.addr = kValueSize := rfl
  unfold PoolConfig.locate
  rw [size, addr]
  decide

-- One thread allocates the only slot for a key of one byte, and asks whose it is.
theorem owner_run : ∃ s info, (poolMachine Unit).Run [.allocated () 0, .identified () onlySlot info] s ∧
    info.matched = true ∧ info.boundKey = [7] := by
  have start : (poolMachine Unit).start (.fresh ⟨0, 0, 1, kValueSize⟩) := ⟨0, 0, 1, some kValueSize, rfl⟩
  have opening := Machine.Run.next _ _ _ _ () (.begin _ start) (PoolStep.allocate [7] rfl (by decide) (by decide))
  have entering := Machine.Run.next _ _ _ _ () opening (PoolStep.move _ (PoolMove.opened [7] rfl))
  have checking := Machine.Run.next _ _ _ _ () entering (PoolStep.write _ _ (PoolWrite.enter [7]))
  have popping := Machine.Run.next _ _ _ _ () checking (PoolStep.move _ (PoolMove.admitted [7] rfl))
  have following := Machine.Run.next _ _ _ _ () popping (PoolStep.move _ (PoolMove.found [7] 0 rfl))
  have swapping := Machine.Run.next _ _ _ _ () following (PoolStep.move _ (PoolMove.followed [7] _ 0))
  have naming := Machine.Run.next _ _ _ _ () swapping (PoolStep.write _ _ (PoolWrite.pop [7] _ 0 _ rfl))
  have named := Machine.Run.next _ _ _ _ () naming (PoolStep.write _ _ (PoolWrite.name [7] 0 0 7 rfl))
  have marking := Machine.Run.next _ _ _ _ () named (PoolStep.write _ _ (PoolWrite.size [7] 0))
  have stamping := Machine.Run.next _ _ _ _ () marking (PoolStep.write _ _ (PoolWrite.mark [7] 0))
  have wrapping := Machine.Run.next _ _ _ _ () stamping (PoolStep.move _ (PoolMove.stamped 0))
  have allocated := Machine.Run.next _ _ _ _ () wrapping (PoolStep.write _ _ (PoolWrite.wrap 0 _))
  have probing := Machine.Run.next _ _ _ _ () allocated (PoolStep.identify onlySlot 0 rfl only_slot_found)
  have peeking := Machine.Run.next _ _ _ _ () probing (PoolStep.move _ (PoolMove.dated _))
  have measuring := Machine.Run.next _ _ _ _ () peeking (PoolStep.move _ (PoolMove.taken _ _ rfl))
  have copying := Machine.Run.next _ _ _ _ () measuring (PoolStep.move _ (PoolMove.measured _ _))
  have copied := Machine.Run.next _ _ _ _ () copying (PoolStep.move _ (PoolMove.copied _ _ _ _ (by decide)))
  have confirming := Machine.Run.next _ _ _ _ () copied (PoolStep.move _ (PoolMove.unchanged _ _ _ _ rfl rfl))
  have confirmed := Machine.Run.next _ _ _ _ () confirming (PoolStep.return_ _ (PoolReturn.confirmed _ _ _ _ rfl))
  exact ⟨_, _, confirmed, rfl, rfl⟩

theorem identify_atomic_owner : ∃ (path : (poolMachine Unit).Path) (n m i g : Nat), InIdentify path () ⟨onlySlot, i⟩ m n ∧
    (path.state m).BoundTo i g [7] := by
  obtain ⟨s, info, run, matched, key⟩ := owner_run
  obtain ⟨path, n, same, _⟩ := run_path _ _ s run
  obtain ⟨k, _, identified⟩ := trace_event _ path n (.identified () onlySlot info) (by rw [same]; exact .tail _ (.head _))
  obtain ⟨⟨m, within, bound⟩, _⟩ := identify_atomic path k () onlySlot info identified matched
  rw [key] at bound
  exact ⟨path, k, m, info.slotIndex, info.slotGeneration, within, bound⟩

end Cabe
