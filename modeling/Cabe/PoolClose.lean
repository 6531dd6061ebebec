import Cabe.PoolOwnership

set_option autoImplicit false

namespace Cabe

open Storage Concurrency

variable {Tid : Type}

def Purpose.carries (p : Purpose) (i : Nat) : Option (Nat × Nat) :=
  match p with
  | .refuse _ => none
  | .release b => some (b, i)

-- The buffer whose slot a call brings back to the list, and the slot.
def PoolPc.carries : PoolPc → Option (Nat × Nat)
  | .matching p i _ => p.carries i
  | .freeing p i _ => p.carries i
  | .renewing p i => p.carries i
  | .pushing p i => p.carries i
  | .linking p i _ => p.carries i
  | .returning p i _ => p.carries i
  | _ => none

def PoolEvent.gives (b : Nat) : PoolEvent Tid → Bool
  | .gaveBack b' _ => b' == b
  | _ => false

def PoolEvent.allocates : PoolEvent Tid → Bool
  | .allocated _ _ => true
  | _ => false

theorem purpose_slot (p : Purpose) (i b j : Nat) (carries : p.carries i = some (b, j)) : i = j := by
  cases p with
  | refuse rc => cases carries
  | release b' =>
      cases carries
      rfl

theorem carries_slot (pc : PoolPc) (b i : Nat) (carries : pc.carries = some (b, i)) : pc.slot = some i := by
  cases pc with
  | matching p j g => exact congrArg some (purpose_slot p j b i carries)
  | freeing p j g => exact congrArg some (purpose_slot p j b i carries)
  | renewing p j => exact congrArg some (purpose_slot p j b i carries)
  | pushing p j => exact congrArg some (purpose_slot p j b i carries)
  | linking p j head => exact congrArg some (purpose_slot p j b i carries)
  | returning p j head => exact congrArg some (purpose_slot p j b i carries)
  | _ => cases carries

theorem move_carries (s : PoolState Tid) (t : Tid) (free : List Nat) (pooled : Pooled s free) (here there : PoolPc)
    (at_ : s.pc t = here) (moves : PoolMove s here there) :
    there.carries = here.carries := by
  have slot := (move_ok s free t pooled here there at_ moves).2.1
  cases moves with
  | outside | stale | unmarked => cases slot
  | _ => rfl

theorem return_quiet (s : PoolState Tid) (t : Tid) (here : PoolPc) (event : PoolEvent Tid) (returns : PoolReturn s t here event) :
    here.carries = none ∧ event.allocates = false ∧ ∀ b, event.gives b = false := by
  cases returns with
  | unheard p unclosed => cases p <;> exact ⟨rfl, rfl, fun _ => rfl⟩
  | _ => exact ⟨rfl, rfl, fun _ => rfl⟩

section Steps

variable [DecidableEq Tid] (s : PoolState Tid) (t : Tid) (events : List (PoolEvent Tid)) (s' : PoolState Tid)

-- What a step does with the buffers and with the slots on their way back.
inductive PoolChange : Prop
  | quiet (buffers : s'.buffers = s.buffers) (carries : ∀ t', (s'.pc t').carries = (s.pc t').carries)
      (gives : ∀ b, events.countP (PoolEvent.gives b) = 0) (allocates : ∀ e ∈ events, e.allocates = false)
  | wrapped (i g : Nat) (here : s.pc t = .wrapping i g) (allocates : events = [.allocated t s.buffers.length])
      (buffers : s'.buffers = s.buffers ++ [ControlBlock.mk i g false]) (carries : ∀ t', (s'.pc t').carries = (s.pc t').carries)
  | flagged (b : Nat) (cb : ControlBlock) (made : s.buffers[b]? = some cb) (live : cb.released = false) (silent : events = [])
      (buffers : s'.buffers = s.buffers.set b { cb with released := true }) (before : (s.pc t).carries = none)
      (carries : (s'.pc t).carries = some (b, cb.slotIndex))
      (others : ∀ t', t' ≠ t → (s'.pc t').carries = (s.pc t').carries)
  | gave (b i : Nat) (here : (s.pc t).carries = some (b, i)) (gives : events = [.gaveBack b i]) (buffers : s'.buffers = s.buffers)
      (carries : (s'.pc t).carries = none) (others : ∀ t', t' ≠ t → (s'.pc t').carries = (s.pc t').carries)

theorem others_carry (step : PoolStep s t events s') (t' : Tid) (other : t' ≠ t) : (s'.pc t').carries = (s.pc t').carries := by
  rcases step_others s t events s' step t' other with same | ⟨c, before, after⟩
  · rw [same]
  · rw [before, after]
    rfl

theorem quiet_change (step : PoolStep s t events s') (buffers : s'.buffers = s.buffers) (own : (s'.pc t).carries = (s.pc t).carries)
    (silent : ∀ e ∈ events, e.allocates = false ∧ ∀ b, e.gives b = false) : PoolChange s t events s' := by
  refine .quiet buffers ?_ ?_ fun e member => (silent e member).1
  · intro t'
    by_cases same : t' = t
    · rw [same, own]
    · exact others_carry s t events s' step t' same
  · intro b
    refine List.countP_eq_zero.mpr ?_
    intro e member gives
    rw [(silent e member).2 b] at gives
    cases gives

theorem pool_change (free : List Nat) (pooled : Pooled s free) (step : PoolStep s t events s') : PoolChange s t events s' := by
  have quiet := quiet_change s t events s' step
  have others := others_carry s t events s' step
  have own (there : PoolPc) (there_ : s'.pc t = there) (here : PoolPc) (here_ : s.pc t = here) (same : there.carries = here.carries) :
      (s'.pc t).carries = (s.pc t).carries := by rw [there_, here_, same]
  cases step with
  | unnamed key rc here bad => exact quiet rfl rfl (by rintro e (_ | ⟨_, no⟩); exacts [⟨rfl, fun _ => rfl⟩, nomatch no])
  | outside value info here found => exact quiet rfl rfl (by rintro e (_ | ⟨_, no⟩); exacts [⟨rfl, fun _ => rfl⟩, nomatch no])
  | allocate key here named short => exact quiet rfl (own _ (Function.update_self ..) _ here rfl) (fun e no => nomatch no)
  | release b here made => exact quiet rfl (own _ (Function.update_self ..) _ here rfl) (fun e no => nomatch no)
  | identify value i here found => exact quiet rfl (own _ (Function.update_self ..) _ here rfl) (fun e no => nomatch no)
  | beginClose here => exact quiet rfl (own _ (Function.update_self ..) _ here rfl) (fun e no => nomatch no)
  | waitUntilIdle here begun => exact quiet rfl (own _ (Function.update_self ..) _ here rfl) (fun e no => nomatch no)
  | move there moves =>
      exact quiet rfl (own _ (Function.update_self ..) _ rfl (move_carries s t free pooled _ there rfl moves)) (fun e no => nomatch no)
  | return_ event returns =>
      obtain ⟨none_, silent⟩ := return_quiet s t _ event returns
      refine quiet rfl (own _ (Function.update_self ..) _ rfl none_.symm) ?_
      intro e member
      cases List.mem_singleton.mp member
      exact silent
  | write events next writes =>
      generalize here : s.pc t = pc at writes
      cases writes with
      | wrap i g =>
          refine .wrapped i g here rfl rfl ?_
          intro t'
          by_cases same : t' = t
          · rw [same]
            exact own _ (Function.update_self ..) _ here rfl
          · exact others t' same
      | flag b cb made live =>
          refine .flagged b cb made live rfl rfl (by rw [here]; rfl) ?_ others
          show (Function.update s.pc t _ t).carries = _
          rw [Function.update_self]
          rfl
      | push p i head same =>
          cases p with
          | refuse rc => exact quiet rfl (own _ (Function.update_self ..) _ here rfl) (fun e no => nomatch no)
          | release b =>
              refine .gave b i (by rw [here]; rfl) rfl rfl ?_ others
              show (Function.update s.pc t _ t).carries = _
              rw [Function.update_self]
              rfl
      | notify p =>
          refine quiet rfl (own _ (Function.update_self ..) _ here rfl) ?_
          intro e member
          cases List.mem_singleton.mp member
          cases p <;> exact ⟨rfl, fun _ => rfl⟩
      | announce =>
          refine quiet rfl (own _ (Function.update_self ..) _ here rfl) ?_
          intro e member
          cases List.mem_singleton.mp member
          exact ⟨rfl, fun _ => rfl⟩
      | _ => exact quiet rfl (own _ (Function.update_self ..) _ here rfl) (fun e no => nomatch no)

end Steps

-- How often a buffer has given its slot back: never before its release, and once
-- when the call that released it first has brought the slot home.
structure Returned (trace : List (PoolEvent Tid)) (s : PoolState Tid) : Prop where
  carried : ∀ t b i, (s.pc t).carries = some (b, i) →
    (∃ cb, s.buffers[b]? = some cb ∧ cb.released = true ∧ cb.slotIndex = i) ∧ trace.countP (PoolEvent.gives b) = 0
  unmade : ∀ b, s.buffers.length ≤ b → trace.countP (PoolEvent.gives b) = 0
  unreleased : ∀ (b : Nat) (cb : ControlBlock), s.buffers[b]? = some cb → cb.released = false → trace.countP (PoolEvent.gives b) = 0
  home : ∀ (b : Nat) (cb : ControlBlock), s.buffers[b]? = some cb → cb.released = true →
    (∃ t, (s.pc t).carries = some (b, cb.slotIndex)) ∨ trace.countP (PoolEvent.gives b) = 1

theorem returned_fresh (c : PoolConfig) : Returned [] (PoolState.fresh c : PoolState Tid) := by
  refine ⟨?_, fun _ _ => rfl, fun _ _ _ _ => rfl, ?_⟩
  · intro t b i carries
    cases carries
  · intro b cb made
    cases made

section Giving

variable (s : PoolState Tid) (events : List (PoolEvent Tid)) (s' : PoolState Tid) (trace : List (PoolEvent Tid)) (returned : Returned trace s)

include returned

theorem returned_silent (none_ : ∀ b, events.countP (PoolEvent.gives b) = 0) : Returned (trace ++ events) s := by
  have still (b : Nat) : (trace ++ events).countP (PoolEvent.gives b) = trace.countP (PoolEvent.gives b) := by
    rw [List.countP_append, none_, Nat.add_zero]
  refine ⟨?_, ?_, ?_, ?_⟩
  · intro t b i carrying
    rw [still]
    exact returned.carried t b i carrying
  · intro b beyond
    rw [still]
    exact returned.unmade b beyond
  · intro b cb made live
    rw [still]
    exact returned.unreleased b cb made live
  · intro b cb made gone
    rw [still]
    exact returned.home b cb made gone

theorem returned_quiet (buffers : s'.buffers = s.buffers) (carries : ∀ t, (s'.pc t).carries = (s.pc t).carries) : Returned trace s' := by
  refine ⟨?_, ?_, ?_, ?_⟩
  · intro t b i carrying
    rw [carries t] at carrying
    rw [buffers]
    exact returned.carried t b i carrying
  · intro b beyond
    rw [buffers] at beyond
    exact returned.unmade b beyond
  · intro b cb made live
    rw [buffers] at made
    exact returned.unreleased b cb made live
  · intro b cb made gone
    rw [buffers] at made
    rcases returned.home b cb made gone with ⟨t, carrying⟩ | once
    · exact .inl ⟨t, (carries t).trans carrying⟩
    · exact .inr once

-- A new buffer is live, and nobody carries its slot.
theorem returned_wrapped (i g : Nat) (buffers : s'.buffers = s.buffers ++ [ControlBlock.mk i g false])
    (carries : ∀ t, (s'.pc t).carries = (s.pc t).carries) : Returned trace s' := by
  have old (b : Nat) (cb : ControlBlock) (made : s'.buffers[b]? = some cb) :
      s.buffers[b]? = some cb ∨ b = s.buffers.length ∧ cb.released = false := by
    rw [buffers] at made
    rcases Nat.lt_or_ge b s.buffers.length with before | beyond
    · rw [List.getElem?_append_left before] at made
      exact .inl made
    · rw [List.getElem?_append_right beyond, List.getElem?_singleton] at made
      split at made
      · cases made
        exact .inr ⟨by omega, rfl⟩
      · cases made
  refine ⟨?_, ?_, ?_, ?_⟩
  · intro t b j carrying
    rw [carries t] at carrying
    obtain ⟨⟨cb, made, gone, slot⟩, zero⟩ := returned.carried t b j carrying
    refine ⟨⟨cb, ?_, gone, slot⟩, zero⟩
    rw [buffers]
    exact (List.getElem?_append_left (List.getElem?_eq_some_iff.mp made).1).trans made
  · intro b beyond
    rw [buffers, List.length_append] at beyond
    exact returned.unmade b (by omega)
  · intro b cb made live
    rcases old b cb made with before | ⟨last, _⟩
    · exact returned.unreleased b cb before live
    · exact returned.unmade b (Nat.le_of_eq last.symm)
  · intro b cb made gone
    rcases old b cb made with before | ⟨_, fresh⟩
    · rcases returned.home b cb before gone with ⟨t, carrying⟩ | once
      · exact .inl ⟨t, (carries t).trans carrying⟩
      · exact .inr once
    · rw [fresh] at gone
      cases gone

-- The call that releases a buffer first is the one that carries its slot.
theorem returned_flagged (t : Tid) (b : Nat) (cb : ControlBlock) (made : s.buffers[b]? = some cb) (live : cb.released = false)
    (buffers : s'.buffers = s.buffers.set b { cb with released := true }) (before : (s.pc t).carries = none)
    (carries : (s'.pc t).carries = some (b, cb.slotIndex)) (others : ∀ t', t' ≠ t → (s'.pc t').carries = (s.pc t').carries) :
    Returned trace s' := by
  have inside := (List.getElem?_eq_some_iff.mp made).1
  have old (b' : Nat) (apart : b' ≠ b) : s'.buffers[b']? = s.buffers[b']? := by
    rw [buffers, List.getElem?_set_ne (Ne.symm apart)]
  have here : s'.buffers[b]? = some { cb with released := true } := by
    rw [buffers, List.getElem?_set_self inside]
  refine ⟨?_, ?_, ?_, ?_⟩
  · intro t' b' i carrying
    by_cases same : t' = t
    · rw [same, carries] at carrying
      cases carrying
      exact ⟨⟨_, here, rfl, rfl⟩, returned.unreleased b cb made live⟩
    · rw [others t' same] at carrying
      obtain ⟨⟨cb', made', gone, slot⟩, zero⟩ := returned.carried t' b' i carrying
      refine ⟨⟨cb', ?_, gone, slot⟩, zero⟩
      rw [old b' ?_]
      · exact made'
      · rintro rfl
        rw [made] at made'
        cases made'
        rw [live] at gone
        cases gone
  · intro b' beyond
    rw [buffers, List.length_set] at beyond
    exact returned.unmade b' beyond
  · intro b' cb' made' live'
    by_cases same : b' = b
    · rw [same, here] at made'
      cases made'
      cases live'
    · rw [old b' same] at made'
      exact returned.unreleased b' cb' made' live'
  · intro b' cb' made' gone
    by_cases same : b' = b
    · rw [same, here] at made'
      cases made'
      rw [same]
      exact .inl ⟨t, carries⟩
    · rw [old b' same] at made'
      rcases returned.home b' cb' made' gone with ⟨t', carrying⟩ | once
      · refine .inl ⟨t', ?_⟩
        rw [others t' ?_]
        · exact carrying
        · rintro rfl
          rw [before] at carrying
          cases carrying
      · exact .inr once

-- Two calls that carry one buffer's slot are one call.
theorem carries_alone [DecidableEq Tid] (free : List Nat) (pooled : Pooled s free) (t t' : Tid) (b i i' : Nat)
    (here : (s.pc t).carries = some (b, i)) (there : (s.pc t').carries = some (b, i')) : t' = t := by
  obtain ⟨⟨cb, made, _, slot⟩, _⟩ := returned.carried t b i here
  obtain ⟨⟨cb', made', _, slot'⟩, _⟩ := returned.carried t' b i' there
  rw [made] at made'
  cases made'
  cases slot.symm.trans slot'
  cases pooled.kept.alone (.call t) (.call t') i (carries_slot _ b i here) (carries_slot _ b i there)
  rfl

-- The push brings the carried slot home.
theorem returned_gave [DecidableEq Tid] (free : List Nat) (pooled : Pooled s free) (t : Tid) (b i : Nat)
    (here : (s.pc t).carries = some (b, i)) (buffers : s'.buffers = s.buffers) (carries : (s'.pc t).carries = none)
    (others : ∀ t', t' ≠ t → (s'.pc t').carries = (s.pc t').carries) : Returned (trace ++ [PoolEvent.gaveBack b i]) s' := by
  obtain ⟨⟨cb, made, gone, _⟩, zero⟩ := returned.carried t b i here
  have counted (b' : Nat) : (trace ++ [PoolEvent.gaveBack b i]).countP (PoolEvent.gives b') =
      trace.countP (PoolEvent.gives b') + if b = b' then 1 else 0 := by
    rw [List.countP_append, List.countP_singleton]
    exact congrArg (_ + ·) (if_congr beq_iff_eq rfl rfl)
  have still (b' : Nat) (apart : b' ≠ b) : (trace ++ [PoolEvent.gaveBack b i]).countP (PoolEvent.gives b') = trace.countP (PoolEvent.gives b') := by
    rw [counted, if_neg (Ne.symm apart), Nat.add_zero]
  have inside := (List.getElem?_eq_some_iff.mp made).1
  refine ⟨?_, ?_, ?_, ?_⟩
  · intro t' b' i' carrying
    by_cases same : t' = t
    · rw [same, carries] at carrying
      cases carrying
    · rw [others t' same] at carrying
      rw [still b' ?_, buffers]
      · exact returned.carried t' b' i' carrying
      · rintro rfl
        exact same (carries_alone s trace returned free pooled t t' b' i i' here carrying)
  · intro b' beyond
    rw [buffers] at beyond
    rw [still b' (by omega)]
    exact returned.unmade b' beyond
  · intro b' cb' made' live
    rw [buffers] at made'
    rw [still b' ?_]
    · exact returned.unreleased b' cb' made' live
    · rintro rfl
      rw [made] at made'
      cases made'
      rw [live] at gone
      cases gone
  · intro b' cb' made' gone'
    by_cases same : b' = b
    · rw [same, counted, if_pos rfl, zero]
      exact .inr rfl
    · rw [buffers] at made'
      rw [still b' same]
      rcases returned.home b' cb' made' gone' with ⟨t', carrying⟩ | once
      · refine .inl ⟨t', ?_⟩
        rw [others t' ?_]
        · exact carrying
        · rintro rfl
          rw [here] at carrying
          cases carrying
          exact same rfl
      · exact .inr once

theorem returned_step [DecidableEq Tid] (t : Tid) (free : List Nat) (pooled : Pooled s free) (change : PoolChange s t events s') :
    Returned (trace ++ events) s' := by
  cases change with
  | quiet buffers carries gives allocates =>
      exact returned_silent s' events trace (returned_quiet s s' trace returned buffers carries) gives
  | wrapped i g here allocates buffers carries =>
      exact returned_silent s' events trace (returned_wrapped s s' trace returned i g buffers carries) fun b => by rw [allocates]; rfl
  | flagged b cb made live silent buffers before carries others =>
      exact returned_silent s' events trace (returned_flagged s s' trace returned t b cb made live buffers before carries others)
        fun b => by rw [silent]; rfl
  | gave b i here gives buffers carries others =>
      rw [gives]
      exact returned_gave s s' trace returned free pooled t b i here buffers carries others

end Giving

-- The call has not gone for a slot, or it has nothing left to do with one.
def PoolPc.outside : PoolPc → Bool
  | .checking _ => true
  | .dropping _ => true
  | pc => !pc.counted

theorem outside_slot (pc : PoolPc) (outside : pc.outside = true) : pc.slot = none := by
  cases pc <;> first | rfl | cases outside

-- A closed pool without buffers, in which no call goes for a slot any more.
structure Shut (s : PoolState Tid) : Prop where
  closing : s.closing = true
  live : s.live = 0
  pcs : ∀ t, (s.pc t).outside = true

section Closing

variable [DecidableEq Tid] (s : PoolState Tid) (t : Tid) (events : List (PoolEvent Tid)) (s' : PoolState Tid)
  (step : PoolStep s t events s')

include step

theorem closing_step (closing : s.closing = true) : s'.closing = true := by
  cases step with
  | beginClose here => rfl
  | write events next writes =>
      generalize s.pc t = here at writes
      cases writes <;> exact closing
  | _ => exact closing

theorem outside_step (shut : Shut s) : (s'.pc t).outside = true := by
  have there (pc : PoolPc) (outside : pc.outside = true) : (Function.update s.pc t pc t).outside = true := by
    rw [Function.update_self]
    exact outside
  have outside := shut.pcs t
  cases step with
  | unnamed | outside => exact outside
  | allocate | release | identify | beginClose | waitUntilIdle | return_ => exact there _ rfl
  | move pc moves =>
      refine there pc ?_
      generalize s.pc t = here at moves outside
      cases moves with
      | admitted key unclosed =>
          rw [shut.closing] at unclosed
          cases unclosed
      | _ => first | rfl | cases outside
  | write events next writes =>
      generalize s.pc t = here at writes outside
      cases writes with
      | flag b cb made live =>
          have all := List.countP_eq_zero.mp shut.live cb (List.mem_of_getElem? made)
          rw [live] at all
          exact absurd rfl all
      | notify | announce =>
          show (Function.update (wakeAll s.pc) t _ t).outside = true
          rw [Function.update_self]
          rfl
      | _ => first | exact there _ rfl | cases outside

theorem shut_step (free : List Nat) (pooled : Pooled s free) (shut : Shut s) : Shut s' ∧ ∀ e ∈ events, e.allocates = false := by
  have pcs (t' : Tid) : (s'.pc t').outside = true := by
    by_cases same : t' = t
    · rw [same]
      exact outside_step s t events s' step shut
    · rcases step_others s t events s' step t' same with still | ⟨c, _, after⟩
      · rw [still]
        exact shut.pcs t'
      · rw [after]
        rfl
  have empty (b i : Nat) (carries : (s.pc t).carries = some (b, i)) : False := by
    have slot := outside_slot _ (shut.pcs t)
    rw [carries_slot _ b i carries] at slot
    cases slot
  cases pool_change s t events s' free pooled step with
  | quiet buffers carries gives allocates =>
      refine ⟨⟨closing_step s t events s' step shut.closing, ?_, pcs⟩, allocates⟩
      rw [PoolState.live, buffers]
      exact shut.live
  | wrapped i g here =>
      have outside := shut.pcs t
      rw [here] at outside
      cases outside
  | flagged b cb made live =>
      have all := List.countP_eq_zero.mp shut.live cb (List.mem_of_getElem? made)
      rw [live] at all
      exact absurd rfl all
  | gave b i here => exact (empty b i here).elim

omit [DecidableEq Tid] step in
theorem event_settles (p : Purpose) (t t' : Tid) : PoolEvent.settled t' ≠ p.event t := by
  intro same
  cases p <;> cases same

theorem settled_idle (t' : Tid) (settled : .settled t' ∈ events) : s.pc t = .counting ∧ s.activeCount = 0 := by
  cases step with
  | unnamed | outside => cases List.mem_singleton.mp settled
  | allocate | release | identify | beginClose | waitUntilIdle | move => cases settled
  | return_ event returns =>
      rw [List.mem_singleton] at settled
      generalize s.pc t = here at returns
      cases returns with
      | unheard p unclosed => exact absurd settled (event_settles p t t')
      | settled none_ => exact ⟨rfl, none_⟩
      | _ => cases settled
  | write events next writes =>
      generalize s.pc t = here at writes
      cases writes with
      | push p i head same => cases p with
        | refuse rc => cases settled
        | release b => cases List.mem_singleton.mp settled
      | notify p => exact absurd (List.mem_singleton.mp settled) (event_settles p t t')
      | wrap | announce => cases List.mem_singleton.mp settled
      | _ => cases settled

end Closing

-- The holders of references are few enough for the counter.
def PoolState.Few (s : PoolState Tid) : Prop := s.live + s.calls.ncard < 2 ^ 32

theorem count_exact (s : PoolState Tid) (free : List Nat) (pooled : Pooled s free) (few : s.Few) :
    s.activeCount.toNat = s.live + s.calls.ncard := by
  rw [pooled.counted]
  exact UInt32.toNat_ofNat_of_lt' few

theorem count_zero (s : PoolState Tid) (free : List Nat) (pooled : Pooled s free) (few : s.Few) (zero : s.activeCount = 0) :
    s.live = 0 ∧ s.calls = ∅ := by
  have exact_ := count_exact s free pooled few
  rw [zero] at exact_
  have none_ : s.live + s.calls.ncard = 0 := exact_.symm
  exact ⟨by omega, (Set.ncard_eq_zero pooled.finite).mp (by omega)⟩

-- Live buffers have slots of their own.
theorem live_slots (s : PoolState Tid) (free : List Nat) (pooled : Pooled s free) : s.live ≤ s.config.slotCount := by
  have apart : ((s.buffers.filter fun cb => !cb.released).map ControlBlock.slotIndex).Nodup := by
    rw [List.Nodup, List.pairwise_map, List.pairwise_filter, List.pairwise_iff_getElem]
    intro b b' inside inside' before live live' same
    have first := buffer_keeps s b _ (List.getElem?_eq_getElem inside) (Bool.not_eq_true' _ ▸ live)
    have second := buffer_keeps s b' _ (List.getElem?_eq_getElem inside') (Bool.not_eq_true' _ ▸ live')
    rw [← same] at second
    cases pooled.kept.alone (.buffer b) (.buffer b') _ first second
    exact Nat.lt_irrefl b before
  have inside : ∀ i ∈ (s.buffers.filter fun cb => !cb.released).map ControlBlock.slotIndex, i ∈ List.range s.config.slotCount := by
    intro i member
    obtain ⟨cb, kept, rfl⟩ := List.mem_map.mp member
    obtain ⟨made, live⟩ := List.mem_filter.mp kept
    obtain ⟨b, found⟩ := List.mem_iff_getElem?.mp made
    rw [List.mem_range]
    exact (pooled.kept.whole _).mp (.inr ⟨.buffer b, buffer_keeps s b cb found (Bool.not_eq_true' _ ▸ live)⟩)
  have shorter := (apart.subperm inside).length_le
  rw [List.length_map, List.length_range] at shorter
  rw [PoolState.live, List.countP_eq_length_filter]
  exact shorter

def PoolPc.wakes (pc : PoolPc) : Prop := ∃ p, pc = .looking p ∨ pc = .notifying p

-- A closer sleeps on an idle pool only while a call is about to wake it.
def Heard (s : PoolState Tid) : Prop := ∀ t c, s.pc t = .asleep c → s.activeCount = 0 → ∃ t', (s.pc t').wakes

section Waking

variable [DecidableEq Tid] (s : PoolState Tid) (t : Tid) (events : List (PoolEvent Tid)) (s' : PoolState Tid)
  (step : PoolStep s t events s')

include step

theorem count_step : s'.activeCount = s.activeCount ∨ (s'.pc t).counted = true ∨ (s'.pc t).wakes := by
  cases step with
  | write events next writes =>
      generalize s.pc t = here at writes
      cases writes with
      | enter key =>
          refine .inr (.inl ?_)
          show (Function.update s.pc t _ t).counted = true
          rw [Function.update_self]
          rfl
      | drop p => exact .inr (.inr ⟨p, .inl (Function.update_self ..)⟩)
      | _ => exact .inl rfl
  | _ => exact .inl rfl

theorem asleep_step (t' : Tid) (c : UInt32) (after : s'.pc t' = .asleep c) :
    s.pc t' = .asleep c ∨ t' = t ∧ s.pc t = .comparing c ∧ s'.activeCount = c := by
  by_cases same : t' = t
  · rw [same] at after
    have there (pc : PoolPc) (next : Function.update s.pc t pc t = .asleep c) : pc = .asleep c := by
      rw [Function.update_self] at next
      exact next
    cases step with
    | unnamed key rc here => rw [here] at after; cases after
    | outside value info here => rw [here] at after; cases after
    | allocate | release | identify | beginClose | waitUntilIdle | return_ => cases there _ after
    | move pc moves =>
        cases there _ after
        generalize here : s.pc t = pc at moves
        cases moves with
        | blocks _ equal => exact .inr ⟨same, rfl, equal⟩
    | write events next writes =>
        generalize s.pc t = here at writes
        cases writes with
        | notify | announce =>
            have woken : Function.update (wakeAll s.pc) t .idle t = .asleep c := after
            rw [Function.update_self] at woken
            cases woken
        | _ => cases there _ after
  · rcases step_others s t events s' step t' same with still | ⟨d, _, woken⟩
    · exact .inl (still ▸ after)
    · rw [woken] at after
      cases after

theorem looking_step (p : Purpose) (here : s.pc t = .looking p) (closing : s.closing = true) : s'.pc t = .notifying p := by
  rcases called_step s t events s' step _ here PoolPc.noConfusion with ⟨there, moves, _, rfl⟩ | ⟨event, returns, _, _⟩ | writes
  · cases moves with
    | heard => exact Function.update_self ..
  · cases returns with
    | unheard _ unclosed =>
        rw [closing] at unclosed
        cases unclosed
  · cases writes

theorem notifying_step (p : Purpose) (here : s.pc t = .notifying p) (t' : Tid) (c : UInt32) : s'.pc t' ≠ .asleep c := by
  rcases called_step s t events s' step _ here PoolPc.noConfusion with ⟨there, moves, _, _⟩ | ⟨event, returns, _, _⟩ | writes
  · cases moves
  · cases returns
  · cases writes with
    | notify =>
        show Function.update (wakeAll s.pc) t .idle t' ≠ _
        intro asleep
        by_cases same : t' = t
        · rw [same, Function.update_self] at asleep
          cases asleep
        · rw [Function.update_of_ne same, wakeAll] at asleep
          cases at_ : s.pc t' <;> rw [at_] at asleep <;> cases asleep

theorem wakes_stays (t' : Tid) (other : t' ≠ t) (wakes : (s.pc t').wakes) : s'.pc t' = s.pc t' := by
  rcases step_others s t events s' step t' other with same | ⟨c, before, _⟩
  · exact same
  · rw [before] at wakes
    obtain ⟨p, no | no⟩ := wakes <;> cases no

theorem heard_step (free free' : List Nat) (pooled : Pooled s free) (pooled' : Pooled s' free') (few' : s'.Few) (heard : Heard s) :
    Heard s' := by
  intro t₀ c asleep zero
  have before : s.pc t₀ = .asleep c := by
    rcases asleep_step s t events s' step t₀ c asleep with still | ⟨_, comparing, equal⟩
    · exact still
    · have ok := pooled.pcs t
      rw [comparing] at ok
      exact absurd (equal.symm.trans zero) ok.2
  have closing : s.closing = true := by
    have ok := pooled.pcs t₀
    rw [before] at ok
    exact ok.1
  rcases count_step s t events s' step with same | entered | wakes
  · obtain ⟨t', wakes⟩ := heard t₀ c before (same ▸ zero)
    by_cases own : t' = t
    · rw [own] at wakes
      obtain ⟨p, looking | notifying⟩ := wakes
      · exact ⟨t, p, .inr (looking_step s t events s' step p looking closing)⟩
      · exact absurd asleep (notifying_step s t events s' step p notifying t₀ c)
    · refine ⟨t', ?_⟩
      rw [wakes_stays s t events s' step t' own wakes]
      exact wakes
  · have nobody := (count_zero s' free' pooled' few' zero).2
    have inside : t ∈ s'.calls := entered
    rw [nobody] at inside
    exact inside.elim
  · exact ⟨t, wakes⟩

end Waking

-- The pool along one run. Behind a WaitUntilIdle that came back no buffer is
-- live, no call has a slot, and no Allocate returns one.
structure PoolSound [DecidableEq Tid] (path : (poolMachine Tid).Path) : Prop where
  custody : ∀ n, ∃ free, Chain (path.state n).nextFree (path.state n).freeHead.index free ∧
    Kept (· < (path.state n).config.slotCount) free (path.state n).keeps
  apart : ∀ n (b b' : Nat) (cb cb' : ControlBlock), (path.state n).buffers[b]? = some cb → (path.state n).buffers[b']? = some cb' →
    cb.released = false → cb'.released = false → cb.slotIndex = cb'.slotIndex → b = b'
  counted : ∀ n, (path.state n).activeCount.toNat = (path.state n).live + (path.state n).calls.ncard
  unreleased : ∀ n (b : Nat) (cb : ControlBlock), (path.state n).buffers[b]? = some cb → cb.released = false →
    (path.trace n).countP (PoolEvent.gives b) = 0
  once : ∀ n (b : Nat) (cb : ControlBlock), (path.state n).buffers[b]? = some cb → cb.released = true →
    (path.trace n).countP (PoolEvent.gives b) =
      open Classical in if ∃ t, ((path.state n).pc t).carries = some (b, cb.slotIndex) then 0 else 1
  own : ∀ n b i, .gaveBack b i ∈ path.events n → ∃ cb, (path.state n).buffers[b]? = some cb ∧ cb.slotIndex = i
  shut : ∀ n t, .settled t ∈ path.events n → ∀ k, n ≤ k → (path.state k).live = 0 ∧ (∀ t', ((path.state k).pc t').slot = none) ∧
    ∀ e ∈ path.events k, e.allocates = false
  woken : path.Fair (fun s t => (s.pc t).wakes) → ∀ n t c, (path.state n).pc t = .asleep c → (path.state n).activeCount = 0 →
    ∃ k, n ≤ k ∧ ∀ c', (path.state k).pc t ≠ .asleep c'

section Paths

variable [DecidableEq Tid] (path : (poolMachine Tid).Path)

theorem pooled_path (n : Nat) : ∃ free, Pooled (path.state n) free := pooled_run _ _ (path_run _ path n)

theorem returned_path (n : Nat) : Returned (path.trace n) (path.state n) := by
  have both : ∃ free, Pooled (path.state n) free ∧ Returned (path.trace n) (path.state n) := by
    refine run_invariant (poolMachine Tid) (fun trace s => ∃ free, Pooled s free ∧ Returned trace s) ?_ ?_ _ _ (path_run _ path n)
    · rintro s ⟨deviceId, poolId, slotCount, base, created⟩
      rw [created_fresh s deviceId poolId slotCount base created]
      exact ⟨_, pooled_fresh s.config, returned_fresh s.config⟩
    · rintro trace s t events s' ⟨free, pooled, returned⟩ step
      obtain ⟨free', pooled'⟩ := pooled_step s free t pooled events s' step
      exact ⟨free', pooled', returned_step s events s' trace returned t free pooled (pool_change s t events s' free pooled step)⟩
  exact both.elim fun _ => And.right

theorem shut_path (n : Nat) (shut : Shut (path.state n)) (k : Nat) (later : n ≤ k) : Shut (path.state k) := by
  induction k with
  | zero =>
      cases Nat.le_zero.mp later
      exact shut
  | succ k ih =>
      rcases Nat.lt_or_ge n (k + 1) with before | after
      · have here := ih (by omega)
        cases moved : path.actor k with
        | none =>
            rw [(path.idles k moved).1]
            exact here
        | some t =>
            obtain ⟨free, pooled⟩ := pooled_path path k
            exact (shut_step _ t _ _ (path.moves k t moved) free pooled here).1
      · cases Nat.le_antisymm later after
        exact shut

theorem shut_silent (n : Nat) (shut : Shut (path.state n)) (e : PoolEvent Tid) (member : e ∈ path.events n) : e.allocates = false := by
  cases moved : path.actor n with
  | none =>
      rw [(path.idles n moved).2] at member
      cases member
  | some t =>
      obtain ⟨free, pooled⟩ := pooled_path path n
      exact (shut_step _ t _ _ (path.moves n t moved) free pooled shut).2 e member

theorem closing_path (n : Nat) (closing : (path.state n).closing = true) (k : Nat) (later : n ≤ k) : (path.state k).closing = true := by
  induction k with
  | zero =>
      cases Nat.le_zero.mp later
      exact closing
  | succ k ih =>
      rcases Nat.lt_or_ge n (k + 1) with before | after
      · cases moved : path.actor k with
        | none =>
            rw [(path.idles k moved).1]
            exact ih (by omega)
        | some t => exact closing_step _ t _ _ (path.moves k t moved) (ih (by omega))
      · cases Nat.le_antisymm later after
        exact closing

-- Who looks at the flag behind its reference finds the close begun, and wakes.
theorem wakes_path (fair : path.Fair fun s t => (s.pc t).wakes) (n : Nat) (t' : Tid) (closing : (path.state n).closing = true)
    (wakes : ((path.state n).pc t').wakes) (t : Tid) : ∃ k, n ≤ k ∧ ∀ c, (path.state k).pc t ≠ .asleep c := by
  have stays (p : PoolPc) (ready : p.wakes) (s : PoolState Tid) (b : Tid) (events : List (PoolEvent Tid)) (s' : PoolState Tid) (other : b ≠ t')
      (here : s.pc t' = p) (step : (poolMachine Tid).step s b events s') : s'.pc t' = p :=
    (wakes_stays s b events s' step t' (Ne.symm other) (here ▸ ready)).trans here
  have moves (p : PoolPc) (ready : p.wakes) (m : Nat) (now : (path.state m).pc t' = p) :=
    fair_moves _ path _ fair (fun s => s.pc t' = p) t' m now (fun k _ here => by rw [here]; exact ready) (stays p ready)
  have told (p : Purpose) (m : Nat) (notifying : (path.state m).pc t' = .notifying p) :
      ∃ k, m ≤ k ∧ ∀ c, (path.state k).pc t ≠ .asleep c := by
    obtain ⟨k, later, here, moved⟩ := moves _ ⟨p, .inr rfl⟩ m notifying
    exact ⟨k + 1, by omega, notifying_step _ t' _ _ (path.moves k t' moved) p here t⟩
  obtain ⟨p, looking | notifying⟩ := wakes
  · obtain ⟨k, later, here, moved⟩ := moves _ ⟨p, .inl rfl⟩ n looking
    have next := looking_step _ t' _ _ (path.moves k t' moved) p here (closing_path path n closing k later)
    obtain ⟨j, after, awake⟩ := told p (k + 1) next
    exact ⟨j, by omega, awake⟩
  · exact told p n notifying

theorem config_path (n : Nat) : (path.state n).config = (path.state 0).config := by
  induction n with
  | zero => rfl
  | succ n ih =>
      cases moved : path.actor n with
      | none => rw [(path.idles n moved).1, ih]
      | some t => rw [config_step _ t _ _ (path.moves n t moved), ih]

-- As many threads as a machine has stay far below the bound.
theorem few_path [Finite Tid] (small : (path.state 0).config.slotCount + Nat.card Tid < 2 ^ 32) (n : Nat) : (path.state n).Few := by
  obtain ⟨free, pooled⟩ := pooled_path path n
  have live := live_slots _ free pooled
  have calls := Set.ncard_le_card (path.state n).calls
  rw [config_path path n] at live
  show _ + _ < _
  omega

variable (few : ∀ n, (path.state n).Few)

include few

theorem heard_path (n : Nat) : Heard (path.state n) := by
  induction n with
  | zero =>
      obtain ⟨deviceId, poolId, slotCount, base, created⟩ := path.first
      intro t c asleep
      rw [created_fresh _ deviceId poolId slotCount base created] at asleep
      cases asleep
  | succ n ih =>
      cases moved : path.actor n with
      | none =>
          rw [(path.idles n moved).1]
          exact ih
      | some t =>
          obtain ⟨free, pooled⟩ := pooled_path path n
          obtain ⟨free', pooled'⟩ := pooled_path path (n + 1)
          exact heard_step _ t _ _ (path.moves n t moved) free free' pooled pooled' (few (n + 1)) ih

theorem settled_shut (n : Nat) (t : Tid) (settled : .settled t ∈ path.events n) : Shut (path.state n) := by
  obtain ⟨free, pooled⟩ := pooled_path path n
  cases moved : path.actor n with
  | none =>
      rw [(path.idles n moved).2] at settled
      cases settled
  | some t' =>
      obtain ⟨counting, zero⟩ := settled_idle _ t' _ _ (path.moves n t' moved) t settled
      have ok := pooled.pcs t'
      rw [counting] at ok
      obtain ⟨live, nobody⟩ := count_zero _ free pooled (few n) zero
      refine ⟨ok, live, ?_⟩
      intro t₀
      have uncounted : ((path.state n).pc t₀).counted ≠ true := fun counted => by
        have inside : t₀ ∈ (path.state n).calls := counted
        rw [nobody] at inside
        exact inside
      cases here : (path.state n).pc t₀ <;> first | rfl | exact absurd (by rw [here]; rfl) uncounted

theorem pool_sound : PoolSound path := by
  refine ⟨?_, ?_, ?_, ?_, ?_, ?_, ?_, ?_⟩
  · intro n
    obtain ⟨free, pooled⟩ := pooled_path path n
    exact ⟨free, pooled.chain, pooled.kept⟩
  · intro n b b' cb cb' made made' live live' same
    obtain ⟨free, pooled⟩ := pooled_path path n
    have first := buffer_keeps _ b cb made live
    have second := buffer_keeps _ b' cb' made' live'
    rw [← same] at second
    cases pooled.kept.alone (.buffer b) (.buffer b') _ first second
    rfl
  · intro n
    obtain ⟨free, pooled⟩ := pooled_path path n
    exact count_exact _ free pooled (few n)
  · intro n b cb made live
    exact (returned_path path n).unreleased b cb made live
  · intro n b cb made gone
    split
    · next carried =>
        obtain ⟨t, carries⟩ := carried
        exact ((returned_path path n).carried t b _ carries).2
    · next none_ => exact ((returned_path path n).home b cb made gone).resolve_left none_
  · intro n b i gave
    obtain ⟨free, pooled⟩ := pooled_path path n
    cases moved : path.actor n with
    | none =>
        rw [(path.idles n moved).2] at gave
        cases gave
    | some t =>
        cases pool_change _ t _ _ free pooled (path.moves n t moved) with
        | quiet buffers carries gives allocates =>
            exact absurd (beq_self_eq_true b) (List.countP_eq_zero.mp (gives b) _ gave)
        | wrapped j g here allocates =>
            rw [allocates] at gave
            cases List.mem_singleton.mp gave
        | flagged b' cb made live silent =>
            rw [silent] at gave
            cases gave
        | gave b' j here gives =>
            rw [gives] at gave
            cases List.mem_singleton.mp gave
            obtain ⟨⟨cb, made, _, slot⟩, _⟩ := (returned_path path n).carried t b i here
            exact ⟨cb, made, slot⟩
  · intro n t settled k later
    have shut := shut_path path n (settled_shut path few n t settled) k later
    exact ⟨shut.live, fun t' => outside_slot _ (shut.pcs t'), shut_silent path k shut⟩
  · intro fair n t c asleep zero
    obtain ⟨free, pooled⟩ := pooled_path path n
    have ok := pooled.pcs t
    rw [asleep] at ok
    obtain ⟨t', wakes⟩ := heard_path path few n t c asleep zero
    exact wakes_path path fair n t' ok.1 wakes t

end Paths

-- One slot is lent and nobody is inside a call but a closer that may be there.
structure Lent (s : PoolState Bool) (closing : Bool) (closer : PoolPc) : Prop where
  slots : s.config.slotCount = 1
  closing : s.closing = closing
  count : s.activeCount = 1
  used : s.allocated 0 = true
  dated : s.generation 0 = 1
  made : s.buffers = [⟨0, 1, false⟩]
  lender : s.pc false = .idle
  closer : s.pc true = closer

theorem lent_run : ∃ s, (poolMachine Bool).Run [.allocated false 0] s ∧ Lent s false .idle := by
  have start : (poolMachine Bool).start (.fresh ⟨0, 0, 1, 4096⟩) := ⟨0, 0, 1, some 4096, rfl⟩
  have opening := Machine.Run.next _ _ _ _ false (.begin _ start) (PoolStep.allocate [1] rfl (by decide) (by decide))
  have entering := Machine.Run.next _ _ _ _ false opening (PoolStep.move _ (.opened [1] rfl))
  have entered := Machine.Run.next _ _ _ _ false entering (PoolStep.write _ _ (.enter [1]))
  have popping := Machine.Run.next _ _ _ _ false entered (PoolStep.move _ (.admitted [1] rfl))
  have following := Machine.Run.next _ _ _ _ false popping (PoolStep.move _ (.found [1] 0 rfl))
  have swapping := Machine.Run.next _ _ _ _ false following (PoolStep.move _ (.followed [1] _ 0))
  have popped := Machine.Run.next _ _ _ _ false swapping (PoolStep.write _ _ (.pop [1] _ 0 _ rfl))
  have named := Machine.Run.next _ _ _ _ false popped (PoolStep.write _ _ (.name [1] 0 0 1 rfl))
  have sized := Machine.Run.next _ _ _ _ false named (PoolStep.write _ _ (.size [1] 0))
  have marked := Machine.Run.next _ _ _ _ false sized (PoolStep.write _ _ (.mark [1] 0))
  have stamped := Machine.Run.next _ _ _ _ false marked (PoolStep.move _ (.stamped 0))
  exact ⟨_, Machine.Run.next _ _ _ _ false stamped (PoolStep.write _ _ (.wrap 0 _)), rfl, rfl, rfl, rfl, rfl, rfl, rfl, rfl⟩

theorem two_threads (pc : Bool → PoolPc) (first second : PoolPc) (lender : pc false = first) (closer : pc true = second) :
    pc = fun t => bif t then second else first := by
  funext t
  cases t
  · exact lender
  · exact closer

-- The closer falls asleep on the one reference.
theorem closer_sleeps (trace : List (PoolEvent Bool)) (s : PoolState Bool) (run : (poolMachine Bool).Run trace s) (lent : Lent s false .idle) :
    ∃ s', (poolMachine Bool).Run (trace ++ [.closed true]) s' ∧ Lent s' true (.asleep 1) := by
  obtain ⟨config, nextFree, allocated, generation, keyLen, keyBytes, closing, count, head, buffers, pc, tenant⟩ := s
  obtain ⟨slots, rfl, rfl, used, dated, rfl, lender, closer⟩ := lent
  cases two_threads pc _ _ lender closer
  have begun := Machine.Run.next _ _ _ _ true run (PoolStep.beginClose rfl)
  have announced := Machine.Run.next _ _ _ _ true begun (PoolStep.write _ _ .announce)
  have waits := Machine.Run.next _ _ _ _ true announced (PoolStep.waitUntilIdle rfl rfl)
  have counted := Machine.Run.next _ _ _ _ true waits (PoolStep.move _ (.counted (by decide : (1 : UInt32) ≠ 0)))
  have sleeps := Machine.Run.next _ _ _ _ true counted (PoolStep.move _ (.blocks 1 rfl))
  simp only [List.append_nil] at sleeps
  exact ⟨_, sleeps, slots, rfl, rfl, used, dated, rfl, rfl, rfl⟩

-- The release notifies it, and the second one does nothing.
theorem lender_releases (trace : List (PoolEvent Bool)) (s : PoolState Bool) (run : (poolMachine Bool).Run trace s)
    (lent : Lent s true (.asleep 1)) : ∃ s', (poolMachine Bool).Run
      (trace ++ [.gaveBack 0 0, .released false 0, .released false 0, .settled true]) s' ∧ s'.config.slotCount = 1 := by
  obtain ⟨config, nextFree, allocated, generation, keyLen, keyBytes, closing, count, head, buffers, pc, tenant⟩ := s
  obtain ⟨slots, rfl, rfl, used, dated, rfl, lender, closer⟩ := lent
  cases two_threads pc _ _ lender closer
  have released := Machine.Run.next _ _ _ _ false run (PoolStep.release 0 rfl (by decide : 0 < 1))
  have flagged := Machine.Run.next _ _ _ _ false released (PoolStep.write _ _ (.flag 0 _ rfl rfl))
  have matched := Machine.Run.next _ _ _ _ false flagged (PoolStep.move _ (.current (.release 0) 0 1 (slots ▸ Nat.zero_lt_one) dated))
  have freed := Machine.Run.next _ _ _ _ false matched (PoolStep.write _ _ (.free _ 0 _ used))
  have renewed := Machine.Run.next _ _ _ _ false freed (PoolStep.write _ _ (.renew _ 0))
  have loaded := Machine.Run.next _ _ _ _ false renewed (PoolStep.move _ (.loaded _ 0))
  have linked := Machine.Run.next _ _ _ _ false loaded (PoolStep.write _ _ (.link _ 0 _))
  have pushed := Machine.Run.next _ _ _ _ false linked (PoolStep.write _ _ (.push (.release 0) 0 _ rfl))
  have dropped := Machine.Run.next _ _ _ _ false pushed (PoolStep.write _ _ (.drop _))
  have heard := Machine.Run.next _ _ _ _ false dropped (PoolStep.move _ (.heard _ rfl))
  have notified := Machine.Run.next _ _ _ _ false heard (PoolStep.write _ _ (.notify (.release 0)))
  have twice := Machine.Run.next _ _ _ _ false notified (PoolStep.release 0 rfl (by decide : 0 < 1))
  have spent := Machine.Run.next _ _ _ _ false twice (PoolStep.return_ _ (.spent 0 _ rfl rfl))
  have awake := Machine.Run.next _ _ _ _ true spent (PoolStep.move _ (.differs 1 (show (1 : UInt32) - 1 ≠ 1 by decide)))
  have settled := Machine.Run.next _ _ _ _ true awake (PoolStep.return_ _ (.settled (show (1 : UInt32) - 1 = 0 by decide)))
  simp only [List.append_nil, List.append_assoc] at settled
  exact ⟨_, settled, slots⟩

theorem pool_sound_lender : ∃ (path : (poolMachine Bool).Path) (n : Nat), path.trace n =
    [.allocated false 0, .closed true, .gaveBack 0 0, .released false 0, .released false 0, .settled true] ∧ PoolSound path := by
  obtain ⟨s1, run1, lent⟩ := lent_run
  obtain ⟨s2, run2, sleeping⟩ := closer_sleeps _ s1 run1 lent
  obtain ⟨s, run, slots⟩ := lender_releases _ s2 run2 sleeping
  obtain ⟨path, n, same, rest⟩ := run_path _ _ s run
  refine ⟨path, n, same, pool_sound path (few_path path ?_)⟩
  rw [← config_path path n, (rest n (Nat.le_refl n)).1, slots, Nat.card_eq_fintype_card, Fintype.card_bool]
  decide

def crowded (n : Nat) : PoolState Nat :=
  { (PoolState.fresh ⟨0, 0, 0, 0⟩ : PoolState Nat) with
    activeCount := UInt32.ofNat n
    pc := fun t => if t < n then .checking [0] else .idle }

theorem crowded_run (n : Nat) : (poolMachine Nat).Run [] (crowded n) := by
  induction n with
  | zero =>
      refine .begin _ ⟨0, 0, 0, none, ?_⟩
      rfl
  | succ n ih =>
      have idle : (crowded n).pc n = .idle := if_neg (Nat.lt_irrefl n)
      have opening := Machine.Run.next _ _ _ _ n ih (PoolStep.allocate [0] idle (by decide) (by decide))
      have entering := Machine.Run.next _ _ _ _ n opening
        (PoolStep.move (.entering [0]) (by rw [goto_pc]; exact .opened [0] rfl))
      have entered := Machine.Run.next _ _ _ _ n entering
        (PoolStep.write _ _ (by rw [goto_pc]; exact .enter [0]))
      have pcs (t : Nat) : Function.update (Function.update (Function.update (crowded n).pc n (.opening [0])) n (.entering [0])) n
          (.checking [0]) t = (crowded (n + 1)).pc t := by
        by_cases same : t = n
        · rw [same, Function.update_self]
          exact (if_pos (Nat.lt_succ_self n)).symm
        · rw [Function.update_of_ne same, Function.update_of_ne same, Function.update_of_ne same]
          exact if_congr (by omega) rfl rfl
      have counts : (crowded n).activeCount + 1 = (crowded (n + 1)).activeCount := (UInt32.ofNat_add n 1).symm
      have same : ({ ((crowded n).goto n (.opening [0])).goto n (.entering [0]) with
          activeCount := (crowded n).activeCount + 1 } : PoolState Nat).goto n (.checking [0]) = crowded (n + 1) :=
        congrArg₂ (fun count pcs => { (PoolState.fresh ⟨0, 0, 0, 0⟩ : PoolState Nat) with activeCount := count, pc := pcs }) counts
          (funext pcs)
      rw [← same]
      exact entered

-- With as many threads inside Allocate as the counter has values it is back at
-- zero.
theorem crowded_unsound : ¬ ∀ path : (poolMachine Nat).Path, PoolSound path := by
  intro sound
  obtain ⟨path, n, _, rest⟩ := run_path _ _ _ (crowded_run (2 ^ 32))
  obtain ⟨free, pooled⟩ := pooled_path path n
  have counted := (sound path).counted n
  rw [(rest n (Nat.le_refl n)).1] at counted pooled
  have zero : (crowded (2 ^ 32)).activeCount.toNat = 0 := by
    show (UInt32.ofNat (2 ^ 32)).toNat = 0
    rw [UInt32.toNat_ofNat', Nat.mod_self]
  rw [zero] at counted
  have nobody : (crowded (2 ^ 32)).calls = ∅ := (Set.ncard_eq_zero pooled.finite).mp (by omega)
  have inside : 0 ∈ (crowded (2 ^ 32)).calls := by
    show (if 0 < 2 ^ 32 then PoolPc.checking [0] else .idle).counted = true
    rw [if_pos (by decide)]
    rfl
  rw [nobody] at inside
  exact inside

end Cabe
