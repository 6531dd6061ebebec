import Cabe.WalGroupTraffic

set_option autoImplicit false

namespace Cabe

open Concurrency

variable {Tid : Type} [DecidableEq Tid]

-- The nodes that a part of the key holder's position stands for.
def InHand (s : Group Tid) (part : Pc Tid → List Tid) (nodes : List Tid) : Prop :=
  (∀ u, (s.pc u).holds = true → part (s.pc u) = nodes) ∧ (s.leaderActive = false → nodes = [])

omit [DecidableEq Tid] in
theorem key_free (s : Group Tid) (key : OneKey s) (free : s.leaderActive = false) (t : Tid) : (s.pc t).holds = false := by
  by_contra holds
  rw [Bool.not_eq_false] at holds
  exact absurd (free.symm.trans (key.flag.mpr ⟨t, holds⟩)) (by decide)

theorem in_hand_kept (part : Pc Tid → List Tid) (same : ∀ e, part (.asleep e) = part (.woken e))
    (idle : ∀ pc : Pc Tid, pc.holds = false → part pc = []) (s s' : Group Tid) (t : Tid) (events : List (GroupEvent Tid)) (key : OneKey s)
    (step : GroupStep s t events s') (nodes : List Tid) (inHand : InHand s part nodes) (kept : part (s'.pc t) = part (s.pc t)) :
    InHand s' part nodes := by
  have everyone (u : Tid) : part (s'.pc u) = part (s.pc u) := by
    by_cases here : u = t
    · rw [here, kept]
    · exact step_other part same s s' t u events step here
  have key' := one_key_step s s' t events key step
  rcases step_key s s' t events step with ⟨holds, flag⟩ | ⟨_, free, _, _⟩ | ⟨had, gone, given⟩
  · refine ⟨fun u holds' => ?_, fun free => inHand.2 (flag ▸ free)⟩
    rw [everyone]
    apply inHand.1
    by_cases here : u = t
    · rw [here, ← holds, ← here, holds']
    · rw [← step_other Pc.holds (fun _ => rfl) s s' t u events step here, holds']
  · have none_ := inHand.2 free
    refine ⟨fun u _ => ?_, fun _ => none_⟩
    rw [everyone, idle _ (key_free s key free u), none_]
  · have none_ : nodes = [] := by
      rw [← inHand.1 t had, ← kept, idle _ gone]
    exact ⟨fun u holds => absurd (holds.symm.trans (key_free s' key' given u)) (by decide), fun _ => none_⟩

omit [DecidableEq Tid] in
theorem in_hand_holder (part : Pc Tid → List Tid) (s : Group Tid) (t : Tid) (key : OneKey s) (holds : (s.pc t).holds = true) :
    InHand s part (part (s.pc t)) := by
  refine ⟨fun u holds' => by rw [key.unique u t holds' holds], fun free => ?_⟩
  exact absurd (holds.symm.trans (key_free s key free t)) (by decide)

omit [DecidableEq Tid] in
theorem in_hand_source (part : Pc Tid → List Tid) (s : Group Tid) (key : OneKey s) (nodes : List Tid) (inHand : InHand s part nodes)
    (x : Tid) (member : x ∈ nodes) : ∃ u, (s.pc u).holds = true ∧ x ∈ part (s.pc u) := by
  cases active : s.leaderActive with
  | false =>
      rw [inHand.2 active] at member
      cases member
  | true =>
      obtain ⟨u, holds⟩ := key.flag.mp active
      exact ⟨u, holds, by rw [inHand.1 u holds]; exact member⟩

-- The books of a run: where each pushed call's node is, and what it was given.
structure Ledger (trace : List (GroupEvent Tid)) (s : Group Tid) : Prop where
  order : InOrder (pushes trace) (drains trace).flatten (s.stackHead.map s.ticket)
  once : (pushes trace).Nodup
  bound : ∀ c ∈ pushes trace, c.2 ≤ s.calls c.1
  readied : ∀ t, (s.pc t).readied = true → s.ticket t ∉ pushes trace ∧ s.result t = kWalResultPending
  pushed : ∀ t, (s.pc t).enlisted = true → s.ticket t ∈ pushes trace
  listed : ∀ t ∈ s.stackHead, (s.pc t).enlisted = true
  handed : ∀ t, ∀ x ∈ (s.pc t).hand, (s.pc x).enlisted = true
  given : ∃ nodes, InHand s Pc.hand nodes ∧ (drains trace).flatten = (stores trace).map Prod.fst ++ nodes.map s.ticket
  tried : ∃ nodes done, InHand s Pc.untried nodes ∧ (drains trace).flatten = done ++ nodes.map s.ticket ∧
    ((numbers trace).map Prod.fst).Sublist done
  final : ∀ t, (s.pc t).enlisted = true → s.result t ≠ kWalResultPending → (s.ticket t, s.result t) ∈ stores trace
  pending : ∀ t, (s.pc t).enlisted = true → s.result t = kWalResultPending → s.ticket t ∉ (stores trace).map Prod.fst
  returned : ∀ c ∈ returns trace, c ∈ stores trace

omit [DecidableEq Tid] in
theorem hand_idle (pc : Pc Tid) (idle : pc.holds = false) : pc.hand = [] := by
  cases pc <;> first | rfl | cases idle

omit [DecidableEq Tid] in
theorem untried_idle (pc : Pc Tid) (idle : pc.holds = false) : pc.untried = [] := by
  cases pc <;> first | rfl | cases idle

omit [DecidableEq Tid] in
theorem readied_unlisted (pc : Pc Tid) (readied : pc.readied = true) : pc.enlisted = false := by
  cases pc <;> first | rfl | cases readied

omit [DecidableEq Tid] in
theorem untried_in_hand (pc : Pc Tid) (x : Tid) (member : x ∈ pc.untried) : x ∈ pc.hand := by
  cases pc with
  | appending taken rest wrote dirty => exact List.mem_append_right taken member
  | _ => cases member

omit [DecidableEq Tid] in
theorem ticket_kept (s s' : Group Tid) (calls : s'.calls = s.calls) : s'.ticket = s.ticket := by
  funext t
  rw [Group.ticket, Group.ticket, calls]


-- A step after which every node is where it was.
theorem ledger_still (s s' : Group Tid) (t : Tid) (trace events : List (GroupEvent Tid)) (key : OneKey s) (book : Ledger trace s)
    (step : GroupStep s t events s') (quiet : events = []) (stack : s'.stackHead = s.stackHead) (result : s'.result = s.result)
    (calls : s'.calls = s.calls) (enlisted : (s'.pc t).enlisted = (s.pc t).enlisted) (readied : (s'.pc t).readied = (s.pc t).readied)
    (hand : (s'.pc t).hand = (s.pc t).hand) (untried : (s'.pc t).untried = (s.pc t).untried ∨ (s'.pc t).untried = []) :
    Ledger (trace ++ events) s' := by
  have everyone {β : Type} (part : Pc Tid → β) (same : ∀ e, part (.asleep e) = part (.woken e)) (here : part (s'.pc t) = part (s.pc t))
      (u : Tid) : part (s'.pc u) = part (s.pc u) := by
    by_cases at_ : u = t
    · rw [at_, here]
    · exact step_other part same s s' t u events step at_
  have enlistedAll := everyone Pc.enlisted (fun _ => rfl) enlisted
  have readiedAll := everyone Pc.readied (fun _ => rfl) readied
  have handAll := everyone Pc.hand (fun _ => rfl) hand
  have tickets := ticket_kept s s' calls
  subst quiet
  rw [List.append_nil]
  obtain ⟨nodes, inHand, given⟩ := book.given
  obtain ⟨left, done, inLoop, tried, inOrder⟩ := book.tried
  refine ⟨by rw [stack, tickets]; exact book.order, book.once, by rw [calls]; exact book.bound, fun u => ?_, fun u => ?_, fun u => ?_,
    fun u x => ?_, ⟨nodes, ?_, by rw [tickets]; exact given⟩, ?_, fun u => ?_, fun u => ?_, book.returned⟩
  · rw [readiedAll, tickets, result]
    exact book.readied u
  · rw [enlistedAll, tickets]
    exact book.pushed u
  · rw [enlistedAll, stack]
    exact book.listed u
  · rw [enlistedAll, handAll]
    exact book.handed u x
  · exact in_hand_kept Pc.hand (fun _ => rfl) hand_idle s s' t [] key step nodes inHand hand
  · rw [tickets]
    rcases untried with same | none_
    · exact ⟨left, done, in_hand_kept Pc.untried (fun _ => rfl) untried_idle s s' t [] key step left inLoop same, tried, inOrder⟩
    · -- The loop has stopped before the rest of its batch.
      cases holds : (s.pc t).holds with
      | false =>
          exact ⟨left, done, in_hand_kept Pc.untried (fun _ => rfl) untried_idle s s' t [] key step left inLoop
            (by rw [none_, untried_idle _ holds]), tried, inOrder⟩
      | true =>
          refine ⟨[], done ++ left.map s.ticket, ⟨fun u holds' => ?_, fun _ => rfl⟩, by rw [tried]; simp, ?_⟩
          · by_cases here : u = t
            · rw [here, none_]
            · rw [step_other Pc.holds (fun _ => rfl) s s' t u [] step here] at holds'
              exact absurd (key.unique u t holds' holds) here
          · exact inOrder.trans (List.sublist_append_left done _)
  · rw [enlistedAll, result, tickets]
    exact book.final u
  · rw [enlistedAll, result, tickets]
    exact book.pending u

theorem ledger_began (s s' : Group Tid) (t : Tid) (trace : List (GroupEvent Tid)) (key : OneKey s) (book : Ledger trace s)
    (step : GroupStep s t [] s') (at_ : s.pc t = .idle) (after : s'.pc t = .arrived) (stack : s'.stackHead = s.stackHead)
    (result : s'.result = Function.update s.result t kWalResultPending) (calls : s'.calls = Function.update s.calls t (s.calls t + 1)) :
    Ledger trace s' := by
  have others {β : Type} (part : Pc Tid → β) (same : ∀ e, part (.asleep e) = part (.woken e)) (u : Tid) (other : u ≠ t) :
      part (s'.pc u) = part (s.pc u) := step_other part same s s' t u [] step other
  have here (u : Tid) (enlisted : (s'.pc u).enlisted = true) : u ≠ t := by
    rintro rfl
    rw [after] at enlisted
    cases enlisted
  have away (u : Tid) (enlisted : (s.pc u).enlisted = true) : u ≠ t := by
    rintro rfl
    rw [at_] at enlisted
    cases enlisted
  have ticket (u : Tid) (other : u ≠ t) : s'.ticket u = s.ticket u := by
    rw [Group.ticket, Group.ticket, calls, Function.update_of_ne other]
  have tickets (nodes : List Tid) (apart : ∀ u ∈ nodes, u ≠ t) : nodes.map s'.ticket = nodes.map s.ticket :=
    List.map_congr_left fun u member => ticket u (apart u member)
  have hand : (s'.pc t).hand = (s.pc t).hand := by rw [at_, after]; rfl
  have untried : (s'.pc t).untried = (s.pc t).untried := by rw [at_, after]; rfl
  have handAll (u : Tid) : (s'.pc u).hand = (s.pc u).hand := by
    by_cases same : u = t
    · rw [same, hand]
    · exact others Pc.hand (fun _ => rfl) u same
  obtain ⟨nodes, inHand, given⟩ := book.given
  obtain ⟨left, done, inLoop, tried, inOrder⟩ := book.tried
  have nodesAway (x : Tid) (member : x ∈ nodes) : x ≠ t := by
    obtain ⟨u, _, there⟩ := in_hand_source Pc.hand s key nodes inHand x member
    exact away x (book.handed u x there)
  have leftAway (x : Tid) (member : x ∈ left) : x ≠ t := by
    obtain ⟨u, _, there⟩ := in_hand_source Pc.untried s key left inLoop x member
    exact away x (book.handed u x (untried_in_hand _ x there))
  have fresh : s'.ticket t ∉ pushes trace := by
    intro member
    have below := book.bound _ member
    simp only [Group.ticket, calls, Function.update_self] at below
    omega
  constructor
  · rw [stack, tickets _ fun u member => away u (book.listed u member)]
    exact book.order
  · exact book.once
  · intro c member
    have below := book.bound c member
    rw [calls]
    by_cases same : c.1 = t
    · rw [same, Function.update_self]
      rw [same] at below
      omega
    · rw [Function.update_of_ne same]
      exact below
  · intro u readied
    by_cases same : u = t
    · rw [same]
      exact ⟨fresh, by rw [result, Function.update_self]⟩
    · rw [others Pc.readied (fun _ => rfl) u same] at readied
      rw [ticket u same, result, Function.update_of_ne same]
      exact book.readied u readied
  · intro u enlisted
    have other := here u enlisted
    rw [others Pc.enlisted (fun _ => rfl) u other] at enlisted
    rw [ticket u other]
    exact book.pushed u enlisted
  · intro u member
    rw [stack] at member
    have enlisted := book.listed u member
    rw [others Pc.enlisted (fun _ => rfl) u (away u enlisted)]
    exact enlisted
  · intro u x member
    rw [handAll] at member
    have enlisted := book.handed u x member
    rw [others Pc.enlisted (fun _ => rfl) x (away x enlisted)]
    exact enlisted
  · refine ⟨nodes, in_hand_kept Pc.hand (fun _ => rfl) hand_idle s s' t [] key step nodes inHand hand, ?_⟩
    rw [tickets nodes nodesAway]
    exact given
  · refine ⟨left, done, in_hand_kept Pc.untried (fun _ => rfl) untried_idle s s' t [] key step left inLoop untried, ?_, inOrder⟩
    rw [tickets left leftAway]
    exact tried
  · intro u enlisted
    have other := here u enlisted
    rw [others Pc.enlisted (fun _ => rfl) u other] at enlisted
    rw [ticket u other, result, Function.update_of_ne other]
    exact book.final u enlisted
  · intro u enlisted
    have other := here u enlisted
    rw [others Pc.enlisted (fun _ => rfl) u other] at enlisted
    rw [ticket u other, result, Function.update_of_ne other]
    exact book.pending u enlisted
  · exact book.returned


theorem ledger_pushed (s s' : Group Tid) (t : Tid) (old : Option Tid) (trace : List (GroupEvent Tid)) (key : OneKey s)
    (book : Ledger trace s) (step : GroupStep s t [.pushed (s.ticket t)] s') (at_ : s.pc t = .pushing old)
    (after : s'.pc t = .electing ∨ s'.pc t = .waiting) (stack : s'.stackHead = t :: s.stackHead) (result : s'.result = s.result)
    (calls : s'.calls = s.calls) : Ledger (trace ++ [.pushed (s.ticket t)]) s' := by
  have others {β : Type} (part : Pc Tid → β) (same : ∀ e, part (.asleep e) = part (.woken e)) (u : Tid) (other : u ≠ t) :
      part (s'.pc u) = part (s.pc u) := step_other part same s s' t u _ step other
  have enlisted : (s'.pc t).enlisted = true := by rcases after with after | after <;> rw [after] <;> rfl
  have unready : (s'.pc t).readied = false := by rcases after with after | after <;> rw [after] <;> rfl
  have hand : (s'.pc t).hand = (s.pc t).hand := by rcases after with after | after <;> rw [at_, after] <;> rfl
  have untried : (s'.pc t).untried = (s.pc t).untried := by rcases after with after | after <;> rw [at_, after] <;> rfl
  have handAll (u : Tid) : (s'.pc u).hand = (s.pc u).hand := by
    by_cases same : u = t
    · rw [same, hand]
    · exact others Pc.hand (fun _ => rfl) u same
  have grows (u : Tid) (listed : (s.pc u).enlisted = true) : (s'.pc u).enlisted = true := by
    by_cases same : u = t
    · rw [same, enlisted]
    · rw [others Pc.enlisted (fun _ => rfl) u same, listed]
  have tickets := ticket_kept s s' calls
  obtain ⟨fresh, pending⟩ := book.readied t (by rw [at_]; rfl)
  obtain ⟨nodes, inHand, given⟩ := book.given
  obtain ⟨left, done, inLoop, tried, inOrder⟩ := book.tried
  have pushesNow : pushes (trace ++ [.pushed (s.ticket t)]) = pushes trace ++ [s.ticket t] := pushes_append _ _
  have drainsNow : drains (trace ++ [.pushed (s.ticket t)]) = drains trace := (drains_append _ _).trans (List.append_nil _)
  have numbersNow : numbers (trace ++ [.pushed (s.ticket t)]) = numbers trace := (numbers_append _ _).trans (List.append_nil _)
  have storesNow : stores (trace ++ [.pushed (s.ticket t)]) = stores trace := (stores_append _ _).trans (List.append_nil _)
  have returnsNow : returns (trace ++ [.pushed (s.ticket t)]) = returns trace := (returns_append _ _).trans (List.append_nil _)
  constructor <;> try simp only [pushesNow, drainsNow, numbersNow, storesNow, returnsNow, tickets, stack, calls, result]
  · exact in_order_push _ _ _ _ book.order
  · rw [List.nodup_append]
    exact ⟨book.once, by simp, fun c member d same => by rintro rfl; exact fresh ((List.mem_singleton.mp same) ▸ member)⟩
  · intro c member
    rcases List.mem_append.mp member with old_ | new
    · exact book.bound c old_
    · rw [List.mem_singleton.mp new]
      exact Nat.le_refl _
  · intro u readied
    have other : u ≠ t := by
      rintro rfl
      exact absurd (readied.symm.trans unready) (by decide)
    rw [others Pc.readied (fun _ => rfl) u other] at readied
    refine ⟨fun member => ?_, (book.readied u readied).2⟩
    rcases List.mem_append.mp member with old_ | new
    · exact (book.readied u readied).1 old_
    · exact other (congrArg Prod.fst (List.mem_singleton.mp new))
  · intro u listed
    by_cases same : u = t
    · exact List.mem_append_right _ (by rw [same]; exact List.mem_singleton_self _)
    · rw [others Pc.enlisted (fun _ => rfl) u same] at listed
      exact List.mem_append_left _ (book.pushed u listed)
  · intro u member
    rcases List.mem_cons.mp member with same | old_
    · rw [same, enlisted]
    · exact grows u (book.listed u old_)
  · intro u x member
    rw [handAll] at member
    exact grows x (book.handed u x member)
  · exact ⟨nodes, in_hand_kept Pc.hand (fun _ => rfl) hand_idle s s' t _ key step nodes inHand hand, given⟩
  · exact ⟨left, done, in_hand_kept Pc.untried (fun _ => rfl) untried_idle s s' t _ key step left inLoop untried, tried, inOrder⟩
  · intro u listed served
    by_cases same : u = t
    · exact absurd (same ▸ pending) served
    · rw [others Pc.enlisted (fun _ => rfl) u same] at listed
      exact book.final u listed served
  · intro u listed waits
    by_cases same : u = t
    · -- A ticket that was never pushed has no result.
      intro stored
      apply fresh
      rw [same] at stored
      have order := book.order
      unfold InOrder at order
      rw [order, given]
      simp only [List.mem_append]
      exact .inl (.inl stored)
    · rw [others Pc.enlisted (fun _ => rfl) u same] at listed
      exact book.pending u listed waits
  · exact book.returned


theorem ledger_drained (s s' : Group Tid) (t : Tid) (trace : List (GroupEvent Tid)) (key : OneKey s) (book : Ledger trace s)
    (step : GroupStep s t [.drained (s.stackHead.reverse.map s.ticket)] s') (at_ : s.pc t = .draining)
    (after : s'.pc t = .appending [] s.stackHead.reverse false false) (stack : s'.stackHead = []) (result : s'.result = s.result)
    (calls : s'.calls = s.calls) : Ledger (trace ++ [.drained (s.stackHead.reverse.map s.ticket)]) s' := by
  have everyone {β : Type} (part : Pc Tid → β) (same : ∀ e, part (.asleep e) = part (.woken e)) (here : part (s'.pc t) = part (s.pc t))
      (u : Tid) : part (s'.pc u) = part (s.pc u) := by
    by_cases at_ : u = t
    · rw [at_, here]
    · exact step_other part same s s' t u _ step at_
  have enlistedAll := everyone Pc.enlisted (fun _ => rfl) (by rw [at_, after]; rfl)
  have readiedAll := everyone Pc.readied (fun _ => rfl) (by rw [at_, after]; rfl)
  have tickets := ticket_kept s s' calls
  have key' := one_key_step s s' t _ key step
  have holds : (s.pc t).holds = true := by rw [at_]; rfl
  have holds' : (s'.pc t).holds = true := by rw [after]; rfl
  obtain ⟨nodes, inHand, given⟩ := book.given
  obtain ⟨left, done, inLoop, tried, inOrder⟩ := book.tried
  have noNodes : nodes = [] := by
    rw [← inHand.1 t holds, at_]
    rfl
  have noneLeft : left = [] := by
    rw [← inLoop.1 t holds, at_]
    rfl
  subst noNodes noneLeft
  rw [List.map_nil, List.append_nil] at given tried
  generalize batch_ : s.stackHead.reverse.map s.ticket = batch
  have flattened : (drains (trace ++ [.drained batch])).flatten = (drains trace).flatten ++ batch := by
    rw [drains_append, List.flatten_append]
    exact congrArg _ (List.append_nil batch)
  have pushesNow : pushes (trace ++ [.drained batch]) = pushes trace := (pushes_append _ _).trans (List.append_nil _)
  have numbersNow : numbers (trace ++ [.drained batch]) = numbers trace := (numbers_append _ _).trans (List.append_nil _)
  have storesNow : stores (trace ++ [.drained batch]) = stores trace := (stores_append _ _).trans (List.append_nil _)
  have returnsNow : returns (trace ++ [.drained batch]) = returns trace := (returns_append _ _).trans (List.append_nil _)
  constructor <;> try simp only [pushesNow, flattened, numbersNow, storesNow, returnsNow, tickets, stack, calls, result, enlistedAll, readiedAll]
  · rw [← batch_, List.map_reverse]
    exact in_order_take _ _ _ book.order
  · exact book.once
  · exact book.bound
  · exact book.readied
  · exact book.pushed
  · exact fun u member => by cases member
  · intro u x member
    by_cases same : u = t
    · rw [same, after] at member
      exact book.listed x (List.mem_reverse.mp member)
    · rw [step_other Pc.hand (fun _ => rfl) s s' t u _ step same] at member
      exact book.handed u x member
  · refine ⟨_, in_hand_holder Pc.hand s' t key' holds', ?_⟩
    rw [after, given, ← batch_]
    rfl
  · refine ⟨_, done, in_hand_holder Pc.untried s' t key' holds', ?_, inOrder⟩
    rw [after, tried, ← batch_]
    rfl
  · exact book.final
  · exact book.pending
  · exact book.returned

theorem ledger_numbered (s s' : Group Tid) (t x : Tid) (taken rest : List Tid) (wrote dirty wrote' : Bool) (seq : Nat)
    (trace : List (GroupEvent Tid)) (key : OneKey s) (book : Ledger trace s) (step : GroupStep s t [.numbered (s.ticket x) seq] s')
    (at_ : s.pc t = .appending taken (x :: rest) wrote dirty) (after : s'.pc t = .appending (taken ++ [x]) rest wrote' true)
    (stack : s'.stackHead = s.stackHead) (result : s'.result = s.result) (calls : s'.calls = s.calls) :
    Ledger (trace ++ [.numbered (s.ticket x) seq]) s' := by
  have everyone {β : Type} (part : Pc Tid → β) (same : ∀ e, part (.asleep e) = part (.woken e)) (here : part (s'.pc t) = part (s.pc t))
      (u : Tid) : part (s'.pc u) = part (s.pc u) := by
    by_cases at_ : u = t
    · rw [at_, here]
    · exact step_other part same s s' t u _ step at_
  have enlistedAll := everyone Pc.enlisted (fun _ => rfl) (by rw [at_, after]; rfl)
  have readiedAll := everyone Pc.readied (fun _ => rfl) (by rw [at_, after]; rfl)
  have hand : (s'.pc t).hand = (s.pc t).hand := by
    rw [at_, after]
    exact List.append_assoc taken [x] rest
  have handAll := everyone Pc.hand (fun _ => rfl) hand
  have tickets := ticket_kept s s' calls
  have key' := one_key_step s s' t _ key step
  obtain ⟨nodes, inHand, given⟩ := book.given
  obtain ⟨left, done, inLoop, tried, inOrder⟩ := book.tried
  have leftNow : left = x :: rest := by
    rw [← inLoop.1 t (by rw [at_]; rfl), at_]
    rfl
  generalize ticket_ : s.ticket x = call
  have pushesNow : pushes (trace ++ [.numbered call seq]) = pushes trace := (pushes_append _ _).trans (List.append_nil _)
  have drainsNow : drains (trace ++ [.numbered call seq]) = drains trace := (drains_append _ _).trans (List.append_nil _)
  have numbersNow : numbers (trace ++ [.numbered call seq]) = numbers trace ++ [(call, seq)] := numbers_append _ _
  have storesNow : stores (trace ++ [.numbered call seq]) = stores trace := (stores_append _ _).trans (List.append_nil _)
  have returnsNow : returns (trace ++ [.numbered call seq]) = returns trace := (returns_append _ _).trans (List.append_nil _)
  rw [ticket_] at step
  constructor <;> try simp only [pushesNow, drainsNow, numbersNow, storesNow, returnsNow, tickets, stack, calls,
    result, enlistedAll, readiedAll, handAll]
  · exact book.order
  · exact book.once
  · exact book.bound
  · exact book.readied
  · exact book.pushed
  · exact book.listed
  · exact book.handed
  · exact ⟨nodes, in_hand_kept Pc.hand (fun _ => rfl) hand_idle s s' t _ key step nodes inHand hand, given⟩
  · refine ⟨_, done ++ [call], in_hand_holder Pc.untried s' t key' (by rw [after]; rfl), ?_, ?_⟩
    · rw [after, tried, leftNow, List.map_cons, ticket_, List.append_assoc]
      rfl
    · rw [List.map_append]
      exact inOrder.append (List.Sublist.refl [call])
  · exact book.final
  · exact book.pending
  · exact book.returned

theorem ledger_stored (s s' : Group Tid) (t x : Tid) (rc : Rc) (todo : List (Tid × Rc)) (trace : List (GroupEvent Tid)) (key : OneKey s)
    (book : Ledger trace s) (step : GroupStep s t [.stored (s.ticket x) rc] s') (at_ : s.pc t = .storing ((x, rc) :: todo))
    (after : s'.pc t = .storing todo) (stack : s'.stackHead = s.stackHead) (result : s'.result = Function.update s.result x rc)
    (calls : s'.calls = s.calls) (real : rc ≠ kWalResultPending) : Ledger (trace ++ [.stored (s.ticket x) rc]) s' := by
  have everyone {β : Type} (part : Pc Tid → β) (same : ∀ e, part (.asleep e) = part (.woken e)) (here : part (s'.pc t) = part (s.pc t))
      (u : Tid) : part (s'.pc u) = part (s.pc u) := by
    by_cases at_ : u = t
    · rw [at_, here]
    · exact step_other part same s s' t u _ step at_
  have enlistedAll := everyone Pc.enlisted (fun _ => rfl) (by rw [at_, after]; rfl)
  have readiedAll := everyone Pc.readied (fun _ => rfl) (by rw [at_, after]; rfl)
  have untried : (s'.pc t).untried = (s.pc t).untried := by rw [at_, after]; rfl
  have tickets := ticket_kept s s' calls
  have key' := one_key_step s s' t _ key step
  have inHandNow : x ∈ (s.pc t).hand := by
    rw [at_]
    exact List.mem_cons_self
  have listed := book.handed t x inHandNow
  obtain ⟨nodes, inHand, given⟩ := book.given
  obtain ⟨left, done, inLoop, tried, inOrder⟩ := book.tried
  have nodesNow : nodes = x :: todo.map Prod.fst := by
    rw [← inHand.1 t (by rw [at_]; rfl), at_]
    rfl
  generalize ticket_ : s.ticket x = call
  have pushesNow : pushes (trace ++ [.stored call rc]) = pushes trace := (pushes_append _ _).trans (List.append_nil _)
  have drainsNow : drains (trace ++ [.stored call rc]) = drains trace := (drains_append _ _).trans (List.append_nil _)
  have numbersNow : numbers (trace ++ [.stored call rc]) = numbers trace := (numbers_append _ _).trans (List.append_nil _)
  have storesNow : stores (trace ++ [.stored call rc]) = stores trace ++ [(call, rc)] := stores_append _ _
  have returnsNow : returns (trace ++ [.stored call rc]) = returns trace := (returns_append _ _).trans (List.append_nil _)
  rw [ticket_] at step
  constructor <;> try simp only [pushesNow, drainsNow, numbersNow, storesNow, returnsNow, tickets, stack, calls, enlistedAll, readiedAll]
  · exact book.order
  · exact book.once
  · exact book.bound
  · intro u readied
    have other : u ≠ x := by
      rintro rfl
      exact absurd ((readied_unlisted _ readied).symm.trans listed) (by decide)
    rw [result, Function.update_of_ne other]
    exact book.readied u readied
  · exact book.pushed
  · exact book.listed
  · intro u y member
    by_cases same : u = t
    · rw [same, after] at member
      exact book.handed t y (by rw [at_]; exact List.mem_cons_of_mem x member)
    · rw [step_other Pc.hand (fun _ => rfl) s s' t u _ step same] at member
      exact book.handed u y member
  · refine ⟨_, in_hand_holder Pc.hand s' t key' (by rw [after]; rfl), ?_⟩
    rw [after, given, nodesNow, List.map_cons, ticket_, List.map_append, List.append_assoc]
    rfl
  · exact ⟨left, done, in_hand_kept Pc.untried (fun _ => rfl) untried_idle s s' t _ key step left inLoop untried, tried, inOrder⟩
  · intro u enlisted served
    by_cases same : u = x
    · rw [same, result, Function.update_self, ticket_]
      exact List.mem_append_right _ (List.mem_singleton_self _)
    · rw [result, Function.update_of_ne same] at served ⊢
      exact List.mem_append_left _ (book.final u enlisted served)
  · intro u enlisted waits
    by_cases same : u = x
    · rw [same, result, Function.update_self] at waits
      exact absurd waits real
    · rw [result, Function.update_of_ne same] at waits
      rw [List.map_append, List.mem_append]
      rintro (before | now)
      · exact book.pending u enlisted waits before
      · rw [← ticket_] at now
        exact same (congrArg Prod.fst (List.mem_singleton.mp now))
  · exact fun c member => List.mem_append_left _ (book.returned c member)

omit [DecidableEq Tid] in
-- A served node is neither on the stack nor in anybody's hands any more.
theorem served_gone (s : Group Tid) (t : Tid) (trace : List (GroupEvent Tid)) (book : Ledger trace s)
    (enlisted : (s.pc t).enlisted = true) (served : s.result t ≠ kWalResultPending) :
    t ∉ s.stackHead ∧ ∀ u, t ∉ (s.pc u).hand := by
  obtain ⟨nodes, inHand, given⟩ := book.given
  have stored : s.ticket t ∈ (stores trace).map Prod.fst := List.mem_map_of_mem (book.final t enlisted served)
  have drained : s.ticket t ∈ (drains trace).flatten := by
    rw [given]
    exact List.mem_append_left _ stored
  refine ⟨fun waits => ?_, fun u member => ?_⟩
  · exact in_order_apart _ _ _ book.order book.once _ (List.mem_map_of_mem waits) drained
  · have holds : (s.pc u).holds = true := by
      cases holds : (s.pc u).holds with
      | true => rfl
      | false =>
          rw [hand_idle _ holds] at member
          cases member
    have order := book.order
    have once := book.once
    unfold InOrder at order
    rw [order, given] at once
    rw [inHand.1 u holds] at member
    exact List.disjoint_of_nodup_append (List.nodup_append.mp once).1 stored (List.mem_map_of_mem member)

theorem ledger_returned (s s' : Group Tid) (t : Tid) (trace : List (GroupEvent Tid)) (key : OneKey s) (book : Ledger trace s)
    (step : GroupStep s t [.returned (s.ticket t) (s.result t)] s') (enlisted : (s.pc t).enlisted = true) (free : (s.pc t).holds = false)
    (after : s'.pc t = .idle) (served : s.result t ≠ kWalResultPending) (stack : s'.stackHead = s.stackHead)
    (result : s'.result = s.result) (calls : s'.calls = s.calls) : Ledger (trace ++ [.returned (s.ticket t) (s.result t)]) s' := by
  have others {β : Type} (part : Pc Tid → β) (same : ∀ e, part (.asleep e) = part (.woken e)) (u : Tid) (other : u ≠ t) :
      part (s'.pc u) = part (s.pc u) := step_other part same s s' t u _ step other
  obtain ⟨offStack, offHands⟩ := served_gone s t trace book enlisted served
  have hand : (s'.pc t).hand = (s.pc t).hand := by rw [hand_idle _ free, after]; rfl
  have untried : (s'.pc t).untried = (s.pc t).untried := by rw [untried_idle _ free, after]; rfl
  have handAll (u : Tid) : (s'.pc u).hand = (s.pc u).hand := by
    by_cases same : u = t
    · rw [same, hand]
    · exact others Pc.hand (fun _ => rfl) u same
  have here (u : Tid) (listed : (s'.pc u).enlisted = true) : (s.pc u).enlisted = true := by
    by_cases same : u = t
    · rw [same, enlisted]
    · rw [← others Pc.enlisted (fun _ => rfl) u same, listed]
  have tickets := ticket_kept s s' calls
  obtain ⟨nodes, inHand, given⟩ := book.given
  obtain ⟨left, done, inLoop, tried, inOrder⟩ := book.tried
  have final := book.final t enlisted served
  generalize s.ticket t = call at final ⊢ step
  generalize s.result t = rc at final ⊢ step
  have pushesNow : pushes (trace ++ [.returned call rc]) = pushes trace := (pushes_append _ _).trans (List.append_nil _)
  have drainsNow : drains (trace ++ [.returned call rc]) = drains trace := (drains_append _ _).trans (List.append_nil _)
  have numbersNow : numbers (trace ++ [.returned call rc]) = numbers trace := (numbers_append _ _).trans (List.append_nil _)
  have storesNow : stores (trace ++ [.returned call rc]) = stores trace := (stores_append _ _).trans (List.append_nil _)
  have returnsNow : returns (trace ++ [.returned call rc]) = returns trace ++ [(call, rc)] := returns_append _ _
  constructor <;> try simp only [pushesNow, drainsNow, numbersNow, storesNow, returnsNow, tickets, stack, calls, result, handAll]
  · exact book.order
  · exact book.once
  · exact book.bound
  · intro u readied
    by_cases same : u = t
    · rw [same, after] at readied
      cases readied
    · rw [others Pc.readied (fun _ => rfl) u same] at readied
      exact book.readied u readied
  · exact fun u listed => book.pushed u (here u listed)
  · intro u member
    have other : u ≠ t := by
      rintro rfl
      exact offStack member
    rw [others Pc.enlisted (fun _ => rfl) u other]
    exact book.listed u member
  · intro u x member
    have other : x ≠ t := by
      rintro rfl
      exact offHands u member
    rw [others Pc.enlisted (fun _ => rfl) x other]
    exact book.handed u x member
  · exact ⟨nodes, in_hand_kept Pc.hand (fun _ => rfl) hand_idle s s' t _ key step nodes inHand hand, given⟩
  · exact ⟨left, done, in_hand_kept Pc.untried (fun _ => rfl) untried_idle s s' t _ key step left inLoop untried, tried, inOrder⟩
  · exact fun u listed => book.final u (here u listed)
  · exact fun u listed => book.pending u (here u listed)
  · intro c member
    rcases List.mem_append.mp member with before | now
    · exact book.returned c before
    · rw [List.mem_singleton.mp now]
      exact final


theorem ledger_step (s s' : Group Tid) (t : Tid) (trace events : List (GroupEvent Tid)) (key : OneKey s) (book : Ledger trace s)
    (step : GroupStep s t events s') (real : ∀ x rc todo, s.pc t = .storing ((x, rc) :: todo) → rc ≠ kWalResultPending) :
    Ledger (trace ++ events) s' := by
  cases step_traffic s s' t events step with
  | still _ stack result calls enlisted readied hand untried =>
      exact ledger_still s s' t trace [] key book step rfl stack result calls enlisted readied hand untried
  | began _ at_ after stack result calls =>
      rw [List.append_nil]
      exact ledger_began s s' t trace key book step at_ after stack result calls
  | pushed _ old at_ after stack result calls => exact ledger_pushed s s' t old trace key book step at_ after stack result calls
  | drained _ at_ after stack result calls => exact ledger_drained s s' t trace key book step at_ after stack result calls
  | numbered _ x taken rest wrote dirty wrote' seq at_ after stack result calls =>
      exact ledger_numbered s s' t x taken rest wrote dirty wrote' seq trace key book step at_ after stack result calls
  | stored _ x rc todo at_ after stack result calls =>
      exact ledger_stored s s' t x rc todo trace key book step at_ after stack result calls (real x rc todo at_)
  | returned _ enlisted free after served stack result calls =>
      exact ledger_returned s s' t trace key book step enlisted free after served stack result calls

end Cabe
