import Cabe.WalGroup

set_option autoImplicit false

namespace Cabe

open Concurrency

variable {Tid : Type}

-- The key holder runs from a winning exchange(true) to its store(false).
def Pc.holds : Pc Tid → Bool
  | .draining | .appending _ _ _ _ | .finishing _ _ _ _ _ | .storing _ | .bumping | .notifying | .rechecking | .resigning => true
  | _ => false

-- Its thread is leader, or is still about to take or to check the leadership.
def Pc.seeks : Pc Tid → Bool
  | .electing | .reexamining | .retaking => true
  | _ => false

def Pc.watches (pc : Pc Tid) : Bool := pc.holds || pc.seeks

-- The node is pushed and its call has not returned.
def Pc.enlisted : Pc Tid → Bool
  | .idle | .arrived | .pushing _ => false
  | _ => true

-- The node is ready but its push has not succeeded yet.
def Pc.readied : Pc Tid → Bool
  | .arrived | .pushing _ => true
  | _ => false

-- The thread has drained the stack in this call, so its own node is not there.
def Pc.past : Pc Tid → Bool
  | .appending _ _ _ _ | .finishing _ _ _ _ _ | .storing _ | .bumping | .notifying => true
  | .rechecking | .resigning | .reexamining | .retaking | .leaving => true
  | _ => false

-- The thread has also seen every result of its last batch stored.
def Pc.served : Pc Tid → Bool
  | .rechecking | .resigning | .reexamining | .retaking | .leaving => true
  | _ => false

-- The drained nodes whose results are still to be stored, and those of them
-- that the loop has gone through.
def Pc.hand : Pc Tid → List Tid
  | .appending taken rest _ _ => taken ++ rest
  | .finishing taken rejected _ _ _ => taken ++ rejected
  | .storing todo => todo.map Prod.fst
  | _ => []

def Pc.untried : Pc Tid → List Tid
  | .appending _ rest _ _ => rest
  | _ => []

def pushes (trace : List (GroupEvent Tid)) : List (Ticket Tid) :=
  trace.filterMap fun event => match event with
    | .pushed call => some call
    | _ => none

def drains (trace : List (GroupEvent Tid)) : List (List (Ticket Tid)) :=
  trace.filterMap fun event => match event with
    | .drained batch => some batch
    | _ => none

def numbers (trace : List (GroupEvent Tid)) : List (Ticket Tid × Nat) :=
  trace.filterMap fun event => match event with
    | .numbered call seq => some (call, seq)
    | _ => none

def stores (trace : List (GroupEvent Tid)) : List (Ticket Tid × Rc) :=
  trace.filterMap fun event => match event with
    | .stored call rc => some (call, rc)
    | _ => none

def returns (trace : List (GroupEvent Tid)) : List (Ticket Tid × Rc) :=
  trace.filterMap fun event => match event with
    | .returned call rc => some (call, rc)
    | _ => none


@[simp] theorem pushes_append (a b : List (GroupEvent Tid)) : pushes (a ++ b) = pushes a ++ pushes b := List.filterMap_append

@[simp] theorem drains_append (a b : List (GroupEvent Tid)) : drains (a ++ b) = drains a ++ drains b := List.filterMap_append

@[simp] theorem numbers_append (a b : List (GroupEvent Tid)) : numbers (a ++ b) = numbers a ++ numbers b := List.filterMap_append

@[simp] theorem stores_append (a b : List (GroupEvent Tid)) : stores (a ++ b) = stores a ++ stores b := List.filterMap_append

@[simp] theorem returns_append (a b : List (GroupEvent Tid)) : returns (a ++ b) = returns a ++ returns b := List.filterMap_append

theorem notify_all_kept {β : Type} (part : Pc Tid → β) (same : ∀ e, part (.asleep e) = part (.woken e)) (pc : Tid → Pc Tid) (t : Tid) :
    part (notifyAll pc t) = part (pc t) := by
  unfold notifyAll
  split
  · next e at_ => rw [at_, same]
  · rfl

variable [DecidableEq Tid]

@[simp] theorem goto_here (s : Group Tid) (t : Tid) (pc : Pc Tid) : (s.goto t pc).pc t = pc := by
  simp [Group.goto]

theorem goto_there (s : Group Tid) (t u : Tid) (pc : Pc Tid) (other : u ≠ t) : (s.goto t pc).pc u = s.pc u := by
  simp [Group.goto, other]

-- A part of the position that notify_all keeps changes at no other thread.
theorem step_other {β : Type} (part : Pc Tid → β) (same : ∀ e, part (.asleep e) = part (.woken e)) (s s' : Group Tid) (t u : Tid)
    (events : List (GroupEvent Tid)) (step : GroupStep s t events s') (other : u ≠ t) : part (s'.pc u) = part (s.pc u) := by
  cases step with
  | refuse => rfl
  | notify =>
      rw [goto_there _ _ _ _ other]
      exact notify_all_kept part same s.pc u
  | _ => rw [goto_there _ _ _ _ other]

-- The key changes hands only by a winning exchange and by the store of false.
theorem step_key (s s' : Group Tid) (t : Tid) (events : List (GroupEvent Tid)) (step : GroupStep s t events s') :
    ((s'.pc t).holds = (s.pc t).holds ∧ s'.leaderActive = s.leaderActive) ∨
      ((s.pc t).holds = false ∧ s.leaderActive = false ∧ (s'.pc t).holds = true ∧ s'.leaderActive = true) ∨
      ((s.pc t).holds = true ∧ (s'.pc t).holds = false ∧ s'.leaderActive = false) := by
  cases step with
  | refuse => exact .inl ⟨rfl, rfl⟩
  | call e rest => exact .inl ⟨by rw [goto_here, rest]; rfl, rfl⟩
  | move there moves =>
      refine .inl ⟨?_, rfl⟩
      rw [goto_here]
      generalize s.pc t = here at moves
      cases moves <;> rfl
  | push old at_ same =>
      refine .inl ⟨?_, rfl⟩
      rw [goto_here, at_]
      split <;> rfl
  | elected at_ free =>
      refine .inr (.inl ⟨?_, free, by rw [goto_here]; rfl, rfl⟩)
      rcases at_ with at_ | at_ <;> rw [at_] <;> rfl
  | resign at_ => exact .inr (.inr ⟨by rw [at_]; rfl, by rw [goto_here]; rfl, rfl⟩)
  | ret e at_ _ =>
      refine .inl ⟨?_, rfl⟩
      rcases at_ with at_ | at_ <;> rw [goto_here, at_] <;> rfl
  | _ => exact .inl ⟨by simp only [goto_here, *]; rfl, rfl⟩

structure OneKey (s : Group Tid) : Prop where
  unique : ∀ t u, (s.pc t).holds = true → (s.pc u).holds = true → t = u
  flag : s.leaderActive = true ↔ ∃ t, (s.pc t).holds = true

theorem one_key_step (s s' : Group Tid) (t : Tid) (events : List (GroupEvent Tid)) (key : OneKey s) (step : GroupStep s t events s') :
    OneKey s' := by
  have others (u : Tid) (other : u ≠ t) : (s'.pc u).holds = (s.pc u).holds := step_other Pc.holds (fun _ => rfl) s s' t u events step other
  have everyone (same : (s'.pc t).holds = (s.pc t).holds) (u : Tid) : (s'.pc u).holds = (s.pc u).holds := by
    by_cases here : u = t
    · rw [here, same]
    · exact others u here
  rcases step_key s s' t events step with ⟨same, flag⟩ | ⟨_, free, won, taken⟩ | ⟨had, gone, given⟩
  · constructor
    · intro a b
      rw [everyone same, everyone same]
      exact key.unique a b
    · rw [flag, key.flag]
      exact exists_congr fun u => by rw [everyone same]
  · have nobody (u : Tid) : (s.pc u).holds = false := by
      by_contra holds
      rw [Bool.not_eq_false] at holds
      exact absurd (free.symm.trans (key.flag.mpr ⟨u, holds⟩)) (by decide)
    have only (u : Tid) (holds : (s'.pc u).holds = true) : u = t := by
      by_contra other
      rw [others u other, nobody] at holds
      cases holds
    exact ⟨fun a b left right => (only a left).trans (only b right).symm, fun _ => ⟨t, won⟩, fun _ => taken⟩
  · have nobody (u : Tid) : (s'.pc u).holds = false := by
      by_contra holds
      rw [Bool.not_eq_false] at holds
      by_cases here : u = t
      · rw [here, gone] at holds
        cases holds
      · rw [others u here] at holds
        exact here (key.unique u t holds had)
    refine ⟨fun a b left => absurd (left.symm.trans (nobody a)) (by decide), fun taken => ?_, fun ⟨u, holds⟩ => ?_⟩
    · exact absurd (given.symm.trans taken) (by decide)
    · exact absurd (holds.symm.trans (nobody u)) (by decide)

-- Nobody waits on the stack unless some thread is leader or will look for one.
def Watched (s : Group Tid) : Prop := s.stackHead ≠ [] → ∃ t, (s.pc t).watches = true

theorem watched_step (s s' : Group Tid) (t : Tid) (events : List (GroupEvent Tid)) (key : OneKey s) (watched : Watched s)
    (step : GroupStep s t events s') : Watched s' := by
  have others (u : Tid) (other : u ≠ t) : (s'.pc u).watches = (s.pc u).watches :=
    step_other Pc.watches (fun _ => rfl) s s' t u events step other
  -- Where the thread itself does not stop watching, a watcher stays.
  have stays (stack : s'.stackHead ≠ [] → s.stackHead ≠ []) (kept : (s.pc t).watches = true → (s'.pc t).watches = true) : Watched s' := by
    intro busy
    obtain ⟨u, watches⟩ := watched (stack busy)
    by_cases here : u = t
    · exact ⟨t, kept (here ▸ watches)⟩
    · exact ⟨u, by rw [others u here, watches]⟩
  -- Where it stops because the flag is up, the key holder watches.
  have holder (active : s.leaderActive = true) (idle : (s.pc t).holds = false) : Watched s' := by
    intro _
    obtain ⟨u, holds⟩ := key.flag.mp active
    have other : u ≠ t := by
      rintro rfl
      exact absurd (holds.symm.trans idle) (by decide)
    exact ⟨u, by rw [others u other, Pc.watches, holds, Bool.true_or]⟩
  cases step with
  | refuse => exact watched
  | call e rest => exact stays id (by rw [rest]; intro no; cases no)
  | move there moves =>
      generalize at_ : s.pc t = here at moves
      cases moves with
      | follow active => exact holder active (by rw [at_]; rfl)
      | relieved active => exact holder active (by rw [at_]; rfl)
      | clear empty => exact fun busy => absurd empty busy
      | _ => exact stays id (by rw [at_, goto_here]; exact id)
  | push old at_ same =>
      by_cases empty : old = none
      · exact fun _ => ⟨t, by rw [goto_here, if_pos empty]; rfl⟩
      · refine stays (fun _ none_ => ?_) (by rw [at_]; intro no; cases no)
        rw [none_] at same
        exact empty same.symm
  | drain => exact fun busy => absurd rfl busy
  | ret e at_ _ => exact stays id (by rcases at_ with at_ | at_ <;> rw [at_] <;> exact fun no => by cases no)
  | elected => exact fun _ => ⟨t, by rw [goto_here]; rfl⟩
  | _ => exact stays id (by simp only [goto_here, *]; exact fun _ => rfl)


-- What a step does to the nodes, the other threads' positions aside.
inductive Traffic (s : Group Tid) (t : Tid) : List (GroupEvent Tid) → Group Tid → Prop
  | still (s' : Group Tid) (stack : s'.stackHead = s.stackHead) (result : s'.result = s.result) (calls : s'.calls = s.calls)
      (enlisted : (s'.pc t).enlisted = (s.pc t).enlisted) (readied : (s'.pc t).readied = (s.pc t).readied)
      (hand : (s'.pc t).hand = (s.pc t).hand) (untried : (s'.pc t).untried = (s.pc t).untried ∨ (s'.pc t).untried = []) :
      Traffic s t [] s'
  | began (s' : Group Tid) (at_ : s.pc t = .idle) (after : s'.pc t = .arrived) (stack : s'.stackHead = s.stackHead)
      (result : s'.result = Function.update s.result t kWalResultPending)
      (calls : s'.calls = Function.update s.calls t (s.calls t + 1)) : Traffic s t [] s'
  | pushed (s' : Group Tid) (old : Option Tid) (at_ : s.pc t = .pushing old) (after : s'.pc t = .electing ∨ s'.pc t = .waiting)
      (stack : s'.stackHead = t :: s.stackHead) (result : s'.result = s.result) (calls : s'.calls = s.calls) :
      Traffic s t [.pushed (s.ticket t)] s'
  | drained (s' : Group Tid) (at_ : s.pc t = .draining) (after : s'.pc t = .appending [] s.stackHead.reverse false false)
      (stack : s'.stackHead = []) (result : s'.result = s.result) (calls : s'.calls = s.calls) :
      Traffic s t [.drained (s.stackHead.reverse.map s.ticket)] s'
  | numbered (s' : Group Tid) (x : Tid) (taken rest : List Tid) (wrote dirty wrote' : Bool) (seq : Nat)
      (at_ : s.pc t = .appending taken (x :: rest) wrote dirty) (after : s'.pc t = .appending (taken ++ [x]) rest wrote' true)
      (stack : s'.stackHead = s.stackHead) (result : s'.result = s.result) (calls : s'.calls = s.calls) :
      Traffic s t [.numbered (s.ticket x) seq] s'
  | stored (s' : Group Tid) (x : Tid) (rc : Rc) (todo : List (Tid × Rc)) (at_ : s.pc t = .storing ((x, rc) :: todo))
      (after : s'.pc t = .storing todo) (stack : s'.stackHead = s.stackHead) (result : s'.result = Function.update s.result x rc)
      (calls : s'.calls = s.calls) : Traffic s t [.stored (s.ticket x) rc] s'
  | returned (s' : Group Tid) (enlisted : (s.pc t).enlisted = true) (free : (s.pc t).holds = false) (after : s'.pc t = .idle)
      (served : s.result t ≠ kWalResultPending) (stack : s'.stackHead = s.stackHead) (result : s'.result = s.result)
      (calls : s'.calls = s.calls) : Traffic s t [.returned (s.ticket t) (s.result t)] s'

omit [DecidableEq Tid] in
theorem batch_results_nodes (taken rejected : List Tid) (failRc prefixRc : Rc) :
    (batchResults taken rejected failRc prefixRc).map Prod.fst = taken ++ rejected := by
  simp [batchResults, Function.comp_def]

theorem step_traffic (s s' : Group Tid) (t : Tid) (events : List (GroupEvent Tid)) (step : GroupStep s t events s') :
    Traffic s t events s' := by
  cases step with
  | refuse => exact .still s rfl rfl rfl rfl rfl rfl (.inl rfl)
  | call e rest => exact .began _ rest (goto_here _ _ _) rfl rfl rfl
  | move there moves =>
      generalize at_ : s.pc t = here at moves
      cases moves with
      | taken batch wrote dirty =>
          refine .still (s.goto t _) rfl rfl rfl ?_ ?_ ?_ (.inr ?_) <;> rw [goto_here]
          · rw [at_]
            rfl
          · rw [at_]
            rfl
          · rw [at_]
            rfl
          · rfl
      | _ => refine .still (s.goto t _) rfl rfl rfl ?_ ?_ ?_ (.inl ?_) <;> rw [at_, goto_here] <;> rfl
  | push old at_ same =>
      refine .pushed _ old at_ ?_ rfl rfl rfl
      rw [goto_here]
      by_cases empty : old = none
      · exact .inl (if_pos empty)
      · exact .inr (if_neg empty)
  | elected at_ free =>
      refine .still (Group.goto _ t _) rfl rfl rfl ?_ ?_ ?_ (.inl ?_) <;> rcases at_ with at_ | at_ <;> rw [at_, goto_here] <;> rfl
  | drain at_ busy => exact .drained _ at_ (goto_here _ _ _) rfl rfl rfl
  | append x taken rest wrote dirty grown at_ =>
      exact .numbered _ x taken rest wrote dirty _ _ at_ (goto_here _ _ _) rfl rfl rfl
  | finish taken rejected wrote dirty failRc prefixRc after at_ done =>
      refine .still (Group.goto _ t _) rfl rfl rfl ?_ ?_ ?_ (.inl ?_) <;> rw [at_, goto_here]
      · rfl
      · rfl
      · exact batch_results_nodes taken rejected failRc prefixRc
      · rfl
  | store x rc todo at_ => exact .stored _ x rc todo at_ (goto_here _ _ _) rfl rfl rfl
  | ret e at_ served =>
      refine .returned _ ?_ ?_ (goto_here _ _ _) served rfl rfl rfl <;> rcases at_ with at_ | at_ <;> rw [at_] <;> rfl
  | _ => refine .still (Group.goto _ t _) rfl rfl rfl ?_ ?_ ?_ (.inr ?_) <;> simp only [goto_here, *] <;> rfl


end Cabe
