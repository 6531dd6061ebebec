import Cabe.WalGroupSafety

set_option autoImplicit false

namespace Cabe

open Concurrency

variable {Tid : Type}

-- What is left of a leader's round before it takes the stack again.
def Pc.work : Pc Tid → Nat
  | .appending taken rest _ _ => taken.length + 2 * rest.length + 6
  | .finishing taken rejected _ _ _ => taken.length + rejected.length + 5
  | .storing todo => todo.length + 4
  | .bumping => 3
  | .notifying => 2
  | .rechecking => 1
  | _ => 0

-- The key holder until it is about to resign.
def Pc.serving : Pc Tid → Bool
  | .draining | .appending _ _ _ _ | .finishing _ _ _ _ _ | .storing _ | .bumping | .notifying | .rechecking => true
  | _ => false

-- The position, as far as a notify leaves it alone.
def Pc.awake : Pc Tid → Option (Pc Tid)
  | .asleep _ | .woken _ => none
  | pc => some pc

theorem awake_some (pc place : Pc Tid) (same : pc.awake = some place) : pc = place := by
  cases pc <;> first | exact Option.some.inj same | cases same

variable [DecidableEq Tid]

-- A thread in a call moves on in every state, except in its sleep.
def Ready (s : Group Tid) (t : Tid) : Prop := s.pc t ≠ .idle ∧ ∃ events s', GroupStep s t events s'

theorem awake_ready (s : Group Tid) (t : Tid) (busy : s.pc t ≠ .idle) (awake : ∀ e, s.pc t ≠ .asleep e) : Ready s t := by
  refine ⟨busy, ?_⟩
  have move (there : Pc Tid) (moves : Move s t (s.pc t) there) : ∃ events s', GroupStep s t events s' := ⟨_, _, .move s t there moves⟩
  cases at_ : s.pc t with
  | idle => exact absurd at_ busy
  | arrived => exact move _ (by rw [at_]; exact .load)
  | pushing old => exact move _ (by rw [at_]; exact .miss old)
  | electing =>
      cases active : s.leaderActive with
      | true => exact move _ (by rw [at_]; exact .follow active)
      | false => exact ⟨_, _, .elected s t (.inl at_) active⟩
  | draining =>
      by_cases empty : s.stackHead = []
      · exact move _ (by rw [at_]; exact .nothing empty)
      · exact ⟨_, _, .drain s t at_ empty⟩
  | appending taken rest wrote dirty =>
      cases rest with
      | nil => exact move _ (by rw [at_]; exact .taken taken wrote dirty)
      | cons x rest =>
          by_cases space : s.wal.admission.rc = Err.kSuccess
          · cases done : s.wal.admission.wal.append (s.entry x) with
            | mk rc grown =>
                by_cases fine : rc = Err.kSuccess
                · subst fine
                  exact ⟨_, _, .append s t x taken rest wrote dirty grown at_ space done⟩
                · exact ⟨_, _, .broken s t x taken rest wrote dirty rc grown at_ space done fine⟩
          · exact ⟨_, _, .refused s t x taken rest wrote dirty at_ space⟩
  | finishing taken rejected wrote dirty failRc =>
      cases done : BatchRun.finish ⟨s.wal, wrote, dirty, failRc, rejected.map s.entry⟩ with
      | mk rc after => exact ⟨_, _, .finish s t taken rejected wrote dirty failRc rc after at_ done⟩
  | storing todo =>
      cases todo with
      | nil => exact ⟨_, _, .stored s t at_⟩
      | cons p todo => exact ⟨_, _, .store s t p.1 p.2 todo at_⟩
  | bumping => exact ⟨_, _, .bump s t at_⟩
  | notifying => exact ⟨_, _, .notify s t at_⟩
  | rechecking =>
      by_cases empty : s.stackHead = []
      · exact move _ (by rw [at_]; exact .quit empty)
      · exact move _ (by rw [at_]; exact .more empty)
  | resigning => exact ⟨_, _, .resign s t at_⟩
  | reexamining =>
      by_cases empty : s.stackHead = []
      · exact move _ (by rw [at_]; exact .clear empty)
      · exact move _ (by rw [at_]; exact .found empty)
  | retaking =>
      cases active : s.leaderActive with
      | true => exact move _ (by rw [at_]; exact .relieved active)
      | false => exact ⟨_, _, .elected s t (.inr at_) active⟩
  | leaving => exact move _ (by rw [at_]; exact .out)
  | waiting =>
      by_cases pending : s.result t = kWalResultPending
      · exact move _ (by rw [at_]; exact .unserved pending)
      · exact ⟨_, _, .ret s t 0 (.inl at_) pending⟩
  | snapping => exact move _ (by rw [at_]; exact .snap)
  | again e =>
      by_cases pending : s.result t = kWalResultPending
      · exact move _ (by rw [at_]; exact .still e pending)
      · exact ⟨_, _, .ret s t e (.inr at_) pending⟩
  | sleeping e =>
      by_cases same : s.epoch = e
      · exact move _ (by rw [at_]; exact .block e same)
      · exact move _ (by rw [at_]; exact .changed e same)
  | asleep e => exact absurd at_ (awake e)
  | woken e => exact move _ (by rw [at_]; exact .back e)

theorem serving_step (s s' : Group Tid) (t : Tid) (events : List (GroupEvent Tid)) (step : GroupStep s t events s')
    (serving : (s.pc t).serving = true) (busy : s.stackHead ≠ [] ∨ (s.pc t).hand ≠ []) :
    ((s'.pc t).serving = true ∧ (s'.pc t).work < (s.pc t).work) ∨ (s.pc t = .draining ∧ s'.stackHead = []) := by
  cases step with
  | refuse e rest => rw [rest] at serving; cases serving
  | call e rest => rw [rest] at serving; cases serving
  | move there moves =>
      rw [goto_here]
      generalize at_ : s.pc t = pc at moves serving busy
      cases moves with
      | nothing empty => exact absurd empty (busy.resolve_right (fun no => no rfl))
      | quit empty => exact absurd empty (busy.resolve_right (fun no => no rfl))
      | taken batch wrote dirty =>
          refine .inl ⟨rfl, ?_⟩
          simp only [Pc.work, List.length_nil]
          omega
      | more => exact .inl ⟨rfl, Nat.zero_lt_one⟩
      | _ => cases serving
  | push old at_ => rw [at_] at serving; cases serving
  | elected at_ => rcases at_ with at_ | at_ <;> rw [at_] at serving <;> cases serving
  | drain at_ => exact .inr ⟨at_, rfl⟩
  | append x taken rest wrote dirty grown at_ =>
      rw [goto_here, at_]
      refine .inl ⟨rfl, ?_⟩
      simp only [Pc.work, List.length_append, List.length_cons, List.length_nil]
      omega
  | refused x taken rest wrote dirty at_ =>
      rw [goto_here, at_]
      refine .inl ⟨rfl, ?_⟩
      simp only [Pc.work, List.length_cons]
      omega
  | broken x taken rest wrote dirty rc after at_ =>
      rw [goto_here, at_]
      refine .inl ⟨rfl, ?_⟩
      simp only [Pc.work, List.length_cons]
      omega
  | finish taken rejected wrote dirty failRc prefixRc after at_ =>
      rw [goto_here, at_]
      refine .inl ⟨rfl, ?_⟩
      have nodes := congrArg List.length (batch_results_nodes taken rejected failRc prefixRc)
      rw [List.length_map, List.length_append] at nodes
      simp only [Pc.work, nodes]
      omega
  | store x rc todo at_ =>
      rw [goto_here, at_]
      refine .inl ⟨rfl, ?_⟩
      simp only [Pc.work, List.length_cons]
      omega
  | stored at_ =>
      rw [goto_here, at_]
      exact .inl ⟨rfl, by simp [Pc.work]⟩
  | bump at_ =>
      rw [goto_here, at_]
      exact .inl ⟨rfl, Nat.lt_succ_self 2⟩
  | notify at_ =>
      rw [goto_here, at_]
      exact .inl ⟨rfl, Nat.lt_succ_self 1⟩
  | resign at_ => rw [at_] at serving; cases serving
  | ret e at_ => rcases at_ with at_ | at_ <;> rw [at_] at serving <;> cases serving

omit [DecidableEq Tid] in
theorem holds_serving (pc : Pc Tid) (holds : pc.holds = true) (idle : pc.serving = false) : pc = .resigning := by
  cases pc <;> first | rfl | exact absurd holds Bool.false_ne_true | exact absurd idle.symm Bool.false_ne_true

theorem resigning_step (s s' : Group Tid) (t : Tid) (events : List (GroupEvent Tid)) (step : GroupStep s t events s')
    (at_ : s.pc t = .resigning) : s'.leaderActive = false := by
  cases step with
  | move there moves =>
      rw [at_] at moves
      cases moves
  | resign => rfl
  | _ => simp_all

theorem free_step (s s' : Group Tid) (t : Tid) (events : List (GroupEvent Tid)) (step : GroupStep s t events s')
    (free : s.leaderActive = false) (idle : (s'.pc t).serving = false) : s'.leaderActive = false := by
  cases step with
  | elected =>
      rw [goto_here] at idle
      cases idle
  | resign => rfl
  | _ => exact free

theorem taking_step (s s' : Group Tid) (t : Tid) (events : List (GroupEvent Tid)) (step : GroupStep s t events s')
    (at_ : s.pc t = .electing ∨ s.pc t = .retaking) (free : s.leaderActive = false) : (s'.pc t).serving = true := by
  cases step with
  | move there moves => rcases at_ with at_ | at_ <;> rw [at_] at moves <;> cases moves <;> simp_all
  | elected =>
      rw [goto_here]
      rfl
  | _ => rcases at_ with at_ | at_ <;> simp_all

theorem reexamining_step (s s' : Group Tid) (t : Tid) (events : List (GroupEvent Tid)) (step : GroupStep s t events s')
    (at_ : s.pc t = .reexamining) (busy : s.stackHead ≠ []) : s'.pc t = .retaking := by
  cases step with
  | move there moves =>
      rw [at_] at moves
      cases moves with
      | clear empty => exact absurd empty busy
      | found => exact goto_here _ _ _
  | _ => simp_all

variable (w : Wal) (path : (groupMachine w : Machine (Group Tid) Tid (GroupEvent Tid)).Path) (fair : path.Fair Ready)

include fair

-- A thread that is not asleep moves from where it is.
theorem group_moves (n : Nat) (t : Tid) (place : Pc Tid) (at_ : (path.state n).pc t = place) (busy : place ≠ .idle)
    (awake : place.awake = some place) : ∃ k, n ≤ k ∧ (path.state k).pc t = place ∧ path.actor k = some t := by
  refine fair_moves _ path Ready fair (fun s => s.pc t = place) t n at_ ?_ ?_
  · intro k _ here
    refine awake_ready _ t (by rw [here]; exact busy) fun e asleep => ?_
    rw [← here, asleep] at awake
    cases awake
  · intro s b events s' other here step
    have same := step_other Pc.awake (fun _ => rfl) s s' b t events step (Ne.symm other)
    rw [here, awake] at same
    exact awake_some _ _ same

-- A leader with work does it, and takes the stack, unless the work goes away.
theorem serving_ends (n : Nat) (busy : ∀ k t, n ≤ k → ((path.state k).pc t).serving = true →
    (path.state k).stackHead ≠ [] ∨ ((path.state k).pc t).hand ≠ []) (full : ∀ k t, n ≤ k → (path.state k).pc t = .draining →
    (path.state (k + 1)).stackHead ≠ []) (work : Nat) : ∀ k t, n ≤ k → ((path.state k).pc t).serving = true →
    ((path.state k).pc t).work = work → False := by
  induction work using Nat.strong_induction_on with
  | _ work ih =>
      intro k t later serving same
      have awake : ((path.state k).pc t).awake = some ((path.state k).pc t) := by
        generalize (path.state k).pc t = pc at serving
        cases pc <;> first | rfl | cases serving
      obtain ⟨k', after, at_, moved⟩ := group_moves w path fair k t _ rfl (by rintro idle; rw [idle] at serving; cases serving) awake
      have step := path.moves k' t moved
      rw [← at_] at serving same
      rcases serving_step _ _ t _ step serving (busy k' t (by omega) serving) with ⟨serving', less⟩ | ⟨draining, empty⟩
      · exact ih _ (same ▸ less) (k' + 1) t (by omega) serving' rfl
      · exact full k' t (by omega) draining empty

-- A stack with nodes on it is taken.
theorem stack_taken (n : Nat) : ∃ k, n ≤ k ∧ (path.state k).stackHead = [] := by
  by_contra never
  have busy (k : Nat) (later : n ≤ k) : (path.state k).stackHead ≠ [] := fun empty => never ⟨k, later, empty⟩
  have inv (k : Nat) := group_run w (path.trace k) (path.state k) (path_run _ path k)
  have nobody (k : Nat) (t : Tid) (later : n ≤ k) : ((path.state k).pc t).serving = false := by
    cases serving : ((path.state k).pc t).serving with
    | false => rfl
    | true => exact (serving_ends w path fair n (fun k t later _ => .inl (busy k later)) (fun k t later _ => busy (k + 1) (by omega))
        _ k t later serving rfl).elim
  -- Nobody wins the key any more, so that it is free once it is given back.
  obtain ⟨m, later, free⟩ : ∃ m, n ≤ m ∧ (path.state m).leaderActive = false := by
    cases active : (path.state n).leaderActive with
    | false => exact ⟨n, Nat.le_refl _, active⟩
    | true =>
        obtain ⟨t, holds⟩ := (inv n).key.flag.mp active
        have at_ := holds_serving _ holds (nobody n t (Nat.le_refl _))
        obtain ⟨k, after, here, moved⟩ := group_moves w path fair n t _ at_ (fun no => by cases no) rfl
        exact ⟨k + 1, by omega, resigning_step _ _ t _ (path.moves k t moved) here⟩
  have forever (k : Nat) (after : m ≤ k) : (path.state k).leaderActive = false := by
    induction k with
    | zero => exact Nat.le_zero.mp after ▸ free
    | succ k ih =>
        rcases Nat.lt_or_ge m (k + 1) with before | at_
        · have still := ih (by omega)
          cases moved : path.actor k with
          | none => rw [(path.idles k moved).1, still]
          | some t => exact free_step _ _ t _ (path.moves k t moved) still (nobody (k + 1) t (by omega))
        · exact Nat.le_antisymm after at_ ▸ free
  -- So a thread that goes for the key would win it.
  have taker (k : Nat) (t : Tid) (after : m ≤ k) (place : Pc Tid) (at_ : (path.state k).pc t = place)
      (taking : place = .electing ∨ place = .retaking) : False := by
    obtain ⟨k', after', here, moved⟩ : ∃ k', k ≤ k' ∧ (path.state k').pc t = place ∧ path.actor k' = some t := by
      apply group_moves w path fair k t place at_ <;> rcases taking with rfl | rfl
      · exact fun no => by cases no
      · exact fun no => by cases no
      · rfl
      · rfl
    have won := taking_step _ _ t _ (path.moves k' t moved) (by rw [here]; exact taking) (forever k' (by omega))
    exact absurd (won.symm.trans (nobody (k' + 1) t (by omega))) (by decide)
  obtain ⟨t, watches⟩ := (inv m).watched (busy m later)
  have free' := key_free _ (inv m).key free t
  generalize at_ : (path.state m).pc t = pc at watches free'
  cases pc with
  | electing => exact taker m t (Nat.le_refl _) _ at_ (.inl rfl)
  | retaking => exact taker m t (Nat.le_refl _) _ at_ (.inr rfl)
  | reexamining =>
      obtain ⟨k, after, here, moved⟩ := group_moves w path fair m t _ at_ (fun no => by cases no) rfl
      have next := reexamining_step _ _ t _ (path.moves k t moved) here (busy k (by omega))
      exact taker (k + 1) t (by omega) _ next (.inr rfl)
  | _ => first | exact absurd watches Bool.false_ne_true | exact absurd free'.symm Bool.false_ne_true

-- Every pushed call is drained, and gets its result, some time later.
theorem pushed_drained (n : Nat) (call : Ticket Tid) (pushed : call ∈ pushes (path.trace n)) :
    ∃ k, n ≤ k ∧ call ∈ (drains (path.trace k)).flatten := by
  obtain ⟨k, later, empty⟩ := stack_taken w path fair n
  have order := (group_run w (path.trace k) (path.state k) (path_run _ path k)).book.order
  obtain ⟨more, grown⟩ := path_trace_prefix _ path n k later
  refine ⟨k, later, ?_⟩
  unfold InOrder at order
  rw [empty, List.map_nil, List.reverse_nil, List.append_nil] at order
  rw [← order, ← grown, pushes_append]
  exact List.mem_append_left _ pushed

theorem drained_stored (n : Nat) (call : Ticket Tid) (drained : call ∈ (drains (path.trace n)).flatten) :
    ∃ k, n ≤ k ∧ call ∈ (stores (path.trace k)).map Prod.fst := by
  by_contra never
  -- Until then the call's node is in the leader's hands.
  have held (k : Nat) (later : n ≤ k) : ∃ t, ((path.state k).pc t).holds = true ∧ ((path.state k).pc t).hand ≠ [] := by
    have inv := group_run w (path.trace k) (path.state k) (path_run _ path k)
    obtain ⟨nodes, inHand, given⟩ := inv.book.given
    obtain ⟨more, grown⟩ := path_trace_prefix _ path n k later
    have still : call ∈ (drains (path.trace k)).flatten := by
      rw [← grown, drains_append, List.flatten_append]
      exact List.mem_append_left _ drained
    rw [given, List.mem_append] at still
    have member := still.resolve_left fun stored => never ⟨k, later, stored⟩
    obtain ⟨x, inside, _⟩ := List.mem_map.mp member
    obtain ⟨t, holds, there⟩ := in_hand_source Pc.hand _ inv.key nodes inHand x inside
    exact ⟨t, holds, List.ne_nil_of_mem there⟩
  have only (k : Nat) (t : Tid) (later : n ≤ k) (holds : ((path.state k).pc t).holds = true) : ((path.state k).pc t).hand ≠ [] := by
    obtain ⟨u, holds', hand⟩ := held k later
    rw [(group_run w (path.trace k) (path.state k) (path_run _ path k)).key.unique t u holds holds']
    exact hand
  obtain ⟨t, holds, hand⟩ := held n (Nat.le_refl _)
  have serving : ((path.state n).pc t).serving = true := by
    generalize (path.state n).pc t = pc at holds hand
    cases pc <;> first | rfl | exact absurd rfl hand
  refine serving_ends w path fair n (fun k u later serving' => .inr (only k u later ?_)) (fun k u later draining => ?_) _ n t (Nat.le_refl _)
    serving rfl
  · generalize (path.state k).pc u = pc at serving'
    cases pc <;> first | rfl | cases serving'
  · have hand := only k u later (by rw [draining]; rfl)
    rw [draining] at hand
    exact absurd rfl hand

end Cabe
