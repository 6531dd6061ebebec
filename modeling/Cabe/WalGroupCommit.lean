import Cabe.WalGenerations
import Cabe.WalGroupFair
import Cabe.WalGroupWakeup

set_option autoImplicit false

namespace Cabe

open Concurrency

variable {Tid : Type} [DecidableEq Tid]

-- One thread at a time is leader, and only a leader's steps change the window
-- state.
structure OneLeader (s : Group Tid) : Prop where
  unique : ∀ t u, (s.pc t).holds = true → (s.pc u).holds = true → t = u
  flag : s.leaderActive = true ↔ ∃ t, (s.pc t).holds = true
  window : ∀ t events s', GroupStep s t events s' → s'.wal ≠ s.wal → (s.pc t).holds = true

-- A pushed node is on the stack or has gone into one batch, it is given one
-- result, and a call returns the result its node was given.
structure ServedOnce (trace : List (GroupEvent Tid)) (s : Group Tid) : Prop where
  pushedOnce : (pushes trace).Nodup
  waiting : pushes trace = (drains trace).flatten ++ (s.stackHead.map s.ticket).reverse
  drainedOnce : (drains trace).flatten.Nodup
  storedOnce : ((stores trace).map Prod.fst).Nodup
  stored : ∀ call ∈ (stores trace).map Prod.fst, call ∈ (drains trace).flatten
  returned : ∀ c ∈ returns trace, c ∈ stores trace
  leaving : ∀ t, s.pc t = .leaving → s.result t ≠ kWalResultPending

def NoneAbandoned (s : Group Tid) : Prop :=
  (s.stackHead ≠ [] ∨ ∃ t e, s.pc t = .asleep e ∧ s.epoch = e ∧ s.result t = kWalResultPending) → ∃ u, (s.pc u).watches = true

-- A waiter that sleeps while its result is there has a thread about to notify
-- it, unless the epoch has gone round.
def NoneStranded (trace : List (GroupEvent Tid)) (s : Group Tid) : Prop :=
  (drains trace).length < 2 ^ 64 →
    ∀ t e, s.pc t = .asleep e → s.result t ≠ kWalResultPending → ∃ u, (s.pc u).rouses = true

def PushOrder (first : Nat) (trace : List (GroupEvent Tid)) : Prop :=
  ((numbers trace).map Prod.fst).Sublist (pushes trace) ∧ (numbers trace).map Prod.snd = List.range' first (numbers trace).length

theorem step_window (s s' : Group Tid) (t : Tid) (events : List (GroupEvent Tid)) (step : GroupStep s t events s') (changed : s'.wal ≠ s.wal) :
    (s.pc t).holds = true := by
  cases step with
  | append x taken rest wrote dirty grown at_ => rw [at_]; rfl
  | refused x taken rest wrote dirty at_ => rw [at_]; rfl
  | broken x taken rest wrote dirty rc after at_ => rw [at_]; rfl
  | finish taken rejected wrote dirty failRc prefixRc after at_ => rw [at_]; rfl
  | _ => exact absurd rfl changed

omit [DecidableEq Tid] in
theorem group_served_once (first : Nat) (trace : List (GroupEvent Tid)) (s : Group Tid) (inv : GroupInv first trace s) : ServedOnce trace s := by
  obtain ⟨nodes, _, given⟩ := inv.book.given
  have order := inv.book.order
  have once := inv.book.once
  unfold InOrder at order
  have drained : (drains trace).flatten.Nodup := by
    rw [order] at once
    exact (List.nodup_append.mp once).1
  refine ⟨inv.book.once, order, drained, ?_, fun call stored => ?_, inv.book.returned, fun t at_ => inv.served t (by rw [at_]; rfl)⟩
  · rw [given] at drained
    exact (List.nodup_append.mp drained).1
  · rw [given]
    exact List.mem_append_left _ stored

omit [DecidableEq Tid] in
-- A waiter without a result is on the stack or in a leader's hands.
theorem group_none_abandoned (first : Nat) (trace : List (GroupEvent Tid)) (s : Group Tid) (inv : GroupInv first trace s) : NoneAbandoned s := by
  rintro (busy | ⟨t, e, asleep, _, waits⟩)
  · exact inv.watched busy
  · have enlisted : (s.pc t).enlisted = true := by rw [asleep]; rfl
    obtain ⟨nodes, inHand, given⟩ := inv.book.given
    have order := inv.book.order
    have pushed := inv.book.pushed t enlisted
    unfold InOrder at order
    rw [order, given, List.mem_append, List.mem_append] at pushed
    rcases pushed with (stored | held) | stacked
    · exact absurd stored (inv.book.pending t enlisted waits)
    · obtain ⟨x, member, _⟩ := List.mem_map.mp held
      obtain ⟨u, holds, _⟩ := in_hand_source Pc.hand s inv.key nodes inHand x member
      exact ⟨u, by rw [Pc.watches, holds, Bool.true_or]⟩
    · refine inv.watched fun empty => ?_
      rw [empty] at stacked
      exact absurd stacked List.not_mem_nil

omit [DecidableEq Tid] in
theorem group_push_order (first : Nat) (trace : List (GroupEvent Tid)) (s : Group Tid) (inv : GroupInv first trace s) :
    PushOrder first trace := by
  obtain ⟨nodes, done, _, tried, inOrder⟩ := inv.book.tried
  have order := inv.book.order
  unfold InOrder at order
  refine ⟨?_, inv.sequence.1⟩
  rw [order, tried, List.append_assoc]
  exact inOrder.trans (List.sublist_append_left done _)

-- Whatever the number of writers and the order of their steps, and whatever
-- the device does: in every state they reach the group is safe, and where no
-- thread that can move is kept from moving, every pushed call gets its result.
theorem group_commit_safe (w : Wal) :
    (∀ (trace : List (GroupEvent Tid)) (s : Group Tid), (groupMachine w).Run trace s →
      OneLeader s ∧ ServedOnce trace s ∧ NoneAbandoned s ∧ NoneStranded trace s ∧ PushOrder w.seqNext trace) ∧
    (∀ path : (groupMachine w : Machine (Group Tid) Tid (GroupEvent Tid)).Path, path.Fair Ready →
      ∀ n, ∀ call ∈ pushes (path.trace n), ∃ k, n ≤ k ∧ call ∈ (stores (path.trace k)).map Prod.fst) := by
  refine ⟨fun trace s run => ?_, fun path fair n call pushed => ?_⟩
  · have inv := group_run w trace s run
    exact ⟨⟨inv.key.unique, inv.key.flag, fun t events s' step => step_window s s' t events step⟩, group_served_once w.seqNext trace s inv,
      group_none_abandoned w.seqNext trace s inv, fun few => epochs_roused _ s (epochs_run w trace s run few),
      group_push_order w.seqNext trace s inv⟩
  · obtain ⟨k, later, drained⟩ := pushed_drained w path fair n call pushed
    obtain ⟨m, after, stored⟩ := drained_stored w path fair k call drained
    exact ⟨m, by omega, stored⟩

-- A synchronous write that succeeds has room for its frame and a batch that is
-- written out.
theorem sync_write_steps (w : Wal) (level : WalLevel) (e : WalEntry) (after : Wal) (sync : isWalSyncLevel level = true)
    (short : e.key.length ≤ kWalKeyMax) (buffered : w.curBuf ≠ none) (done : w.writeWal level e = (Err.kSuccess, after)) :
    ∃ grown, w.admission.rc = Err.kSuccess ∧ w.admission.wal.append e = (Err.kSuccess, grown) ∧
      BatchRun.finish ⟨grown, false || w.admission.wrote, true, Err.kSuccess, []⟩ = (Err.kSuccess, after) := by
  unfold Wal.writeWal at done
  rw [if_neg (by omega), if_neg buffered, if_pos sync] at done
  unfold Wal.processBatch at done
  generalize loop : w.batchLoop false false [e] = r at done
  have refused (wrote dirty : Bool) (rc : Rc) (left : Wal) (bad : rc ≠ Err.kSuccess) (stops : r = ⟨left, wrote, dirty, rc, [e]⟩) : False := by
    subst stops
    refine absurd (show (if rc = Err.kWalFull then Err.kWalFull else (BatchRun.finish ⟨left, wrote, dirty, rc, [e]⟩).1) = Err.kSuccess from
      congrArg Prod.fst done) ?_
    split
    · decide
    · next other =>
        unfold BatchRun.finish
        rw [if_pos ⟨bad, other⟩]
        exact bad
  unfold Wal.batchLoop at loop
  by_cases space : w.admission.rc = Err.kSuccess
  · rw [if_neg (by simp [space])] at loop
    generalize put : w.admission.wal.append e = out at loop
    obtain ⟨rc, grown⟩ := out
    simp only at loop
    by_cases fine : rc = Err.kSuccess
    · rw [if_neg (by simp [fine])] at loop
      subst loop
      exact ⟨grown, space, by rw [fine], done⟩
    · rw [if_pos fine] at loop
      exact (refused _ _ rc grown fine loop.symm).elim
  · rw [if_pos space] at loop
    exact (refused _ _ _ _ space loop.symm).elim

-- A leader takes the one node on the stack through its batch.
theorem lone_batch (w : Wal) (trace : List (GroupEvent Tid)) (s : Group Tid) (t x : Tid) (level : WalLevel) (after : Wal)
    (run : (groupMachine w).Run trace s) (at_ : s.pc t = .draining) (one : s.stackHead = [x]) (sync : isWalSyncLevel level = true)
    (short : (s.entry x).key.length ≤ kWalKeyMax) (buffered : s.wal.curBuf ≠ none)
    (done : s.wal.writeWal level (s.entry x) = (Err.kSuccess, after)) :
    (groupMachine w).Run (trace ++ [.drained [s.ticket x]] ++ [.numbered (s.ticket x) s.wal.seqNext])
      ({ s with wal := after, stackHead := [] }.goto t (.storing [(x, Err.kSuccess)])) := by
  obtain ⟨grown, space, put, finished⟩ := sync_write_steps s.wal level (s.entry x) after sync short buffered done
  have drained := Machine.Run.next _ _ _ _ t run (.drain s t at_ (by rw [one]; exact List.cons_ne_nil _ _))
  rw [one] at drained
  have appended := Machine.Run.next _ _ _ _ t drained (.append _ t x [] [] false false grown (goto_here _ _ _) space put)
  have taken := Machine.Run.next _ _ _ _ t appended (.move _ t (.finishing [x] [] _ _ Err.kSuccess) (by rw [goto_here]; exact .taken _ _ _))
  have finish := Machine.Run.next _ _ _ _ t taken (.finish _ t [x] [] _ _ _ _ after (goto_here _ _ _) finished)
  have number : s.wal.admission.wal.seqNext = s.wal.seqNext := (admission_codes s.wal).2
  simp only [Group.goto, Function.update_idem, List.append_nil, List.append_assoc] at finish ⊢
  rw [← number]
  exact finish

-- Two writes in a ring of two blocks.
theorem blank_writes : ∃ first second, (blankWal 2 1).writeWal .strict (plainEntry 1) = (Err.kSuccess, first) ∧
    first.writeWal .strict (plainEntry 2) = (Err.kSuccess, second) ∧ (blankWal 2 1).curBuf ≠ none ∧ first.curBuf ≠ none ∧
      (blankWal 2 1).seqNext = 1 ∧ first.seqNext = 2 := by
  obtain ⟨g, blocks, inv, _⟩ := blank_session 2 1 .strict (by decide) (by decide) (by decide)
  have buffered (v : WalView) (w : Wal) (kept : WalInv g 1 v w) : w.curBuf ≠ none := by
    rw [kept.buffer]
    exact Option.some_ne_none _
  obtain ⟨rc, v1, first, more, wrote, step, outcome⟩ := write_quiet g 1 .strict _ _ (plainEntry 1) inv.quiet (by decide)
  have seq := inv.quiet.inv.seqNext
  rcases outcome with ⟨rfl, rfl⟩ | ⟨_, _, full⟩
  · have seq1 := step.quiet.inv.seqNext
    have count : v1.entries.length = 1 := by
      rw [step.grown.entries]
      rfl
    have head : v1.head = 0 := step.grown.head
    obtain ⟨rc, v2, second, more, wrote2, step2, outcome2⟩ := write_quiet g 1 .strict _ _ (plainEntry 2) step.quiet (by decide)
    rcases outcome2 with ⟨rfl, rfl⟩ | ⟨_, _, full⟩
    · exact ⟨first, second, wrote, wrote2, buffered _ _ inv.quiet.inv, buffered _ _ step.quiet.inv, seq, by rw [seq1, count]⟩
    · rw [count, head, blocks] at full
      omega
  · have none_ : 0 = 32 * (0 + g.blocks - 1) := full
    rw [blocks] at none_
    omega

-- Two writers in the middle of their first calls.
def twoWriters (w : Wal) (stack : List Bool) (active : Bool) (epoch : Nat) (first second : Pc Bool) (rc1 rc2 : Rc) : Group Bool where
  wal := w
  stackHead := stack
  leaderActive := active
  epoch := epoch
  pc := fun t => bif t then second else first
  entry := fun t => plainEntry (bif t then 2 else 1)
  result := fun t => bif t then rc2 else rc1
  calls := fun _ => 1

def Group.facts (s : Group Bool) :=
  (s.wal, s.stackHead, s.leaderActive, s.epoch, s.pc false, s.pc true, s.entry false, s.entry true, s.result false, s.result true,
    s.calls false, s.calls true)

theorem facts_injective (s s' : Group Bool) (same : s.facts = s'.facts) : s = s' := by
  have both {β : Type} (f g : Bool → β) (low : f false = g false) (high : f true = g true) : f = g := by
    funext t
    cases t
    · exact low
    · exact high
  obtain ⟨wal, stack, active, epoch, pc, entry, result, calls⟩ := s
  obtain ⟨wal', stack', active', epoch', pc', entry', result', calls'⟩ := s'
  simp only [Group.facts, Prod.mk.injEq] at same
  obtain ⟨rfl, rfl, rfl, rfl, pcLow, pcHigh, entryLow, entryHigh, resultLow, resultHigh, callsLow, callsHigh⟩ := same
  rw [both pc pc' pcLow pcHigh, both entry entry' entryLow entryHigh, both result result' resultLow resultHigh,
    both calls calls' callsLow callsHigh]

theorem two_next (w : Wal) (trace events : List (GroupEvent Bool)) (s s' next : Group Bool) (t : Bool) (run : (groupMachine w).Run trace s)
    (step : GroupStep s t events s') (same : s'.facts = next.facts) : (groupMachine w).Run (trace ++ events) next := by
  rw [← facts_injective s' next same]
  exact .next _ _ _ _ t run step

-- The second writer falls asleep after the first batch, and its own batch is
-- stored before it is woken.
theorem two_writers_sleep : ∃ w, (groupMachine (blankWal 2 1)).Run
    [.pushed (false, 1), .drained [(false, 1)], .numbered (false, 1) 1, .stored (false, 1) Err.kSuccess, .pushed (true, 1),
      .drained [(true, 1)], .numbered (true, 1) 2, .stored (true, 1) Err.kSuccess]
    (twoWriters w [] true 1 (.storing []) (.asleep 1) Err.kSuccess Err.kSuccess) := by
  obtain ⟨w1, w2, write1, write2, buffer, buffer1, seq, seq1⟩ := blank_writes
  have short (t : Bool) : (plainEntry (bif t then 2 else 1)).key.length ≤ kWalKeyMax := by cases t <;> decide
  generalize blankWal 2 1 = w at *
  have begin_ : (groupMachine w).Run [] (Group.fresh w : Group Bool) := .begin _ rfl
  have called := Machine.Run.next _ _ _ _ false begin_ (.call _ false (plainEntry 1) rfl (short false) buffer)
  have both := two_next w _ _ _ _ (twoWriters w [] false 0 .arrived .arrived 1 1) true called
    (.call _ true (plainEntry 2) rfl (short true) buffer) rfl
  have loaded := two_next w _ _ _ _ (twoWriters w [] false 0 (.pushing none) .arrived 1 1) false both (.move _ false _ .load) rfl
  have pushed := two_next w _ _ _ _ (twoWriters w [false] false 0 .electing .arrived 1 1) false loaded (.push _ false none rfl rfl) rfl
  have elected := two_next w _ _ _ _ (twoWriters w [false] true 0 .draining .arrived 1 1) false pushed (.elected _ false (.inl rfl) rfl) rfl
  have batch := lone_batch _ _ _ false false .strict w1 elected rfl rfl rfl (short false) buffer write1
  have given := two_next w _ _ _ _ (twoWriters w1 [] true 0 (.storing []) .arrived Err.kSuccess 1) false batch
    (.store _ false false Err.kSuccess [] rfl) rfl
  have stored := two_next w _ _ _ _ (twoWriters w1 [] true 0 .bumping .arrived Err.kSuccess 1) false given (.stored _ false rfl) rfl
  have bumped := two_next w _ _ _ _ (twoWriters w1 [] true 1 .notifying .arrived Err.kSuccess 1) false stored (.bump _ false rfl) rfl
  have notified := two_next w _ _ _ _ (twoWriters w1 [] true 1 .rechecking .arrived Err.kSuccess 1) false bumped (.notify _ false rfl) rfl
  have loaded2 := two_next w _ _ _ _ (twoWriters w1 [] true 1 .rechecking (.pushing none) Err.kSuccess 1) true notified
    (.move _ true _ .load) rfl
  have pushed2 := two_next w _ _ _ _ (twoWriters w1 [true] true 1 .rechecking .electing Err.kSuccess 1) true loaded2
    (.push _ true none rfl rfl) rfl
  have follows := two_next w _ _ _ _ (twoWriters w1 [true] true 1 .rechecking .waiting Err.kSuccess 1) true pushed2
    (.move _ true _ (.follow rfl)) rfl
  have waits := two_next w _ _ _ _ (twoWriters w1 [true] true 1 .rechecking .snapping Err.kSuccess 1) true follows
    (.move _ true _ (.unserved rfl)) rfl
  have snapped := two_next w _ _ _ _ (twoWriters w1 [true] true 1 .rechecking (.again 1) Err.kSuccess 1) true waits
    (.move _ true _ .snap) rfl
  have looked := two_next w _ _ _ _ (twoWriters w1 [true] true 1 .rechecking (.sleeping 1) Err.kSuccess 1) true snapped
    (.move _ true _ (.still 1 rfl)) rfl
  have sleeps := two_next w _ _ _ _ (twoWriters w1 [true] true 1 .rechecking (.asleep 1) Err.kSuccess 1) true looked
    (.move _ true _ (.block 1 rfl)) rfl
  have more := two_next w _ _ _ _ (twoWriters w1 [true] true 1 .draining (.asleep 1) Err.kSuccess 1) false sleeps
    (.move _ false _ (.more (List.cons_ne_nil _ _))) rfl
  have batch2 := lone_batch _ _ _ false true .strict w2 more rfl rfl rfl (short true) buffer1 write2
  have given2 := two_next w _ _ _ _ (twoWriters w2 [] true 1 (.storing []) (.asleep 1) Err.kSuccess Err.kSuccess) false batch2
    (.store _ false true Err.kSuccess [] rfl) rfl
  simp only [List.append_nil, List.cons_append, List.nil_append] at given2
  rw [show (twoWriters w [false] true 0 .draining .arrived 1 1).wal.seqNext = 1 from seq,
    show (twoWriters w1 [true] true 1 .draining (.asleep 1) Err.kSuccess 1).wal.seqNext = 2 from seq1] at given2
  exact ⟨w2, given2⟩

-- From there both calls return.
theorem two_writers_return (w : Wal) (trace : List (GroupEvent Bool)) (w2 : Wal)
    (run : (groupMachine w).Run trace (twoWriters w2 [] true 1 (.storing []) (.asleep 1) Err.kSuccess Err.kSuccess)) :
    (groupMachine w).Run (trace ++ [.returned (false, 1) Err.kSuccess, .returned (true, 1) Err.kSuccess])
      (twoWriters w2 [] false 2 .idle .idle Err.kSuccess Err.kSuccess) := by
  have fine : Err.kSuccess ≠ kWalResultPending := by decide
  have stored := two_next w _ _ _ _ (twoWriters w2 [] true 1 .bumping (.asleep 1) Err.kSuccess Err.kSuccess) false run (.stored _ false rfl) rfl
  have bumped := two_next w _ _ _ _ (twoWriters w2 [] true 2 .notifying (.asleep 1) Err.kSuccess Err.kSuccess) false stored
    (.bump _ false rfl) rfl
  have notified := two_next w _ _ _ _ (twoWriters w2 [] true 2 .rechecking (.woken 1) Err.kSuccess Err.kSuccess) false bumped
    (.notify _ false rfl) rfl
  have quit := two_next w _ _ _ _ (twoWriters w2 [] true 2 .resigning (.woken 1) Err.kSuccess Err.kSuccess) false notified
    (.move _ false _ (.quit rfl)) rfl
  have resigned := two_next w _ _ _ _ (twoWriters w2 [] false 2 .reexamining (.woken 1) Err.kSuccess Err.kSuccess) false quit
    (.resign _ false rfl) rfl
  have clear := two_next w _ _ _ _ (twoWriters w2 [] false 2 .leaving (.woken 1) Err.kSuccess Err.kSuccess) false resigned
    (.move _ false _ (.clear rfl)) rfl
  have out := two_next w _ _ _ _ (twoWriters w2 [] false 2 .waiting (.woken 1) Err.kSuccess Err.kSuccess) false clear
    (.move _ false _ .out) rfl
  have first := two_next w _ _ _ _ (twoWriters w2 [] false 2 .idle (.woken 1) Err.kSuccess Err.kSuccess) false out
    (.ret _ false 0 (.inl rfl) fine) rfl
  have compared := two_next w _ _ _ _ (twoWriters w2 [] false 2 .idle (.sleeping 1) Err.kSuccess Err.kSuccess) true first
    (.move _ true _ (.compare 1)) rfl
  have differs := two_next w _ _ _ _ (twoWriters w2 [] false 2 .idle .waiting Err.kSuccess Err.kSuccess) true compared
    (.move _ true _ (.changed 1 (by decide : (2 : Nat) ≠ 1))) rfl
  have second := two_next w _ _ _ _ (twoWriters w2 [] false 2 .idle .idle Err.kSuccess Err.kSuccess) true differs
    (.ret _ true 0 (.inl rfl) fine) rfl
  simp only [List.append_nil, List.append_assoc, List.cons_append, List.nil_append] at second
  exact second

theorem group_commit_safe_pair :
    (∃ (trace : List (GroupEvent Bool)) (s : Group Bool), (groupMachine (blankWal 2 1)).Run trace s ∧
      s.pc true = .asleep 1 ∧ s.result true = Err.kSuccess ∧ numbers trace = [((false, 1), 1), ((true, 1), 2)] ∧
      stores trace = [((false, 1), Err.kSuccess), ((true, 1), Err.kSuccess)] ∧
      OneLeader s ∧ ServedOnce trace s ∧ NoneAbandoned s ∧ NoneStranded trace s ∧ PushOrder (blankWal 2 1).seqNext trace) ∧
    ∃ (path : (groupMachine (blankWal 2 1) : Machine (Group Bool) Bool (GroupEvent Bool)).Path) (n : Nat), path.Fair Ready ∧
      (true, 1) ∈ pushes (path.trace n) ∧ ∃ k, n ≤ k ∧ (true, 1) ∈ (stores (path.trace k)).map Prod.fst := by
  obtain ⟨w, run⟩ := two_writers_sleep
  have returned := two_writers_return (blankWal 2 1) _ w run
  obtain ⟨path, n, trace, rest⟩ := run_path _ _ _ returned
  have fair : path.Fair Ready := fun k a ready => by
    have busy := (ready (n + k) (by omega)).1
    rw [(rest (n + k) (by omega)).1] at busy
    cases a <;> exact absurd rfl busy
  have pushed : (true, 1) ∈ pushes (path.trace n) := by
    rw [trace]
    exact List.mem_cons_of_mem _ List.mem_cons_self
  exact ⟨⟨_, _, run, rfl, rfl, rfl, rfl, (group_commit_safe (blankWal 2 1)).1 _ _ run⟩, path, n, fair, pushed,
    (group_commit_safe (blankWal 2 1)).2 path fair n _ pushed⟩

end Cabe
