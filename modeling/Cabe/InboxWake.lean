import Mathlib.Algebra.BigOperators.Group.Finset.Piecewise
import Mathlib.Algebra.Order.BigOperators.Group.Finset
import Cabe.InboxOnce

set_option autoImplicit false

namespace Cabe

open Concurrency

variable {Tid Dev σ Req Out : Type}

-- What a caller last read of its word, while it may still wait for a change of it.
def CallerAt.cur : CallerAt Tid Dev → Option Nat
  | .snapped _ cur => some cur
  | .pushing _ cur _ => some cur
  | .notifying _ cur => some cur
  | .waiting _ cur => some cur
  | .sleeping _ cur => some cur
  | .asleep _ cur => some cur
  | .woken _ cur => some cur
  | _ => none

-- The caller has found its result missing since.
def CallerAt.missed : CallerAt Tid Dev → Bool
  | .sleeping _ _ => true
  | .asleep _ _ => true
  | .woken _ _ => true
  | _ => false

def CallerAt.sleeps : CallerAt Tid Dev → Bool
  | .asleep _ _ => true
  | _ => false

@[simp] theorem notified_cur (pc : CallerAt Tid Dev) : pc.notified.cur = pc.cur := by cases pc <;> rfl

variable [DecidableEq Tid] [DecidableEq Dev]

-- The reactor is about to add one to this word.
def RunAt.owes (t : Tid) : RunAt Tid Dev → Nat
  | .bumping _ w _ => if w = t then 1 else 0
  | _ => 0

def RunAt.notifies (t : Tid) : RunAt Tid Dev → Bool
  | .notifying _ w _ => decide (w = t)
  | _ => false

variable [Fintype Dev]

def Reactors.owed (s : Reactors Tid Dev σ Req Out) (t : Tid) : Nat := ∑ d, (s.run d).owes t

def Reactors.awaits (s : Reactors Tid Dev σ Req Out) (t : Tid) : Nat := if s.result t = kOpPending then 1 else 0

-- Between what a caller read of its word and what the word is now lie fewer steps
-- than the word can count. A result that came since has raised the word or will,
-- and a caller that the rise did not keep awake is about to be woken.
structure Armed (s : Reactors Tid Dev σ Req Out) (t : Tid) (cur seen : Nat) : Prop where
  word : cur = seen % 2 ^ 32
  past : seen ≤ s.wake t
  near : s.wake t + s.owed t + s.awaits t ≤ seen + Fintype.card Dev + 1
  rises : (s.caller t).missed = true → s.result t ≠ kOpPending → 0 < s.owed t ∨ seen < s.wake t
  wakes : (s.caller t).sleeps = true → seen = s.wake t ∨ ∃ d, (s.run d).notifies t = true

def WakeInv (s : Reactors Tid Dev σ Req Out) : Prop := ∀ t cur, (s.caller t).cur = some cur → ∃ seen, Armed s t cur seen

omit [DecidableEq Dev] in
theorem owed_le (s : Reactors Tid Dev σ Req Out) (t : Tid) : s.owed t ≤ Fintype.card Dev := by
  have each (d : Dev) : (s.run d).owes t ≤ 1 := by
    cases s.run d with
    | bumping mode w next =>
        show (if w = t then 1 else 0) ≤ 1
        split <;> omega
    | _ => exact Nat.zero_le 1
  have bound := Finset.sum_le_card_nsmul Finset.univ (fun d => (s.run d).owes t) 1 fun d _ => each d
  simpa [Reactors.owed] using bound

theorem owed_run (s : Reactors Tid Dev σ Req Out) (d : Dev) (pc : RunAt Tid Dev) (t : Tid) :
    (s.goRun d pc).owed t + (s.run d).owes t = s.owed t + pc.owes t := by
  have moved : (fun e => ((s.goRun d pc).run e).owes t) = Function.update (fun e => (s.run e).owes t) d (pc.owes t) := by
    funext e
    by_cases same : e = d
    · subst same
      rw [Function.update_self]
      exact congrArg (RunAt.owes t) (Function.update_self _ _ _)
    · rw [Function.update_of_ne same]
      exact congrArg (RunAt.owes t) (Function.update_of_ne same _ _)
  have after : (s.goRun d pc).owed t = pc.owes t + ∑ e ∈ Finset.univ \ {d}, (s.run e).owes t := by
    rw [Reactors.owed, moved]
    exact Finset.sum_update_of_mem (Finset.mem_univ d) _ _
  have before : s.owed t = (s.run d).owes t + ∑ e ∈ Finset.univ \ {d}, (s.run e).owes t := by
    have still := Finset.sum_update_of_mem (Finset.mem_univ d) (fun e => (s.run e).owes t) ((s.run d).owes t)
    rwa [Function.update_eq_self] at still
  omega

theorem owed_pos (s : Reactors Tid Dev σ Req Out) (t : Tid) (d : Dev) (mode : RunMode) (next : Option (OpNode Tid Dev))
    (at_ : s.run d = .bumping mode t next) : 0 < s.owed t := by
  have one := owed_run s d .draining t
  rw [at_] at one
  simp only [RunAt.owes, if_true] at one
  omega

omit [DecidableEq Dev] in
theorem owed_some (s : Reactors Tid Dev σ Req Out) (t : Tid) (pos : 0 < s.owed t) : ∃ d mode next, s.run d = .bumping mode t next := by
  by_contra none_
  have zero : s.owed t = 0 := Finset.sum_eq_zero fun d _ => by
    cases at_ : s.run d with
    | bumping mode w next =>
        show (if w = t then 1 else 0) = 0
        refine if_neg fun same => none_ ⟨d, mode, next, ?_⟩
        rw [at_, same]
    | _ => rfl
  omega

section Steps

variable (s : Reactors Tid Dev σ Req Out)

-- A step that touches neither the words nor what they are waited on for.
omit [DecidableEq Dev] in
theorem wake_still (s' : Reactors Tid Dev σ Req Out) (inv : WakeInv s)
    (caller : ∀ t, (s'.caller t).cur = (s.caller t).cur ∧ (s'.caller t).missed = (s.caller t).missed ∧ (s'.caller t).sleeps = (s.caller t).sleeps)
    (result : s'.result = s.result) (wake : s'.wake = s.wake) (run : s'.run = s.run) : WakeInv s' := by
  intro t cur at_
  obtain ⟨sameCur, sameMissed, sameSleeps⟩ := caller t
  obtain ⟨seen, armed⟩ := inv t cur (by rwa [← sameCur])
  exact ⟨seen, armed.word, by rw [wake]; exact armed.past, by
    unfold Reactors.owed Reactors.awaits
    rw [wake, run, result]
    exact armed.near, by
    unfold Reactors.owed
    rw [sameMissed, result, wake, run]
    exact armed.rises, by rw [sameSleeps, wake, run]; exact armed.wakes⟩

-- A reactor that goes on, neither to a word nor from one.
theorem wake_run (d : Dev) (pc : RunAt Tid Dev) (inv : WakeInv s) (owes : ∀ t, pc.owes t = (s.run d).owes t)
    (quiet : ∀ t, (s.run d).notifies t = true → pc.notifies t = true) : WakeInv (s.goRun d pc) := by
  intro t cur at_
  obtain ⟨seen, armed⟩ := inv t cur at_
  have same : (s.goRun d pc).owed t = s.owed t := by
    have moved := owed_run s d pc t
    have kept := owes t
    omega
  have near := armed.near
  refine ⟨seen, armed.word, armed.past, by rw [same]; exact near, by rw [same]; exact armed.rises, fun sleeps => ?_⟩
  rcases armed.wakes sleeps with here | ⟨e, notifies⟩
  · exact .inl here
  · refine .inr ⟨e, ?_⟩
    by_cases there : e = d
    · subst there
      simp only [Reactors.goRun, Function.update_self]
      exact quiet t notifies
    · simp only [Reactors.goRun, Function.update_of_ne there]
      exact notifies

-- A caller that goes on. What it may newly wait for has to be right.
omit [DecidableEq Dev] in
theorem wake_caller (t : Tid) (pc : CallerAt Tid Dev) (inv : WakeInv s)
    (here : ∀ cur, pc.cur = some cur → ∃ seen, cur = seen % 2 ^ 32 ∧ seen ≤ s.wake t ∧
      s.wake t + s.owed t + s.awaits t ≤ seen + Fintype.card Dev + 1 ∧
      (pc.missed = true → s.result t ≠ kOpPending → 0 < s.owed t ∨ seen < s.wake t) ∧
      (pc.sleeps = true → seen = s.wake t ∨ ∃ d, (s.run d).notifies t = true)) : WakeInv (s.goCaller t pc) := by
  intro u cur at_
  by_cases same : u = t
  · subst same
    simp only [Reactors.goCaller, Function.update_self] at at_
    obtain ⟨seen, word, past, near, rises, wakes⟩ := here cur at_
    refine ⟨seen, word, past, near, ?_, ?_⟩
    · simp only [Reactors.goCaller, Function.update_self]
      exact rises
    · simp only [Reactors.goCaller, Function.update_self]
      exact wakes
  · simp only [Reactors.goCaller, Function.update_of_ne same] at at_
    obtain ⟨seen, armed⟩ := inv u cur at_
    refine ⟨seen, armed.word, armed.past, armed.near, ?_, ?_⟩
    · simp only [Reactors.goCaller, Function.update_of_ne same]
      exact armed.rises
    · simp only [Reactors.goCaller, Function.update_of_ne same]
      exact armed.wakes

-- What a caller has just read is right.
omit [DecidableEq Dev] in
theorem wake_read (t : Tid) (pc : CallerAt Tid Dev) (inv : WakeInv s) (now : pc.cur = some (s.wakeWord t)) (unmissed : pc.missed = false)
    (awake : pc.sleeps = false) : WakeInv (s.goCaller t pc) := by
  refine wake_caller s t pc inv fun cur at_ => ⟨s.wake t, ?_, Nat.le_refl _, ?_, by rw [unmissed]; nofun, by rw [awake]; nofun⟩
  · rw [now] at at_
    exact (Option.some.inj at_).symm
  · have owed := owed_le s t
    unfold Reactors.awaits
    split <;> omega

-- A caller that goes on with the same reading.
omit [DecidableEq Dev] in
theorem wake_moved (t : Tid) (pc : CallerAt Tid Dev) (inv : WakeInv s) (same : pc.cur = none ∨ pc.cur = (s.caller t).cur)
    (missed : pc.missed = true → (s.caller t).missed = true ∨ s.result t = kOpPending)
    (sleeps : pc.sleeps = true → pc.cur = some (s.wakeWord t)) (room : Fintype.card Dev + 1 < 2 ^ 32) : WakeInv (s.goCaller t pc) := by
  refine wake_caller s t pc inv fun cur at_ => ?_
  rcases same with none_ | same
  · rw [none_] at at_
    cases at_
  · obtain ⟨seen, armed⟩ := inv t cur (same ▸ at_)
    have past := armed.past
    have near := armed.near
    refine ⟨seen, armed.word, past, near, fun miss final => ?_, fun asleep => .inl ?_⟩
    · rcases missed miss with before | pending
      · exact armed.rises before final
      · exact absurd pending final
    -- The word has not gone round since it was read.
    · have word := sleeps asleep
      rw [at_, Option.some.injEq, armed.word, Reactors.wakeWord] at word
      omega

-- The result of a caller that reads no word.
omit [DecidableEq Dev] in
theorem wake_result (t : Tid) (rc : Rc) (inv : WakeInv s) (none_ : (s.caller t).cur = none) :
    WakeInv { s with result := Function.update s.result t rc } := by
  intro u cur at_
  have other : u ≠ t := by
    rintro rfl
    rw [none_] at at_
    cases at_
  have same : Function.update s.result t rc u = s.result u := Function.update_of_ne other _ _
  obtain ⟨seen, armed⟩ := inv u cur at_
  refine ⟨seen, armed.word, armed.past, ?_, ?_, armed.wakes⟩
  · have near := armed.near
    unfold Reactors.awaits Reactors.owed at near ⊢
    simp only [same]
    exact near
  · simp only [same]
    exact armed.rises

omit [Fintype Dev] in
theorem run_notifies_kept (d e : Dev) (pc : RunAt Tid Dev) (t : Tid) (free : (s.run d).notifies t = false) (notifies : (s.run e).notifies t = true) :
    (Function.update s.run d pc e).notifies t = true := by
  by_cases same : e = d
  · subst same
    rw [free] at notifies
    cases notifies
  · rwa [Function.update_of_ne same]

-- From a result to the word.
theorem wake_store (d : Dev) (mode : RunMode) (t : Tid) (rc : Rc) (next : Option (OpNode Tid Dev)) (inv : WakeInv s)
    (at_ : s.run d = .storing mode t rc next) (pending : s.result t = kOpPending) (final : rc ≠ kOpPending) :
    WakeInv ({ s with result := Function.update s.result t rc }.goRun d (.bumping mode t next)) := by
  intro u cur reads
  obtain ⟨seen, armed⟩ := inv u cur reads
  have near := armed.near
  have moved := owed_run s d (.bumping mode t next) u
  rw [at_] at moved
  have owed : ({ s with result := Function.update s.result t rc }.goRun d (.bumping mode t next)).owed u =
      (s.goRun d (.bumping mode t next)).owed u :=
    rfl
  have wakes : (s.caller u).sleeps = true →
      seen = s.wake u ∨ ∃ e, (Function.update s.run d (.bumping mode t next) e).notifies u = true := fun sleeps =>
    (armed.wakes sleeps).imp id (Exists.imp fun e notifies => run_notifies_kept s d e _ u (by rw [at_]; rfl) notifies)
  by_cases same : u = t
  · subst same
    have one : (RunAt.bumping mode u next : RunAt Tid Dev).owes u = 1 := if_pos rfl
    have gone : ({ s with result := Function.update s.result u rc }.goRun d (.bumping mode u next)).awaits u = 0 :=
      if_neg (by simp only [Reactors.goRun, Function.update_self]; exact final)
    have had : s.awaits u = 1 := if_pos pending
    simp only [RunAt.owes, if_true] at moved
    refine ⟨seen, armed.word, armed.past, ?_, fun _ _ => .inl ?_, wakes⟩
    · rw [owed, gone]
      show s.wake u + _ + 0 ≤ _
      omega
    · rw [owed]
      omega
  · have zero : (RunAt.bumping mode t next : RunAt Tid Dev).owes u = 0 := if_neg (Ne.symm same)
    have result : Function.update s.result t rc u = s.result u := Function.update_of_ne same _ _
    rw [zero] at moved
    simp only [RunAt.owes] at moved
    have kept : ({ s with result := Function.update s.result t rc }.goRun d (.bumping mode t next)).owed u = s.owed u := by
      rw [owed]
      omega
    refine ⟨seen, armed.word, armed.past, ?_, ?_, wakes⟩
    · rw [kept]
      have waits : ({ s with result := Function.update s.result t rc }.goRun d (.bumping mode t next)).awaits u = s.awaits u := by
        unfold Reactors.awaits
        simp only [Reactors.goRun, result]
      rw [waits]
      exact near
    · rw [kept]
      simp only [Reactors.goRun, result]
      exact armed.rises

theorem wake_bump (d : Dev) (mode : RunMode) (w : Tid) (next : Option (OpNode Tid Dev)) (inv : WakeInv s) (at_ : s.run d = .bumping mode w next) :
    WakeInv ({ s with wake := Function.update s.wake w (s.wake w + 1) }.goRun d (.notifying mode w next)) := by
  intro u cur reads
  obtain ⟨seen, armed⟩ := inv u cur reads
  have near := armed.near
  have past := armed.past
  have moved := owed_run s d (.notifying mode w next) u
  rw [at_] at moved
  have owed : ({ s with wake := Function.update s.wake w (s.wake w + 1) }.goRun d (.notifying mode w next)).owed u =
      (s.goRun d (.notifying mode w next)).owed u := rfl
  by_cases same : u = w
  · subst same
    have one : (RunAt.bumping mode u next : RunAt Tid Dev).owes u = 1 := if_pos rfl
    have raised : ({ s with wake := Function.update s.wake u (s.wake u + 1) }.goRun d (.notifying mode u next)).wake u = s.wake u + 1 :=
      Function.update_self _ _ _
    rw [one] at moved
    simp only [RunAt.owes] at moved
    refine ⟨seen, armed.word, by omega, ?_, fun _ _ => .inr (by omega), fun _ => .inr ⟨d, ?_⟩⟩
    · rw [raised, owed]
      show s.wake u + 1 + _ + s.awaits u ≤ _
      omega
    · simp only [Reactors.goRun, Function.update_self, RunAt.notifies, decide_true]
  · have zero : (RunAt.bumping mode w next : RunAt Tid Dev).owes u = 0 := if_neg (Ne.symm same)
    have word : ({ s with wake := Function.update s.wake w (s.wake w + 1) }.goRun d (.notifying mode w next)).wake u = s.wake u :=
      Function.update_of_ne same _ _
    rw [zero] at moved
    simp only [RunAt.owes] at moved
    refine ⟨seen, armed.word, by omega, ?_, ?_, fun sleeps => ?_⟩
    · rw [word, owed]
      show s.wake u + _ + s.awaits u ≤ _
      omega
    · intro missed final
      rw [word, owed]
      have rises := armed.rises missed final
      omega
    · rw [word]
      exact (armed.wakes sleeps).imp id (Exists.imp fun e notifies => run_notifies_kept s d e _ u (by rw [at_]; rfl) notifies)

theorem wake_notify (d : Dev) (mode : RunMode) (w : Tid) (next : Option (OpNode Tid Dev)) (inv : WakeInv s) (at_ : s.run d = .notifying mode w next) :
    WakeInv ((s.goCaller w (s.caller w).notified).goRun d (.ready mode next)) := by
  intro u cur reads
  have moved := owed_run s d (.ready mode next) u
  rw [at_] at moved
  simp only [RunAt.owes, Nat.add_zero] at moved
  have owed : ((s.goCaller w (s.caller w).notified).goRun d (.ready mode next)).owed u = s.owed u := moved
  by_cases same : u = w
  · subst same
    simp only [Reactors.goRun, Reactors.goCaller, Function.update_self, notified_cur] at reads
    obtain ⟨seen, armed⟩ := inv u cur reads
    refine ⟨seen, armed.word, armed.past, by rw [owed]; exact armed.near, ?_, ?_⟩
    · rw [owed]
      simp only [Reactors.goRun, Reactors.goCaller, Function.update_self]
      intro missed
      refine armed.rises ?_
      cases pc : s.caller u <;> rw [pc] at missed <;> first | rfl | exact missed
    · simp only [Reactors.goRun, Reactors.goCaller, Function.update_self]
      intro sleeps
      cases pc : s.caller u <;> rw [pc] at sleeps <;> cases sleeps
  · simp only [Reactors.goRun, Reactors.goCaller, Function.update_of_ne same] at reads
    obtain ⟨seen, armed⟩ := inv u cur reads
    refine ⟨seen, armed.word, armed.past, by rw [owed]; exact armed.near, ?_, ?_⟩
    · rw [owed]
      simp only [Reactors.goRun, Reactors.goCaller, Function.update_of_ne same]
      exact armed.rises
    · simp only [Reactors.goRun, Reactors.goCaller, Function.update_of_ne same]
      exact fun sleeps => (armed.wakes sleeps).imp id
        (Exists.imp fun e notifies => run_notifies_kept s d e _ u (by rw [at_]; exact decide_eq_false (Ne.symm same)) notifies)

omit [DecidableEq Dev] in
theorem caller_move_wake (t : Tid) (there : CallerAt Tid Dev) (inv : WakeInv s) (room : Fintype.card Dev + 1 < 2 ^ 32)
    (moves : CallerMove s t (s.caller t) there) : WakeInv (s.goCaller t there) := by
  generalize at_ : s.caller t = pc at moves
  cases moves with
  | snap d => exact wake_read s t _ inv rfl rfl rfl
  | pending d cur still => exact wake_moved s t _ inv (.inr (by rw [at_]; rfl)) (fun _ => .inr still) nofun room
  | done d cur final => exact wake_moved s t _ inv (.inl rfl) nofun nofun room
  | changed d cur differs => exact wake_moved s t _ inv (.inl rfl) nofun nofun room
  | block d cur same =>
      exact wake_moved s t _ inv (.inr (by rw [at_]; rfl)) (fun _ => .inl (by rw [at_]; rfl)) (fun _ => congrArg some same.symm) room
  | stir d cur => exact wake_moved s t _ inv (.inr (by rw [at_]; rfl)) (fun _ => .inl (by rw [at_]; rfl)) nofun room
  | compare d cur => exact wake_moved s t _ inv (.inr (by rw [at_]; rfl)) (fun _ => .inl (by rw [at_]; rfl)) nofun room
  | reload d => exact wake_read s t _ inv rfl rfl rfl

theorem wake_step (service : Service σ Req Out) (admits : Dev → Req → Prop) (s' : Reactors Tid Dev σ Req Out) (a : ReactorActor Tid Dev)
    (events : List (ReactorEvent Tid Dev Req Out)) (stack batch : Line Tid Dev) (inv : WakeInv s) (queued : Queued s stack batch)
    (room : Fintype.card Dev + 1 < 2 ^ 32) (step : ReactorStep service admits s a events s') : WakeInv s' := by
  have quiet (d : Dev) (pc : RunAt Tid Dev) (at_ : s.run d = pc) (owes : ∀ t, pc.owes t = 0) (notifies : ∀ t, pc.notifies t = false)
      (there : RunAt Tid Dev) (owes' : ∀ t, there.owes t = 0) : WakeInv (s.goRun d there) := by
    refine wake_run s d there inv (fun t => by rw [at_, owes, owes']) fun t now => ?_
    rw [at_, notifies] at now
    cases now
  cases step with
  | call t d req rest admitted =>
      have idle : (s.caller t).cur = none := by rw [rest]; rfl
      have renewed := wake_result s t kOpPending inv idle
      have called := wake_moved _ t (.called d) renewed (.inl rfl) nofun nofun room
      exact wake_still _ _ called (fun _ => ⟨rfl, rfl, rfl⟩) rfl rfl rfl
  | caller t there moves => exact caller_move_wake s t there inv room moves
  | load t d cur at_ =>
      have linked := wake_still s (s.link (.call t) (s.inbox d)) inv (fun _ => ⟨rfl, rfl, rfl⟩) rfl rfl rfl
      refine wake_moved _ t _ linked (.inr ?_) nofun nofun room
      show some cur = (s.caller t).cur
      rcases at_ with at_ | ⟨old, at_⟩ <;> rw [at_] <;> rfl
  | push t d cur old at_ same =>
      have set := wake_still s (s.setInbox d (some (.call t))) inv (fun _ => ⟨rfl, rfl, rfl⟩) rfl rfl rfl
      refine wake_moved _ t _ set (.inr ?_) nofun nofun room
      show some cur = (s.caller t).cur
      rw [at_]
      rfl
  | notifyInbox t d cur at_ =>
      have woken := wake_run s d (s.run d).notified inv (fun t => by cases s.run d <;> rfl) fun t now => by
        cases pc : s.run d <;> rw [pc] at now <;> exact now
      refine wake_moved _ t _ woken (.inr ?_) nofun nofun room
      show some cur = (s.caller t).cur
      rw [at_]
      rfl
  | ret t d at_ => exact wake_moved s t .idle inv (.inl rfl) nofun nofun room
  | notifyStop d at_ =>
      have woken := wake_run s d (s.run d).notified inv (fun t => by cases s.run d <;> rfl) fun t now => by
        cases pc : s.run d <;> rw [pc] at now <;> exact now
      exact wake_still _ _ woken (fun _ => ⟨rfl, rfl, rfl⟩) rfl rfl rfl
  | run d there moves =>
      generalize at_ : s.run d = pc at moves
      cases moves <;> exact quiet d _ at_ (fun _ => rfl) (fun _ => rfl) _ fun _ => rfl
  | drain d at_ some_ =>
      exact wake_still _ _ (quiet d _ at_ (fun _ => rfl) (fun _ => rfl) _ fun _ => rfl) (fun _ => ⟨rfl, rfl, rfl⟩) rfl rfl rfl
  | lastDrain d at_ =>
      exact wake_still _ _ (quiet d _ at_ (fun _ => rfl) (fun _ => rfl) _ fun _ => rfl) (fun _ => ⟨rfl, rfl, rfl⟩) rfl rfl rfl
  | reverse d mode prev head at_ =>
      exact wake_still _ _ (quiet d _ at_ (fun _ => rfl) (fun _ => rfl) _ fun _ => rfl) (fun _ => ⟨rfl, rfl, rfl⟩) rfl rfl rfl
  | execute d t next rc out after at_ serves =>
      exact wake_still _ _ (quiet d _ at_ (fun _ => rfl) (fun _ => rfl) _ fun _ => rfl) (fun _ => ⟨rfl, rfl, rfl⟩) rfl rfl rfl
  | close d e next at_ =>
      exact wake_still _ _ (quiet d _ at_ (fun _ => rfl) (fun _ => rfl) _ fun _ => rfl) (fun _ => ⟨rfl, rfl, rfl⟩) rfl rfl rfl
  | refuse d mode t next at_ late => exact quiet d _ at_ (fun _ => rfl) (fun _ => rfl) _ fun _ => rfl
  | store d mode t rc next at_ =>
      have here := in_hand_line s stack batch queued d t (.inr ⟨mode, rc, next, at_⟩)
      exact wake_store s d mode t rc next inv at_ ((queued.calls d t).mp here).2 (queued.final d mode t rc next at_)
  | bump d mode w next at_ => exact wake_bump s d mode w next inv at_
  | notify d mode w next at_ => exact wake_notify s d mode w next inv at_
  | stop d rest => exact wake_still s _ inv (fun _ => ⟨rfl, rfl, rfl⟩) rfl rfl rfl
  | loadStop d at_ => exact wake_still s _ inv (fun _ => ⟨rfl, rfl, rfl⟩) rfl rfl rfl
  | pushStop d old at_ same => exact wake_still s _ inv (fun _ => ⟨rfl, rfl, rfl⟩) rfl rfl rfl
  | join d at_ gone => exact wake_still s _ inv (fun _ => ⟨rfl, rfl, rfl⟩) rfl rfl rfl

end Steps

-- A reactor that sleeps beside a node has somebody about to wake it.
def InboxHeard (s : Reactors Tid Dev σ Req Out) : Prop :=
  ∀ d, s.run d = .asleep → s.inbox d ≠ none → (∃ t cur, s.caller t = .notifying d cur) ∨ s.stop d = .notifying

section Inbox

variable (s s' : Reactors Tid Dev σ Req Out)

omit [Fintype Dev]

-- A step that puts no reactor to sleep, pushes nothing and notifies nobody.
omit [DecidableEq Tid] [DecidableEq Dev] in
theorem inbox_heard_still (heard : InboxHeard s) (run : ∀ d, s'.run d = .asleep → s.run d = .asleep)
    (inbox : ∀ d, s'.inbox d ≠ none → s.inbox d ≠ none)
    (caller : ∀ t d cur, s.caller t = .notifying d cur → s'.caller t = .notifying d cur)
    (stop : ∀ d, s.stop d = .notifying → s'.stop d = .notifying) :
    InboxHeard s' := fun d asleep some_ =>
  (heard d (run d asleep) (inbox d some_)).imp (fun ⟨t, cur, at_⟩ => ⟨t, cur, caller t d cur at_⟩) (stop d)

omit [DecidableEq Tid] in
theorem asleep_before (d e : Dev) (pc : RunAt Tid Dev) (awake : pc ≠ .asleep) (asleep : Function.update s.run d pc e = .asleep) :
    s.run e = .asleep := by
  by_cases same : e = d
  · subst same
    rw [Function.update_self] at asleep
    exact absurd asleep awake
  · rwa [Function.update_of_ne same] at asleep

omit [DecidableEq Dev] in
theorem notifying_kept (t u : Tid) (pc : CallerAt Tid Dev) (d : Dev) (cur : Nat) (free : ∀ d cur, s.caller t ≠ .notifying d cur)
    (at_ : s.caller u = .notifying d cur) : Function.update s.caller t pc u = .notifying d cur := by
  by_cases same : u = t
  · subst same
    exact absurd at_ (free d cur)
  · rwa [Function.update_of_ne same]

omit [DecidableEq Tid] in
theorem stop_notifying_kept (d e : Dev) (pc : StopAt Tid Dev) (free : s.stop d ≠ .notifying) (at_ : s.stop e = .notifying) :
    Function.update s.stop d pc e = .notifying := by
  by_cases same : e = d
  · subst same
    exact absurd at_ free
  · rwa [Function.update_of_ne same]

omit [DecidableEq Tid] in
theorem drained_before (d e : Dev) (some_ : Function.update s.inbox d none e ≠ none) : s.inbox e ≠ none := by
  by_cases same : e = d
  · subst same
    rw [Function.update_self] at some_
    exact absurd rfl some_
  · rwa [Function.update_of_ne same] at some_

-- Who notifies a reactor finds it awake afterwards.
omit [DecidableEq Tid] in
theorem inbox_heard_notified (d : Dev) (heard : InboxHeard s) (inbox : s'.inbox = s.inbox) (run : s'.run = Function.update s.run d (s.run d).notified)
    (caller : ∀ t e cur, e ≠ d → s.caller t = .notifying e cur → s'.caller t = .notifying e cur)
    (stop : ∀ e, e ≠ d → s.stop e = .notifying → s'.stop e = .notifying) : InboxHeard s' := by
  intro e asleep some_
  rw [run] at asleep
  rw [inbox] at some_
  have other : e ≠ d := by
    rintro rfl
    rw [Function.update_self] at asleep
    cases at_ : s.run e <;> rw [at_] at asleep <;> cases asleep
  rw [Function.update_of_ne other] at asleep
  exact (heard e asleep some_).imp (fun ⟨t, cur, at_⟩ => ⟨t, cur, caller t e cur other at_⟩) (stop e other)

omit [DecidableEq Tid] in
theorem inbox_heard_run (d : Dev) (pc : RunAt Tid Dev) (heard : InboxHeard s) (awake : pc ≠ .asleep) : InboxHeard (s.goRun d pc) :=
  inbox_heard_still s _ heard (fun e => asleep_before s d e pc awake) (fun _ some_ => some_) (fun _ _ _ at_ => at_) fun _ at_ => at_

omit [DecidableEq Dev] in
theorem inbox_heard_caller (t : Tid) (pc : CallerAt Tid Dev) (heard : InboxHeard s)
    (free : ∀ d cur, s.caller t ≠ .notifying d cur) : InboxHeard (s.goCaller t pc) :=
  inbox_heard_still s _ heard (fun _ asleep => asleep) (fun _ some_ => some_)
    (fun u d cur at_ => notifying_kept s t u pc d cur free at_) fun _ at_ => at_

omit [DecidableEq Tid] in
theorem inbox_heard_stop (d : Dev) (pc : StopAt Tid Dev) (heard : InboxHeard s) (free : s.stop d ≠ .notifying) : InboxHeard (s.goStop d pc) :=
  inbox_heard_still s _ heard (fun _ asleep => asleep) (fun _ some_ => some_) (fun _ _ _ at_ => at_)
    fun e at_ => stop_notifying_kept s d e pc free at_

theorem inbox_heard_step (service : Service σ Req Out) (admits : Dev → Req → Prop) (a : ReactorActor Tid Dev)
    (events : List (ReactorEvent Tid Dev Req Out)) (heard : InboxHeard s) (step : ReactorStep service admits s a events s') : InboxHeard s' := by
  cases step with
  | call t d req rest admitted =>
      have moved := inbox_heard_caller s t (.called d) heard (by rw [rest]; nofun)
      exact inbox_heard_still _ _ moved (fun _ asleep => asleep) (fun _ some_ => some_) (fun _ _ _ at_ => at_) fun _ at_ => at_
  | caller t there moves => exact inbox_heard_caller s t there heard (by generalize s.caller t = pc at moves; cases moves <;> nofun)
  | load t d cur at_ =>
      have moved := inbox_heard_caller s t (.pushing d cur (s.inbox d)) heard (by rcases at_ with at_ | ⟨old, at_⟩ <;> rw [at_] <;> nofun)
      exact inbox_heard_still _ _ moved (fun _ asleep => asleep) (fun _ some_ => some_) (fun _ _ _ at_ => at_) fun _ at_ => at_
  | push t d cur old at_ same =>
      intro e asleep some_
      by_cases here : e = d
      · subst here
        exact .inl ⟨t, cur, Function.update_self _ _ _⟩
      · have before : s.inbox e ≠ none := fun none_ => some_ ((Function.update_of_ne here _ _).trans none_)
        refine (heard e asleep before).imp (fun ⟨u, seen, at'⟩ => ⟨u, seen, ?_⟩) id
        exact notifying_kept s t u _ e seen (by rw [at_]; nofun) at'
  | notifyInbox t d cur at_ =>
      refine inbox_heard_notified s _ d heard rfl rfl (fun u e seen other at' => ?_) fun _ _ at' => at'
      have apart : u ≠ t := by
        rintro rfl
        rw [at_] at at'
        cases at'
        exact other rfl
      exact (Function.update_of_ne apart _ _).trans at'
  | ret t d at_ => exact inbox_heard_caller s t .idle heard (by rw [at_]; nofun)
  | stop d rest => exact inbox_heard_stop s d .submitting heard (by rw [rest]; nofun)
  | loadStop d at_ =>
      have moved := inbox_heard_stop s d (.pushing (s.inbox d)) heard (by rcases at_ with at_ | ⟨old, at_⟩ <;> rw [at_] <;> nofun)
      exact inbox_heard_still _ _ moved (fun _ asleep => asleep) (fun _ some_ => some_) (fun _ _ _ at_ => at_) fun _ at_ => at_
  | pushStop d old at_ same =>
      intro e asleep some_
      by_cases here : e = d
      · subst here
        exact .inr (Function.update_self _ _ _)
      · have before : s.inbox e ≠ none := fun none_ => some_ ((Function.update_of_ne here _ _).trans none_)
        exact (heard e asleep before).imp id (stop_notifying_kept s d e _ (by rw [at_]; nofun))
  | notifyStop d at_ =>
      refine inbox_heard_notified s _ d heard rfl rfl (fun _ _ _ _ at' => at') fun e other at' => ?_
      exact (Function.update_of_ne other _ _).trans at'
  | join d at_ gone => exact inbox_heard_stop s d .joined heard (by rw [at_]; nofun)
  | run d there moves =>
      generalize at_ : s.run d = pc at moves
      cases moves with
      -- The wait begins while the inbox is still empty.
      | block none_ =>
          intro e asleep some_
          by_cases here : e = d
          · subst here
            exact absurd none_ some_
          · have before : s.run e = .asleep := (Function.update_of_ne here _ _).symm.trans asleep
            exact heard e before some_
      | _ => exact inbox_heard_run s d _ heard nofun
  | drain d at_ some_ =>
      refine inbox_heard_still s _ heard (fun e asleep => ?_) (fun e some' => ?_) (fun _ _ _ at' => at') fun _ at' => at'
      · exact asleep_before s d e (.reversing .serving none (s.inbox d)) nofun asleep
      · exact drained_before s d e some'
  | lastDrain d at_ =>
      refine inbox_heard_still s _ heard (fun e asleep => ?_) (fun e some' => ?_) (fun _ _ _ at' => at') fun _ at' => at'
      · exact asleep_before s d e (.reversing .last none (s.inbox d)) nofun asleep
      · exact drained_before s d e some'
  | reverse d mode prev head at_ =>
      exact inbox_heard_run (s.link head prev) d (.reversing mode (some head) (s.next head)) heard nofun
  | execute d t next rc out after at_ serves =>
      have moved := inbox_heard_run s d (.storing .serving t rc next) heard nofun
      exact inbox_heard_still _ _ moved (fun _ asleep => asleep) (fun _ some_ => some_) (fun _ _ _ at' => at') fun _ at' => at'
  | close d e next at_ =>
      have moved := inbox_heard_run s d (.ready .failing next) heard nofun
      exact inbox_heard_still _ _ moved (fun _ asleep => asleep) (fun _ some_ => some_) (fun _ _ _ at' => at') fun _ at' => at'
  | refuse d mode t next at_ late => exact inbox_heard_run s d _ heard nofun
  | store d mode t rc next at_ =>
      have moved := inbox_heard_run s d (.bumping mode t next) heard nofun
      exact inbox_heard_still _ _ moved (fun _ asleep => asleep) (fun _ some_ => some_) (fun _ _ _ at' => at') fun _ at' => at'
  | bump d mode w next at_ =>
      have moved := inbox_heard_run s d (.notifying mode w next) heard nofun
      exact inbox_heard_still _ _ moved (fun _ asleep => asleep) (fun _ some_ => some_) (fun _ _ _ at' => at') fun _ at' => at'
  | notify d mode w next at_ =>
      have moved := inbox_heard_run s d (.ready mode next) heard nofun
      refine inbox_heard_still _ _ moved (fun _ asleep => asleep) (fun _ some_ => some_) (fun u e cur at' => ?_) fun _ at' => at'
      have kept : Function.update s.caller w (s.caller w).notified u = s.caller u := by
        by_cases same : u = w
        · subst same
          rw [Function.update_self]
          change s.caller u = .notifying e cur at at'
          rw [at']
          rfl
        · exact Function.update_of_ne same _ _
      exact kept.trans at'

end Inbox

theorem wake_run_inv (service : Service σ Req Out) (admits : Dev → Req → Prop) (trace : List (ReactorEvent Tid Dev Req Out))
    (s : Reactors Tid Dev σ Req Out) (room : Fintype.card Dev + 1 < 2 ^ 32) (run : (reactorMachine service admits).Run trace s) :
    (∃ stack batch, Inboxed admits trace s stack batch) ∧ WakeInv s ∧ InboxHeard s := by
  refine run_invariant (reactorMachine service admits) (fun trace s => (∃ stack batch, Inboxed admits trace s stack batch) ∧ WakeInv s ∧ InboxHeard s)
    (fun s start => ⟨⟨_, _, inboxed_start admits service s start⟩, fun t cur at_ => ?_, fun d asleep => ?_⟩)
    (fun trace s a events s' holds step => ?_) trace s run
  · obtain ⟨-, callers, -, -⟩ := start
    rw [callers t] at at_
    cases at_
  · obtain ⟨-, -, -, runs⟩ := start
    rw [runs d] at asleep
    cases asleep
  · obtain ⟨⟨stack, batch, inv⟩, wakes, heard⟩ := holds
    exact ⟨inboxed_step service admits trace s s' a events stack batch inv step,
      wake_step s service admits s' a events stack batch wakes inv.queued room step, inbox_heard_step s s' service admits a events heard step⟩

-- A caller that sleeps beside its result has a reactor on the way to its word.
omit [DecidableEq Dev] in
theorem asleep_roused (s : Reactors Tid Dev σ Req Out) (wakes : WakeInv s) (t : Tid) (d : Dev) (cur : Nat) (asleep : s.caller t = .asleep d cur)
    (final : s.result t ≠ kOpPending) : ∃ e mode next, s.run e = .bumping mode t next ∨ s.run e = .notifying mode t next := by
  obtain ⟨seen, armed⟩ := wakes t cur (by rw [asleep]; rfl)
  by_cases owed : 0 < s.owed t
  · obtain ⟨e, mode, next, at_⟩ := owed_some s t owed
    exact ⟨e, mode, next, .inl at_⟩
  -- Nobody has the word to raise, so it was raised before the wait began.
  · have raised : seen < s.wake t := (armed.rises (by rw [asleep]; rfl) final).resolve_left owed
    rcases armed.wakes (by rw [asleep]; rfl) with here | ⟨e, notifies⟩
    · omega
    · cases at_ : s.run e with
      | notifying mode w next =>
          rw [at_] at notifies
          have same : w = t := of_decide_eq_true notifies
          exact ⟨e, mode, next, .inr (by rw [at_, same])⟩
      | _ =>
          rw [at_] at notifies
          cases notifies

-- A wait that nobody is going to end has nothing to wait for. A caller that sleeps
-- beside its result has a reactor on the way to its word, and a reactor that sleeps
-- beside a node has a thread on the way to its inbox. Open allows 256 devices.
theorem no_lost_wakeup (service : Service σ Req Out) (admits : Dev → Req → Prop) (trace : List (ReactorEvent Tid Dev Req Out))
    (s : Reactors Tid Dev σ Req Out) (devices : Fintype.card Dev ≤ 256) (run : (reactorMachine service admits).Run trace s) :
    (∀ t d cur, s.caller t = .asleep d cur → s.result t ≠ kOpPending →
      ∃ e mode next, s.run e = .bumping mode t next ∨ s.run e = .notifying mode t next) ∧
    ∀ d, s.run d = .asleep → s.inbox d ≠ none → (∃ t cur, s.caller t = .notifying d cur) ∨ s.stop d = .notifying := by
  have room : Fintype.card Dev + 1 < 2 ^ 32 := by omega
  obtain ⟨-, wakes, heard⟩ := wake_run_inv service admits trace s room run
  exact ⟨asleep_roused s wakes, heard⟩

theorem no_lost_wakeup_served : ∃ s : Reactors Unit (Fin 1) Unit Nat Nat,
    (reactorMachine echo fun _ _ => True).Run (servedTrace 7 Err.kSuccess 7) s ∧ s.caller () = .asleep 0 0 ∧
    ∃ e mode next, s.run e = .bumping mode () next ∨ s.run e = .notifying mode () next := by
  obtain ⟨s, run, asleep, stored, -⟩ := served_run echo (fun _ _ => True) (reactorMachine echo fun _ _ => True) rfl () () 7 Err.kSuccess 7 0
    ⟨fun _ => rfl, fun _ => rfl, fun _ => rfl, fun _ => rfl⟩ trivial ⟨rfl, rfl⟩
  refine ⟨s, run, asleep, (no_lost_wakeup echo (fun _ _ => True) _ s (by decide) run).1 () 0 0 asleep ?_⟩
  rw [stored]
  decide

end Cabe
