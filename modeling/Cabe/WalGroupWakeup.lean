import Cabe.WalGroupSafety

set_option autoImplicit false

namespace Cabe

open Concurrency

variable {Tid : Type}

-- The epoch is still to be bumped for the batch it drained.
def Pc.owes : Pc Tid → Bool
  | .appending _ _ _ _ | .finishing _ _ _ _ _ | .storing _ | .bumping => true
  | _ => false

-- Some of the batch's results may be stored by now.
def Pc.hands : Pc Tid → Bool
  | .storing _ | .bumping => true
  | _ => false

def Pc.notifies : Pc Tid → Bool
  | .notifying => true
  | _ => false

-- The thread will still notify the waiters whose results it stores.
def Pc.rouses (pc : Pc Tid) : Bool := pc.hands || pc.notifies

-- The epoch a waiter has read, and the one it has found its result pending
-- after.
def Pc.read : Pc Tid → Option Nat
  | .again e | .sleeping e | .asleep e | .woken e => some e
  | _ => none

def Pc.doubts : Pc Tid → Option Nat
  | .sleeping e | .asleep e | .woken e => some e
  | _ => none

-- The epoch counts the finished batches. A result that a waiter has missed is
-- one of a batch after the epoch it read, or of one being handed out, and no
-- waiter sleeps on an earlier epoch without a notify to come.
structure Epochs (batches : Nat) (s : Group Tid) : Prop where
  bumped : s.epoch ≤ batches
  owed : ∀ t, (s.pc t).owes = true → s.epoch < batches
  read : ∀ t e, (s.pc t).read = some e → e ≤ s.epoch
  late : ∀ t e, (s.pc t).doubts = some e → s.result t ≠ kWalResultPending → e < s.epoch ∨ ∃ u, (s.pc u).hands = true
  ended : ∀ t e, s.pc t = .asleep e → e < s.epoch → ∃ u, (s.pc u).notifies = true

theorem doubts_read (pc : Pc Tid) (e : Nat) (doubts : pc.doubts = some e) : pc.read = some e := by
  cases pc <;> first | exact doubts | cases doubts

theorem owes_holds (pc : Pc Tid) (owes : pc.owes = true) : pc.holds = true := by
  cases pc <;> first | rfl | cases owes

theorem notifies_at (pc : Pc Tid) (notifies : pc.notifies = true) : pc = .notifying := by
  cases pc <;> first | rfl | cases notifies

theorem epochs_fresh (w : Wal) : Epochs 0 (Group.fresh w : Group Tid) := by
  constructor
  · exact Nat.le_refl 0
  · exact fun t owes => by cases owes
  · exact fun t e read => by cases read
  · exact fun t e doubts => by cases doubts
  · exact fun t e asleep => by cases asleep

variable [DecidableEq Tid]

theorem step_bump (s s' : Group Tid) (t : Tid) (events : List (GroupEvent Tid)) (step : GroupStep s t events s')
    (at_ : s.pc t = .bumping) : s'.pc t = .notifying ∧ s'.epoch = (s.epoch + 1) % 2 ^ 64 := by
  cases step with
  | bump => exact ⟨goto_here _ _ _, rfl⟩
  | move there moves => rw [at_] at moves; cases moves
  | elected there => rw [at_] at there; rcases there with there | there <;> cases there
  | ret e there => rw [at_] at there; rcases there with there | there <;> cases there
  | _ => simp_all only [reduceCtorEq]

-- Only a drain takes on a batch, and only a bump moves the epoch.
theorem step_epoch (s s' : Group Tid) (t : Tid) (events : List (GroupEvent Tid)) (step : GroupStep s t events s')
    (other : s.pc t ≠ .bumping) :
    s'.epoch = s.epoch ∧ ((s'.pc t).owes = true → (s.pc t).owes = true ∨ drains events ≠ []) := by
  cases step with
  | bump at_ => exact absurd at_ other
  | refuse => exact ⟨rfl, .inl⟩
  | move there moves =>
      refine ⟨rfl, fun owes => .inl ?_⟩
      rw [goto_here] at owes
      generalize s.pc t = here at moves
      cases moves <;> first | rfl | cases owes
  | push old at_ same =>
      refine ⟨rfl, fun owes => ?_⟩
      rw [goto_here] at owes
      split at owes <;> cases owes
  | drain => exact ⟨rfl, fun _ => .inr (List.cons_ne_nil _ _)⟩
  | call => exact ⟨rfl, fun owes => by rw [goto_here] at owes; cases owes⟩
  | elected => exact ⟨rfl, fun owes => by rw [goto_here] at owes; cases owes⟩
  | notify => exact ⟨rfl, fun owes => by rw [goto_here] at owes; cases owes⟩
  | resign => exact ⟨rfl, fun owes => by rw [goto_here] at owes; cases owes⟩
  | ret => exact ⟨rfl, fun owes => by rw [goto_here] at owes; cases owes⟩
  | _ => exact ⟨rfl, fun _ => .inl (by simp only [*]; rfl)⟩

theorem step_hands (s s' : Group Tid) (t : Tid) (events : List (GroupEvent Tid)) (step : GroupStep s t events s')
    (hands : (s.pc t).hands = true) : (s'.pc t).hands = true ∨ s.pc t = .bumping := by
  cases step with
  | bump at_ => exact .inr at_
  | refuse => exact .inl hands
  | move there moves =>
      generalize s.pc t = here at moves hands
      cases moves <;> cases hands
  | store => exact .inl (by rw [goto_here]; rfl)
  | stored => exact .inl (by rw [goto_here]; rfl)
  | elected at_ => rcases at_ with at_ | at_ <;> rw [at_] at hands <;> cases hands
  | ret e at_ => rcases at_ with at_ | at_ <;> rw [at_] at hands <;> cases hands
  | _ => simp only [*] at hands; cases hands

-- Another thread's result changes only by a store.
theorem step_result (s s' : Group Tid) (t u : Tid) (events : List (GroupEvent Tid)) (step : GroupStep s t events s') (other : u ≠ t) :
    s'.result u = s.result u ∨ (s'.pc t).hands = true := by
  cases step with
  | call => exact .inl (Function.update_of_ne other _ _)
  | store => exact .inr (by rw [goto_here]; rfl)
  | _ => exact .inl rfl

-- A step that ends with its thread waiting only moved it.
theorem step_waits (s s' : Group Tid) (t : Tid) (events : List (GroupEvent Tid)) (step : GroupStep s t events s') (e : Nat)
    (read : (s'.pc t).read = some e) : ∃ there, Move s t (s.pc t) there ∧ s' = s.goto t there := by
  cases step with
  | move there moves => exact ⟨there, moves, rfl⟩
  | refuse _ rest => rw [rest] at read; cases read
  | push =>
      rw [goto_here] at read
      split at read <;> cases read
  | _ => rw [goto_here] at read; cases read

omit [DecidableEq Tid] in
theorem move_waits (s : Group Tid) (t : Tid) (here there : Pc Tid) (moves : Move s t here there) (e : Nat) :
    (there.read = some e → e = s.epoch ∨ here.read = some e) ∧
      (there.doubts = some e → s.result t = kWalResultPending ∨ here.doubts = some e) ∧ (there = .asleep e → e = s.epoch) := by
  cases moves with
  | snap => exact ⟨fun read => .inl (Option.some.inj read).symm, fun doubts => (by cases doubts), fun asleep => (by cases asleep)⟩
  | still _ pending => exact ⟨.inr, fun _ => .inl pending, fun asleep => by cases asleep⟩
  | block _ same => exact ⟨.inr, .inr, fun asleep => by cases asleep; exact same.symm⟩
  | compare => exact ⟨.inr, .inr, fun asleep => by cases asleep⟩
  | _ => exact ⟨fun read => (by cases read), fun doubts => (by cases doubts), fun asleep => (by cases asleep)⟩

theorem step_asleep (s s' : Group Tid) (t u : Tid) (events : List (GroupEvent Tid)) (step : GroupStep s t events s') (other : u ≠ t) (e : Nat)
    (asleep : s'.pc u = .asleep e) : s.pc u = .asleep e ∧ s.pc t ≠ .notifying := by
  cases step with
  | notify =>
      rw [goto_there _ _ _ _ other] at asleep
      simp only [notifyAll] at asleep
      split at asleep
      · cases asleep
      · next still => exact absurd asleep (still e)
  | move there moves =>
      rw [goto_there _ _ _ _ other] at asleep
      refine ⟨asleep, fun at_ => ?_⟩
      rw [at_] at moves
      cases moves
  | refuse _ rest => exact ⟨asleep, fun at_ => by rw [rest] at at_; cases at_⟩
  | call _ rest =>
      rw [goto_there _ _ _ _ other] at asleep
      exact ⟨asleep, fun at_ => by rw [rest] at at_; cases at_⟩
  | elected at_ =>
      rw [goto_there _ _ _ _ other] at asleep
      exact ⟨asleep, fun notifying => by rcases at_ with at_ | at_ <;> rw [at_] at notifying <;> cases notifying⟩
  | ret e at_ =>
      rw [goto_there _ _ _ _ other] at asleep
      exact ⟨asleep, fun notifying => by rcases at_ with at_ | at_ <;> rw [at_] at notifying <;> cases notifying⟩
  | _ =>
      rw [goto_there _ _ _ _ other] at asleep
      exact ⟨asleep, fun notifying => by simp only [*] at notifying; cases notifying⟩

theorem owed_step (batches : Nat) (s s' : Group Tid) (t : Tid) (events : List (GroupEvent Tid)) (key : OneKey s) (inv : Epochs batches s)
    (step : GroupStep s t events s') : s'.epoch ≤ batches + (drains events).length ∧
      ∀ u, (s'.pc u).owes = true → s'.epoch < batches + (drains events).length := by
  have bumped := inv.bumped
  have others (u : Tid) (other : u ≠ t) (owes : (s'.pc u).owes = true) : (s.pc u).owes = true := by
    rw [← step_other Pc.owes (fun _ => rfl) s s' t u events step other, owes]
  by_cases at_ : s.pc t = .bumping
  · obtain ⟨after, epoch⟩ := step_bump s s' t events step at_
    have owed := inv.owed t (by rw [at_]; rfl)
    have wraps := Nat.mod_le (s.epoch + 1) (2 ^ 64)
    refine ⟨by omega, fun u owes => ?_⟩
    by_cases here : u = t
    · rw [here, after] at owes
      cases owes
    · exact absurd (key.unique u t (owes_holds _ (others u here owes)) (by rw [at_]; rfl)) here
  · obtain ⟨same, owes⟩ := step_epoch s s' t events step at_
    rw [same]
    refine ⟨by omega, fun u now => ?_⟩
    by_cases here : u = t
    · rw [here] at now
      rcases owes now with before | taken
      · have owed := inv.owed t before
        omega
      · have one := List.length_pos_iff.mpr taken
        omega
    · have owed := inv.owed u (others u here now)
      omega

theorem epoch_grows (batches : Nat) (s s' : Group Tid) (t : Tid) (events : List (GroupEvent Tid)) (inv : Epochs batches s)
    (few : batches < 2 ^ 64) (step : GroupStep s t events s') :
    s.epoch ≤ s'.epoch ∧ (s.pc t = .bumping → s.epoch < s'.epoch) := by
  by_cases at_ : s.pc t = .bumping
  · have epoch := (step_bump s s' t events step at_).2
    have owed := inv.owed t (by rw [at_]; rfl)
    rw [Nat.mod_eq_of_lt (by omega)] at epoch
    exact ⟨by omega, fun _ => by omega⟩
  · have same := (step_epoch s s' t events step at_).1
    exact ⟨by omega, fun now => absurd now at_⟩

theorem epochs_step (batches : Nat) (s s' : Group Tid) (t : Tid) (events : List (GroupEvent Tid)) (key : OneKey s) (inv : Epochs batches s)
    (few : batches < 2 ^ 64) (step : GroupStep s t events s') : Epochs (batches + (drains events).length) s' := by
  obtain ⟨bumped, owed⟩ := owed_step batches s s' t events key inv step
  obtain ⟨grows, bumps⟩ := epoch_grows batches s s' t events inv few step
  -- Where the thread itself waits afterwards, the step read or kept an epoch.
  have own (e : Nat) (read : (s'.pc t).read = some e) : s'.epoch = s.epoch ∧ s'.result = s.result ∧ (e = s.epoch ∨ (s.pc t).read = some e) ∧
      ((s'.pc t).doubts = some e → s.result t = kWalResultPending ∨ (s.pc t).doubts = some e) ∧ (s'.pc t = .asleep e → e = s.epoch) := by
    obtain ⟨there, moves, rfl⟩ := step_waits s s' t events step e read
    obtain ⟨first, second, third⟩ := move_waits s t _ there moves e
    rw [goto_here] at read ⊢
    exact ⟨rfl, rfl, first read, second, third⟩
  refine ⟨bumped, owed, fun u e read => ?_, fun u e doubts waits => ?_, fun u e asleep past => ?_⟩
  · by_cases here : u = t
    · rw [here] at read
      obtain ⟨epoch, _, first, _⟩ := own e read
      rcases first with now | before
      · omega
      · have known := inv.read t e before
        omega
    · rw [step_other Pc.read (fun _ => rfl) s s' t u events step here] at read
      exact (inv.read u e read).trans grows
  · -- A leader that was handing results out still is, or has moved the epoch on.
    have later (known : e ≤ s.epoch) (before : e < s.epoch ∨ ∃ v, (s.pc v).hands = true) :
        e < s'.epoch ∨ ∃ v, (s'.pc v).hands = true := by
      rcases before with past | ⟨v, hands⟩
      · exact .inl (by omega)
      · by_cases here : v = t
        · rw [here] at hands
          rcases step_hands s s' t events step hands with still | at_
          · exact .inr ⟨t, still⟩
          · exact .inl (Nat.lt_of_le_of_lt known (bumps at_))
        · rw [← step_other Pc.hands (fun _ => rfl) s s' t v events step here] at hands
          exact .inr ⟨v, hands⟩
    by_cases here : u = t
    · rw [here] at doubts waits
      obtain ⟨_, result, _, second, _⟩ := own e (doubts_read _ e doubts)
      rw [result] at waits
      have before := (second doubts).resolve_left waits
      exact later (inv.read t e (doubts_read _ e before)) (inv.late t e before waits)
    · rw [step_other Pc.doubts (fun _ => rfl) s s' t u events step here] at doubts
      rcases step_result s s' t u events step here with same | hands
      · rw [same] at waits
        exact later (inv.read u e (doubts_read _ e doubts)) (inv.late u e doubts waits)
      · exact .inr ⟨t, hands⟩
  · by_cases here : u = t
    · rw [here] at asleep
      obtain ⟨epoch, _, _, _, third⟩ := own e (by rw [asleep]; rfl)
      have now := third asleep
      omega
    · obtain ⟨before, quiet⟩ := step_asleep s s' t u events step here e asleep
      by_cases at_ : s.pc t = .bumping
      · exact ⟨t, by rw [(step_bump s s' t events step at_).1]; rfl⟩
      · rw [(step_epoch s s' t events step at_).1] at past
        obtain ⟨v, notifies⟩ := inv.ended u e before past
        have other : v ≠ t := fun same => quiet (notifies_at _ (same ▸ notifies))
        exact ⟨v, by rw [step_other Pc.notifies (fun _ => rfl) s s' t v events step other, notifies]⟩

theorem epochs_run (w : Wal) (trace : List (GroupEvent Tid)) (s : Group Tid) (run : (groupMachine w).Run trace s) :
    (drains trace).length < 2 ^ 64 → Epochs (drains trace).length s := by
  have both := run_invariant (groupMachine w)
    (fun trace s => OneKey s ∧ ((drains trace).length < 2 ^ 64 → Epochs (drains trace).length s)) ?_ ?_ trace s run
  · exact both.2
  · intro s start
    rw [show s = Group.fresh w from start]
    exact ⟨(group_fresh w).key, fun _ => epochs_fresh w⟩
  · intro trace s t events s' inv step
    refine ⟨one_key_step s s' t events inv.1 step, fun few => ?_⟩
    rw [drains_append, List.length_append] at few ⊢
    exact epochs_step _ s s' t events inv.1 (inv.2 (by omega)) (by omega) step

omit [DecidableEq Tid] in
-- A waiter whose result came while it slept has its notify coming.
theorem epochs_roused (batches : Nat) (s : Group Tid) (inv : Epochs batches s) (t : Tid) (e : Nat) (asleep : s.pc t = .asleep e)
    (served : s.result t ≠ kWalResultPending) : ∃ u, (s.pc u).rouses = true := by
  rcases inv.late t e (by rw [asleep]; rfl) served with past | ⟨u, hands⟩
  · obtain ⟨u, notifies⟩ := inv.ended t e asleep past
    exact ⟨u, by rw [Pc.rouses, notifies, Bool.or_true]⟩
  · exact ⟨u, by rw [Pc.rouses, hands, Bool.true_or]⟩

end Cabe
