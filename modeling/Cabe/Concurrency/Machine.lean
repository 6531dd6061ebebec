import Mathlib.Data.List.Nodup
import Mathlib.Logic.Function.Basic

set_option autoImplicit false

namespace Concurrency

variable {σ α ε β : Type}

-- Any number of actors take atomic steps in any order. A step may make events
-- visible, and a run is known by its events and the state it ends in.
structure Machine (σ α ε : Type) where
  start : σ → Prop
  step : σ → α → List ε → σ → Prop

inductive Machine.Run (m : Machine σ α ε) : List ε → σ → Prop
  | begin (s : σ) (first : m.start s) : Run m [] s
  | next (trace events : List ε) (s s' : σ) (a : α) (run : Run m trace s) (step : m.step s a events s') : Run m (trace ++ events) s'

theorem run_invariant (m : Machine σ α ε) (holds : List ε → σ → Prop) (first : ∀ s, m.start s → holds [] s)
    (kept : ∀ trace s a events s', holds trace s → m.step s a events s' → holds (trace ++ events) s') (trace : List ε) (s : σ)
    (run : m.Run trace s) : holds trace s := by
  induction run with
  | begin s start => exact first s start
  | next trace events s s' a _ step ih => exact kept trace s a events s' ih step

-- An infinite run. At a time without an actor nothing happens.
structure Machine.Path (m : Machine σ α ε) where
  state : Nat → σ
  actor : Nat → Option α
  events : Nat → List ε
  first : m.start (state 0)
  idles : ∀ n, actor n = none → state (n + 1) = state n ∧ events n = []
  moves : ∀ n a, actor n = some a → m.step (state n) a (events n) (state (n + 1))

def Machine.Path.trace {m : Machine σ α ε} (path : m.Path) : Nat → List ε
  | 0 => []
  | n + 1 => path.trace n ++ path.events n

theorem path_run (m : Machine σ α ε) (path : m.Path) (n : Nat) : m.Run (path.trace n) (path.state n) := by
  induction n with
  | zero => exact .begin _ path.first
  | succ n ih =>
      cases moved : path.actor n with
      | none =>
          obtain ⟨same, silent⟩ := path.idles n moved
          rw [Machine.Path.trace, same, silent, List.append_nil]
          exact ih
      | some a => exact .next _ _ _ _ a ih (path.moves n a moved)

theorem path_trace_prefix (m : Machine σ α ε) (path : m.Path) (n k : Nat) (later : n ≤ k) : path.trace n <+: path.trace k := by
  induction k with
  | zero =>
      cases Nat.le_zero.mp later
      exact List.prefix_rfl
  | succ k ih =>
      rcases Nat.lt_or_ge n (k + 1) with before | after
      · exact (ih (by omega)).trans (List.prefix_append _ _)
      · cases Nat.le_antisymm later after
        exact List.prefix_rfl

theorem trace_event (m : Machine σ α ε) (path : m.Path) (n : Nat) (e : ε) (member : e ∈ path.trace n) : ∃ k, k < n ∧ e ∈ path.events k := by
  induction n with
  | zero => cases member
  | succ n ih =>
      rcases List.mem_append.mp member with before | now
      · obtain ⟨k, earlier, found⟩ := ih before
        exact ⟨k, by omega, found⟩
      · exact ⟨n, Nat.lt_succ_self n, now⟩

-- A finite run is the beginning of an infinite one in which nobody moves on.
theorem run_path (m : Machine σ α ε) (trace : List ε) (s : σ) (run : m.Run trace s) :
    ∃ (path : m.Path) (n : Nat), path.trace n = trace ∧ ∀ k, n ≤ k → path.state k = s ∧ path.actor k = none := by
  induction run with
  | begin s first =>
      exact ⟨⟨fun _ => s, fun _ => none, fun _ => [], first, fun _ _ => ⟨rfl, rfl⟩, fun _ _ no => by cases no⟩, 0, rfl,
        fun _ _ => ⟨rfl, rfl⟩⟩
  | next trace events s s' a _ step ih =>
      obtain ⟨path, n, same, rest⟩ := ih
      have state (k : Nat) (before : k ≤ n) : (if k ≤ n then path.state k else s') = path.state k := if_pos before
      let longer : m.Path := {
        state := fun k => if k ≤ n then path.state k else s'
        actor := fun k => if k < n then path.actor k else if k = n then some a else none
        events := fun k => if k < n then path.events k else if k = n then events else []
        first := by
          rw [state 0 (Nat.zero_le n)]
          exact path.first
        idles := by
          intro k idle
          rcases Nat.lt_trichotomy k n with before | at_ | after
          · rw [if_pos before] at idle ⊢
            rw [state k (by omega), state (k + 1) (by omega)]
            exact path.idles k idle
          · rw [if_neg (by omega), if_pos at_] at idle
            cases idle
          · rw [if_neg (by omega), if_neg (by omega), if_neg (by omega), if_neg (by omega)]
            exact ⟨rfl, rfl⟩
        moves := by
          intro k b moved
          rcases Nat.lt_trichotomy k n with before | at_ | after
          · rw [if_pos before] at moved ⊢
            rw [state k (by omega), state (k + 1) (by omega)]
            exact path.moves k b moved
          · rw [if_neg (by omega), if_pos at_] at moved
            rw [if_neg (by omega : ¬k < n), if_pos at_, state k (by omega), if_neg (by omega : ¬k + 1 ≤ n), (rest k (by omega)).1,
              ← Option.some.inj moved]
            exact step
          · rw [if_neg (by omega), if_neg (by omega)] at moved
            cases moved }
      have upTo (k : Nat) (before : k ≤ n) : longer.trace k = path.trace k := by
        induction k with
        | zero => rfl
        | succ k ih =>
            rw [Machine.Path.trace, Machine.Path.trace, ih (by omega)]
            exact congrArg _ (if_pos (by omega))
      refine ⟨longer, n + 1, ?_, fun k later => ⟨if_neg (by omega), ?_⟩⟩
      · rw [Machine.Path.trace, upTo n (Nat.le_refl _), same]
        exact congrArg _ ((if_neg (Nat.lt_irrefl n)).trans (if_pos rfl))
      · exact (if_neg (by omega)).trans (if_neg (by omega))

-- Weak fairness: an actor that is ready from some time on moves again.
def Machine.Path.Fair {m : Machine σ α ε} (path : m.Path) (ready : σ → α → Prop) : Prop :=
  ∀ n a, (∀ k, n ≤ k → ready (path.state k) a) → ∃ k, n ≤ k ∧ path.actor k = some a

-- An actor that stays ready in its place until it moves does move from there.
theorem fair_moves (m : Machine σ α ε) (path : m.Path) (ready : σ → α → Prop) (fair : path.Fair ready) (here : σ → Prop) (a : α) (n : Nat)
    (now : here (path.state n)) (able : ∀ k, n ≤ k → here (path.state k) → ready (path.state k) a)
    (waits : ∀ s b events s', b ≠ a → here s → m.step s b events s' → here s') :
    ∃ k, n ≤ k ∧ here (path.state k) ∧ path.actor k = some a := by
  by_contra never
  have stays (k : Nat) (later : n ≤ k) : here (path.state k) := by
    induction k with
    | zero => exact Nat.le_zero.mp later ▸ now
    | succ k ih =>
        rcases Nat.lt_or_ge n (k + 1) with before | after
        · have there := ih (by omega)
          cases moved : path.actor k with
          | none => rw [(path.idles k moved).1]; exact there
          | some b =>
              refine waits _ b _ _ ?_ there (path.moves k b moved)
              rintro rfl
              exact never ⟨k, by omega, there, moved⟩
        · exact Nat.le_antisymm later after ▸ now
  obtain ⟨k, later, moved⟩ := fair n a fun k later => able k later (stays k later)
  exact never ⟨k, later, stays k later, moved⟩

-- Arrivals are pushed on a stack that a consumer takes whole and turns round.
def InOrder (pushed taken stack : List β) : Prop := pushed = taken ++ stack.reverse

theorem in_order_push (pushed taken stack : List β) (b : β) (inOrder : InOrder pushed taken stack) :
    InOrder (pushed ++ [b]) taken (b :: stack) := by
  unfold InOrder at inOrder ⊢
  rw [inOrder, List.reverse_cons, List.append_assoc]

theorem in_order_take (pushed taken stack : List β) (inOrder : InOrder pushed taken stack) :
    InOrder pushed (taken ++ stack.reverse) [] := by
  unfold InOrder at inOrder ⊢
  rw [inOrder, List.reverse_nil, List.append_nil]

theorem in_order_apart (pushed taken stack : List β) (inOrder : InOrder pushed taken stack) (once : pushed.Nodup) (b : β)
    (waits : b ∈ stack) : b ∉ taken := by
  unfold InOrder at inOrder
  rw [inOrder] at once
  intro gone
  exact (List.disjoint_of_nodup_append once) gone (List.mem_reverse.mpr waits)

end Concurrency
