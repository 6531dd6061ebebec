import Mathlib.Order.WellFounded
import Cabe.Concurrency.Machine

set_option autoImplicit false

namespace Concurrency

variable {σ α ε ρ : Type}

-- What brings a run nearer to a goal. In each state that has a rank some actor is
-- ready whose step lowers it, and until that actor moves a step of another keeps
-- the rank and the actor, or lowers the rank as well.
structure Helps [Preorder ρ] (m : Machine σ α ε) (ready : σ → α → Prop) (holds : σ → Prop) (rank : σ → ρ → Prop) (helpful : σ → ρ → α → Prop)
    (goal : List ε → σ → Prop) : Prop where
  has : ∀ s r, holds s → rank s r → ∃ a, helpful s r a
  able : ∀ s r a, holds s → rank s r → helpful s r a → ready s a
  step : ∀ s r a b events s', holds s → holds s' → rank s r → helpful s r a → m.step s b events s' →
    goal events s' ∨ (∃ r', r' < r ∧ rank s' r') ∨ (b ≠ a ∧ rank s' r ∧ helpful s' r a)

-- Under weak fairness a well founded rank leads to its goal.
theorem helped [Preorder ρ] [WellFoundedLT ρ] (m : Machine σ α ε) (path : m.Path) (ready : σ → α → Prop) (fair : path.Fair ready)
    (holds : σ → Prop) (rank : σ → ρ → Prop) (helpful : σ → ρ → α → Prop) (goal : List ε → σ → Prop)
    (helps : Helps m ready holds rank helpful goal) (every : ∀ n, holds (path.state n)) (r : ρ) :
    ∀ n, rank (path.state n) r → ∃ k, n ≤ k ∧ goal (path.events k) (path.state (k + 1)) := by
  induction r using WellFoundedLT.induction with
  | ind r ih =>
  intro n here
  obtain ⟨a, helpful_⟩ := helps.has _ r (every n) here
  by_contra never
  -- Until the goal the rank stays, and with it the actor that would lower it.
  have stays (k : Nat) (later : n ≤ k) : rank (path.state k) r ∧ helpful (path.state k) r a := by
    induction k, later using Nat.le_induction with
    | base => exact ⟨here, helpful_⟩
    | succ k later stays =>
        cases moved : path.actor k with
        | none =>
            rw [(path.idles k moved).1]
            exact stays
        | some b =>
            rcases helps.step _ r a b _ _ (every k) (every (k + 1)) stays.1 stays.2 (path.moves k b moved) with done | ⟨r', less, lower⟩ | ⟨-, same⟩
            · exact absurd ⟨k, later, done⟩ never
            · obtain ⟨j, after, done⟩ := ih r' less (k + 1) lower
              exact absurd ⟨j, by omega, done⟩ never
            · exact same
  obtain ⟨k, later, moved⟩ := fair n a fun k later => helps.able _ r a (every k) (stays k later).1 (stays k later).2
  rcases helps.step _ r a a _ _ (every k) (every (k + 1)) (stays k later).1 (stays k later).2 (path.moves k a moved) with
    done | ⟨r', less, lower⟩ | ⟨other, -⟩
  · exact never ⟨k, later, done⟩
  · obtain ⟨j, after, done⟩ := ih r' less (k + 1) lower
    exact never ⟨j, by omega, done⟩
  · exact other rfl

end Concurrency
