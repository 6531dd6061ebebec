import Cabe.Concurrency.Machine

set_option autoImplicit false

namespace Concurrency

variable {σ τ υ α β γ ε : Type}

-- Any number of steps from one state to another.
inductive Machine.Steps (m : Machine σ α ε) : σ → List ε → σ → Prop
  | stop (s : σ) : Steps m s [] s
  | next (s mid last : σ) (events rest : List ε) (a : α) (step : m.step s a events mid) (more : Steps m mid rest last) :
      Steps m s (events ++ rest) last

theorem steps_one (m : Machine σ α ε) (s s' : σ) (a : α) (events : List ε) (step : m.step s a events s') : m.Steps s events s' := by
  have only := Machine.Steps.next s s' s' events [] a step (.stop s')
  rwa [List.append_nil] at only

theorem run_steps (m : Machine σ α ε) (trace events : List ε) (s last : σ) (run : m.Run trace s) (steps : m.Steps s events last) :
    m.Run (trace ++ events) last := by
  induction steps generalizing trace with
  | stop s =>
      rw [List.append_nil]
      exact run
  | next s mid last events rest a step _ ih =>
      rw [← List.append_assoc]
      exact ih (trace ++ events) (.next trace events s mid a run step)

-- A machine makes nothing visible that the other could not have made visible.
structure Simulates (low : Machine σ α ε) (high : Machine τ β ε) (holds : σ → τ → Prop) : Prop where
  start : ∀ s, low.start s → ∃ t, high.start t ∧ holds s t
  step : ∀ s t a events s', holds s t → low.step s a events s' → ∃ t', high.Steps t events t' ∧ holds s' t'

theorem simulated_run (low : Machine σ α ε) (high : Machine τ β ε) (holds : σ → τ → Prop) (simulates : Simulates low high holds)
    (trace : List ε) (s : σ) (run : low.Run trace s) : ∃ t, high.Run trace t ∧ holds s t := by
  induction run with
  | begin s first =>
      obtain ⟨t, start, related⟩ := simulates.start s first
      exact ⟨t, .begin t start, related⟩
  | next trace events s s' a _ step ih =>
      obtain ⟨t, run, related⟩ := ih
      obtain ⟨t', steps, related'⟩ := simulates.step s t a events s' related step
      exact ⟨t', run_steps high trace events t t' run steps, related'⟩

end Concurrency
