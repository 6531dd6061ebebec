import Mathlib.Data.List.Induction
import Cabe.Concurrency.Machine

set_option autoImplicit false

namespace Concurrency

variable {σ α ε β : Type}

-- Every event of the history has its cause in what came before it.
def Caused (cause : ε → List ε → Prop) (history : List ε) : Prop :=
  ∀ front e back, history = front ++ e :: back → cause e front

theorem caused_nil (cause : ε → List ε → Prop) : Caused cause [] := fun front _ _ no => by cases front <;> cases no

theorem caused_snoc (cause : ε → List ε → Prop) (history : List ε) (e : ε) (caused : Caused cause history) (here : cause e history) :
    Caused cause (history ++ [e]) := by
  intro front f back split
  rcases List.eq_nil_or_concat back with rfl | ⟨rest, last, rfl⟩
  · obtain ⟨rfl, same⟩ := List.append_inj' split rfl
    cases same
    exact here
  · rw [List.concat_eq_append, ← List.cons_append, ← List.append_assoc] at split
    exact caused front f rest (List.append_inj' split rfl).1

-- The rule for histories: a step shows at most one event, and in every state that
-- is reached its cause has been seen.
theorem run_caused (m : Machine σ α ε) (cause : ε → List ε → Prop) (holds : List ε → σ → Prop)
    (every : ∀ trace s, m.Run trace s → holds trace s)
    (step : ∀ trace s a events s', holds trace s → m.step s a events s' → events = [] ∨ ∃ e, events = [e] ∧ cause e trace)
    (trace : List ε) (s : σ) (run : m.Run trace s) : Caused cause trace := by
  induction run with
  | begin s first => exact caused_nil cause
  | next trace events s s' a run here ih =>
      rcases step trace s a events s' (every trace s run) here with rfl | ⟨e, rfl, seen⟩
      · rw [List.append_nil]
        exact ih
      · exact caused_snoc cause trace e ih seen

theorem caused_front (cause : ε → List ε → Prop) (front back : List ε) (caused : Caused cause (front ++ back)) : Caused cause front :=
  fun before e after split => caused before e (after ++ back) (by rw [split, List.append_assoc, List.cons_append])

-- Of two events of a history one comes first.
theorem one_before_other (history : List ε) (e f : ε) (first : e ∈ history) (second : f ∈ history) (apart : e ≠ f) :
    (∃ front back, history = front ++ e :: back ∧ f ∈ front) ∨ ∃ front back, history = front ++ f :: back ∧ e ∈ front := by
  obtain ⟨front, back, rfl⟩ := List.append_of_mem first
  rcases List.mem_append.mp second with before | after
  · exact .inl ⟨front, back, rfl, before⟩
  · obtain ⟨mid, rest, rfl⟩ := List.append_of_mem ((List.mem_cons.mp after).resolve_left apart.symm)
    exact .inr ⟨front ++ e :: mid, rest, by rw [List.append_assoc, List.cons_append], List.mem_append_right _ List.mem_cons_self⟩

-- A mark that is new at each event has no repetition.
theorem caused_nodup (mark : ε → Option β) (history : List ε)
    (fresh : Caused (fun e front => ∀ b, mark e = some b → b ∉ front.filterMap mark) history) :
    (history.filterMap mark).Nodup := by
  induction history using List.reverseRecOn with
  | nil => exact List.nodup_nil
  | append_singleton front e ih =>
      have before := ih (caused_front _ front [e] fresh)
      rw [List.filterMap_append, List.nodup_append']
      refine ⟨before, ?_, ?_⟩
      · cases marked : mark e with
        | none => rw [List.filterMap_cons_none marked]; exact List.nodup_nil
        | some b => rw [List.filterMap_cons_some marked]; exact List.nodup_singleton b
      · intro b inside last
        obtain ⟨f, only, marked⟩ := List.mem_filterMap.mp last
        cases List.mem_singleton.mp only
        exact fresh front e [] rfl b marked inside

theorem filter_map_one (mark : ε → Option β) (e : ε) (b : β) (marked : mark e = some b) : [e].filterMap mark = [b] := by
  rw [List.filterMap_cons_some marked, List.filterMap_nil]

-- A mark that no two events of a history share names one event.
theorem marked_once (mark : ε → Option β) (history : List ε) (once : (history.filterMap mark).Nodup) (e f : ε) (b : β)
    (first : e ∈ history) (second : f ∈ history) (left : mark e = some b) (right : mark f = some b) : e = f := by
  induction history with
  | nil => cases first
  | cons g rest ih =>
      cases marked : mark g with
      | none =>
          rw [List.filterMap_cons_none marked] at once
          have apart (h : ε) (given : mark h = some b) (member : h ∈ g :: rest) : h ∈ rest := by
            rcases List.mem_cons.mp member with rfl | later
            · rw [marked] at given
              cases given
            · exact later
          exact ih once (apart e left first) (apart f right second)
      | some c =>
          rw [List.filterMap_cons_some marked, List.nodup_cons] at once
          have later (h : ε) (given : mark h = some b) (member : h ∈ rest) : b ∈ rest.filterMap mark :=
            List.mem_filterMap.mpr ⟨h, member, given⟩
          rcases List.mem_cons.mp first with rfl | inner
          · rcases List.mem_cons.mp second with rfl | inner
            · rfl
            · rw [marked] at left
              exact absurd (Option.some.inj left ▸ later f right inner) once.1
          · rcases List.mem_cons.mp second with rfl | inner'
            · rw [marked] at right
              exact absurd (Option.some.inj right ▸ later e left inner) once.1
            · exact ih once.2 inner inner'

end Concurrency
