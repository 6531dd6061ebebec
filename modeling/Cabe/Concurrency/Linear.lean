import Cabe.Concurrency.History

set_option autoImplicit false

namespace Concurrency

variable {ε ι Req Rep τ β : Type}

-- What the callers of an object see of it.
inductive ClientEvent (ι Req Rep : Type) where
  | called (c : ι) (req : Req)
  | returned (c : ι) (rep : Rep)

-- One order of the calls explains all that was seen. It is a run of what the object
-- is for, and a call that returned before another began stands before it. A call
-- that was refused is not in it, and one that has not returned may be.
structure Linearization (spec : Machine τ β (Req × Rep)) (refusal : Rep → Prop) (seen : List (ClientEvent ι Req Rep))
    (order : List (ι × Req × Rep)) : Prop where
  legal : ∃ t, spec.Run (order.map Prod.snd) t
  once : (order.map Prod.fst).Nodup
  asked : ∀ op ∈ order, .called op.1 op.2.1 ∈ seen
  answered : ∀ c rep, .returned c rep ∈ seen → (∃ req, (c, req, rep) ∈ order) ∨ (refusal rep ∧ ∀ op ∈ order, op.1 ≠ c)
  inTime : ∀ front c rep back, seen = front ++ .returned c rep :: back → ∀ d req, .called d req ∈ back →
    ∀ first ∈ order, first.1 = c → ∀ second ∈ order, second.1 = d → [first, second].Sublist order

def calledMark (client : ε → Option (ClientEvent ι Req Rep)) (e : ε) : Option ι :=
  match client e with
  | some (.called c _) => some c
  | _ => none

-- Every call takes effect at one moment between its beginning and its return.
structure HasPoints (client : ε → Option (ClientEvent ι Req Rep)) (point : ε → Option (ι × Req × Rep)) (refusal : Rep → Prop)
    (history : List ε) : Prop where
  calls : (history.filterMap (calledMark client)).Nodup
  once : ((history.filterMap point).map Prod.fst).Nodup
  begun : Caused (fun e front => ∀ op, point e = some op → ∃ f ∈ front, client f = some (.called op.1 op.2.1)) history
  ended : Caused (fun e front => ∀ c rep, client e = some (.returned c rep) →
    (∃ f ∈ front, ∃ req, point f = some (c, req, rep)) ∨ (refusal rep ∧ ∀ f ∈ history, ∀ op, point f = some op → op.1 ≠ c)) history

section Points

variable (client : ε → Option (ClientEvent ι Req Rep)) (point : ε → Option (ι × Req × Rep)) (refusal : Rep → Prop) (history : List ε)
  (points : HasPoints client point refusal history)

theorem called_mark (e : ε) (c : ι) (req : Req) (here : client e = some (.called c req)) : calledMark client e = some c := by
  unfold calledMark
  rw [here]

theorem same_key (order : List (ι × Req × Rep)) (once : (order.map Prod.fst).Nodup) (a b : ι × Req × Rep) (first : a ∈ order) (second : b ∈ order)
    (same : a.1 = b.1) : a = b :=
  List.inj_on_of_nodup_map once first second same

include points

-- What took effect in the front of a history, whose call begins behind it, would
-- have been called twice.
theorem point_after (front back : List ε) (split : history = front ++ back) (op : ι × Req × Rep) (e : ε) (here : e ∈ front)
    (takes : point e = some op) (f : ε) (later : f ∈ back) (req : Req) (called : client f = some (.called op.1 req)) : False := by
  obtain ⟨before, after, rfl⟩ := List.append_of_mem here
  obtain ⟨g, earlier, began⟩ := points.begun before e (after ++ back) (by rw [split, List.append_assoc, List.cons_append]) op takes
  have calls := points.calls
  rw [split, List.filterMap_append, List.nodup_append] at calls
  have left : op.1 ∈ (before ++ e :: after).filterMap (calledMark client) :=
    List.mem_filterMap.mpr ⟨g, List.mem_append_left _ earlier, called_mark client g op.1 op.2.1 began⟩
  have right : op.1 ∈ back.filterMap (calledMark client) := List.mem_filterMap.mpr ⟨f, later, called_mark client f op.1 req called⟩
  exact calls.2.2 op.1 left op.1 right rfl

-- The order of the moments at which the calls take effect is one that explains
-- what was seen.
theorem points_linearize (spec : Machine τ β (Req × Rep)) (t : τ) (legal : spec.Run ((history.filterMap point).map Prod.snd) t) :
    Linearization spec refusal (history.filterMap client) (history.filterMap point) where
  legal := ⟨t, legal⟩
  once := points.once
  asked op inside := by
    obtain ⟨e, member, takes⟩ := List.mem_filterMap.mp inside
    obtain ⟨front, back, rfl⟩ := List.append_of_mem member
    obtain ⟨f, before, began⟩ := points.begun front e back rfl op takes
    exact List.mem_filterMap.mpr ⟨f, List.mem_append_left _ before, began⟩
  answered c rep inside := by
    obtain ⟨e, member, returns⟩ := List.mem_filterMap.mp inside
    obtain ⟨front, back, split⟩ := List.append_of_mem member
    rcases points.ended front e back split c rep returns with ⟨f, before, req, takes⟩ | ⟨refused, never⟩
    · exact .inl ⟨req, List.mem_filterMap.mpr ⟨f, split ▸ List.mem_append_left _ before, takes⟩⟩
    · refine .inr ⟨refused, fun op done => ?_⟩
      obtain ⟨f, there, takes⟩ := List.mem_filterMap.mp done
      exact never f there op takes
  inTime front c rep back split d req called first firstIn sameFirst second secondIn sameSecond := by
    obtain ⟨before, rest, whole, -, restSeen⟩ := List.filterMap_eq_append_iff.mp split
    obtain ⟨quiet, e, after, shape, -, returns, afterSeen⟩ := List.filterMap_eq_cons_iff.mp restSeen
    have shown : history = (before ++ quiet) ++ e :: after := by rw [whole, shape, List.append_assoc]
    obtain ⟨f, later, began⟩ := List.mem_filterMap.mp (afterSeen ▸ called)
    -- The first has taken effect by the time it returns, the second has not begun.
    rcases points.ended (before ++ quiet) e after shown c rep returns with ⟨g, earlier, asked, takes⟩ | ⟨-, never⟩
    · have there : (c, asked, rep) ∈ history.filterMap point :=
        List.mem_filterMap.mpr ⟨g, shown ▸ List.mem_append_left _ earlier, takes⟩
      have firstIs : first = (c, asked, rep) := same_key _ points.once first _ firstIn there sameFirst
      obtain ⟨h, place, takesSecond⟩ := List.mem_filterMap.mp secondIn
      have cut : history = ((before ++ quiet) ++ [e]) ++ after := by
        rw [shown, List.append_assoc (before ++ quiet), List.singleton_append]
      have behind : h ∈ after := by
        rw [cut] at place
        refine (List.mem_append.mp place).resolve_left fun early => ?_
        exact point_after client point refusal history points _ after cut second h early takesSecond f later req (by rw [sameSecond]; exact began)
      have left : [first].Sublist (((before ++ quiet) ++ [e]).filterMap point) := by
        rw [List.singleton_sublist, firstIs]
        exact List.mem_filterMap.mpr ⟨g, List.mem_append_left _ earlier, takes⟩
      have right : [second].Sublist (after.filterMap point) := List.singleton_sublist.mpr (List.mem_filterMap.mpr ⟨h, behind, takesSecond⟩)
      rw [cut, List.filterMap_append]
      exact left.append right
    · obtain ⟨g, there, takes⟩ := List.mem_filterMap.mp firstIn
      exact absurd sameFirst (never g there first takes)

end Points

end Concurrency
