import Cabe.Concurrency.Progress
import Cabe.InboxWake

set_option autoImplicit false

namespace Cabe

open Concurrency

variable {Tid Dev σ Req Out : Type}

-- What a reactor has in hand, and a bound on the steps until it has an empty hand
-- and takes what came in.
def Toil (next : OpNode Tid Dev → Option (OpNode Tid Dev)) : RunAt Tid Dev → List (OpNode Tid Dev) → Nat → Prop
  | .reversing _ prev head, batch, w => ∃ done rest, Chain next prev done ∧ Chain next head rest ∧ batch = rest.reverse ++ done ∧
      w = rest.length + 6 * batch.length + 6
  | .ready _ op, batch, w => Chain next op batch ∧ w = 6 * batch.length + 5
  | .taken _ op after, batch, w => (∃ rest, batch = op :: rest ∧ Chain next after rest) ∧ w = 6 * batch.length + 4
  | .storing _ t _ after, batch, w => (∃ rest, batch = .call t :: rest ∧ Chain next after rest) ∧ w = 6 * batch.length + 3
  | .bumping _ _ after, batch, w => Chain next after batch ∧ w = 6 * batch.length + 7
  | .notifying _ _ after, batch, w => Chain next after batch ∧ w = 6 * batch.length + 6
  | .asleep, batch, w => batch = [] ∧ w = 4
  | .woken, batch, w => batch = [] ∧ w = 3
  | .waiting, batch, w => batch = [] ∧ w = 2
  | .draining, batch, w => batch = [] ∧ w = 1
  | .lastDraining, batch, w => batch = [] ∧ w = 1
  | .exited, batch, w => batch = [] ∧ w = 0

theorem toil_carries (next : OpNode Tid Dev → Option (OpNode Tid Dev)) (pc : RunAt Tid Dev) (batch : List (OpNode Tid Dev)) (w : Nat)
    (toil : Toil next pc batch w) : Carries next pc batch := by
  cases pc with
  | reversing mode prev head =>
      obtain ⟨done, rest, first, second, shape, -⟩ := toil
      exact ⟨done, rest, first, second, shape⟩
  | _ => exact toil.1

theorem carries_toil (next : OpNode Tid Dev → Option (OpNode Tid Dev)) (pc : RunAt Tid Dev) (batch : List (OpNode Tid Dev))
    (hand : Carries next pc batch) : ∃ w, Toil next pc batch w := by
  cases pc with
  | reversing mode prev head =>
      obtain ⟨done, rest, first, second, shape⟩ := hand
      exact ⟨_, done, rest, first, second, shape, rfl⟩
  | _ => exact ⟨_, hand, rfl⟩

theorem carries_unique (next : OpNode Tid Dev → Option (OpNode Tid Dev)) (pc : RunAt Tid Dev) (batch other : List (OpNode Tid Dev))
    (first : Carries next pc batch) (second : Carries next pc other) : batch = other := by
  have popped (op : OpNode Tid Dev) (after : Option (OpNode Tid Dev)) (first : ∃ rest, batch = op :: rest ∧ Chain next after rest)
      (second : ∃ rest, other = op :: rest ∧ Chain next after rest) : batch = other := by
    obtain ⟨rest, rfl, left⟩ := first
    obtain ⟨more, rfl, right⟩ := second
    rw [chain_unique next rest more after left right]
  cases pc with
  | reversing mode prev head =>
      obtain ⟨done, rest, front, back, rfl⟩ := first
      obtain ⟨done', rest', front', back', rfl⟩ := second
      rw [chain_unique next done done' prev front front', chain_unique next rest rest' head back back']
  | ready mode op => exact chain_unique next batch other op first second
  | taken mode op after => exact popped op after first second
  | storing mode t rc after => exact popped (.call t) after first second
  | bumping mode w after => exact chain_unique next batch other after first second
  | notifying mode w after => exact chain_unique next batch other after first second
  | _ => exact (show batch = [] from first).trans (show other = [] from second).symm

theorem toil_congr (next other : OpNode Tid Dev → Option (OpNode Tid Dev)) (pc : RunAt Tid Dev) (batch : List (OpNode Tid Dev)) (w : Nat)
    (same : ∀ op ∈ batch, other op = next op) (toil : Toil next pc batch w) : Toil other pc batch w := by
  have hand := carries_congr next other pc batch same (toil_carries next pc batch w toil)
  cases pc with
  | reversing mode prev head =>
      obtain ⟨done, rest, first, second, rfl, bound⟩ := toil
      exact ⟨done, rest, chain_congr next other done prev (fun op inside => same op (List.mem_append_right _ inside)) first,
        chain_congr next other rest head (fun op inside => same op (List.mem_append_left _ (List.mem_reverse.mpr inside))) second, rfl, bound⟩
  | _ => exact ⟨hand, toil.2⟩

-- The threads that will move on if nobody stops them. A sleeper waits for a notify
-- and a thread that joins for the exit; the others have a step to take.
def Runnable (s : Reactors Tid Dev σ Req Out) : ReactorActor Tid Dev → Prop
  | .caller t => s.caller t ≠ .idle ∧ ∀ d cur, s.caller t ≠ .asleep d cur
  | .run d => s.run d ≠ .asleep ∧ s.run d ≠ .exited
  | .stop d => s.stop d ≠ .started ∧ s.stop d ≠ .joined ∧ (s.stop d = .joining → s.run d = .exited)

-- A call in the hand of its reactor, and one that is still on the stack.
def Held (s : Reactors Tid Dev σ Req Out) (d : Dev) (t : Tid) (w : Nat) : Prop :=
  ∃ batch, Toil s.next (s.run d) batch w ∧ .call t ∈ batch

def Stacked (s : Reactors Tid Dev σ Req Out) (d : Dev) (t : Tid) (w : Nat) : Prop :=
  (s.run d).mode ≠ .last ∧ ∃ stack batch, Chain s.next (s.inbox d) stack ∧ .call t ∈ stack ∧ Toil s.next (s.run d) batch w

-- First the reactor comes to an end with what it has in hand, then it comes to the
-- call in what it has taken.
def Due (d : Dev) (c : OpTicket Tid) (s : Reactors Tid Dev σ Req Out) (r : Nat ×ₗ Nat) : Prop :=
  s.calls c.1 = c.2 ∧ ((∃ w, r = toLex (0, w) ∧ Held s d c.1 w) ∨ ∃ w, r = toLex (1, w) ∧ Stacked s d c.1 w)

-- The reactor itself, or who is about to wake it.
def Drives (d : Dev) (s : Reactors Tid Dev σ Req Out) (_r : Nat ×ₗ Nat) (a : ReactorActor Tid Dev) : Prop :=
  (s.run d ≠ .asleep ∧ a = .run d) ∨
    (s.run d = .asleep ∧ ((∃ u cur, a = .caller u ∧ s.caller u = .notifying d cur) ∨ (a = .stop d ∧ s.stop d = .notifying)))

-- The call has its result.
def HasResult (d : Dev) (c : OpTicket Tid) (s : Reactors Tid Dev σ Req Out) : Prop :=
  s.calls c.1 = c.2 ∧ (s.caller c.1).submitted = some d ∧ s.result c.1 ≠ kOpPending

section Lines

variable (s : Reactors Tid Dev σ Req Out) (stack batch : Line Tid Dev) (queued : Queued s stack batch) (d : Dev) (c : OpTicket Tid)

include queued

theorem held_line (w : Nat) (held : Held s d c.1 w) : Toil s.next (s.run d) (batch d) w ∧ .call c.1 ∈ batch d := by
  obtain ⟨hand, toil, inside⟩ := held
  have same := carries_unique s.next _ _ _ (toil_carries _ _ _ _ toil) (queued.hand d)
  subst same
  exact ⟨toil, inside⟩

theorem stacked_line (w : Nat) (stacked : Stacked s d c.1 w) :
    (s.run d).mode ≠ .last ∧ .call c.1 ∈ stack d ∧ Toil s.next (s.run d) (batch d) w := by
  obtain ⟨mode, front, hand, chain, inside, toil⟩ := stacked
  have sameHand := carries_unique s.next _ _ _ (toil_carries _ _ _ _ toil) (queued.hand d)
  have sameStack := chain_unique s.next _ _ _ chain (queued.inbox d)
  subst sameHand sameStack
  exact ⟨mode, inside, toil⟩

theorem due_line (r : Nat ×ₗ Nat) (due : Due d c s r) : .call c.1 ∈ line stack batch d := by
  obtain ⟨-, ⟨w, -, held⟩ | ⟨w, -, stacked⟩⟩ := due
  · exact List.mem_append_left _ (held_line s stack batch queued d c w held).2
  · exact List.mem_append_right _ (List.mem_reverse.mpr (stacked_line s stack batch queued d c w stacked).2.1)

end Lines

theorem stacked_some (next : OpNode Tid Dev → Option (OpNode Tid Dev)) (head : Option (OpNode Tid Dev)) (front : List (OpNode Tid Dev))
    (op : OpNode Tid Dev) (chain : Chain next head front) (inside : op ∈ front) : head ≠ none := by
  rintro rfl
  rw [chain_end next front chain] at inside
  cases inside

theorem due_awake (s : Reactors Tid Dev σ Req Out) (d : Dev) (c : OpTicket Tid) (r : Nat ×ₗ Nat) (due : Due d c s r) :
    s.run d ≠ .exited ∧ (s.run d = .asleep → s.inbox d ≠ none) := by
  obtain ⟨-, ⟨w, -, batch, toil, inside⟩ | ⟨w, -, mode, front, batch, chain, inside, toil⟩⟩ := due
  · refine ⟨fun gone => ?_, fun asleep => ?_⟩
    · rw [gone] at toil
      rw [toil.1] at inside
      cases inside
    · rw [asleep] at toil
      rw [toil.1] at inside
      cases inside
  · refine ⟨fun gone => mode (by rw [gone]; rfl), fun _ => stacked_some s.next _ front _ chain inside⟩

theorem submitted_busy (pc : CallerAt Tid Dev) (d : Dev) (submitted : pc.submitted = some d) : pc ≠ .idle := by
  rintro rfl
  cases submitted

variable [DecidableEq Tid] [DecidableEq Dev]

section Others

variable (service : Service σ Req Out) (admits : Dev → Req → Prop) (s s' : Reactors Tid Dev σ Req Out) (a : ReactorActor Tid Dev)
  (events : List (ReactorEvent Tid Dev Req Out)) (stack batch : Line Tid Dev) (queued : Queued s stack batch)
  (step : ReactorStep service admits s a events s') (d : Dev)

include queued step

-- Nobody else links the nodes that a reactor is going to follow.
theorem links_kept (other : a ≠ .run d) (op : OpNode Tid Dev) (inside : op ∈ line stack batch d) : s'.next op = s.next op := by
  have linked (node : OpNode Tid Dev) (to_ : Option (OpNode Tid Dev)) (off : node ∉ line stack batch d) :
      Function.update s.next node to_ op = s.next op := by
    refine Function.update_of_ne ?_ _ _
    rintro rfl
    exact off inside
  cases step with
  | call t e req rest admitted => exact linked _ _ (prepared_off s stack batch t queued (by rw [rest]; rfl) d)
  | load t e cur at_ =>
      refine linked _ _ (prepared_off s stack batch t queued ?_ d)
      rcases at_ with at_ | ⟨old, at_⟩ <;> rw [at_] <;> rfl
  | loadStop e at_ =>
      refine linked _ _ fun there => ?_
      obtain ⟨rfl, pushed, -⟩ := (queued.stops d e).mp there
      rcases at_ with at_ | ⟨old, at_⟩ <;> rw [at_] at pushed <;> cases pushed
  | reverse e mode prev head at_ =>
      refine linked _ _ fun there => ?_
      have hand := queued.hand e
      rw [at_] at hand
      obtain ⟨done, rest, -, second, shape⟩ := hand
      have mine : head ∈ line stack batch e := by
        obtain ⟨tail, rfl, -⟩ := chain_pop s.next head rest second
        exact List.mem_append_left _ (shape ▸ List.mem_append_left _ (List.mem_reverse.mpr List.mem_cons_self))
      exact other (congrArg ReactorActor.run (line_apart s stack batch queued head e d mine there))
  | _ => rfl

omit queued in
theorem run_kept (other : a ≠ .run d) : s'.run d = s.run d ∨ (s.run d = .asleep ∧ s'.run d = .woken) := by
  have notified (e : Dev) : Function.update s.run e (s.run e).notified d = s.run d ∨
      (s.run d = .asleep ∧ Function.update s.run e (s.run e).notified d = .woken) := by
    by_cases same : d = e
    · subst same
      rw [Function.update_self]
      cases s.run d with
      | asleep => exact .inr ⟨rfl, rfl⟩
      | _ => exact .inl rfl
    · exact .inl (Function.update_of_ne same _ _)
  have moved (e : Dev) (pc : RunAt Tid Dev) (apart : (.run e : ReactorActor Tid Dev) ≠ .run d) : Function.update s.run e pc d = s.run d :=
    Function.update_of_ne (fun same => apart (congrArg ReactorActor.run same.symm)) _ _
  cases step with
  | notifyInbox t e cur at_ => exact notified e
  | notifyStop e at_ => exact notified e
  | run e there moves => exact .inl (moved e _ other)
  | drain e at_ some_ => exact .inl (moved e _ other)
  | lastDrain e at_ => exact .inl (moved e _ other)
  | reverse e mode prev head at_ => exact .inl (moved e _ other)
  | execute e t next rc out after at_ serves => exact .inl (moved e _ other)
  | close e f next at_ => exact .inl (moved e _ other)
  | refuse e mode t next at_ late => exact .inl (moved e _ other)
  | store e mode t rc next at_ => exact .inl (moved e _ other)
  | bump e mode w next at_ => exact .inl (moved e _ other)
  | notify e mode w next at_ => exact .inl (moved e _ other)
  | _ => exact .inl rfl

theorem inbox_kept (other : a ≠ .run d) : s'.inbox d = s.inbox d ∨ ∃ op, s'.inbox d = some op ∧ s'.next op = s.inbox d := by
  cases step with
  | push t e cur old at_ same =>
      by_cases here : d = e
      · subst here
        exact .inr ⟨.call t, Function.update_self _ _ _, (queued.linked t d cur old at_).trans same.symm⟩
      · exact .inl (Function.update_of_ne here _ _)
  | pushStop e old at_ same =>
      by_cases here : d = e
      · subst here
        exact .inr ⟨.stop d, Function.update_self _ _ _, (queued.linkedStop d old at_).trans same.symm⟩
      · exact .inl (Function.update_of_ne here _ _)
  | drain e at_ some_ =>
      exact .inl (Function.update_of_ne (fun same => other (congrArg ReactorActor.run same.symm)) _ _)
  | lastDrain e at_ =>
      exact .inl (Function.update_of_ne (fun same => other (congrArg ReactorActor.run same.symm)) _ _)
  | _ => exact .inl rfl

end Others

-- What a step of a reactor does to its work.
inductive Works (s s' : Reactors Tid Dev σ Req Out) (d : Dev) (events : List (ReactorEvent Tid Dev Req Out)) (stack batch : List (OpNode Tid Dev))
    (w : Nat) : Prop
  | works (batch' : List (OpNode Tid Dev)) (w' : Nat) (lower : w' < w) (toil : Toil s'.next (s'.run d) batch' w')
      (hand : batch' = batch ∨ ∃ op, batch = op :: batch' ∧ ∀ t, op = .call t → ∃ rc, .stored d (s.ticket t) rc ∈ events)
      (inbox : s'.inbox d = s.inbox d) (links : ∀ op ∈ stack, s'.next op = s.next op) : Works s s' d events stack batch w
  | drains (w' : Nat) (empty : batch = []) (toil : Toil s'.next (s'.run d) stack.reverse w') : Works s s' d events stack batch w

theorem works_step (service : Service σ Req Out) (admits : Dev → Req → Prop) (s s' : Reactors Tid Dev σ Req Out) (d : Dev)
    (events : List (ReactorEvent Tid Dev Req Out)) (stack batch : Line Tid Dev) (w : Nat) (queued : Queued s stack batch)
    (toil : Toil s.next (s.run d) (batch d) w) (busy : batch d ≠ [] ∨ s.inbox d ≠ none)
    (step : ReactorStep service admits s (.run d) events s') : Works s s' d events (stack d) (batch d) w := by
  have here (r : Reactors Tid Dev σ Req Out) (there : RunAt Tid Dev) (batch' : List (OpNode Tid Dev)) (w' : Nat)
      (after : Toil r.next there batch' w') : Toil (r.goRun d there).next ((r.goRun d there).run d) batch' w' := by
    simp only [Reactors.goRun, Function.update_self]
    exact after
  have onward (r : Reactors Tid Dev σ Req Out) (there : RunAt Tid Dev) (events : List (ReactorEvent Tid Dev Req Out)) (w' : Nat) (lower : w' < w)
      (next : r.next = s.next) (inbox : r.inbox = s.inbox) (after : Toil s.next there (batch d) w') :
      Works s (r.goRun d there) d events (stack d) (batch d) w :=
    .works (batch d) w' lower (here r there _ w' (by rw [next]; exact after)) (.inl rfl) (congrFun inbox d) fun op _ => congrFun next op
  have popped (r : Reactors Tid Dev σ Req Out) (there : RunAt Tid Dev) (events : List (ReactorEvent Tid Dev Req Out)) (w' : Nat) (lower : w' < w)
      (next : r.next = s.next) (inbox : r.inbox = s.inbox) (op : OpNode Tid Dev) (rest : List (OpNode Tid Dev)) (shape : batch d = op :: rest)
      (stored : ∀ t, op = .call t → ∃ rc, .stored d (s.ticket t) rc ∈ events) (after : Toil s.next there rest w') :
      Works s (r.goRun d there) d events (stack d) (batch d) w :=
    .works rest w' lower (here r there _ w' (by rw [next]; exact after)) (.inr ⟨op, shape, stored⟩) (congrFun inbox d) fun op _ => congrFun next op
  have taken (mode : RunMode) (at_ : s.run d = .draining ∨ s.run d = .lastDraining) (events : List (ReactorEvent Tid Dev Req Out)) :
      Works s ((s.setInbox d none).goRun d (.reversing mode none (s.inbox d))) d events (stack d) (batch d) w := by
    have empty : batch d = [] := by
      rcases at_ with at_ | at_ <;> rw [at_] at toil <;> exact toil.1
    refine .drains ((stack d).length + 6 * (stack d).reverse.length + 6) empty (here (s.setInbox d none) _ _ _ ?_)
    exact ⟨[], stack d, rfl, queued.inbox d, (List.append_nil _).symm, rfl⟩
  generalize at_ : s.run d = pc at toil
  cases step with
  | run d there moves =>
      have filled (empty : batch d = []) (none_ : s.inbox d = none) : False := busy.elim (fun some_ => some_ empty) fun some_ => some_ none_
      rw [at_] at moves
      cases moves with
      | empty none_ => exact (filled toil.1 none_).elim
      | filled some_ => exact onward s _ _ 1 (by rw [toil.2]; decide) rfl rfl ⟨toil.1, rfl⟩
      | block none_ => exact (filled toil.1 none_).elim
      | stir => exact onward s _ _ 3 (by rw [toil.2]; decide) rfl rfl ⟨toil.1, rfl⟩
      | compare => exact onward s _ _ 2 (by rw [toil.2]; decide) rfl rfl ⟨toil.1, rfl⟩
      | reversed mode prev =>
          obtain ⟨done, rest, first, second, shape, bound⟩ := toil
          have ended := chain_end s.next rest second
          subst ended
          exact onward s _ _ (6 * (batch d).length + 5) (by omega) rfl rfl ⟨shape ▸ first, rfl⟩
      | served =>
          have bound : w = 6 * (batch d).length + 5 := toil.2
          exact onward s _ _ 1 (by omega) rfl rfl ⟨chain_end s.next _ toil.1, rfl⟩
      | failed =>
          have bound : w = 6 * (batch d).length + 5 := toil.2
          exact onward s _ _ 1 (by omega) rfl rfl ⟨chain_end s.next _ toil.1, rfl⟩
      | ended =>
          have bound : w = 6 * (batch d).length + 5 := toil.2
          exact onward s _ _ 0 (by omega) rfl rfl ⟨chain_end s.next _ toil.1, rfl⟩
      | take mode op =>
          obtain ⟨chain, bound⟩ := toil
          obtain ⟨rest, shape, after⟩ := chain_pop s.next op (batch d) chain
          exact onward s _ _ (6 * (batch d).length + 4) (by omega) rfl rfl ⟨⟨rest, shape, after⟩, rfl⟩
  | drain d at' some_ => exact taken .serving (.inl at') _
  | lastDrain d at' => exact taken .last (.inr at') _
  | reverse d mode prev head at' =>
      cases at_.symm.trans at'
      obtain ⟨done, rest, first, second, shape, bound⟩ := toil
      obtain ⟨tail, rfl, chain⟩ := chain_pop s.next head rest second
      have once := queued.once d
      rw [line, shape] at once
      simp only [List.reverse_cons, List.append_assoc, List.singleton_append] at once shape
      have apart := List.nodup_middle.mp once
      have off (op : OpNode Tid Dev) (inside : op ∈ tail.reverse ++ (done ++ (stack d).reverse)) :
          Function.update s.next head prev op = s.next op := by
        refine Function.update_of_ne ?_ _ _
        rintro rfl
        exact (List.nodup_cons.mp apart).1 inside
      have turned : Chain (Function.update s.next head prev) (Function.update s.next head prev head) done := by
        rw [Function.update_self]
        exact chain_congr _ _ done prev (fun op inside => off op (by simp [inside])) first
      have left := chain_congr _ (Function.update s.next head prev) tail _ (fun op inside => off op (by simp [inside])) chain
      exact .works (batch d) (tail.length + 6 * (batch d).length + 6) (by simp only [List.length_cons] at bound; omega)
        (here (s.link head prev) _ _ _ ⟨head :: done, tail, ⟨rfl, turned⟩, left, shape, rfl⟩) (.inl rfl) rfl
        fun op inside => off op (by simp [inside])
  | execute d t next rc out after at' serves =>
      cases at_.symm.trans at'
      obtain ⟨hand, bound⟩ := toil
      exact onward { s with device := Function.update s.device d after, out := Function.update s.out t out } _ _
        (6 * (batch d).length + 3) (by omega) rfl rfl ⟨hand, rfl⟩
  | close d e next at' =>
      cases at_.symm.trans at'
      obtain ⟨⟨rest, shape, chain⟩, bound⟩ := toil
      rw [shape, List.length_cons] at bound
      exact popped { s with device := Function.update s.device d (service.close (s.device d)) } _ _ (6 * rest.length + 5) (by omega) rfl rfl
        (.stop e) rest shape (by simp) ⟨chain, rfl⟩
  | refuse d mode t next at' late =>
      cases at_.symm.trans at'
      obtain ⟨hand, bound⟩ := toil
      exact onward s _ _ (6 * (batch d).length + 3) (by omega) rfl rfl ⟨hand, rfl⟩
  | store d mode t rc next at' =>
      cases at_.symm.trans at'
      obtain ⟨⟨rest, shape, chain⟩, bound⟩ := toil
      rw [shape, List.length_cons] at bound
      refine popped { s with result := Function.update s.result t rc } _ _ (6 * rest.length + 7) (by omega) rfl rfl (.call t) rest shape
        (fun u same => ?_) ⟨chain, rfl⟩
      cases same
      exact ⟨rc, List.mem_cons_self⟩
  | bump d mode u next at' =>
      cases at_.symm.trans at'
      obtain ⟨chain, bound⟩ := toil
      exact onward { s with wake := Function.update s.wake u (s.wake u + 1) } _ _ (6 * (batch d).length + 6) (by omega) rfl rfl ⟨chain, rfl⟩
  | notify d mode u next at' =>
      cases at_.symm.trans at'
      obtain ⟨chain, bound⟩ := toil
      exact onward (s.goCaller u (s.caller u).notified) _ _ (6 * (batch d).length + 5) (by omega) rfl rfl ⟨chain, rfl⟩

section Due

variable (service : Service σ Req Out) (admits : Dev → Req → Prop) (s s' : Reactors Tid Dev σ Req Out) (b : ReactorActor Tid Dev)
  (events : List (ReactorEvent Tid Dev Req Out)) (stack batch : Line Tid Dev) (queued : Queued s stack batch)
  (step : ReactorStep service admits s b events s') (d : Dev) (c : OpTicket Tid)

include step in
theorem calls_kept (t : Tid) (busy : s.caller t ≠ .idle) : s'.calls t = s.calls t := by
  cases step with
  | call u e req rest admitted =>
      refine Function.update_of_ne ?_ _ _
      rintro rfl
      exact busy rest
  | _ => rfl

include queued step in
-- Nobody but the reactor takes work from it, and some give it a call more or wake it.
theorem due_kept (r : Nat ×ₗ Nat) (other : b ≠ .run d) (due : Due d c s r) :
    (Due d c s' r ∧ s'.run d = s.run d) ∨ (s.run d = .asleep ∧ ∃ r', r' < r ∧ Due d c s' r') := by
  have inside := due_line s stack batch queued d c r due
  have submitted := ((queued.calls d c.1).mp inside).1
  have calls := calls_kept service admits s s' b events step c.1 (submitted_busy _ d submitted)
  have links := links_kept service admits s s' b events stack batch queued step d other
  have handLinks (op : OpNode Tid Dev) (there : op ∈ batch d) : s'.next op = s.next op := links op (List.mem_append_left _ there)
  have run := run_kept service admits s s' b events step d other
  obtain ⟨ticket, ⟨w, rfl, held⟩ | ⟨w, rfl, stacked⟩⟩ := due
  · obtain ⟨toil, hand⟩ := held_line s stack batch queued d c w held
    rcases run with same | ⟨asleep, -⟩
    · exact .inl ⟨⟨calls.trans ticket, .inl ⟨w, rfl, batch d, by rw [same]; exact toil_congr _ _ _ _ _ handLinks toil, hand⟩⟩, same⟩
    · rw [asleep] at toil
      rw [toil.1] at hand
      cases hand
  · obtain ⟨mode, there, toil⟩ := stacked_line s stack batch queued d c w stacked
    have grown : ∃ front, Chain s'.next (s'.inbox d) front ∧ .call c.1 ∈ front := by
      have chain := chain_congr s.next s'.next (stack d) (s.inbox d)
        (fun op inside => links op (List.mem_append_right _ (List.mem_reverse.mpr inside))) (queued.inbox d)
      rcases inbox_kept service admits s s' b events stack batch queued step d other with same | ⟨op, head, next⟩
      · exact ⟨stack d, by rw [same]; exact chain, there⟩
      · exact ⟨op :: stack d, ⟨head, by rw [next]; exact chain⟩, List.mem_cons_of_mem _ there⟩
    obtain ⟨front, chain, inside'⟩ := grown
    rcases run with same | ⟨asleep, woken⟩
    · refine .inl ⟨⟨calls.trans ticket, .inr ⟨w, rfl, by rw [same]; exact mode, front, batch d, chain, inside', ?_⟩⟩, same⟩
      rw [same]
      exact toil_congr _ _ _ _ _ handLinks toil
    · rw [asleep] at toil
      refine .inr ⟨asleep, toLex (1, 3), ?_, calls.trans ticket, .inr ⟨3, rfl, by rw [woken]; nofun, front, batch d, chain, inside', ?_⟩⟩
      · rw [toil.2]
        exact Prod.Lex.toLex_lt_toLex.mpr (.inr ⟨rfl, by decide⟩)
      · rw [woken]
        exact ⟨toil.1, rfl⟩

end Due

section Threads

variable (service : Service σ Req Out) (admits : Dev → Req → Prop) (s s' : Reactors Tid Dev σ Req Out) (b : ReactorActor Tid Dev)
  (events : List (ReactorEvent Tid Dev Req Out)) (step : ReactorStep service admits s b events s')

include step

theorem caller_kept (u : Tid) (other : b ≠ .caller u) :
    s'.caller u = s.caller u ∨ ∃ d cur, s.caller u = .asleep d cur ∧ s'.caller u = .woken d cur := by
  have moved (t : Tid) (pc : CallerAt Tid Dev) (apart : (.caller t : ReactorActor Tid Dev) ≠ .caller u) :
      Function.update s.caller t pc u = s.caller u :=
    Function.update_of_ne (fun same => apart (congrArg ReactorActor.caller same.symm)) _ _
  cases step with
  | call t d req rest admitted => exact .inl (moved t _ other)
  | caller t there moves => exact .inl (moved t _ other)
  | load t d cur at_ => exact .inl (moved t _ other)
  | push t d cur old at_ same => exact .inl (moved t _ other)
  | notifyInbox t d cur at_ => exact .inl (moved t _ other)
  | ret t d at_ => exact .inl (moved t _ other)
  | notify d mode w next at_ =>
      show Function.update s.caller w (s.caller w).notified u = s.caller u ∨
        ∃ d cur, s.caller u = .asleep d cur ∧ Function.update s.caller w (s.caller w).notified u = .woken d cur
      by_cases same : u = w
      · subst same
        rw [Function.update_self]
        cases s.caller u with
        | asleep d cur => exact .inr ⟨d, cur, rfl, rfl⟩
        | _ => exact .inl rfl
      · exact .inl (Function.update_of_ne same _ _)
  | _ => exact .inl rfl

theorem stop_kept (d : Dev) (other : b ≠ .stop d) : s'.stop d = s.stop d := by
  have moved (e : Dev) (pc : StopAt Tid Dev) (apart : (.stop e : ReactorActor Tid Dev) ≠ .stop d) : Function.update s.stop e pc d = s.stop d :=
    Function.update_of_ne (fun same => apart (congrArg ReactorActor.stop same.symm)) _ _
  cases step with
  | stop e rest => exact moved e _ other
  | loadStop e at_ => exact moved e _ other
  | pushStop e old at_ same => exact moved e _ other
  | notifyStop e at_ => exact moved e _ other
  | join e at_ gone => exact moved e _ other
  | _ => rfl

omit step in
theorem caller_notifies (u : Tid) (d : Dev) (cur : Nat) (here : s.caller u = .notifying d cur)
    (step : ReactorStep service admits s (.caller u) events s') : s'.run d = (s.run d).notified := by
  cases step with
  | call t e req rest admitted => cases here.symm.trans rest
  | caller t there moves => rw [here] at moves; cases moves
  | load t e cur at_ => rcases at_ with at_ | ⟨old, at_⟩ <;> cases here.symm.trans at_
  | push t e cur old at_ same => cases here.symm.trans at_
  | notifyInbox t e cur at_ =>
      cases here.symm.trans at_
      exact Function.update_self _ _ _
  | ret t e at_ => cases here.symm.trans at_

omit step in
theorem stop_notifies (d : Dev) (here : s.stop d = .notifying) (step : ReactorStep service admits s (.stop d) events s') :
    s'.run d = (s.run d).notified := by
  cases step with
  | stop e rest => cases here.symm.trans rest
  | loadStop e at_ => rcases at_ with at_ | ⟨old, at_⟩ <;> cases here.symm.trans at_
  | pushStop e old at_ same => cases here.symm.trans at_
  | notifyStop e at_ => exact Function.update_self _ _ _
  | join e at_ gone => cases here.symm.trans at_

omit step in
-- The last two steps of Finalize.
theorem finalize_step (e : Dev) (step : ReactorStep service admits s (.run e) events s') :
    (∀ mode t next, s.run e = .bumping mode t next → s'.run e = .notifying mode t next) ∧
      ∀ mode t next, s.run e = .notifying mode t next → s'.caller t = (s.caller t).notified := by
  have neither (pc : RunAt Tid Dev) (at_ : s.run e = pc) (bumping : ∀ mode t next, pc ≠ .bumping mode t next)
      (notifying : ∀ mode t next, pc ≠ .notifying mode t next) : (∀ mode t next, s.run e = .bumping mode t next → s'.run e = .notifying mode t next) ∧
        ∀ mode t next, s.run e = .notifying mode t next → s'.caller t = (s.caller t).notified :=
    ⟨fun mode t next here => absurd (at_.symm.trans here) (bumping mode t next),
      fun mode t next here => absurd (at_.symm.trans here) (notifying mode t next)⟩
  cases step with
  | bump e m u next' at_ =>
      refine ⟨fun mode t next here => ?_, fun mode t next here => absurd (at_.symm.trans here) nofun⟩
      cases here.symm.trans at_
      exact Function.update_self _ _ _
  | notify e m u next' at_ =>
      refine ⟨fun mode t next here => absurd (at_.symm.trans here) nofun, fun mode t next here => ?_⟩
      cases here.symm.trans at_
      exact Function.update_self _ _ _
  | run e there moves => constructor <;> (intro mode t next here; rw [here] at moves; cases moves)
  | drain e at_ some_ => exact neither _ at_ nofun nofun
  | lastDrain e at_ => exact neither _ at_ nofun nofun
  | reverse e m prev head at_ => exact neither _ at_ nofun nofun
  | execute e u next' rc out after' at_ serves => exact neither _ at_ nofun nofun
  | close e f next' at_ => exact neither _ at_ nofun nofun
  | refuse e m u next' at_ late => exact neither _ at_ nofun nofun
  | store e m u rc next' at_ => exact neither _ at_ nofun nofun

theorem stored_result (stack batch : Line Tid Dev) (queued : Queued s stack batch) (d : Dev) (t : Tid) (rc : Rc)
    (stored : .stored d (s.ticket t) rc ∈ events) : s'.calls = s.calls ∧ s'.caller = s.caller ∧ s'.result t ≠ kOpPending := by
  cases step with
  | store e mode u code next at_ =>
      cases List.mem_singleton.mp stored
      refine ⟨rfl, rfl, ?_⟩
      show Function.update s.result t rc t ≠ kOpPending
      rw [Function.update_self]
      exact queued.final d mode t rc next at_
  | _ => first | cases List.mem_singleton.mp stored | cases stored

end Threads

theorem due_works (service : Service σ Req Out) (admits : Dev → Req → Prop) (s s' : Reactors Tid Dev σ Req Out)
    (events : List (ReactorEvent Tid Dev Req Out)) (stack batch : Line Tid Dev) (queued : Queued s stack batch) (d : Dev) (c : OpTicket Tid)
    (step : ReactorStep service admits s (.run d) events s') (r : Nat ×ₗ Nat) (due : Due d c s r) :
    HasResult d c s' ∨ ∃ r', r' < r ∧ Due d c s' r' := by
  have inside := due_line s stack batch queued d c r due
  have submitted := ((queued.calls d c.1).mp inside).1
  have calls := calls_kept service admits s s' _ events step c.1 (submitted_busy _ d submitted)
  obtain ⟨ticket, ⟨w, rfl, held⟩ | ⟨w, rfl, stacked⟩⟩ := due
  · obtain ⟨toil, hand⟩ := held_line s stack batch queued d c w held
    rcases works_step service admits s s' d events stack batch w queued toil (.inl (List.ne_nil_of_mem hand)) step with
      ⟨batch', w', lower, toil', left, -, -⟩ | ⟨w', empty, -⟩
    · have nearer (there : .call c.1 ∈ batch') : ∃ r', r' < toLex (0, w) ∧ Due d c s' r' :=
        ⟨toLex (0, w'), Prod.Lex.toLex_lt_toLex.mpr (.inr ⟨rfl, lower⟩), calls.trans ticket, .inl ⟨w', rfl, batch', toil', there⟩⟩
      rcases left with rfl | ⟨op, shape, stored⟩
      · exact .inr (nearer hand)
      · rw [shape] at hand
        rcases List.mem_cons.mp hand with mine | later
        · obtain ⟨rc, stored⟩ := stored c.1 mine.symm
          obtain ⟨-, callers, final⟩ := stored_result service admits s s' _ events step stack batch queued d c.1 rc stored
          exact .inl ⟨calls.trans ticket, by rw [callers]; exact submitted, final⟩
        · exact .inr (nearer later)
    · rw [empty] at hand
      cases hand
  · obtain ⟨mode, there, toil⟩ := stacked_line s stack batch queued d c w stacked
    have some_ := stacked_some s.next _ _ _ (queued.inbox d) there
    rcases works_step service admits s s' d events stack batch w queued toil (.inr some_) step with
      ⟨batch', w', lower, toil', -, inbox, links⟩ | ⟨w', -, toil'⟩
    · refine .inr ⟨toLex (1, w'), Prod.Lex.toLex_lt_toLex.mpr (.inr ⟨rfl, lower⟩), calls.trans ticket, .inr ⟨w', rfl, fun last => ?_, ?_⟩⟩
      · rcases last_step service admits s s' _ events step d last with before | ⟨none_, -⟩
        · exact mode before
        · exact some_ (inbox.symm.trans none_)
      · exact ⟨stack d, batch', by rw [inbox]; exact chain_congr s.next s'.next _ _ links (queued.inbox d), there, toil'⟩
    · exact .inr ⟨toLex (0, w'), Prod.Lex.toLex_lt_toLex.mpr (.inl Nat.zero_lt_one), calls.trans ticket,
        .inl ⟨w', rfl, _, toil', List.mem_reverse.mpr there⟩⟩

variable [Fintype Dev]

-- What is so in every state and the progress of a call rests on.
structure Sane (s : Reactors Tid Dev σ Req Out) : Prop where
  queued : ∃ stack batch, Queued s stack batch
  wakes : WakeInv s
  heard : InboxHeard s

theorem due_helps (service : Service σ Req Out) (admits : Dev → Req → Prop) (d : Dev) (c : OpTicket Tid) :
    Helps (reactorMachine service admits) Runnable Sane (Due d c) (Drives d) fun _ s' => HasResult d c s' where
  has s r sane due := by
    by_cases asleep : s.run d = .asleep
    · rcases sane.heard d asleep ((due_awake s d c r due).2 asleep) with ⟨t, cur, at_⟩ | at_
      · exact ⟨.caller t, .inr ⟨asleep, .inl ⟨t, cur, rfl, at_⟩⟩⟩
      · exact ⟨.stop d, .inr ⟨asleep, .inr ⟨rfl, at_⟩⟩⟩
    · exact ⟨.run d, .inl ⟨asleep, rfl⟩⟩
  able s r a sane due drives := by
    rcases drives with ⟨awake, rfl⟩ | ⟨-, ⟨u, cur, rfl, at_⟩ | ⟨rfl, at_⟩⟩
    · exact ⟨awake, (due_awake s d c r due).1⟩
    · refine ⟨?_, fun e seen => ?_⟩ <;> rw [at_] <;> nofun
    · refine ⟨?_, ?_, fun joins => ?_⟩
      · rw [at_]
        nofun
      · rw [at_]
        nofun
      · cases at_.symm.trans joins
  step s r a b events s' sane _ due drives step := by
    obtain ⟨stack, batch, queued⟩ := sane.queued
    by_cases mine : b = .run d
    · subst mine
      exact (due_works service admits s s' events stack batch queued d c step r due).imp id .inl
    · rcases due_kept service admits s s' b events stack batch queued step d c r mine due with ⟨kept, same⟩ | ⟨-, lower⟩
      · refine .inr (.inr ?_)
        rcases drives with ⟨awake, rfl⟩ | ⟨asleep, ⟨u, cur, rfl, at_⟩ | ⟨rfl, at_⟩⟩
        · exact ⟨mine, kept, .inl ⟨by rw [same]; exact awake, rfl⟩⟩
        · have other : b ≠ .caller u := by
            rintro rfl
            have woken := caller_notifies service admits s s' events u d cur at_ step
            rw [same, asleep] at woken
            cases woken
          refine ⟨other, kept, .inr ⟨same.trans asleep, .inl ⟨u, cur, rfl, ?_⟩⟩⟩
          rcases caller_kept service admits s s' b events step u other with still | ⟨e, seen, slept, -⟩
          · exact still.trans at_
          · cases at_.symm.trans slept
        · have other : b ≠ .stop d := by
            rintro rfl
            have woken := stop_notifies service admits s s' events d at_ step
            rw [same, asleep] at woken
            cases woken
          exact ⟨other, kept, .inr ⟨same.trans asleep, .inr ⟨rfl, (stop_kept service admits s s' b events step d other).trans at_⟩⟩⟩
      · exact .inr (.inl lower)

-- How far a caller that has its result is from its return.
def CallerAt.stage : CallerAt Tid Dev → Nat
  | .leaving _ => 1
  | .waiting _ _ => 2
  | .reloading _ => 3
  | .notifying _ _ => 3
  | .sleeping _ _ => 4
  | .woken _ _ => 5
  | .asleep _ _ => 6
  | _ => 0

def CallerAt.Asleep (pc : CallerAt Tid Dev) : Prop := ∃ d cur, pc = .asleep d cur

-- First its word rises for the last time, then nothing can hold it.
def Leaves (d : Dev) (c : OpTicket Tid) (s : Reactors Tid Dev σ Req Out) (r : Nat ×ₗ Nat) : Prop :=
  HasResult d c s ∧ ((0 < s.owed c.1 ∧ r = toLex (s.owed c.1, 0)) ∨ (s.owed c.1 = 0 ∧ r = toLex (0, (s.caller c.1).stage)))

-- A reactor that raises the word, the caller itself, or a reactor that wakes it.
def Frees (c : OpTicket Tid) (s : Reactors Tid Dev σ Req Out) (_r : Nat ×ₗ Nat) (a : ReactorActor Tid Dev) : Prop :=
  (∃ e mode next, a = .run e ∧ s.run e = .bumping mode c.1 next) ∨
    (s.owed c.1 = 0 ∧ ((¬ (s.caller c.1).Asleep ∧ a = .caller c.1) ∨
      ((s.caller c.1).Asleep ∧ ∃ e mode next, a = .run e ∧ s.run e = .notifying mode c.1 next)))

section Leaving

variable (service : Service σ Req Out) (admits : Dev → Req → Prop) (s s' : Reactors Tid Dev σ Req Out) (b : ReactorActor Tid Dev)
  (events : List (ReactorEvent Tid Dev Req Out)) (stack batch : Line Tid Dev) (queued : Queued s stack batch)
  (step : ReactorStep service admits s b events s') (d : Dev) (c : OpTicket Tid)

include step

omit [Fintype Dev] in
theorem bumping_before (e : Dev) (mode : RunMode) (t : Tid) (next : Option (OpNode Tid Dev)) (after : s'.run e = .bumping mode t next) :
    s.run e = .bumping mode t next ∨ ∃ rc, s.run e = .storing mode t rc next := by
  by_cases mine : b = .run e
  · subst mine
    have here (pc : RunAt Tid Dev) (now : Function.update s.run e pc e = .bumping mode t next) : pc = .bumping mode t next := by
      rwa [Function.update_self] at now
    cases step with
    | store e m u rc next' at_ =>
        cases here _ after
        exact .inr ⟨rc, at_⟩
    | run e there moves =>
        cases here _ after
        generalize s.run e = pc at moves
        cases moves
    | drain e at_ some_ => cases here _ after
    | lastDrain e at_ => cases here _ after
    | reverse e m prev head at_ => cases here _ after
    | execute e u next' rc out after' at_ serves => cases here _ after
    | close e f next' at_ => cases here _ after
    | refuse e m u next' at_ late => cases here _ after
    | bump e m u next' at_ => cases here _ after
    | notify e m u next' at_ => cases here _ after
  · rcases run_kept service admits s s' b events step e mine with same | ⟨-, woken⟩
    · exact .inl (same.symm.trans after)
    · cases woken.symm.trans after

include queued in
-- A word that has a result does not come to owe more.
omit [Fintype Dev] in
theorem owes_falls (final : s.result c.1 ≠ kOpPending) (e : Dev) : (s'.run e).owes c.1 ≤ (s.run e).owes c.1 := by
  cases after : s'.run e with
  | bumping mode w next =>
      by_cases same : w = c.1
      · subst same
        rcases bumping_before service admits s s' b events step e mode c.1 next after with before | ⟨rc, storing⟩
        · rw [before]
        · have inside := in_hand_line s stack batch queued e c.1 (.inr ⟨mode, rc, next, storing⟩)
          exact absurd ((queued.calls e c.1).mp inside).2 final
      · rw [RunAt.owes, if_neg same]
        exact Nat.zero_le _
  | _ => exact Nat.zero_le _

include queued in
theorem owed_falls (final : s.result c.1 ≠ kOpPending) : s'.owed c.1 ≤ s.owed c.1 :=
  Finset.sum_le_sum fun e _ => owes_falls service admits s s' b events stack batch queued step c final e

omit step in
include queued in
theorem owed_less (e : Dev) (mode : RunMode) (next : Option (OpNode Tid Dev)) (here : s.run e = .bumping mode c.1 next)
    (final : s.result c.1 ≠ kOpPending) (step : ReactorStep service admits s (.run e) events s') : s'.owed c.1 < s.owed c.1 := by
  refine Finset.sum_lt_sum (fun f _ => owes_falls service admits s s' _ events stack batch queued step c final f) ⟨e, Finset.mem_univ e, ?_⟩
  have raised := (finalize_step service admits s s' events e step).1 mode c.1 next here
  rw [here, raised]
  show 0 < if c.1 = c.1 then 1 else 0
  rw [if_pos rfl]
  exact Nat.zero_lt_one

omit [Fintype Dev] in
include queued in
theorem result_kept (has : HasResult d c s) : (∃ rc out, .returned c rc out ∈ events) ∨ HasResult d c s' := by
  obtain ⟨ticket, submitted, final⟩ := has
  have unprepared (e : Dev) (prepares : (s.caller c.1).preparing = some e) : False := by
    have none_ := submitted_unprepared _ e prepares
    rw [none_] at submitted
    cases submitted
  cases call_effect_step service admits s s' b events step c.1 with
  | still preparing same calls request result out => exact .inr ⟨calls.trans ticket, same.trans submitted, by rw [result]; exact final⟩
  | calls e req idle => exact absurd idle (submitted_busy _ d submitted)
  | pushes e preparing => exact (unprepared e preparing).elim
  | executes e rc next taken run caller calls request result event =>
      exact .inr ⟨(congrFun calls _).trans ticket, by rw [caller]; exact submitted, by rw [result]; exact final⟩
  | stores e mode rc next storing =>
      have inside := in_hand_line s stack batch queued e c.1 (.inr ⟨mode, rc, next, storing⟩)
      exact absurd ((queued.calls e c.1).mp inside).2 final
  | returns e leaving idle calls event =>
      have mine : s.ticket c.1 = c := Prod.ext rfl ticket
      rw [event, mine]
      exact .inl ⟨_, _, List.mem_cons_self⟩

omit step in
-- With its result there and its word risen, each step of a caller leads it out.
theorem caller_leaves (wakes : WakeInv s) (room : Fintype.card Dev + 1 < 2 ^ 32) (has : HasResult d c s) (risen : s.owed c.1 = 0)
    (step : ReactorStep service admits s (.caller c.1) events s') :
    (∃ rc out, .returned c rc out ∈ events) ∨ (s'.caller c.1).stage < (s.caller c.1).stage := by
  obtain ⟨ticket, submitted, final⟩ := has
  have onward (t : Tid) (there pc : CallerAt Tid Dev) (less : there.stage < pc.stage) : (Function.update s.caller t there t).stage < pc.stage := by
    rw [Function.update_self]
    exact less
  obtain ⟨t, n⟩ := c
  generalize at_ : s.caller t = pc at submitted
  cases step with
  | call t e req rest admitted => cases at_.symm.trans rest; cases submitted
  | load t e cur at' =>
      rcases at' with at' | ⟨old, at'⟩ <;> cases at_.symm.trans at' <;> cases submitted
  | push t e cur old at' same => cases at_.symm.trans at'; cases submitted
  | notifyInbox t e cur at' =>
      cases at_.symm.trans at'
      exact .inr (onward t (.waiting e cur) _ (Nat.lt_succ_self 2))
  | ret t e at' =>
      have mine : s.ticket t = (t, n) := Prod.ext rfl ticket
      rw [mine]
      exact .inl ⟨_, _, List.mem_cons_self⟩
  | caller t there moves =>
      refine .inr (onward t there pc ?_)
      rw [at_] at moves
      cases moves with
      | snap e => cases submitted
      | pending e cur still => exact absurd still final
      | done e cur final => exact Nat.lt_succ_self 1
      | changed e cur differs => exact Nat.lt_succ_self 3
      -- It has seen its word before the rise, and cannot take it for the same.
      | block e cur same =>
          obtain ⟨seen, armed⟩ := wakes t cur (by rw [at_]; rfl)
          have raised := (armed.rises (by rw [at_]; rfl) final).resolve_left (Nat.not_lt.mpr (Nat.le_of_eq risen))
          have near := armed.near
          have word := armed.word
          have now : s.wake t % 2 ^ 32 = cur := same
          omega
      | stir e cur => exact Nat.lt_succ_self 5
      | compare e cur => exact Nat.lt_succ_self 4
      | reload e => exact Nat.lt_succ_self 2

end Leaving

omit [DecidableEq Dev] in
theorem leaves_below (s s' : Reactors Tid Dev σ Req Out) (d : Dev) (c : OpTicket Tid) (has : HasResult d c s')
    (lower : s'.owed c.1 < s.owed c.1 ∨ (s.owed c.1 = 0 ∧ s'.owed c.1 = 0 ∧ (s'.caller c.1).stage < (s.caller c.1).stage)) (r : Nat ×ₗ Nat)
    (leaves : Leaves d c s r) : ∃ r', r' < r ∧ Leaves d c s' r' := by
  obtain ⟨-, ⟨pos, rfl⟩ | ⟨zero, rfl⟩⟩ := leaves
  · have less : s'.owed c.1 < s.owed c.1 := lower.resolve_right fun both => by omega
    rcases Nat.eq_zero_or_pos (s'.owed c.1) with zero' | pos'
    · exact ⟨_, Prod.Lex.toLex_lt_toLex.mpr (.inl pos), has, .inr ⟨zero', rfl⟩⟩
    · exact ⟨_, Prod.Lex.toLex_lt_toLex.mpr (.inl less), has, .inl ⟨pos', rfl⟩⟩
  · obtain ⟨-, zero', less⟩ := lower.resolve_left (by omega)
    exact ⟨toLex (0, (s'.caller c.1).stage), Prod.Lex.toLex_lt_toLex.mpr (.inr ⟨rfl, less⟩), has, .inr ⟨zero', rfl⟩⟩

omit [DecidableEq Dev] in
theorem leaves_still (s s' : Reactors Tid Dev σ Req Out) (d : Dev) (c : OpTicket Tid) (has : HasResult d c s') (owed : s'.owed c.1 = s.owed c.1)
    (caller : s.owed c.1 = 0 → s'.caller c.1 = s.caller c.1) (r : Nat ×ₗ Nat) (leaves : Leaves d c s r) : Leaves d c s' r := by
  obtain ⟨-, ⟨pos, rfl⟩ | ⟨zero, rfl⟩⟩ := leaves
  · exact ⟨has, .inl ⟨by rw [owed]; exact pos, by rw [owed]⟩⟩
  · exact ⟨has, .inr ⟨owed.trans zero, by rw [caller zero]⟩⟩

theorem leaves_helps (service : Service σ Req Out) (admits : Dev → Req → Prop) (room : Fintype.card Dev + 1 < 2 ^ 32) (d : Dev) (c : OpTicket Tid) :
    Helps (reactorMachine service admits) Runnable Sane (Leaves d c) (Frees c) fun events _ => ∃ rc out, .returned c rc out ∈ events where
  has s r sane leaves := by
    obtain ⟨⟨-, -, final⟩, ⟨pos, -⟩ | ⟨zero, -⟩⟩ := leaves
    · obtain ⟨e, mode, next, at_⟩ := owed_some s c.1 pos
      exact ⟨.run e, .inl ⟨e, mode, next, rfl, at_⟩⟩
    · by_cases asleep : (s.caller c.1).Asleep
      · obtain ⟨e, cur, at_⟩ := asleep
        obtain ⟨f, mode, next, bumping | notifying⟩ := asleep_roused s sane.wakes c.1 e cur at_ final
        · exact ⟨.run f, .inl ⟨f, mode, next, rfl, bumping⟩⟩
        · exact ⟨.run f, .inr ⟨zero, .inr ⟨⟨e, cur, at_⟩, f, mode, next, rfl, notifying⟩⟩⟩
      · exact ⟨.caller c.1, .inr ⟨zero, .inl ⟨asleep, rfl⟩⟩⟩
  able s r a sane leaves frees := by
    rcases frees with ⟨e, mode, next, rfl, at_⟩ | ⟨-, ⟨awake, rfl⟩ | ⟨-, e, mode, next, rfl, at_⟩⟩
    · constructor <;> rw [at_] <;> nofun
    · exact ⟨submitted_busy _ d leaves.1.2.1, fun e cur at_ => awake ⟨e, cur, at_⟩⟩
    · constructor <;> rw [at_] <;> nofun
  step s r a b events s' sane _ leaves frees step := by
    obtain ⟨stack, batch, queued⟩ := sane.queued
    have final := leaves.1.2.2
    by_cases returned : ∃ rc out, .returned c rc out ∈ events
    · exact .inl returned
    refine .inr ?_
    have has := (result_kept service admits s s' b events stack batch queued step d c leaves.1).resolve_left returned
    have falls := owed_falls service admits s s' b events stack batch queued step c final
    by_cases less : s'.owed c.1 < s.owed c.1
    · exact .inl (leaves_below s s' d c has (.inl less) r leaves)
    have owed : s'.owed c.1 = s.owed c.1 := by omega
    by_cases zero : s.owed c.1 = 0
    swap
    · have still := leaves_still s s' d c has owed (fun none_ => absurd none_ zero) r leaves
      rcases frees with ⟨e, mode, next, rfl, at_⟩ | ⟨none_, -⟩
      · have other : b ≠ .run e := by
          rintro rfl
          exact less (owed_less service admits s s' events stack batch queued c e mode next at_ final step)
        refine .inr ⟨other, still, .inl ⟨e, mode, next, rfl, ?_⟩⟩
        rcases run_kept service admits s s' b events step e other with same | ⟨slept, -⟩
        · exact same.trans at_
        · cases at_.symm.trans slept
      · exact absurd none_ zero
    by_cases mine : b = .caller c.1
    · subst mine
      have nearer := (caller_leaves service admits s s' events d c sane.wakes room leaves.1 zero step).resolve_left returned
      exact .inl (leaves_below s s' d c has (.inr ⟨zero, owed.trans zero, nearer⟩) r leaves)
    rcases caller_kept service admits s s' b events step c.1 mine with same | ⟨e, cur, slept, woken⟩
    · have still := leaves_still s s' d c has owed (fun _ => same) r leaves
      refine .inr ?_
      rcases frees with ⟨e, mode, next, rfl, at_⟩ | ⟨-, ⟨awake, rfl⟩ | ⟨asleep, e, mode, next, rfl, at_⟩⟩
      · have pos := owed_pos s c.1 e mode next at_
        omega
      · exact ⟨mine, still, .inr ⟨owed.trans zero, .inl ⟨by rw [same]; exact awake, rfl⟩⟩⟩
      · have other : b ≠ .run e := by
          rintro rfl
          obtain ⟨f, cur, slept⟩ := asleep
          have woken := (finalize_step service admits s s' events e step).2 mode c.1 next at_
          rw [same, slept] at woken
          cases woken
        refine ⟨other, still, .inr ⟨owed.trans zero, .inr ⟨by rw [same]; exact asleep, e, mode, next, rfl, ?_⟩⟩⟩
        rcases run_kept service admits s s' b events step e other with same | ⟨slept, -⟩
        · exact same.trans at_
        · cases at_.symm.trans slept
    · refine .inl (leaves_below s s' d c has (.inr ⟨zero, owed.trans zero, ?_⟩) r leaves)
      rw [slept, woken]
      exact Nat.lt_succ_self 5

theorem sane_path (service : Service σ Req Out) (admits : Dev → Req → Prop) (room : Fintype.card Dev + 1 < 2 ^ 32)
    (path : (reactorMachine service admits).Path) (n : Nat) : Sane (path.state n : Reactors Tid Dev σ Req Out) := by
  obtain ⟨⟨stack, batch, inv⟩, wakes, heard⟩ := wake_run_inv service admits (path.trace n) (path.state n) room (path_run _ path n)
  exact ⟨⟨stack, batch, inv.queued⟩, wakes, heard⟩

-- A push that the last drain has not missed.
omit [Fintype Dev] in
theorem pushed_due (service : Service σ Req Out) (admits : Dev → Req → Prop) (path : (reactorMachine service admits).Path) (n : Nat) (d : Dev)
    (c : OpTicket Tid) (pushed : .pushed d c ∈ path.events n) (opened : .drained d ∉ path.trace n) : ∃ r, Due d c (path.state (n + 1)) r := by
  obtain ⟨before, hand, earlier⟩ := inboxed_run admits service (path.trace n) (path.state n) (path_run _ path n)
  obtain ⟨stack, batch, inv⟩ := inboxed_run admits service (path.trace (n + 1)) (path.state (n + 1)) (path_run _ path (n + 1))
  have trace : path.trace (n + 1) = path.trace n ++ path.events n := rfl
  rw [trace] at inv
  cases moved : path.actor n with
  | none =>
      rw [(path.idles n moved).2] at pushed
      cases pushed
  | some a =>
      have step := path.moves n a moved
      generalize path.state (n + 1) = s' at step inv
      generalize path.events n = events at step inv pushed
      cases step with
      | push t e cur old at_ same =>
          cases List.mem_singleton.mp pushed
          have fresh := earlier.queued.fresh t d (by rw [at_]; rfl)
          have inside := (inv.queued.calls d t).mpr ⟨by simp only [Reactors.goCaller, Function.update_self]; rfl, fresh⟩
          obtain ⟨w, toil⟩ := carries_toil _ _ _ (inv.queued.hand d)
          rcases List.mem_append.mp inside with held | stacked
          · exact ⟨_, rfl, .inl ⟨w, rfl, batch d, toil, held⟩⟩
          · refine ⟨_, rfl, .inr ⟨w, rfl, fun last => ?_, stack d, batch d, inv.queued.inbox d, List.mem_reverse.mp stacked, toil⟩⟩
            obtain ⟨front, back, split, -⟩ := inv.drained d last
            have drained : .drained d ∈ path.trace n ++ [.pushed d ((path.state n).ticket t)] := by
              rw [split]
              exact List.mem_append_right _ List.mem_cons_self
            exact opened ((List.mem_append.mp drained).resolve_right (by simp))
      | _ => first | cases List.mem_singleton.mp pushed | cases pushed

-- Every call that reached its inbox before the last drain of it returns, if no
-- thread that can go on is held for ever and every operation comes to its end.
theorem pushed_call_returns (service : Service σ Req Out) (admits : Dev → Req → Prop) (devices : Fintype.card Dev ≤ 256)
    (path : (reactorMachine service admits).Path) (fair : path.Fair Runnable) (n : Nat) (d : Dev) (c : OpTicket Tid)
    (pushed : .pushed d c ∈ path.events n) (opened : .drained d ∉ path.trace n) :
    ∃ k, n < k ∧ ∃ rc out, .returned c rc out ∈ path.events k := by
  have room : Fintype.card Dev + 1 < 2 ^ 32 := by omega
  have sane := sane_path service admits room path
  obtain ⟨r, due⟩ := pushed_due service admits path n d c pushed opened
  obtain ⟨k, later, has⟩ := helped _ path Runnable fair Sane (Due d c) (Drives d) _ (due_helps service admits d c) sane r (n + 1) due
  have leaves : ∃ r, Leaves d c (path.state (k + 1)) r := by
    rcases Nat.eq_zero_or_pos ((path.state (k + 1)).owed c.1) with zero | pos
    · exact ⟨_, has, .inr ⟨zero, rfl⟩⟩
    · exact ⟨_, has, .inl ⟨pos, rfl⟩⟩
  obtain ⟨r, leaves⟩ := leaves
  obtain ⟨j, after, returned⟩ := helped _ path Runnable fair Sane (Leaves d c) (Frees c) _
    (leaves_helps service admits room d c) sane r (k + 1) leaves
  exact ⟨j, by omega, returned⟩

-- The reactor rouses the sleeper, the sleeper returns, and nobody has a step left.
theorem settled_caller (service : Service σ Req Out) (admits : Fin 1 → Req → Prop) (trace : List (ReactorEvent Unit (Fin 1) Req Out))
    (s : Reactors Unit (Fin 1) σ Req Out) (run : (reactorMachine service admits).Run trace s) (asleep : s.caller () = .asleep 0 0)
    (final : s.result () ≠ kOpPending) (running : s.run 0 = .bumping .serving () none) (inbox : s.inbox 0 = none) (wake : s.wake () = 0) :
    ∃ s' c rc out, (reactorMachine service admits).Run (trace ++ [.returned c rc out]) s' ∧ s'.caller () = .idle ∧
      s'.run 0 = .asleep ∧ s'.stop = s.stop := by
  have bumped := run.next _ _ _ _ _ (.bump s 0 .serving () none running)
  have notified := bumped.next _ _ _ _ _ (.notify _ 0 .serving () none rfl)
  have compared := notified.next _ _ _ _ _ (.caller _ () (.sleeping 0 0) (by
    show CallerMove _ () (s.caller ()).notified _
    rw [asleep]
    exact CallerMove.compare 0 0))
  have changed := compared.next _ _ _ _ _ (.caller _ () _ (CallerMove.changed 0 0 (by
    show (s.wake () + 1) % 2 ^ 32 ≠ 0
    rw [wake]
    decide)))
  have reloaded := changed.next _ _ _ _ _ (.caller _ () _ (CallerMove.reload 0))
  have done := reloaded.next _ _ _ _ _ (.caller _ () _ (CallerMove.done 0 _ (by exact final)))
  have returned := done.next _ _ _ _ _ (.ret _ () 0 rfl)
  have served := returned.next _ _ _ _ _ (.run _ 0 _ RunMove.served)
  have empty := served.next _ _ _ _ _ (.run _ 0 _ (RunMove.empty (by exact inbox)))
  have blocked := empty.next _ _ _ _ _ (.run _ 0 _ (RunMove.block (by exact inbox)))
  simp only [List.append_nil] at blocked
  exact ⟨_, _, _, _, blocked, rfl, rfl, by simp only [Reactors.goRun, Reactors.goCaller]⟩

theorem pushed_call_returns_served :
    ∃ path : (reactorMachine echo fun (_ : Fin 1) (_ : Nat) => True : Machine (Reactors Unit (Fin 1) Unit Nat Nat) _ _).Path,
    path.Fair Runnable ∧ ∃ k rc out, .returned ((), 1) rc out ∈ path.events k := by
  obtain ⟨s, run, asleep, stored, running, inbox, wake, stop⟩ := served_run echo (fun _ _ => True) (reactorMachine echo fun _ _ => True) rfl () () 7
    Err.kSuccess 7 0 ⟨fun _ => rfl, fun _ => rfl, fun _ => rfl, fun _ => rfl⟩ trivial ⟨rfl, rfl⟩
  obtain ⟨s', c, rc, out, settled, idle, quiet, still⟩ := settled_caller echo _ _ s run asleep (by rw [stored]; decide) running inbox wake
  obtain ⟨path, n, whole, rests⟩ := run_path _ _ s' settled
  have fair : path.Fair Runnable := by
    intro m a runnable
    have now := runnable (max m n) (Nat.le_max_left m n)
    rw [(rests _ (Nat.le_max_right m n)).1] at now
    cases a with
    | caller t => exact absurd idle now.1
    | run d =>
        obtain rfl : d = 0 := Subsingleton.elim d 0
        exact absurd quiet now.1
    | stop d =>
        obtain rfl : d = 0 := Subsingleton.elim d 0
        exact absurd ((congrFun still 0).trans stop) now.1
  have inside : .pushed 0 ((), 1) ∈ path.trace n := by
    rw [whole]
    simp [servedTrace]
  obtain ⟨j, before, pushed⟩ := trace_event _ path n _ inside
  have opened : .drained 0 ∉ path.trace j := by
    intro drained
    have there := ( path_trace_prefix _ path j n (Nat.le_of_lt before)).subset drained
    rw [whole] at there
    simp [servedTrace] at there
  obtain ⟨k, -, returned⟩ := pushed_call_returns echo (fun _ _ => True) (by decide) path fair j 0 ((), 1) pushed opened
  exact ⟨path, fair, k, returned⟩

end Cabe
