import Cabe.InboxOrder

set_option autoImplicit false

namespace Cabe

open Concurrency

variable {Tid Dev σ Req Out : Type} [DecidableEq Tid] [DecidableEq Dev]

-- How a reactor comes to an operation.
inductive Begun (Tid : Type) where
  | executed (c : OpTicket Tid)
  | closed
  | refused (c : OpTicket Tid)

def Begun.item : Begun Tid → Option (OpTicket Tid)
  | .executed c => some c
  | .closed => none
  | .refused c => some c

def begunMark (d : Dev) : ReactorEvent Tid Dev Req Out → Option (Begun Tid)
  | .executed e c _ _ _ => if e = d then some (.executed c) else none
  | .closed e => if e = d then some .closed else none
  | .refused e c => if e = d then some (.refused c) else none
  | _ => none

def begunOn (d : Dev) (trace : List (ReactorEvent Tid Dev Req Out)) : List (Begun Tid) := trace.filterMap (begunMark d)

-- The operation that has begun and whose result is not stored yet.
def Reactors.current (s : Reactors Tid Dev σ Req Out) (d : Dev) : List (Option (OpTicket Tid)) :=
  match s.run d with
  | .storing _ t _ _ => [some (s.ticket t)]
  | _ => []

-- What a step does to the operations of one reactor.
inductive RunEffect (s s' : Reactors Tid Dev σ Req Out) (d : Dev) (events : List (ReactorEvent Tid Dev Req Out)) : Prop
  | still (begun : begunOn d events = []) (handled : handledOn d events = []) (current : s'.current d = s.current d)
      (mode : (s'.run d).mode = .serving ↔ (s.run d).mode = .serving) : RunEffect s s' d events
  | executes (c : OpTicket Tid) (begun : begunOn d events = [.executed c]) (handled : handledOn d events = []) (free : s.current d = [])
      (current : s'.current d = [some c]) (mode : (s.run d).mode = .serving) (mode' : (s'.run d).mode = .serving) : RunEffect s s' d events
  | refuses (c : OpTicket Tid) (begun : begunOn d events = [.refused c]) (handled : handledOn d events = []) (free : s.current d = [])
      (current : s'.current d = [some c]) (mode : (s.run d).mode ≠ .serving) (mode' : (s'.run d).mode ≠ .serving) : RunEffect s s' d events
  | closes (begun : begunOn d events = [.closed]) (handled : handledOn d events = [none]) (free : s.current d = [])
      (current : s'.current d = []) (mode : (s.run d).mode = .serving) (mode' : (s'.run d).mode ≠ .serving) : RunEffect s s' d events
  | stores (begun : begunOn d events = []) (handled : handledOn d events = s.current d) (current : s'.current d = [])
      (mode : (s'.run d).mode = .serving ↔ (s.run d).mode = .serving) : RunEffect s s' d events

omit [DecidableEq Tid] [DecidableEq Dev] in
theorem current_of_run (s s' : Reactors Tid Dev σ Req Out) (d : Dev) (run : s'.run d = s.run d) (calls : s'.calls = s.calls) :
    s'.current d = s.current d := by
  unfold Reactors.current Reactors.ticket
  rw [run, calls]

omit [DecidableEq Tid] in
theorem effect_same (s s' : Reactors Tid Dev σ Req Out) (d : Dev) (events : List (ReactorEvent Tid Dev Req Out))
    (run : s'.run d = s.run d) (calls : s'.calls = s.calls) (silent : ∀ e ∈ events, begunMark d e = none ∧ handledMark d e = none) :
    RunEffect s s' d events :=
  .still (List.filterMap_eq_nil_iff.mpr fun e member => (silent e member).1) (List.filterMap_eq_nil_iff.mpr fun e member => (silent e member).2)
    (current_of_run s s' d run calls) (by rw [run])

omit [DecidableEq Tid] in
-- A step of the reactor between two operations.
theorem effect_between (s s' : Reactors Tid Dev σ Req Out) (d e : Dev) (pc : RunAt Tid Dev) (events : List (ReactorEvent Tid Dev Req Out))
    (run : s'.run = Function.update s.run d pc) (calls : s'.calls = s.calls) (silent : ∀ f ∈ events, begunMark e f = none ∧ handledMark e f = none)
    (free : ∀ m t rc after, s.run d ≠ .storing m t rc after) (free' : ∀ m t rc after, pc ≠ .storing m t rc after)
    (mode : pc.mode = .serving ↔ (s.run d).mode = .serving) : RunEffect s s' e events := by
  by_cases same : e = d
  · subst same
    have here : s'.run e = pc := by rw [run, Function.update_self]
    refine .still (List.filterMap_eq_nil_iff.mpr fun f member => (silent f member).1)
      (List.filterMap_eq_nil_iff.mpr fun f member => (silent f member).2) ?_ (by rw [here]; exact mode)
    unfold Reactors.current
    rw [here]
    cases was : s.run e <;> cases is_ : pc <;> first | rfl | exact absurd was (free _ _ _ _) | exact absurd is_ (free' _ _ _ _)
  · exact effect_same s s' e events (by rw [run, Function.update_of_ne same]) calls silent

omit [DecidableEq Tid] in
theorem effect_notified (s s' : Reactors Tid Dev σ Req Out) (d e : Dev) (run : s'.run = Function.update s.run d (s.run d).notified)
    (calls : s'.calls = s.calls) : RunEffect s s' e ([] : List (ReactorEvent Tid Dev Req Out)) := by
  by_cases waits : s.run d = .asleep
  · exact effect_between s s' d e (s.run d).notified [] run calls nofun (by rw [waits]; nofun) (by rw [waits]; nofun) (by rw [waits]; rfl)
  · have still : (s.run d).notified = s.run d := by
      cases at_ : s.run d <;> first | rfl | exact absurd at_ waits
    rw [still, Function.update_eq_self] at run
    exact effect_same s s' e [] (by rw [run]) calls nofun

omit [DecidableEq Tid] in
theorem silent_none (e : Dev) : ∀ f ∈ ([] : List (ReactorEvent Tid Dev Req Out)), begunMark e f = none ∧ handledMark e f = none := nofun

section Steps

variable (service : Service σ Req Out) (admits : Dev → Req → Prop)

theorem effect_step (s s' : Reactors Tid Dev σ Req Out) (a : ReactorActor Tid Dev) (events : List (ReactorEvent Tid Dev Req Out))
    (stack batch : Line Tid Dev) (queued : Queued s stack batch) (step : ReactorStep service admits s a events s') (e : Dev) :
    RunEffect s s' e events := by
  have none_ : ∀ f ∈ ([] : List (ReactorEvent Tid Dev Req Out)), begunMark e f = none ∧ handledMark e f = none := silent_none e
  cases step with
  | call t d req rest admitted =>
      refine .still rfl rfl ?_ Iff.rfl
      unfold Reactors.current
      simp only [Reactors.goCaller, Reactors.link]
      split
      · rename_i m u rc after at_
        have other : u ≠ t := by
          rintro rfl
          have hand := queued.hand e
          rw [at_] at hand
          obtain ⟨items, shape, _⟩ := hand
          refine prepared_off s stack batch u queued (by rw [rest]; rfl) e ?_
          rw [line, shape]
          simp
        simp only [Reactors.ticket, Function.update_of_ne other]
      · rfl
  | caller t there moves => exact effect_same _ _ e _ rfl rfl none_
  | load t d cur at_ => exact effect_same _ _ e _ rfl rfl none_
  | push t d cur old at_ same => exact effect_same _ _ e _ rfl rfl fun f member => by cases List.mem_singleton.mp member; exact ⟨rfl, rfl⟩
  | notifyInbox t d cur at_ => exact effect_notified s _ d e rfl rfl
  | ret t d at_ => exact effect_same _ _ e _ rfl rfl fun f member => by cases List.mem_singleton.mp member; exact ⟨rfl, rfl⟩
  | stop d rest => exact effect_same _ _ e _ rfl rfl none_
  | loadStop d at_ => exact effect_same _ _ e _ rfl rfl none_
  | pushStop d old at_ same => exact effect_same _ _ e _ rfl rfl fun f member => by cases List.mem_singleton.mp member; exact ⟨rfl, rfl⟩
  | notifyStop d at_ => exact effect_notified s _ d e rfl rfl
  | join d at_ gone => exact effect_same _ _ e _ rfl rfl none_
  | run d there moves =>
      refine effect_between s _ d e there _ rfl rfl none_ ?_ ?_ ?_
      · intro m t rc after at_
        rw [at_] at moves
        cases moves
      · intro m t rc after at_
        subst at_
        generalize s.run d = pc at moves
        cases moves
      · generalize s.run d = pc at moves
        cases moves <;> exact Iff.rfl
  | drain d at_ some_ => exact effect_between s _ d e _ _ rfl rfl none_ (by rw [at_]; simp) (by simp) (by rw [at_]; rfl)
  | lastDrain d at_ =>
      exact effect_between s _ d e _ _ rfl rfl (fun f member => by cases List.mem_singleton.mp member; exact ⟨rfl, rfl⟩) (by rw [at_]; simp)
        (by simp) (by rw [at_]; simp [RunAt.mode])
  | reverse d mode prev head at_ => exact effect_between s _ d e _ _ rfl rfl none_ (by rw [at_]; simp) (by simp) (by rw [at_]; rfl)
  | execute d t next rc out after at_ serves =>
      by_cases same : e = d
      · subst same
        refine .executes (s.ticket t) ?_ rfl ?_ ?_ (by rw [at_]; rfl) ?_
        · exact filter_map_one _ _ _ (if_pos rfl)
        · simp only [Reactors.current, at_]
        · simp only [Reactors.current, Reactors.goRun, Function.update_self]
          rfl
        · simp only [Reactors.goRun, Function.update_self]
          rfl
      · exact effect_same _ _ e _ (Function.update_of_ne same _ _) rfl fun f member => by
          cases List.mem_singleton.mp member
          exact ⟨if_neg (Ne.symm same), rfl⟩
  | close d f next at_ =>
      by_cases same : e = d
      · subst same
        refine .closes ?_ ?_ ?_ ?_ (by rw [at_]; rfl) ?_
        · exact filter_map_one _ _ _ (if_pos rfl)
        · exact filter_map_one _ _ _ (if_pos rfl)
        · simp only [Reactors.current, at_]
        · simp only [Reactors.current, Reactors.goRun, Function.update_self]
        · simp [Reactors.goRun, RunAt.mode]
      · exact effect_same _ _ e _ (Function.update_of_ne same _ _) rfl fun f member => by
          cases List.mem_singleton.mp member
          exact ⟨if_neg (Ne.symm same), if_neg (Ne.symm same)⟩
  | refuse d mode t next at_ late =>
      by_cases same : e = d
      · subst same
        refine .refuses (s.ticket t) ?_ rfl ?_ ?_ (by rw [at_]; exact late) ?_
        · exact filter_map_one _ _ _ (if_pos rfl)
        · simp only [Reactors.current, at_]
        · simp only [Reactors.current, Reactors.goRun, Function.update_self]
          rfl
        · simp only [Reactors.goRun, Function.update_self]
          exact late
      · exact effect_same _ _ e _ (Function.update_of_ne same _ _) rfl fun f member => by
          cases List.mem_singleton.mp member
          exact ⟨if_neg (Ne.symm same), rfl⟩
  | store d mode t rc next at_ =>
      by_cases same : e = d
      · subst same
        refine .stores rfl ?_ ?_ ?_
        · simp only [Reactors.current, at_]
          exact filter_map_one _ _ _ (if_pos rfl)
        · simp only [Reactors.current, Reactors.goRun, Function.update_self]
        · simp only [Reactors.goRun, Function.update_self, at_]
          rfl
      · exact effect_same _ _ e _ (Function.update_of_ne same _ _) rfl fun f member => by
          cases List.mem_singleton.mp member
          exact ⟨rfl, if_neg (Ne.symm same)⟩
  | bump d mode w next at_ => exact effect_between s _ d e _ _ rfl rfl none_ (by rw [at_]; simp) (by simp) (by rw [at_]; rfl)
  | notify d mode w next at_ => exact effect_between s _ d e _ _ rfl rfl none_ (by rw [at_]; simp) (by simp) (by rw [at_]; rfl)

end Steps

-- What a step does to the call of one thread.
inductive CallEffect (admits : Dev → Req → Prop) (s s' : Reactors Tid Dev σ Req Out) (t : Tid) (events : List (ReactorEvent Tid Dev Req Out)) : Prop
  | still (preparing : (s'.caller t).preparing = (s.caller t).preparing) (submitted : (s'.caller t).submitted = (s.caller t).submitted)
      (calls : s'.calls t = s.calls t) (request : s'.request t = s.request t) (result : s'.result t = s.result t) (out : s'.out t = s.out t) :
      CallEffect admits s s' t events
  | calls (d : Dev) (req : Req) (idle : s.caller t = .idle) (at_ : s'.caller t = .called d) (calls : s'.calls t = s.calls t + 1)
      (request : s'.request t = req) (result : s'.result t = kOpPending) (event : events = [.called (s'.ticket t) d req]) (admitted : admits d req) :
      CallEffect admits s s' t events
  | pushes (d : Dev) (preparing : (s.caller t).preparing = some d) (submitted : (s'.caller t).preparing = none ∧ (s'.caller t).submitted = some d)
      (calls : s'.calls t = s.calls t) (request : s'.request t = s.request t) (result : s'.result t = s.result t)
      (event : events = [.pushed d (s.ticket t)]) : CallEffect admits s s' t events
  | executes (d : Dev) (rc : Rc) (next : Option (OpNode Tid Dev)) (taken : s.run d = .taken .serving (.call t) next)
      (run : s'.run d = .storing .serving t rc next) (caller : s'.caller = s.caller) (calls : s'.calls = s.calls) (request : s'.request = s.request)
      (result : s'.result = s.result) (event : events = [.executed d (s.ticket t) (s.request t) rc (s'.out t)]) : CallEffect admits s s' t events
  | stores (d : Dev) (mode : RunMode) (rc : Rc) (next : Option (OpNode Tid Dev)) (storing : s.run d = .storing mode t rc next)
      (caller : s'.caller = s.caller) (calls : s'.calls = s.calls) (request : s'.request = s.request) (result : s'.result t = rc)
      (out : s'.out = s.out) (event : events = [.stored d (s.ticket t) rc]) : CallEffect admits s s' t events
  | returns (d : Dev) (leaving : s.caller t = .leaving d) (idle : s'.caller t = .idle) (calls : s'.calls = s.calls)
      (event : events = [.returned (s.ticket t) (s.result t) (s.out t)]) : CallEffect admits s s' t events

omit [DecidableEq Tid] [DecidableEq Dev] in
theorem call_effect_same (admits : Dev → Req → Prop) (s s' : Reactors Tid Dev σ Req Out) (t : Tid) (events : List (ReactorEvent Tid Dev Req Out))
    (caller : s'.caller = s.caller) (calls : s'.calls = s.calls) (request : s'.request = s.request) (result : s'.result = s.result)
    (out : s'.out = s.out) : CallEffect admits s s' t events :=
  .still (by rw [caller]) (by rw [caller]) (by rw [calls]) (by rw [request]) (by rw [result]) (by rw [out])

-- A caller that moves on without a change that others could see.
omit [DecidableEq Dev] in
theorem call_effect_moved (admits : Dev → Req → Prop) (s s' : Reactors Tid Dev σ Req Out) (t u : Tid) (pc : CallerAt Tid Dev)
    (events : List (ReactorEvent Tid Dev Req Out)) (caller : s'.caller = Function.update s.caller t pc)
    (preparing : pc.preparing = (s.caller t).preparing) (submitted : pc.submitted = (s.caller t).submitted) (calls : s'.calls = s.calls)
    (request : s'.request = s.request) (result : s'.result = s.result) (out : s'.out = s.out) : CallEffect admits s s' u events := by
  refine .still ?_ ?_ (by rw [calls]) (by rw [request]) (by rw [result]) (by rw [out])
  all_goals
    rw [caller]
    by_cases same : u = t
    · subst same
      rw [Function.update_self]
      assumption
    · rw [Function.update_of_ne same]

section Effects

variable (service : Service σ Req Out) (admits : Dev → Req → Prop)

theorem call_effect_step (s s' : Reactors Tid Dev σ Req Out) (a : ReactorActor Tid Dev) (events : List (ReactorEvent Tid Dev Req Out))
    (step : ReactorStep service admits s a events s') (u : Tid) : CallEffect admits s s' u events := by
  cases step with
  | call t d req rest admitted =>
      by_cases same : u = t
      · subst same
        refine .calls d req rest ?_ ?_ ?_ ?_ ?_ admitted <;> simp [Reactors.goCaller, Reactors.link, Reactors.ticket]
      · refine .still ?_ ?_ ?_ ?_ ?_ ?_ <;> simp [Reactors.goCaller, Reactors.link, Function.update_of_ne same]
  | caller t there moves =>
      have kept : there.preparing = (s.caller t).preparing ∧ there.submitted = (s.caller t).submitted := by
        generalize s.caller t = pc at moves
        cases moves <;> exact ⟨rfl, rfl⟩
      exact call_effect_moved admits s _ t u there _ rfl kept.1 kept.2 rfl rfl rfl rfl
  | load t d cur at_ =>
      refine call_effect_moved admits s _ t u _ _ rfl ?_ ?_ rfl rfl rfl rfl
      · rcases at_ with at_ | ⟨old, at_⟩ <;> rw [at_] <;> rfl
      · rcases at_ with at_ | ⟨old, at_⟩ <;> rw [at_] <;> rfl
  | push t d cur old at_ same =>
      by_cases here : u = t
      · subst here
        refine .pushes d (by rw [at_]; rfl) ?_ rfl rfl rfl rfl
        simp [Reactors.goCaller, CallerAt.preparing, CallerAt.submitted]
      · refine .still ?_ ?_ rfl rfl rfl rfl <;> simp [Reactors.goCaller, Reactors.setInbox, Function.update_of_ne here]
  | notifyInbox t d cur at_ => exact call_effect_moved admits s _ t u _ _ rfl (by rw [at_]; rfl) (by rw [at_]; rfl) rfl rfl rfl rfl
  | ret t d at_ =>
      by_cases here : u = t
      · subst here
        exact .returns d at_ (Function.update_self _ _ _) rfl rfl
      · refine .still ?_ ?_ rfl rfl rfl rfl <;> simp [Reactors.goCaller, Function.update_of_ne here]
  | execute d t next rc out after at_ serves =>
      by_cases here : u = t
      · subst here
        refine .executes d rc next at_ (Function.update_self _ _ _) rfl rfl rfl rfl ?_
        simp [Reactors.goRun]
      · refine .still rfl rfl rfl rfl rfl ?_
        simp [Reactors.goRun, Function.update_of_ne here]
  | store d mode t rc next at_ =>
      by_cases here : u = t
      · subst here
        exact .stores d mode rc next at_ rfl rfl rfl (Function.update_self _ _ _) rfl rfl
      · refine .still rfl rfl rfl rfl ?_ rfl
        simp [Reactors.goRun, Function.update_of_ne here]
  | notify d mode w next at_ =>
      exact call_effect_moved admits s _ w u _ _ rfl (notified_preparing _) (notified_submitted _) rfl rfl rfl rfl
  | stop d rest => exact call_effect_same admits _ _ u _ rfl rfl rfl rfl rfl
  | loadStop d at_ => exact call_effect_same admits _ _ u _ rfl rfl rfl rfl rfl
  | pushStop d old at_ same => exact call_effect_same admits _ _ u _ rfl rfl rfl rfl rfl
  | notifyStop d at_ => exact call_effect_same admits _ _ u _ rfl rfl rfl rfl rfl
  | join d at_ gone => exact call_effect_same admits _ _ u _ rfl rfl rfl rfl rfl
  | run d there moves => exact call_effect_same admits _ _ u _ rfl rfl rfl rfl rfl
  | drain d at_ some_ => exact call_effect_same admits _ _ u _ rfl rfl rfl rfl rfl
  | lastDrain d at_ => exact call_effect_same admits _ _ u _ rfl rfl rfl rfl rfl
  | reverse d mode prev head at_ => exact call_effect_same admits _ _ u _ rfl rfl rfl rfl rfl
  | close d f next at_ => exact call_effect_same admits _ _ u _ rfl rfl rfl rfl rfl
  | refuse d mode t next at_ late => exact call_effect_same admits _ _ u _ rfl rfl rfl rfl rfl
  | bump d mode w next at_ => exact call_effect_same admits _ _ u _ rfl rfl rfl rfl rfl

-- What can be read off the events of a step.
theorem events_step (s s' : Reactors Tid Dev σ Req Out) (a : ReactorActor Tid Dev) (events : List (ReactorEvent Tid Dev Req Out))
    (step : ReactorStep service admits s a events s') : events = [] ∨ ∃ e, events = [e] ∧ match e with
      | .called _ _ _ => True
      | .pushed d c => ∃ t, c = s.ticket t ∧ (s.caller t).preparing = some d ∧ (s'.caller t).preparing = none ∧ s'.calls = s.calls
      | .stopped d => (s.stop d).pushed = false ∧ (s'.stop d).pushed = true
      | .executed d c req _ _ => ∃ t next, s.run d = .taken .serving (.call t) next ∧ c = s.ticket t ∧ req = s.request t
      | .closed _ => True
      | .refused d c => ∃ t mode next, s.run d = .taken mode (.call t) next ∧ mode ≠ .serving ∧ c = s.ticket t
      | .stored d c rc => ∃ t mode next, s.run d = .storing mode t rc next ∧ c = s.ticket t
      | .drained _ => True
      | .returned c rc out => ∃ t d, s.caller t = .leaving d ∧ c = s.ticket t ∧ rc = s.result t ∧ out = s.out t := by
  cases step with
  | call t d req rest admitted => exact .inr ⟨_, rfl, trivial⟩
  | push t d cur old at_ same =>
      exact .inr ⟨_, rfl, t, rfl, by rw [at_]; rfl, by simp [Reactors.goCaller, CallerAt.preparing], rfl⟩
  | ret t d at_ => exact .inr ⟨_, rfl, t, d, at_, rfl, rfl, rfl⟩
  | pushStop d old at_ same => exact .inr ⟨_, rfl, by rw [at_]; rfl, by simp [Reactors.goStop, StopAt.pushed]⟩
  | lastDrain d at_ => exact .inr ⟨_, rfl, trivial⟩
  | execute d t next rc out after at_ serves => exact .inr ⟨_, rfl, t, next, at_, rfl, rfl⟩
  | close d f next at_ => exact .inr ⟨_, rfl, trivial⟩
  | refuse d mode t next at_ late => exact .inr ⟨_, rfl, t, mode, next, at_, late, rfl⟩
  | store d mode t rc next at_ => exact .inr ⟨_, rfl, t, mode, next, at_, rfl⟩
  | _ => exact .inl rfl

-- A result on its way was there before, or has just been found.
theorem storing_step (s s' : Reactors Tid Dev σ Req Out) (a : ReactorActor Tid Dev) (events : List (ReactorEvent Tid Dev Req Out))
    (step : ReactorStep service admits s a events s') (e : Dev) (m : RunMode) (u : Tid) (rc : Rc) (next : Option (OpNode Tid Dev))
    (storing : s'.run e = .storing m u rc next) : s.run e = .storing m u rc next ∨
      (s.run e = .taken m (.call u) next ∧ (events = [.executed e (s.ticket u) (s.request u) rc (s'.out u)] ∨
        (events = [.refused e (s.ticket u)] ∧ rc = Err.kEngineNotOpen)) ∧ s'.calls = s.calls) := by
  have elsewhere (d : Dev) (pc : RunAt Tid Dev) (run : s'.run = Function.update s.run d pc) (free : pc ≠ .storing m u rc next) :
      s.run e = .storing m u rc next := by
    rw [run] at storing
    by_cases same : e = d
    · subst same
      rw [Function.update_self] at storing
      exact absurd storing free
    · rwa [Function.update_of_ne same] at storing
  cases step with
  | notifyInbox t d cur at_ =>
      by_cases same : s.run d = .storing m u rc next
      · by_cases here : e = d
        · exact .inl (here ▸ same)
        · exact .inl ((Function.update_of_ne here _ _).symm.trans storing)
      · exact .inl (elsewhere d _ rfl fun now => same (notified_storing _ _ _ _ _ now))
  | notifyStop d at_ =>
      by_cases same : s.run d = .storing m u rc next
      · by_cases here : e = d
        · exact .inl (here ▸ same)
        · exact .inl ((Function.update_of_ne here _ _).symm.trans storing)
      · exact .inl (elsewhere d _ rfl fun now => same (notified_storing _ _ _ _ _ now))
  | run d there moves =>
      refine .inl (elsewhere d there rfl fun now => ?_)
      subst now
      generalize s.run d = pc at moves
      cases moves
  | execute d t next' rc' out after at_ serves =>
      by_cases same : e = d
      · subst same
        have here : (.storing .serving t rc' next' : RunAt Tid Dev) = .storing m u rc next := (Function.update_self e _ _).symm.trans storing
        cases here
        exact .inr ⟨at_, .inl (by simp [Reactors.goRun]), rfl⟩
      · exact .inl ((Function.update_of_ne same _ _).symm.trans storing)
  | refuse d mode t next' at_ late =>
      by_cases same : e = d
      · subst same
        have here : (.storing mode t Err.kEngineNotOpen next' : RunAt Tid Dev) = .storing m u rc next :=
          (Function.update_self e _ _).symm.trans storing
        cases here
        exact .inr ⟨at_, .inr ⟨rfl, rfl⟩, rfl⟩
      · exact .inl ((Function.update_of_ne same _ _).symm.trans storing)
  | drain d at_ some_ => exact .inl (elsewhere d _ rfl (by simp))
  | lastDrain d at_ => exact .inl (elsewhere d _ rfl (by simp))
  | reverse d mode prev head at_ => exact .inl (elsewhere d _ rfl (by simp))
  | close d f next' at_ => exact .inl (elsewhere d _ rfl (by simp))
  | store d mode t rc' next' at_ => exact .inl (elsewhere d _ rfl (by simp))
  | bump d mode w next' at_ => exact .inl (elsewhere d _ rfl (by simp))
  | notify d mode w next' at_ => exact .inl (elsewhere d _ rfl (by simp))
  | _ => exact .inl storing

-- The last drain comes once.
theorem last_step (s s' : Reactors Tid Dev σ Req Out) (a : ReactorActor Tid Dev) (events : List (ReactorEvent Tid Dev Req Out))
    (step : ReactorStep service admits s a events s') (e : Dev) (last : (s'.run e).mode = .last) : (s.run e).mode = .last ∨
      (s'.inbox e = none ∧ events = [.drained e]) := by
  have elsewhere (d : Dev) (pc : RunAt Tid Dev) (run : s'.run = Function.update s.run d pc)
      (kept : pc.mode = .last → (s.run d).mode = .last) : (s.run e).mode = .last := by
    rw [run] at last
    by_cases same : e = d
    · subst same
      rw [Function.update_self] at last
      exact kept last
    · rwa [Function.update_of_ne same] at last
  cases step with
  | notifyInbox t d cur at_ => exact .inl (elsewhere d _ rfl fun now => (notified_mode _).symm.trans now)
  | notifyStop d at_ => exact .inl (elsewhere d _ rfl fun now => (notified_mode _).symm.trans now)
  | run d there moves =>
      refine .inl (elsewhere d there rfl fun now => ?_)
      generalize s.run d = pc at moves
      cases moves with
      | reversed mode prev => exact now
      | take mode op => exact now
      | ended => rfl
      | _ => cases now
  | drain d at_ some_ => exact .inl (elsewhere d _ rfl nofun)
  | lastDrain d at_ =>
      by_cases same : e = d
      · subst same
        exact .inr ⟨Function.update_self _ _ _, rfl⟩
      · exact .inl ((congrArg RunAt.mode (Function.update_of_ne same _ _)).symm.trans last)
  | reverse d mode prev head at_ => exact .inl (elsewhere d _ rfl fun now => by rw [at_]; exact now)
  | execute d t next rc out after at_ serves => exact .inl (elsewhere d _ rfl nofun)
  | close d f next at_ => exact .inl (elsewhere d _ rfl nofun)
  | refuse d mode t next at_ late => exact .inl (elsewhere d _ rfl fun now => by rw [at_]; exact now)
  | store d mode t rc next at_ => exact .inl (elsewhere d _ rfl fun now => by rw [at_]; exact now)
  | bump d mode w next at_ => exact .inl (elsewhere d _ rfl fun now => by rw [at_]; exact now)
  | notify d mode w next at_ => exact .inl (elsewhere d _ rfl fun now => by rw [at_]; exact now)
  | _ => exact .inl last

end Effects

-- Before Stop the operations are executed, and after it they are refused.
inductive Phases : List (Begun Tid) → RunMode → Prop
  | serving (ran : List (OpTicket Tid)) : Phases (ran.map .executed) .serving
  | stopped (ran gone : List (OpTicket Tid)) (mode : RunMode) (late : mode ≠ .serving) :
      Phases (ran.map .executed ++ .closed :: gone.map .refused) mode

-- An answer is the one that the operation gave, or says that it came too late.
def AnswerOf (trace : List (ReactorEvent Tid Dev Req Out)) (c : OpTicket Tid) (rc : Rc) (out : Out) : Prop :=
  (∃ d req, .executed d c req rc out ∈ trace) ∨ (rc = Err.kEngineNotOpen ∧ ∃ d, .refused d c ∈ trace)

def pushedCall : ReactorEvent Tid Dev Req Out → Option (OpTicket Tid)
  | .pushed _ c => some c
  | _ => none

-- What is so in every state, and why in that order: the lines tie the pushes to
-- the answers, and the calls tie the answers to what was asked.
structure Inboxed (admits : Dev → Req → Prop) (trace : List (ReactorEvent Tid Dev Req Out)) (s : Reactors Tid Dev σ Req Out)
    (stack batch : Line Tid Dev) : Prop where
  queued : Queued s stack batch
  order : ∀ d, pushedOn d trace = handledOn d trace ++ (line stack batch d).map s.item
  begun : ∀ d, (begunOn d trace).map Begun.item = handledOn d trace ++ s.current d
  phases : ∀ d, Phases (begunOn d trace) (s.run d).mode
  drained : ∀ d, (s.run d).mode = .last → ∃ front back, trace = front ++ .drained d :: back ∧
    pushedOn d front = handledOn d trace ++ (batch d).map s.item
  counted : ∀ d c, .pushed d c ∈ trace → c.2 ≤ s.calls c.1 ∧ (c.2 = s.calls c.1 → (s.caller c.1).preparing = none)
  stopped : ∀ d, .stopped d ∈ trace → (s.stop d).pushed = true
  once : (trace.filterMap pushedCall).Nodup
  onceOn : ∀ d, (pushedOn d trace).Nodup
  known : ∀ t d, ((s.caller t).preparing = some d ∨ (s.caller t).submitted = some d) →
    .called (s.ticket t) d (s.request t) ∈ trace ∧ admits d (s.request t)
  doing : ∀ d mode t rc next, s.run d = .storing mode t rc next → AnswerOf trace (s.ticket t) rc (s.out t)
  done : ∀ t d, (s.caller t).submitted = some d → s.result t ≠ kOpPending → AnswerOf trace (s.ticket t) (s.result t) (s.out t)

section Marks

omit [DecidableEq Tid]

theorem phases_mode (begun : List (Begun Tid)) (mode mode' : RunMode) (phases : Phases begun mode) (same : mode' = .serving ↔ mode = .serving) :
    Phases begun mode' := by
  cases phases with
  | serving ran =>
      rw [same.mpr rfl]
      exact .serving ran
  | stopped ran gone mode late => exact .stopped ran gone mode' fun serving => late (same.mp serving)

theorem phases_execute (begun : List (Begun Tid)) (mode : RunMode) (c : OpTicket Tid) (phases : Phases begun mode) (now : mode = .serving) :
    Phases (begun ++ [.executed c]) .serving := by
  cases phases with
  | serving ran =>
      have more := Phases.serving (ran ++ [c])
      rwa [List.map_append] at more
  | stopped ran gone mode late => exact absurd now late

theorem phases_close (begun : List (Begun Tid)) (mode mode' : RunMode) (phases : Phases begun mode) (now : mode = .serving)
    (late : mode' ≠ .serving) : Phases (begun ++ [.closed]) mode' := by
  cases phases with
  | serving ran => exact .stopped ran [] mode' late
  | stopped ran gone mode other => exact absurd now other

theorem phases_refuse (begun : List (Begun Tid)) (mode mode' : RunMode) (c : OpTicket Tid) (phases : Phases begun mode) (now : mode ≠ .serving)
    (late : mode' ≠ .serving) : Phases (begun ++ [.refused c]) mode' := by
  cases phases with
  | serving ran => exact absurd rfl now
  | stopped ran gone mode other =>
      have more := Phases.stopped ran (gone ++ [c]) mode' late
      rw [List.map_append] at more
      rw [List.append_assoc]
      exact more

theorem begun_append (d : Dev) (a b : List (ReactorEvent Tid Dev Req Out)) : begunOn d (a ++ b) = begunOn d a ++ begunOn d b :=
  List.filterMap_append

theorem handled_append (d : Dev) (a b : List (ReactorEvent Tid Dev Req Out)) : handledOn d (a ++ b) = handledOn d a ++ handledOn d b :=
  List.filterMap_append

theorem pushed_append (d : Dev) (a b : List (ReactorEvent Tid Dev Req Out)) : pushedOn d (a ++ b) = pushedOn d a ++ pushedOn d b :=
  List.filterMap_append

theorem mem_pushed_on (d : Dev) (trace : List (ReactorEvent Tid Dev Req Out)) (item : Option (OpTicket Tid)) (inside : item ∈ pushedOn d trace) :
    (∃ c, item = some c ∧ .pushed d c ∈ trace) ∨ (item = none ∧ .stopped d ∈ trace) := by
  obtain ⟨e, member, marked⟩ := List.mem_filterMap.mp inside
  cases e with
  | pushed g c =>
      simp only [pushedMark] at marked
      split at marked
      · rename_i here
        subst here
        cases marked
        exact .inl ⟨c, rfl, member⟩
      · cases marked
  | stopped g =>
      simp only [pushedMark] at marked
      split at marked
      · rename_i here
        subst here
        cases marked
        exact .inr ⟨rfl, member⟩
      · cases marked
  | _ => cases marked

omit [DecidableEq Dev] in
theorem mem_pushed_calls (trace : List (ReactorEvent Tid Dev Req Out)) (c : OpTicket Tid) (member : c ∈ trace.filterMap pushedCall) :
    ∃ d, .pushed d c ∈ trace := by
  obtain ⟨e, member, marked⟩ := List.mem_filterMap.mp member
  cases e with
  | pushed d c' =>
      cases marked
      exact ⟨d, member⟩
  | _ => cases marked

omit [DecidableEq Dev] in
theorem answer_later (trace more : List (ReactorEvent Tid Dev Req Out)) (c : OpTicket Tid) (rc : Rc) (out : Out)
    (answer : AnswerOf trace c rc out) : AnswerOf (trace ++ more) c rc out := by
  rcases answer with ⟨d, req, member⟩ | ⟨code, d, member⟩
  · exact .inl ⟨d, req, List.mem_append_left _ member⟩
  · exact .inr ⟨code, d, List.mem_append_left _ member⟩

-- A node that the reactor has taken or whose result it is about to store.
omit [DecidableEq Dev] in
theorem in_hand_line (s : Reactors Tid Dev σ Req Out) (stack batch : Line Tid Dev) (queued : Queued s stack batch) (d : Dev) (t : Tid)
    (at_ : (∃ mode next, s.run d = .taken mode (.call t) next) ∨ ∃ mode rc next, s.run d = .storing mode t rc next) :
    .call t ∈ line stack batch d := by
  have hand := queued.hand d
  rcases at_ with ⟨mode, next, at_⟩ | ⟨mode, rc, next, at_⟩
  all_goals
    rw [at_] at hand
    obtain ⟨rest, shape, _⟩ := hand
    rw [line, shape]
    exact List.mem_append_left _ List.mem_cons_self

end Marks

section Kept

variable (service : Service σ Req Out) (admits : Dev → Req → Prop) (trace : List (ReactorEvent Tid Dev Req Out)) (s s' : Reactors Tid Dev σ Req Out)
  (a : ReactorActor Tid Dev) (events : List (ReactorEvent Tid Dev Req Out)) (stack batch : Line Tid Dev)

theorem begun_kept (inv : Inboxed admits trace s stack batch) (step : ReactorStep service admits s a events s') (d : Dev) :
    (begunOn d (trace ++ events)).map Begun.item = handledOn d (trace ++ events) ++ s'.current d ∧
      Phases (begunOn d (trace ++ events)) (s'.run d).mode := by
  have begun := inv.begun d
  have phases := inv.phases d
  rw [begun_append, handled_append, List.map_append, begun]
  cases effect_step service admits s s' a events stack batch inv.queued step d with
  | still none_ handled current mode =>
      rw [none_, handled, current, List.map_nil, List.append_nil, List.append_nil, List.append_nil]
      exact ⟨rfl, phases_mode _ _ _ phases mode⟩
  | executes c one handled free current mode mode' =>
      rw [one, handled, free, current, List.append_nil, mode']
      exact ⟨rfl, phases_execute _ _ c phases mode⟩
  | refuses c one handled free current mode mode' =>
      rw [one, handled, free, current, List.append_nil]
      exact ⟨rfl, phases_refuse _ _ _ c phases mode mode'⟩
  | closes one handled free current mode mode' =>
      rw [one, handled, free, current, List.append_nil, List.append_nil]
      exact ⟨rfl, phases_close _ _ _ phases mode mode'⟩
  | stores none_ handled current mode =>
      rw [none_, handled, current, List.map_nil, List.append_nil, List.append_nil]
      exact ⟨rfl, phases_mode _ _ _ phases mode⟩

theorem drained_kept (inv : Inboxed admits trace s stack batch) (step : ReactorStep service admits s a events s') (stack' batch' : Line Tid Dev)
    (queued : Queued s' stack' batch') (advances : Advances s s' stack batch stack' batch' events) (d : Dev) (last : (s'.run d).mode = .last) :
    ∃ front back, trace ++ events = front ++ .drained d :: back ∧
      pushedOn d front = handledOn d (trace ++ events) ++ (batch' d).map s'.item := by
  rcases last_step service admits s s' a events step d last with before | ⟨empty, now⟩
  · obtain ⟨front, back, split, order⟩ := inv.drained d before
    refine ⟨front, back ++ events, by rw [split, List.append_assoc, List.cons_append], ?_⟩
    rw [order, handled_append, List.append_assoc, advances.hand d before]
  · have chain := queued.inbox d
    rw [empty] at chain
    have none_ := chain_end s'.next _ chain
    have lines := advances.line d
    rw [line, none_, List.reverse_nil, List.append_nil, now] at lines
    refine ⟨trace, [], by rw [now], ?_⟩
    rw [now, handled_append, inv.order d, List.append_assoc, lines, pushedOn, List.filterMap_cons_none rfl, List.filterMap_nil, List.append_nil]

theorem counted_kept (inv : Inboxed admits trace s stack batch) (step : ReactorStep service admits s a events s') (d : Dev) (c : OpTicket Tid)
    (member : .pushed d c ∈ trace ++ events) : c.2 ≤ s'.calls c.1 ∧ (c.2 = s'.calls c.1 → (s'.caller c.1).preparing = none) := by
  rcases List.mem_append.mp member with old | new
  · obtain ⟨few, prepared⟩ := inv.counted d c old
    cases call_effect_step service admits s s' a events step c.1 with
    | still preparing submitted calls request result out =>
        rw [calls, preparing]
        exact ⟨few, prepared⟩
    | calls e req idle at_ calls request result event admitted =>
        rw [calls]
        exact ⟨by omega, by omega⟩
    | pushes e preparing submitted calls request result event =>
        rw [calls]
        exact ⟨few, fun _ => submitted.1⟩
    | executes e rc next taken run caller calls request result event =>
        rw [calls, caller]
        exact ⟨few, prepared⟩
    | stores e mode rc next storing caller calls request result out event =>
        rw [calls, caller]
        exact ⟨few, prepared⟩
    | returns e leaving idle calls event =>
        rw [calls, idle]
        exact ⟨few, fun _ => rfl⟩
  · rcases events_step service admits s s' a events step with rfl | ⟨e, rfl, seen⟩
    · cases new
    · cases List.mem_singleton.mp new
      obtain ⟨t, rfl, preparing, after, calls⟩ := seen
      rw [calls]
      exact ⟨Nat.le_refl _, fun _ => after⟩

theorem stop_pushed_step (step : ReactorStep service admits s a events s') (d : Dev) (pushed : (s.stop d).pushed = true) :
    (s'.stop d).pushed = true := by
  have elsewhere (e : Dev) (pc : StopAt Tid Dev) (stop : s'.stop = Function.update s.stop e pc)
      (kept : (s.stop e).pushed = true → pc.pushed = true) : (s'.stop d).pushed = true := by
    rw [stop]
    by_cases same : d = e
    · subst same
      rw [Function.update_self]
      exact kept pushed
    · rwa [Function.update_of_ne same]
  cases step with
  | stop e rest => exact elsewhere e _ rfl (by rw [rest]; nofun)
  | loadStop e at_ => exact elsewhere e _ rfl (by rcases at_ with at_ | ⟨old, at_⟩ <;> rw [at_] <;> nofun)
  | pushStop e old at_ same => exact elsewhere e _ rfl fun _ => rfl
  | notifyStop e at_ => exact elsewhere e _ rfl fun _ => rfl
  | join e at_ gone => exact elsewhere e _ rfl fun _ => rfl
  | _ => exact pushed

theorem stopped_kept (inv : Inboxed admits trace s stack batch) (step : ReactorStep service admits s a events s') (d : Dev)
    (member : .stopped d ∈ trace ++ events) : (s'.stop d).pushed = true := by
  rcases List.mem_append.mp member with old | new
  · exact stop_pushed_step service admits s s' a events step d (inv.stopped d old)
  · rcases events_step service admits s s' a events step with rfl | ⟨e, rfl, seen⟩
    · cases new
    · cases List.mem_singleton.mp new
      exact seen.2

theorem once_kept (inv : Inboxed admits trace s stack batch) (step : ReactorStep service admits s a events s') :
    ((trace ++ events).filterMap pushedCall).Nodup ∧ ∀ d, (pushedOn d (trace ++ events)).Nodup := by
  rcases events_step service admits s s' a events step with rfl | ⟨e, rfl, seen⟩
  · rw [List.append_nil]
    exact ⟨inv.once, inv.onceOn⟩
  -- A ticket that is pushed now was not pushed before, to any reactor.
  have fresh (d : Dev) (c : OpTicket Tid) (now : e = .pushed d c) (f : Dev) : .pushed f c ∉ trace := by
    subst now
    obtain ⟨t, rfl, preparing, _, _⟩ := seen
    intro before
    have settled := (inv.counted f _ before).2 rfl
    rw [show ((s.ticket t).1 : Tid) = t from rfl, preparing] at settled
    cases settled
  have freshStop (d : Dev) (now : e = .stopped d) : .stopped d ∉ trace := by
    subst now
    intro before
    have pushed := inv.stopped d before
    rw [seen.1] at pushed
    cases pushed
  constructor
  · rw [List.filterMap_append]
    cases marked : pushedCall e with
    | none =>
        rw [List.filterMap_cons_none marked, List.filterMap_nil, List.append_nil]
        exact inv.once
    | some c =>
        rw [filter_map_one _ _ _ marked]
        refine inv.once.append (List.nodup_singleton c) fun other before only => ?_
        obtain ⟨f, member⟩ := mem_pushed_calls trace other before
        rw [List.mem_singleton.mp only] at member
        cases e with
        | pushed d c' =>
            cases marked
            exact fresh d c rfl f member
        | _ => cases marked
  · intro d
    rw [pushed_append]
    cases marked : pushedMark d e with
    | none =>
        rw [pushedOn, pushedOn, List.filterMap_cons_none marked, List.filterMap_nil, List.append_nil]
        exact inv.onceOn d
    | some item =>
        have only : pushedOn d [e] = [item] := filter_map_one _ _ _ marked
        rw [only]
        refine (inv.onceOn d).append (List.nodup_singleton item) fun other before same => ?_
        rw [List.mem_singleton.mp same] at before
        have now := mem_pushed_on d [e] item (by rw [only]; exact List.mem_singleton_self item)
        rcases now with ⟨c, rfl, here⟩ | ⟨rfl, here⟩
        · rcases mem_pushed_on d trace _ before with ⟨c', equal, member⟩ | ⟨no, _⟩
          · cases equal
            exact fresh d c (List.mem_singleton.mp here).symm d member
          · cases no
        · rcases mem_pushed_on d trace _ before with ⟨c', no, _⟩ | ⟨_, member⟩
          · cases no
          · exact freshStop d (List.mem_singleton.mp here).symm member

theorem known_kept (inv : Inboxed admits trace s stack batch) (step : ReactorStep service admits s a events s') (t : Tid) (d : Dev)
    (bound : (s'.caller t).preparing = some d ∨ (s'.caller t).submitted = some d) :
    .called (s'.ticket t) d (s'.request t) ∈ trace ++ events ∧ admits d (s'.request t) := by
  have same (calls : s'.calls t = s.calls t) (request : s'.request t = s.request t)
      (before : (s.caller t).preparing = some d ∨ (s.caller t).submitted = some d) :
      .called (s'.ticket t) d (s'.request t) ∈ trace ++ events ∧ admits d (s'.request t) := by
    rw [Reactors.ticket, calls, request]
    exact ⟨List.mem_append_left _ (inv.known t d before).1, (inv.known t d before).2⟩
  cases call_effect_step service admits s s' a events step t with
  | still preparing submitted calls request result out => exact same calls request (by rwa [preparing, submitted] at bound)
  | calls e req idle at_ calls request result event admitted =>
      have here : e = d := by
        rw [at_] at bound
        exact bound.elim Option.some.inj nofun
      subst here
      rw [event, request]
      exact ⟨List.mem_append_right _ List.mem_cons_self, admitted⟩
  | pushes e preparing submitted calls request result event =>
      refine same calls request (.inl ?_)
      rw [submitted.1, submitted.2] at bound
      exact preparing.trans (bound.resolve_left nofun)
  | executes e rc next taken run caller calls request result event => exact same (by rw [calls]) (by rw [request]) (by rwa [caller] at bound)
  | stores e mode rc next storing caller calls request result out event =>
      exact same (by rw [calls]) (by rw [request]) (by rwa [caller] at bound)
  | returns e leaving idle calls event =>
      rw [idle] at bound
      cases bound <;> contradiction

theorem doing_kept (inv : Inboxed admits trace s stack batch) (step : ReactorStep service admits s a events s') (d : Dev) (mode : RunMode) (t : Tid)
    (rc : Rc) (next : Option (OpNode Tid Dev)) (storing : s'.run d = .storing mode t rc next) :
    AnswerOf (trace ++ events) (s'.ticket t) rc (s'.out t) := by
  rcases storing_step service admits s s' a events step d mode t rc next storing with before | ⟨taken, now, calls⟩
  · have here := in_hand_line s stack batch inv.queued d t (.inr ⟨mode, rc, next, before⟩)
    obtain ⟨submitted, pending⟩ := (inv.queued.calls d t).mp here
    have answer := answer_later trace events _ _ _ (inv.doing d mode t rc next before)
    cases call_effect_step service admits s s' a events step t with
    | still preparing submitted calls request result out =>
        rw [Reactors.ticket, calls, out]
        exact answer
    | calls e req idle at_ calls request result event admitted =>
        rw [idle] at submitted
        cases submitted
    | pushes e preparing submitted' calls request result event =>
        rw [submitted_unprepared _ _ preparing] at submitted
        cases submitted
    | executes e rc' next' taken run caller calls request result event =>
        have there := in_hand_line s stack batch inv.queued e t (.inl ⟨_, _, taken⟩)
        rw [line_apart s stack batch inv.queued _ e d there here, before] at taken
        cases taken
    | stores e mode rc' next' storing caller calls request result out event =>
        rw [Reactors.ticket, calls, out]
        exact answer
    | returns e leaving idle calls event => exact absurd pending (inv.queued.left t e leaving)
  · rw [Reactors.ticket, calls]
    rcases now with event | ⟨event, code⟩
    · rw [event]
      exact .inl ⟨d, s.request t, List.mem_append_right _ List.mem_cons_self⟩
    · rw [event]
      exact .inr ⟨code, d, List.mem_append_right _ List.mem_cons_self⟩

theorem done_kept (inv : Inboxed admits trace s stack batch) (step : ReactorStep service admits s a events s') (t : Tid) (d : Dev)
    (submitted : (s'.caller t).submitted = some d) (final : s'.result t ≠ kOpPending) :
    AnswerOf (trace ++ events) (s'.ticket t) (s'.result t) (s'.out t) := by
  cases call_effect_step service admits s s' a events step t with
  | still preparing sameSubmitted calls request result out =>
      rw [Reactors.ticket, calls, result, out]
      rw [sameSubmitted] at submitted
      rw [result] at final
      exact answer_later _ _ _ _ _ (inv.done t d submitted final)
  | calls e req idle at_ calls request result event admitted => exact absurd result final
  | pushes e preparing submitted' calls request result event =>
      rw [result] at final
      exact absurd (inv.queued.fresh t e preparing) final
  | executes e rc next taken run caller calls request result event =>
      have there := in_hand_line s stack batch inv.queued e t (.inl ⟨_, _, taken⟩)
      rw [result] at final
      exact absurd ((inv.queued.calls e t).mp there).2 final
  | stores e mode rc next storing caller calls request result out event =>
      rw [Reactors.ticket, calls, result, out]
      exact answer_later _ _ _ _ _ (inv.doing e mode t rc next storing)
  | returns e leaving idle calls event =>
      rw [idle] at submitted
      cases submitted

theorem inboxed_step (inv : Inboxed admits trace s stack batch) (step : ReactorStep service admits s a events s') :
    ∃ stack' batch', Inboxed admits (trace ++ events) s' stack' batch' := by
  obtain ⟨stack', batch', queued, advances⟩ := queued_step service admits s s' a events stack batch inv.queued step
  have begun := begun_kept service admits trace s s' a events stack batch inv step
  have once := once_kept service admits trace s s' a events stack batch inv step
  refine ⟨stack', batch', queued, fun d => ?_, fun d => (begun d).1, fun d => (begun d).2,
    drained_kept service admits trace s s' a events stack batch inv step stack' batch' queued advances,
    counted_kept service admits trace s s' a events stack batch inv step, stopped_kept service admits trace s s' a events stack batch inv step,
    once.1, once.2, known_kept service admits trace s s' a events stack batch inv step,
    doing_kept service admits trace s s' a events stack batch inv step, done_kept service admits trace s s' a events stack batch inv step⟩
  rw [pushed_append, handled_append, inv.order d, List.append_assoc, List.append_assoc, advances.line d]

end Kept

theorem inboxed_start (admits : Dev → Req → Prop) (service : Service σ Req Out) (s : Reactors Tid Dev σ Req Out)
    (start : (reactorMachine service admits).start s) : Inboxed admits [] s (fun _ => []) fun _ => [] := by
  obtain ⟨inbox, caller, stop, run⟩ := start
  have queued : Queued s (fun _ => []) fun _ => [] := by
    refine ⟨fun d => inbox d, fun d => ?_, fun d => .nil, fun d t => ?_, fun d e => ?_, fun t d at_ => ?_,
      fun t d at_ => ?_, fun t d cur old at_ => ?_,
      fun d old at_ => ?_, fun d mode t rc after at_ => ?_, fun d late => ?_⟩
    · rw [run]
      rfl
    · exact iff_of_false nofun fun h => by rw [caller] at h; cases h.1
    · exact iff_of_false nofun fun h => by rw [stop] at h; cases h.2.1
    · rw [caller] at at_
      cases at_
    · rw [caller] at at_
      cases at_
    · rw [caller] at at_
      cases at_
    · rw [stop] at at_
      cases at_
    · rw [run] at at_
      cases at_
    · rw [run] at late
      exact absurd rfl late
  refine ⟨queued, fun d => rfl, fun d => ?_, fun d => ?_, fun d last => ?_, nofun, nofun, .nil, fun d => .nil, fun t d bound => ?_,
    fun d mode t rc next at_ => ?_, fun t d submitted => ?_⟩
  · unfold Reactors.current
    rw [run]
    rfl
  · rw [run]
    exact .serving []
  · rw [run] at last
    cases last
  · rw [caller] at bound
    cases bound <;> contradiction
  · rw [run] at at_
    cases at_
  · rw [caller] at submitted
    cases submitted

theorem inboxed_run (admits : Dev → Req → Prop) (service : Service σ Req Out) (trace : List (ReactorEvent Tid Dev Req Out))
    (s : Reactors Tid Dev σ Req Out) (run : (reactorMachine service admits).Run trace s) : ∃ stack batch, Inboxed admits trace s stack batch :=
  run_invariant (reactorMachine service admits) (fun trace s => ∃ stack batch, Inboxed admits trace s stack batch)
    (fun s start => ⟨_, _, inboxed_start admits service s start⟩)
    (fun trace s a events s' ⟨stack, batch, inv⟩ step => inboxed_step service admits trace s s' a events stack batch inv step) trace s run

-- Why an event of a history is right: by what was asked and answered before it.
def Justified (admits : Dev → Req → Prop) (event : ReactorEvent Tid Dev Req Out) (front : List (ReactorEvent Tid Dev Req Out)) : Prop :=
  match event with
  | .executed d c req _ _ => .called c d req ∈ front ∧ admits d req ∧ ∀ e, some c ∉ (begunOn e front).map Begun.item
  | .refused d c => (∃ req, .called c d req ∈ front) ∧ .closed d ∈ front ∧ ∀ e, some c ∉ (begunOn e front).map Begun.item
  | .stored _ c rc => ∃ out, AnswerOf front c rc out
  | .returned c rc out => AnswerOf front c rc out
  | _ => True

omit [DecidableEq Tid] in
theorem line_pushed (admits : Dev → Req → Prop) (trace : List (ReactorEvent Tid Dev Req Out)) (s : Reactors Tid Dev σ Req Out)
    (stack batch : Line Tid Dev) (inv : Inboxed admits trace s stack batch) (d : Dev) (t : Tid) (inside : .call t ∈ line stack batch d) :
    .pushed d (s.ticket t) ∈ trace := by
  have member : some (s.ticket t) ∈ pushedOn d trace := by
    rw [inv.order d]
    exact List.mem_append_right _ (List.mem_map.mpr ⟨_, inside, rfl⟩)
  rcases mem_pushed_on d trace _ member with ⟨c, same, here⟩ | ⟨no, _⟩
  · cases same
    exact here
  · cases no

-- The operations begin in the order of their pushes.
omit [DecidableEq Tid] in
theorem begun_prefix (admits : Dev → Req → Prop) (trace : List (ReactorEvent Tid Dev Req Out)) (s : Reactors Tid Dev σ Req Out)
    (stack batch : Line Tid Dev) (inv : Inboxed admits trace s stack batch) (d : Dev) :
    (begunOn d trace).map Begun.item <+: pushedOn d trace := by
  rw [inv.begun d, inv.order d]
  unfold Reactors.current
  have hand := inv.queued.hand d
  split
  · rename_i m u rc after storing
    rw [storing] at hand
    obtain ⟨rest, shape, _⟩ := hand
    exact ⟨rest.map s.item ++ (stack d).reverse.map s.item, by rw [line, shape]; simp [Reactors.item]⟩
  · exact ⟨(line stack batch d).map s.item, by rw [List.append_nil]⟩

omit [DecidableEq Tid] in
-- An operation that the reactor comes to has not begun on any reactor.
theorem taken_fresh (admits : Dev → Req → Prop) (trace : List (ReactorEvent Tid Dev Req Out)) (s : Reactors Tid Dev σ Req Out)
    (stack batch : Line Tid Dev) (inv : Inboxed admits trace s stack batch) (d : Dev) (mode : RunMode) (t : Tid) (next : Option (OpNode Tid Dev))
    (taken : s.run d = .taken mode (.call t) next) (e : Dev) : some (s.ticket t) ∉ (begunOn e trace).map Begun.item := by
  intro begun
  have here := in_hand_line s stack batch inv.queued d t (.inl ⟨mode, next, taken⟩)
  have there : .pushed e (s.ticket t) ∈ trace := by
    rcases mem_pushed_on e trace _ (( begun_prefix admits trace s stack batch inv e).subset begun) with ⟨c, same, here⟩ | ⟨no, _⟩
    · cases same
      exact here
    · cases no
  have same := marked_once pushedCall trace inv.once _ _ (s.ticket t) there (line_pushed admits trace s stack batch inv d t here) rfl rfl
  have equal : e = d := (ReactorEvent.pushed.inj same).1
  subst equal
  have none_ : s.current e = [] := by
    unfold Reactors.current
    rw [taken]
  have once := inv.onceOn e
  rw [inv.begun e, none_, List.append_nil] at begun
  rw [inv.order e] at once
  exact (List.nodup_append.mp once).2.2 _ begun _ (List.mem_map.mpr ⟨_, here, rfl⟩) rfl

theorem justified_step (service : Service σ Req Out) (admits : Dev → Req → Prop) (trace : List (ReactorEvent Tid Dev Req Out))
    (s s' : Reactors Tid Dev σ Req Out) (a : ReactorActor Tid Dev) (events : List (ReactorEvent Tid Dev Req Out)) (stack batch : Line Tid Dev)
    (inv : Inboxed admits trace s stack batch) (step : ReactorStep service admits s a events s') :
    events = [] ∨ ∃ e, events = [e] ∧ Justified admits e trace := by
  rcases events_step service admits s s' a events step with none_ | ⟨e, one, seen⟩
  · exact .inl none_
  refine .inr ⟨e, one, ?_⟩
  cases e with
  | executed d c req rc out =>
      obtain ⟨t, next, taken, rfl, rfl⟩ := seen
      have here := in_hand_line s stack batch inv.queued d t (.inl ⟨_, _, taken⟩)
      obtain ⟨called, admitted⟩ := inv.known t d (.inr ((inv.queued.calls d t).mp here).1)
      exact ⟨called, admitted, taken_fresh admits trace s stack batch inv d _ t next taken⟩
  | refused d c =>
      obtain ⟨t, mode, next, taken, late, rfl⟩ := seen
      have here := in_hand_line s stack batch inv.queued d t (.inl ⟨_, _, taken⟩)
      refine ⟨⟨_, (inv.known t d (.inr ((inv.queued.calls d t).mp here).1)).1⟩, ?_,
        taken_fresh admits trace s stack batch inv d mode t next taken⟩
      have phases := inv.phases d
      rw [taken] at phases
      have closed : Begun.closed ∈ begunOn d trace := by
        generalize begunOn d trace = begun at phases
        cases phases with
        | serving ran => exact absurd rfl late
        | stopped ran gone _ _ => simp
      obtain ⟨e, member, marked⟩ := List.mem_filterMap.mp closed
      cases e with
      | closed f =>
          simp only [begunMark] at marked
          split at marked
          · rename_i same
            rwa [← same]
          · cases marked
      | executed f c req rc out =>
          simp only [begunMark] at marked
          split at marked <;> cases marked
      | refused f c =>
          simp only [begunMark] at marked
          split at marked <;> cases marked
      | _ => cases marked
  | stored d c rc =>
      obtain ⟨t, mode, next, storing, rfl⟩ := seen
      exact ⟨_, inv.doing d mode t rc next storing⟩
  | returned c rc out =>
      obtain ⟨t, d, leaving, rfl, rfl, rfl⟩ := seen
      exact inv.done t d (by rw [leaving]; rfl) (inv.queued.left t d leaving)
  | _ => trivial

-- What the inboxes promise, for any number of callers and reactors and whatever
-- the order of their steps.
structure ExactlyOnce (admits : Dev → Req → Prop) (trace : List (ReactorEvent Tid Dev Req Out)) (s : Reactors Tid Dev σ Req Out) : Prop where
  once : (trace.filterMap pushedCall).Nodup
  order : ∀ d, (begunOn d trace).map Begun.item <+: pushedOn d trace
  answered : ∀ d, handledOn d trace <+: pushedOn d trace
  phases : ∀ d, Phases (begunOn d trace) (s.run d).mode
  caused : Caused (Justified admits) trace
  gone : ∀ d, s.run d = .exited → ∃ front back, trace = front ++ .drained d :: back ∧ handledOn d trace = pushedOn d front
  untouched : ∃ batch : Line Tid Dev, (∀ d, Carries s.next (s.run d) (batch d)) ∧
    ∀ d t, .call t ∈ batch d → (s.caller t).submitted = some d ∧ s.result t = kOpPending

-- Every call is executed or refused at most once, in the order in which the calls
-- reached the inbox, and what is returned is what the operation gave. Once Stop is
-- through, all that came in before the last drain has its answer. The nodes that a
-- reactor may still follow are those of calls without a result.
theorem inbox_exactly_once (service : Service σ Req Out) (admits : Dev → Req → Prop) (trace : List (ReactorEvent Tid Dev Req Out))
    (s : Reactors Tid Dev σ Req Out) (run : (reactorMachine service admits).Run trace s) : ExactlyOnce admits trace s := by
  obtain ⟨stack, batch, inv⟩ := inboxed_run admits service trace s run
  refine ⟨inv.once, begun_prefix admits trace s stack batch inv, fun d => ⟨_, (inv.order d).symm⟩, inv.phases, ?_,
    fun d exited => ?_, batch, inv.queued.hand, fun d t inside => ?_⟩
  · exact run_caused (reactorMachine service admits) (Justified admits) (fun trace s => ∃ stack batch, Inboxed admits trace s stack batch)
      (fun trace s run => inboxed_run admits service trace s run)
      (fun trace s a events s' ⟨stack, batch, inv⟩ step => justified_step service admits trace s s' a events stack batch inv step) trace s run
  · obtain ⟨front, back, split, order⟩ := inv.drained d (by rw [exited]; rfl)
    have hand := inv.queued.hand d
    rw [exited] at hand
    rw [show batch d = [] from hand, List.map_nil, List.append_nil] at order
    exact ⟨front, back, split, order.symm⟩
  · exact (inv.queued.calls d t).mp (List.mem_append_left _ inside)

def calledCall : ReactorEvent Tid Dev Req Out → Option (OpTicket Tid)
  | .called c _ _ => some c
  | _ => none

theorem ticket_step (service : Service σ Req Out) (admits : Dev → Req → Prop) (s s' : Reactors Tid Dev σ Req Out) (a : ReactorActor Tid Dev)
    (events : List (ReactorEvent Tid Dev Req Out)) (step : ReactorStep service admits s a events s') :
    (∀ t, s.calls t ≤ s'.calls t) ∧ ∀ c, c ∈ events.filterMap calledCall → c.2 = s.calls c.1 + 1 ∧ s'.calls c.1 = s.calls c.1 + 1 := by
  cases step with
  | call t d req rest admitted =>
      refine ⟨fun u => ?_, fun c inside => ?_⟩
      · show s.calls u ≤ Function.update s.calls t (s.calls t + 1) u
        by_cases same : u = t
        · subst same
          rw [Function.update_self]
          exact Nat.le_succ _
        · rw [Function.update_of_ne same]
      · cases List.mem_singleton.mp inside
        exact ⟨rfl, Function.update_self _ _ _⟩
  | _ => exact ⟨fun _ => Nat.le_refl _, nofun⟩

-- No two calls share a ticket.
theorem called_once (service : Service σ Req Out) (admits : Dev → Req → Prop) (trace : List (ReactorEvent Tid Dev Req Out))
    (s : Reactors Tid Dev σ Req Out) (run : (reactorMachine service admits).Run trace s) : (trace.filterMap calledCall).Nodup := by
  have known (trace : List (ReactorEvent Tid Dev Req Out)) (s : Reactors Tid Dev σ Req Out) (run : (reactorMachine service admits).Run trace s) :
      ∀ c, c ∈ trace.filterMap calledCall → c.2 ≤ s.calls c.1 := by
    refine run_invariant (reactorMachine service admits) (fun trace s => ∀ c, c ∈ trace.filterMap calledCall → c.2 ≤ s.calls c.1)
      (fun _ _ => nofun) (fun trace s a events s' ih step c inside => ?_) trace s run
    obtain ⟨grows, now⟩ := ticket_step service admits s s' a events step
    rw [List.filterMap_append] at inside
    rcases List.mem_append.mp inside with before | here
    · exact Nat.le_trans (ih c before) (grows c.1)
    · obtain ⟨ticket, calls⟩ := now c here
      rw [ticket, calls]
  refine caused_nodup calledCall trace (run_caused (reactorMachine service admits) _ _ known (fun trace s a events s' ih step => ?_) trace s run)
  rcases events_step service admits s s' a events step with rfl | ⟨e, rfl, -⟩
  · exact .inl rfl
  · refine .inr ⟨e, rfl, fun c marked inside => ?_⟩
    have ticket := ((ticket_step service admits s s' a [e] step).2 c (List.mem_filterMap.mpr ⟨e, List.mem_cons_self, marked⟩)).1
    have old := ih c inside
    omega

def unservedReactor (device : σ) (req : Req) (out : Out) : Reactors Unit (Fin 1) σ Req Out where
  inbox _ := none
  next _ := none
  request _ := req
  out _ := out
  result _ := Err.kSuccess
  wake _ := 0
  calls _ := 0
  caller _ := .idle
  stop _ := .started
  run _ := .draining
  device _ := device

def servedTrace (req : Req) (rc : Rc) (out : Out) : List (ReactorEvent Unit (Fin 1) Req Out) :=
  [.called ((), 1) 0 req, .pushed 0 ((), 1), .executed 0 ((), 1) req rc out, .stored 0 ((), 1) rc]

-- The caller has gone to sleep when its result is stored.
theorem served_run (service : Service σ Req Out) (admits : Fin 1 → Req → Prop)
    (m : Machine (Reactors Unit (Fin 1) σ Req Out) (ReactorActor Unit (Fin 1)) (ReactorEvent Unit (Fin 1) Req Out))
    (steps : m.step = ReactorStep service admits) (device after : σ) (req : Req) (rc : Rc) (out before : Out)
    (begun : m.start (unservedReactor device req before)) (admitted : admits 0 req) (serves : service.serves device req rc out after) :
    ∃ s, m.Run (servedTrace req rc out) s ∧ s.caller () = .asleep 0 0 ∧ s.result () = rc ∧ s.run 0 = .bumping .serving () none ∧
      s.inbox 0 = none ∧ s.wake () = 0 ∧ s.stop 0 = .started := by
  have next (trace events : List (ReactorEvent Unit (Fin 1) Req Out)) (s s' : Reactors Unit (Fin 1) σ Req Out) (a : ReactorActor Unit (Fin 1))
      (run : m.Run trace s) (step : ReactorStep service admits s a events s') : m.Run (trace ++ events) s' :=
    run.next _ _ _ _ a (by rw [steps]; exact step)
  have called := next _ _ _ _ _ (.begin _ begun) (.call _ () 0 req rfl admitted)
  have snapped := next _ _ _ _ _ called (.caller _ () _ (CallerMove.snap 0))
  have loaded := next _ _ _ _ _ snapped (.load _ () 0 0 (.inl rfl))
  have pushed := next _ _ _ _ _ loaded (.push _ () 0 0 none rfl rfl)
  have notified := next _ _ _ _ _ pushed (.notifyInbox _ () 0 0 rfl)
  have missed := next _ _ _ _ _ notified (.caller _ () _ (CallerMove.pending 0 0 rfl))
  have asleep := next _ _ _ _ _ missed (.caller _ () _ (CallerMove.block 0 0 rfl))
  have drained := next _ _ _ _ _ asleep (.drain _ 0 rfl nofun)
  have turned := next _ _ _ _ _ drained (.reverse _ 0 .serving none (.call ()) rfl)
  have reversed := next _ _ _ _ _ turned (.run _ 0 _ (RunMove.reversed .serving (some (.call ()))))
  have taken := next _ _ _ _ _ reversed (.run _ 0 _ (RunMove.take .serving (.call ())))
  have executed := next _ _ _ _ _ taken (.execute _ 0 () none rc out after rfl serves)
  exact ⟨_, next _ _ _ _ _ executed (.store _ 0 .serving () rc none rfl), rfl, rfl, rfl, rfl, rfl, rfl⟩

-- A device that answers every request with what it was asked.
def echo : Service Unit Nat Nat where
  serves _ req rc out _ := rc = Err.kSuccess ∧ out = req
  close s := s
  final _ _ rc _ _ serves := by
    rw [serves.1]
    decide

theorem inbox_exactly_once_served : ∃ s : Reactors Unit (Fin 1) Unit Nat Nat,
    ExactlyOnce (fun _ _ => True) (servedTrace 7 Err.kSuccess 7) s := by
  obtain ⟨s, run, -⟩ := served_run echo (fun _ _ => True) (reactorMachine echo fun _ _ => True) rfl () () 7 Err.kSuccess 7 0
    ⟨fun _ => rfl, fun _ => rfl, fun _ => rfl, fun _ => rfl⟩ trivial ⟨rfl, rfl⟩
  exact ⟨s, inbox_exactly_once echo (fun _ _ => True) _ s run⟩

end Cabe
