import Cabe.Concurrency.Linear
import Cabe.EngineCalls
import Cabe.EngineOpen
import Cabe.InboxOnce

set_option autoImplicit false

namespace Cabe

open Storage Concurrency

-- A reactor at work on its device. Any call on any of the three files may fail.
def engineService : Service Reactor Request (Option Bytes) where
  serves r req rc out r' := ∃ data wal snapshot env, (r.suffer data wal snapshot).execute env req = (⟨rc, out⟩, r')
  close r := r.closeDc.2
  final r req rc out r' serves := by
    obtain ⟨data, wal, snapshot, env, executed⟩ := serves
    have code := execute_code (r.suffer data wal snapshot) env req
    rw [executed] at code
    rcases code with fine | failed
    · rw [show rc = Err.kSuccess from fine]
      decide
    · intro pending
      rw [show rc = kOpPending from pending] at failed
      have negative : kOpPending < 0 := failed
      exact absurd negative (by decide)

abbrev EngineState (Tid : Type) (n : Nat) := Reactors Tid (Fin n) Reactor Request (Option Bytes)

abbrev EngineEvent (Tid : Type) (n : Nat) := ReactorEvent Tid (Fin n) Request (Option Bytes)

section Views

variable {Tid : Type} {n : Nat}

def clientView : EngineEvent Tid n → Option (ClientEvent (OpTicket Tid) Request Reply)
  | .called c _ req => some (.called c req)
  | .returned c rc out => some (.returned c ⟨rc, out⟩)
  | _ => none

-- A call takes effect when its reactor executes it.
def effectPoint : EngineEvent Tid n → Option (OpTicket Tid × Request × Reply)
  | .executed _ c req rc out => some (c, req, ⟨rc, out⟩)
  | _ => none

end Views

-- A map that does not begin empty.
def mapFrom (m : ValueMap) : Machine ValueMap Unit (Request × Reply) where
  start first := first = m
  step := mapMachine.step

section Map

variable (hash : Key → UInt64) (n : Nat) [NeZero n]

-- What the engine stands for: the map of all its devices, each by the keys that
-- are routed to it.
def engineContents {Tid : Type} (s : EngineState Tid n) : ValueMap := fun key => (s.device (Engine.routeKey hash n key)).contents key

def pastContents (past : Fin n → List LifeEvent) : ValueMap := fun key => lastStored (answersIn (past (Engine.routeKey hash n key))) key

variable (Tid : Type) [DecidableEq Tid]

-- An engine of any number of devices and callers. Each of the devices comes from
-- its creation through any number of lives of its own.
def engineMachine (sb : Fin n → SuperBlock) (past : Fin n → List LifeEvent) :
    Machine (EngineState Tid n) (ReactorActor Tid (Fin n)) (EngineEvent Tid n) where
  start s := (reactorMachine engineService (Engine.Submits hash n)).start s ∧ ∀ d, (lifeMachine (sb d)).Run (past d) (s.device d)
  step := ReactorStep engineService (Engine.Submits hash n)

end Map

-- An answer on a part of a map is an answer on the whole.
theorem answers_widen (m c c' : ValueMap) (req : Request) (reply : Reply) (mine : Key → Prop) (agree : ∀ key, mine key → m key = c key)
    (keys : ∀ key, req.key? = some key → mine key) (answers : Answers c req reply c') :
    ∃ m', Answers m req reply m' ∧ (∀ key, mine key → m' key = c' key) ∧ ∀ key, ¬ mine key → m' key = m key := by
  have updated (key : Key) (v : Option Bytes) (here : mine key) :
      (∀ other, mine other → Function.update m key v other = Function.update c key v other) ∧
        ∀ other, ¬ mine other → Function.update m key v other = m other := by
    refine ⟨fun other mine' => ?_, fun other foreign => ?_⟩
    · by_cases same : other = key
      · subst same
        rw [Function.update_self, Function.update_self]
      · rw [Function.update_of_ne same, Function.update_of_ne same]
        exact agree other mine'
    · have apart : other ≠ key := by
        rintro rfl
        exact foreign here
      exact Function.update_of_ne apart _ _
  cases answers with
  | stored req => exact ⟨_, .stored req, updated _ _ (keys _ rfl)⟩
  | notStored req rc failed => exact ⟨m, .notStored req rc failed, agree, fun _ _ => rfl⟩
  | found key value here => exact ⟨m, .found key value ((agree key (keys key rfl)).trans here), agree, fun _ _ => rfl⟩
  | missing key gone => exact ⟨m, .missing key ((agree key (keys key rfl)).trans gone), agree, fun _ _ => rfl⟩
  | unread key here => exact ⟨m, .unread key (by rw [agree key (keys key rfl)]; exact here), agree, fun _ _ => rfl⟩
  | deleted key here => exact ⟨_, .deleted key (by rw [agree key (keys key rfl)]; exact here), updated _ _ (keys _ rfl)⟩
  | absent key gone => exact ⟨m, .absent key ((agree key (keys key rfl)).trans gone), agree, fun _ _ => rfl⟩
  | notDeleted key rc here failed kept =>
      exact ⟨m, .notDeleted key rc (by rw [agree key (keys key rfl)]; exact here) failed kept, agree, fun _ _ => rfl⟩
  | level level rc => exact ⟨m, .level level rc, agree, fun _ _ => rfl⟩
  | snapshot rc => exact ⟨m, .snapshot rc, agree, fun _ _ => rfl⟩

theorem closed_contents (r : Reactor) : r.closeDc.2.contents = r.contents := by
  have medium := (close_leaves r).2.2.1
  funext key
  show (r.dc.metaIndex.lookup key).map _ = (r.dc.metaIndex.lookup key).map _
  refine congrArg (fun f => (r.dc.metaIndex.lookup key).map f) (funext fun meta_ => ?_)
  unfold SyncIoBackend.valueAt
  rw [medium]

theorem suffered_sound (sb : SuperBlock) (r : Reactor) (data wal snapshot : Faults) (sound : r.Sound sb) : (r.suffer data wal snapshot).Sound sb :=
  ⟨⟨sound.owns.blocks, sound.owns.buffers⟩, same_values_checked r _ (suffer_values r data wal snapshot) sound.checked⟩

section Legal

variable {Tid : Type} (n : Nat)

theorem mode_kept (s : EngineState Tid n) (d e : Fin n) (pc : RunAt Tid (Fin n)) (mode : pc.mode = .serving → (s.run d).mode = .serving)
    (now : (Function.update s.run d pc e).mode = .serving) : (s.run e).mode = .serving := by
  by_cases same : e = d
  · subst same
    rw [Function.update_self] at now
    exact mode now
  · rwa [Function.update_of_ne same] at now

variable [NeZero n] (hash : Key → UInt64) (sb : Fin n → SuperBlock)

-- The reactors that still serve keep their devices sound.
structure EngineStands (s : EngineState Tid n) (m : ValueMap) : Prop where
  same : engineContents hash n s = m
  sound : ∀ d, (s.run d).mode = .serving → (s.device d).Sound (sb d)
  small : ∀ d, (sb d).blockCount < 2 ^ 44

theorem stands_kept (s s' : EngineState Tid n) (m : ValueMap) (stands : EngineStands n hash sb s m) (device : s'.device = s.device)
    (mode : ∀ d, (s'.run d).mode = .serving → (s.run d).mode = .serving) : EngineStands n hash sb s' m :=
  ⟨by rw [← stands.same]; unfold engineContents; rw [device], fun d now => by rw [device]; exact stands.sound d (mode d now), stands.small⟩

theorem stands_executed (s : EngineState Tid n) (m : ValueMap) (stands : EngineStands n hash sb s m) (d : Fin n) (req : Request) (rc : Rc)
    (out : Option Bytes) (after : Reactor) (now : (s.run d).mode = .serving) (submits : Engine.Submits hash n d req)
    (serves : engineService.serves (s.device d) req rc out after) (s' : EngineState Tid n) (device : s'.device = Function.update s.device d after)
    (mode : ∀ e, (s'.run e).mode = .serving → (s.run e).mode = .serving) :
    ∃ m', Answers m req ⟨rc, out⟩ m' ∧ EngineStands n hash sb s' m' := by
  obtain ⟨data, wal, snapshot, env, executed⟩ := serves
  obtain ⟨admitted, routed⟩ := submits_admitted hash n d req submits
  have small := stands.small d
  have sound := suffered_sound (sb d) (s.device d) data wal snapshot (stands.sound d now)
  obtain ⟨answers, sound'⟩ := execute_answers (sb d) _ env req (by omega) sound admitted
  rw [executed, same_values_contents _ _ (suffer_values (s.device d) data wal snapshot)] at answers
  rw [executed] at sound'
  obtain ⟨m', widened, mine, others⟩ := answers_widen m _ _ req ⟨rc, out⟩ (fun key => Engine.routeKey hash n key = d)
    (fun key here => by rw [← stands.same, engineContents, here]) routed answers
  refine ⟨m', widened, funext fun key => ?_, fun e serves' => ?_, stands.small⟩
  · unfold engineContents
    rw [device]
    by_cases here : Engine.routeKey hash n key = d
    · rw [here, Function.update_self, mine key here]
    · rw [Function.update_of_ne here, others key here, ← stands.same]
      rfl
  · rw [device]
    by_cases here : e = d
    · subst here
      rw [Function.update_self]
      exact sound'
    · rw [Function.update_of_ne here]
      exact stands.sound e (mode e serves')

theorem stands_closed (s : EngineState Tid n) (m : ValueMap) (stands : EngineStands n hash sb s m) (d : Fin n) (s' : EngineState Tid n)
    (device : s'.device = Function.update s.device d (s.device d).closeDc.2) (shut : (s'.run d).mode ≠ .serving)
    (mode : ∀ e, (s'.run e).mode = .serving → (s.run e).mode = .serving) : EngineStands n hash sb s' m := by
  refine ⟨?_, fun e now => ?_, stands.small⟩
  · rw [← stands.same]
    funext key
    unfold engineContents
    rw [device]
    by_cases here : Engine.routeKey hash n key = d
    · rw [here, Function.update_self, closed_contents]
    · rw [Function.update_of_ne here]
  · rw [device]
    have other : e ≠ d := fun same => shut (same ▸ now)
    rw [Function.update_of_ne other]
    exact stands.sound e (mode e now)

-- What is executed answers as the map, and nothing else changes the map.
theorem stands_step [DecidableEq Tid] (s s' : EngineState Tid n) (a : ReactorActor Tid (Fin n)) (events : List (EngineEvent Tid n)) (m : ValueMap)
    (trace : List (EngineEvent Tid n)) (stack batch : Line Tid (Fin n)) (inv : Inboxed (Engine.Submits hash n) trace s stack batch)
    (stands : EngineStands n hash sb s m) (step : ReactorStep engineService (Engine.Submits hash n) s a events s') :
    (events.filterMap effectPoint = [] ∧ EngineStands n hash sb s' m) ∨
      ∃ m' c req reply, events.filterMap effectPoint = [(c, req, reply)] ∧ Answers m req reply m' ∧ EngineStands n hash sb s' m' := by
  have run (d : Fin n) (there : RunAt Tid (Fin n)) (mode : there.mode = .serving → (s.run d).mode = .serving) :
      ∀ e, ((s.goRun d there).run e).mode = .serving → (s.run e).mode = .serving := fun e => mode_kept n s d e there mode
  have notified (d : Fin n) : ∀ e, ((s.goRun d (s.run d).notified).run e).mode = .serving → (s.run e).mode = .serving :=
    run d _ (by rw [notified_mode]; exact id)
  cases step with
  | execute d t next rc out after at_ serves =>
      have here := in_hand_line s stack batch inv.queued d t (.inl ⟨.serving, next, at_⟩)
      have known := inv.known t d (.inr ((inv.queued.calls d t).mp here).1)
      obtain ⟨m', answers, stands'⟩ := stands_executed n hash sb s m stands d (s.request t) rc out after (by rw [at_]; rfl) known.2 serves
        ({ s with device := Function.update s.device d after, out := Function.update s.out t out }.goRun d (.storing .serving t rc next)) rfl
        (run d _ fun _ => by rw [at_]; rfl)
      exact .inr ⟨m', _, _, _, rfl, answers, stands'⟩
  | close d e next at_ =>
      refine .inl ⟨rfl, stands_closed n hash sb s m stands d _ rfl ?_ (run d (.ready .failing next) nofun)⟩
      show (Function.update s.run d (.ready .failing next) d).mode ≠ .serving
      rw [Function.update_self]
      nofun
  | run d there moves =>
      refine .inl ⟨rfl, stands_kept n hash sb s _ m stands rfl (run d there ?_)⟩
      generalize s.run d = pc at moves
      cases moves <;> exact id
  | notifyInbox t d cur at_ => exact .inl ⟨rfl, stands_kept n hash sb s _ m stands rfl (notified d)⟩
  | notifyStop d at_ => exact .inl ⟨rfl, stands_kept n hash sb s _ m stands rfl (notified d)⟩
  | drain d at_ some_ => exact .inl ⟨rfl, stands_kept n hash sb s _ m stands rfl
      (run d (.reversing .serving none (s.inbox d)) fun _ => by rw [at_]; rfl)⟩
  | lastDrain d at_ => exact .inl ⟨rfl, stands_kept n hash sb s _ m stands rfl (run d (.reversing .last none (s.inbox d)) nofun)⟩
  | reverse d mode prev head at_ =>
      exact .inl ⟨rfl, stands_kept n hash sb s _ m stands rfl (run d (.reversing mode (some head) (s.next head)) fun now => by rw [at_]; exact now)⟩
  | refuse d mode t next at_ late =>
      exact .inl ⟨rfl, stands_kept n hash sb s _ m stands rfl (run d (.storing mode t Err.kEngineNotOpen next) fun now => by rw [at_]; exact now)⟩
  | store d mode t rc next at_ =>
      exact .inl ⟨rfl, stands_kept n hash sb s _ m stands rfl (run d (.bumping mode t next) fun now => by rw [at_]; exact now)⟩
  | bump d mode w next at_ =>
      exact .inl ⟨rfl, stands_kept n hash sb s _ m stands rfl (run d (.notifying mode w next) fun now => by rw [at_]; exact now)⟩
  | notify d mode w next at_ =>
      exact .inl ⟨rfl, stands_kept n hash sb s _ m stands rfl (run d (.ready mode next) fun now => by rw [at_]; exact now)⟩
  | _ => exact .inl ⟨rfl, stands_kept n hash sb s _ m stands rfl fun _ now => now⟩

end Legal

section Engine

variable {Tid : Type} (n : Nat)

theorem effect_begun (front : List (EngineEvent Tid n)) (c : OpTicket Tid) (inside : c ∈ front.filterMap fun e => (effectPoint e).map Prod.fst) :
    ∃ d, some c ∈ (begunOn d front).map Begun.item := by
  obtain ⟨e, member, marked⟩ := List.mem_filterMap.mp inside
  cases e with
  | executed d c' req rc out =>
      cases marked
      exact ⟨d, List.mem_map.mpr ⟨.executed c', List.mem_filterMap.mpr ⟨_, member, if_pos rfl⟩, rfl⟩⟩
  | _ => cases marked

theorem refused_begun (front : List (EngineEvent Tid n)) (d : Fin n) (c : OpTicket Tid) (inside : .refused d c ∈ front) :
    some c ∈ (begunOn d front).map Begun.item :=
  List.mem_map.mpr ⟨.refused c, List.mem_filterMap.mpr ⟨_, inside, if_pos rfl⟩, rfl⟩

variable [DecidableEq Tid] [NeZero n] (hash : Key → UInt64) (sb : Fin n → SuperBlock) (past : Fin n → List LifeEvent)
  (trace : List (EngineEvent Tid n)) (s : EngineState Tid n)

theorem engine_reactors (run : (engineMachine hash n Tid sb past).Run trace s) :
    (reactorMachine engineService (Engine.Submits hash n)).Run trace s := by
  induction run with
  | begin s first => exact .begin s first.1
  | next trace events s s' a run step ih => exact .next trace events s s' a ih step

theorem engine_stands (few : ∀ d, 3 * (past d).length + 5 < 2 ^ 64) (run : (engineMachine hash n Tid sb past).Run trace s) :
    (mapFrom (pastContents hash n past)).Run ((trace.filterMap effectPoint).map Prod.snd) (engineContents hash n s) ∧
      EngineStands n hash sb s (engineContents hash n s) := by
  induction run with
  | begin s first =>
      refine ⟨.begin _ (funext fun key => ?_), rfl, fun d _ => ?_, fun d => ?_⟩
      · exact congrFun (restarts_invisible (sb _) _ _ (first.2 _) (few _)).2.1 key
      · exact (life_run (sb d) _ _ (first.2 d) (few d)).1.sound
      · exact (life_run (sb d) _ _ (first.2 d) (few d)).1.small
  | next trace events s s' a run step ih =>
      obtain ⟨stack, batch, inv⟩ := inboxed_run _ engineService trace s (engine_reactors n hash sb past trace s run)
      rw [List.filterMap_append, List.map_append]
      rcases stands_step n hash sb s s' a events _ trace stack batch inv ih.2 step with ⟨silent, stands⟩ | ⟨m, c, req, reply, shown, answers, stands⟩
      · rw [silent, List.map_nil, List.append_nil, stands.same]
        exact ⟨ih.1, stands⟩
      · rw [shown, stands.same]
        exact ⟨.next _ _ _ _ () ih.1 ⟨req, reply, rfl, answers⟩, stands⟩

-- A call that was refused is executed nowhere, neither before nor after.
omit [DecidableEq Tid] in
theorem refused_unexecuted (caused : Caused (Justified (Engine.Submits hash n)) trace) (c : OpTicket Tid) (d e : Fin n) (req : Request) (rc : Rc)
    (out : Option Bytes) (refused : .refused d c ∈ trace) (executed : .executed e c req rc out ∈ trace) : False := by
  rcases one_before_other trace _ _ refused executed nofun with ⟨front, back, split, before⟩ | ⟨front, back, split, before⟩
  · have fresh := (caused front _ back split).2.2
    obtain ⟨f, begun⟩ := effect_begun n front c (List.mem_filterMap.mpr ⟨_, before, rfl⟩)
    exact fresh f begun
  · exact (caused front _ back split).2.2 d (refused_begun n front d c before)

theorem engine_points (run : (engineMachine hash n Tid sb past).Run trace s) :
    HasPoints clientView effectPoint (fun reply => reply.rc = Err.kEngineNotOpen) trace := by
  have reactors := engine_reactors n hash sb past trace s run
  obtain ⟨stack, batch, inv⟩ := inboxed_run _ engineService trace s reactors
  have caused : Caused (Justified (Engine.Submits hash n)) trace :=
    run_caused (reactorMachine engineService (Engine.Submits hash n)) _
      (fun trace s => ∃ stack batch, Inboxed (Engine.Submits hash n) trace s stack batch)
      (inboxed_run _ engineService)
      (fun trace s a events s' ⟨stack, batch, inv⟩ step => justified_step engineService _ trace s s' a events stack batch inv step) trace s reactors
  refine ⟨?_, ?_, fun front e back split op takes => ?_, fun front e back split c rep returns => ?_⟩
  · have same : calledMark (clientView : EngineEvent Tid n → _) = calledCall := by
      funext e
      cases e <;> rfl
    rw [same]
    exact called_once engineService _ trace s reactors
  · rw [List.map_filterMap]
    refine caused_nodup _ trace fun front e back split c takes inside => ?_
    cases e with
    | executed d c' req rc out =>
        cases takes
        obtain ⟨f, begun⟩ := effect_begun n front c' inside
        exact (caused front _ back split).2.2 f begun
    | _ => cases takes
  · cases e with
    | executed d c req rc out =>
        cases takes
        exact ⟨_, (caused front _ back split).1, rfl⟩
    | _ => cases takes
  · cases e with
    | returned c' rc out =>
        cases returns
        rcases caused front _ back split with ⟨d, req, executed⟩ | ⟨late, d, refused⟩
        · exact .inl ⟨_, executed, req, rfl⟩
        · refine .inr ⟨late, fun f member op takes same => ?_⟩
          cases f with
          | executed e c'' req rc' out' =>
              cases takes
              cases same
              exact refused_unexecuted n hash trace caused _ d e req rc' out' (split ▸ List.mem_append_left _ refused) member
          | _ => cases takes
    | _ => cases returns

end Engine

-- Any number of callers at any number of devices, whatever the order of their
-- steps and whatever the devices do: what the callers see is explained by one
-- order of their calls, in which the engine answers as a map. A call that is
-- refused because the engine was closed has no effect on any device.
theorem engine_linearizable {Tid : Type} [DecidableEq Tid] (n : Nat) [NeZero n] (hash : Key → UInt64) (sb : Fin n → SuperBlock)
    (past : Fin n → List LifeEvent) (few : ∀ d, 3 * (past d).length + 5 < 2 ^ 64) (trace : List (EngineEvent Tid n)) (s : EngineState Tid n)
    (run : (engineMachine hash n Tid sb past).Run trace s) :
    Linearization (mapFrom (pastContents hash n past)) (fun reply => reply.rc = Err.kEngineNotOpen) (trace.filterMap clientView)
      (trace.filterMap effectPoint) ∧
    (mapFrom (pastContents hash n past)).Run ((trace.filterMap effectPoint).map Prod.snd) (engineContents hash n s) := by
  have legal := (engine_stands n hash sb past trace s few run).1
  exact ⟨points_linearize clientView effectPoint _ trace (engine_points n hash sb past trace s run) _ _ legal, legal⟩

theorem zero_put_submits : Engine.Submits (fun _ => 0) 1 0 (.put (zeroPut 1)) := by
  have checked : Engine.putRequest (fun _ => 0) 1 [] [1] ⟨4096, zeros kValueSize⟩ = .ok (.put (zeroPut 1)) := by
    unfold Engine.putRequest
    rw [if_neg (by decide), if_neg (not_not.mpr (zeros_length _)), if_neg (by decide)]
    rfl
  have routed : Engine.routeKey (fun _ => 0) 1 [1] = 0 := Subsingleton.elim _ _
  exact routed ▸ .put [] [1] _ _ checked

theorem engine_linearizable_put : ∃ (s : EngineState Unit 1) (rc : Rc) (out : Option Bytes),
    Linearization (mapFrom fun _ => none) (fun reply => reply.rc = Err.kEngineNotOpen)
      ((servedTrace (.put (zeroPut 1)) rc out).filterMap clientView) [(((), 1), .put (zeroPut 1), ⟨rc, out⟩)] ∧
    (mapFrom fun _ => none).Run [(.put (zeroPut 1), ⟨rc, out⟩)] (engineContents (fun _ => 0) 1 s) := by
  obtain ⟨dc, created⟩ := blank_group_created
  generalize (⟨plainOptions true 1, dc⟩ : Reactor) = r at created
  let faults : Faults := ⟨[], fun _ => false⟩
  obtain ⟨s, run, -⟩ := served_run engineService (Engine.Submits (fun _ => 0) 1)
    (engineMachine (fun _ => 0) 1 Unit (fun _ => blankSuperBlock) fun _ => []) rfl r _ (.put (zeroPut 1)) _ _ none
    ⟨⟨fun _ => rfl, fun _ => rfl, fun _ => rfl, fun _ => rfl⟩, fun _ => .begin r created⟩ zero_put_submits ⟨faults, faults, faults, plainOpEnv, rfl⟩
  exact ⟨s, _, _, engine_linearizable 1 (fun _ => 0) (fun _ => blankSuperBlock) (fun _ => []) (fun _ => by decide) _ s run⟩

end Cabe
