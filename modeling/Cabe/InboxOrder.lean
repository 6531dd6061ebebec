import Cabe.Concurrency.Custody
import Cabe.Concurrency.History
import Cabe.ReactorInbox

set_option autoImplicit false

namespace Cabe

open Concurrency

variable {Tid Dev σ Req Out : Type}

-- The nodes that a reactor has in hand, in the order in which it will come to them.
def Carries (next : OpNode Tid Dev → Option (OpNode Tid Dev)) : RunAt Tid Dev → List (OpNode Tid Dev) → Prop
  | .reversing _ prev head, batch => ∃ done rest, Chain next prev done ∧ Chain next head rest ∧ batch = rest.reverse ++ done
  | .ready _ op, batch => Chain next op batch
  | .taken _ op after, batch => ∃ rest, batch = op :: rest ∧ Chain next after rest
  | .storing _ t _ after, batch => ∃ rest, batch = .call t :: rest ∧ Chain next after rest
  | .bumping _ _ after, batch => Chain next after batch
  | .notifying _ _ after, batch => Chain next after batch
  | _, batch => batch = []

def RunAt.mode : RunAt Tid Dev → RunMode
  | .reversing mode _ _ => mode
  | .ready mode _ => mode
  | .taken mode _ _ => mode
  | .storing mode _ _ _ => mode
  | .bumping mode _ _ => mode
  | .notifying mode _ _ => mode
  | .lastDraining => .failing
  | .exited => .last
  | _ => .serving

-- The reactor a caller's node was pushed to, until the caller returns.
def CallerAt.submitted : CallerAt Tid Dev → Option Dev
  | .notifying d _ => some d
  | .waiting d _ => some d
  | .sleeping d _ => some d
  | .asleep d _ => some d
  | .woken d _ => some d
  | .reloading d => some d
  | .leaving d => some d
  | _ => none

def CallerAt.preparing : CallerAt Tid Dev → Option Dev
  | .called d => some d
  | .snapped d _ => some d
  | .pushing d _ _ => some d
  | _ => none

def StopAt.pushed : StopAt Tid Dev → Bool
  | .notifying => true
  | .joining => true
  | .joined => true
  | _ => false

abbrev Line (Tid Dev : Type) := Dev → List (OpNode Tid Dev)

-- What a reactor has in hand and what waits in its inbox, the oldest first.
def line (stack batch : Line Tid Dev) (d : Dev) : List (OpNode Tid Dev) := batch d ++ (stack d).reverse

-- The inboxes and batches are chains of nodes that share none. A call's node is on
-- one of them from its push until its result is stored, and at no other time.
structure Queued (s : Reactors Tid Dev σ Req Out) (stack batch : Line Tid Dev) : Prop where
  inbox : ∀ d, Chain s.next (s.inbox d) (stack d)
  hand : ∀ d, Carries s.next (s.run d) (batch d)
  once : ∀ d, (line stack batch d).Nodup
  calls : ∀ d t, .call t ∈ line stack batch d ↔ (s.caller t).submitted = some d ∧ s.result t = kOpPending
  stops : ∀ d e, .stop e ∈ line stack batch d ↔ e = d ∧ (s.stop d).pushed = true ∧ (s.run d).mode = .serving
  fresh : ∀ t d, (s.caller t).preparing = some d → s.result t = kOpPending
  left : ∀ t d, s.caller t = .leaving d → s.result t ≠ kOpPending
  linked : ∀ t d cur old, s.caller t = .pushing d cur old → s.next (.call t) = old
  linkedStop : ∀ d old, s.stop d = .pushing old → s.next (.stop d) = old
  final : ∀ d mode t rc after, s.run d = .storing mode t rc after → rc ≠ kOpPending
  late : ∀ d, (s.run d).mode ≠ .serving → (s.stop d).pushed = true

theorem submitted_unprepared (pc : CallerAt Tid Dev) (d : Dev) (prepares : pc.preparing = some d) : pc.submitted = none := by
  cases pc <;> first | rfl | cases prepares

theorem carries_congr (next other : OpNode Tid Dev → Option (OpNode Tid Dev)) (pc : RunAt Tid Dev) (batch : List (OpNode Tid Dev))
    (same : ∀ op ∈ batch, other op = next op) (hand : Carries next pc batch) : Carries other pc batch := by
  cases pc with
  | reversing mode prev head =>
      obtain ⟨done, rest, first, second, rfl⟩ := hand
      exact ⟨done, rest, chain_congr next other done prev (fun op inside => same op (List.mem_append_right _ inside)) first,
        chain_congr next other rest head (fun op inside => same op (List.mem_append_left _ (List.mem_reverse.mpr inside))) second, rfl⟩
  | ready mode op => exact chain_congr next other batch op same hand
  | taken mode op after =>
      obtain ⟨rest, rfl, chain⟩ := hand
      exact ⟨rest, rfl, chain_congr next other rest after (fun op inside => same op (List.mem_cons_of_mem _ inside)) chain⟩
  | storing mode t rc after =>
      obtain ⟨rest, rfl, chain⟩ := hand
      exact ⟨rest, rfl, chain_congr next other rest after (fun op inside => same op (List.mem_cons_of_mem _ inside)) chain⟩
  | bumping mode w after => exact chain_congr next other batch after same hand
  | notifying mode w after => exact chain_congr next other batch after same hand
  | _ => exact hand

theorem carries_notified (next : OpNode Tid Dev → Option (OpNode Tid Dev)) (pc : RunAt Tid Dev) (batch : List (OpNode Tid Dev))
    (hand : Carries next pc batch) : Carries next pc.notified batch := by
  cases pc <;> exact hand

@[simp] theorem notified_mode (pc : RunAt Tid Dev) : pc.notified.mode = pc.mode := by cases pc <;> rfl

@[simp] theorem notified_submitted (pc : CallerAt Tid Dev) : pc.notified.submitted = pc.submitted := by cases pc <;> rfl

@[simp] theorem notified_preparing (pc : CallerAt Tid Dev) : pc.notified.preparing = pc.preparing := by cases pc <;> rfl

theorem notified_leaving (pc : CallerAt Tid Dev) (d : Dev) (at_ : pc.notified = .leaving d) : pc = .leaving d := by
  cases pc <;> first | exact at_ | cases at_

theorem notified_pushing (pc : CallerAt Tid Dev) (d : Dev) (cur : Nat) (old : Option (OpNode Tid Dev))
    (at_ : pc.notified = .pushing d cur old) : pc = .pushing d cur old := by
  cases pc <;> first | exact at_ | cases at_

theorem notified_storing (pc : RunAt Tid Dev) (mode : RunMode) (t : Tid) (rc : Rc) (after : Option (OpNode Tid Dev))
    (at_ : pc.notified = .storing mode t rc after) : pc = .storing mode t rc after := by
  cases pc <;> first | exact at_ | cases at_

variable [DecidableEq Tid] [DecidableEq Dev]

def Reactors.item (s : Reactors Tid Dev σ Req Out) : OpNode Tid Dev → Option (OpTicket Tid)
  | .call t => some (s.ticket t)
  | .stop _ => none

-- The calls that reached the inbox of a reactor, in the order in which they did,
-- and those that it has answered. Stop is the one without a ticket.
def pushedMark (d : Dev) : ReactorEvent Tid Dev Req Out → Option (Option (OpTicket Tid))
  | .pushed e c => if e = d then some (some c) else none
  | .stopped e => if e = d then some none else none
  | _ => none

def handledMark (d : Dev) : ReactorEvent Tid Dev Req Out → Option (Option (OpTicket Tid))
  | .stored e c _ => if e = d then some (some c) else none
  | .closed e => if e = d then some none else none
  | _ => none

def pushedOn (d : Dev) (trace : List (ReactorEvent Tid Dev Req Out)) : List (Option (OpTicket Tid)) := trace.filterMap (pushedMark d)

def handledOn (d : Dev) (trace : List (ReactorEvent Tid Dev Req Out)) : List (Option (OpTicket Tid)) := trace.filterMap (handledMark d)

section Frames

variable (s : Reactors Tid Dev σ Req Out) (stack batch : Line Tid Dev)

-- A caller that moves on.
omit [DecidableEq Dev] in
theorem queued_caller (t : Tid) (pc : CallerAt Tid Dev) (queued : Queued s stack batch)
    (submitted : pc.submitted = (s.caller t).submitted ∨ s.result t ≠ kOpPending) (fresh : ∀ d, pc.preparing = some d → s.result t = kOpPending)
    (left : ∀ d, pc = .leaving d → s.result t ≠ kOpPending) (linked : ∀ d cur old, pc = .pushing d cur old → s.next (.call t) = old) :
    Queued (s.goCaller t pc) stack batch := by
  refine ⟨queued.inbox, queued.hand, queued.once, fun d u => ?_, queued.stops, fun u d => ?_, fun u d => ?_, fun u d cur old => ?_,
    queued.linkedStop, queued.final, queued.late⟩
  all_goals by_cases same : u = t
  · subst same
    simp only [Reactors.goCaller, Function.update_self]
    rw [queued.calls d u]
    rcases submitted with kept | final
    · rw [kept]
    · exact iff_of_false (fun h => final h.2) fun h => final h.2
  · simp only [Reactors.goCaller, Function.update_of_ne same]
    exact queued.calls d u
  · subst same
    simp only [Reactors.goCaller, Function.update_self]
    exact fresh d
  · simp only [Reactors.goCaller, Function.update_of_ne same]
    exact queued.fresh u d
  · subst same
    simp only [Reactors.goCaller, Function.update_self]
    exact left d
  · simp only [Reactors.goCaller, Function.update_of_ne same]
    exact queued.left u d
  · subst same
    simp only [Reactors.goCaller, Function.update_self]
    exact linked d cur old
  · simp only [Reactors.goCaller, Function.update_of_ne same]
    exact queued.linked u d cur old

omit [DecidableEq Tid] in
theorem queued_stop (d : Dev) (pc : StopAt Tid Dev) (queued : Queued s stack batch) (pushed : pc.pushed = (s.stop d).pushed)
    (linked : ∀ old, pc = .pushing old → s.next (.stop d) = old) : Queued (s.goStop d pc) stack batch := by
  refine ⟨queued.inbox, queued.hand, queued.once, queued.calls, fun e f => ?_, queued.fresh, queued.left, queued.linked, fun e old => ?_,
    queued.final, fun e mode => ?_⟩
  all_goals by_cases same : e = d
  · subst same
    simp only [Reactors.goStop, Function.update_self, pushed]
    exact queued.stops e f
  · simp only [Reactors.goStop, Function.update_of_ne same]
    exact queued.stops e f
  · subst same
    simp only [Reactors.goStop, Function.update_self]
    exact linked old
  · simp only [Reactors.goStop, Function.update_of_ne same]
    exact queued.linkedStop e old
  · subst same
    simp only [Reactors.goStop, Function.update_self, pushed]
    exact queued.late e mode
  · simp only [Reactors.goStop, Function.update_of_ne same]
    exact queued.late e mode

-- A reactor that moves on with the same nodes in hand.
omit [DecidableEq Tid] in
theorem queued_run (d : Dev) (pc : RunAt Tid Dev) (queued : Queued s stack batch) (hand : Carries s.next pc (batch d))
    (mode : pc.mode = (s.run d).mode) (final : ∀ m t rc after, pc = .storing m t rc after → rc ≠ kOpPending) :
    Queued (s.goRun d pc) stack batch := by
  refine ⟨queued.inbox, fun e => ?_, queued.once, queued.calls, fun e f => ?_, queued.fresh, queued.left, queued.linked, queued.linkedStop,
    fun e m t rc after => ?_, fun e => ?_⟩
  all_goals by_cases same : e = d
  · subst same
    simp only [Reactors.goRun, Function.update_self]
    exact hand
  · simp only [Reactors.goRun, Function.update_of_ne same]
    exact queued.hand e
  · subst same
    simp only [Reactors.goRun, Function.update_self, mode]
    exact queued.stops e f
  · simp only [Reactors.goRun, Function.update_of_ne same]
    exact queued.stops e f
  · subst same
    simp only [Reactors.goRun, Function.update_self]
    exact final m t rc after
  · simp only [Reactors.goRun, Function.update_of_ne same]
    exact queued.final e m t rc after
  · subst same
    simp only [Reactors.goRun, Function.update_self, mode]
    exact queued.late e
  · simp only [Reactors.goRun, Function.update_of_ne same]
    exact queued.late e

-- A node that is on no chain is linked to another place.
theorem queued_link (op : OpNode Tid Dev) (to_ : Option (OpNode Tid Dev)) (queued : Queued s stack batch)
    (off : ∀ d, op ∉ line stack batch d) (calls : ∀ t d cur old, op = .call t → s.caller t ≠ .pushing d cur old)
    (stops : ∀ d old, op = .stop d → s.stop d ≠ .pushing old) : Queued (s.link op to_) stack batch := by
  have apart (d : Dev) (other : OpNode Tid Dev) (inside : other ∈ line stack batch d) : Function.update s.next op to_ other = s.next other :=
    Function.update_of_ne (fun same : other = op => off d (same ▸ inside)) _ _
  refine ⟨fun d => ?_, fun d => ?_, queued.once, queued.calls, queued.stops, queued.fresh, queued.left, fun t d cur old at_ => ?_,
    fun d old at_ => ?_, queued.final, queued.late⟩
  · exact chain_congr s.next _ (stack d) _ (fun other inside => apart d other (List.mem_append_right _ (List.mem_reverse.mpr inside)))
      (queued.inbox d)
  · exact carries_congr s.next _ _ _ (fun other inside => apart d other (List.mem_append_left _ inside)) (queued.hand d)
  · have other : (OpNode.call t : OpNode Tid Dev) ≠ op := fun same => calls t d cur old same.symm at_
    exact (Function.update_of_ne other _ _).trans (queued.linked t d cur old at_)
  · have other : (OpNode.stop d : OpNode Tid Dev) ≠ op := fun same => stops d old same.symm at_
    exact (Function.update_of_ne other _ _).trans (queued.linkedStop d old at_)

end Frames

-- What a step does to the lines: what it answers leaves them in front, and what it
-- pushes joins them at the end. After the last drain no node comes to hand.
structure Advances (s s' : Reactors Tid Dev σ Req Out) (stack batch stack' batch' : Line Tid Dev)
    (events : List (ReactorEvent Tid Dev Req Out)) : Prop where
  line : ∀ d, handledOn d events ++ (line stack' batch' d).map s'.item = (line stack batch d).map s.item ++ pushedOn d events
  hand : ∀ d, (s.run d).mode = .last → handledOn d events ++ (batch' d).map s'.item = (batch d).map s.item

omit [DecidableEq Tid] [DecidableEq Dev] in
theorem item_congr (s s' : Reactors Tid Dev σ Req Out) (calls : s'.calls = s.calls) : s'.item = s.item := by
  funext op
  cases op with
  | call t => exact congrArg some (congrArg (Prod.mk t) (congrFun calls t))
  | stop e => rfl

omit [DecidableEq Tid] in
theorem advances_still (s s' : Reactors Tid Dev σ Req Out) (stack batch : Line Tid Dev) (events : List (ReactorEvent Tid Dev Req Out))
    (calls : s'.calls = s.calls) (silent : ∀ e ∈ events, ∀ d, pushedMark d e = none ∧ handledMark d e = none) :
    Advances s s' stack batch stack batch events := by
  have items := item_congr s s' calls
  have handled (d : Dev) : handledOn d events = [] := List.filterMap_eq_nil_iff.mpr fun e member => (silent e member d).2
  have pushed (d : Dev) : pushedOn d events = [] := List.filterMap_eq_nil_iff.mpr fun e member => (silent e member d).1
  exact ⟨fun d => by rw [handled, pushed, items, List.nil_append, List.append_nil], fun d _ => by rw [handled, items, List.nil_append]⟩

section Steps

variable (s : Reactors Tid Dev σ Req Out) (stack batch : Line Tid Dev)

omit [DecidableEq Tid] [DecidableEq Dev] in
theorem prepared_off (t : Tid) (queued : Queued s stack batch) (out : (s.caller t).submitted = none) (d : Dev) :
    .call t ∉ line stack batch d := by
  intro inside
  have there := ((queued.calls d t).mp inside).1
  rw [out] at there
  cases there

theorem call_queued (t : Tid) (d : Dev) (req : Req) (queued : Queued s stack batch) (rest : s.caller t = .idle) :
    Queued (({ s with
      request := Function.update s.request t req
      result := Function.update s.result t kOpPending
      calls := Function.update s.calls t (s.calls t + 1) }.link (.call t) none).goCaller t (.called d)) stack batch := by
  have off := prepared_off s stack batch t queued (by rw [rest]; rfl)
  have renewed : Queued { s with
      request := Function.update s.request t req
      result := Function.update s.result t kOpPending
      calls := Function.update s.calls t (s.calls t + 1) } stack batch := by
    refine ⟨queued.inbox, queued.hand, queued.once, fun e u => ?_, queued.stops, fun u e prepares => ?_, fun u e at_ => ?_, queued.linked,
      queued.linkedStop, queued.final, queued.late⟩
    all_goals by_cases same : u = t
    · subst same
      exact iff_of_false (off e) fun h => by rw [rest] at h; cases h.1
    · simp only [Function.update_of_ne same]
      exact queued.calls e u
    · subst same
      exact Function.update_self _ _ _
    · simp only [Function.update_of_ne same]
      exact queued.fresh u e prepares
    · subst same
      rw [rest] at at_
      cases at_
    · simp only [Function.update_of_ne same]
      exact queued.left u e at_
  have linked := queued_link _ stack batch (.call t) none renewed off
    (fun u e cur old same at_ => by cases same; exact absurd (rest.symm.trans at_) nofun) nofun
  refine queued_caller _ stack batch t (.called d) linked (.inl ?_) (fun _ _ => Function.update_self _ _ _) nofun nofun
  show none = (s.caller t).submitted
  rw [rest]
  rfl

theorem load_queued (t : Tid) (d : Dev) (cur : Nat) (queued : Queued s stack batch)
    (at_ : s.caller t = .snapped d cur ∨ ∃ old, s.caller t = .pushing d cur old) :
    Queued ((s.link (.call t) (s.inbox d)).goCaller t (.pushing d cur (s.inbox d))) stack batch := by
  have prepares : (s.caller t).preparing = some d := by
    rcases at_ with at_ | ⟨old, at_⟩ <;> rw [at_] <;> rfl
  have out := submitted_unprepared _ _ prepares
  have fresh := queued.fresh t d prepares
  have before := queued_caller s stack batch t (.snapped d cur) queued (.inl out.symm) (fun _ _ => fresh) nofun nofun
  have linked := queued_link _ stack batch (.call t) (s.inbox d) before (prepared_off s stack batch t queued out)
    (fun u e cur' old same at_ => by
      cases same
      have here : (.snapped d cur : CallerAt Tid Dev) = .pushing e cur' old := (Function.update_self t _ _).symm.trans at_
      cases here) nofun
  have there := queued_caller _ stack batch t (.pushing d cur (s.inbox d)) linked (.inl ?_) (fun _ _ => fresh) nofun
    (fun e cur' old same => by
      cases same
      exact Function.update_self _ _ _)
  · have same : ((s.goCaller t (.snapped d cur)).link (.call t) (s.inbox d)).goCaller t (.pushing d cur (s.inbox d)) =
        (s.link (.call t) (s.inbox d)).goCaller t (.pushing d cur (s.inbox d)) := by
      simp only [Reactors.goCaller, Reactors.link, Function.update_idem]
    rwa [same] at there
  · show none = (Function.update s.caller t (.snapped d cur) t).submitted
    rw [Function.update_self]
    rfl

theorem load_stop_queued (d : Dev) (queued : Queued s stack batch) (at_ : s.stop d = .submitting ∨ ∃ old, s.stop d = .pushing old) :
    Queued ((s.link (.stop d) (s.inbox d)).goStop d (.pushing (s.inbox d))) stack batch := by
  have out : (s.stop d).pushed = false := by
    rcases at_ with at_ | ⟨old, at_⟩ <;> rw [at_] <;> rfl
  have off (e : Dev) : .stop d ∉ line stack batch e := by
    intro inside
    have there := ((queued.stops e d).mp inside).2.1
    have same := ((queued.stops e d).mp inside).1
    rw [← same, out] at there
    cases there
  have before := queued_stop s stack batch d .submitting queued out.symm nofun
  have linked := queued_link _ stack batch (.stop d) (s.inbox d) before off nofun (fun e old same at_ => by
    cases same
    have here : (.submitting : StopAt Tid Dev) = .pushing old := (Function.update_self d _ _).symm.trans at_
    cases here)
  have there := queued_stop _ stack batch d (.pushing (s.inbox d)) linked ?_ (fun old same => by
    cases same
    exact Function.update_self _ _ _)
  · have same : ((s.goStop d .submitting).link (.stop d) (s.inbox d)).goStop d (.pushing (s.inbox d)) =
        (s.link (.stop d) (s.inbox d)).goStop d (.pushing (s.inbox d)) := by
      simp only [Reactors.goStop, Reactors.link, Function.update_idem]
    rwa [same] at there
  · show false = (Function.update s.stop d .submitting d).pushed
    rw [Function.update_self]
    rfl

omit [DecidableEq Tid] in
theorem line_push (d : Dev) (op : OpNode Tid Dev) : line (Function.update stack d (op :: stack d)) batch d = line stack batch d ++ [op] := by
  rw [line, line, Function.update_self, List.reverse_cons, List.append_assoc]

omit [DecidableEq Tid] [DecidableEq Dev] in
theorem line_elsewhere (stack' batch' : Line Tid Dev) (d : Dev) (front : stack' d = stack d) (back : batch' d = batch d) :
    line stack' batch' d = line stack batch d := by
  rw [line, line, front, back]

omit [DecidableEq Tid] in
theorem push_chain (d : Dev) (op : OpNode Tid Dev) (queued : Queued s stack batch) (linked : s.next op = s.inbox d) (e : Dev) :
    Chain s.next (Function.update s.inbox d (some op) e) (Function.update stack d (op :: stack d) e) := by
  by_cases same : e = d
  · subst same
    simp only [Function.update_self]
    exact ⟨rfl, by rw [linked]; exact queued.inbox e⟩
  · simp only [Function.update_of_ne same]
    exact queued.inbox e

omit [DecidableEq Tid] in
theorem push_once (d : Dev) (op : OpNode Tid Dev) (queued : Queued s stack batch) (off : ∀ e, op ∉ line stack batch e) (e : Dev) :
    (line (Function.update stack d (op :: stack d)) batch e).Nodup := by
  by_cases same : e = d
  · subst same
    rw [line_push]
    exact (queued.once e).append (List.nodup_singleton op) fun other inside only => off e (List.mem_singleton.mp only ▸ inside)
  · rw [line_elsewhere _ _ _ _ e (Function.update_of_ne same _ _) rfl]
    exact queued.once e

omit [DecidableEq Tid] in
theorem mem_line_push (d e : Dev) (op other : OpNode Tid Dev) :
    other ∈ line (Function.update stack d (op :: stack d)) batch e ↔ other ∈ line stack batch e ∨ (e = d ∧ other = op) := by
  by_cases same : e = d
  · subst same
    rw [line_push, List.mem_append, List.mem_singleton]
    simp
  · rw [line_elsewhere _ _ _ _ e (Function.update_of_ne same _ _) rfl]
    simp [same]

theorem push_queued (t : Tid) (d : Dev) (cur : Nat) (queued : Queued s stack batch) (at_ : s.caller t = .pushing d cur (s.inbox d)) :
    Queued ((s.setInbox d (some (.call t))).goCaller t (.notifying d cur)) (Function.update stack d (.call t :: stack d)) batch := by
  have prepares : (s.caller t).preparing = some d := by rw [at_]; rfl
  have off := prepared_off s stack batch t queued (submitted_unprepared _ _ prepares)
  refine ⟨push_chain s stack batch d _ queued (queued.linked t d cur _ at_), queued.hand, push_once s stack batch d _ queued off, fun e u => ?_,
    fun e f => ?_, fun u e => ?_, fun u e => ?_, fun u e cur' old => ?_, queued.linkedStop, queued.final, queued.late⟩
  · rw [mem_line_push]
    by_cases same : u = t
    · subst same
      simp only [Reactors.goCaller, Reactors.setInbox, Function.update_self, CallerAt.submitted, Option.some.injEq, and_true]
      exact ⟨fun h => ⟨(h.resolve_left (off e)).symm, queued.fresh u d prepares⟩, fun h => .inr h.1.symm⟩
    · simp only [Reactors.goCaller, Reactors.setInbox, Function.update_of_ne same]
      rw [← queued.calls e u]
      exact or_iff_left fun h => same (OpNode.call.inj h.2)
  · rw [mem_line_push, or_iff_left fun h => nomatch h.2]
    exact queued.stops e f
  all_goals by_cases same : u = t
  · subst same
    simp only [Reactors.goCaller, Reactors.setInbox, Function.update_self]
    nofun
  · simp only [Reactors.goCaller, Reactors.setInbox, Function.update_of_ne same]
    exact queued.fresh u e
  · subst same
    simp only [Reactors.goCaller, Reactors.setInbox, Function.update_self]
    nofun
  · simp only [Reactors.goCaller, Reactors.setInbox, Function.update_of_ne same]
    exact queued.left u e
  · subst same
    simp only [Reactors.goCaller, Reactors.setInbox, Function.update_self]
    nofun
  · simp only [Reactors.goCaller, Reactors.setInbox, Function.update_of_ne same]
    exact queued.linked u e cur' old

omit [DecidableEq Tid] in
theorem push_stop_queued (d : Dev) (queued : Queued s stack batch) (at_ : s.stop d = .pushing (s.inbox d)) :
    Queued ((s.setInbox d (some (.stop d))).goStop d .notifying) (Function.update stack d (.stop d :: stack d)) batch := by
  have serving : (s.run d).mode = .serving := by
    by_contra over_
    have pushed := queued.late d over_
    rw [at_] at pushed
    cases pushed
  have off (e : Dev) : .stop d ∉ line stack batch e := by
    intro inside
    obtain ⟨_, pushed, _⟩ := (queued.stops e d).mp inside
    obtain rfl := ((queued.stops e d).mp inside).1
    rw [at_] at pushed
    cases pushed
  refine ⟨push_chain s stack batch d _ queued (queued.linkedStop d _ at_), queued.hand, push_once s stack batch d _ queued off, fun e u => ?_,
    fun e f => ?_, queued.fresh, queued.left, queued.linked, fun e old => ?_, queued.final, fun e mode => ?_⟩
  · rw [mem_line_push, or_iff_left fun h => nomatch h.2]
    exact queued.calls e u
  · rw [mem_line_push]
    by_cases same : e = d
    · subst same
      simp only [Reactors.goStop, Reactors.setInbox, Function.update_self, StopAt.pushed, true_and]
      refine ⟨fun h => ?_, fun h => .inr (by rw [h.1])⟩
      rcases h with inside | same
      · exact ⟨((queued.stops e f).mp inside).1, serving⟩
      · exact ⟨OpNode.stop.inj same, serving⟩
    · simp only [Reactors.goStop, Reactors.setInbox, Function.update_of_ne same]
      rw [← queued.stops e f]
      exact or_iff_left fun h => same h.1
  all_goals by_cases same : e = d
  · subst same
    simp only [Reactors.goStop, Reactors.setInbox, Function.update_self]
    nofun
  · simp only [Reactors.goStop, Reactors.setInbox, Function.update_of_ne same]
    exact queued.linkedStop e old
  · subst same
    simp only [Reactors.goStop, Reactors.setInbox, Function.update_self]
    rfl
  · simp only [Reactors.goStop, Reactors.setInbox, Function.update_of_ne same]
    exact queued.late e mode

-- The stack is taken whole, and becomes the batch.
omit [DecidableEq Tid] in
theorem drain_queued (d : Dev) (mode : RunMode) (queued : Queued s stack batch) (empty : batch d = [])
    (same : mode = .serving ↔ (s.run d).mode = .serving) :
    Queued ((s.setInbox d none).goRun d (.reversing mode none (s.inbox d))) (Function.update stack d [])
      (Function.update batch d (stack d).reverse) := by
  have lines (e : Dev) : line (Function.update stack d []) (Function.update batch d (stack d).reverse) e = line stack batch e := by
    by_cases here : e = d
    · subst here
      rw [line, line, Function.update_self, Function.update_self, empty, List.reverse_nil, List.append_nil, List.nil_append]
    · exact line_elsewhere _ _ _ _ e (Function.update_of_ne here _ _) (Function.update_of_ne here _ _)
  refine ⟨fun e => ?_, fun e => ?_, fun e => by rw [lines]; exact queued.once e, fun e u => by rw [lines]; exact queued.calls e u, fun e f => ?_,
    queued.fresh, queued.left, queued.linked, queued.linkedStop, fun e m t rc after => ?_, fun e => ?_⟩
  all_goals by_cases here : e = d
  · subst here
    simp only [Reactors.goRun, Reactors.setInbox, Function.update_self]
    rfl
  · simp only [Reactors.goRun, Reactors.setInbox, Function.update_of_ne here]
    exact queued.inbox e
  · subst here
    simp only [Reactors.goRun, Reactors.setInbox, Function.update_self]
    exact ⟨[], stack e, rfl, queued.inbox e, (List.append_nil _).symm⟩
  · simp only [Reactors.goRun, Reactors.setInbox, Function.update_of_ne here]
    exact queued.hand e
  · subst here
    rw [lines, queued.stops e f]
    simp only [Reactors.goRun, Reactors.setInbox, Function.update_self, RunAt.mode, same]
  · rw [lines, queued.stops e f]
    simp only [Reactors.goRun, Reactors.setInbox, Function.update_of_ne here]
  · subst here
    simp only [Reactors.goRun, Reactors.setInbox, Function.update_self]
    nofun
  · simp only [Reactors.goRun, Reactors.setInbox, Function.update_of_ne here]
    exact queued.final e m t rc after
  · subst here
    simp only [Reactors.goRun, Reactors.setInbox, Function.update_self, RunAt.mode]
    exact fun other => queued.late e fun serving => other (same.mpr serving)
  · simp only [Reactors.goRun, Reactors.setInbox, Function.update_of_ne here]
    exact queued.late e

omit [DecidableEq Tid] [DecidableEq Dev] in
theorem line_apart (queued : Queued s stack batch) (op : OpNode Tid Dev) (d e : Dev) (here : op ∈ line stack batch d)
    (there : op ∈ line stack batch e) : d = e := by
  cases op with
  | call t => exact Option.some.inj (((queued.calls d t).mp here).1.symm.trans ((queued.calls e t).mp there).1)
  | stop f => exact ((queued.stops d f).mp here).1.symm.trans ((queued.stops e f).mp there).1

-- One turn of Reverse. The node that it links again is on no other chain.
theorem reverse_queued (d : Dev) (mode : RunMode) (prev : Option (OpNode Tid Dev)) (head : OpNode Tid Dev) (queued : Queued s stack batch)
    (at_ : s.run d = .reversing mode prev (some head)) :
    Queued ((s.link head prev).goRun d (.reversing mode (some head) (s.next head))) stack batch := by
  have hand := queued.hand d
  have once := queued.once d
  rw [at_] at hand
  obtain ⟨done, items, first, second, shape⟩ := hand
  obtain ⟨rest, rfl, chain⟩ := chain_pop s.next head items second
  rw [line, shape] at once
  have batchOnce := List.Nodup.of_append_left once
  rw [List.reverse_cons, List.append_assoc] at batchOnce
  have headDone : head ∉ done := by
    have inner := (List.nodup_append.mp batchOnce).2.1
    exact (List.nodup_cons.mp inner).1
  have headRest : head ∉ rest := fun inside =>
    (List.nodup_append.mp batchOnce).2.2 head (List.mem_reverse.mpr inside) head (List.mem_append_left _ (List.mem_singleton_self head)) rfl
  have headStack : head ∉ stack d := fun inside => by
    refine (List.nodup_append.mp once).2.2 head ?_ head (List.mem_reverse.mpr inside) rfl
    rw [List.reverse_cons]
    simp
  have here : head ∈ line stack batch d := by
    rw [line, shape, List.reverse_cons]
    simp
  have keeps (op : OpNode Tid Dev) (other : op ≠ head) : Function.update s.next head prev op = s.next op := Function.update_of_ne other _ _
  have offElse (e : Dev) (apart : e ≠ d) : head ∉ line stack batch e := fun inside => apart (line_apart s stack batch queued head e d inside here)
  refine ⟨fun e => ?_, fun e => ?_, queued.once, queued.calls, fun e f => ?_, queued.fresh, queued.left, fun u e cur old pushing => ?_,
    fun e old pushing => ?_, fun e m t rc after => ?_, fun e => ?_⟩
  · refine chain_congr s.next _ (stack e) _ (fun op inside => keeps op fun same => ?_) (queued.inbox e)
    by_cases apart : e = d
    · subst apart
      exact headStack (same ▸ inside)
    · exact offElse e apart (List.mem_append_right _ (List.mem_reverse.mpr (same ▸ inside)))
  · by_cases apart : e = d
    · subst apart
      simp only [Reactors.goRun, Function.update_self]
      refine ⟨head :: done, rest, ⟨rfl, ?_⟩, ?_, by rw [shape, List.reverse_cons, List.append_assoc]; rfl⟩
      · show Chain (Function.update s.next head prev) (Function.update s.next head prev head) done
        rw [Function.update_self]
        exact chain_congr s.next _ done prev (fun op inside => keeps op fun same => headDone (same ▸ inside)) first
      · exact chain_congr s.next _ rest _ (fun op inside => keeps op fun same => headRest (same ▸ inside)) chain
    · simp only [Reactors.goRun, Function.update_of_ne apart]
      exact carries_congr s.next _ _ _ (fun op inside => keeps op fun same => offElse e apart (List.mem_append_left _ (same ▸ inside)))
        (queued.hand e)
  · rw [queued.stops e f]
    by_cases apart : e = d
    · subst apart
      simp only [Reactors.goRun, Function.update_self, at_]
      rfl
    · simp only [Reactors.goRun, Function.update_of_ne apart]
      rfl
  · have other : (OpNode.call u : OpNode Tid Dev) ≠ head := fun same =>
      prepared_off s stack batch u queued (by rw [show s.caller u = .pushing e cur old from pushing]; rfl) d (same ▸ here)
    exact (keeps _ other).trans (queued.linked u e cur old pushing)
  · have other : (OpNode.stop e : OpNode Tid Dev) ≠ head := fun same => by
      have pushed := ((queued.stops d e).mp (same ▸ here)).2.1
      obtain rfl := ((queued.stops d e).mp (same ▸ here)).1
      rw [show s.stop e = .pushing old from pushing] at pushed
      cases pushed
    exact (keeps _ other).trans (queued.linkedStop e old pushing)
  · by_cases apart : e = d
    · subst apart
      simp only [Reactors.goRun, Function.update_self]
      nofun
    · simp only [Reactors.goRun, Function.update_of_ne apart]
      exact queued.final e m t rc after
  · by_cases apart : e = d
    · subst apart
      have late := queued.late e
      rw [at_] at late
      simp only [Reactors.goRun, Function.update_self]
      exact late
    · simp only [Reactors.goRun, Function.update_of_ne apart]
      exact queued.late e

omit [DecidableEq Tid] in
theorem line_pop (d : Dev) (op : OpNode Tid Dev) (rest : List (OpNode Tid Dev)) (shape : batch d = op :: rest) :
    line stack batch d = op :: line stack (Function.update batch d rest) d := by
  rw [line, line, shape, Function.update_self]
  rfl

omit [DecidableEq Tid] in
theorem mem_line_pop (d e : Dev) (op other : OpNode Tid Dev) (rest : List (OpNode Tid Dev)) (shape : batch d = op :: rest)
    (once : (line stack batch d).Nodup) :
    other ∈ line stack (Function.update batch d rest) e ↔ other ∈ line stack batch e ∧ (e = d → other ≠ op) := by
  by_cases same : e = d
  · subst same
    rw [line_pop stack batch e op rest shape] at once ⊢
    obtain ⟨fresh, _⟩ := List.nodup_cons.mp once
    rw [List.mem_cons]
    refine ⟨fun inside => ⟨.inr inside, fun _ equal => fresh (equal ▸ inside)⟩, fun h => h.1.resolve_left (h.2 rfl)⟩
  · rw [line_elsewhere _ _ _ _ e rfl (Function.update_of_ne same _ _)]
    simp [same]

omit [DecidableEq Tid] in
theorem pop_once (d e : Dev) (op : OpNode Tid Dev) (rest : List (OpNode Tid Dev)) (shape : batch d = op :: rest) (queued : Queued s stack batch) :
    (line stack (Function.update batch d rest) e).Nodup := by
  by_cases same : e = d
  · subst same
    have once := queued.once e
    rw [line_pop stack batch e op rest shape] at once
    exact (List.nodup_cons.mp once).2
  · rw [line_elsewhere _ _ _ _ e rfl (Function.update_of_ne same _ _)]
    exact queued.once e

-- The result is stored, and the node is on no chain any more.
theorem store_queued (d : Dev) (mode : RunMode) (t : Tid) (rc : Rc) (after : Option (OpNode Tid Dev)) (rest : List (OpNode Tid Dev))
    (shape : batch d = .call t :: rest) (chain : Chain s.next after rest) (queued : Queued s stack batch)
    (at_ : s.run d = .storing mode t rc after) :
    Queued ({ s with result := Function.update s.result t rc }.goRun d (.bumping mode t after)) stack (Function.update batch d rest) := by
  have here : .call t ∈ line stack batch d := by
    rw [line, shape]
    simp
  have settled := queued.final d mode t rc after at_
  have submitted := ((queued.calls d t).mp here).1
  refine ⟨queued.inbox, fun e => ?_, fun e => pop_once s stack batch d e _ rest shape queued, fun e u => ?_, fun e f => ?_, fun u e prepares => ?_,
    fun u e leaves => ?_, queued.linked, queued.linkedStop, fun e m u rc' after' => ?_, fun e => ?_⟩
  · by_cases same : e = d
    · subst same
      simp only [Reactors.goRun, Function.update_self]
      exact chain
    · simp only [Reactors.goRun, Function.update_of_ne same]
      exact queued.hand e
  · rw [mem_line_pop stack batch d e _ _ rest shape (queued.once d), queued.calls e u]
    by_cases same : u = t
    · subst same
      simp only [Reactors.goRun, Function.update_self]
      refine iff_of_false (fun h => ?_) fun h => settled h.2
      exact h.2 (Option.some.inj (h.1.1.symm.trans submitted)) rfl
    · simp only [Reactors.goRun, Function.update_of_ne same]
      exact and_iff_left fun _ equal => same (OpNode.call.inj equal)
  · have kept := (mem_line_pop stack batch d e _ (.stop f) rest shape (queued.once d)).trans (and_iff_left fun _ equal => nomatch equal)
    rw [kept, queued.stops e f]
    by_cases same : e = d
    · subst same
      simp only [Reactors.goRun, Function.update_self, at_]
      rfl
    · simp only [Reactors.goRun, Function.update_of_ne same]
  · by_cases same : u = t
    · subst same
      have none_ : (s.caller u).submitted = none := submitted_unprepared _ _ prepares
      rw [none_] at submitted
      cases submitted
    · simp only [Reactors.goRun, Function.update_of_ne same]
      exact queued.fresh u e prepares
  · by_cases same : u = t
    · subst same
      simp only [Reactors.goRun, Function.update_self]
      exact settled
    · simp only [Reactors.goRun, Function.update_of_ne same]
      exact queued.left u e leaves
  · by_cases same : e = d
    · subst same
      simp only [Reactors.goRun, Function.update_self]
      nofun
    · simp only [Reactors.goRun, Function.update_of_ne same]
      exact queued.final e m u rc' after'
  · by_cases same : e = d
    · subst same
      have late := queued.late e
      rw [at_] at late
      simp only [Reactors.goRun, Function.update_self]
      exact late
    · simp only [Reactors.goRun, Function.update_of_ne same]
      exact queued.late e

omit [DecidableEq Tid] in
theorem close_queued (d e : Dev) (after : Option (OpNode Tid Dev)) (rest : List (OpNode Tid Dev)) (shape : batch d = .stop e :: rest)
    (chain : Chain s.next after rest) (queued : Queued s stack batch) :
    Queued (s.goRun d (.ready .failing after)) stack (Function.update batch d rest) := by
  have here : .stop e ∈ line stack batch d := by
    rw [line, shape]
    simp
  obtain ⟨rfl, pushed, _⟩ := (queued.stops d e).mp here
  refine ⟨queued.inbox, fun f => ?_, fun f => pop_once s stack batch e f _ rest shape queued, fun f u => ?_, fun f g => ?_, queued.fresh,
    queued.left, queued.linked, queued.linkedStop, fun f m u rc' after' => ?_, fun f => ?_⟩
  · by_cases same : f = e
    · subst same
      simp only [Reactors.goRun, Function.update_self]
      exact chain
    · simp only [Reactors.goRun, Function.update_of_ne same]
      exact queued.hand f
  · rw [mem_line_pop stack batch e f _ _ rest shape (queued.once e), and_iff_left fun _ equal => nomatch equal]
    exact queued.calls f u
  · rw [mem_line_pop stack batch e f _ _ rest shape (queued.once e), queued.stops f g]
    by_cases same : f = e
    · subst same
      simp only [Reactors.goRun, Function.update_self, RunAt.mode]
      refine iff_of_false (fun h => h.2 trivial (congrArg OpNode.stop h.1.1)) fun h => nomatch h.2.2
    · simp only [Reactors.goRun, Function.update_of_ne same]
      exact and_iff_left fun equal => absurd equal same
  all_goals by_cases same : f = e
  · subst same
    simp only [Reactors.goRun, Function.update_self]
    nofun
  · simp only [Reactors.goRun, Function.update_of_ne same]
    exact queued.final f m u rc' after'
  · subst same
    exact fun _ => pushed
  · simp only [Reactors.goRun, Function.update_of_ne same]
    exact queued.late f

omit [DecidableEq Dev] in
theorem caller_move_queued (t : Tid) (there : CallerAt Tid Dev) (queued : Queued s stack batch) (moves : CallerMove s t (s.caller t) there) :
    Queued (s.goCaller t there) stack batch := by
  have fresh := queued.fresh t
  generalize at_ : s.caller t = pc at moves fresh
  cases moves with
  | snap d => exact queued_caller s stack batch t _ queued (.inl (by rw [at_]; rfl)) (fun e same => fresh e same) nofun nofun
  | pending d cur still => exact queued_caller s stack batch t _ queued (.inl (by rw [at_]; rfl)) nofun nofun nofun
  | done d cur final => exact queued_caller s stack batch t _ queued (.inl (by rw [at_]; rfl)) nofun (fun _ _ => final) nofun
  | changed d cur differs => exact queued_caller s stack batch t _ queued (.inl (by rw [at_]; rfl)) nofun nofun nofun
  | block d cur same => exact queued_caller s stack batch t _ queued (.inl (by rw [at_]; rfl)) nofun nofun nofun
  | stir d cur => exact queued_caller s stack batch t _ queued (.inl (by rw [at_]; rfl)) nofun nofun nofun
  | compare d cur => exact queued_caller s stack batch t _ queued (.inl (by rw [at_]; rfl)) nofun nofun nofun
  | reload d => exact queued_caller s stack batch t _ queued (.inl (by rw [at_]; rfl)) nofun nofun nofun

omit [DecidableEq Tid] in
theorem run_move_queued (d : Dev) (there : RunAt Tid Dev) (queued : Queued s stack batch) (moves : RunMove s d (s.run d) there) :
    Queued (s.goRun d there) stack batch := by
  have hand := queued.hand d
  generalize at_ : s.run d = pc at moves hand
  cases moves with
  | empty none_ => exact queued_run s stack batch d _ queued hand (by rw [at_]; rfl) nofun
  | filled some_ => exact queued_run s stack batch d _ queued hand (by rw [at_]; rfl) nofun
  | block none_ => exact queued_run s stack batch d _ queued hand (by rw [at_]; rfl) nofun
  | stir => exact queued_run s stack batch d _ queued hand (by rw [at_]; rfl) nofun
  | compare => exact queued_run s stack batch d _ queued hand (by rw [at_]; rfl) nofun
  | reversed mode prev =>
      obtain ⟨done, rest, first, second, shape⟩ := hand
      refine queued_run s stack batch d _ queued ?_ (by rw [at_]; rfl) nofun
      show Chain s.next prev (batch d)
      cases rest with
      | nil =>
          rw [shape, List.reverse_nil, List.nil_append]
          exact first
      | cons op rest => cases second.1
  | served => exact queued_run s stack batch d _ queued (chain_end s.next _ hand) (by rw [at_]; rfl) nofun
  | failed => exact queued_run s stack batch d _ queued (chain_end s.next _ hand) (by rw [at_]; rfl) nofun
  | ended => exact queued_run s stack batch d _ queued (chain_end s.next _ hand) (by rw [at_]; rfl) nofun
  | take mode op =>
      obtain ⟨rest, shape, chain⟩ := chain_pop s.next op _ hand
      exact queued_run s stack batch d _ queued ⟨rest, shape, chain⟩ (by rw [at_]; rfl) nofun

end Steps

omit [DecidableEq Tid] in
theorem advances_push (s s' : Reactors Tid Dev σ Req Out) (stack batch : Line Tid Dev) (d : Dev) (op : OpNode Tid Dev)
    (event : ReactorEvent Tid Dev Req Out) (calls : s'.calls = s.calls) (silent : ∀ e, handledMark e event = none)
    (mark : ∀ e, pushedMark e event = if d = e then some (s.item op) else none) :
    Advances s s' stack batch (Function.update stack d (op :: stack d)) batch [event] := by
  have items := item_congr s s' calls
  have handled (e : Dev) : handledOn e [event] = [] := by rw [handledOn, List.filterMap_cons_none (silent e), List.filterMap_nil]
  refine ⟨fun e => ?_, fun e _ => by rw [handled, items, List.nil_append]⟩
  rw [handled, List.nil_append, items]
  by_cases same : d = e
  · subst same
    rw [line_push, List.map_append, pushedOn, List.filterMap_cons_some ((mark d).trans (if_pos rfl))]
    rfl
  · rw [line_elsewhere _ _ _ _ e (Function.update_of_ne (Ne.symm same) _ _) rfl, pushedOn,
      List.filterMap_cons_none ((mark e).trans (if_neg same)), List.filterMap_nil, List.append_nil]

omit [DecidableEq Tid] in
theorem advances_pop (s s' : Reactors Tid Dev σ Req Out) (stack batch : Line Tid Dev) (d : Dev) (op : OpNode Tid Dev)
    (rest : List (OpNode Tid Dev)) (event : ReactorEvent Tid Dev Req Out) (shape : batch d = op :: rest) (calls : s'.calls = s.calls)
    (silent : ∀ e, pushedMark e event = none) (mark : ∀ e, handledMark e event = if d = e then some (s.item op) else none) :
    Advances s s' stack batch stack (Function.update batch d rest) [event] := by
  have items := item_congr s s' calls
  refine ⟨fun e => ?_, fun e _ => ?_⟩
  · rw [pushedOn, List.filterMap_cons_none (silent e), List.filterMap_nil, List.append_nil, items]
    by_cases same : d = e
    · subst same
      rw [line_pop stack batch d op rest shape, handledOn, List.filterMap_cons_some ((mark d).trans (if_pos rfl))]
      rfl
    · rw [line_elsewhere _ _ _ _ e rfl (Function.update_of_ne (Ne.symm same) _ _), handledOn,
        List.filterMap_cons_none ((mark e).trans (if_neg same)), List.filterMap_nil, List.nil_append]
  · rw [items]
    by_cases same : d = e
    · subst same
      rw [Function.update_self, shape, handledOn, List.filterMap_cons_some ((mark d).trans (if_pos rfl))]
      rfl
    · rw [Function.update_of_ne (Ne.symm same), handledOn, List.filterMap_cons_none ((mark e).trans (if_neg same)), List.filterMap_nil,
        List.nil_append]

omit [DecidableEq Tid] in
theorem advances_drain (s s' : Reactors Tid Dev σ Req Out) (stack batch : Line Tid Dev) (d : Dev) (events : List (ReactorEvent Tid Dev Req Out))
    (empty : batch d = []) (early : (s.run d).mode ≠ .last) (calls : s'.calls = s.calls)
    (silent : ∀ e ∈ events, ∀ d, pushedMark d e = none ∧ handledMark d e = none) :
    Advances s s' stack batch (Function.update stack d []) (Function.update batch d (stack d).reverse) events := by
  have still := advances_still s s' stack batch events calls silent
  refine ⟨fun e => ?_, fun e last => ?_⟩
  swap
  · have other : e ≠ d := fun same => early (same ▸ last)
    rw [Function.update_of_ne other]
    exact still.hand e last
  have lines : line (Function.update stack d []) (Function.update batch d (stack d).reverse) e = line stack batch e := by
    by_cases here : e = d
    · subst here
      rw [line, line, Function.update_self, Function.update_self, empty, List.reverse_nil, List.append_nil, List.nil_append]
    · exact line_elsewhere _ _ _ _ e (Function.update_of_ne here _ _) (Function.update_of_ne here _ _)
  rw [lines]
  exact still.line e

section Machine

variable (service : Service σ Req Out) (admits : Dev → Req → Prop)

theorem queued_step (s s' : Reactors Tid Dev σ Req Out) (a : ReactorActor Tid Dev) (events : List (ReactorEvent Tid Dev Req Out))
    (stack batch : Line Tid Dev) (queued : Queued s stack batch) (step : ReactorStep service admits s a events s') :
    ∃ stack' batch', Queued s' stack' batch' ∧ Advances s s' stack batch stack' batch' events := by
  have silent : ∀ e ∈ ([] : List (ReactorEvent Tid Dev Req Out)), ∀ d, pushedMark d e = none ∧ handledMark d e = none := nofun
  cases step with
  | call t d req rest admitted =>
      have items (e : Dev) (op : OpNode Tid Dev) (inside : op ∈ line stack batch e) :
          (({ s with
            request := Function.update s.request t req
            result := Function.update s.result t kOpPending
            calls := Function.update s.calls t (s.calls t + 1) }.link (.call t) none).goCaller t (.called d)).item op = s.item op := by
        cases op with
        | call u =>
            have other : u ≠ t := fun same => prepared_off s stack batch t queued (by rw [rest]; rfl) e (same ▸ inside)
            exact congrArg some (congrArg (Prod.mk u) (Function.update_of_ne other _ _))
        | stop f => rfl
      refine ⟨stack, batch, call_queued s stack batch t d req queued rest, fun e => ?_, fun e _ => ?_⟩
      · rw [handledOn, pushedOn, List.filterMap_cons_none rfl, List.filterMap_cons_none rfl, List.filterMap_nil, List.filterMap_nil,
          List.nil_append, List.append_nil]
        exact List.map_congr_left (items e)
      · rw [handledOn, List.filterMap_cons_none rfl, List.filterMap_nil, List.nil_append]
        exact List.map_congr_left fun op inside => items e op (List.mem_append_left _ inside)
  | caller t there moves =>
      exact ⟨stack, batch, caller_move_queued s stack batch t there queued moves, advances_still _ _ _ _ _ rfl silent⟩
  | load t d cur at_ => exact ⟨stack, batch, load_queued s stack batch t d cur queued at_, advances_still _ _ _ _ _ rfl silent⟩
  | push t d cur old at_ same =>
      subst same
      exact ⟨_, batch, push_queued s stack batch t d cur queued at_, advances_push _ _ _ _ d (.call t) _ rfl (fun _ => rfl) fun _ => rfl⟩
  | notifyInbox t d cur at_ =>
      refine ⟨stack, batch, ?_, advances_still _ _ _ _ _ rfl silent⟩
      have woken := queued_run s stack batch d (s.run d).notified queued (carries_notified _ _ _ (queued.hand d)) (notified_mode _)
        fun m u rc after same => queued.final d m u rc after (notified_storing _ m u rc after same)
      exact queued_caller _ stack batch t _ woken (.inl (by show _ = (s.caller t).submitted; rw [at_]; rfl)) nofun nofun nofun
  | ret t d at_ =>
      refine ⟨stack, batch, queued_caller s stack batch t .idle queued (.inr (queued.left t d at_)) nofun nofun nofun,
        advances_still _ _ _ _ _ rfl ?_⟩
      intro e member
      cases List.mem_singleton.mp member
      exact fun _ => ⟨rfl, rfl⟩
  | stop d rest => exact ⟨stack, batch, queued_stop s stack batch d _ queued (by rw [rest]; rfl) nofun, advances_still _ _ _ _ _ rfl silent⟩
  | loadStop d at_ => exact ⟨stack, batch, load_stop_queued s stack batch d queued at_, advances_still _ _ _ _ _ rfl silent⟩
  | pushStop d old at_ same =>
      subst same
      exact ⟨_, batch, push_stop_queued s stack batch d queued at_, advances_push _ _ _ _ d (.stop d) _ rfl (fun _ => rfl) fun _ => rfl⟩
  | notifyStop d at_ =>
      refine ⟨stack, batch, ?_, advances_still _ _ _ _ _ rfl silent⟩
      have woken := queued_run s stack batch d (s.run d).notified queued (carries_notified _ _ _ (queued.hand d)) (notified_mode _)
        fun m u rc after same => queued.final d m u rc after (notified_storing _ m u rc after same)
      exact queued_stop _ stack batch d _ woken (by show _ = (s.stop d).pushed; rw [at_]; rfl) nofun
  | join d at_ gone => exact ⟨stack, batch, queued_stop s stack batch d _ queued (by rw [at_]; rfl) nofun, advances_still _ _ _ _ _ rfl silent⟩
  | run d there moves =>
      exact ⟨stack, batch, run_move_queued s stack batch d there queued moves, advances_still _ _ _ _ _ rfl silent⟩
  | drain d at_ some_ =>
      have empty : batch d = [] := by
        have hand := queued.hand d
        rwa [at_] at hand
      exact ⟨_, _, drain_queued s stack batch d .serving queued empty (by rw [at_]; rfl),
        advances_drain _ _ _ _ d _ empty (by rw [at_]; nofun) rfl silent⟩
  | lastDrain d at_ =>
      have empty : batch d = [] := by
        have hand := queued.hand d
        rwa [at_] at hand
      refine ⟨_, _, drain_queued s stack batch d .last queued empty (by rw [at_]; exact iff_of_false nofun nofun),
        advances_drain _ _ _ _ d _ empty (by rw [at_]; nofun) rfl fun e member => ?_⟩
      cases List.mem_singleton.mp member
      exact fun _ => ⟨rfl, rfl⟩
  | reverse d mode prev head at_ =>
      exact ⟨stack, batch, reverse_queued s stack batch d mode prev head queued at_, advances_still _ _ _ _ _ rfl silent⟩
  | execute d t next rc out after at_ serves =>
      have hand := queued.hand d
      rw [at_] at hand
      have same : Queued { s with device := Function.update s.device d after, out := Function.update s.out t out } stack batch :=
        ⟨queued.inbox, queued.hand, queued.once, queued.calls, queued.stops, queued.fresh, queued.left, queued.linked, queued.linkedStop,
          queued.final, queued.late⟩
      refine ⟨stack, batch, queued_run _ stack batch d _ same hand (by show _ = (s.run d).mode; rw [at_]; rfl) ?_,
        advances_still _ _ _ _ _ rfl fun e member => ?_⟩
      · intro m u rc' after' here
        cases here
        exact service.final _ _ _ _ _ serves
      · cases List.mem_singleton.mp member
        exact fun _ => ⟨rfl, rfl⟩
  | close d e next at_ =>
      have hand := queued.hand d
      rw [at_] at hand
      obtain ⟨rest, shape, chain⟩ := hand
      have same : Queued { s with device := Function.update s.device d (service.close (s.device d)) } stack batch :=
        ⟨queued.inbox, queued.hand, queued.once, queued.calls, queued.stops, queued.fresh, queued.left, queued.linked, queued.linkedStop,
          queued.final, queued.late⟩
      exact ⟨stack, _, close_queued _ stack batch d e next rest shape chain same,
        advances_pop _ _ _ _ d (.stop e) rest _ shape rfl (fun _ => rfl) fun _ => rfl⟩
  | refuse d mode t next at_ late =>
      have hand := queued.hand d
      rw [at_] at hand
      refine ⟨stack, batch, queued_run s stack batch d _ queued hand (by rw [at_]; rfl) ?_, advances_still _ _ _ _ _ rfl fun e member => ?_⟩
      · intro m u rc after here
        cases here
        decide
      · cases List.mem_singleton.mp member
        exact fun _ => ⟨rfl, rfl⟩
  | store d mode t rc next at_ =>
      have hand := queued.hand d
      rw [at_] at hand
      obtain ⟨rest, shape, chain⟩ := hand
      exact ⟨stack, _, store_queued s stack batch d mode t rc next rest shape chain queued at_,
        advances_pop _ _ _ _ d (.call t) rest _ shape rfl (fun _ => rfl) fun _ => rfl⟩
  | bump d mode w next at_ =>
      have hand := queued.hand d
      rw [at_] at hand
      have same : Queued { s with wake := Function.update s.wake w (s.wake w + 1) } stack batch :=
        ⟨queued.inbox, queued.hand, queued.once, queued.calls, queued.stops, queued.fresh, queued.left, queued.linked, queued.linkedStop,
          queued.final, queued.late⟩
      exact ⟨stack, batch, queued_run _ stack batch d _ same hand (by show _ = (s.run d).mode; rw [at_]; rfl) nofun,
        advances_still _ _ _ _ _ rfl silent⟩
  | notify d mode w next at_ =>
      have hand := queued.hand d
      rw [at_] at hand
      have woken := queued_caller s stack batch w (s.caller w).notified queued (.inl (notified_submitted _))
        (fun e prepares => queued.fresh w e (by rwa [notified_preparing] at prepares))
        (fun e leaves => queued.left w e (notified_leaving _ e leaves))
        fun e cur old pushing => queued.linked w e cur old (notified_pushing _ e cur old pushing)
      exact ⟨stack, batch, queued_run _ stack batch d _ woken hand (by show _ = (s.run d).mode; rw [at_]; rfl) nofun,
        advances_still _ _ _ _ _ rfl silent⟩

end Machine

end Cabe
