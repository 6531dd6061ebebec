import Cabe.WalFull
import Cabe.WalResume

set_option autoImplicit false

namespace Cabe

open Storage

-- A run hands over its entries in groups and takes a checkpoint now and then.
inductive ScriptStep where
  | put (batch : List WalEntry)
  | checkpoint

-- Flush, then give back every block before the tail.
def Wal.checkpoint (level : WalLevel) (w : Wal) : Wal :=
  match w.flush level with
  | (_, w) => (w.reclaimUpTo w.reclaimBoundary).2

-- One WriteWal after the other.
def Wal.writeEach (level : WalLevel) : List WalEntry → Wal → List Rc × Wal
  | [], w => ([], w)
  | e :: rest, w =>
      match w.writeWal level e with
      | (rc, w) =>
        match Wal.writeEach level rest w with
        | (codes, w) => (rc :: codes, w)

-- The codes of the entries, and the log after every checkpoint and at the end.
structure Followed where
  codes : List Rc
  stops : List Wal

def Wal.follow (issue : List WalEntry → Wal → List Rc × Wal) (level : WalLevel) : List ScriptStep → Wal → Followed
  | [], w => ⟨[], [(w.flush level).2]⟩
  | .put batch :: rest, w =>
      let run := Wal.follow issue level rest (issue batch w).2
      ⟨(issue batch w).1 ++ run.codes, run.stops⟩
  | .checkpoint :: rest, w =>
      let run := Wal.follow issue level rest (w.checkpoint level)
      ⟨run.codes, w.checkpoint level :: run.stops⟩

-- The log as a list of frames and a head block, however they are handed over:
-- what does not fit behind the head is refused, a checkpoint keeps the last block.
structure RingLedger where
  entries : List WalEntry
  head : Nat

def RingLedger.room (blocks : Nat) (l : RingLedger) : Nat := 32 * (l.head + blocks - 1) - l.entries.length

def RingLedger.put (blocks : Nat) (l : RingLedger) (batch : List WalEntry) : RingLedger :=
  { l with entries := l.entries ++ batch.take (l.room blocks) }

def RingLedger.codes (blocks : Nat) (l : RingLedger) (batch : List WalEntry) : List Rc :=
  List.replicate (min batch.length (l.room blocks)) Err.kSuccess ++ List.replicate (batch.length - l.room blocks) Err.kWalFull

def RingLedger.checkpoint (l : RingLedger) : RingLedger := { l with head := l.entries.length / 32 }

structure Accounted where
  codes : List Rc
  stops : List RingLedger

def RingLedger.follow (blocks : Nat) : List ScriptStep → RingLedger → Accounted
  | [], l => ⟨[], [l]⟩
  | .put batch :: rest, l =>
      let run := RingLedger.follow blocks rest (l.put blocks batch)
      ⟨l.codes blocks batch ++ run.codes, run.stops⟩
  | .checkpoint :: rest, l =>
      let run := RingLedger.follow blocks rest l.checkpoint
      ⟨run.codes, l.checkpoint :: run.stops⟩

theorem ledger_room_cons (blocks : Nat) (l : RingLedger) (e : WalEntry) : (l.put blocks [e]).room blocks = l.room blocks - 1 := by
  unfold RingLedger.put RingLedger.room
  simp only [List.length_append, List.length_take, List.length_singleton]
  omega

-- A group counts as its entries one by one.
theorem ledger_put_cons (blocks : Nat) (l : RingLedger) (e : WalEntry) (rest : List WalEntry) :
    l.put blocks (e :: rest) = (l.put blocks [e]).put blocks rest := by
  have room := ledger_room_cons blocks l e
  cases free : l.room blocks with
  | zero =>
      have left : (l.put blocks [e]).room blocks = 0 := by omega
      rw [RingLedger.put, RingLedger.put, left, RingLedger.put, free]
      simp
  | succ n =>
      have left : (l.put blocks [e]).room blocks = n := by omega
      rw [RingLedger.put, RingLedger.put, left, RingLedger.put, free]
      simp

theorem ledger_codes_cons (blocks : Nat) (l : RingLedger) (e : WalEntry) (rest : List WalEntry) :
    l.codes blocks (e :: rest) = l.codes blocks [e] ++ (l.put blocks [e]).codes blocks rest := by
  have room := ledger_room_cons blocks l e
  cases free : l.room blocks with
  | zero =>
      have left : (l.put blocks [e]).room blocks = 0 := by omega
      simp [RingLedger.codes, free, left, List.replicate_succ]
  | succ n =>
      have left : (l.put blocks [e]).room blocks = n := by omega
      simp [RingLedger.codes, free, left, List.replicate_succ, Nat.succ_min_succ]

theorem ledger_codes_legal (blocks : Nat) (l : RingLedger) (batch : List WalEntry) :
    ∀ rc ∈ l.codes blocks batch, rc = Err.kSuccess ∨ rc = Err.kWalFull := by
  intro rc member
  rcases List.mem_append.mp member with accepted | refused
  · exact .inl (List.mem_replicate.mp accepted).2
  · exact .inr (List.mem_replicate.mp refused).2

theorem ledger_follow_legal (blocks : Nat) (script : List ScriptStep) :
    ∀ l : RingLedger, ∀ rc ∈ (l.follow blocks script).codes, rc = Err.kSuccess ∨ rc = Err.kWalFull := by
  induction script with
  | nil =>
      intro l rc member
      cases member
  | cons step script ih =>
      intro l rc member
      cases step with
      | put batch =>
          rcases List.mem_append.mp member with here | later
          · exact ledger_codes_legal blocks l batch rc here
          · exact ih _ rc later
      | checkpoint => exact ih _ rc member

def Legal (batch : List WalEntry) : Prop := ∀ e ∈ batch, e.key.length ≤ kWalKeyMax

-- A way of handing entries over that keeps a log on its ledger.
structure Keeps (blocks : Nat) (issue : List WalEntry → Wal → List Rc × Wal) (level : WalLevel) (on stop : RingLedger → Wal → Prop) : Prop where
  put : ∀ l w batch, on l w → Legal batch → (issue batch w).1 = l.codes blocks batch ∧ on (l.put blocks batch) (issue batch w).2
  checkpoint : ∀ l w, on l w → on l.checkpoint (w.checkpoint level) ∧ stop l.checkpoint (w.checkpoint level)
  flush : ∀ l w, on l w → stop l (w.flush level).2

theorem follow_keeps (blocks : Nat) (issue : List WalEntry → Wal → List Rc × Wal) (level : WalLevel) (on stop : RingLedger → Wal → Prop)
    (keeps : Keeps blocks issue level on stop) (script : List ScriptStep) :
    ∀ l w, on l w → (∀ batch, .put batch ∈ script → Legal batch) →
      (Wal.follow issue level script w).codes = (l.follow blocks script).codes ∧
        List.Forall₂ stop (l.follow blocks script).stops (Wal.follow issue level script w).stops := by
  induction script with
  | nil => exact fun l w here _ => ⟨rfl, .cons (keeps.flush l w here) .nil⟩
  | cons step script ih =>
      intro l w here legal
      have rest : ∀ batch, .put batch ∈ script → Legal batch := fun batch member => legal batch (.tail _ member)
      cases step with
      | put batch =>
          obtain ⟨codes, next⟩ := keeps.put l w batch here (legal batch (.head _))
          obtain ⟨later, stops⟩ := ih _ _ next rest
          exact ⟨congrArg₂ (· ++ ·) codes later, stops⟩
      | checkpoint =>
          obtain ⟨next, stopped⟩ := keeps.checkpoint l w here
          obtain ⟨later, stops⟩ := ih _ _ next rest
          exact ⟨later, .cons stopped stops⟩

theorem each_keeps (blocks : Nat) (level : WalLevel) (on : RingLedger → Wal → Prop)
    (one : ∀ l w e, on l w → e.key.length ≤ kWalKeyMax → l.codes blocks [e] = [(w.writeWal level e).1] ∧
      on (l.put blocks [e]) (w.writeWal level e).2) (batch : List WalEntry) :
    ∀ l w, on l w → Legal batch → (Wal.writeEach level batch w).1 = l.codes blocks batch ∧
      on (l.put blocks batch) (Wal.writeEach level batch w).2 := by
  induction batch with
  | nil => exact fun l w here _ => ⟨by simp [Wal.writeEach, RingLedger.codes], by simpa [Wal.writeEach, RingLedger.put] using here⟩
  | cons e rest ih =>
      intro l w here legal
      obtain ⟨code, next⟩ := one l w e here (legal e (.head _))
      obtain ⟨codes, last⟩ := ih _ _ next fun e member => legal e (.tail _ member)
      rw [ledger_codes_cons blocks l e rest, ledger_put_cons blocks l e rest, code]
      exact ⟨congrArg _ codes, last⟩

-- A log whose frames and ring are those of its ledger, and one that has written
-- all of them out.
structure OnLedger (g : Ring) (bufBlocks : Nat) (base : Image) (l : RingLedger) (v : WalView) (w : Wal) : Prop where
  steady : Steady g bufBlocks v w
  entries : v.entries = l.entries
  head : v.head = l.head
  laid : Laid g v.entries base v.visible w.dev.medium.cur

def OnLedger.Out (v : WalView) (w : Wal) : Prop := v.visible = v.entries.length ∧ w.nFrames < 32

theorem on_ledger_step (g : Ring) (bufBlocks : Nat) (base : Image) (l next : RingLedger) (v u : WalView) (w after : Wal) (more : List WalEntry)
    (here : OnLedger g bufBlocks base l v w) (step : WalStep g bufBlocks v w more u after) (roomy : Roomy after)
    (entries : next.entries = l.entries ++ more) (head : next.head = l.head) : OnLedger g bufBlocks base next u after :=
  ⟨steady_step g bufBlocks v u w after more here.steady step roomy, by rw [step.grown.entries, here.entries, entries],
    by rw [step.grown.head, here.head, head], step.laid here.steady.healthy base here.laid⟩

theorem ledger_full (g : Ring) (bufBlocks : Nat) (base : Image) (l : RingLedger) (v : WalView) (w : Wal)
    (here : OnLedger g bufBlocks base l v w) : v.Full g ↔ l.room g.blocks = 0 := by
  have free := free_frames g bufBlocks v w here.steady.inv
  unfold WalView.Full RingLedger.room
  rw [← here.entries, ← here.head]
  omega

theorem on_ledger_write (g : Ring) (bufBlocks : Nat) (base : Image) (l : RingLedger) (v : WalView) (w : Wal) (level : WalLevel) (e : WalEntry)
    (here : OnLedger g bufBlocks base l v w) (short : e.key.length ≤ kWalKeyMax) :
    l.codes g.blocks [e] = [(w.writeWal level e).1] ∧ ∃ next, OnLedger g bufBlocks base (l.put g.blocks [e]) next (w.writeWal level e).2 := by
  have room := ledger_full g bufBlocks base l v w here
  rcases steady_write g bufBlocks v w level e here.steady short with ⟨full, done⟩ | ⟨free, next, after, done, step, roomy⟩
  · have none_ := room.mp full
    rw [done]
    refine ⟨by simp [RingLedger.codes, none_], _, on_ledger_step g bufBlocks base l _ v _ w _ [] here
      (reopened_step g bufBlocks v w here.steady.inv).1 (reopened_roomy g bufBlocks v w here.steady) ?_ rfl⟩
    simp [RingLedger.put, none_]
  · have some_ : 1 ≤ l.room g.blocks := Nat.one_le_iff_ne_zero.mpr (mt room.mpr free)
    rw [done]
    refine ⟨?_, next, on_ledger_step g bufBlocks base l _ v next w after [e] here step roomy ?_ rfl⟩
    · simp [RingLedger.codes, Nat.min_eq_left some_, Nat.sub_eq_zero_of_le some_]
    · simp [RingLedger.put, List.take_of_length_le, some_]

theorem on_ledger_flush (g : Ring) (bufBlocks : Nat) (base : Image) (l : RingLedger) (v : WalView) (w : Wal) (level : WalLevel)
    (here : OnLedger g bufBlocks base l v w) (out : isWalSyncLevel level = true → OnLedger.Out v w) :
    ∃ next, OnLedger g bufBlocks base l next (w.flush level).2 ∧ OnLedger.Out next (w.flush level).2 := by
  obtain ⟨next, after, done, step, roomy, batched, sync⟩ := flush_roomy g bufBlocks v w level here.steady.inv here.steady.healthy
    (fun _ => here.steady.roomy)
  rw [done]
  refine ⟨next, on_ledger_step g bufBlocks base l l v next w after [] here step roomy (List.append_nil _).symm rfl, ?_⟩
  cases kind : isWalSyncLevel level with
  | true =>
      obtain ⟨rfl, rfl⟩ := sync kind
      exact out kind
  | false => exact batched kind

theorem on_ledger_checkpoint (g : Ring) (bufBlocks : Nat) (base : Image) (l : RingLedger) (v : WalView) (w : Wal) (level : WalLevel)
    (here : OnLedger g bufBlocks base l v w) (out : isWalSyncLevel level = true → OnLedger.Out v w) :
    ∃ next, OnLedger g bufBlocks base l.checkpoint next (w.checkpoint level) ∧ OnLedger.Out next (w.checkpoint level) := by
  obtain ⟨u, flushed, written, few⟩ := on_ledger_flush g bufBlocks base l v w level here out
  show ∃ next, OnLedger g bufBlocks base l.checkpoint next ((w.flush level).2.reclaimUpTo (w.flush level).2.curOff).2 ∧
    OnLedger.Out next ((w.flush level).2.reclaimUpTo (w.flush level).2.curOff).2
  generalize (w.flush level).2 = after at flushed few
  have count := flushed.steady.inv.count
  have roomy := reclaim_roomy after after.curOff flushed.steady.roomy
  obtain ⟨done, kept⟩ := reclaim_inv g bufBlocks u after u.cur flushed.steady.inv flushed.steady.inv.headCur le_rfl
  rw [flushed.steady.inv.curOff, done] at roomy ⊢
  refine ⟨u.reclaimed u.cur, ⟨⟨kept, flushed.steady.healthy, roomy⟩, flushed.entries, ?_, flushed.laid⟩, written, few⟩
  show u.cur = l.entries.length / 32
  rw [← flushed.entries]
  omega

-- A group is written out as a whole, unless none of it is accepted.
theorem on_ledger_group (g : Ring) (bufBlocks : Nat) (base : Image) (l : RingLedger) (v : WalView) (w : Wal) (batch : List WalEntry)
    (here : OnLedger g bufBlocks base l v w) (out : OnLedger.Out v w) (legal : Legal batch) :
    (w.processBatch batch).1 = l.codes g.blocks batch ∧
      ∃ next, OnLedger g bufBlocks base (l.put g.blocks batch) next (w.processBatch batch).2 ∧ OnLedger.Out next (w.processBatch batch).2 := by
  obtain ⟨more, rest, next, after, rfl, done, step, roomy, closed, written, still⟩ := steady_batch g bufBlocks v w batch here.steady legal
  have free := free_frames g bufBlocks v w here.steady.inv
  have left := free_frames g bufBlocks next after step.inv
  have grown : next.entries.length = v.entries.length + more.length := by rw [step.grown.entries, List.length_append]
  have room : l.room g.blocks = w.freeFrames := by
    rw [RingLedger.room, ← here.entries, ← here.head]
    omega
  rw [step.grown.head, grown] at left
  have taken : more.length ≤ w.freeFrames ∧ (rest = [] ∨ w.freeFrames = more.length) := by
    refine ⟨by omega, ?_⟩
    rcases closed with none_ | full
    · exact .inl none_
    · unfold WalView.Full at full
      rw [step.grown.head, grown] at full
      exact .inr (by omega)
  have front : (more ++ rest).take (l.room g.blocks) = more := by
    rw [room]
    rcases taken.2 with rfl | exact_
    · rw [List.append_nil, List.take_of_length_le taken.1]
    · rw [exact_, List.take_left]
  refine ⟨?_, next, ?_, ?_⟩
  · rw [done, RingLedger.codes, room, List.length_append]
    rcases taken.2 with rfl | exact_
    · rw [List.length_nil, Nat.add_zero, Nat.min_eq_left taken.1, Nat.sub_eq_zero_of_le taken.1, List.replicate_zero]
    · rw [exact_, Nat.min_eq_right (Nat.le_add_right _ _), Nat.add_sub_cancel_left]
  · rw [done]
    exact on_ledger_step g bufBlocks base l _ v next w after more here step roomy (by rw [RingLedger.put, front]) rfl
  · rw [done]
    by_cases none_ : more = []
    · have seen := step.grown.visible
      have bound := step.inv.visibleAll
      have few := out.2
      have before := out.1
      rw [none_, List.length_nil] at grown
      refine ⟨by omega, ?_⟩
      rcases still none_ with rfl | rfl
      · exact few
      · unfold Wal.reopened
        split <;> exact few
    · have seen := step.inv.syncedVisible
      have bound := step.inv.visibleAll
      obtain ⟨synced, few⟩ := written none_
      exact ⟨by omega, few⟩

-- Two logs that have written out the same ledger over the same device are the same.
theorem out_same (g : Ring) (bufBlocks : Nat) (base : Image) (l : RingLedger) (u v : WalView) (a b : Wal)
    (left : OnLedger g bufBlocks base l u a) (right : OnLedger g bufBlocks base l v b) (outLeft : OnLedger.Out u a) (outRight : OnLedger.Out v b) :
    a.SameState b ∧ a.SameRing b := by
  have lInv := left.steady.inv
  have rInv := right.steady.inv
  have entries : u.entries = v.entries := left.entries.trans right.entries.symm
  have head : u.head = v.head := left.head.trans right.head.symm
  have lCount := lInv.count
  have rCount := rInv.count
  rw [entries] at lCount
  have cur : u.cur = v.cur := by
    have lFew := outLeft.2
    have rFew := outRight.2
    omega
  have frames : a.nFrames = b.nFrames := by omega
  have curOff : a.curOff = b.curOff := by rw [lInv.curOff, rInv.curOff, cur]
  have headOff : a.headOff = b.headOff := by rw [lInv.headOff, rInv.headOff, head]
  have lLaid := left.laid
  have rLaid := right.laid
  rw [outLeft.1, entries] at lLaid
  rw [outRight.1] at rLaid
  refine ⟨⟨curOff, frames, by rw [lInv.seqNext, rInv.seqNext, entries], headOff, ?_, ?_⟩,
    slots_same_ring g bufBlocks u v a b lInv rInv (laid_unique g v.entries base _ _ _ lLaid rLaid)⟩
  · rw [lInv.buffer, rInv.buffer, entries, cur, frames]
  · unfold Wal.windowAt
    rw [lInv.ringStart, rInv.ringStart, lInv.ringEnd, rInv.ringEnd, lInv.bufSize, rInv.bufSize, curOff, headOff]

theorem each_synchronous (w : Wal) (level : WalLevel) (e : WalEntry) (buffered : w.curBuf ≠ none) (sync : isWalSyncLevel level = true)
    (short : e.key.length ≤ kWalKeyMax) :
    w.writeWal level e = ((w.processBatch [e]).1.headD Err.kSuccess, (w.processBatch [e]).2) := by
  have long : ¬ e.key.length > kWalKeyMax := by omega
  simp only [Wal.writeWal, if_neg long, if_neg buffered, sync, if_true]

-- A log that is on the ledger and has written everything out.
def OnAndOut (g : Ring) (bufBlocks : Nat) (base : Image) (l : RingLedger) (w : Wal) : Prop :=
  ∃ v, OnLedger g bufBlocks base l v w ∧ OnLedger.Out v w

theorem group_keeps (g : Ring) (bufBlocks : Nat) (base : Image) (level : WalLevel) :
    Keeps g.blocks (fun batch w => w.processBatch batch) level (OnAndOut g bufBlocks base) (OnAndOut g bufBlocks base) where
  put := fun l w batch ⟨v, here, out⟩ legal => on_ledger_group g bufBlocks base l v w batch here out legal
  checkpoint := fun l w ⟨v, here, out⟩ => by
    have both := on_ledger_checkpoint g bufBlocks base l v w level here fun _ => out
    exact ⟨both, both⟩
  flush := fun l w ⟨v, here, out⟩ => on_ledger_flush g bufBlocks base l v w level here fun _ => out

theorem synchronous_keeps (g : Ring) (bufBlocks : Nat) (base : Image) (level : WalLevel) (sync : isWalSyncLevel level = true) :
    Keeps g.blocks (Wal.writeEach level) level (OnAndOut g bufBlocks base) (OnAndOut g bufBlocks base) where
  put := fun l w batch here legal => by
    refine each_keeps g.blocks level (OnAndOut g bufBlocks base) ?_ batch l w here legal
    rintro l w e ⟨v, here, out⟩ short
    obtain ⟨codes, kept⟩ := on_ledger_group g bufBlocks base l v w [e] here out (by simpa [Legal] using short)
    rw [each_synchronous w level e (by simp [here.steady.inv.buffer]) sync short]
    refine ⟨?_, kept⟩
    rw [codes]
    cases free : l.room g.blocks <;> simp [RingLedger.codes, free]
  checkpoint := (group_keeps g bufBlocks base level).checkpoint
  flush := (group_keeps g bufBlocks base level).flush

theorem batched_keeps (g : Ring) (bufBlocks : Nat) (base : Image) (level : WalLevel) (batched : isWalSyncLevel level = false) :
    Keeps g.blocks (Wal.writeEach level) level (fun l w => ∃ v, OnLedger g bufBlocks base l v w) (OnAndOut g bufBlocks base) where
  put := fun l w batch here legal => by
    refine each_keeps g.blocks level (fun l w => ∃ v, OnLedger g bufBlocks base l v w) ?_ batch l w here legal
    rintro l w e ⟨v, here⟩ short
    exact on_ledger_write g bufBlocks base l v w level e here short
  checkpoint := fun l w ⟨v, here⟩ => by
    obtain ⟨next, kept, out⟩ := on_ledger_checkpoint g bufBlocks base l v w level here fun sync => by rw [batched] at sync; cases sync
    exact ⟨⟨next, kept⟩, next, kept, out⟩
  flush := fun l w ⟨v, here⟩ => on_ledger_flush g bufBlocks base l v w level here fun sync => by rw [batched] at sync; cases sync

-- A log without a buffer stays on the empty ledger of an empty ring.
theorem stuck_keeps (w : Wal) (stuck : StuckWal w) (issue : List WalEntry → Wal → List Rc × Wal) (level : WalLevel)
    (refuses : ∀ batch, Legal batch → issue batch w = (List.replicate batch.length Err.kWalFull, w)) :
    Keeps 0 issue level (fun l x => l = ⟨[], 0⟩ ∧ x = w) (fun _ x => x = w) where
  put := by
    rintro l x batch ⟨rfl, rfl⟩ legal
    rw [refuses batch legal]
    exact ⟨by simp [RingLedger.codes, RingLedger.room], by simp [RingLedger.put, RingLedger.room], rfl⟩
  checkpoint := by
    rintro l x ⟨rfl, rfl⟩
    have same : x.checkpoint level = x := by
      unfold Wal.checkpoint Wal.reclaimBoundary
      rw [stuck_flush x stuck level]
      show (x.reclaimUpTo x.curOff).2 = x
      rw [stuck.curOff, stuck_reclaim x stuck]
    exact ⟨⟨rfl, same⟩, same⟩
  flush := by
    rintro l x ⟨rfl, rfl⟩
    rw [stuck_flush x stuck level]

structure Followed.Same (a b : Followed) : Prop where
  codes : a.codes = b.codes
  stops : List.Forall₂ (fun x y => Wal.SameState x y ∧ Wal.SameRing x y) a.stops b.stops

theorem stops_meet (first second : RingLedger → Wal → Prop) (meet : Wal → Wal → Prop) (join : ∀ l a b, first l a → second l b → meet a b)
    (ledgers : List RingLedger) :
    ∀ left right, List.Forall₂ first ledgers left → List.Forall₂ second ledgers right → List.Forall₂ meet left right := by
  induction ledgers with
  | nil =>
      rintro _ _ ⟨⟩ ⟨⟩
      exact .nil
  | cons l ledgers ih =>
      rintro _ _ (_ | ⟨here, rest⟩) (_ | ⟨there, others⟩)
      exact .cons (join l _ _ here there) (ih _ _ rest others)

theorem kept_same (blocks : Nat) (issue issue' : List WalEntry → Wal → List Rc × Wal) (level level' : WalLevel)
    (on on' stop stop' : RingLedger → Wal → Prop) (keeps : Keeps blocks issue level on stop) (keeps' : Keeps blocks issue' level' on' stop')
    (join : ∀ l a b, stop l a → stop' l b → Wal.SameState a b ∧ Wal.SameRing a b) (script : List ScriptStep) (l : RingLedger) (w : Wal)
    (here : on l w) (here' : on' l w) (legal : ∀ batch, .put batch ∈ script → Legal batch) :
    (∀ rc ∈ (Wal.follow issue level script w).codes, rc = Err.kSuccess ∨ rc = Err.kWalFull) ∧
      (Wal.follow issue level script w).Same (Wal.follow issue' level' script w) := by
  obtain ⟨codes, stops⟩ := follow_keeps blocks issue level on stop keeps script l w here legal
  obtain ⟨codes', stops'⟩ := follow_keeps blocks issue' level' on' stop' keeps' script l w here' legal
  refine ⟨?_, codes.trans codes'.symm, stops_meet stop stop' _ join _ _ _ stops stops'⟩
  rw [codes]
  exact ledger_follow_legal blocks script l

theorem same_self (w : Wal) : w.SameState w ∧ w.SameRing w := ⟨⟨rfl, rfl, rfl, rfl, rfl, rfl⟩, ⟨rfl, rfl, fun _ _ _ => rfl⟩⟩

theorem stuck_each (w : Wal) (stuck : StuckWal w) (level : WalLevel) (batch : List WalEntry) (legal : Legal batch) :
    Wal.writeEach level batch w = (List.replicate batch.length Err.kWalFull, w) := by
  induction batch with
  | nil => rfl
  | cons e rest ih =>
      have here := stuck_full w stuck level e (legal e (.head _))
      have later := ih fun e member => legal e (.tail _ member)
      simp only [Wal.writeEach, here, later, List.length_cons, List.replicate_succ]

-- Whatever is written to a created ring, one frame at a time, buffered between
-- the checkpoints or in groups of any size, the entries get the same codes and
-- every checkpoint and the end find the same log over the same bytes.
theorem writing_equivalent (dev : RawDevice) (opts : Options) (w : Wal) (succeeds : dev.outcomes = []) (readable : ∀ k, dev.unreadable k = false)
    (durable : dev.medium.unsynced = []) (create : opts.create = true) (opened : (Wal.unopened dev).openWal opts = (Err.kSuccess, w))
    (allocated : Allocated w) (synchronous batched : WalLevel) (isSync : isWalSyncLevel synchronous = true)
    (isBatched : isWalSyncLevel batched = false) (script : List ScriptStep) (legal : ∀ batch, .put batch ∈ script → Legal batch) :
    (∀ rc ∈ (Wal.follow (Wal.writeEach synchronous) synchronous script w).codes, rc = Err.kSuccess ∨ rc = Err.kWalFull) ∧
      (Wal.follow (Wal.writeEach synchronous) synchronous script w).Same (Wal.follow (Wal.writeEach batched) batched script w) ∧
      (Wal.follow (Wal.writeEach synchronous) synchronous script w).Same
        (Wal.follow (fun batch w => w.processBatch batch) synchronous script w) := by
  have just := open_wal_success dev opts w opened
  by_cases empty : w.bufSize = 0
  · have stuck := stuck_open dev opts w just create empty
    have each (level : WalLevel) := stuck_keeps w stuck (Wal.writeEach level) level (stuck_each w stuck level)
    have group := stuck_keeps w stuck (fun batch w => w.processBatch batch) synchronous fun batch _ => stuck_group w stuck batch
    have join (l : RingLedger) (a b : Wal) (left : a = w) (right : b = w) : a.SameState b ∧ a.SameRing b := by
      rw [left, right]
      exact same_self w
    obtain ⟨codes, first⟩ := kept_same 0 _ _ synchronous batched _ _ _ _ (each synchronous) (each batched) join script ⟨[], 0⟩ w
      ⟨rfl, rfl⟩ ⟨rfl, rfl⟩ legal
    exact ⟨codes, first, (kept_same 0 _ _ synchronous synchronous _ _ _ _ (each synchronous) group join script ⟨[], 0⟩ w
      ⟨rfl, rfl⟩ ⟨rfl, rfl⟩ legal).2⟩
  · obtain ⟨g, bufBlocks, accepts⟩ := open_accepts dev opts w just allocated (by omega)
    have inv := create_inv g bufBlocks dev opts w accepts just create durable
    have healthy : w.dev.Healthy := by
      refine ⟨inv.opened, ?_, ?_⟩ <;> rw [just.device]
      · exact succeeds
      · exact readable
    have none_ := just.position.2.2.1
    have start : OnLedger g bufBlocks dev.medium.cur ⟨[], 0⟩ (.created g bufBlocks dev.medium.cur) w :=
      ⟨⟨inv, healthy, few_roomy g bufBlocks _ w inv (by omega)⟩, rfl, rfl, by rw [just.device]; exact laid_base g dev.medium.cur⟩
    have out : OnLedger.Out (.created g bufBlocks dev.medium.cur) w := ⟨rfl, by omega⟩
    have join (l : RingLedger) (a b : Wal) (left : OnAndOut g bufBlocks dev.medium.cur l a) (right : OnAndOut g bufBlocks dev.medium.cur l b) :
        a.SameState b ∧ a.SameRing b := by
      obtain ⟨u, onA, outA⟩ := left
      obtain ⟨v, onB, outB⟩ := right
      exact out_same g bufBlocks dev.medium.cur l u v a b onA onB outA outB
    obtain ⟨codes, first⟩ := kept_same g.blocks _ _ synchronous batched _ _ _ _ (synchronous_keeps g bufBlocks _ synchronous isSync)
      (batched_keeps g bufBlocks _ batched isBatched) join script ⟨[], 0⟩ w ⟨_, start, out⟩ ⟨_, start⟩ legal
    exact ⟨codes, first, (kept_same g.blocks _ _ synchronous synchronous _ _ _ _ (synchronous_keeps g bufBlocks _ synchronous isSync)
      (group_keeps g bufBlocks _ synchronous) join script ⟨[], 0⟩ w ⟨_, start, out⟩ ⟨_, start, out⟩ legal).2⟩

def plainScript : List ScriptStep := [.put [plainEntry 1, plainEntry 2], .checkpoint, .put [plainEntry 3]]

theorem writing_equivalent_plain :
    (Wal.follow (Wal.writeEach .walSync) .walSync plainScript (blankWal 2 1)).Same
        (Wal.follow (Wal.writeEach .valueSync) .valueSync plainScript (blankWal 2 1)) ∧
      (Wal.follow (Wal.writeEach .walSync) .walSync plainScript (blankWal 2 1)).Same
        (Wal.follow (fun batch w => w.processBatch batch) .walSync plainScript (blankWal 2 1)) := by
  obtain ⟨opened, size⟩ := blank_opens 2 1 (by decide) (by decide) (by decide)
  refine (writing_equivalent (blankDevice 2) (plainOptions true 1) (blankWal 2 1) rfl (fun _ => rfl) rfl rfl opened (by unfold Allocated; omega)
    .walSync .valueSync rfl rfl plainScript ?_).2
  intro batch member e inside
  simp only [plainScript, List.mem_cons, ScriptStep.put.injEq, reduceCtorEq, false_or, List.not_mem_nil, or_false] at member
  rcases member with rfl | rfl <;> simp only [List.mem_cons, List.not_mem_nil, or_false] at inside
  · rcases inside with rfl | rfl <;> decide
  · rw [inside]
    decide

end Cabe
