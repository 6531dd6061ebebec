import Cabe.WalGroupLedger
import Cabe.WalInvariant

set_option autoImplicit false

namespace Cabe

open Concurrency

variable {Tid : Type} [DecidableEq Tid]

-- No code that the end of a batch hands out is the pending mark.
def Pc.real : Pc Tid → Prop
  | .finishing _ _ _ _ failRc => failRc ≠ kWalResultPending
  | .storing todo => ∀ p ∈ todo, p.2 ≠ kWalResultPending
  | _ => True

theorem write_out_codes (w : Wal) : (w.writeOutWindow.1 = Err.kSuccess ∨ w.writeOutWindow.1 = Err.kWalWriteFailed) ∧
    w.writeOutWindow.2.seqNext = w.seqNext := by
  obtain ⟨rc, dev, done, codes⟩ : ∃ rc dev, w.writeWindowSpan = (rc, { w with dev := dev }) ∧
      (rc = Err.kSuccess ∨ rc = Err.kWalWriteFailed) := by
    refine ⟨if (w.dev.writeAt w.curOff ((w.curBuf.getD []).take (alignUp (w.nFrames * kWalFrameSize) kWalBlockSize))).1 ≠ Err.kSuccess
      then Err.kWalWriteFailed else Err.kSuccess, _, rfl, ?_⟩
    by_cases failed : (w.dev.writeAt w.curOff ((w.curBuf.getD []).take (alignUp (w.nFrames * kWalFrameSize) kWalBlockSize))).1 ≠
        Err.kSuccess
    · exact .inr (if_pos failed)
    · exact .inl (if_neg failed)
  unfold Wal.writeOutWindow
  rw [done]
  split
  · exact ⟨.inl rfl, rfl⟩
  · rcases codes with rfl | rfl
    · exact ⟨.inl rfl, (advance_keeps { w with dev := dev }).2.2.2.2⟩
    · exact ⟨.inr rfl, rfl⟩

theorem admission_codes (w : Wal) : w.admission.rc ≠ kWalResultPending ∧ w.admission.wal.seqNext = w.seqNext := by
  have fine : Err.kSuccess ≠ kWalResultPending := by decide
  have full : Err.kWalFull ≠ kWalResultPending := by decide
  have failed : Err.kWalWriteFailed ≠ kWalResultPending := by decide
  unfold Wal.admission
  generalize opened_ : (if w.windowBytes = 0 then { w with windowBytes := w.windowAt w.curOff } else w) = opened
  have same : opened.seqNext = w.seqNext := by
    rw [← opened_]
    split <;> rfl
  obtain ⟨codes, seq⟩ := write_out_codes opened
  simp only
  split
  · exact ⟨full, same⟩
  · split
    · split
      · refine ⟨?_, seq.trans same⟩
        rcases codes with rc | rc <;> simp only [rc]
        · exact fine
        · exact failed
      · split
        · exact ⟨full, seq.trans same⟩
        · exact ⟨fine, seq.trans same⟩
    · exact ⟨fine, same⟩

theorem finish_codes (r : BatchRun) :
    (r.failRc ≠ kWalResultPending → r.finish.1 ≠ kWalResultPending) ∧ r.finish.2.seqNext = r.wal.seqNext := by
  have fine : Err.kSuccess ≠ kWalResultPending := by decide
  have failed : Err.kWalWriteFailed ≠ kWalResultPending := by decide
  unfold BatchRun.finish
  split
  · exact ⟨id, rfl⟩
  · have seq : (if r.dirty then r.wal.writeOutWindow else (Err.kSuccess, r.wal)).2.seqNext = r.wal.seqNext := by
      split
      · exact (write_out_codes r.wal).2
      · rfl
    generalize (if r.dirty then r.wal.writeOutWindow else (Err.kSuccess, r.wal)) = out at seq ⊢
    simp only
    split
    · exact ⟨fun _ => failed, seq⟩
    · split
      · refine ⟨fun _ => ?_, seq⟩
        simp only
        split
        · exact failed
        · exact fine
      · exact ⟨fun _ => fine, seq⟩

theorem append_codes (w : Wal) (e : WalEntry) : (w.append e).1 ≠ kWalResultPending ∧
    (w.append e).2.seqNext = if (w.append e).1 = Err.kSuccess then w.seqNext + 1 else w.seqNext := by
  unfold Wal.append
  cases w.curBuf with
  | none => exact ⟨(by decide : Err.kWalWriteFailed ≠ kWalResultPending), rfl⟩
  | some buf => exact ⟨(by decide : Err.kSuccess ≠ kWalResultPending), rfl⟩

theorem real_step (s s' : Group Tid) (t : Tid) (events : List (GroupEvent Tid)) (real : ∀ u, (s.pc u).real)
    (step : GroupStep s t events s') (u : Tid) : (s'.pc u).real := by
  by_cases here : u = t
  · subst here
    have now := real u
    cases step with
    | refuse => exact now
    | move there moves =>
        rw [goto_here]
        generalize s.pc u = pc at moves now
        cases moves with
        | taken => exact (by decide : Err.kSuccess ≠ kWalResultPending)
        | _ => trivial
    | push old at_ same =>
        rw [goto_here]
        split <;> trivial
    | refused =>
        rw [goto_here]
        exact (admission_codes s.wal).1
    | broken x taken rest wrote dirty rc after at_ space failed bad =>
        rw [goto_here]
        have code := (append_codes s.wal.admission.wal (s.entry x)).1
        rw [failed] at code
        exact code
    | finish taken rejected wrote dirty failRc prefixRc after at_ done =>
        rw [goto_here]
        rw [at_] at now
        have code := (finish_codes ⟨s.wal, wrote, dirty, failRc, rejected.map s.entry⟩).1 now
        rw [done] at code
        intro p member
        rcases List.mem_append.mp member with first | rest
        · obtain ⟨x, _, rfl⟩ := List.mem_map.mp first
          exact code
        · obtain ⟨x, _, rfl⟩ := List.mem_map.mp rest
          show (if failRc = Err.kWalFull then Err.kWalFull else prefixRc) ≠ kWalResultPending
          split
          · decide
          · exact code
    | store x rc todo at_ =>
        rw [goto_here]
        rw [at_] at now
        exact fun p member => now p (List.mem_cons_of_mem _ member)
    | _ =>
        rw [goto_here]
        trivial
  · rw [step_other Pc.real (fun _ => rfl) s s' t u events step here]
    exact real u

omit [DecidableEq Tid] in
-- A thread that drained the stack finds its own result final once the batch
-- has been stored.
theorem holder_served (s : Group Tid) (t : Tid) (trace : List (GroupEvent Tid)) (book : Ledger trace s)
    (enlisted : (s.pc t).enlisted = true) (holds : (s.pc t).holds = true) (empty : (s.pc t).hand = []) (off : t ∉ s.stackHead) :
    s.result t ≠ kWalResultPending := by
  intro waits
  obtain ⟨nodes, inHand, given⟩ := book.given
  have order := book.order
  have pushed := book.pushed t enlisted
  unfold InOrder at order
  rw [order, given, ← inHand.1 t holds, empty, List.map_nil, List.append_nil, List.mem_append] at pushed
  rcases pushed with stored | waiting
  · exact book.pending t enlisted waits stored
  · rw [List.mem_reverse, List.mem_map] at waiting
    obtain ⟨u, member, same⟩ := waiting
    have here : u = t := congrArg Prod.fst same
    exact off (here ▸ member)

theorem off_step (s s' : Group Tid) (t : Tid) (events : List (GroupEvent Tid)) (off : ∀ u, (s.pc u).past = true → u ∉ s.stackHead)
    (step : GroupStep s t events s') (u : Tid) (past : (s'.pc u).past = true) : u ∉ s'.stackHead := by
  by_cases here : u = t
  · subst here
    have before := off u
    cases step with
    | refuse => exact before past
    | move there moves =>
        rw [goto_here] at past
        generalize s.pc u = pc at moves before
        cases moves with
        | nothing empty =>
            show u ∉ s.stackHead
            rw [empty]
            exact List.not_mem_nil
        | _ => first | exact before rfl | cases past
    | call => rw [goto_here] at past; cases past
    | push old =>
        rw [goto_here] at past
        split at past <;> cases past
    | elected => rw [goto_here] at past; cases past
    | drain => exact List.not_mem_nil
    | ret => rw [goto_here] at past; cases past
    | _ => exact before (by simp only [*]; rfl)
  · rw [step_other Pc.past (fun _ => rfl) s s' t u events step here] at past
    have before := off u past
    cases step_traffic s s' t events step with
    | pushed _ old at_ after stack =>
        rw [stack]
        exact fun member => (List.mem_cons.mp member).elim here before
    | drained _ at_ after stack =>
        rw [stack]
        exact List.not_mem_nil
    | still _ stack => rw [stack]; exact before
    | began _ at_ after stack => rw [stack]; exact before
    | numbered _ x taken rest wrote dirty wrote' seq at_ after stack => rw [stack]; exact before
    | stored _ x rc todo at_ after stack => rw [stack]; exact before
    | returned _ enlisted free after served stack => rw [stack]; exact before


theorem served_step (s s' : Group Tid) (t : Tid) (trace events : List (GroupEvent Tid)) (book : Ledger trace s)
    (off : ∀ u, (s.pc u).past = true → u ∉ s.stackHead) (served : ∀ u, (s.pc u).served = true → s.result u ≠ kWalResultPending)
    (real : ∀ u, (s.pc u).real) (step : GroupStep s t events s') (u : Tid) (now : (s'.pc u).served = true) :
    s'.result u ≠ kWalResultPending := by
  have kept (same : s'.result = s.result) (after : (s'.pc t).served = false) : s'.result u ≠ kWalResultPending := by
    by_cases here : u = t
    · rw [here, after] at now
      cases now
    · rw [step_other Pc.served (fun _ => rfl) s s' t u events step here] at now
      rw [same]
      exact served u now
  have held (same : s'.result = s.result) (before : u = t → s.result t ≠ kWalResultPending) : s'.result u ≠ kWalResultPending := by
    rw [same]
    by_cases here : u = t
    · rw [here]
      exact before here
    · rw [step_other Pc.served (fun _ => rfl) s s' t u events step here] at now
      exact served u now
  cases step with
  | refuse => exact served u now
  | call e rest =>
      have other : u ≠ t := by
        rintro rfl
        rw [goto_here] at now
        cases now
      rw [goto_there _ _ _ _ other] at now
      show Function.update s.result t kWalResultPending u ≠ kWalResultPending
      rw [Function.update_of_ne other]
      exact served u now
  | move there moves =>
      have before := served t
      generalize at_ : s.pc t = pc at moves before
      cases moves with
      | nothing empty =>
          refine held rfl fun _ => holder_served s t trace book (by rw [at_]; rfl) (by rw [at_]; rfl) (by rw [at_]; rfl) ?_
          rw [empty]
          exact List.not_mem_nil
      | quit => exact held rfl fun _ => before rfl
      | clear => exact held rfl fun _ => before rfl
      | found => exact held rfl fun _ => before rfl
      | relieved => exact held rfl fun _ => before rfl
      | _ => exact kept rfl (by rw [goto_here]; rfl)
  | push old at_ same =>
      exact kept rfl (by rw [goto_here]; split <;> rfl)
  | store x rc todo at_ =>
      have other : u ≠ t := by
        rintro rfl
        rw [goto_here] at now
        cases now
      rw [goto_there _ _ _ _ other] at now
      show Function.update s.result x rc u ≠ kWalResultPending
      by_cases same : u = x
      · have code := real t
        rw [at_] at code
        rw [same, Function.update_self]
        exact code (x, rc) List.mem_cons_self
      · rw [Function.update_of_ne same]
        exact served u now
  | notify at_ =>
      refine held rfl fun _ => holder_served s t trace book (by rw [at_]; rfl) (by rw [at_]; rfl) (by rw [at_]; rfl) ?_
      exact off t (by rw [at_]; rfl)
  | resign at_ => exact held rfl fun _ => served t (by rw [at_]; rfl)
  | _ => exact kept rfl (by rw [goto_here]; rfl)


-- Frames are numbered one after another from the first free number.
def InSequence (first : Nat) (trace : List (GroupEvent Tid)) (s : Group Tid) : Prop :=
  (numbers trace).map Prod.snd = List.range' first (numbers trace).length ∧ s.wal.seqNext = first + (numbers trace).length

theorem in_sequence_step (first : Nat) (s s' : Group Tid) (t : Tid) (trace events : List (GroupEvent Tid))
    (sequence : InSequence first trace s) (step : GroupStep s t events s') : InSequence first (trace ++ events) s' := by
  obtain ⟨range, next⟩ := sequence
  have still (none_ : numbers events = []) (same : s'.wal.seqNext = s.wal.seqNext) : InSequence first (trace ++ events) s' := by
    rw [InSequence, numbers_append, none_, List.append_nil, same]
    exact ⟨range, next⟩
  have admitted := (admission_codes s.wal).2
  cases step with
  | append x taken rest wrote dirty grown at_ space done =>
      have grows := (append_codes s.wal.admission.wal (s.entry x)).2
      rw [done, if_pos rfl, admitted] at grows
      have number : numbers (trace ++ [.numbered (s.ticket x) s.wal.admission.wal.seqNext]) =
          numbers trace ++ [(s.ticket x, first + (numbers trace).length)] := by
        rw [numbers_append, admitted, next]
        rfl
      rw [InSequence, number, List.length_append, List.map_append, range]
      refine ⟨?_, ?_⟩
      · rw [List.length_singleton, List.range'_concat, Nat.one_mul]
        rfl
      · show grown.seqNext = first + ((numbers trace).length + 1)
        simp only at grows
        omega
  | refused => exact still rfl admitted
  | broken x taken rest wrote dirty rc after at_ space failed bad =>
      have same := (append_codes s.wal.admission.wal (s.entry x)).2
      rw [failed, if_neg bad, admitted] at same
      exact still rfl same
  | finish taken rejected wrote dirty failRc prefixRc after at_ done =>
      have same := (finish_codes ⟨s.wal, wrote, dirty, failRc, rejected.map s.entry⟩).2
      rw [done] at same
      exact still rfl same
  | _ => exact still rfl rfl

structure GroupInv (first : Nat) (trace : List (GroupEvent Tid)) (s : Group Tid) : Prop where
  key : OneKey s
  watched : Watched s
  book : Ledger trace s
  off : ∀ t, (s.pc t).past = true → t ∉ s.stackHead
  served : ∀ t, (s.pc t).served = true → s.result t ≠ kWalResultPending
  real : ∀ t, (s.pc t).real
  sequence : InSequence first trace s

omit [DecidableEq Tid] in
theorem group_fresh (w : Wal) : GroupInv w.seqNext [] (Group.fresh w : Group Tid) := by
  have nobody (part : Pc Tid → Bool) (idle : part .idle = false) (t : Tid) (no : part ((Group.fresh w : Group Tid).pc t) = true) : False :=
    absurd (no.symm.trans idle) (by decide)
  constructor
  · refine ⟨fun t _ no => (nobody Pc.holds rfl t no).elim, fun no => ?_, fun ⟨t, no⟩ => (nobody Pc.holds rfl t no).elim⟩
    cases no
  · exact fun busy => absurd rfl busy
  · constructor
    · rfl
    · exact List.nodup_nil
    · exact fun c no => absurd no List.not_mem_nil
    · exact fun t no => (nobody Pc.readied rfl t no).elim
    · exact fun t no => (nobody Pc.enlisted rfl t no).elim
    · exact fun t no => absurd no List.not_mem_nil
    · exact fun t x no => absurd no List.not_mem_nil
    · exact ⟨[], ⟨fun t no => (nobody Pc.holds rfl t no).elim, fun _ => rfl⟩, rfl⟩
    · exact ⟨[], [], ⟨fun t no => (nobody Pc.holds rfl t no).elim, fun _ => rfl⟩, rfl, List.Sublist.refl []⟩
    · exact fun t no => (nobody Pc.enlisted rfl t no).elim
    · exact fun t no => (nobody Pc.enlisted rfl t no).elim
    · exact fun c no => absurd no List.not_mem_nil
  · exact fun t no => (nobody Pc.past rfl t no).elim
  · exact fun t no => (nobody Pc.served rfl t no).elim
  · exact fun _ => trivial
  · exact ⟨rfl, rfl⟩

theorem group_step (first : Nat) (s s' : Group Tid) (t : Tid) (trace events : List (GroupEvent Tid)) (inv : GroupInv first trace s)
    (step : GroupStep s t events s') : GroupInv first (trace ++ events) s' where
  key := one_key_step s s' t events inv.key step
  watched := watched_step s s' t events inv.key inv.watched step
  book := by
    refine ledger_step s s' t trace events inv.key inv.book step fun x rc todo at_ => ?_
    have real := inv.real t
    rw [at_] at real
    exact real (x, rc) List.mem_cons_self
  off := off_step s s' t events inv.off step
  served := served_step s s' t trace events inv.book inv.off inv.served inv.real step
  real := real_step s s' t events inv.real step
  sequence := in_sequence_step first s s' t trace events inv.sequence step

theorem group_run (w : Wal) (trace : List (GroupEvent Tid)) (s : Group Tid) (run : (groupMachine w).Run trace s) :
    GroupInv w.seqNext trace s := by
  refine run_invariant (groupMachine w) (GroupInv w.seqNext) ?_ ?_ trace s run
  · intro s start
    rw [show s = Group.fresh w from start]
    exact group_fresh w
  · exact fun trace s t events s' inv step => group_step w.seqNext s s' t trace events inv step

end Cabe
