import Cabe.WalGroupSafety

set_option autoImplicit false

namespace Cabe

open Storage Concurrency

-- What a write does to the next number: a frame that is promised has taken one,
-- and a full ring has not.
structure Numbered (w : Wal) (out : Rc × Wal) : Prop where
  done : out.1 = Err.kSuccess → out.2.seqNext = w.seqNext + 1
  full : out.1 = Err.kWalFull → out.2.seqNext = w.seqNext
  once : out.2.seqNext = w.seqNext ∨ out.2.seqNext = w.seqNext + 1

theorem numbered_none (w : Wal) (out : Rc × Wal) (failed : out.1 ≠ Err.kSuccess) (same : out.2.seqNext = w.seqNext) : Numbered w out :=
  ⟨fun done => absurd done failed, fun _ => same, .inl same⟩

theorem numbered_one (w : Wal) (out : Rc × Wal) (fits : out.1 ≠ Err.kWalFull) (next : out.2.seqNext = w.seqNext + 1) : Numbered w out :=
  ⟨fun _ => next, fun full => absurd full fits, .inr next⟩

theorem write_span_codes (w : Wal) : (w.writeWindowSpan.1 = Err.kSuccess ∨ w.writeWindowSpan.1 = Err.kWalWriteFailed) ∧
    w.writeWindowSpan.2 = { w with dev := w.writeWindowSpan.2.dev } := by
  unfold Wal.writeWindowSpan
  simp only
  split
  · exact ⟨.inr rfl, trivial⟩
  · exact ⟨.inl rfl, trivial⟩

theorem flush_codes (w : Wal) (level : WalLevel) : ((w.flush level).1 = Err.kSuccess ∨ (w.flush level).1 = Err.kWalWriteFailed) ∧
    (w.flush level).2.seqNext = w.seqNext := by
  obtain ⟨codes, same⟩ := write_span_codes w
  unfold Wal.flush
  split
  · exact ⟨.inl rfl, rfl⟩
  · split
    · exact ⟨.inl rfl, rfl⟩
    · split
      · exact ⟨.inl rfl, rfl⟩
      · cases wrote : w.writeWindowSpan with
        | mk rc w1 =>
        rw [wrote] at codes same
        simp only at codes same ⊢
        split
        · exact ⟨codes, by rw [same]⟩
        · split
          · exact ⟨.inr rfl, by rw [same]⟩
          · refine ⟨.inl rfl, ?_⟩
            rw [(advance_keeps { w1 with dev := w1.dev.sync.2 }).2.2.2.2, same]

theorem finish_not_full (r : BatchRun) (fine : r.failRc = Err.kSuccess) : r.finish.1 ≠ Err.kWalFull := by
  have failed : Err.kWalWriteFailed ≠ Err.kWalFull := by decide
  have success : Err.kSuccess ≠ Err.kWalFull := by decide
  unfold BatchRun.finish
  rw [fine, if_neg (fun both => both.1 rfl)]
  generalize (if r.dirty then r.wal.writeOutWindow else (Err.kSuccess, r.wal)) = out
  simp only
  split
  · exact failed
  · split
    · simp only
      split
      · exact failed
      · exact success
    · exact success

theorem batch_one (w : Wal) (e : WalEntry) : Numbered w ((w.processBatch [e]).1.headD Err.kSuccess, (w.processBatch [e]).2) := by
  have admitted := (admission_codes w).2
  have logged := append_codes w.admission.wal e
  unfold Wal.processBatch
  have rejected (wal : Wal) (wrote dirty : Bool) (rc : Rc) (failed : rc ≠ Err.kSuccess) (same : wal.seqNext = w.seqNext)
      (r : BatchRun) (here : r = ⟨wal, wrote, dirty, rc, [e]⟩) :
      Numbered w ((List.replicate ([e].length - r.rejected.length) r.finish.1 ++
        List.replicate r.rejected.length (if r.failRc = Err.kWalFull then Err.kWalFull else r.finish.1)).headD Err.kSuccess, r.finish.2) := by
    have seq := (finish_codes r).2
    subst here
    refine numbered_none w _ ?_ (seq.trans same)
    show (if rc = Err.kWalFull then Err.kWalFull else BatchRun.finish ⟨wal, wrote, dirty, rc, [e]⟩ |>.1) ≠ Err.kSuccess
    split
    · decide
    · rename_i notFull
      unfold BatchRun.finish
      rw [if_pos ⟨failed, notFull⟩]
      exact failed
  generalize loop : w.batchLoop false false [e] = r
  unfold Wal.batchLoop at loop
  simp only at loop
  by_cases refused : w.admission.rc ≠ Err.kSuccess
  · rw [if_pos refused] at loop
    exact rejected _ _ _ _ refused admitted r loop.symm
  · rw [if_neg refused] at loop
    by_cases broken : (w.admission.wal.append e).1 ≠ Err.kSuccess
    · rw [if_pos broken] at loop
      rw [if_neg broken] at logged
      exact rejected _ _ _ _ broken (logged.2.trans admitted) r loop.symm
    · rw [if_neg broken, Wal.batchLoop] at loop
      rw [if_pos (not_not.mp broken)] at logged
      have seq := (finish_codes r).2
      subst loop
      refine numbered_one w _ (finish_not_full _ rfl) ?_
      show (BatchRun.finish _).2.seqNext = _
      rw [seq, logged.2, admitted]

theorem write_wal_numbered (w : Wal) (level : WalLevel) (e : WalEntry) : Numbered w (w.writeWal level e) := by
  unfold Wal.writeWal
  split
  · exact numbered_none w _ (show Err.kWalKeyTooLong ≠ Err.kSuccess by decide) rfl
  · split
    · exact numbered_none w _ (show Err.kWalWriteFailed ≠ Err.kSuccess by decide) rfl
    · split
      · exact batch_one w e
      · generalize opened_ : (if w.windowBytes = 0 then { w with windowBytes := w.windowAt w.curOff } else w) = opened
        have same : opened.seqNext = w.seqNext := by
          rw [← opened_]
          split <;> rfl
        simp only
        split
        · exact numbered_none w _ (show Err.kWalFull ≠ Err.kSuccess by decide) same
        · have drained : ((if opened.nFrames * kWalFrameSize ≥ opened.windowBytes then opened.flush level else (Err.kSuccess, opened)).2.seqNext =
              w.seqNext) := by
            split
            · rw [(flush_codes opened level).2, same]
            · exact same
          generalize (if opened.nFrames * kWalFrameSize ≥ opened.windowBytes then opened.flush level else (Err.kSuccess, opened)) = out
            at drained ⊢
          split
          · rename_i failed
            exact numbered_none w _ failed drained
          · split
            · exact numbered_none w _ (show Err.kWalFull ≠ Err.kSuccess by decide) drained
            · have logged := (append_codes out.2 e).2
              generalize out.2.append e = appended at logged ⊢
              split
              · rename_i failed
                rw [if_neg failed] at logged
                exact numbered_none w _ failed (logged.trans drained)
              · rename_i fine
                rw [if_pos (not_not.mp fine), drained] at logged
                split
                · obtain ⟨codes, seq⟩ := flush_codes appended.2 level
                  refine numbered_one w _ ?_ (seq.trans logged)
                  rcases codes with rc | rc <;> rw [rc] <;> decide
                · exact numbered_one w _ (show Err.kSuccess ≠ Err.kWalFull by decide) logged

end Cabe
