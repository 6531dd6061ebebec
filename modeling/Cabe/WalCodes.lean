import Cabe.Reactor
import Cabe.WalNumbered

set_option autoImplicit false

namespace Cabe

open Storage

-- The codes of the log say nothing about keys.
def LogCode (rc : Rc) : Prop := rc = Err.kSuccess ∨ rc = Err.kWalKeyTooLong ∨ rc = Err.kWalWriteFailed ∨ rc = Err.kWalFull

theorem log_code_success : LogCode Err.kSuccess := .inl rfl
theorem log_code_failed : LogCode Err.kWalWriteFailed := .inr (.inr (.inl rfl))
theorem log_code_full : LogCode Err.kWalFull := .inr (.inr (.inr rfl))

theorem flush_log_code (w : Wal) (level : WalLevel) : LogCode (w.flush level).1 := by
  rcases (flush_codes w level).1 with fine | failed
  · exact fine ▸ log_code_success
  · exact failed ▸ log_code_failed

theorem write_out_log_code (w : Wal) : LogCode w.writeOutWindow.1 := by
  have codes := (write_span_codes w).1
  unfold Wal.writeOutWindow
  split
  · exact log_code_success
  · cases wrote : w.writeWindowSpan with
    | mk rc w1 =>
        rw [wrote] at codes
        simp only at codes ⊢
        split
        · rcases codes with fine | failed
          · exact fine ▸ log_code_success
          · exact failed ▸ log_code_failed
        · exact log_code_success

theorem admission_log_code (w : Wal) : LogCode w.admission.rc := by
  unfold Wal.admission
  simp only
  generalize (if w.windowBytes = 0 then { w with windowBytes := w.windowAt w.curOff } else w) = opened
  have codes := write_out_log_code opened
  split
  · exact log_code_full
  · split
    · generalize opened.writeOutWindow = out at codes ⊢
      split
      · exact codes
      · split
        · exact log_code_full
        · exact log_code_success
    · exact log_code_success

theorem append_log_code (w : Wal) (e : WalEntry) : LogCode (w.append e).1 := by
  unfold Wal.append
  cases w.curBuf with
  | none => exact log_code_failed
  | some buf => exact log_code_success

theorem finish_log_code (r : BatchRun) (fine : LogCode r.failRc) : LogCode r.finish.1 := by
  unfold BatchRun.finish
  split
  · exact fine
  · generalize (if r.dirty then r.wal.writeOutWindow else (Err.kSuccess, r.wal)) = out
    simp only
    split
    · exact log_code_failed
    · split
      · simp only
        split
        · exact log_code_failed
        · exact log_code_success
      · exact log_code_success

theorem batch_loop_log_code (batch : List WalEntry) : ∀ (w : Wal) (wrote dirty : Bool), LogCode (w.batchLoop wrote dirty batch).failRc := by
  induction batch with
  | nil => exact fun _ _ _ => log_code_success
  | cons e rest ih =>
      intro w wrote dirty
      have admitted := admission_log_code w
      have logged := append_log_code w.admission.wal e
      simp only [Wal.batchLoop]
      split
      · exact admitted
      · split
        · exact logged
        · exact ih _ _ _

-- A batch answers with the code of its loop, of its last span or of its sync.
theorem batch_log_codes (w : Wal) (batch : List WalEntry) (rc : Rc) (member : rc ∈ (w.processBatch batch).1) : LogCode rc := by
  have loop := batch_loop_log_code batch w false false
  unfold Wal.processBatch at member
  simp only at member
  generalize w.batchLoop false false batch = r at loop member
  have finished := finish_log_code r loop
  rcases List.mem_append.mp member with front | back
  · rw [List.eq_of_mem_replicate front]
    exact finished
  · rw [List.eq_of_mem_replicate back]
    split
    · exact log_code_full
    · exact finished

theorem write_wal_code (w : Wal) (level : WalLevel) (e : WalEntry) : LogCode (w.writeWal level e).1 := by
  unfold Wal.writeWal
  split
  · exact .inr (.inl rfl)
  · split
    · exact log_code_failed
    · split
      · have codes := batch_log_codes w [e]
        generalize w.processBatch [e] = out at codes ⊢
        simp only
        cases results : out.1 with
        | nil => exact log_code_success
        | cons rc rest => exact codes rc (results ▸ List.mem_cons_self)
      · simp only
        generalize (if w.windowBytes = 0 then { w with windowBytes := w.windowAt w.curOff } else w) = opened
        split
        · exact log_code_full
        · have drained : LogCode (if opened.nFrames * kWalFrameSize ≥ opened.windowBytes then opened.flush level
              else (Err.kSuccess, opened)).1 := by
            split
            · exact flush_log_code opened level
            · exact log_code_success
          generalize (if opened.nFrames * kWalFrameSize ≥ opened.windowBytes then opened.flush level else (Err.kSuccess, opened)) = out
            at drained ⊢
          split
          · exact drained
          · split
            · exact log_code_full
            · have logged := append_log_code out.2 e
              generalize out.2.append e = appended at logged ⊢
              split
              · exact logged
              · split
                · exact flush_log_code _ level
                · exact log_code_success

theorem write_rescuing_code (r : Reactor) (env : ScanEnv) (e : WalEntry) : LogCode (r.writeWalRescuing env e).1 := by
  have first := write_wal_code r.dc.wal r.options.walLevel e
  unfold Reactor.writeWalRescuing
  simp only
  split
  · exact first
  · split
    · exact log_code_full
    · exact write_wal_code _ _ e

theorem log_code_not_found (rc : Rc) (code : LogCode rc) : rc ≠ Err.kIndexKeyNotFound := by
  rcases code with rfl | rfl | rfl | rfl <;> decide

end Cabe
