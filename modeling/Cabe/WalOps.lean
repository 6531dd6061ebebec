import Cabe.WalInvariant

set_option autoImplicit false

namespace Cabe

open Storage

theorem failing_unhealthy (d : RawDevice) (mask : Nat → Bool) (failed : d.outcome = .fail mask) : ¬ d.Healthy := by
  intro healthy
  rw [healthy_outcome d healthy] at failed
  cases failed

theorem span_step (g : Ring) (bufBlocks : Nat) (v : WalView) (w : Wal) (inv : WalInv g bufBlocks v w) :
    ∃ rc next after, w.writeWindowSpan = (rc, after) ∧ WalStep g bufBlocks v w [] next after ∧ after.nFrames = w.nFrames ∧
      next.entries = v.entries ∧ next.win = v.win ∧ next.synced = v.synced ∧
      ((rc = Err.kSuccess ∧ next.visible = next.entries.length) ∨ (rc = Err.kWalWriteFailed ∧ ¬ w.dev.Healthy)) := by
  have driven := span_driven g bufBlocks v w inv
  rcases write_span_cases g bufBlocks v w inv with ⟨_, done, kept⟩ | ⟨mask, failed, done, kept⟩ <;> rw [done] at driven
  · have grown : v.Grows { v with visible := v.entries.length } [] :=
      ⟨rfl, (List.append_nil _).symm, rfl, rfl, rfl, Nat.le_refl _, inv.visibleAll, Nat.le_refl _⟩
    exact ⟨_, _, _, done, ⟨kept, grown, traced_record _ _ _ (wal_medium_seen g bufBlocks v _ _ kept (Nat.le_refl _)), driven,
      fun _ base laid => span_laid g bufBlocks v w inv base laid⟩,
      rfl, rfl, rfl, rfl, .inl ⟨rfl, rfl⟩⟩
  · exact ⟨_, _, _, done, ⟨kept, grows_refl v, traced_record _ _ _ (wal_medium_seen g bufBlocks v _ _ kept (Nat.le_refl _)), driven,
        fun healthy => absurd healthy (failing_unhealthy w.dev mask failed)⟩,
      rfl, rfl, rfl, rfl, .inr ⟨rfl, failing_unhealthy w.dev mask failed⟩⟩

theorem wal_sync_step (g : Ring) (bufBlocks : Nat) (v : WalView) (w : Wal) (inv : WalInv g bufBlocks v w)
    (written : v.visible = v.entries.length) :
    ∃ rc next dev, w.dev.sync = (rc, dev) ∧ WalStep g bufBlocks v w [] next { w with dev := dev } ∧
      next.visible = next.entries.length ∧ next.win = v.win ∧ next.cur = v.cur ∧
      ((rc = Err.kSuccess ∧ next.synced = next.entries.length ∧ dev.medium.unsynced = []) ∨ (rc = Err.kIoBase ∧ ¬ w.dev.Healthy)) := by
  have driven := driven_sync w.dev (SpanWrite g v.entries v.head v.cur)
  rcases wal_sync_cases g bufBlocks v w inv written with ⟨_, done, kept⟩ | ⟨mask, failed, done, kept⟩ <;> rw [done] at driven
  · have grown : v.Grows { v with synced := v.entries.length } [] :=
      ⟨rfl, (List.append_nil _).symm, rfl, rfl, rfl, Nat.le_refl _, Nat.le_refl _, wal_synced_bound g bufBlocks v w inv⟩
    exact ⟨_, _, _, done, ⟨kept, grown, traced_record _ _ _ (wal_medium_seen g bufBlocks v _ _ kept grown.synced), driven,
      fun _ _ laid => laid⟩,
      written, rfl, rfl, .inl ⟨rfl, rfl, rfl⟩⟩
  · exact ⟨_, _, _, done, ⟨kept, grows_refl v, traced_record _ _ _ (wal_medium_seen g bufBlocks v _ _ inv (Nat.le_refl _)), driven,
        fun _ _ laid => laid⟩,
      written, rfl, rfl, .inr ⟨rfl, failing_unhealthy w.dev mask failed⟩⟩

theorem advance_step (g : Ring) (bufBlocks : Nat) (v : WalView) (w : Wal) (inv : WalInv g bufBlocks v w)
    (written : v.visible = v.entries.length) :
    WalStep g bufBlocks v w [] (v.advanced g bufBlocks w.nFrames) w.advanceAfterWrite := by
  refine ⟨advance_inv g bufBlocks v w inv written, grows_advanced g bufBlocks v w.nFrames, ?_, ?_, fun _ base laid => ?_⟩ <;> rw [advance_dev]
  · exact traced_refl _ _
  · exact driven_refl _ _
  · exact laid

theorem write_out_step (g : Ring) (bufBlocks : Nat) (v : WalView) (w : Wal) (inv : WalInv g bufBlocks v w)
    (some_ : 0 < w.nFrames) :
    ∃ rc next after, w.writeOutWindow = (rc, after) ∧ WalStep g bufBlocks v w [] next after ∧ next.synced = v.synced ∧
      ((rc = Err.kSuccess ∧ next.visible = next.entries.length ∧ after.nFrames = w.nFrames % 32 ∧
          next.win = g.openWin bufBlocks next.head next.cur) ∨
        (rc = Err.kWalWriteFailed ∧ ¬ w.dev.Healthy)) := by
  obtain ⟨rc, mid, span, done, step, frames, _, _, still, outcome⟩ := span_step g bufBlocks v w inv
  have busy : w.nFrames ≠ 0 := by omega
  rcases outcome with ⟨rfl, written⟩ | ⟨rfl, sick⟩
  · refine ⟨Err.kSuccess, _, span.advanceAfterWrite, by simp [Wal.writeOutWindow, busy, done],
      wal_step_trans g bufBlocks _ _ _ _ _ _ [] [] step (advance_step g bufBlocks mid span step.inv written), still, ?_⟩
    exact .inl ⟨rfl, written, by rw [advance_frames, frames], rfl⟩
  · exact ⟨Err.kWalWriteFailed, mid, span, by simp [Wal.writeOutWindow, busy, done, Err.kWalWriteFailed, Err.kSuccess], step, still,
      .inr ⟨rfl, sick⟩⟩

theorem flush_step (g : Ring) (bufBlocks : Nat) (v : WalView) (w : Wal) (level : WalLevel) (inv : WalInv g bufBlocks v w) :
    ∃ rc next after, w.flush level = (rc, after) ∧ WalStep g bufBlocks v w [] next after ∧
      ((rc = Err.kSuccess ∧ (isWalSyncLevel level = true ∨ w.nFrames = 0) ∧ next = v ∧ after = w) ∨
        (rc = Err.kSuccess ∧ isWalSyncLevel level = false ∧ 0 < w.nFrames ∧ next.synced = next.entries.length ∧
          after.nFrames = w.nFrames % 32 ∧ next.win = g.openWin bufBlocks next.head next.cur ∧ after.dev.medium.unsynced = []) ∨
        (rc = Err.kWalWriteFailed ∧ ¬ w.dev.Healthy)) := by
  have buffered : w.curBuf ≠ none := by simp [inv.buffer]
  cases sync : isWalSyncLevel level with
  | true => exact ⟨Err.kSuccess, v, w, by simp [Wal.flush, buffered, sync], wal_step_refl g bufBlocks v w inv, .inl ⟨rfl, .inl rfl, rfl, rfl⟩⟩
  | false =>
      by_cases idle : w.nFrames = 0
      · exact ⟨Err.kSuccess, v, w, by simp [Wal.flush, buffered, sync, idle], wal_step_refl g bufBlocks v w inv,
          .inl ⟨rfl, .inr idle, rfl, rfl⟩⟩
      · obtain ⟨rc, mid, span, done, step, frames, _, _, _, outcome⟩ := span_step g bufBlocks v w inv
        rcases outcome with ⟨rfl, written⟩ | ⟨rfl, sick⟩
        · obtain ⟨rc, next, dev, synced, step', written', _, _, outcome⟩ := wal_sync_step g bufBlocks mid span step.inv written
          have both := wal_step_trans g bufBlocks _ _ _ _ _ _ [] [] step step'
          rcases outcome with ⟨rfl, all, clean⟩ | ⟨rfl, sick⟩
          · refine ⟨Err.kSuccess, _, ({ span with dev := dev } : Wal).advanceAfterWrite,
              by simp [Wal.flush, buffered, sync, idle, done, synced],
              wal_step_trans g bufBlocks _ _ _ _ _ _ [] [] both (advance_step g bufBlocks next _ step'.inv written'), .inr (.inl ?_)⟩
            exact ⟨rfl, rfl, by omega, all, by rw [advance_frames]; simp only [frames], rfl, by rw [advance_dev]; exact clean⟩
          · exact ⟨Err.kWalWriteFailed, next, { span with dev := dev },
              by simp [Wal.flush, buffered, sync, idle, done, synced, Err.kIoBase, Err.kSuccess], both,
              .inr (.inr ⟨rfl, fun healthy => sick (driven_healthy _ _ _ step.driven healthy)⟩)⟩
        · exact ⟨Err.kWalWriteFailed, mid, span,
            by simp [Wal.flush, buffered, sync, idle, done, Err.kWalWriteFailed, Err.kSuccess], step, .inr (.inr ⟨rfl, sick⟩)⟩

-- The window a reopened writer has, and whether it takes another frame.
def WalView.reopened (v : WalView) (g : Ring) (bufBlocks : Nat) : WalView :=
  if v.win = 0 then { v with win := g.openWin bufBlocks v.head v.cur } else v

def Wal.reopened (w : Wal) : Wal := if w.windowBytes = 0 then { w with windowBytes := w.windowAt w.curOff } else w

theorem reopened_step (g : Ring) (bufBlocks : Nat) (v : WalView) (w : Wal) (inv : WalInv g bufBlocks v w) :
    WalStep g bufBlocks v w [] (v.reopened g bufBlocks) w.reopened ∧ w.reopened.dev = w.dev ∧
      w.reopened.nFrames = w.nFrames := by
  have window := inv.window
  unfold WalView.reopened Wal.reopened
  by_cases closed : v.win = 0
  · rw [if_pos closed, if_pos (by omega)]
    have kept := reopen_inv g bufBlocks v w inv
    have grown : v.Grows { v with win := g.openWin bufBlocks v.head v.cur } [] :=
      ⟨rfl, (List.append_nil _).symm, rfl, rfl, rfl, Nat.le_refl _, Nat.le_refl _, Nat.le_refl _⟩
    exact ⟨⟨kept, grown, traced_refl _ _, driven_refl _ _, fun _ _ laid => laid⟩, rfl, rfl⟩
  · rw [if_neg closed, if_neg (by omega)]
    exact ⟨wal_step_refl g bufBlocks v w inv, rfl, rfl⟩

-- A window that stays closed means that no frame waits and the ring is full.
theorem reopened_closed (g : Ring) (bufBlocks : Nat) (v : WalView) (w : Wal) (inv : WalInv g bufBlocks v w)
    (closed : (v.reopened g bufBlocks).win = 0) : w.nFrames = 0 ∧ v.entries.length = 32 * (v.head + g.blocks - 1) := by
  have frames := inv.framesFit
  have bufPos := inv.bufPos
  have room := inv.winRoom
  have count := inv.count
  have ordered := inv.headCur
  have seamPos := g.to_seam_pos v.cur
  by_cases shut : v.win = 0
  · simp only [WalView.reopened, shut, if_true, Ring.openWin] at closed
    omega
  · simp only [WalView.reopened, shut, if_false] at closed

theorem reopened_again (g : Ring) (bufBlocks : Nat) (v : WalView) :
    (v.reopened g bufBlocks).reopened g bufBlocks = v.reopened g bufBlocks := by
  by_cases shut : v.win = 0
  · simp only [WalView.reopened, shut, if_true]
    split <;> rfl
  · simp only [WalView.reopened, shut, if_false]

theorem fresh_closed (g : Ring) (bufBlocks : Nat) (v : WalView) (fresh : v.win = g.openWin bufBlocks v.head v.cur) (shut : v.win = 0) :
    (v.reopened g bufBlocks).win = 0 := by
  simp only [WalView.reopened, shut, if_true]
  omega

theorem admission_step (g : Ring) (bufBlocks : Nat) (v : WalView) (w : Wal) (inv : WalInv g bufBlocks v w) :
    ∃ next, WalStep g bufBlocks v w [] next w.admission.wal ∧ next.synced = v.synced ∧
      ((w.admission.wrote = false ∧ w.admission.wal = w.reopened ∧ next = v.reopened g bufBlocks ∧
          ((w.admission.rc = Err.kSuccess ∧ w.admission.wal.nFrames < 32 * next.win) ∨
            (w.admission.rc = Err.kWalFull ∧ (next.reopened g bufBlocks).win = 0))) ∨
        (32 ≤ w.nFrames ∧ w.admission.wrote = true ∧ next.visible = next.entries.length ∧ w.admission.wal.nFrames < 32 ∧
          ((w.admission.rc = Err.kSuccess ∧ w.admission.wal.nFrames < 32 * next.win) ∨
            (w.admission.rc = Err.kWalFull ∧ (next.reopened g bufBlocks).win = 0))) ∨
        (32 ≤ w.nFrames ∧ w.admission.rc = Err.kWalWriteFailed ∧ ¬ w.dev.Healthy)) := by
  obtain ⟨step, dev, frames⟩ := reopened_step g bufBlocks v w inv
  have window := step.inv.window
  have fits := step.inv.framesFit
  have same : (v.reopened g bufBlocks).synced = v.synced := by
    unfold WalView.reopened
    split <;> rfl
  have unfolded : w.admission = if w.reopened.windowBytes = 0 then ⟨Err.kWalFull, false, w.reopened⟩
      else if w.reopened.nFrames * kWalFrameSize ≥ w.reopened.windowBytes then
        if w.reopened.writeOutWindow.1 ≠ Err.kSuccess then ⟨w.reopened.writeOutWindow.1, false, w.reopened.writeOutWindow.2⟩
        else if w.reopened.writeOutWindow.2.windowBytes = 0 then ⟨Err.kWalFull, true, w.reopened.writeOutWindow.2⟩
        else ⟨Err.kSuccess, true, w.reopened.writeOutWindow.2⟩
      else ⟨Err.kSuccess, false, w.reopened⟩ := rfl
  by_cases closed : (v.reopened g bufBlocks).win = 0
  · have shut : w.reopened.windowBytes = 0 := by omega
    rw [if_pos shut] at unfolded
    rw [unfolded]
    exact ⟨_, step, same, .inl ⟨rfl, rfl, rfl, .inr ⟨rfl, by rw [reopened_again]; exact closed⟩⟩⟩
  · rw [if_neg (by omega)] at unfolded
    by_cases full : w.reopened.nFrames * kWalFrameSize ≥ w.reopened.windowBytes
    · rw [if_pos full] at unfolded
      have busy : 32 ≤ w.nFrames := by
        unfold kWalFrameSize at full
        omega
      obtain ⟨rc, next, after, done, out, still, outcome⟩ :=
        write_out_step g bufBlocks _ w.reopened step.inv (by omega)
      have both := wal_step_trans g bufBlocks _ _ _ _ _ _ [] [] step out
      simp only [done] at unfolded
      rcases outcome with ⟨rfl, written, few, fresh⟩ | ⟨rfl, sick⟩
      · have after_window := out.inv.window
        have after_fits := out.inv.framesFit
        by_cases shut : next.win = 0
        · rw [if_neg (by simp), if_pos (by omega)] at unfolded
          rw [unfolded]
          exact ⟨next, both, still.trans same,
            .inr (.inl ⟨busy, rfl, written, by show after.nFrames < 32; omega, .inr ⟨rfl, fresh_closed g bufBlocks next fresh shut⟩⟩)⟩
        · rw [if_neg (by simp), if_neg (by omega)] at unfolded
          rw [unfolded]
          have space : after.nFrames < 32 * next.win := by omega
          exact ⟨next, both, still.trans same, .inr (.inl ⟨busy, rfl, written, by show after.nFrames < 32; omega, .inl ⟨rfl, space⟩⟩)⟩
      · rw [if_pos (by decide)] at unfolded
        rw [unfolded]
        exact ⟨next, both, still.trans same, .inr (.inr ⟨busy, rfl, by rw [← dev]; exact sick⟩)⟩
    · rw [if_neg full] at unfolded
      rw [unfolded]
      have space : w.reopened.nFrames < 32 * (v.reopened g bufBlocks).win := by
        unfold kWalFrameSize at full
        omega
      exact ⟨_, step, same, .inl ⟨rfl, rfl, rfl, .inl ⟨rfl, space⟩⟩⟩

theorem batch_sync_step (g : Ring) (bufBlocks : Nat) (v : WalView) (w : Wal) (inv : WalInv g bufBlocks v w)
    (written : v.visible = v.entries.length) :
    ∃ rc next dev, w.dev.sync = (rc, dev) ∧ WalStep g bufBlocks v w [] next { w with dev := dev } ∧ next.win = v.win ∧ next.cur = v.cur ∧
      ((rc = Err.kSuccess ∧ next.synced = next.entries.length ∧ dev.medium.unsynced = []) ∨ (rc ≠ Err.kSuccess ∧ ¬ w.dev.Healthy)) := by
  obtain ⟨rc, next, dev, done, step, _, same, place, outcome⟩ := wal_sync_step g bufBlocks v w inv written
  refine ⟨rc, next, dev, done, step, same, place, ?_⟩
  rcases outcome with all | ⟨rfl, sick⟩
  · exact .inl all
  · exact .inr ⟨by decide, sick⟩

-- What the loop of a batch leaves: the entries it accepted, and what is still to
-- write or sync. No frame of it is synced yet.
structure BatchStep (g : Ring) (bufBlocks : Nat) (v : WalView) (w : Wal) (started : Bool) (batch more : List WalEntry) (next : WalView)
    (r : BatchRun) : Prop where
  step : WalStep g bufBlocks v w more next r.wal
  taken : batch = more ++ r.rejected
  still : next.synced = v.synced
  busy : r.failRc ≠ Err.kWalWriteFailed → started = true ∨ more ≠ [] → (r.wrote || r.dirty) = true
  dirty : r.failRc ≠ Err.kWalWriteFailed → r.dirty = true → 0 < r.wal.nFrames
  clean : r.failRc ≠ Err.kWalWriteFailed → r.dirty = false → r.wrote = true → next.visible = next.entries.length ∧ r.wal.nFrames < 32
  idle : r.failRc ≠ Err.kWalWriteFailed → (r.wrote || r.dirty) = false → r.wal.dev = w.dev
  outcome : (r.failRc = Err.kSuccess ∧ r.rejected = []) ∨
    (r.failRc = Err.kWalFull ∧ r.dirty = false ∧ (next.reopened g bufBlocks).win = 0) ∨
    (r.failRc = Err.kWalWriteFailed ∧ ¬ w.dev.Healthy)

theorem append_step (g : Ring) (bufBlocks : Nat) (v : WalView) (w : Wal) (e : WalEntry) (inv : WalInv g bufBlocks v w)
    (short : e.key.length ≤ kWalKeyMax) (space : w.nFrames < 32 * v.win) :
    ∃ next, w.append e = (Err.kSuccess, next) ∧ WalStep g bufBlocks v w [e] { v with entries := v.entries ++ [e] } next ∧
      next.dev = w.dev ∧ next.nFrames = w.nFrames + 1 := by
  obtain ⟨next, appended, dev, frames, _, kept⟩ := append_inv g bufBlocks v w e inv short space
  exact ⟨next, appended, ⟨kept, ⟨rfl, rfl, rfl, rfl, rfl, Nat.le_refl _, Nat.le_refl _, Nat.le_refl _⟩,
    by rw [dev]; exact traced_refl _ _, by rw [dev]; exact driven_refl _ _, fun _ base laid => by
      rw [dev]
      exact laid_append g v.entries [e] base _ _ inv.visibleAll laid⟩, dev, frames⟩

theorem batch_loop_step (g : Ring) (bufBlocks : Nat) (batch : List WalEntry) : ∀ (v : WalView) (w : Wal) (wrote dirty : Bool),
    WalInv g bufBlocks v w → (∀ e ∈ batch, e.key.length ≤ kWalKeyMax) → (dirty = true → 0 < w.nFrames) →
    (dirty = false → wrote = true → v.visible = v.entries.length ∧ w.nFrames < 32) →
    ∃ next more, BatchStep g bufBlocks v w (wrote || dirty) batch more next (w.batchLoop wrote dirty batch) := by
  induction batch with
  | nil =>
      intro v w wrote dirty inv _ waits clean
      refine ⟨v, [], wal_step_refl g bufBlocks v w inv, rfl, rfl, fun _ => ?_, fun _ => waits, fun _ => clean, fun _ _ => rfl, .inl ⟨rfl, rfl⟩⟩
      rintro (started | absurd_)
      · exact started
      · exact absurd rfl absurd_
  | cons e rest ih =>
      intro v w wrote dirty inv short waits clean
      obtain ⟨mid, step, still, outcome⟩ := admission_step g bufBlocks v w inv
      -- An accepted frame leaves the rest of the batch to the same loop.
      have accepted (ok : w.admission.rc = Err.kSuccess) (space : w.admission.wal.nFrames < 32 * mid.win) :
          ∃ next more, BatchStep g bufBlocks v w (wrote || dirty) (e :: rest) more next (w.batchLoop wrote dirty (e :: rest)) := by
        obtain ⟨grown, appended, appendStep, dev, frames⟩ :=
          append_step g bufBlocks mid w.admission.wal e step.inv (short e (by simp)) space
        obtain ⟨next, more, loop⟩ := ih { mid with entries := mid.entries ++ [e] } grown (wrote || w.admission.wrote) true appendStep.inv
          (fun e' member => short e' (List.mem_cons_of_mem _ member)) (fun _ => by omega) (fun no => by cases no)
        have unfolded : w.batchLoop wrote dirty (e :: rest) = grown.batchLoop (wrote || w.admission.wrote) true rest := by
          simp [Wal.batchLoop, ok, appended]
        have both := wal_step_trans g bufBlocks _ _ _ _ _ _ [] [e] step appendStep
        rw [unfolded]
        refine ⟨next, [e] ++ more, wal_step_trans g bufBlocks _ _ _ _ _ _ [e] more both loop.step, ?_, loop.still.trans still,
          fun fine _ => loop.busy fine (.inl (by simp)), loop.dirty, loop.clean, fun fine quiet => ?_, ?_⟩
        · rw [List.append_assoc, ← loop.taken]
          rfl
        · have busy := loop.busy fine (.inl (by simp))
          rw [quiet] at busy
          cases busy
        · rcases loop.outcome with done | full | ⟨failed, sick⟩
          · exact .inl done
          · exact .inr (.inl full)
          · exact .inr (.inr ⟨failed, fun healthy => sick (driven_healthy _ _ _ both.driven healthy)⟩)
      rcases outcome with ⟨quiet, same, rfl, ⟨ok, space⟩ | ⟨full, closed⟩⟩ | ⟨busy, wrote', written, few,
        ⟨ok, space⟩ | ⟨full, closed⟩⟩ | ⟨_, failed, sick⟩
      · exact accepted ok space
      · have unfolded : w.batchLoop wrote dirty (e :: rest) = ⟨w.admission.wal, wrote, dirty, Err.kWalFull, e :: rest⟩ := by
          simp [Wal.batchLoop, full, quiet, Err.kWalFull, Err.kSuccess]
        have shut : (v.reopened g bufBlocks).win = 0 := by
          rw [← reopened_again]
          exact closed
        obtain ⟨idle, _⟩ := reopened_closed g bufBlocks v w inv shut
        have undirty : dirty = false := by
          cases dirty with
          | false => rfl
          | true => exact absurd (waits rfl) (by omega)
        have entries : (v.reopened g bufBlocks).visible = v.visible ∧ (v.reopened g bufBlocks).entries = v.entries := by
          unfold WalView.reopened
          split <;> exact ⟨rfl, rfl⟩
        have frames : w.admission.wal.nFrames = w.nFrames := by
          rw [same]
          unfold Wal.reopened
          split <;> rfl
        rw [unfolded]
        refine ⟨_, [], step, rfl, still, fun _ => ?_, fun _ => ?_, fun _ _ wrote'' => ?_, fun _ _ => ?_, .inr (.inl ⟨rfl, undirty, closed⟩)⟩
        · rintro (started | absurd_)
          · exact started
          · exact absurd rfl absurd_
        · rw [undirty]
          exact fun no => by cases no
        · obtain ⟨all, _⟩ := clean undirty wrote''
          refine ⟨by rw [entries.1, entries.2, all], ?_⟩
          show w.admission.wal.nFrames < 32
          omega
        · show w.admission.wal.dev = w.dev
          rw [same]
          unfold Wal.reopened
          split <;> rfl
      · exact accepted ok space
      · have unfolded : w.batchLoop wrote dirty (e :: rest) = ⟨w.admission.wal, true, false, Err.kWalFull, e :: rest⟩ := by
          simp [Wal.batchLoop, full, wrote', Err.kWalFull, Err.kSuccess]
        rw [unfolded]
        exact ⟨mid, [], step, rfl, still, fun _ _ => rfl, (fun _ no => by cases no), fun _ _ _ => ⟨written, few⟩,
          (fun _ no => by cases no), .inr (.inl ⟨rfl, rfl, closed⟩)⟩
      · have unfolded : w.batchLoop wrote dirty (e :: rest) =
            ⟨w.admission.wal, wrote || w.admission.wrote, dirty && !w.admission.wrote, Err.kWalWriteFailed, e :: rest⟩ := by
          simp [Wal.batchLoop, failed, Err.kWalWriteFailed, Err.kSuccess]
        rw [unfolded]
        exact ⟨mid, [], step, rfl, still, fun fine => absurd rfl fine, fun fine => absurd rfl fine, fun fine => absurd rfl fine,
          fun fine => absurd rfl fine, .inr (.inr ⟨rfl, sick⟩)⟩

-- The end of a batch: its last span is written, and then everything is synced
-- at once.
theorem batch_finish_step (g : Ring) (bufBlocks : Nat) (v : WalView) (w : Wal) (started : Bool) (batch more : List WalEntry)
    (next : WalView) (r : BatchRun) (loop : BatchStep g bufBlocks v w started batch more next r) :
    ∃ rc last after, r.finish = (rc, after) ∧ WalStep g bufBlocks v w more last after ∧
      (r.failRc = Err.kWalFull → (last.reopened g bufBlocks).win = 0) ∧
      ((rc = Err.kSuccess ∧ r.failRc ≠ Err.kWalWriteFailed ∧ (more ≠ [] → last.synced = last.entries.length ∧ after.nFrames < 32)) ∨
        (rc = Err.kWalWriteFailed ∧ ¬ w.dev.Healthy)) := by
  have closed (full : r.failRc = Err.kWalFull) : r.dirty = false ∧ (next.reopened g bufBlocks).win = 0 := by
    rcases loop.outcome with ⟨done, _⟩ | ⟨_, undirty, shut⟩ | ⟨failed, _⟩
    · exact absurd (full.symm.trans done) (by decide)
    · exact ⟨undirty, shut⟩
    · exact absurd (full.symm.trans failed) (by decide)
  by_cases failed : r.failRc = Err.kWalWriteFailed
  · refine ⟨_, next, r.wal, ?_, loop.step, fun full => (closed full).2, .inr ⟨failed, ?_⟩⟩
    · simp [BatchRun.finish, failed, Err.kWalWriteFailed, Err.kSuccess, Err.kWalFull]
    · rcases loop.outcome with ⟨done, _⟩ | ⟨full, _⟩ | ⟨_, sick⟩
      · exact absurd (failed.symm.trans done) (by decide)
      · exact absurd (failed.symm.trans full) (by decide)
      · exact sick
  · have guard : ¬ (r.failRc ≠ Err.kSuccess ∧ r.failRc ≠ Err.kWalFull) := by
      rintro ⟨notDone, notFull⟩
      rcases loop.outcome with ⟨done, _⟩ | ⟨full, _⟩ | ⟨no, _⟩
      · exact notDone done
      · exact notFull full
      · exact failed no
    have healthyAfter := driven_healthy _ _ _ loop.step.driven
    -- What is left of the window, where the batch owes it.
    obtain ⟨out, mid, after, done, outStep, same, outcome⟩ : ∃ rc mid after,
        (if r.dirty then r.wal.writeOutWindow else (Err.kSuccess, r.wal)) = (rc, after) ∧ WalStep g bufBlocks next r.wal [] mid after ∧
        (r.dirty = false → mid = next) ∧
        ((rc = Err.kSuccess ∧ ((r.wrote || r.dirty) = true → mid.visible = mid.entries.length ∧ after.nFrames < 32)) ∨
          (rc = Err.kWalWriteFailed ∧ ¬ r.wal.dev.Healthy)) := by
      cases dirty : r.dirty with
      | false =>
          refine ⟨Err.kSuccess, next, r.wal, by simp, wal_step_refl g bufBlocks next r.wal loop.step.inv, fun _ => rfl, .inl ⟨rfl, fun wrote => ?_⟩⟩
          exact loop.clean failed dirty (by simpa using wrote)
      | true =>
          obtain ⟨rc, mid, after, done, step, _, outcome⟩ :=
            write_out_step g bufBlocks next r.wal loop.step.inv (loop.dirty failed dirty)
          refine ⟨rc, mid, after, by simpa using done, step, (fun no => by cases no), ?_⟩
          rcases outcome with ⟨rfl, written, few, _⟩ | ⟨rfl, sick⟩
          · exact .inl ⟨rfl, fun _ => ⟨written, by rw [few]; exact Nat.mod_lt _ (by decide)⟩⟩
          · exact .inr ⟨rfl, sick⟩
    have both := wal_step_trans g bufBlocks _ _ _ _ _ _ more [] loop.step outStep
    rw [List.append_nil] at both
    have shut (full : r.failRc = Err.kWalFull) : (mid.reopened g bufBlocks).win = 0 := by
      obtain ⟨undirty, window⟩ := closed full
      rw [same undirty, window]
    have unfolded : r.finish =
        if out ≠ Err.kSuccess then (Err.kWalWriteFailed, after)
        else if r.wrote || r.dirty then
          (if after.dev.sync.1 ≠ Err.kSuccess then Err.kWalWriteFailed else Err.kSuccess, { after with dev := after.dev.sync.2 })
        else (Err.kSuccess, after) := by
      unfold BatchRun.finish
      rw [if_neg guard, done]
    rcases outcome with ⟨rfl, written⟩ | ⟨rfl, sick⟩
    · rw [if_neg (by simp)] at unfolded
      cases wrote : (r.wrote || r.dirty) with
      | false =>
          rw [wrote, if_neg (by simp)] at unfolded
          refine ⟨Err.kSuccess, mid, after, unfolded, both, shut, .inl ⟨rfl, failed, fun some_ => ?_⟩⟩
          have busy := loop.busy failed (.inr some_)
          rw [wrote] at busy
          cases busy
      | true =>
          obtain ⟨all, few⟩ := written wrote
          obtain ⟨rc, last, dev, synced, syncStep, sameWin, sameCur, result⟩ := batch_sync_step g bufBlocks mid after outStep.inv all
          have whole := wal_step_trans g bufBlocks _ _ _ _ _ _ more [] both syncStep
          rw [List.append_nil] at whole
          rw [wrote, if_pos rfl, synced] at unfolded
          have shutLast (full : r.failRc = Err.kWalFull) : (last.reopened g bufBlocks).win = 0 := by
            have window := shut full
            unfold WalView.reopened at window ⊢
            rw [sameWin]
            have grown := syncStep.grown
            by_cases closed : mid.win = 0
            · rw [if_pos closed] at window ⊢
              simpa only [grown.head, sameCur] using window
            · rw [if_neg closed] at window
              exact absurd window closed
          rcases result with ⟨rfl, final, _⟩ | ⟨bad, sick⟩
          · exact ⟨Err.kSuccess, last, { after with dev := dev }, by simpa using unfolded, whole, shutLast,
              .inl ⟨rfl, failed, fun _ => ⟨final, few⟩⟩⟩
          · exact ⟨Err.kWalWriteFailed, last, { after with dev := dev }, by simpa [bad] using unfolded, whole, shutLast,
              .inr ⟨rfl, fun healthy => sick (driven_healthy _ _ _ outStep.driven (healthyAfter healthy))⟩⟩
    · exact ⟨Err.kWalWriteFailed, mid, after, by simpa [Err.kWalWriteFailed, Err.kSuccess] using unfolded, both, shut,
        .inr ⟨rfl, fun healthy => sick (healthyAfter healthy)⟩⟩

-- A batch accepts some of its entries from the front on. The others are refused
-- because the ring is full, or the device has failed.
theorem process_batch_step (g : Ring) (bufBlocks : Nat) (v : WalView) (w : Wal) (batch : List WalEntry)
    (inv : WalInv g bufBlocks v w) (short : ∀ e ∈ batch, e.key.length ≤ kWalKeyMax) :
    ∃ rc suffix next after more rest, batch = more ++ rest ∧
      w.processBatch batch = (List.replicate more.length rc ++ List.replicate rest.length suffix, after) ∧
      WalStep g bufBlocks v w more next after ∧ (rest = [] ∨ suffix = rc ∨ (suffix = Err.kWalFull ∧ (next.reopened g bufBlocks).win = 0)) ∧
      ((rc = Err.kSuccess ∧ (more ≠ [] → next.synced = next.entries.length ∧ after.nFrames < 32) ∧ (rest = [] ∨ suffix = Err.kWalFull)) ∨
        (rc = Err.kWalWriteFailed ∧ ¬ w.dev.Healthy)) := by
  obtain ⟨mid, more, loop⟩ := batch_loop_step g bufBlocks batch v w false false inv short (fun no => by cases no)
    (fun _ no => by cases no)
  obtain ⟨rc, next, after, done, step, shut, outcome⟩ := batch_finish_step g bufBlocks v w _ batch more mid _ loop
  have taken := loop.taken
  have accepted : batch.length - (w.batchLoop false false batch).rejected.length = more.length := by
    have total := congrArg List.length taken
    rw [List.length_append] at total
    omega
  have result : w.processBatch batch = (List.replicate more.length rc ++ List.replicate (w.batchLoop false false batch).rejected.length
      (if (w.batchLoop false false batch).failRc = Err.kWalFull then Err.kWalFull else rc), after) := by
    simp only [Wal.processBatch, done, accepted]
  refine ⟨rc, _, next, after, more, _, taken, result, step, ?_, ?_⟩
  · by_cases full : (w.batchLoop false false batch).failRc = Err.kWalFull
    · exact .inr (.inr ⟨if_pos full, shut full⟩)
    · exact .inr (.inl (if_neg full))
  · rcases outcome with ⟨rfl, fine, synced⟩ | failed
    · refine .inl ⟨rfl, synced, ?_⟩
      rcases loop.outcome with ⟨_, none_⟩ | ⟨full, _⟩ | ⟨failed, _⟩
      · exact .inl none_
      · exact .inr (if_pos full)
      · exact absurd failed fine
    · exact .inr failed

theorem write_sync_step (g : Ring) (bufBlocks : Nat) (v : WalView) (w : Wal) (level : WalLevel) (e : WalEntry)
    (inv : WalInv g bufBlocks v w) (short : e.key.length ≤ kWalKeyMax) (sync : isWalSyncLevel level = true) :
    ∃ rc next after more, w.writeWal level e = (rc, after) ∧ WalStep g bufBlocks v w more next after ∧
      (more = [] ∨ more = [e]) ∧
      (rc = Err.kSuccess → more = [e] ∧ next.synced = next.entries.length ∧ after.nFrames < 32) ∧
      (rc = Err.kWalFull → more = [] ∧ (next.reopened g bufBlocks).win = 0) := by
  have buffered : w.curBuf ≠ none := by simp [inv.buffer]
  have long : ¬ e.key.length > kWalKeyMax := by omega
  obtain ⟨rc, suffix, next, after, more, rest, taken, done, step, refused, outcome⟩ :=
    process_batch_step g bufBlocks v w [e] inv (by simpa using short)
  have unfolded : w.writeWal level e = ((List.replicate more.length rc ++ List.replicate rest.length suffix).headD Err.kSuccess, after) := by
    simp only [Wal.writeWal, if_neg long, if_neg buffered, sync, if_true, done]
  cases more with
  | nil =>
      have only : rest = [e] := by simpa using taken.symm
      subst only
      refine ⟨suffix, next, after, [], by simpa using unfolded, step, .inl rfl, fun success => ?_, fun full => ?_⟩
      · rcases outcome with ⟨_, _, none_ | full⟩ | ⟨rfl, _⟩
        · cases none_
        · exact absurd (full.symm.trans success) (by decide)
        · rcases refused with none_ | same | ⟨full, _⟩
          · cases none_
          · exact absurd (same.symm.trans success) (by decide)
          · exact absurd (full.symm.trans success) (by decide)
      · rcases refused with none_ | same | ⟨_, closed⟩
        · cases none_
        · rcases outcome with ⟨rfl, _⟩ | ⟨rfl, _⟩
          · exact absurd (same.symm.trans full) (by decide)
          · exact absurd (same.symm.trans full) (by decide)
        · exact ⟨rfl, closed⟩
  | cons first more =>
      obtain ⟨rfl, others⟩ : first = e ∧ more ++ rest = [] := by simpa [eq_comm] using taken
      obtain ⟨rfl, rfl⟩ := List.append_eq_nil_iff.mp others
      refine ⟨rc, next, after, [first], by simpa using unfolded, step, .inr rfl, fun success => ?_, fun full => ?_⟩
      · rcases outcome with ⟨_, synced, _⟩ | ⟨failed, _⟩
        · exact ⟨rfl, synced (by simp)⟩
        · exact absurd (failed.symm.trans success) (by decide)
      · rcases outcome with ⟨success, _⟩ | ⟨failed, _⟩
        · exact absurd (success.symm.trans full) (by decide)
        · exact absurd (failed.symm.trans full) (by decide)

-- Append at a batched level, with the flush of a window it has filled.
def Wal.appendFlush (w : Wal) (level : WalLevel) (e : WalEntry) : Rc × Wal :=
  match w.append e with
  | (rc, w2) =>
    if rc ≠ Err.kSuccess then (rc, w2)
    else if w2.nFrames * kWalFrameSize ≥ w2.windowBytes then w2.flush level
    else (Err.kSuccess, w2)

theorem append_flush_step (g : Ring) (bufBlocks : Nat) (v : WalView) (w : Wal) (level : WalLevel) (e : WalEntry)
    (inv : WalInv g bufBlocks v w) (short : e.key.length ≤ kWalKeyMax) (space : w.nFrames < 32 * v.win) :
    ∃ rc next after, w.appendFlush level e = (rc, after) ∧ WalStep g bufBlocks v w [e] next after ∧
      (rc = Err.kSuccess ∨ (rc = Err.kWalWriteFailed ∧ ¬ w.dev.Healthy)) := by
  obtain ⟨grown, appended, step, dev, _⟩ := append_step g bufBlocks v w e inv short space
  by_cases full : grown.nFrames * kWalFrameSize ≥ grown.windowBytes
  · obtain ⟨rc, next, after, done, flushed, outcome⟩ := flush_step g bufBlocks _ grown level step.inv
    refine ⟨rc, next, after, by simp [Wal.appendFlush, appended, full, done],
      wal_step_trans g bufBlocks _ _ _ _ _ _ [e] [] step flushed, ?_⟩
    rcases outcome with ⟨ok, _⟩ | ⟨ok, _⟩ | ⟨failed, sick⟩
    · exact .inl ok
    · exact .inl ok
    · exact .inr ⟨failed, by rw [← dev]; exact sick⟩
  · exact ⟨Err.kSuccess, _, grown, by simp [Wal.appendFlush, appended, full], step, .inl rfl⟩

theorem write_wal_batched (w : Wal) (level : WalLevel) (e : WalEntry) (short : e.key.length ≤ kWalKeyMax)
    (buffered : w.curBuf ≠ none) (batched : isWalSyncLevel level = false) :
    w.writeWal level e =
      if w.reopened.windowBytes = 0 then (Err.kWalFull, w.reopened)
      else
        match (if w.reopened.nFrames * kWalFrameSize ≥ w.reopened.windowBytes then w.reopened.flush level
          else (Err.kSuccess, w.reopened)) with
        | (rc, w1) =>
          if rc ≠ Err.kSuccess then (rc, w1)
          else if w1.windowBytes = 0 then (Err.kWalFull, w1)
          else w1.appendFlush level e := by
  have long : ¬ e.key.length > kWalKeyMax := by omega
  unfold Wal.writeWal
  rw [if_neg long, if_neg buffered, batched]
  rfl

theorem write_batched_step (g : Ring) (bufBlocks : Nat) (v : WalView) (w : Wal) (level : WalLevel) (e : WalEntry)
    (inv : WalInv g bufBlocks v w) (short : e.key.length ≤ kWalKeyMax) (batched : isWalSyncLevel level = false) :
    ∃ rc next after more, w.writeWal level e = (rc, after) ∧ WalStep g bufBlocks v w more next after ∧
      (more = [] ∨ more = [e]) ∧ (rc = Err.kSuccess → more = [e]) ∧ (rc = Err.kWalFull → more = [] ∧ (next.reopened g bufBlocks).win = 0) := by
  have buffered : w.curBuf ≠ none := by simp [inv.buffer]
  have opened := write_wal_batched w level e short buffered batched
  obtain ⟨step, _, frames⟩ := reopened_step g bufBlocks v w inv
  have window := step.inv.window
  have fits := step.inv.framesFit
  by_cases closed : (v.reopened g bufBlocks).win = 0
  · rw [if_pos (by omega)] at opened
    exact ⟨Err.kWalFull, _, w.reopened, [], opened, step, .inl rfl, fun success => absurd success (by decide),
      fun _ => ⟨rfl, by rw [reopened_again]; exact closed⟩⟩
  · rw [if_neg (by omega)] at opened
    by_cases full : w.reopened.nFrames * kWalFrameSize ≥ w.reopened.windowBytes
    · rw [if_pos full] at opened
      unfold kWalFrameSize at full
      obtain ⟨rc, mid, out, done, flushed, outcome⟩ := flush_step g bufBlocks _ w.reopened level step.inv
      have both := wal_step_trans g bufBlocks _ _ _ _ _ _ [] [] step flushed
      simp only [done] at opened
      rcases outcome with ⟨_, idle, _⟩ | ⟨rfl, _, _, _, few, fresh, _⟩ | ⟨rfl, _⟩
      · rw [batched] at idle
        have none_ : w.reopened.nFrames = 0 := by simpa using idle
        omega
      · have after_window := flushed.inv.window
        by_cases shut : mid.win = 0
        · rw [if_neg (by simp), if_pos (by omega)] at opened
          exact ⟨Err.kWalFull, mid, out, [], opened, both, .inl rfl, fun success => absurd success (by decide),
            fun _ => ⟨rfl, fresh_closed g bufBlocks mid fresh shut⟩⟩
        · rw [if_neg (by simp), if_neg (by omega)] at opened
          obtain ⟨rc, next, after, finished, last, outcome⟩ :=
            append_flush_step g bufBlocks mid out level e flushed.inv short (by omega)
          refine ⟨rc, next, after, [e], opened.trans finished, wal_step_trans g bufBlocks _ _ _ _ _ _ [] [e] both last, .inr rfl,
            fun _ => rfl, fun full => ?_⟩
          rcases outcome with ok | ⟨failed, _⟩
          · exact absurd (ok.symm.trans full) (by decide)
          · exact absurd (failed.symm.trans full) (by decide)
      · rw [if_pos (by decide)] at opened
        exact ⟨_, mid, out, [], opened, both, .inl rfl, fun success => absurd success (by decide), fun full => absurd full (by decide)⟩
    · rw [if_neg full] at opened
      unfold kWalFrameSize at full
      simp only [ne_eq, not_true_eq_false, if_false] at opened
      rw [if_neg (by omega)] at opened
      obtain ⟨rc, next, after, finished, last, outcome⟩ :=
        append_flush_step g bufBlocks _ w.reopened level e step.inv short (by omega)
      refine ⟨rc, next, after, [e], opened.trans finished, wal_step_trans g bufBlocks _ _ _ _ _ _ [] [e] step last, .inr rfl,
        fun _ => rfl, fun full => ?_⟩
      rcases outcome with ok | ⟨failed, _⟩
      · exact absurd (ok.symm.trans full) (by decide)
      · exact absurd (failed.symm.trans full) (by decide)

end Cabe
