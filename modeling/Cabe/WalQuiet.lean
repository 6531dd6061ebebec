import Cabe.WalOps

set_option autoImplicit false

namespace Cabe

open Storage

-- A medium caught in the middle of one window write: frames from synced on may
-- be there or not, and they lie in the window that opens at some block not
-- after them.
def TornAt (g : Ring) (bufBlocks synced written : Nat) : Prop :=
  ∃ b, 32 * b ≤ synced ∧ written ≤ 32 * (b + bufBlocks) ∧ written ≤ 32 * (b + g.toSeam b)

def Torn (g : Ring) (bufBlocks : Nat) (v next : WalView) (m : Medium) : Prop :=
  ∃ synced written, v.synced ≤ synced ∧ synced ≤ next.synced ∧ synced ≤ written ∧ written ≤ next.entries.length ∧
    written + 32 ≤ 32 * next.head + g.slots ∧ MediumOk g next.toHistory synced written m ∧ TornAt g bufBlocks synced written

-- Between two calls to a device that never fails nothing is left to sync, and at
-- a synchronous level nothing is left to write.
structure Quiet (g : Ring) (bufBlocks : Nat) (level : WalLevel) (v : WalView) (w : Wal) : Prop where
  inv : WalInv g bufBlocks v w
  healthy : w.dev.Healthy
  clean : w.dev.medium.unsynced = []
  settled : v.visible = v.synced
  owed : isWalSyncLevel level = true → v.synced = v.entries.length ∧ w.nFrames < 32

structure QuietStep (g : Ring) (bufBlocks : Nat) (level : WalLevel) (v : WalView) (w : Wal) (more : List WalEntry)
    (next : WalView) (after : Wal) : Prop where
  quiet : Quiet g bufBlocks level next after
  grown : v.Grows next more
  traced : Traced w.dev after.dev (Torn g bufBlocks v next)
  laid : ∀ base, Laid g v.entries base v.visible w.dev.medium.cur → Laid g next.entries base next.visible after.dev.medium.cur

theorem torn_synced (g : Ring) (bufBlocks synced : Nat) (pos : 0 < bufBlocks) : TornAt g bufBlocks synced synced := by
  have seam := g.to_seam_pos (synced / 32)
  exact ⟨synced / 32, by omega, by omega, by omega⟩

theorem wal_written_room (g : Ring) (bufBlocks : Nat) (v : WalView) (w : Wal) (inv : WalInv g bufBlocks v w) :
    v.entries.length + 32 ≤ 32 * v.head + g.slots := by
  have count := inv.count
  have frames := inv.framesFit
  have room := inv.winRoom
  rw [Ring.slots]
  omega

theorem torn_grows (g : Ring) (bufBlocks : Nat) (a b c : WalView) (more : List WalEntry) (m : Medium)
    (grown : b.Grows c more) (torn : Torn g bufBlocks a b m) : Torn g bufBlocks a c m := by
  obtain ⟨synced, written, lower, upper, ordered, bound, room, ok, window⟩ := torn
  refine ⟨synced, written, lower, Nat.le_trans upper grown.synced, ordered, ?_, by rw [grown.head]; exact room, ?_, window⟩
  · rw [grown.entries, List.length_append]
    omega
  · rw [grows_history b c more grown]
    exact medium_ok_append g b.toHistory more synced written m (by omega) bound ok

theorem torn_earlier (g : Ring) (bufBlocks : Nat) (a b c : WalView) (m : Medium) (earlier : a.synced ≤ b.synced)
    (torn : Torn g bufBlocks b c m) : Torn g bufBlocks a c m := by
  obtain ⟨synced, written, lower, rest⟩ := torn
  exact ⟨synced, written, Nat.le_trans earlier lower, rest⟩

theorem quiet_step_trans (g : Ring) (bufBlocks : Nat) (level : WalLevel) (a b c : WalView) (w x y : Wal)
    (more rest : List WalEntry) (first : QuietStep g bufBlocks level a w more b x)
    (second : QuietStep g bufBlocks level b x rest c y) : QuietStep g bufBlocks level a w (more ++ rest) c y := by
  refine ⟨second.quiet, grows_trans a b c more rest first.grown second.grown, traced_trans w.dev x.dev y.dev _ ?_ ?_,
    fun base laid => second.laid base (first.laid base laid)⟩
  · exact traced_mono _ _ _ _ (fun m => torn_grows g bufBlocks a b c rest m second.grown) first.traced
  · exact traced_mono _ _ _ _ (fun m => torn_earlier g bufBlocks a b c m first.grown.synced) second.traced

theorem quiet_step_refl (g : Ring) (bufBlocks : Nat) (level : WalLevel) (v : WalView) (w : Wal)
    (quiet : Quiet g bufBlocks level v w) : QuietStep g bufBlocks level v w [] v w :=
  ⟨quiet, grows_refl v, traced_refl _ _, fun _ laid => laid⟩

-- The medium as the last window write left it, and then as its sync did.
theorem span_torn (g : Ring) (bufBlocks : Nat) (v : WalView) (w : Wal) (inv : WalInv g bufBlocks v w)
    (reach : 32 * v.cur ≤ v.synced) : TornAt g bufBlocks v.synced v.entries.length := by
  have count := inv.count
  have frames := inv.framesFit
  have buf := inv.winBuf
  have seam := inv.winSeam
  exact ⟨v.cur, reach, by omega, by omega⟩

-- Writing the window out and syncing it, whichever of the two the advance follows.
theorem write_sync_quiet (g : Ring) (bufBlocks : Nat) (level : WalLevel) (v : WalView) (w : Wal)
    (inv : WalInv g bufBlocks v w) (healthy : w.dev.Healthy) (reach : 32 * v.cur ≤ v.synced) :
    ∃ span dev next, w.writeWindowSpan = (Err.kSuccess, span) ∧ span.dev.sync = (Err.kSuccess, dev) ∧
      ({ span with dev := dev } : Wal).advanceAfterWrite = { span.advanceAfterWrite with dev := dev } ∧
      QuietStep g bufBlocks level v w [] next ({ span with dev := dev } : Wal).advanceAfterWrite ∧
      next.synced = next.entries.length ∧ next.win = g.openWin bufBlocks next.head next.cur ∧
      ({ span with dev := dev } : Wal).advanceAfterWrite.nFrames = w.nFrames % 32 := by
  have outcome := healthy_outcome w.dev healthy
  rcases write_span_cases g bufBlocks v w inv with ⟨_, done, kept⟩ | ⟨mask, failed, _⟩
  · have spanHealthy := healthy_record w.dev (w.dev.medium.put (spanImage g v w)) healthy
    rcases wal_sync_cases g bufBlocks _ _ kept rfl with ⟨_, synced, kept'⟩ | ⟨mask, failed, _⟩
    · have advanced := advance_inv g bufBlocks _ _ kept' rfl
      have bound := wal_synced_bound g bufBlocks v w inv
      have pos := inv.bufPos
      have grown : v.Grows (({ v with visible := v.entries.length, synced := v.entries.length } : WalView).advanced g bufBlocks w.nFrames) [] :=
        ⟨rfl, (List.append_nil _).symm, rfl, rfl, rfl, Nat.le_add_right _ _, inv.visibleAll, bound⟩
      have room := wal_written_room g bufBlocks v w inv
      refine ⟨_, _, _, done, synced, ?_, ⟨⟨advanced, ?_, ?_, rfl, ?_⟩, grown, ?_, fun base laid => ?_⟩, rfl, rfl, ?_⟩
      · unfold Wal.advanceAfterWrite
        dsimp only
        split <;> rfl
      · rw [advance_dev]
        exact healthy_record _ _ spanHealthy
      · rw [advance_dev]
        rfl
      · intro _
        refine ⟨rfl, ?_⟩
        rw [advance_frames]
        exact Nat.mod_lt _ (by decide)
      · rw [advance_dev]
        refine traced_trans _ _ _ _ (traced_record w.dev _ _ ?_) (traced_record _ _ _ ?_)
        · exact ⟨v.synced, v.entries.length, Nat.le_refl _, bound, bound, Nat.le_refl _, room, kept.medium,
            span_torn g bufBlocks v w inv reach⟩
        · exact ⟨v.entries.length, v.entries.length, bound, Nat.le_refl _, Nat.le_refl _, Nat.le_refl _, room, kept'.medium,
            torn_synced g bufBlocks _ pos⟩
      · rw [advance_dev]
        exact span_laid g bufBlocks v w inv base laid
      · rw [advance_frames]
    · rw [healthy_outcome _ spanHealthy] at failed
      cases failed
  · rw [outcome] at failed
    cases failed

theorem quiet_reach (g : Ring) (bufBlocks : Nat) (level : WalLevel) (v : WalView) (w : Wal)
    (quiet : Quiet g bufBlocks level v w) : 32 * v.cur ≤ v.synced := quiet.settled ▸ quiet.inv.visibleCur

theorem quiet_idle (g : Ring) (bufBlocks : Nat) (level : WalLevel) (v : WalView) (w : Wal)
    (quiet : Quiet g bufBlocks level v w) (idle : w.nFrames = 0) : v.synced = v.entries.length := by
  have reach := quiet_reach g bufBlocks level v w quiet
  have count := quiet.inv.count
  have bound := wal_synced_bound g bufBlocks v w quiet.inv
  omega

theorem flush_quiet (g : Ring) (bufBlocks : Nat) (level : WalLevel) (v : WalView) (w : Wal)
    (quiet : Quiet g bufBlocks level v w) :
    ∃ next after, w.flush level = (Err.kSuccess, after) ∧ QuietStep g bufBlocks level v w [] next after ∧
      next.synced = next.entries.length ∧ after.nFrames < 32 ∧
      (next = v ∨ next.win = g.openWin bufBlocks next.head next.cur) := by
  have buffered : w.curBuf ≠ none := by simp [quiet.inv.buffer]
  cases sync : isWalSyncLevel level with
  | true =>
      obtain ⟨all, few⟩ := quiet.owed sync
      exact ⟨v, w, by simp [Wal.flush, buffered, sync], quiet_step_refl g bufBlocks level v w quiet, all, few,
        .inl rfl⟩
  | false =>
      by_cases idle : w.nFrames = 0
      · exact ⟨v, w, by simp [Wal.flush, buffered, sync, idle], quiet_step_refl g bufBlocks level v w quiet,
          quiet_idle g bufBlocks level v w quiet idle, by omega, .inl rfl⟩
      · obtain ⟨span, dev, next, done, synced, _, step, all, fresh, few⟩ :=
          write_sync_quiet g bufBlocks level v w quiet.inv quiet.healthy (quiet_reach g bufBlocks level v w quiet)
        exact ⟨next, _, by simp [Wal.flush, buffered, sync, idle, done, synced], step, all,
          by rw [few]; exact Nat.mod_lt _ (by decide), .inr fresh⟩

theorem reopened_quiet (g : Ring) (bufBlocks : Nat) (level : WalLevel) (v : WalView) (w : Wal)
    (quiet : Quiet g bufBlocks level v w) :
    QuietStep g bufBlocks level v w [] (v.reopened g bufBlocks) w.reopened ∧ w.reopened.nFrames = w.nFrames := by
  obtain ⟨step, dev, frames⟩ := reopened_step g bufBlocks v w quiet.inv
  have same : (v.reopened g bufBlocks).visible = v.visible ∧ (v.reopened g bufBlocks).synced = v.synced ∧
      (v.reopened g bufBlocks).entries = v.entries := by
    unfold WalView.reopened
    split <;> exact ⟨rfl, rfl, rfl⟩
  obtain ⟨visible, synced, entries⟩ := same
  refine ⟨⟨⟨step.inv, by rw [dev]; exact quiet.healthy, by rw [dev]; exact quiet.clean, ?_, ?_⟩, step.grown, ?_, fun base laid => ?_⟩, frames⟩
  · rw [visible, synced]
    exact quiet.settled
  · rw [synced, entries, frames]
    exact quiet.owed
  · rw [dev]
    exact traced_refl _ _
  · rw [dev, entries, visible]
    exact laid

-- The state between an append and the write of its window.
theorem append_quiet (g : Ring) (bufBlocks : Nat) (level : WalLevel) (v : WalView) (w : Wal) (e : WalEntry)
    (quiet : Quiet g bufBlocks level v w) (short : e.key.length ≤ kWalKeyMax) (space : w.nFrames < 32 * v.win) :
    ∃ next, w.append e = (Err.kSuccess, next) ∧ next.dev = w.dev ∧ next.nFrames = w.nFrames + 1 ∧
      next.windowBytes = w.windowBytes ∧ WalInv g bufBlocks { v with entries := v.entries ++ [e] } next ∧ next.dev.Healthy ∧
      v.Grows { v with entries := v.entries ++ [e] } [e] := by
  obtain ⟨next, appended, dev, frames, window, kept⟩ := append_inv g bufBlocks v w e quiet.inv short space
  exact ⟨next, appended, dev, frames, window, kept, by rw [dev]; exact quiet.healthy,
    ⟨rfl, rfl, rfl, rfl, rfl, Nat.le_refl _, Nat.le_refl _, Nat.le_refl _⟩⟩

theorem write_at_sync_quiet (g : Ring) (bufBlocks : Nat) (level : WalLevel) (v : WalView) (w : Wal) (e : WalEntry)
    (quiet : Quiet g bufBlocks level v w) (short : e.key.length ≤ kWalKeyMax) (sync : isWalSyncLevel level = true) :
    ∃ rc next after more, w.writeWal level e = (rc, after) ∧ QuietStep g bufBlocks level v w more next after ∧
      ((rc = Err.kSuccess ∧ more = [e]) ∨
        (rc = Err.kWalFull ∧ more = [] ∧ v.entries.length = 32 * (v.head + g.blocks - 1))) := by
  have buffered : w.curBuf ≠ none := by simp [quiet.inv.buffer]
  have long : ¬ e.key.length > kWalKeyMax := by omega
  obtain ⟨all, few⟩ := quiet.owed sync
  obtain ⟨opened, frames⟩ := reopened_quiet g bufBlocks level v w quiet
  obtain ⟨mid, _, _, outcome⟩ := admission_step g bufBlocks v w quiet.inv
  rcases outcome with ⟨quietly, same, rfl, ⟨ok, space⟩ | ⟨full, closed⟩⟩ | ⟨busy, _⟩ | ⟨busy, _⟩
  · rw [same] at space
    obtain ⟨grown, appended, dev, more, _, kept, healthy, grows⟩ :=
      append_quiet g bufBlocks level _ w.reopened e opened.quiet short space
    have reach := quiet_reach g bufBlocks level _ _ opened.quiet
    obtain ⟨span, dev', next, done, synced, both, step, _⟩ := write_sync_quiet g bufBlocks level _ grown kept healthy reach
    have busy : grown.nFrames ≠ 0 := by omega
    have appendStep : Traced w.dev grown.dev (Torn g bufBlocks v next) := by
      rw [dev]
      exact traced_mono _ _ _ _ (fun m torn => torn_grows g bufBlocks v _ next [e] m
        (by simpa using grows_trans _ _ _ _ _ grows step.grown) torn) opened.traced
    refine ⟨Err.kSuccess, next, _, [e], ?_, ⟨step.quiet, ?_, ?_, fun base laid => step.laid base ?_⟩, .inl ⟨rfl, rfl⟩⟩
    · simp [Wal.writeWal, long, buffered, sync, Wal.processBatch, Wal.batchLoop, ok, same, appended, quietly, BatchRun.finish,
        Wal.writeOutWindow, busy, done, advance_dev, synced, both]
    · simpa using grows_trans _ _ _ _ _ opened.grown (grows_trans _ _ _ _ _ grows step.grown)
    · exact traced_trans _ _ _ _ appendStep
        (traced_mono _ _ _ _ (fun m torn => torn_earlier g bufBlocks v _ next m opened.grown.synced torn) step.traced)
    · rw [dev]
      exact laid_append g _ [e] base _ _ opened.quiet.inv.visibleAll (opened.laid base laid)
  · rw [reopened_again] at closed
    obtain ⟨_, length⟩ := reopened_closed g bufBlocks v w quiet.inv closed
    refine ⟨Err.kWalFull, _, w.reopened, [], ?_, opened, .inr ⟨rfl, rfl, length⟩⟩
    simp [Wal.writeWal, long, buffered, sync, Wal.processBatch, Wal.batchLoop, full, quietly, same, BatchRun.finish,
      Err.kWalFull, Err.kSuccess]
  · omega
  · omega

theorem append_flush_quiet (g : Ring) (bufBlocks : Nat) (level : WalLevel) (v : WalView) (w : Wal) (e : WalEntry)
    (quiet : Quiet g bufBlocks level v w) (short : e.key.length ≤ kWalKeyMax) (space : w.nFrames < 32 * v.win)
    (batched : isWalSyncLevel level = false) :
    ∃ next after, w.appendFlush level e = (Err.kSuccess, after) ∧ QuietStep g bufBlocks level v w [e] next after := by
  obtain ⟨grown, appended, dev, frames, window, kept, healthy, grows⟩ := append_quiet g bufBlocks level v w e quiet short space
  have still : Quiet g bufBlocks level { v with entries := v.entries ++ [e] } grown :=
    ⟨kept, healthy, by rw [dev]; exact quiet.clean, quiet.settled, fun sync => by rw [batched] at sync; cases sync⟩
  have step : QuietStep g bufBlocks level v w [e] { v with entries := v.entries ++ [e] } grown :=
    ⟨still, grows, by rw [dev]; exact traced_refl _ _, fun base laid => by
      rw [dev]
      exact laid_append g v.entries [e] base _ _ quiet.inv.visibleAll laid⟩
  by_cases full : grown.nFrames * kWalFrameSize ≥ grown.windowBytes
  · obtain ⟨next, after, done, flushed, _⟩ := flush_quiet g bufBlocks level _ grown still
    exact ⟨next, after, by simp [Wal.appendFlush, appended, full, done], quiet_step_trans g bufBlocks level _ _ _ _ _ _ [e] [] step flushed⟩
  · exact ⟨_, grown, by simp [Wal.appendFlush, appended, full], step⟩

theorem write_batched_quiet (g : Ring) (bufBlocks : Nat) (level : WalLevel) (v : WalView) (w : Wal) (e : WalEntry)
    (quiet : Quiet g bufBlocks level v w) (short : e.key.length ≤ kWalKeyMax) (batched : isWalSyncLevel level = false) :
    ∃ rc next after more, w.writeWal level e = (rc, after) ∧ QuietStep g bufBlocks level v w more next after ∧
      ((rc = Err.kSuccess ∧ more = [e]) ∨
        (rc = Err.kWalFull ∧ more = [] ∧ v.entries.length = 32 * (v.head + g.blocks - 1))) := by
  have buffered : w.curBuf ≠ none := by simp [quiet.inv.buffer]
  have unfolded := write_wal_batched w level e short buffered batched
  obtain ⟨opened, frames⟩ := reopened_quiet g bufBlocks level v w quiet
  have window := opened.quiet.inv.window
  by_cases closed : (v.reopened g bufBlocks).win = 0
  · rw [if_pos (by omega)] at unfolded
    obtain ⟨_, length⟩ := reopened_closed g bufBlocks v w quiet.inv closed
    exact ⟨Err.kWalFull, _, w.reopened, [], unfolded, opened, .inr ⟨rfl, rfl, length⟩⟩
  · rw [if_neg (by omega)] at unfolded
    by_cases full : w.reopened.nFrames * kWalFrameSize ≥ w.reopened.windowBytes
    · rw [if_pos full] at unfolded
      obtain ⟨mid, out, done, flushed, all, few, fresh⟩ := flush_quiet g bufBlocks level _ w.reopened opened.quiet
      have both := quiet_step_trans g bufBlocks level _ _ _ _ _ _ [] [] opened flushed
      have after := flushed.quiet.inv.window
      simp only [done, ne_eq, not_true_eq_false, if_false] at unfolded
      by_cases shut : mid.win = 0
      · rw [if_pos (by omega)] at unfolded
        -- A window that a flush leaves closed is one WindowAt finds empty.
        have empty : (mid.reopened g bufBlocks).win = 0 := by
          rcases fresh with rfl | fresh
          · exact absurd shut closed
          · simp only [WalView.reopened, shut, if_true]
            omega
        obtain ⟨_, length⟩ := reopened_closed g bufBlocks mid out flushed.quiet.inv empty
        simp only [both.grown.entries, both.grown.head, List.append_nil] at length
        exact ⟨Err.kWalFull, mid, out, [], unfolded, both, .inr ⟨rfl, rfl, length⟩⟩
      · rw [if_neg (by omega)] at unfolded
        obtain ⟨next, last, finished, step⟩ := append_flush_quiet g bufBlocks level mid out e flushed.quiet short (by omega) batched
        exact ⟨Err.kSuccess, next, last, [e], unfolded.trans finished,
          quiet_step_trans g bufBlocks level _ _ _ _ _ _ [] [e] both step, .inl ⟨rfl, rfl⟩⟩
    · rw [if_neg full] at unfolded
      unfold kWalFrameSize at full
      simp only [ne_eq, not_true_eq_false, if_false] at unfolded
      rw [if_neg (by omega)] at unfolded
      obtain ⟨next, last, finished, step⟩ := append_flush_quiet g bufBlocks level _ w.reopened e opened.quiet short (by omega) batched
      exact ⟨Err.kSuccess, next, last, [e], unfolded.trans finished,
        quiet_step_trans g bufBlocks level _ _ _ _ _ _ [] [e] opened step, .inl ⟨rfl, rfl⟩⟩

theorem write_quiet (g : Ring) (bufBlocks : Nat) (level : WalLevel) (v : WalView) (w : Wal) (e : WalEntry)
    (quiet : Quiet g bufBlocks level v w) (short : e.key.length ≤ kWalKeyMax) :
    ∃ rc next after more, w.writeWal level e = (rc, after) ∧ QuietStep g bufBlocks level v w more next after ∧
      ((rc = Err.kSuccess ∧ more = [e]) ∨
        (rc = Err.kWalFull ∧ more = [] ∧ v.entries.length = 32 * (v.head + g.blocks - 1))) := by
  cases sync : isWalSyncLevel level with
  | true => exact write_at_sync_quiet g bufBlocks level v w e quiet short sync
  | false => exact write_batched_quiet g bufBlocks level v w e quiet short sync

-- While its window has room, a batched write stays in the buffer.
theorem write_buffered (g : Ring) (bufBlocks : Nat) (level : WalLevel) (v : WalView) (w : Wal) (e : WalEntry)
    (quiet : Quiet g bufBlocks level v w) (short : e.key.length ≤ kWalKeyMax) (batched : isWalSyncLevel level = false)
    (room : w.nFrames + 1 < 32 * (v.reopened g bufBlocks).win) :
    ∃ after, w.writeWal level e = (Err.kSuccess, after) ∧ after.dev = w.dev ∧ after.nFrames = w.nFrames + 1 ∧
      Quiet g bufBlocks level { v.reopened g bufBlocks with entries := v.entries ++ [e] } after := by
  have buffered : w.curBuf ≠ none := by simp [quiet.inv.buffer]
  have unfolded := write_wal_batched w level e short buffered batched
  obtain ⟨opened, frames⟩ := reopened_quiet g bufBlocks level v w quiet
  obtain ⟨_, dev, _⟩ := reopened_step g bufBlocks v w quiet.inv
  have window := opened.quiet.inv.window
  have same : (v.reopened g bufBlocks).entries = v.entries := by
    unfold WalView.reopened
    split <;> rfl
  obtain ⟨grown, appended, dev', more, wide, kept, healthy, _⟩ :=
    append_quiet g bufBlocks level _ w.reopened e opened.quiet short (by omega)
  rw [same] at kept
  have open_ : ¬ w.reopened.windowBytes = 0 := by omega
  have before : ¬ w.reopened.nFrames * kWalFrameSize ≥ w.reopened.windowBytes := by
    unfold kWalFrameSize
    omega
  have later : ¬ grown.nFrames * kWalFrameSize ≥ grown.windowBytes := by
    unfold kWalFrameSize
    omega
  refine ⟨grown, ?_, by rw [dev', dev], by omega, kept, healthy, by rw [dev']; exact opened.quiet.clean, opened.quiet.settled,
    fun sync => by rw [batched] at sync; cases sync⟩
  rw [unfolded, if_neg open_, if_neg before]
  simp [open_, Wal.appendFlush, appended, later]

-- The media that a flush with something to write passes through.
theorem flush_media (g : Ring) (bufBlocks : Nat) (level : WalLevel) (v : WalView) (w : Wal) (quiet : Quiet g bufBlocks level v w)
    (batched : isWalSyncLevel level = false) (busy : w.nFrames ≠ 0) :
    (w.flush level).2.dev.trace =
      w.dev.trace ++ [w.dev.medium.put (spanImage g v w), (w.dev.medium.put (spanImage g v w)).flush] ∧
      (w.flush level).2.dev.medium.cur = spanImage g v w := by
  have buffered : w.curBuf ≠ none := by simp [quiet.inv.buffer]
  have outcome := healthy_outcome w.dev quiet.healthy
  rcases write_span_cases g bufBlocks v w quiet.inv with ⟨_, done, kept⟩ | ⟨mask, failed, _⟩
  · have healthy := healthy_record w.dev (w.dev.medium.put (spanImage g v w)) quiet.healthy
    rcases wal_sync_cases g bufBlocks _ _ kept rfl with ⟨_, synced, _⟩ | ⟨mask, failed, _⟩
    · have flushed : (w.flush level).2.dev =
          (w.dev.record (w.dev.medium.put (spanImage g v w))).record (w.dev.medium.put (spanImage g v w)).flush := by
        simp [Wal.flush, buffered, batched, busy, done, synced, advance_dev]
      rw [flushed]
      simp
    · rw [healthy_outcome _ healthy] at failed
      cases failed
  · rw [outcome] at failed
    cases failed

end Cabe
