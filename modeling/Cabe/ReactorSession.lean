import Cabe.IndexReplay
import Cabe.WalGenerations

set_option autoImplicit false

namespace Cabe

open Storage Concurrency

-- The pair a snapshot in progress was captured with is the session's last one.
def LogStage.Fits (s : Session) : LogStage → Prop
  | .flushed covered boundary => s.captured[s.captured.length - 1]? = some (covered, boundary) ∧ covered = s.entries.length
  | .saved covered boundary => s.captured[s.captured.length - 1]? = some (covered, boundary) ∧ s.covered = covered
  | _ => True

-- The session that the log of a thread is in.
structure Tracks (g : Ring) (bufBlocks : Nat) (v : WalView) (s : Session) (at_ : Logging) : Prop where
  wal : at_.reactor.dc.wal = s.wal
  level : at_.reactor.options.walLevel = s.level
  inv : SessionInv g bufBlocks v s
  stage : at_.stage.Fits s

-- What a call of the thread is to its session. A snapshot that was taken covers
-- the last pair.
def Session.follow (s : Session) : LogMove → List LogEvent → Session
  | .write e, _ => (s.writeEntry e).2
  | .level level, _ => (s.changeLevel level).2
  | .flush, _ => s.flushAll.2
  | .save _, [] => s
  | .save _, _ :: _ => (s.coverPair (s.captured.length - 1)).2
  | .reclaim, _ => (s.reclaimPair (s.captured.length - 1)).2
  | .store _, _ => s
  | .note, _ => s
  | .commit, _ => s

theorem session_step_refl (g : Ring) (bufBlocks : Nat) (v : WalView) (s : Session) (inv : SessionInv g bufBlocks v s) :
    SessionStep g bufBlocks v s v s := session_still g bufBlocks v s s.level inv inv.quiet

theorem tracks_still (g : Ring) (bufBlocks : Nat) (v : WalView) (s : Session) (at_ after : Logging) (tracks : Tracks g bufBlocks v s at_)
    (wal : after.reactor.dc.wal = at_.reactor.dc.wal) (level : after.reactor.options.walLevel = at_.reactor.options.walLevel)
    (stage : after.stage.Fits s) : ∃ next, SessionStep g bufBlocks v s next s ∧ Tracks g bufBlocks next s after :=
  ⟨v, session_step_refl g bufBlocks v s tracks.inv, wal.trans tracks.wal, level.trans tracks.level, tracks.inv, stage⟩

theorem commit_log (r : Reactor) (e : WalEntry) : (r.commit e).dc.wal = r.dc.wal ∧ (r.commit e).dc.snapshot = r.dc.snapshot ∧
    (r.commit e).options = r.options := by
  unfold Reactor.commit
  split <;> exact ⟨rfl, rfl, rfl⟩

theorem set_level_session (r : Reactor) (s : Session) (level : WalLevel) (wal : r.dc.wal = s.wal) (same : r.options.walLevel = s.level) :
    (r.executeSetWalLevel level).2.dc.wal = (s.changeLevel level).2.wal ∧
      (r.executeSetWalLevel level).2.options.walLevel = (s.changeLevel level).2.level := by
  unfold Reactor.executeSetWalLevel Session.changeLevel
  simp only [wal, same]
  split
  · generalize s.wal.flush s.level = out
    by_cases done : out.1 = Err.kSuccess
    · simp only [done, ne_eq, not_true_eq_false, if_false, if_true]
      exact ⟨rfl, trivial⟩
    · simp only [done, ne_eq, not_false_eq_true, if_true, if_false]
      exact ⟨rfl, same⟩
  · exact ⟨wal, rfl⟩

-- A flush that succeeds captures a pair.
theorem flush_all_captures (s : Session) (done : (s.wal.flush s.level).1 = Err.kSuccess) :
    s.flushAll.2 = { s with
      wal := (s.wal.flush s.level).2
      acked := (s.wal.flush s.level).2.lastSeq
      captured := s.captured ++ [((s.wal.flush s.level).2.lastSeq, (s.wal.flush s.level).2.reclaimBoundary)] } := by
  unfold Session.flushAll
  simp only [done, if_true]

theorem last_captured (captured : List (Nat × Nat)) (pair : Nat × Nat) :
    (captured ++ [pair])[(captured ++ [pair]).length - 1]? = some pair := by
  rw [List.length_append, List.length_singleton, Nat.add_sub_cancel, List.getElem?_concat_length]

theorem flush_fits (g : Ring) (bufBlocks : Nat) (v : WalView) (s : Session) (inv : SessionInv g bufBlocks v s) :
    (s.wal.flush s.level).1 = Err.kSuccess ∧ LogStage.Fits s.flushAll.2
      (.flushed (s.wal.flush s.level).2.lastSeq (s.wal.flush s.level).2.reclaimBoundary) := by
  obtain ⟨next, after, done, step, _⟩ := flush_session g bufBlocks v s inv
  have fine : (s.wal.flush s.level).1 = Err.kSuccess := by rw [done]
  have last := last_seq_length g bufBlocks next after step.quiet.inv
  have entries : next.entries = s.entries := by rw [step.grown.entries, List.append_nil, inv.entries]
  refine ⟨fine, ?_⟩
  rw [flush_all_captures s fine]
  refine ⟨last_captured _ _, ?_⟩
  rw [done, last, entries]

theorem cover_fits (g : Ring) (bufBlocks : Nat) (v : WalView) (s : Session) (covered boundary : Nat) (inv : SessionInv g bufBlocks v s)
    (fits : LogStage.Fits s (.flushed covered boundary)) :
    (s.coverPair (s.captured.length - 1)).2 = { s with covered := covered } := by
  obtain ⟨found, all⟩ := fits
  have inside := inv.covered
  have bound := wal_synced_bound g bufBlocks v s.wal inv.quiet.inv
  rw [inv.entries] at bound
  unfold Session.coverPair
  simp only [found]
  rw [if_pos (by omega)]

theorem reclaim_fits (g : Ring) (bufBlocks : Nat) (v : WalView) (s : Session) (covered boundary : Nat) (inv : SessionInv g bufBlocks v s)
    (fits : LogStage.Fits s (.saved covered boundary)) :
    (s.reclaimPair (s.captured.length - 1)).2 =
      { s with wal := (s.wal.reclaimUpTo boundary).2, covered := max s.covered covered, reclaimed := covered } := by
  obtain ⟨found, same⟩ := fits
  have late := inv.reclaimed
  unfold Session.reclaimPair
  simp only [found]
  rw [if_pos (by omega)]

-- Every call of the thread is one of the session's operations or leaves it alone.
theorem tracks_step (sb : SuperBlock) (g : Ring) (bufBlocks : Nat) (v : WalView) (s : Session) (at_ after : Logging) (move : LogMove)
    (events : List LogEvent) (tracks : Tracks g bufBlocks v s at_) (step : Logging.Step sb at_.reactor at_.stage move events after) :
    ∃ next, SessionStep g bufBlocks v s next (s.follow move events) ∧ Tracks g bufBlocks next (s.follow move events) after := by
  obtain ⟨stage, r⟩ := at_
  have inv := tracks.inv
  have wal := tracks.wal
  have level := tracks.level
  have fits := tracks.stage
  simp only at wal level step fits
  cases step with
  | store _ next same =>
      exact tracks_still g bufBlocks v s _ _ tracks same.wal (congrArg Options.walLevel same.options) fits
  | note => exact tracks_still g bufBlocks v s _ _ tracks rfl rfl trivial
  | write e acceptable =>
      obtain ⟨next, step⟩ := write_session g bufBlocks v s e inv
      refine ⟨next, step, ?_, level, step.inv, ?_⟩
      · show (r.dc.wal.writeWal r.options.walLevel e).2 = (s.writeEntry e).2.wal
        rw [wal, level]
        rfl
      · show LogStage.Fits _ (if _ then _ else _)
        split <;> trivial
  | commit e =>
      obtain ⟨same, _, options⟩ := commit_log r e
      exact tracks_still g bufBlocks v s _ _ tracks same (congrArg Options.walLevel options) trivial
  | level target =>
      obtain ⟨next, step⟩ := change_level_session g bufBlocks v s target inv
      obtain ⟨sameWal, sameLevel⟩ := set_level_session r s target wal level
      exact ⟨next, step, sameWal, sameLevel, step.inv, trivial⟩
  | flush =>
      obtain ⟨next, step⟩ := flush_all_session g bufBlocks v s inv
      obtain ⟨fine, captured⟩ := flush_fits g bufBlocks v s inv
      have after := flush_all_captures s fine
      refine ⟨next, step, ?_, ?_, step.inv, ?_⟩
      · show (r.dc.wal.flush r.options.walLevel).2 = s.flushAll.2.wal
        rw [wal, level, after]
      · show r.options.walLevel = s.flushAll.2.level
        rw [level, after]
      · show LogStage.Fits s.flushAll.2 (if _ then _ else _)
        rw [wal, level, if_pos fine]
        exact captured
  | saved covered boundary env taken done =>
      have step := cover_session g bufBlocks v s (s.captured.length - 1) inv
      have covers := cover_fits g bufBlocks v s covered boundary inv fits
      refine ⟨v, step, ?_, ?_, step.inv, ?_⟩
      · show r.dc.wal = (s.coverPair (s.captured.length - 1)).2.wal
        rw [covers]
        exact wal
      · show r.options.walLevel = (s.coverPair (s.captured.length - 1)).2.level
        rw [covers]
        exact level
      · show LogStage.Fits (s.coverPair (s.captured.length - 1)).2 (.saved covered boundary)
        rw [covers]
        exact ⟨fits.1, rfl⟩
  | unsaved covered boundary env rc left failed done => exact tracks_still g bufBlocks v s _ _ tracks rfl rfl trivial
  | reclaim covered boundary =>
      obtain ⟨next, step⟩ := reclaim_session g bufBlocks v s (s.captured.length - 1) inv
      have gives := reclaim_fits g bufBlocks v s covered boundary inv fits
      refine ⟨next, step, ?_, ?_, step.inv, trivial⟩
      · show (r.dc.wal.reclaimUpTo boundary).2 = (s.reclaimPair (s.captured.length - 1)).2.wal
        rw [wal, gives]
      · show r.options.walLevel = (s.reclaimPair (s.captured.length - 1)).2.level
        rw [gives]
        exact level

end Cabe
