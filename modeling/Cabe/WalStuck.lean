import Cabe.WalSession

set_option autoImplicit false

namespace Cabe

open Storage

-- A configured buffer size next to 2^64 wraps to zero. Open accepts it, and the
-- log then takes no frame and writes nothing.
structure StuckWal (w : Wal) : Prop where
  bufSize : w.bufSize = 0
  buffer : w.curBuf = some []
  start : w.ringStart = 8192
  curOff : w.curOff = 8192
  headOff : w.headOff = 8192
  nFrames : w.nFrames = 0
  seqNext : w.seqNext = 1
  window : w.windowBytes = 0

theorem stuck_window (w : Wal) (stuck : StuckWal w) (pos : Nat) : w.windowAt pos = 0 := by
  unfold Wal.windowAt
  rw [stuck.bufSize]
  exact Nat.zero_min _

theorem stuck_reopened (w : Wal) (stuck : StuckWal w) : { w with windowBytes := w.windowAt w.curOff } = w := by
  have same := stuck_window w stuck w.curOff
  rw [same, ← stuck.window]

theorem stuck_open (dev : RawDevice) (opts : Options) (w : Wal) (opened : JustOpened dev opts w) (create : opts.create = true)
    (empty : w.bufSize = 0) : StuckWal w := by
  have buffer := opened.buffer
  rw [if_pos create] at buffer
  obtain ⟨buffer, window⟩ := buffer
  obtain ⟨curOff, headOff, nFrames, seqNext⟩ := opened.position
  refine ⟨empty, by rw [buffer, empty]; rfl, opened.ringStart, curOff, headOff, nFrames, seqNext, ?_⟩
  rw [window]
  unfold Wal.windowAt
  rw [empty]
  exact Nat.zero_min _

theorem stuck_admission (w : Wal) (stuck : StuckWal w) : w.admission = ⟨Err.kWalFull, false, w⟩ := by
  unfold Wal.admission
  simp only [stuck.window, if_true, stuck_reopened w stuck]

theorem stuck_group (w : Wal) (stuck : StuckWal w) (batch : List WalEntry) :
    w.processBatch batch = (List.replicate batch.length Err.kWalFull, w) := by
  cases batch with
  | nil => simp [Wal.processBatch, Wal.batchLoop, BatchRun.finish]
  | cons e rest => simp [Wal.processBatch, Wal.batchLoop, stuck_admission w stuck, BatchRun.finish, Err.kWalFull, Err.kSuccess]

theorem stuck_full (w : Wal) (stuck : StuckWal w) (level : WalLevel) (e : WalEntry) (short : e.key.length ≤ kWalKeyMax) :
    w.writeWal level e = (Err.kWalFull, w) := by
  have buffered : w.curBuf ≠ none := by simp [stuck.buffer]
  have long : ¬ e.key.length > kWalKeyMax := by omega
  unfold Wal.writeWal
  rw [if_neg long, if_neg buffered]
  cases sync : isWalSyncLevel level with
  | true => simp [stuck_group w stuck]
  | false => simp [stuck.window, stuck_reopened w stuck]

theorem stuck_write (w : Wal) (stuck : StuckWal w) (level : WalLevel) (e : WalEntry) :
    (w.writeWal level e).1 ≠ Err.kSuccess ∧ (w.writeWal level e).2 = w := by
  by_cases long : e.key.length > kWalKeyMax
  · unfold Wal.writeWal
    simp [long, Err.kWalKeyTooLong, Err.kSuccess]
  · rw [stuck_full w stuck level e (Nat.le_of_not_lt long)]
    exact ⟨show Err.kWalFull ≠ Err.kSuccess by decide, rfl⟩

theorem stuck_flush (w : Wal) (stuck : StuckWal w) (level : WalLevel) : w.flush level = (Err.kSuccess, w) := by
  have buffered : w.curBuf ≠ none := by simp [stuck.buffer]
  cases sync : isWalSyncLevel level <;> simp [Wal.flush, buffered, sync, stuck.nFrames]

theorem stuck_reclaim (w : Wal) (stuck : StuckWal w) : (w.reclaimUpTo 8192).2 = w := by
  unfold Wal.reclaimUpTo
  dsimp only
  split
  · have same := stuck.headOff
    rw [← same]
  · rfl

-- Nothing a session does changes such a log.
structure StuckSession (w : Wal) (s : Session) : Prop where
  wal : s.wal = w
  entries : s.entries = []
  acked : s.acked = 0
  covered : s.covered = 0
  reclaimed : s.reclaimed = 0
  captured : ∀ pair ∈ s.captured, pair = (0, 8192)

theorem stuck_start (w : Wal) (level : WalLevel) : StuckSession w (.start w level) :=
  ⟨rfl, rfl, rfl, rfl, rfl, fun pair member => by cases member⟩

theorem stuck_step (w : Wal) (stuck : StuckWal w) (s : Session) (op : SessionOp) (still : StuckSession w s) :
    StuckSession w (s.step op).2 := by
  obtain ⟨wal, entries, acked, covered, reclaimed, captured⟩ := still
  subst wal
  have last : s.wal.lastSeq = 0 := by rw [Wal.lastSeq, stuck.seqNext]
  have flushed := stuck_flush s.wal stuck s.level
  cases op with
  | write e =>
      obtain ⟨failed, same⟩ := stuck_write s.wal stuck s.level e
      have result : s.wal.writeWal s.level e = ((s.wal.writeWal s.level e).1, s.wal) := Prod.ext rfl same
      show StuckSession s.wal (s.writeEntry e).2
      unfold Session.writeEntry
      rw [result]
      exact ⟨rfl, by simp [entries], by simp [failed, acked], covered, reclaimed, captured⟩
  | flush =>
      show StuckSession s.wal s.flushAll.2
      unfold Session.flushAll
      rw [flushed]
      refine ⟨rfl, entries, by simp [last], covered, reclaimed, fun pair member => ?_⟩
      rcases List.mem_append.mp member with old | new
      · exact captured pair old
      · rw [List.mem_singleton.mp new, last]
        exact congrArg (Prod.mk 0) stuck.curOff
  | setLevel level =>
      show StuckSession s.wal (s.changeLevel level).2
      unfold Session.changeLevel
      rw [flushed]
      split
      · exact ⟨rfl, entries, by simp [last], covered, reclaimed, captured⟩
      · exact ⟨rfl, entries, acked, covered, reclaimed, captured⟩
  | cover pair =>
      show StuckSession s.wal (s.coverPair pair).2
      unfold Session.coverPair
      cases found : s.captured[pair]? with
      | none => exact ⟨rfl, entries, acked, covered, reclaimed, captured⟩
      | some p =>
          have zero := captured p (List.mem_of_getElem? found)
          subst zero
          dsimp only
          split
          · exact ⟨rfl, entries, acked, rfl, reclaimed, captured⟩
          · exact ⟨rfl, entries, acked, covered, reclaimed, captured⟩
  | reclaim pair =>
      show StuckSession s.wal (s.reclaimPair pair).2
      unfold Session.reclaimPair
      cases found : s.captured[pair]? with
      | none => exact ⟨rfl, entries, acked, covered, reclaimed, captured⟩
      | some p =>
          have zero := captured p (List.mem_of_getElem? found)
          subst zero
          dsimp only
          split
          · exact ⟨stuck_reclaim s.wal stuck, entries, acked, by simp [covered], rfl, captured⟩
          · exact ⟨rfl, entries, acked, covered, reclaimed, captured⟩

theorem stuck_run (w : Wal) (stuck : StuckWal w) (ops : List SessionOp) :
    ∀ s, StuckSession w s → StuckSession w (s.run ops) := by
  induction ops with
  | nil => exact fun _ still => still
  | cons op ops ih => exact fun s still => ih _ (stuck_step w stuck s op still)

theorem stuck_ends (w : Wal) (stuck : StuckWal w) (s : Session) (still : StuckSession w s) (entries : List WalEntry) (m : Medium)
    (acked : Nat) (ends : s.Ends entries m acked) : entries = [] ∧ m = w.dev.medium ∧ acked = 0 := by
  have same := still.wal
  have close : (s.wal.close s.level).2.dev = w.dev.close.2 := by
    rw [same]
    have buffered : w.curBuf ≠ none := by simp [stuck.buffer]
    simp [Wal.close, buffered, stuck_flush w stuck]
  cases ends with
  | atRest => exact ⟨still.entries, by rw [same], still.acked⟩
  | inside op m during =>
      rw [(stuck_step w stuck s op still).wal, same, List.drop_length] at during
      cases during
  | closing m during =>
      rw [close, same] at during
      simp [RawDevice.close] at during
  | closed _ => exact ⟨still.entries, by rw [close]; rfl, by rw [same, Wal.lastSeq, stuck.seqNext]⟩

-- Recovery with such a buffer never finishes its first pass.
theorem stuck_survey {σ : Type} (dev : RawDevice) (opts : Options) (w : Wal) (opened : JustOpened dev opts w) (empty : w.bufSize = 0)
    (covered : Nat) (fn : WalReplayFn σ) (st : σ) :
    ({ w with curBuf := some (zeros w.bufSize) } : Wal).survey covered fn st = .error Err.kNeverReturns := by
  have enough := opened.enough
  rw [empty, kWalBlockSize] at enough
  have ring : 4096 ≤ walRingSize dev.sizeBytes := enough
  have room : w.ringStart < w.ringEnd := by
    rw [opened.ringStart, opened.ringEnd]
    omega
  have inside : w.ringStart ≤ w.dev.sizeBytes := by
    rw [opened.ringStart, opened.device]
    show 8192 ≤ dev.sizeBytes
    unfold walRingSize kDataRegionOffset at ring
    split at ring <;> omega
  have nothing : w.dev.readAt w.ringStart 0 = some (read w.dev.medium.cur w.ringStart 0) := by
    unfold RawDevice.readAt
    exact if_pos ⟨by rw [opened.device], inside, rfl⟩
  unfold Wal.survey Wal.censusScan
  rw [Wal.censusFrom]
  simp only [room, if_true, empty, Nat.zero_min, nothing, Nat.lt_irrefl, if_false]

theorem stuck_recover_endless {σ : Type} (dev : RawDevice) (opts : Options) (w : Wal) (opened : JustOpened dev opts w)
    (empty : w.bufSize = 0) (recovering : opts.create = false) (covered : Nat) (fn : WalReplayFn σ) (st : σ) :
    (w.recover covered fn st).rc = Err.kNeverReturns := by
  have buffer := opened.buffer
  rw [if_neg (by simp [recovering])] at buffer
  rw [recover_unfolds w covered fn st (by rw [opened.device]) buffer, stuck_survey dev opts w opened empty covered fn st]

theorem stuck_recover {σ : Type} (dev : RawDevice) (opts : Options) (w : Wal) (opened : JustOpened dev opts w) (empty : w.bufSize = 0)
    (covered : Nat) (fn : WalReplayFn σ) (st : σ) : (w.recover covered fn st).rc ≠ Err.kSuccess := by
  cases create : opts.create with
  | false =>
      rw [stuck_recover_endless dev opts w opened empty create covered fn st]
      exact show Err.kNeverReturns ≠ Err.kSuccess by decide
  | true =>
      have buffer := opened.buffer
      rw [if_pos create] at buffer
      unfold Wal.recover
      rw [if_neg (by simp [opened.device]), if_pos (by simp [buffer.1])]
      exact show Err.kEngineInvalidOpts ≠ Err.kSuccess by decide

end Cabe
