import Cabe.WalBatch

set_option autoImplicit false

namespace Cabe

open Storage

-- What a recovery leaves of the geometry that Open has set.
structure Wal.SameGround (w after : Wal) : Prop where
  bufSize : after.bufSize = w.bufSize
  ringStart : after.ringStart = w.ringStart
  ringEnd : after.ringEnd = w.ringEnd

theorem same_ground_trans (a b c : Wal) (first : a.SameGround b) (second : b.SameGround c) : a.SameGround c :=
  ⟨second.bufSize.trans first.bufSize, second.ringStart.trans first.ringStart, second.ringEnd.trans first.ringEnd⟩

theorem refill_ground (w : Wal) (fragments : Nat) : w.SameGround (w.refill fragments).2 := by
  unfold Wal.refill
  split
  · split
    · exact ⟨rfl, rfl, rfl⟩
    · dsimp only
      split <;> exact ⟨rfl, rfl, rfl⟩
  · exact ⟨rfl, rfl, rfl⟩

theorem seal_ground (w : Wal) (fragments : Nat) : w.SameGround (w.seal fragments).2 := by
  unfold Wal.seal
  split <;> exact ⟨rfl, rfl, rfl⟩

theorem rebuild_ground {σ : Type} (w : Wal) (covered : Nat) (c : RecoverCensus) (s : Scan σ) : w.SameGround (w.rebuild covered c s).2 := by
  unfold Wal.rebuild
  simp only
  generalize placed_ : w.placeTail c (if s.hasAnchor = true then s.anchorOff else c.maxValidOff)
    (if s.hasAnchor = true then s.anchorSeq else c.maxValidSeq) = placed
  have here : w.SameGround placed := by
    rw [← placed_]
    exact ⟨rfl, rfl, rfl⟩
  have erased := (erase_zone_place placed s.fragments s.stopOff).1
  cases out : placed.eraseZone s.fragments s.stopOff with
  | mk rc w1 =>
  rw [out] at erased
  have first := same_ground_trans w placed w1 here ⟨erased.bufSize, erased.ringStart, erased.ringEnd⟩
  simp only
  split
  · exact first
  have filled := refill_ground w1 s.fragments
  cases out : w1.refill s.fragments with
  | mk rc w2 =>
  rw [out] at filled
  have second := same_ground_trans w w1 w2 first filled
  simp only
  split
  · exact second
  have sealed_ := seal_ground w2 s.fragments
  cases out : w2.seal s.fragments with
  | mk rc w3 =>
  rw [out] at sealed_
  have third := same_ground_trans w w2 w3 second sealed_
  simp only
  split
  · exact third
  · split <;> exact ⟨third.bufSize, third.ringStart, third.ringEnd⟩

theorem recover_ground {σ : Type} (w : Wal) (covered : Nat) (fn : WalReplayFn σ) (st : σ) : w.SameGround (w.recover covered fn st).wal := by
  unfold Wal.recover
  split
  · exact ⟨rfl, rfl, rfl⟩
  · split
    · exact ⟨rfl, rfl, rfl⟩
    · dsimp only
      generalize armed_ : ({ w with curBuf := some (zeros w.bufSize) } : Wal) = armed
      have here : w.SameGround armed := by
        rw [← armed_]
        exact ⟨rfl, rfl, rfl⟩
      cases armed.survey covered fn st with
      | error rc => exact here
      | ok found =>
          obtain ⟨c, s⟩ := found
          simp only
          split
          · exact same_ground_trans w armed _ here ⟨rfl, rfl, rfl⟩
          · exact same_ground_trans w armed _ here (rebuild_ground armed covered c s)

theorem lined_recovered {σ : Type} (dev : RawDevice) (opts : Options) (w : Wal) (covered : Nat) (fn : WalReplayFn σ) (st : σ)
    (refuses : ∀ st e seq rc, fn st e seq = .error rc → rc < 0) (opened : JustOpened dev opts w) (allocated : Allocated w)
    (done : (w.recover covered fn st).rc = Err.kSuccess) : Lined (w.recover covered fn st).wal := by
  obtain ⟨whole, start, room⟩ := open_geometry dev opts w opened allocated
  have pos : 0 < w.bufSize := by
    by_contra empty
    exact stuck_recover dev opts w opened (by omega) covered fn st done
  obtain ⟨rc, same, _⟩ := recover_seen Prod.fst (recording fn) fn (recording_commutes fn) w covered (st, [])
  have legal := recover_legal w covered fn st refuses (by rw [kWalBlockSize]; exact whole.2.1) (by omega) (by rw [kWalBlockSize]; omega)
    (rc.trans done)
  have ground := recover_ground w covered fn st
  rw [same] at legal
  generalize (w.recover covered fn st).wal = after at legal ground
  have whole' : after.bufSize % 4096 = 0 ∧ after.ringStart % 4096 = 0 ∧ after.ringEnd % 4096 = 0 := by
    rw [ground.bufSize, ground.ringStart, ground.ringEnd]
    exact whole
  have window := window_at_whole after after.curOff whole' legal.aligned.2 ⟨legal.aligned.1, legal.headInside⟩
  have few := legal.few
  have size := ground.bufSize
  have fits : 128 * after.nFrames ≤ after.bufSize := by
    unfold kWalFramesPerBlock at few
    omega
  rw [← legal.window] at window
  refine ⟨⟨_, legal.tail, ?_⟩, whole', ⟨legal.aligned.2, legal.tailInside⟩, ⟨legal.aligned.1, legal.headInside⟩, window, fits, ?_⟩
  · rw [List.length_append, read_length, zeros_length, kWalFrameSize]
    omega
  · unfold kWalFramesPerBlock at few
    omega

-- Every log that callers can hold: created or recovered, from whatever its
-- device held and however it behaved, and after any operations on it.
inductive WalReached : Wal → Prop where
  | created (dev : RawDevice) (opts : Options) (w : Wal) (create : opts.create = true)
      (opened : (Wal.unopened dev).openWal opts = (Err.kSuccess, w)) (allocated : Allocated w) : WalReached w
  | recovered (σ : Type) (dev : RawDevice) (opts : Options) (w : Wal) (covered : Nat) (fn : WalReplayFn σ) (st : σ)
      (refuses : ∀ st e seq rc, fn st e seq = .error rc → rc < 0) (opened : (Wal.unopened dev).openWal opts = (Err.kSuccess, w))
      (allocated : Allocated w) (done : (w.recover covered fn st).rc = Err.kSuccess) : WalReached (w.recover covered fn st).wal
  | performed (w : Wal) (op : WalOp) (reached : WalReached w) : WalReached (w.perform op)

theorem reached_lined (w : Wal) (reached : WalReached w) : Lined w := by
  induction reached with
  | created dev opts w create opened allocated => exact lined_created dev opts w create (open_wal_success dev opts w opened) allocated
  | recovered σ dev opts w covered fn st refuses opened allocated done =>
      exact lined_recovered dev opts w covered fn st refuses (open_wal_success dev opts w opened) allocated done
  | performed w op _ ih => exact lined_perform w op ih

-- What a batch answers, node by node, for the calls its device was given.
structure ResultMapping (w : Wal) (batch accepted rejected : List WalEntry) (writes : List (Nat × Bytes)) (ending : BatchEnd) : Prop where
  split : batch = accepted ++ rejected
  calls : ∃ mid, WroteOut w.dev writes mid ∧ ending.Leads mid (w.processBatch batch).2.dev
  success : ∀ i, (w.processBatch batch).1[i]? = some Err.kSuccess → (∀ j ≤ i, (w.processBatch batch).1[j]? = some Err.kSuccess) ∧
    ending = .synced ∧ ∃ e, batch[i]? = some e ∧
      Puts writes (w.ringEnd - w.ringStart) (w.curOff + 128 * (w.nFrames + i)) (encodeFrame e (w.seqNext + i)).toBytes
  full : ∀ i, (w.processBatch batch).1[i]? = some Err.kWalFull → accepted.length ≤ i ∧
    (∀ j, i ≤ j → j < batch.length → (w.processBatch batch).1[j]? = some Err.kWalFull) ∧
    (w.processBatch batch).2.seqNext = w.seqNext + accepted.length ∧ (w.processBatch batch).2.held <:+ w.stream accepted ∧
    ∀ k e, accepted[k]? = some e →
      Puts writes (w.ringEnd - w.ringStart) (w.curOff + 128 * (w.nFrames + k)) (encodeFrame e (w.seqNext + k)).toBytes
  failedWrite : ∀ offset buf, ending = .writeFailed offset buf → (w.processBatch batch).1 = List.replicate batch.length Err.kWalWriteFailed
  failedSync : ending = .syncFailed → (w.processBatch batch).1 =
    List.replicate accepted.length Err.kWalWriteFailed ++ List.replicate rejected.length Err.kWalFull
  fine : ending = .none ∨ ending = .synced → (w.processBatch batch).1 =
    List.replicate accepted.length Err.kSuccess ++ List.replicate rejected.length Err.kWalFull

theorem codes_at (a b : Nat) (x y rc : Rc) (i : Nat) (here : (List.replicate a x ++ List.replicate b y)[i]? = some rc) :
    (i < a ∧ rc = x) ∨ (a ≤ i ∧ i < a + b ∧ rc = y) := by
  rw [List.getElem?_append, List.length_replicate] at here
  split at here
  · rename_i front
    rw [List.getElem?_replicate, if_pos front] at here
    exact .inl ⟨front, (Option.some.inj here).symm⟩
  · rename_i back
    rw [List.getElem?_replicate] at here
    split at here
    · exact .inr ⟨by omega, by omega, (Option.some.inj here).symm⟩
    · cases here

theorem report_maps (w : Wal) (batch accepted rejected : List WalEntry) (writes : List (Nat × Bytes)) (ending : BatchEnd)
    (report : BatchReport w batch accepted rejected writes ending) : ResultMapping w batch accepted rejected writes ending := by
  have results := report.results
  have count : batch.length = accepted.length + rejected.length := by rw [report.split, List.length_append]
  have sc : Err.kSuccess ≠ Err.kWalFull := by decide
  have sf : Err.kSuccess ≠ Err.kWalWriteFailed := by decide
  have fc : Err.kWalFull ≠ Err.kWalWriteFailed := by decide
  refine ⟨report.split, report.calls, fun i here => ?_, fun i here => ?_, ?_, ?_, ?_⟩
  · rw [results] at here
    rcases codes_at _ _ _ _ _ i here with ⟨front, same⟩ | ⟨_, _, same⟩
    · have synced : ending = .synced := by
        cases ending with
        | none =>
            obtain ⟨rfl, _⟩ := report.idle rfl
            exact absurd front (Nat.not_lt_zero i)
        | synced => rfl
        | writeFailed => exact absurd same sf
        | syncFailed => exact absurd same sf
      subst synced
      have found : accepted[i]? = some accepted[i] := List.getElem?_eq_getElem front
      refine ⟨fun j before => ?_, rfl, accepted[i], ?_, report.written (fun _ _ no => nomatch no) i _ found⟩
      · rw [results, List.getElem?_append_left (by rw [List.length_replicate]; omega), List.getElem?_replicate, if_pos (by omega)]
        rfl
      · rw [report.split, List.getElem?_append_left front]
        exact found
    · cases ending <;> first | exact absurd same sc | exact absurd same sf
  · rw [results] at here
    have behind : accepted.length ≤ i ∧ ending.codes.2 = Err.kWalFull := by
      rcases codes_at _ _ _ _ _ i here with ⟨_, same⟩ | ⟨back, _, same⟩
      · cases ending <;> first | exact absurd same.symm sc | exact absurd same fc
      · exact ⟨back, same.symm⟩
    refine ⟨behind.1, fun j after bound => ?_, report.numbers, report.held, report.written fun offset buf same => ?_⟩
    · rw [results, List.getElem?_append_right (by rw [List.length_replicate]; omega), List.getElem?_replicate, behind.2,
        List.length_replicate, if_pos (by omega)]
    · subst same
      exact absurd behind.2.symm fc
  · rintro offset buf rfl
    rw [results, count, List.replicate_add]
    rfl
  · rintro rfl
    exact results
  · rintro (rfl | rfl)
    · exact results
    · exact results

-- What callers may do between two batches without touching the device.
def WalOp.Idle : WalOp → Prop
  | .flush level => isWalSyncLevel level = true
  | .reclaim _ => True
  | _ => False

-- The frames in the buffer, where they belong and that they may be written.
structure Wal.Waits (w after : Wal) : Prop where
  held : after.held = w.held
  nFrames : after.nFrames = w.nFrames
  curOff : after.curOff = w.curOff
  windowBytes : after.windowBytes = w.windowBytes

theorem idle_waits (w : Wal) (op : WalOp) (idle : op.Idle) : w.Waits (w.perform op) := by
  cases op with
  | write => exact idle.elim
  | group => exact idle.elim
  | flush level =>
      have sync : isWalSyncLevel level = true := idle
      show w.Waits (w.flush level).2
      unfold Wal.flush
      rw [if_pos sync]
      split <;> exact ⟨rfl, rfl, rfl, rfl⟩
  | reclaim boundary =>
      show w.Waits (w.reclaimUpTo boundary).2
      unfold Wal.reclaimUpTo
      dsimp only
      split <;> exact ⟨rfl, rfl, rfl, rfl⟩

theorem idle_run (ops : List WalOp) : ∀ w : Wal, Lined w → (∀ op ∈ ops, op.Idle) → w.Waits (w.performAll ops) ∧ Lined (w.performAll ops) := by
  induction ops with
  | nil => exact fun w lined _ => ⟨⟨rfl, rfl, rfl, rfl⟩, lined⟩
  | cons op ops ih =>
      intro w lined idle
      obtain ⟨held, frames, off, window⟩ := idle_waits w op (idle op List.mem_cons_self)
      obtain ⟨later, lined'⟩ := ih (w.perform op) (lined_perform w op lined) fun op' member => idle op' (List.mem_cons_of_mem _ member)
      exact ⟨⟨later.held.trans held, later.nFrames.trans frames, later.curOff.trans off, later.windowBytes.trans window⟩, lined'⟩

-- Frames that a failed write has left in the buffer are what the next batch
-- writes first, at the same offset and with the same bytes.
structure Rewritten (failed retry : Wal) (offset : Nat) (buf : Bytes) (writes : List (Nat × Bytes)) (ending : BatchEnd) : Prop where
  some_ : 0 < failed.nFrames
  kept : failed.held = buf.take (128 * failed.nFrames) ∧ retry.held = failed.held ∧ retry.nFrames = failed.nFrames
  again : ∃ bytes, firstWrite writes ending = some (offset, bytes) ∧
    bytes.take (128 * failed.nFrames) = buf.take (128 * failed.nFrames)

theorem prefix_take (a b : Bytes) (front : a <+: b) : b.take a.length = a := by
  obtain ⟨rest, rfl⟩ := front
  rw [List.take_append_of_le_length (Nat.le_refl _), List.take_length]

-- The result matrix of a batch, in every state that callers can bring a log to
-- and for every outcome of its device calls.
theorem batch_result_mapping (w : Wal) (reached : WalReached w) (batch : List WalEntry) :
    ∃ accepted rejected writes ending, ResultMapping w batch accepted rejected writes ending ∧
      ∀ offset buf, ending = .writeFailed offset buf → ∀ idle : List WalOp, (∀ op ∈ idle, op.Idle) → ∀ next : List WalEntry, next ≠ [] →
        ∃ accepted' rejected' writes' ending',
          ResultMapping ((w.processBatch batch).2.performAll idle) next accepted' rejected' writes' ending' ∧
          Rewritten (w.processBatch batch).2 ((w.processBatch batch).2.performAll idle) offset buf writes' ending' := by
  obtain ⟨accepted, rejected, writes, ending, report⟩ := batch_reports w batch (reached_lined w reached)
  refine ⟨accepted, rejected, writes, ending, report_maps w batch accepted rejected writes ending report, ?_⟩
  intro offset buf failed idle calm next some_
  obtain ⟨off, front, busy, open_⟩ := report.retained offset buf failed
  have lined := report.lined
  generalize (w.processBatch batch).2 = after at off front busy open_ lined
  have length := held_length after lined
  have kept : after.held = buf.take (128 * after.nFrames) := by rw [← length, prefix_take _ _ front]
  obtain ⟨waits, lined'⟩ := idle_run idle after lined calm
  obtain ⟨accepted', rejected', writes', ending', again⟩ := batch_reports (after.performAll idle) next lined'
  obtain ⟨first, begins⟩ := again.starts (by rw [waits.windowBytes]; exact open_) some_
  obtain ⟨place, ahead⟩ := again.opening first begins
  rw [waits.curOff, off] at place
  rw [waits.held] at ahead
  refine ⟨accepted', rejected', writes', ending', report_maps _ next accepted' rejected' writes' ending' again, busy,
    ⟨kept, waits.held, waits.nFrames⟩, first.2, by rw [begins, ← place], ?_⟩
  rw [← length, prefix_take _ _ ahead, prefix_take _ _ front]

-- A batch of two entries on a device whose first write fails.
theorem batch_result_mapping_failing : ∃ w, (Wal.unopened failingDevice).openWal (plainOptions true 1) = (Err.kSuccess, w) ∧
    ∃ accepted rejected writes ending, ResultMapping w [plainEntry 1, plainEntry 2] accepted rejected writes ending ∧
      ∀ offset buf, ending = .writeFailed offset buf → ∀ idle : List WalOp, (∀ op ∈ idle, op.Idle) → ∀ next : List WalEntry, next ≠ [] →
        ∃ accepted' rejected' writes' ending',
          ResultMapping ((w.processBatch [plainEntry 1, plainEntry 2]).2.performAll idle) next accepted' rejected' writes' ending' ∧
          Rewritten (w.processBatch [plainEntry 1, plainEntry 2]).2 ((w.processBatch [plainEntry 1, plainEntry 2]).2.performAll idle) offset buf
            writes' ending' := by
  obtain ⟨w, opened, size⟩ := plain_open failingDevice true 1 rfl (by decide) (by decide) (by decide)
  exact ⟨w, opened, batch_result_mapping w (.created failingDevice (plainOptions true 1) w rfl opened (by unfold Allocated; omega)) _⟩

end Cabe
