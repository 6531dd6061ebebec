import Cabe.WalCallback

set_option autoImplicit false

namespace Cabe

open Storage

-- The numbers delivered so far follow on from the covered one, and the anchor
-- is the last of them.
structure Scan.Counts {σ : Type} (covered : Nat) (s : Scan (σ × List Nat)) : Prop where
  numbers : s.st.2 = List.range' (covered + 1) s.replayed
  expected : s.expected = covered + 1 + s.replayed
  anchored : s.hasAnchor = true ↔ 0 < s.replayed
  anchor : s.hasAnchor = true → s.anchorSeq = covered + s.replayed

theorem counts_start {σ : Type} (covered pos : Nat) (st : σ) : (Scan.start covered pos (st, [])).Counts covered :=
  ⟨rfl, rfl, ⟨(fun anchored => nomatch anchored), fun more => absurd more (Nat.lt_irrefl 0)⟩, fun anchored => nomatch anchored⟩

theorem counts_taken {σ : Type} (covered : Nat) (s : Scan (σ × List Nat)) (f : WalFrame) (st : σ) (counts : s.Counts covered)
    (next : f.seq.toNat = s.expected) : (s.taken f (st, s.st.2 ++ [f.seq.toNat])).Counts covered := by
  refine ⟨?_, ?_, ⟨fun _ => Nat.succ_pos _, fun _ => rfl⟩, fun _ => ?_⟩
  · show s.st.2 ++ [f.seq.toNat] = List.range' (covered + 1) (s.replayed + 1)
    rw [counts.numbers, next, counts.expected, List.range'_concat, Nat.one_mul]
  · show s.expected + 1 = covered + 1 + (s.replayed + 1)
    rw [counts.expected]
    rfl
  · show f.seq.toNat = covered + (s.replayed + 1)
    rw [next, counts.expected]
    omega

theorem sweep_counts {σ : Type} (covered : Nat) (s next : Scan (σ × List Nat)) (w : Wal) (coveredSeq : Nat) (f : WalFrame)
    (counts : s.Counts covered) (done : s.sweep w coveredSeq f = .ok next) : next.Counts covered := by
  by_cases live : verifyFrame f = true ∧ f.seq.toNat > coveredSeq
  · by_cases near : s.Near w f
    · rw [sweep_near s w coveredSeq f live near] at done
      cases done
      exact ⟨counts.numbers, counts.expected, counts.anchored, counts.anchor⟩
    · rw [sweep_far s w coveredSeq f live near] at done
      cases done
  · rw [sweep_dead_frame s w coveredSeq f live] at done
    cases done
    exact counts

theorem slot_counts {σ : Type} (covered : Nat) (s next : Scan (σ × List Nat)) (w : Wal) (coveredSeq : Nat) (fn : WalReplayFn σ)
    (f : WalFrame) (counts : s.Counts covered) (done : s.slot w coveredSeq (recording fn) f = .ok next) : next.Counts covered := by
  have moved : ∀ r : Except Rc (Scan (σ × List Nat)), r.map (·.next w) = .ok next → (∀ t, r = .ok t → t.Counts covered) →
      next.Counts covered := by
    intro r step every
    cases r with
    | error rc => cases step
    | ok t =>
        cases step
        have before := every t rfl
        exact ⟨before.numbers, before.expected, before.anchored, before.anchor⟩
  unfold Scan.slot at done
  split at done
  · split at done
    · rename_i found
      refine moved _ done fun t delivered => ?_
      rw [deliver_called] at delivered
      unfold recording at delivered
      cases called : fn s.st.1 (decodeEntry f) f.seq.toNat with
      | error rc =>
          rw [called] at delivered
          cases delivered
      | ok st =>
          rw [called] at delivered
          cases delivered
          exact counts_taken covered s f st counts found.2
    · exact moved _ done fun t swept => sweep_counts covered { s with inRun := false, stopOff := s.pos } t w coveredSeq f
        ⟨counts.numbers, counts.expected, counts.anchored, counts.anchor⟩ swept
  · exact moved _ done fun t swept => sweep_counts covered s t w coveredSeq f counts swept

theorem walk_counts {σ : Type} (covered : Nat) (w : Wal) (coveredSeq : Nat) (fn : WalReplayFn σ) (slots : Nat) :
    ∀ (chunk : Option Chunk) (s last : Scan (σ × List Nat)), s.Counts covered →
      w.walk coveredSeq (recording fn) slots chunk s = .ok last → last.Counts covered := by
  induction slots with
  | zero =>
      intro chunk s last counts done
      cases done
      exact counts
  | succ slots ih =>
      intro chunk s last counts done
      unfold Wal.walk at done
      cases fetched : w.fetch chunk s.pos with
      | error rc =>
          rw [fetched] at done
          cases done
      | ok c =>
          rw [fetched] at done
          simp only at done
          cases moved : s.slot w coveredSeq (recording fn) (frameIn c.bytes (s.pos - c.off)) with
          | error rc =>
              rw [moved] at done
              cases done
          | ok next =>
              rw [moved] at done
              exact ih (some c) next last (slot_counts covered s next w coveredSeq fn _ counts moved) done

-- What a survey that refuses nothing has established.
structure Wal.Surveyed {σ : Type} (w : Wal) (covered : Nat) (c : RecoverCensus) (s : Scan (σ × List Nat)) : Prop where
  counts : s.Counts covered
  evidence : c.validCount = 0 → covered = 0

theorem survey_counts {σ : Type} (w : Wal) (covered : Nat) (fn : WalReplayFn σ) (st : σ) (c : RecoverCensus)
    (s : Scan (σ × List Nat)) (done : w.survey covered (recording fn) (st, []) = .ok (c, s)) : w.Surveyed covered c s := by
  unfold Wal.survey at done
  cases scanned : w.censusScan covered with
  | error rc =>
      rw [scanned] at done
      cases done
  | ok census =>
      rw [scanned] at done
      simp only at done
      by_cases lost : census.validCount = 0 ∧ covered > 0
      · rw [if_pos lost] at done
        cases done
      · rw [if_neg lost] at done
        have evidence : census.validCount = 0 → covered = 0 := by
          intro none_
          omega
        by_cases live : census.liveCount > 0
        · rw [if_pos live] at done
          split at done
          · cases done
          · cases walked : w.walk covered (recording fn) ((w.ringEnd - w.ringStart) / kWalFrameSize) none
                (.start covered census.minLiveOff (st, [])) with
            | error rc =>
                rw [walked] at done
                cases done
            | ok last =>
                rw [walked] at done
                cases done
                exact ⟨walk_counts covered w covered fn _ none _ s (counts_start covered _ st) walked, evidence⟩
        · rw [if_neg live] at done
          cases done
          exact ⟨counts_start covered 0 st, evidence⟩

-- The buffer holds the tail block's frames as the device has them, and zeros.
def Wal.TailOnDisk (w : Wal) : Prop :=
  w.curBuf = some (read w.dev.medium.cur w.curOff (w.nFrames * kWalFrameSize) ++ zeros (w.bufSize - w.nFrames * kWalFrameSize))

-- What the steps behind the survey leave alone.
structure Wal.SamePlace (w after : Wal) : Prop where
  bufSize : after.bufSize = w.bufSize
  curOff : after.curOff = w.curOff
  nFrames : after.nFrames = w.nFrames
  seqNext : after.seqNext = w.seqNext
  ringStart : after.ringStart = w.ringStart
  ringEnd : after.ringEnd = w.ringEnd
  headOff : after.headOff = w.headOff

theorem same_place_trans (a b c : Wal) (first : a.SamePlace b) (second : b.SamePlace c) : a.SamePlace c where
  bufSize := second.bufSize.trans first.bufSize
  curOff := second.curOff.trans first.curOff
  nFrames := second.nFrames.trans first.nFrames
  seqNext := second.seqNext.trans first.seqNext
  ringStart := second.ringStart.trans first.ringStart
  ringEnd := second.ringEnd.trans first.ringEnd
  headOff := second.headOff.trans first.headOff

theorem erase_from_place (w : Wal) (off zone : Nat) : w.SamePlace (w.eraseFrom off zone).2 ∧ (w.eraseFrom off zone).2.curBuf = w.curBuf := by
  fun_induction Wal.eraseFrom w off zone with
  | case1 w off inside len rc dev wrote failed => exact ⟨⟨rfl, rfl, rfl, rfl, rfl, rfl, rfl⟩, rfl⟩
  | case2 w off inside len rc dev wrote fine more ih =>
      exact ⟨same_place_trans w { w with dev := dev } _ ⟨rfl, rfl, rfl, rfl, rfl, rfl, rfl⟩ ih.1, ih.2⟩
  | case3 w off inside len rc dev wrote fine stuck => exact ⟨⟨rfl, rfl, rfl, rfl, rfl, rfl, rfl⟩, rfl⟩
  | case4 w off outside => exact ⟨⟨rfl, rfl, rfl, rfl, rfl, rfl, rfl⟩, rfl⟩

theorem erase_zone_place (w : Wal) (fragments stopOff : Nat) :
    w.SamePlace (w.eraseZone fragments stopOff).2 ∧ (w.eraseZone fragments stopOff).2.curBuf = w.curBuf := by
  unfold Wal.eraseZone
  split
  · exact erase_from_place w _ _
  · exact ⟨⟨rfl, rfl, rfl, rfl, rfl, rfl, rfl⟩, rfl⟩

-- The block as it was read, with every slot behind the frames cleared.
theorem refilled_buffer (size frames : Nat) (block : Bytes) (big : kWalBlockSize ≤ size) (whole : block.length = kWalBlockSize)
    (few : frames * kWalFrameSize ≤ kWalBlockSize) :
    memsetZero (memcpy (zeros size) 0 block) (frames * kWalFrameSize) =
      block.take (frames * kWalFrameSize) ++ zeros (size - frames * kWalFrameSize) := by
  have total : (memcpy (zeros size) 0 block).length = size := by
    simp only [memcpy, List.take_zero, List.nil_append, List.length_append, List.length_drop, zeros_length]
    omega
  have front : (memcpy (zeros size) 0 block).take (frames * kWalFrameSize) = block.take (frames * kWalFrameSize) := by
    rw [memcpy, List.take_zero, List.nil_append, List.take_append_of_le_length (by omega)]
  rw [memsetZero, front, total]

theorem rewrite_keeps (img : Image) (off count rest : Nat) (short : count ≤ kWalBlockSize) :
    read (write img off ((read img off count ++ zeros rest).take kWalBlockSize)) off count = read img off count := by
  have long : count ≤ ((read img off count ++ zeros rest).take kWalBlockSize).length := by
    rw [List.length_take, List.length_append, read_length]
    omega
  rw [read_write_inside _ _ _ _ _ (Nat.le_refl _) (by omega), Nat.sub_self, slice, List.drop_zero, List.take_take,
    Nat.min_eq_left short, List.take_append_of_le_length (Nat.le_of_eq (read_length ..).symm), List.take_of_length_le (Nat.le_of_eq (read_length ..))]

theorem refill_on_disk (w after : Wal) (fragments : Nat) (blank : w.curBuf = some (zeros w.bufSize)) (big : kWalBlockSize ≤ w.bufSize)
    (few : w.nFrames < kWalFramesPerBlock) (done : w.refill fragments = (Err.kSuccess, after)) :
    w.SamePlace after ∧ after.TailOnDisk := by
  have short : w.nFrames * kWalFrameSize ≤ kWalBlockSize := by
    unfold kWalFramesPerBlock at few
    unfold kWalFrameSize kWalBlockSize
    omega
  unfold Wal.refill at done
  by_cases half : w.nFrames > 0
  · rw [if_pos half] at done
    cases found : w.dev.readAt w.curOff kWalBlockSize with
    | none =>
        rw [found] at done
        exact absurd (show Err.kWalRecoveryReadFailed = Err.kSuccess from congrArg Prod.fst done) (by decide)
    | some block =>
        have bytes : block = read w.dev.medium.cur w.curOff kWalBlockSize := by
          unfold RawDevice.readAt at found
          split at found
          · exact (Option.some.inj found).symm
          · cases found
        have front : block.take (w.nFrames * kWalFrameSize) = read w.dev.medium.cur w.curOff (w.nFrames * kWalFrameSize) := by
          rw [bytes, read_take _ _ _ _ short]
        have filled := refilled_buffer w.bufSize w.nFrames block big (by rw [bytes, read_length]) short
        rw [front] at filled
        simp only [found, blank, Option.getD_some, filled] at done
        by_cases some_ : fragments > 0
        · rw [if_pos some_] at done
          generalize buffer : read w.dev.medium.cur w.curOff (w.nFrames * kWalFrameSize) ++
            zeros (w.bufSize - w.nFrames * kWalFrameSize) = buf at done
          cases wrote : w.dev.writeAt w.curOff (buf.take kWalBlockSize) with
          | mk rc dev =>
              simp only [wrote, Prod.mk.injEq] at done
              obtain ⟨fine, rfl⟩ := done
              have good : (w.dev.writeAt w.curOff (buf.take kWalBlockSize)).1 = Err.kSuccess := by
                rw [wrote]
                by_contra failed
                rw [if_pos failed] at fine
                exact absurd fine (by decide)
              have landed : dev = w.dev.record (w.dev.medium.put (write w.dev.medium.cur w.curOff (buf.take kWalBlockSize))) := by
                rw [← (write_at_ok w.dev w.curOff _ good).2.2, wrote]
              refine ⟨⟨rfl, rfl, rfl, rfl, rfl, rfl, rfl⟩, ?_⟩
              show some buf = some (read dev.medium.cur w.curOff (w.nFrames * kWalFrameSize) ++ zeros (w.bufSize - w.nFrames * kWalFrameSize))
              rw [landed, record_medium, medium_put_cur, ← buffer, rewrite_keeps _ _ _ _ short]
        · rw [if_neg some_, Prod.mk.injEq] at done
          obtain ⟨_, rfl⟩ := done
          exact ⟨⟨rfl, rfl, rfl, rfl, rfl, rfl, rfl⟩, rfl⟩
  · rw [if_neg half, Prod.mk.injEq] at done
    obtain ⟨_, rfl⟩ := done
    have none_ : w.nFrames = 0 := by omega
    refine ⟨⟨rfl, rfl, rfl, rfl, rfl, rfl, rfl⟩, ?_⟩
    rw [Wal.TailOnDisk, blank, none_, Nat.zero_mul, Nat.sub_zero]
    rfl

theorem seal_on_disk (w after : Wal) (fragments : Nat) (matches_ : w.TailOnDisk) (done : w.seal fragments = (Err.kSuccess, after)) :
    w.SamePlace after ∧ after.TailOnDisk := by
  unfold Wal.seal at done
  by_cases some_ : fragments > 0
  · rw [if_pos some_] at done
    cases synced : w.dev.sync with
    | mk rc dev =>
        simp only [synced, Prod.mk.injEq] at done
        obtain ⟨fine, rfl⟩ := done
        have good : w.dev.sync.1 = Err.kSuccess := by
          rw [synced]
          by_contra failed
          rw [if_pos failed] at fine
          exact absurd fine (by decide)
        have kept : dev = w.dev.record w.dev.medium.flush := by
          rw [← (sync_ok w.dev good).2, synced]
        have cur : dev.medium.cur = w.dev.medium.cur := by
          rw [kept]
          rfl
        refine ⟨⟨rfl, rfl, rfl, rfl, rfl, rfl, rfl⟩, ?_⟩
        show w.curBuf = some (read dev.medium.cur _ _ ++ _)
        rw [cur]
        exact matches_
  · rw [if_neg some_, Prod.mk.injEq] at done
    obtain ⟨_, rfl⟩ := done
    exact ⟨⟨rfl, rfl, rfl, rfl, rfl, rfl, rfl⟩, matches_⟩

-- A log that may be continued: its position, its retained frames and its next
-- number.
structure Wal.Legal (w : Wal) (covered : Nat) (numbers : List Nat) : Prop where
  aligned : w.headOff % kWalBlockSize = 0 ∧ w.curOff % kWalBlockSize = 0
  headInside : w.ringStart ≤ w.headOff ∧ w.headOff < w.ringEnd
  tailInside : w.ringStart ≤ w.curOff ∧ w.curOff < w.ringEnd
  few : w.nFrames < kWalFramesPerBlock
  tail : w.TailOnDisk
  window : w.windowBytes = w.windowAt w.curOff
  aboveCovered : covered < w.seqNext
  aboveReplayed : ∀ seq ∈ numbers, seq < w.seqNext

theorem self_check_legal {σ : Type} (w : Wal) (covered : Nat) (c : RecoverCensus) (s : Scan σ) (numbers : List Nat)
    (passed : w.selfCheck covered c s = true) (tail : w.TailOnDisk) (above : ∀ seq ∈ numbers, seq < w.seqNext) :
    w.Legal covered numbers := by
  unfold Wal.selfCheck at passed
  obtain ⟨curAligned, headAligned, curLow, curHigh, headLow, headHigh, _, next, few, window, _⟩ := of_decide_eq_true passed
  exact ⟨⟨headAligned, curAligned⟩, ⟨headLow, headHigh⟩, ⟨curLow, curHigh⟩, few, tail, window, next, above⟩

theorem place_tail_few (w : Wal) (c : RecoverCensus) (anchorOff anchorSeq : Nat) :
    (w.placeTail c anchorOff anchorSeq).nFrames < kWalFramesPerBlock := by
  have inside : (anchorOff - blockFloor anchorOff) / kWalFrameSize < kWalFramesPerBlock := by
    unfold kWalFramesPerBlock blockFloor kWalBlockSize kWalFrameSize
    omega
  show (if (anchorOff - blockFloor anchorOff) / kWalFrameSize + 1 = kWalFramesPerBlock then 0
    else (anchorOff - blockFloor anchorOff) / kWalFrameSize + 1) < kWalFramesPerBlock
  split
  · exact show 0 < kWalFramesPerBlock by decide
  · omega

theorem rebuild_legal {σ : Type} (w after : Wal) (covered : Nat) (c : RecoverCensus) (s : Scan (σ × List Nat))
    (surveyed : w.Surveyed covered c s) (big : kWalBlockSize ≤ w.bufSize)
    (done : w.rebuild covered c s = (Err.kSuccess, after)) : after.Legal covered s.st.2 := by
  unfold Wal.rebuild at done
  simp only at done
  generalize place : w.placeTail c (if s.hasAnchor = true then s.anchorOff else c.maxValidOff)
    (if s.hasAnchor = true then s.anchorSeq else c.maxValidSeq) = placed at done
  have blank : placed.curBuf = some (zeros placed.bufSize) := by
    rw [← place]
    rfl
  have size : placed.bufSize = w.bufSize := by
    rw [← place]
    rfl
  have next : placed.seqNext = (if s.hasAnchor = true then s.anchorSeq else c.maxValidSeq) + 1 := by
    rw [← place]
    rfl
  obtain ⟨erasedPlace, erasedBuf⟩ := erase_zone_place placed s.fragments s.stopOff
  cases erased : placed.eraseZone s.fragments s.stopOff with
  | mk rc w1 =>
  rw [erased] at erasedPlace erasedBuf
  simp only [erased] at done
  by_cases eraseFine : rc = Err.kSuccess
  swap
  · rw [if_pos eraseFine] at done
    exact absurd (congrArg Prod.fst done) eraseFine
  subst eraseFine
  simp only [ne_eq, not_true_eq_false, if_false] at done
  cases refilled : w1.refill s.fragments with
  | mk rc w2 =>
  simp only [refilled] at done
  by_cases refillFine : rc = Err.kSuccess
  swap
  · rw [if_pos refillFine] at done
    exact absurd (congrArg Prod.fst done) refillFine
  subst refillFine
  simp only [not_true_eq_false, if_false] at done
  cases sealed : w2.seal s.fragments with
  | mk rc w3 =>
  simp only [sealed] at done
  by_cases sealFine : rc = Err.kSuccess
  swap
  · rw [if_pos sealFine] at done
    exact absurd (congrArg Prod.fst done) sealFine
  subst sealFine
  simp only [not_true_eq_false, if_false] at done
  by_cases passed : ({ w3 with windowBytes := w3.windowAt w3.curOff } : Wal).selfCheck covered c s = true
  swap
  · rw [if_neg passed] at done
    exact absurd (show Err.kWalRecoveryInvariant = Err.kSuccess from congrArg Prod.fst done) (by decide)
  rw [if_pos passed, Prod.mk.injEq] at done
  obtain ⟨_, rfl⟩ := done
  have few : w1.nFrames < kWalFramesPerBlock := by
    rw [erasedPlace.nFrames, ← place]
    exact place_tail_few w c _ _
  have filled := refill_on_disk w1 w2 s.fragments (by rw [erasedBuf, blank, erasedPlace.bufSize])
    (by rw [erasedPlace.bufSize, size]; exact big) few refilled
  have sealed' := seal_on_disk w2 w3 s.fragments filled.2 sealed
  have number : w3.seqNext = (if s.hasAnchor = true then s.anchorSeq else c.maxValidSeq) + 1 := by
    rw [sealed'.1.seqNext, filled.1.seqNext, erasedPlace.seqNext, next]
  apply self_check_legal _ covered c s s.st.2 passed sealed'.2
  intro seq member
  show seq < w3.seqNext
  rw [surveyed.counts.numbers, List.mem_range'_1] at member
  have anchored := surveyed.counts.anchored.mpr (by omega)
  rw [number, if_pos anchored, surveyed.counts.anchor anchored]
  omega

theorem place_empty_legal (w : Wal) (numbers : List Nat) (start : w.ringStart % kWalBlockSize = 0) (room : w.ringStart < w.ringEnd)
    (none_ : numbers = []) : w.placeEmpty.Legal 0 numbers := by
  refine ⟨⟨start, start⟩, ⟨Nat.le_refl _, room⟩, ⟨Nat.le_refl _, room⟩, Nat.succ_pos 31, ?_, rfl, Nat.one_pos, ?_⟩
  · show some (zeros w.bufSize) = some (read _ _ (0 * kWalFrameSize) ++ zeros (w.bufSize - 0 * kWalFrameSize))
    rw [Nat.zero_mul, Nat.sub_zero]
    rfl
  · rw [none_]
    exact fun seq member => nomatch member

-- Whatever the ring holds and however its device behaves, a recovery that
-- succeeds leaves a legal log.
theorem recover_legal {σ : Type} (w : Wal) (covered : Nat) (fn : WalReplayFn σ) (st : σ)
    (refuses : ∀ st e seq rc, fn st e seq = .error rc → rc < 0) (start : w.ringStart % kWalBlockSize = 0)
    (room : w.ringStart < w.ringEnd) (big : kWalBlockSize ≤ w.bufSize)
    (done : (w.recover covered (recording fn) (st, [])).rc = Err.kSuccess) :
    (w.recover covered (recording fn) (st, [])).wal.Legal covered (w.recover covered (recording fn) (st, [])).st.2 := by
  unfold Wal.recover at done ⊢
  by_cases closed : w.dev.isOpen = false
  · rw [if_pos closed] at done
    exact absurd (show Err.kEngineInvalidOpts = Err.kSuccess from done) (by decide)
  rw [if_neg closed] at done ⊢
  by_cases again : w.curBuf.isSome
  · rw [if_pos again] at done
    exact absurd (show Err.kEngineInvalidOpts = Err.kSuccess from done) (by decide)
  rw [if_neg again] at done ⊢
  simp only at done ⊢
  generalize armed : ({ w with curBuf := some (zeros w.bufSize) } : Wal) = ready at done ⊢
  have same : ready.ringStart = w.ringStart ∧ ready.ringEnd = w.ringEnd ∧ ready.bufSize = w.bufSize := by
    rw [← armed]
    exact ⟨rfl, rfl, rfl⟩
  cases surveyed : ready.survey covered (recording fn) (st, []) with
  | error rc =>
      simp only [surveyed] at done
      have block : 0 < kWalBlockSize := by decide
      have negative := survey_refuses (recording fn) (recording_refuses fn refuses) ready covered (by omega) (st, []) rc surveyed
      rw [show rc = Err.kSuccess from done] at negative
      exact absurd negative (by decide)
  | ok found =>
      obtain ⟨c, s⟩ := found
      have sound := survey_counts ready covered fn st c s surveyed
      simp only [surveyed] at done ⊢
      by_cases empty : s.hasAnchor = false ∧ c.validCount = 0
      · rw [if_pos empty]
        have nothing := sound.evidence empty.2
        have none_ : s.replayed = 0 := by
          by_contra some_
          have anchored := sound.counts.anchored.mpr (by omega)
          rw [empty.1] at anchored
          cases anchored
        subst nothing
        refine place_empty_legal ready _ (by rw [same.1]; exact start) (by rw [same.1, same.2.1]; exact room) ?_
        rw [sound.counts.numbers, none_]
        rfl
      · rw [if_neg empty] at done ⊢
        cases rebuilt : ready.rebuild covered c s with
        | mk rc after =>
            simp only [rebuilt] at done ⊢
            subst done
            rw [if_pos rfl]
            exact rebuild_legal ready after covered c s sound (by rw [same.2.2]; exact big) rebuilt

end Cabe
