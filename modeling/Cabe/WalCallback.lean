import Cabe.WalRecover

set_option autoImplicit false

namespace Cabe

open Storage

-- The same locals with another callback state.
def Scan.withState {σ τ : Type} (s : Scan σ) (st : τ) : Scan τ where
  pos := s.pos
  expected := s.expected
  inRun := s.inRun
  replayed := s.replayed
  tStop := s.tStop
  anchorOff := s.anchorOff
  anchorSeq := s.anchorSeq
  hasAnchor := s.hasAnchor
  stopOff := s.stopOff
  fragments := s.fragments
  fragMinSeq := s.fragMinSeq
  fragMaxSeq := s.fragMaxSeq
  blocksCrossed := s.blocksCrossed
  prevBlock := s.prevBlock
  st := st

-- Where the sweep tolerates a live frame, and what it notes of it.
def Scan.Near {σ : Type} (s : Scan σ) (w : Wal) (f : WalFrame) : Prop :=
  (s.stopOff ≤ s.pos ∧ s.pos < zoneEnd s.stopOff w.bufSize w.ringEnd) ∧
    s.tStop < f.seq.toNat ∧ f.seq.toNat ≤ s.tStop + w.bufSize / kWalFrameSize

def Scan.noted {σ : Type} (s : Scan σ) (f : WalFrame) : Scan σ :=
  { s with
    fragments := s.fragments + 1
    fragMinSeq := if s.fragments + 1 = 1 ∨ f.seq.toNat < s.fragMinSeq then f.seq.toNat else s.fragMinSeq
    fragMaxSeq := if f.seq.toNat > s.fragMaxSeq then f.seq.toNat else s.fragMaxSeq }

theorem sweep_dead_frame {σ : Type} (s : Scan σ) (w : Wal) (coveredSeq : Nat) (f : WalFrame)
    (dead : ¬ (verifyFrame f = true ∧ f.seq.toNat > coveredSeq)) : s.sweep w coveredSeq f = .ok s := by
  unfold Scan.sweep
  rw [if_neg dead]

theorem sweep_near {σ : Type} (s : Scan σ) (w : Wal) (coveredSeq : Nat) (f : WalFrame)
    (live : verifyFrame f = true ∧ f.seq.toNat > coveredSeq) (near : s.Near w f) : s.sweep w coveredSeq f = .ok (s.noted f) := by
  unfold Scan.sweep
  rw [if_pos live]
  dsimp only
  rw [if_neg (not_or.mpr ⟨not_not.mpr near.1, not_not.mpr near.2⟩)]
  unfold Scan.noted
  congr 1
  split <;> split <;> rfl

theorem sweep_far {σ : Type} (s : Scan σ) (w : Wal) (coveredSeq : Nat) (f : WalFrame)
    (live : verifyFrame f = true ∧ f.seq.toNat > coveredSeq) (far : ¬ s.Near w f) :
    s.sweep w coveredSeq f = .error Err.kWalRecoveryCorrupted := by
  unfold Scan.sweep
  rw [if_pos live]
  dsimp only
  rw [if_pos (not_and_or.mp far)]

-- What a delivery makes of the locals when the callback answers this state.
def Scan.taken {σ τ : Type} (s : Scan σ) (f : WalFrame) (st : τ) : Scan τ :=
  { s.withState st with
    blocksCrossed := if some (s.pos / kWalBlockSize) ≠ s.prevBlock then s.blocksCrossed + 1 else s.blocksCrossed
    prevBlock := if some (s.pos / kWalBlockSize) ≠ s.prevBlock then some (s.pos / kWalBlockSize) else s.prevBlock
    replayed := s.replayed + 1
    anchorOff := s.pos
    anchorSeq := f.seq.toNat
    hasAnchor := true
    tStop := f.seq.toNat
    expected := s.expected + 1 }

theorem deliver_called {σ : Type} (s : Scan σ) (fn : WalReplayFn σ) (f : WalFrame) :
    s.deliver fn f = (fn s.st (decodeEntry f) f.seq.toNat).map (s.taken f) := by
  unfold Scan.deliver
  cases fn s.st (decodeEntry f) f.seq.toNat with
  | error rc => rfl
  | ok st =>
      simp only [Except.map, Scan.taken]
      congr 1
      split <;> rfl

-- A callback that also notes the numbers it was called with.
def recording {σ : Type} (fn : WalReplayFn σ) : WalReplayFn (σ × List Nat) := fun noted e seq =>
  match fn noted.1 e seq with
  | .error rc => .error rc
  | .ok st => .ok (st, noted.2 ++ [seq])

section Forgetting

variable {σ τ : Type} (view : τ → σ) (big : WalReplayFn τ) (fn : WalReplayFn σ)

def Scan.seen (s : Scan τ) : Scan σ := s.withState (view s.st)

theorem sweep_seen (s : Scan τ) (w : Wal) (coveredSeq : Nat) (f : WalFrame) :
    (s.sweep w coveredSeq f).map (Scan.seen view) = (s.seen view).sweep w coveredSeq f := by
  by_cases live : verifyFrame f = true ∧ f.seq.toNat > coveredSeq
  · by_cases near : s.Near w f
    · rw [sweep_near s w coveredSeq f live near, sweep_near (s.seen view) w coveredSeq f live near]
      rfl
    · rw [sweep_far s w coveredSeq f live near, sweep_far (s.seen view) w coveredSeq f live near]
      rfl
  · rw [sweep_dead_frame s w coveredSeq f live, sweep_dead_frame (s.seen view) w coveredSeq f live]
    rfl

theorem rebuild_seen (w : Wal) (coveredSeq : Nat) (c : RecoverCensus) (s : Scan τ) :
    w.rebuild coveredSeq c (s.seen view) = w.rebuild coveredSeq c s := rfl

variable (commutes : ∀ st e seq, (big st e seq).map view = fn (view st) e seq)

include commutes

theorem deliver_seen (s : Scan τ) (f : WalFrame) : (s.deliver big f).map (Scan.seen view) = (s.seen view).deliver fn f := by
  have called := commutes s.st (decodeEntry f) f.seq.toNat
  have start : (s.seen view).st = view s.st := rfl
  rw [deliver_called, deliver_called, start, ← called]
  cases big s.st (decodeEntry f) f.seq.toNat <;> rfl

theorem slot_seen (s : Scan τ) (w : Wal) (coveredSeq : Nat) (f : WalFrame) :
    (s.slot w coveredSeq big f).map (Scan.seen view) = (s.seen view).slot w coveredSeq fn f := by
  have next : ∀ r : Except Rc (Scan τ), (r.map (·.next w)).map (Scan.seen view) = (r.map (Scan.seen view)).map (·.next w) := by
    intro r
    cases r <;> rfl
  have inRun : (s.seen view).inRun = s.inRun := rfl
  have expected : (s.seen view).expected = s.expected := rfl
  unfold Scan.slot
  rw [inRun, expected]
  split
  · split
    · rw [next, deliver_seen view big fn commutes]
    · rw [next, sweep_seen]
      rfl
  · rw [next, sweep_seen]

theorem walk_seen (w : Wal) (coveredSeq slots : Nat) : ∀ (chunk : Option Chunk) (s : Scan τ),
    (w.walk coveredSeq big slots chunk s).map (Scan.seen view) = w.walk coveredSeq fn slots chunk (s.seen view) := by
  induction slots with
  | zero => exact fun _ _ => rfl
  | succ slots ih =>
      intro chunk s
      have pos : (s.seen view).pos = s.pos := rfl
      unfold Wal.walk
      rw [pos]
      cases w.fetch chunk s.pos with
      | error rc => rfl
      | ok c =>
          simp only
          rw [← slot_seen view big fn commutes]
          cases s.slot w coveredSeq big (frameIn c.bytes (s.pos - c.off)) with
          | error rc => rfl
          | ok next => exact ih (some c) next

theorem survey_seen (w : Wal) (coveredSeq : Nat) (st : τ) :
    (w.survey coveredSeq big st).map (fun found => (found.1, found.2.seen view)) = w.survey coveredSeq fn (view st) := by
  unfold Wal.survey
  cases w.censusScan coveredSeq with
  | error rc => rfl
  | ok c =>
      simp only
      split
      · rfl
      · split
        · split
          · rfl
          · have walked := walk_seen view big fn commutes w coveredSeq ((w.ringEnd - w.ringStart) / kWalFrameSize) none
              (.start coveredSeq c.minLiveOff st)
            have start : (Scan.start coveredSeq c.minLiveOff st).seen view = .start coveredSeq c.minLiveOff (view st) := rfl
            rw [start] at walked
            rw [← walked]
            cases w.walk coveredSeq big ((w.ringEnd - w.ringStart) / kWalFrameSize) none (.start coveredSeq c.minLiveOff st) <;> rfl
        · rfl

-- A recovery cannot tell two callbacks apart when one only keeps more.
theorem recover_seen (w : Wal) (coveredSeq : Nat) (st : τ) :
    (w.recover coveredSeq big st).rc = (w.recover coveredSeq fn (view st)).rc ∧
      (w.recover coveredSeq big st).wal = (w.recover coveredSeq fn (view st)).wal ∧
      view (w.recover coveredSeq big st).st = (w.recover coveredSeq fn (view st)).st := by
  unfold Wal.recover
  split
  · exact ⟨rfl, rfl, rfl⟩
  · split
    · exact ⟨rfl, rfl, rfl⟩
    · simp only
      generalize ({ w with curBuf := some (zeros w.bufSize) } : Wal) = armed
      have surveyed := survey_seen view big fn commutes armed coveredSeq st
      rw [← surveyed]
      cases armed.survey coveredSeq big st with
      | error rc => exact ⟨rfl, rfl, rfl⟩
      | ok found =>
          obtain ⟨c, s⟩ := found
          simp only [Except.map]
          have anchor : (s.seen view).hasAnchor = s.hasAnchor := rfl
          rw [anchor]
          split
          · exact ⟨rfl, rfl, rfl⟩
          · have same := rebuild_seen view armed coveredSeq c s
            rw [same]
            refine ⟨rfl, rfl, ?_⟩
            simp only
            split <;> rfl

end Forgetting

theorem recording_commutes {σ : Type} (fn : WalReplayFn σ) (st : σ × List Nat) (e : WalEntry) (seq : Nat) :
    (recording fn st e seq).map Prod.fst = fn st.1 e seq := by
  unfold recording
  cases fn st.1 e seq <;> rfl

-- Every error code of the source is negative, and a loop that is never left
-- has none.
theorem census_from_error (w : Wal) (coveredSeq off : Nat) (c : RecoverCensus) (rc : Rc)
    (failed : w.censusFrom coveredSeq off c = .error rc) : rc < 0 ∨ rc = Err.kNeverReturns ∧ w.bufSize = 0 := by
  fun_induction Wal.censusFrom w coveredSeq off c with
  | case1 off c inside len unread =>
      cases failed
      exact .inl (by decide)
  | case2 off c inside len chunk found more ih => exact ih failed
  | case3 off c inside len chunk found stuck =>
      cases failed
      exact .inr ⟨rfl, by omega⟩
  | case4 => cases failed

theorem census_from_refuses (w : Wal) (coveredSeq : Nat) (pos : 0 < w.bufSize) (off : Nat) (c : RecoverCensus) (rc : Rc)
    (failed : w.censusFrom coveredSeq off c = .error rc) : rc < 0 := by
  rcases census_from_error w coveredSeq off c rc failed with refused | ⟨_, empty⟩
  · exact refused
  · omega

theorem fetch_refuses (w : Wal) (chunk : Option Chunk) (pos : Nat) (rc : Rc) (failed : w.fetch chunk pos = .error rc) : rc < 0 := by
  have unread : ∀ rc, w.readChunk pos = .error rc → rc < 0 := by
    intro rc failed
    unfold Wal.readChunk at failed
    simp only at failed
    split at failed
    · cases failed
      decide
    · cases failed
  unfold Wal.fetch at failed
  split at failed
  · exact unread rc failed
  · split at failed
    · exact unread rc failed
    · cases failed

theorem sweep_refuses {σ : Type} (s : Scan σ) (w : Wal) (coveredSeq : Nat) (f : WalFrame) (rc : Rc)
    (failed : s.sweep w coveredSeq f = .error rc) : rc < 0 := by
  by_cases live : verifyFrame f = true ∧ f.seq.toNat > coveredSeq
  · by_cases near : s.Near w f
    · rw [sweep_near s w coveredSeq f live near] at failed
      cases failed
    · rw [sweep_far s w coveredSeq f live near] at failed
      cases failed
      decide
  · rw [sweep_dead_frame s w coveredSeq f live] at failed
    cases failed

section Refusing

variable {σ : Type} (fn : WalReplayFn σ) (refuses : ∀ st e seq rc, fn st e seq = .error rc → rc < 0)

include refuses

theorem slot_refuses (s : Scan σ) (w : Wal) (coveredSeq : Nat) (f : WalFrame) (rc : Rc)
    (failed : s.slot w coveredSeq fn f = .error rc) : rc < 0 := by
  have passed : ∀ r : Except Rc (Scan σ), r.map (·.next w) = .error rc → (∀ code, r = .error code → code < 0) → rc < 0 := by
    intro r failed every
    cases r with
    | error code =>
        cases failed
        exact every rc rfl
    | ok t => cases failed
  unfold Scan.slot at failed
  split at failed
  · split at failed
    · refine passed _ failed fun code refused => ?_
      rw [deliver_called] at refused
      cases called : fn s.st (decodeEntry f) f.seq.toNat with
      | error code' =>
          rw [called] at refused
          cases refused
          exact refuses _ _ _ _ called
      | ok st =>
          rw [called] at refused
          cases refused
    · exact passed _ failed fun code refused => sweep_refuses _ w coveredSeq f code refused
  · exact passed _ failed fun code refused => sweep_refuses s w coveredSeq f code refused

theorem walk_refuses (w : Wal) (coveredSeq : Nat) (rc : Rc) (slots : Nat) : ∀ (chunk : Option Chunk) (s : Scan σ),
    w.walk coveredSeq fn slots chunk s = .error rc → rc < 0 := by
  induction slots with
  | zero =>
      intro chunk s failed
      cases failed
  | succ slots ih =>
      intro chunk s failed
      unfold Wal.walk at failed
      cases fetched : w.fetch chunk s.pos with
      | error code =>
          rw [fetched] at failed
          cases failed
          exact fetch_refuses w chunk s.pos rc fetched
      | ok c =>
          rw [fetched] at failed
          simp only at failed
          cases moved : s.slot w coveredSeq fn (frameIn c.bytes (s.pos - c.off)) with
          | error code =>
              rw [moved] at failed
              cases failed
              exact slot_refuses fn refuses s w coveredSeq _ rc moved
          | ok next =>
              rw [moved] at failed
              exact ih (some c) next failed

theorem survey_error (w : Wal) (coveredSeq : Nat) (st : σ) (rc : Rc) (failed : w.survey coveredSeq fn st = .error rc) :
    rc < 0 ∨ rc = Err.kNeverReturns ∧ w.bufSize = 0 := by
  unfold Wal.survey at failed
  cases scanned : w.censusScan coveredSeq with
  | error code =>
      rw [scanned] at failed
      cases failed
      exact census_from_error w coveredSeq _ _ rc scanned
  | ok c =>
      rw [scanned] at failed
      simp only at failed
      split at failed
      · cases failed
        exact .inl (by decide)
      · split at failed
        · split at failed
          · cases failed
            exact .inl (by decide)
          · cases walked : w.walk coveredSeq fn ((w.ringEnd - w.ringStart) / kWalFrameSize) none
                (.start coveredSeq c.minLiveOff st) with
            | error code =>
                rw [walked] at failed
                cases failed
                exact .inl (walk_refuses fn refuses w coveredSeq rc _ none _ walked)
            | ok s =>
                rw [walked] at failed
                cases failed
        · cases failed

theorem survey_refuses (w : Wal) (coveredSeq : Nat) (pos : 0 < w.bufSize) (st : σ) (rc : Rc)
    (failed : w.survey coveredSeq fn st = .error rc) : rc < 0 := by
  rcases survey_error fn refuses w coveredSeq st rc failed with refused | ⟨_, empty⟩
  · exact refused
  · omega

end Refusing

theorem erase_from_refuses (w : Wal) (off zone : Nat) (pos : 0 < w.bufSize) :
    (w.eraseFrom off zone).1 = Err.kSuccess ∨ (w.eraseFrom off zone).1 < 0 := by
  fun_induction Wal.eraseFrom w off zone with
  | case1 w off inside len rc dev wrote failed => exact .inr (show Err.kWalWriteFailed < 0 by decide)
  | case2 w off inside len rc dev wrote fine more ih => exact ih pos
  | case3 w off inside len rc dev wrote fine stuck => omega
  | case4 w off outside => exact .inl rfl

theorem refill_refuses (w : Wal) (fragments : Nat) : (w.refill fragments).1 = Err.kSuccess ∨ (w.refill fragments).1 < 0 := by
  unfold Wal.refill
  split
  · split
    · exact .inr (show Err.kWalRecoveryReadFailed < 0 by decide)
    · simp only
      split
      · split
        · exact .inr (show Err.kWalWriteFailed < 0 by decide)
        · exact .inl rfl
      · exact .inl rfl
  · exact .inl rfl

theorem seal_refuses (w : Wal) (fragments : Nat) : (w.seal fragments).1 = Err.kSuccess ∨ (w.seal fragments).1 < 0 := by
  unfold Wal.seal
  split
  · simp only
    split
    · exact .inr (show Err.kWalWriteFailed < 0 by decide)
    · exact .inl rfl
  · exact .inl rfl

theorem rebuild_refuses {σ : Type} (w : Wal) (coveredSeq : Nat) (c : RecoverCensus) (s : Scan σ) (pos : 0 < w.bufSize) :
    (w.rebuild coveredSeq c s).1 = Err.kSuccess ∨ (w.rebuild coveredSeq c s).1 < 0 := by
  unfold Wal.rebuild
  simp only
  generalize place : w.placeTail c (if s.hasAnchor = true then s.anchorOff else c.maxValidOff)
    (if s.hasAnchor = true then s.anchorSeq else c.maxValidSeq) = placed
  have size : placed.bufSize = w.bufSize := by
    rw [← place]
    rfl
  have erased : (placed.eraseZone s.fragments s.stopOff).1 = Err.kSuccess ∨ (placed.eraseZone s.fragments s.stopOff).1 < 0 := by
    unfold Wal.eraseZone
    split
    · exact erase_from_refuses placed _ _ (by omega)
    · exact .inl rfl
  split
  · exact erased
  · have refilled := refill_refuses (placed.eraseZone s.fragments s.stopOff).2 s.fragments
    split
    · exact refilled
    · have sealed := seal_refuses ((placed.eraseZone s.fragments s.stopOff).2.refill s.fragments).2 s.fragments
      split
      · exact sealed
      · split
        · exact .inl rfl
        · exact .inr (show Err.kWalRecoveryInvariant < 0 by decide)

-- With a buffer to scan with, a recovery always comes to an answer.
theorem recover_returns {σ : Type} (w : Wal) (coveredSeq : Nat) (fn : WalReplayFn σ) (st : σ) (pos : 0 < w.bufSize)
    (refuses : ∀ st e seq rc, fn st e seq = .error rc → rc < 0) :
    (w.recover coveredSeq fn st).rc = Err.kSuccess ∨ (w.recover coveredSeq fn st).rc < 0 := by
  unfold Wal.recover
  split
  · exact .inr (show Err.kEngineInvalidOpts < 0 by decide)
  · split
    · exact .inr (show Err.kEngineInvalidOpts < 0 by decide)
    · simp only
      cases surveyed : ({ w with curBuf := some (zeros w.bufSize) } : Wal).survey coveredSeq fn st with
      | error rc => exact .inr (survey_refuses fn refuses { w with curBuf := some (zeros w.bufSize) } coveredSeq pos st rc surveyed)
      | ok found =>
          simp only
          split
          · exact .inl rfl
          · exact rebuild_refuses { w with curBuf := some (zeros w.bufSize) } coveredSeq found.1 found.2 pos

theorem recording_refuses {σ : Type} (fn : WalReplayFn σ) (refuses : ∀ st e seq rc, fn st e seq = .error rc → rc < 0)
    (st : σ × List Nat) (e : WalEntry) (seq : Nat) (rc : Rc) (failed : recording fn st e seq = .error rc) : rc < 0 := by
  unfold recording at failed
  split at failed
  · rename_i code called
    cases failed
    exact refuses _ _ _ _ called
  · cases failed

end Cabe
