import Cabe.WalScan

set_option autoImplicit false

namespace Cabe

open Storage

section Words

variable {σ : Type}

-- The second pass with its sums in words, as the source computes them. Sequence
-- numbers never come near the end of a word, and everywhere else the plain sums
-- stand for these.
def Scan.sweepWord (s : Scan σ) (w : Wal) (coveredSeq : Nat) (f : WalFrame) : Except Rc (Scan σ) :=
  if verifyFrame f = true ∧ f.seq.toNat > coveredSeq then
    let zone := min ((blockFloor s.stopOff + w.bufSize) % 2 ^ 64) w.ringEnd
    let maxFragSeq := (s.tStop + w.bufSize / kWalFrameSize) % 2 ^ 64
    let physOk := s.pos ≥ s.stopOff ∧ s.pos < zone
    let seqOk := f.seq.toNat > s.tStop ∧ f.seq.toNat ≤ maxFragSeq
    if ¬ physOk ∨ ¬ seqOk then .error Err.kWalRecoveryCorrupted
    else
      let s := { s with fragments := s.fragments + 1 }
      let s := if s.fragments = 1 ∨ f.seq.toNat < s.fragMinSeq then { s with fragMinSeq := f.seq.toNat } else s
      .ok (if f.seq.toNat > s.fragMaxSeq then { s with fragMaxSeq := f.seq.toNat } else s)
  else .ok s

def Scan.deliverWord (s : Scan σ) (fn : WalReplayFn σ) (f : WalFrame) : Except Rc (Scan σ) :=
  (s.deliver fn f).map fun next => { next with expected := (s.expected + 1) % 2 ^ 64 }

def Scan.slotWord (s : Scan σ) (w : Wal) (coveredSeq : Nat) (fn : WalReplayFn σ) (f : WalFrame) : Except Rc (Scan σ) :=
  if s.inRun = true then
    if verifyFrame f = true ∧ f.seq.toNat = s.expected then (s.deliverWord fn f).map (·.next w)
    else (({ s with inRun := false, stopOff := s.pos } : Scan σ).sweepWord w coveredSeq f).map (·.next w)
  else (s.sweepWord w coveredSeq f).map (·.next w)

def Scan.startWord (coveredSeq pos : Nat) (st : σ) : Scan σ := { Scan.start coveredSeq pos st with expected := (coveredSeq + 1) % 2 ^ 64 }

def Wal.walkWord (w : Wal) (coveredSeq : Nat) (fn : WalReplayFn σ) : Nat → Option Chunk → Scan σ → Except Rc (Scan σ) :=
  w.walkBy fun s f => s.slotWord w coveredSeq fn f

-- Where no sum of the next slots reaches the end of a word.
structure Scan.Low (s : Scan σ) (w : Wal) (slots : Nat) : Prop where
  ring : w.ringStart + 128 ≤ w.ringEnd ∧ w.ringStart % 128 = 0 ∧ w.ringEnd % 128 = 0
  place : s.pos + 128 ≤ w.ringEnd ∧ s.pos % 128 = 0
  stop : s.stopOff ≤ w.ringEnd
  zone : w.ringEnd + w.bufSize < 2 ^ 64
  behind : s.tStop ≤ s.expected
  numbers : s.expected + slots + w.bufSize / kWalFrameSize < 2 ^ 64

theorem low_sweep_word (s : Scan σ) (w : Wal) (coveredSeq slots : Nat) (f : WalFrame) (low : s.Low w slots) :
    s.sweepWord w coveredSeq f = s.sweep w coveredSeq f := by
  have stop := low.stop
  have zone := low.zone
  have behind := low.behind
  have numbers := low.numbers
  have floor : blockFloor s.stopOff ≤ s.stopOff := Nat.div_mul_le_self _ _
  unfold Scan.sweepWord Scan.sweep zoneEnd
  rw [Nat.mod_eq_of_lt (show blockFloor s.stopOff + w.bufSize < 2 ^ 64 by omega),
    Nat.mod_eq_of_lt (show s.tStop + w.bufSize / kWalFrameSize < 2 ^ 64 by omega)]

-- What one slot changes of the fields the sums are made of.
theorem sweep_keeps (s next : Scan σ) (w : Wal) (coveredSeq : Nat) (f : WalFrame) (done : s.sweep w coveredSeq f = .ok next) :
    ∃ fragments least most, next = { s with fragments := fragments, fragMinSeq := least, fragMaxSeq := most } := by
  unfold Scan.sweep at done
  dsimp only at done
  split at done
  · split at done
    · cases done
    · cases done
      split <;> split <;> exact ⟨_, _, _, rfl⟩
  · cases done
    exact ⟨_, _, _, rfl⟩

theorem deliver_keeps (s next : Scan σ) (fn : WalReplayFn σ) (f : WalFrame) (done : s.deliver fn f = .ok next) :
    ∃ st crossed last, fn s.st (decodeEntry f) f.seq.toNat = .ok st ∧ next = { s with
      replayed := s.replayed + 1, anchorOff := s.pos, anchorSeq := f.seq.toNat, hasAnchor := true, tStop := f.seq.toNat,
      expected := s.expected + 1, blocksCrossed := crossed, prevBlock := last, st := st } := by
  unfold Scan.deliver at done
  cases given : fn s.st (decodeEntry f) f.seq.toNat with
  | error rc =>
      rw [given] at done
      cases done
  | ok st =>
      rw [given] at done
      cases done
      split <;> exact ⟨st, _, _, rfl, rfl⟩

theorem low_next (s : Scan σ) (w : Wal) (slots : Nat) (low : s.Low w slots) : (s.next w).Low w slots := by
  have ring := low.ring
  have place := low.place
  refine ⟨ring, ?_, low.stop, low.zone, low.behind, low.numbers⟩
  unfold Scan.next kWalFrameSize
  dsimp only
  split <;> omega

theorem low_slot_word (s : Scan σ) (w : Wal) (coveredSeq slots : Nat) (fn : WalReplayFn σ) (f : WalFrame) (low : s.Low w (slots + 1)) :
    s.slotWord w coveredSeq fn f = s.slot w coveredSeq fn f ∧
      ∀ next, s.slot w coveredSeq fn f = .ok next → next.Low w slots := by
  have numbers := low.numbers
  have behind := low.behind
  have swept (s : Scan σ) (low : s.Low w (slots + 1)) (next : Scan σ)
      (done : (s.sweep w coveredSeq f).map (·.next w) = .ok next) : next.Low w slots := by
    cases sweep : s.sweep w coveredSeq f with
    | error rc =>
        rw [sweep] at done
        cases done
    | ok after =>
        rw [sweep] at done
        cases done
        obtain ⟨_, _, _, rfl⟩ := sweep_keeps s after w coveredSeq f sweep
        have numbers := low.numbers
        exact low_next _ w slots ⟨low.ring, low.place, low.stop, low.zone, low.behind, by simp only; omega⟩
  unfold Scan.slotWord Scan.slot
  by_cases inRun : s.inRun = true
  · rw [if_pos inRun, if_pos inRun]
    by_cases expected : verifyFrame f = true ∧ f.seq.toNat = s.expected
    · rw [if_pos expected, if_pos expected, Scan.deliverWord]
      cases delivered : s.deliver fn f with
      | error rc => exact ⟨rfl, fun next done => by cases done⟩
      | ok after =>
          obtain ⟨st, crossed, last, _, rfl⟩ := deliver_keeps s after fn f delivered
          refine ⟨?_, ?_⟩
          · have further : s.expected + 1 < 2 ^ 64 := by
              rw [kWalFrameSize] at numbers
              omega
            simp only [Except.map, Nat.mod_eq_of_lt further]
          · intro next done
            cases done
            exact low_next _ w slots ⟨low.ring, low.place, low.stop, low.zone, by simp only; omega, by simp only; omega⟩
    · have stopped : ({ s with inRun := false, stopOff := s.pos } : Scan σ).Low w (slots + 1) :=
        ⟨low.ring, low.place, by have place := low.place; simp only; omega, low.zone, behind, numbers⟩
      rw [if_neg expected, if_neg expected, low_sweep_word _ w coveredSeq _ f stopped]
      exact ⟨rfl, swept _ stopped⟩
  · rw [if_neg inRun, if_neg inRun, low_sweep_word s w coveredSeq _ f low]
    exact ⟨rfl, swept s low⟩

theorem low_walk_word (w : Wal) (coveredSeq : Nat) (fn : WalReplayFn σ) (slots : Nat) : ∀ (chunk : Option Chunk) (s : Scan σ),
    s.Low w slots → w.walkWord coveredSeq fn slots chunk s = w.walk coveredSeq fn slots chunk s := by
  unfold Wal.walkWord
  induction slots with
  | zero =>
      intro chunk s _
      rfl
  | succ slots ih =>
      intro chunk s low
      rw [Wal.walkBy, Wal.walk]
      cases w.fetch chunk s.pos with
      | error rc => rfl
      | ok c =>
          obtain ⟨same, kept⟩ := low_slot_word s w coveredSeq slots fn (frameIn c.bytes (s.pos - c.off)) low
          dsimp only
          rw [same]
          cases step : s.slot w coveredSeq fn (frameIn c.bytes (s.pos - c.off)) with
          | error rc => rfl
          | ok next => exact ih (some c) next (kept next step)

end Words

end Cabe
