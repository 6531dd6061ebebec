import Cabe.WalCallback
import Cabe.WalGenerations

set_option autoImplicit false

namespace Cabe

open Storage

-- What the rest of the log relies on once a configuration has been accepted.
-- WindowAt computes its distance in words; distance says that nothing is lost
-- there when the ring is empty.
structure GeometrySound (opts : Options) (sizeBytes : Nat) (w : Wal) : Prop where
  aligned : w.bufSize % kWalBlockSize = 0
  rounded : max kWalBlockSize opts.walBufferSize ≤ w.bufSize
  inside : w.ringEnd ≤ sizeBytes
  room : max (2 * opts.snapshotThresholdBytes) (w.bufSize + kWalBlockSize) ≤ w.ringEnd - w.ringStart
  distance : ∀ pos, w.ringStart ≤ pos → pos < w.ringEnd →
    ((pos + (w.ringEnd - w.ringStart)) % 2 ^ 64 + 2 ^ 64 - pos) % 2 ^ 64 = w.ringEnd - w.ringStart
  window : ∀ pos, w.ringStart ≤ pos → pos < w.ringEnd → 0 < ({ w with headOff := pos } : Wal).windowAt pos
  census : ∀ (dev : RawDevice) (coveredSeq : Nat), dev.isOpen = true → dev.sizeBytes = sizeBytes →
    (∀ k, dev.unreadable k = false) → ({ w with dev := dev } : Wal).censusScan coveredSeq =
      .ok (slotCensus dev.medium.cur coveredSeq (List.range ((w.ringEnd - w.ringStart) / kWalFrameSize)) .empty)
  censusEnds : ∀ (dev : RawDevice) (coveredSeq : Nat), ({ w with dev := dev } : Wal).censusScan coveredSeq ≠ .error Err.kNeverReturns
  recoverEnds : ∀ (σ : Type) (dev : RawDevice) (coveredSeq : Nat) (fn : WalReplayFn σ) (st : σ),
    (∀ st e seq rc, fn st e seq = .error rc → rc < 0) →
      (({ w with dev := dev } : Wal).recover coveredSeq fn st).rc ≠ Err.kNeverReturns

theorem round_up_word (size : Nat) (fits : size ≤ 2 ^ 64 - 8192) :
    max 4096 size ≤ roundUpBufferSize size 4096 ∧ roundUpBufferSize size 4096 + 4096 < 2 ^ 64 := by
  obtain ⟨large, block, _⟩ := round_up_bounds size (by omega)
  refine ⟨Nat.max_le.mpr ⟨block, large⟩, ?_⟩
  unfold roundUpBufferSize
  split <;> omega

theorem open_wal_threshold (dev : RawDevice) (opts : Options) (w : Wal)
    (done : (Wal.unopened dev).openWal opts = (Err.kSuccess, w)) :
    min (opts.snapshotThresholdBytes * 2) (2 ^ 64 - 1) ≤ walRingSize dev.sizeBytes := by
  have closed := (open_wal_success dev opts w done).closed
  unfold Wal.openWal RawDevice.openDevice at done
  simp only [Wal.unopened, closed, Bool.false_eq_true, if_false, ne_eq, not_true_eq_false] at done
  split at done
  · simp [Err.kDeviceTooSmall, Err.kSuccess] at done
  · rename_i enough
    exact Nat.le_trans (Nat.le_max_left _ _) (Nat.le_of_not_lt enough)

theorem empty_window_pos (w : Wal) (pos : Nat) (buffer : 0 < w.bufSize) (room : w.bufSize + kWalBlockSize ≤ w.ringEnd - w.ringStart)
    (below : pos < w.ringEnd) : 0 < ({ w with headOff := pos } : Wal).windowAt pos := by
  have live : (pos + (w.ringEnd - w.ringStart) - pos) % (w.ringEnd - w.ringStart) = 0 := by
    rw [Nat.add_sub_cancel_left, Nat.mod_self]
  unfold Wal.windowAt
  simp only [live]
  rw [if_neg (by omega)]
  omega

theorem census_ends (w : Wal) (coveredSeq : Nat) (pos : 0 < w.bufSize) : w.censusScan coveredSeq ≠ .error Err.kNeverReturns := by
  intro endless
  have negative := census_from_refuses w coveredSeq pos _ _ _ endless
  exact absurd negative (by decide)

theorem recover_ends {σ : Type} (w : Wal) (coveredSeq : Nat) (fn : WalReplayFn σ) (st : σ) (pos : 0 < w.bufSize)
    (refuses : ∀ st e seq rc, fn st e seq = .error rc → rc < 0) : (w.recover coveredSeq fn st).rc ≠ Err.kNeverReturns := by
  intro endless
  rcases recover_returns w coveredSeq fn st pos refuses with rc | rc
  · exact absurd (endless.symm.trans rc) (by decide)
  · rw [endless] at rc
    exact absurd rc (by decide)

theorem sound_geometry (opts : Options) (dev : RawDevice) (w : Wal) (sized : dev.sizeBytes < 2 ^ 64)
    (done : (Wal.unopened dev).openWal opts = (Err.kSuccess, w)) (fits : opts.walBufferSize ≤ 2 ^ 64 - 8192) :
    GeometrySound opts dev.sizeBytes w := by
  have opened := open_wal_success dev opts w done
  have threshold := open_wal_threshold dev opts w done
  have enough := opened.enough
  obtain ⟨large, word⟩ := round_up_word opts.walBufferSize fits
  have whole := ring_size_whole dev.sizeBytes
  rw [← kWalBlockSize, ← opened.bufSize] at large word
  have pos : 0 < w.bufSize := by
    rw [kWalBlockSize] at large
    omega
  rw [Nat.mod_eq_of_lt (by rw [kWalBlockSize] at *; omega)] at enough
  have inside := ring_size_fits dev.sizeBytes (by omega)
  have size : w.ringEnd - w.ringStart = walRingSize dev.sizeBytes := by
    rw [opened.ringEnd, opened.ringStart]
    omega
  have aligned : w.bufSize % kWalBlockSize = 0 := by
    rw [opened.bufSize]
    exact round_up_aligned opts.walBufferSize
  refine ⟨aligned, large, by rw [opened.ringEnd]; exact inside, ?_, ?_, ?_, ?_, ?_, ?_⟩
  · rw [size]
    omega
  · intro at_ lower upper
    rw [opened.ringStart] at lower
    rw [size]
    rw [opened.ringEnd] at upper
    omega
  · intro at_ _ upper
    exact empty_window_pos w at_ pos (by rw [size]; exact enough) upper
  · intro dev' coveredSeq isOpen same readable
    rw [kWalBlockSize] at aligned enough
    have ready : Readable ⟨walRingSize dev.sizeBytes / 4096, by omega⟩ (w.bufSize / 4096) { w with dev := dev' } := by
      have ring : 4096 * (walRingSize dev.sizeBytes / 4096) = walRingSize dev.sizeBytes := by omega
      refine ⟨by omega, isOpen, readable, ?_, (by omega : w.bufSize = 4096 * (w.bufSize / 4096)), opened.ringStart, ?_⟩
      · rw [Ring.bytes, ring]
        show 8192 + walRingSize dev.sizeBytes ≤ dev'.sizeBytes
        omega
      · rw [Ring.bytes, ring]
        exact opened.ringEnd
    rw [census_scan_slots _ _ _ ready, Ring.slots, size, kWalFrameSize]
    have slots : 32 * (walRingSize dev.sizeBytes / 4096) = walRingSize dev.sizeBytes / 128 := by omega
    rw [slots]
  · exact fun dev' coveredSeq => census_ends { w with dev := dev' } coveredSeq pos
  · exact fun σ dev' coveredSeq fn st refuses => recover_ends { w with dev := dev' } coveredSeq fn st pos refuses

-- A configuration Open accepts is sound exactly when rounding its buffer up and
-- adding one block to it stay inside a word.
theorem geometry_sound_iff (opts : Options) (dev : RawDevice) (w : Wal) (sized : dev.sizeBytes < 2 ^ 64)
    (done : (Wal.unopened dev).openWal opts = (Err.kSuccess, w)) :
    GeometrySound opts dev.sizeBytes w ↔ opts.walBufferSize ≤ 2 ^ 64 - 8192 := by
  constructor
  · intro sound
    have aligned := sound.aligned
    have rounded := sound.rounded
    have inside := sound.inside
    have room := sound.room
    rw [kWalBlockSize] at aligned room rounded
    omega
  · exact sound_geometry opts dev w sized done

-- The largest size a word holds is rounded up to a buffer of no bytes.
theorem wrapped_geometry_accepted : ∃ w, (Wal.unopened (blankDevice 2)).openWal { plainOptions true 1 with walBufferSize := 2 ^ 64 - 1 } =
    (Err.kSuccess, w) ∧ w.bufSize = 0 ∧
      ¬ GeometrySound { plainOptions true 1 with walBufferSize := 2 ^ 64 - 1 } (blankDevice 2).sizeBytes w := by
  obtain ⟨w, opened⟩ : ∃ w, (Wal.unopened (blankDevice 2)).openWal { plainOptions true 1 with walBufferSize := 2 ^ 64 - 1 } =
    (Err.kSuccess, w) := ⟨_, rfl⟩
  have empty : w.bufSize = 0 := (open_wal_success _ _ w opened).bufSize.trans (by decide)
  refine ⟨w, opened, empty, ?_⟩
  intro sound
  have rounded := Nat.le_trans (Nat.le_max_left _ _) sound.rounded
  rw [empty] at rounded
  exact absurd rounded (by decide)

theorem geometry_sound_iff_blank : GeometrySound (plainOptions true 1) (blankDevice 2).sizeBytes (blankWal 2 1) :=
  (geometry_sound_iff (plainOptions true 1) (blankDevice 2) (blankWal 2 1) (by decide) rfl).mpr (by decide)

end Cabe
