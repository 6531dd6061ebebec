import Cabe.WalGeometry

set_option autoImplicit false

namespace Cabe

open Storage

def slotFrame (img : Image) (p : Nat) : WalFrame := .ofBytes (slotBytes img p)

-- A recovering log: the ring it will read and a device that answers every read.
structure Readable (g : Ring) (bufBlocks : Nat) (w : Wal) : Prop where
  bufPos : 0 < bufBlocks
  opened : w.dev.isOpen = true
  readable : ∀ k, w.dev.unreadable k = false
  sized : 8192 + g.bytes ≤ w.dev.sizeBytes
  bufSize : w.bufSize = 4096 * bufBlocks
  ringStart : w.ringStart = 8192
  ringEnd : w.ringEnd = 8192 + g.bytes

theorem readable_read (g : Ring) (bufBlocks : Nat) (w : Wal) (ready : Readable g bufBlocks w) (off len : Nat)
    (fits : off + len ≤ 8192 + g.bytes) : w.dev.readAt off len = some (read w.dev.medium.cur off len) :=
  read_at_readable w.dev off len ready.opened ready.readable (Nat.le_trans fits ready.sized)

-- The census of single slots, in the order of their offsets.
def slotCensus (img : Image) (coveredSeq : Nat) (slots : List Nat) (c : RecoverCensus) : RecoverCensus :=
  slots.foldl (fun c p => c.note coveredSeq (8192 + 128 * p) (slotFrame img p)) c

theorem slot_census_append (img : Image) (coveredSeq : Nat) (a b : List Nat) (c : RecoverCensus) :
    slotCensus img coveredSeq (a ++ b) c = slotCensus img coveredSeq b (slotCensus img coveredSeq a c) := by
  simp [slotCensus]

theorem frame_in_read (img : Image) (off len at_ : Nat) (fits : at_ + 128 ≤ len) :
    frameIn (read img off len) at_ = .ofBytes (read img (off + at_) 128) := by
  rw [frameIn, kWalFrameSize, slice_read _ _ _ _ _ fits]

theorem census_chunk_slots (img : Image) (coveredSeq first count : Nat) (c : RecoverCensus) :
    censusChunk coveredSeq (8192 + 128 * first) (read img (8192 + 128 * first) (128 * count)) c =
      slotCensus img coveredSeq (List.range' first count) c := by
  have frames : (read img (8192 + 128 * first) (128 * count)).length / kWalFrameSize = count := by
    simp [kWalFrameSize]
  unfold censusChunk slotCensus
  rw [frames, List.range'_eq_map_range, List.foldl_map]
  apply List.foldl_ext
  intro acc i member
  have bound : i < count := List.mem_range.mp member
  have off : 8192 + 128 * first + i * kWalFrameSize = 8192 + 128 * (first + i) := by
    unfold kWalFrameSize
    omega
  rw [frame_in_read _ _ _ _ (by unfold kWalFrameSize; omega), off, slotFrame, slotBytes]

theorem census_from_slots (g : Ring) (bufBlocks : Nat) (w : Wal) (ready : Readable g bufBlocks w) (coveredSeq : Nat) :
    ∀ rest b c, b + rest = g.blocks →
      w.censusFrom coveredSeq (8192 + 4096 * b) c =
        .ok (slotCensus w.dev.medium.cur coveredSeq (List.range' (32 * b) (32 * rest)) c) := by
  have bufPos := ready.bufPos
  intro rest
  induction rest using Nat.strongRecOn with
  | ind rest ih =>
      intro b c split
      have size : g.bytes = 4096 * g.blocks := rfl
      have ending := ready.ringEnd
      rw [Wal.censusFrom]
      by_cases more : 8192 + 4096 * b < w.ringEnd
      · have len : min w.bufSize (w.ringEnd - (8192 + 4096 * b)) = 128 * (32 * min bufBlocks rest) := by
          rw [ready.bufSize, ending]
          omega
        have fits : 8192 + 4096 * b + 128 * (32 * min bufBlocks rest) ≤ 8192 + g.bytes := by omega
        have at_ : 8192 + 4096 * b = 8192 + 128 * (32 * b) := by omega
        have next : 8192 + 4096 * b + 128 * (32 * min bufBlocks rest) = 8192 + 4096 * (b + min bufBlocks rest) := by omega
        have chunk := census_chunk_slots w.dev.medium.cur coveredSeq (32 * b) (32 * min bufBlocks rest) c
        rw [← at_] at chunk
        simp only [if_pos more, len, readable_read g bufBlocks w ready _ _ fits, chunk]
        rw [if_pos (by omega), next, ih (rest - min bufBlocks rest) (by omega) _ _ (by omega), ← slot_census_append,
          show 32 * (b + min bufBlocks rest) = 32 * b + 32 * min bufBlocks rest by omega, List.range'_append_1,
          show 32 * min bufBlocks rest + 32 * (rest - min bufBlocks rest) = 32 * rest by omega]
      · rw [if_neg more]
        have none_ : rest = 0 := by omega
        simp [none_, slotCensus]

theorem census_scan_slots (g : Ring) (bufBlocks : Nat) (w : Wal) (ready : Readable g bufBlocks w) (coveredSeq : Nat) :
    w.censusScan coveredSeq = .ok (slotCensus w.dev.medium.cur coveredSeq (List.range g.slots) .empty) := by
  have whole := census_from_slots g bufBlocks w ready coveredSeq g.blocks 0 .empty (by omega)
  rw [Wal.censusScan, ready.ringStart]
  simpa [Ring.slots, List.range_eq_range'] using whole

-- The walk for any treatment of a slot, and the same without its buffer: each
-- slot is read from the ring by itself.
def Wal.walkBy {σ : Type} (w : Wal) (step : Scan σ → WalFrame → Except Rc (Scan σ)) : Nat → Option Chunk → Scan σ → Except Rc (Scan σ)
  | 0, _, s => .ok s
  | slots + 1, chunk, s =>
      match w.fetch chunk s.pos with
      | .error rc => .error rc
      | .ok c =>
          match step s (frameIn c.bytes (s.pos - c.off)) with
          | .error rc => .error rc
          | .ok next => w.walkBy step slots (some c) next

def slotWalkBy {σ : Type} (img : Image) (step : Scan σ → WalFrame → Except Rc (Scan σ)) : Nat → Scan σ → Except Rc (Scan σ)
  | 0, s => .ok s
  | slots + 1, s =>
      match step s (.ofBytes (read img s.pos 128)) with
      | .error rc => .error rc
      | .ok next => slotWalkBy img step slots next

def slotWalk {σ : Type} (w : Wal) (img : Image) (coveredSeq : Nat) (fn : WalReplayFn σ) : Nat → Scan σ → Except Rc (Scan σ)
  | 0, s => .ok s
  | slots + 1, s =>
      match s.slot w coveredSeq fn (.ofBytes (read img s.pos 128)) with
      | .error rc => .error rc
      | .ok next => slotWalk w img coveredSeq fn slots next

theorem sweep_pos {σ : Type} (s next : Scan σ) (w : Wal) (coveredSeq : Nat) (f : WalFrame)
    (done : s.sweep w coveredSeq f = .ok next) : next.pos = s.pos := by
  unfold Scan.sweep at done
  dsimp only at done
  split at done
  · split at done
    · cases done
    · cases done
      split <;> split <;> rfl
  · cases done
    rfl

theorem deliver_pos {σ : Type} (s next : Scan σ) (fn : WalReplayFn σ) (f : WalFrame) (done : s.deliver fn f = .ok next) :
    next.pos = s.pos := by
  unfold Scan.deliver at done
  split at done
  · cases done
  · cases done
    dsimp only
    split <;> rfl

def nextPos (w : Wal) (pos : Nat) : Nat := if pos + kWalFrameSize = w.ringEnd then w.ringStart else pos + kWalFrameSize

theorem map_next_pos {σ : Type} (r : Except Rc (Scan σ)) (w : Wal) (pos : Nat) (next : Scan σ)
    (same : ∀ s, r = .ok s → s.pos = pos) (done : r.map (·.next w) = .ok next) : next.pos = nextPos w pos := by
  cases r with
  | error rc => cases done
  | ok s =>
      have here := same s rfl
      cases done
      simp only [Scan.next, nextPos, here]

theorem slot_pos {σ : Type} (s next : Scan σ) (w : Wal) (coveredSeq : Nat) (fn : WalReplayFn σ) (f : WalFrame)
    (done : s.slot w coveredSeq fn f = .ok next) : next.pos = nextPos w s.pos := by
  unfold Scan.slot at done
  split at done
  · split at done
    · refine map_next_pos _ w s.pos next ?_ done
      exact fun s' ok => deliver_pos s s' fn f ok
    · refine map_next_pos _ w s.pos next ?_ done
      intro s' ok
      have kept := sweep_pos _ s' w coveredSeq f ok
      exact kept
  · refine map_next_pos _ w s.pos next ?_ done
    exact fun s' ok => sweep_pos s s' w coveredSeq f ok

theorem fetch_read (g : Ring) (bufBlocks : Nat) (w : Wal) (ready : Readable g bufBlocks w) (chunk : Option Chunk) (pos : Nat)
    (high : pos + 128 ≤ 8192 + g.bytes) (aligned : pos % 128 = 0)
    (cached : ∀ c, chunk = some c → c.bytes = read w.dev.medium.cur c.off c.bytes.length) :
    ∃ c, w.fetch chunk pos = .ok c ∧ c.off ≤ pos ∧ pos + 128 ≤ c.off + c.bytes.length ∧
      c.bytes = read w.dev.medium.cur c.off c.bytes.length := by
  have bufPos := ready.bufPos
  have size : g.bytes = 4096 * g.blocks := rfl
  have fresh : ∃ c, w.readChunk pos = .ok c ∧ c.off ≤ pos ∧ pos + 128 ≤ c.off + c.bytes.length ∧
      c.bytes = read w.dev.medium.cur c.off c.bytes.length := by
    have floor : blockFloor pos = pos / 4096 * 4096 := rfl
    have fits : blockFloor pos + min w.bufSize (w.ringEnd - blockFloor pos) ≤ 8192 + g.bytes := by
      rw [ready.ringEnd]
      omega
    refine ⟨⟨blockFloor pos, read w.dev.medium.cur (blockFloor pos) (min w.bufSize (w.ringEnd - blockFloor pos))⟩, ?_, ?_, ?_, ?_⟩
    · simp only [Wal.readChunk, readable_read g bufBlocks w ready _ _ fits]
    · show blockFloor pos ≤ pos
      omega
    · simp only [read_length, ready.bufSize, ready.ringEnd]
      omega
    · simp
  cases chunk with
  | none => exact fresh
  | some c =>
      have frame : kWalFrameSize = 128 := rfl
      simp only [Wal.fetch]
      by_cases away : pos < c.off ∨ pos + kWalFrameSize > c.off + c.bytes.length
      · rw [if_pos away]
        exact fresh
      · rw [if_neg away]
        exact ⟨c, rfl, by omega, by omega, cached c rfl⟩

theorem walk_by_slots {σ : Type} (g : Ring) (bufBlocks : Nat) (w : Wal) (ready : Readable g bufBlocks w)
    (step : Scan σ → WalFrame → Except Rc (Scan σ)) (moves : ∀ s next f, step s f = .ok next → next.pos = nextPos w s.pos)
    (slots : Nat) (chunk : Option Chunk) (s : Scan σ) (low : 8192 ≤ s.pos) (high : s.pos + 128 ≤ 8192 + g.bytes) (aligned : s.pos % 128 = 0)
    (cached : ∀ c, chunk = some c → c.bytes = read w.dev.medium.cur c.off c.bytes.length) :
    w.walkBy step slots chunk s = slotWalkBy w.dev.medium.cur step slots s := by
  induction slots generalizing chunk s with
  | zero => rfl
  | succ slots ih =>
      obtain ⟨c, fetched, below, above, bytes⟩ := fetch_read g bufBlocks w ready chunk s.pos high aligned cached
      have frame : frameIn c.bytes (s.pos - c.off) = .ofBytes (read w.dev.medium.cur s.pos 128) := by
        rw [bytes, frame_in_read _ _ _ _ (by omega), show c.off + (s.pos - c.off) = s.pos by omega]
      simp only [Wal.walkBy, slotWalkBy, fetched, frame]
      cases taken : step s (.ofBytes (read w.dev.medium.cur s.pos 128)) with
      | error rc => rfl
      | ok next =>
          have moved := moves s next _ taken
          unfold nextPos kWalFrameSize at moved
          rw [ready.ringEnd, ready.ringStart] at moved
          have size : g.bytes = 4096 * g.blocks := rfl
          have room := g.room
          refine ih (some c) next ?_ ?_ ?_ (fun c' same => by cases same; exact bytes)
          all_goals
            rw [moved]
            split <;> omega

theorem walk_walk_by {σ : Type} (w : Wal) (coveredSeq : Nat) (fn : WalReplayFn σ) (slots : Nat) (chunk : Option Chunk) (s : Scan σ) :
    w.walk coveredSeq fn slots chunk s = w.walkBy (fun s f => s.slot w coveredSeq fn f) slots chunk s := by
  induction slots generalizing chunk s with
  | zero => rfl
  | succ slots ih =>
      rw [Wal.walk, Wal.walkBy]
      cases w.fetch chunk s.pos with
      | error rc => rfl
      | ok c =>
          simp only
          cases s.slot w coveredSeq fn (frameIn c.bytes (s.pos - c.off)) with
          | error rc => rfl
          | ok next => exact ih (some c) next

theorem slot_walk_walk_by {σ : Type} (w : Wal) (img : Image) (coveredSeq : Nat) (fn : WalReplayFn σ) (slots : Nat) (s : Scan σ) :
    slotWalk w img coveredSeq fn slots s = slotWalkBy img (fun s f => s.slot w coveredSeq fn f) slots s := by
  induction slots generalizing s with
  | zero => rfl
  | succ slots ih => simp only [slotWalk, slotWalkBy, ih]

theorem walk_slots {σ : Type} (g : Ring) (bufBlocks : Nat) (w : Wal) (ready : Readable g bufBlocks w) (coveredSeq : Nat)
    (fn : WalReplayFn σ) (slots : Nat) (chunk : Option Chunk) (s : Scan σ)
    (low : 8192 ≤ s.pos) (high : s.pos + 128 ≤ 8192 + g.bytes) (aligned : s.pos % 128 = 0)
    (cached : ∀ c, chunk = some c → c.bytes = read w.dev.medium.cur c.off c.bytes.length) :
    w.walk coveredSeq fn slots chunk s = slotWalk w w.dev.medium.cur coveredSeq fn slots s := by
  rw [walk_walk_by, slot_walk_walk_by]
  exact walk_by_slots g bufBlocks w ready _ (fun s next f => slot_pos s next w coveredSeq fn f) slots chunk s low high aligned cached

end Cabe
