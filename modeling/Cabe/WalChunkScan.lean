import Cabe.WalConfig
import Cabe.WalWords

set_option autoImplicit false

namespace Cabe

open Storage

section Words

variable {σ : Type}

theorem slot_word_pos (s next : Scan σ) (w : Wal) (coveredSeq : Nat) (fn : WalReplayFn σ) (f : WalFrame)
    (done : s.slotWord w coveredSeq fn f = .ok next) : next.pos = nextPos w s.pos := by
  have swept (s : Scan σ) (after : Scan σ) (ok : s.sweepWord w coveredSeq f = .ok after) : after.pos = s.pos := by
    unfold Scan.sweepWord at ok
    dsimp only at ok
    split at ok
    · split at ok
      · cases ok
      · cases ok
        split <;> split <;> rfl
    · cases ok
      rfl
  unfold Scan.slotWord at done
  split at done
  · split at done
    · refine map_next_pos _ w s.pos next ?_ done
      intro after ok
      unfold Scan.deliverWord at ok
      cases delivered : s.deliver fn f with
      | error rc =>
          rw [delivered] at ok
          cases ok
      | ok before =>
          rw [delivered] at ok
          cases ok
          exact deliver_pos s before fn f delivered
    · exact map_next_pos _ w s.pos next
        (fun after ok => swept ({ s with inRun := false, stopOff := s.pos } : Scan σ) after ok) done
  · exact map_next_pos _ w s.pos next (fun after ok => swept s after ok) done

end Words

-- The slots of one lap, in the order the walk comes to them.
def lapSlots (slots first : Nat) : List Nat := (List.range slots).map fun k => (first + k) % slots

-- The second pass without a buffer: every slot of the list is looked at once,
-- at its own place.
def slotsWalk {σ : Type} (w : Wal) (img : Image) (coveredSeq : Nat) (fn : WalReplayFn σ) : List Nat → Scan σ → Except Rc (Scan σ)
  | [], s => .ok s
  | p :: rest, s =>
      match ({ s with pos := 8192 + 128 * p } : Scan σ).slot w coveredSeq fn (slotFrame img p) with
      | .error rc => .error rc
      | .ok next => slotsWalk w img coveredSeq fn rest next

-- The slots the run delivers: as long as the numbers go on from the covered one.
def runSlots (img : Image) : Nat → List Nat → List Nat
  | _, [] => []
  | expected, p :: rest =>
      if verifyFrame (slotFrame img p) = true ∧ (slotFrame img p).seq.toNat = expected then p :: runSlots img (expected + 1) rest else []

def handOver {σ : Type} (img : Image) (fn : WalReplayFn σ) : List Nat → σ → Except Rc σ
  | [], st => .ok st
  | p :: rest, st =>
      match fn st (decodeEntry (slotFrame img p)) (slotFrame img p).seq.toNat with
      | .error rc => .error rc
      | .ok st => handOver img fn rest st

-- A live frame behind the run that the sweep lets pass.
def LetsPass (w : Wal) (img : Image) (stopOff tStop p : Nat) : Prop :=
  (8192 + 128 * p ≥ stopOff ∧ 8192 + 128 * p < zoneEnd stopOff w.bufSize w.ringEnd) ∧
    (slotFrame img p).seq.toNat > tStop ∧ (slotFrame img p).seq.toNat ≤ tStop + w.bufSize / kWalFrameSize


-- The walk as its result alone tells it: where the run ends and what the sweep
-- asks of everything from there on do not depend on the buffer.
structure Walked {σ : Type} (w : Wal) (img : Image) (coveredSeq : Nat) (lap run : List Nat) (fn : WalReplayFn σ) (tStop replayed : Nat)
    (st : σ) (result : Except Rc (Scan σ)) : Prop where
  aborted : ∀ rc, handOver img fn run st = .error rc → result = .error rc
  passed : ∀ st', handOver img fn run st = .ok st' →
    (∀ stop, lap[run.length]? = some stop → ∀ p ∈ lap.drop run.length, liveSlot img coveredSeq p = true →
      LetsPass w img (8192 + 128 * stop) (tStop + run.length) p) →
    ∃ s, result = .ok s ∧ s.st = st' ∧ s.tStop = tStop + run.length ∧ s.replayed = replayed + run.length ∧
      (s.inRun = true ↔ run.length = lap.length) ∧ ∀ stop, lap[run.length]? = some stop → s.stopOff = 8192 + 128 * stop
  refused : ∀ st', handOver img fn run st = .ok st' →
    (¬ ∀ stop, lap[run.length]? = some stop → ∀ p ∈ lap.drop run.length, liveSlot img coveredSeq p = true →
      LetsPass w img (8192 + 128 * stop) (tStop + run.length) p) → result = .error Err.kWalRecoveryCorrupted

section Walk

variable {σ : Type} (w : Wal) (img : Image) (coveredSeq : Nat) (fn : WalReplayFn σ)

theorem sweep_slot (s : Scan σ) (p : Nat) (here : s.pos = 8192 + 128 * p) :
    ((liveSlot img coveredSeq p = true → LetsPass w img s.stopOff s.tStop p) →
      ∃ fragments least most, s.sweep w coveredSeq (slotFrame img p) =
        .ok { s with fragments := fragments, fragMinSeq := least, fragMaxSeq := most }) ∧
    (liveSlot img coveredSeq p = true → ¬ LetsPass w img s.stopOff s.tStop p →
      s.sweep w coveredSeq (slotFrame img p) = .error Err.kWalRecoveryCorrupted) := by
  cases live : liveSlot img coveredSeq p with
  | false =>
      rw [sweep_dead s w img coveredSeq p live]
      exact ⟨fun _ => ⟨_, _, _, rfl⟩, fun never => by cases never⟩
  | true =>
      obtain ⟨valid, above⟩ := (live_slot_iff img coveredSeq p).mp live
      refine ⟨fun passes => ?_, fun _ stops => ?_⟩
      · obtain ⟨place, number⟩ := passes rfl
        unfold Scan.sweep
        rw [if_pos ⟨valid, above⟩]
        dsimp only
        rw [here, if_neg (not_or.mpr ⟨not_not_intro place, not_not_intro number⟩)]
        split <;> split <;> exact ⟨_, _, _, rfl⟩
      · unfold Scan.sweep
        rw [if_pos ⟨valid, above⟩]
        dsimp only
        rw [here, if_pos]
        exact not_and_or.mp stops

-- Behind the run every live frame has to pass, and nothing else matters.
theorem sweep_slots (rest : List Nat) : ∀ s : Scan σ, s.inRun = false →
    ((∀ p ∈ rest, liveSlot img coveredSeq p = true → LetsPass w img s.stopOff s.tStop p) →
      ∃ next, slotsWalk w img coveredSeq fn rest s = .ok next ∧ next.st = s.st ∧ next.tStop = s.tStop ∧ next.replayed = s.replayed ∧
        next.inRun = false ∧ next.stopOff = s.stopOff) ∧
    ((¬ ∀ p ∈ rest, liveSlot img coveredSeq p = true → LetsPass w img s.stopOff s.tStop p) →
      slotsWalk w img coveredSeq fn rest s = .error Err.kWalRecoveryCorrupted) := by
  induction rest with
  | nil =>
      intro s behind
      exact ⟨fun _ => ⟨s, rfl, rfl, rfl, rfl, behind, rfl⟩, fun some_ => absurd (by simp) some_⟩
  | cons p rest ih =>
      intro s behind
      obtain ⟨passes, stops⟩ := sweep_slot w img coveredSeq ({ s with pos := 8192 + 128 * p } : Scan σ) p rfl
      have unfolded : ({ s with pos := 8192 + 128 * p } : Scan σ).slot w coveredSeq fn (slotFrame img p) =
          (({ s with pos := 8192 + 128 * p } : Scan σ).sweep w coveredSeq (slotFrame img p)).map (·.next w) := by
        unfold Scan.slot
        rw [if_neg (by simp [behind])]
      rw [slotsWalk, unfolded]
      by_cases here : liveSlot img coveredSeq p = true → LetsPass w img s.stopOff s.tStop p
      · obtain ⟨fragments, least, most, swept⟩ := passes here
        rw [swept]
        obtain ⟨later, wrong⟩ := ih (({ s with pos := 8192 + 128 * p, fragments := fragments, fragMinSeq := least, fragMaxSeq := most } :
          Scan σ).next w) behind
        exact ⟨fun all => later fun q member => all q (List.mem_cons_of_mem p member),
          fun some_ => wrong fun rest => some_ (List.forall_mem_cons.mpr ⟨here, rest⟩)⟩
      · obtain ⟨live, outside⟩ := Classical.not_imp.mp here
        rw [stops live outside]
        exact ⟨fun all => absurd (all p (by simp)) here, fun _ => rfl⟩

theorem deliver_error (s : Scan σ) (f : WalFrame) (rc : Rc) (failed : s.deliver fn f = .error rc) :
    fn s.st (decodeEntry f) f.seq.toNat = .error rc := by
  unfold Scan.deliver at failed
  cases given : fn s.st (decodeEntry f) f.seq.toNat with
  | error rc' =>
      rw [given] at failed
      cases failed
      rfl
  | ok st =>
      rw [given] at failed
      cases failed

theorem walk_run (lap : List Nat) : ∀ s : Scan σ, s.inRun = true → s.expected = s.tStop + 1 →
    Walked w img coveredSeq lap (runSlots img s.expected lap) fn s.tStop s.replayed s.st (slotsWalk w img coveredSeq fn lap s) := by
  induction lap with
  | nil =>
      intro s inRun _
      refine ⟨fun rc given => (by cases given), fun st given _ => ?_, fun st _ some_ => absurd (by simp) some_⟩
      cases given
      exact ⟨s, rfl, rfl, rfl, rfl, by simp [inRun, runSlots], by simp⟩
  | cons p rest ih =>
      intro s inRun expected
      rw [runSlots, slotsWalk]
      by_cases next : verifyFrame (slotFrame img p) = true ∧ (slotFrame img p).seq.toNat = s.expected
      · have unfolded : ({ s with pos := 8192 + 128 * p } : Scan σ).slot w coveredSeq fn (slotFrame img p) =
            (({ s with pos := 8192 + 128 * p } : Scan σ).deliver fn (slotFrame img p)).map (·.next w) := by
          unfold Scan.slot
          rw [if_pos inRun, if_pos next]
        rw [if_pos next, unfolded]
        cases delivered : ({ s with pos := 8192 + 128 * p } : Scan σ).deliver fn (slotFrame img p) with
        | error rc =>
            have given : fn s.st (decodeEntry (slotFrame img p)) (slotFrame img p).seq.toNat = .error rc :=
              deliver_error fn { s with pos := 8192 + 128 * p } _ rc delivered
            have handed : handOver img fn (p :: runSlots img (s.expected + 1) rest) s.st = .error rc := by rw [handOver, given]
            refine ⟨fun rc' aborted => ?_, fun st' ok => ?_, fun st' ok => ?_⟩
            · rw [handed] at aborted
              cases aborted
              rfl
            · rw [handed] at ok
              cases ok
            · rw [handed] at ok
              cases ok
        | ok after =>
            obtain ⟨st, crossed, last, given, moved⟩ := deliver_keeps _ after fn _ delivered
            have number := next.2
            have handed : handOver img fn (p :: runSlots img (s.expected + 1) rest) s.st =
                handOver img fn (runSlots img (s.expected + 1) rest) st := by
              have given' : fn s.st (decodeEntry (slotFrame img p)) (slotFrame img p).seq.toNat = .ok st := given
              rw [handOver, given']
            obtain ⟨t, turned⟩ : ∃ t, t = after.next w := ⟨_, rfl⟩
            have kept : t.inRun = true ∧ t.expected = s.expected + 1 ∧ t.tStop = (slotFrame img p).seq.toNat ∧
                t.replayed = s.replayed + 1 ∧ t.st = st := by
              rw [turned, moved]
              exact ⟨inRun, rfl, rfl, rfl, rfl⟩
            obtain ⟨running, further, stop, count, state⟩ := kept
            have later := ih t running (by rw [further, stop, number])
            rw [further, stop, count, state] at later
            simp only [Except.map, ← turned]
            have shift (n : Nat) : (slotFrame img p).seq.toNat + n = s.tStop + (n + 1) := by omega
            obtain ⟨aborted, passed, refused⟩ := later
            simp only [shift] at passed refused
            refine ⟨fun rc failed => aborted rc (handed ▸ failed), fun st' ok all => ?_, fun st' ok some_ => refused st' (handed ▸ ok) some_⟩
            obtain ⟨s', result, state', stop', count', run, off⟩ := passed st' (handed ▸ ok) all
            refine ⟨s', result, state', stop', ?_, ?_, off⟩
            · rw [count', List.length_cons]
              omega
            · rw [run, List.length_cons, List.length_cons]
              omega
      · have unfolded : ({ s with pos := 8192 + 128 * p } : Scan σ).slot w coveredSeq fn (slotFrame img p) =
            ({ s with pos := 8192 + 128 * p, inRun := false, stopOff := 8192 + 128 * p } : Scan σ).slot w coveredSeq fn (slotFrame img p) := by
          unfold Scan.slot
          rw [if_pos inRun, if_neg next, if_neg (by simp)]
        obtain ⟨passes, stops⟩ := sweep_slots w img coveredSeq fn (p :: rest) ({ s with inRun := false, stopOff := 8192 + 128 * p } : Scan σ) rfl
        rw [slotsWalk] at passes stops
        rw [if_neg next, unfolded]
        refine ⟨fun rc handed => (by cases handed), fun st' handed all => ?_, fun st' handed some_ => ?_⟩
        · cases handed
          obtain ⟨last, ok, state, stop, count, behind, off⟩ := passes (all p rfl)
          refine ⟨last, ok, state, stop, count, by simp [behind], ?_⟩
          intro stop' at_
          cases at_
          exact off
        · apply stops
          intro all
          apply some_
          intro stop at_
          cases at_
          exact all

end Walk

theorem slot_walk_lap {σ : Type} (g : Ring) (bufBlocks : Nat) (w : Wal) (ready : Readable g bufBlocks w) (img : Image) (coveredSeq : Nat)
    (fn : WalReplayFn σ) (count : Nat) : ∀ (v : Nat) (s : Scan σ), s.pos = g.slotOff v →
      slotWalk w img coveredSeq fn count s = slotsWalk w img coveredSeq fn ((List.range' v count).map (· % g.slots)) s := by
  induction count with
  | zero =>
      intro v s _
      rfl
  | succ count ih =>
      intro v s here
      have frame : WalFrame.ofBytes (read img s.pos 128) = slotFrame img (v % g.slots) := by rw [here, frame_at_pos]
      have at_ : ({ s with pos := 8192 + 128 * (v % g.slots) } : Scan σ) = s := by
        have off : 8192 + 128 * (v % g.slots) = s.pos := here.symm
        rw [off]
      rw [List.range'_succ, List.map_cons, slotWalk, slotsWalk, at_, frame]
      cases step : s.slot w coveredSeq fn (slotFrame img (v % g.slots)) with
      | error rc => rfl
      | ok next => exact ih (v + 1) next (by rw [slot_pos s next w coveredSeq fn _ step, here, next_pos_slot g bufBlocks w ready])

-- A larger buffer changes nothing where a smaller one let everything pass.
section Larger

variable {σ : Type} (a b : Wal) (start : a.ringStart = b.ringStart) (ending : a.ringEnd = b.ringEnd) (ordered : a.bufSize ≤ b.bufSize)

include ending ordered

theorem zone_larger (stopOff : Nat) : zoneEnd stopOff a.bufSize a.ringEnd ≤ zoneEnd stopOff b.bufSize b.ringEnd := by
  unfold zoneEnd
  omega

theorem lets_pass_larger (img : Image) (stopOff tStop p : Nat) (passes : LetsPass a img stopOff tStop p) :
    LetsPass b img stopOff tStop p := by
  obtain ⟨⟨from_, before⟩, above, below⟩ := passes
  have zone := zone_larger a b ending ordered stopOff
  have window : a.bufSize / kWalFrameSize ≤ b.bufSize / kWalFrameSize := Nat.div_le_div_right ordered
  exact ⟨⟨from_, Nat.lt_of_lt_of_le before zone⟩, above, Nat.le_trans below (Nat.add_le_add_left window _)⟩

theorem sweep_larger (s next : Scan σ) (coveredSeq : Nat) (f : WalFrame) (done : s.sweep a coveredSeq f = .ok next) :
    s.sweep b coveredSeq f = .ok next := by
  have zone := zone_larger a b ending ordered s.stopOff
  have window : a.bufSize / kWalFrameSize ≤ b.bufSize / kWalFrameSize := Nat.div_le_div_right ordered
  unfold Scan.sweep at done ⊢
  by_cases live : verifyFrame f = true ∧ f.seq.toNat > coveredSeq
  · rw [if_pos live] at done ⊢
    dsimp only at done ⊢
    by_cases stops : ¬ (s.pos ≥ s.stopOff ∧ s.pos < zoneEnd s.stopOff a.bufSize a.ringEnd) ∨
        ¬ (f.seq.toNat > s.tStop ∧ f.seq.toNat ≤ s.tStop + a.bufSize / kWalFrameSize)
    · rw [if_pos stops] at done
      cases done
    · obtain ⟨place, number⟩ := not_or.mp stops
      have place := Decidable.not_not.mp place
      have number := Decidable.not_not.mp number
      rw [if_neg stops] at done
      rw [if_neg (not_or.mpr ⟨not_not_intro ⟨place.1, Nat.lt_of_lt_of_le place.2 zone⟩,
        not_not_intro ⟨number.1, Nat.le_trans number.2 (Nat.add_le_add_left window _)⟩⟩)]
      exact done
  · rw [if_neg live] at done ⊢
    exact done

include start

theorem slot_larger (s next : Scan σ) (coveredSeq : Nat) (fn : WalReplayFn σ) (f : WalFrame) (done : s.slot a coveredSeq fn f = .ok next) :
    s.slot b coveredSeq fn f = .ok next := by
  have turned : (fun s : Scan σ => s.next a) = fun s => s.next b := by
    funext s
    simp only [Scan.next, start, ending]
  have swept (s : Scan σ) (done : (s.sweep a coveredSeq f).map (·.next a) = .ok next) :
      (s.sweep b coveredSeq f).map (·.next b) = .ok next := by
    cases sweep : s.sweep a coveredSeq f with
    | error rc =>
        rw [sweep] at done
        cases done
    | ok after =>
        rw [sweep] at done
        rw [sweep_larger a b ending ordered s after coveredSeq f sweep, ← turned]
        exact done
  unfold Scan.slot at done ⊢
  split at done
  · rename_i inRun
    rw [if_pos inRun]
    split at done
    · rename_i expected
      rw [if_pos expected, ← turned]
      exact done
    · rename_i other
      rw [if_neg other]
      exact swept _ done
  · rename_i behind
    rw [if_neg behind]
    exact swept s done

theorem slots_walk_larger (img : Image) (coveredSeq : Nat) (fn : WalReplayFn σ) (slots : List Nat) : ∀ s next : Scan σ,
    slotsWalk a img coveredSeq fn slots s = .ok next → slotsWalk b img coveredSeq fn slots s = .ok next := by
  induction slots with
  | nil =>
      intro s next done
      exact done
  | cons p rest ih =>
      intro s next done
      rw [slotsWalk] at done ⊢
      cases step : ({ s with pos := 8192 + 128 * p } : Scan σ).slot a coveredSeq fn (slotFrame img p) with
      | error rc =>
          rw [step] at done
          cases done
      | ok after =>
          rw [step] at done
          rw [slot_larger a b start ending ordered _ after coveredSeq fn _ step]
          exact ih after next done

end Larger

-- What opening a ring for recovery gives the two passes.
theorem opened_readable (dev : RawDevice) (opts : Options) (w : Wal) (sized : dev.sizeBytes ≤ 2 ^ 63)
    (readable : ∀ k, dev.unreadable k = false) (opened : (Wal.unopened dev).openWal opts = (Err.kSuccess, w))
    (fits : opts.walBufferSize ≤ 2 ^ 64 - 8192) : ∃ g : Ring, Readable g (w.bufSize / 4096) w ∧ g.bytes = walRingSize dev.sizeBytes ∧
      w.dev.medium = dev.medium ∧ w.ringEnd + w.bufSize < 2 ^ 64 := by
  have just := open_wal_success dev opts w opened
  have sound := sound_geometry opts dev w (by omega) opened fits
  have room := sound.room
  have aligned := sound.aligned
  have rounded := sound.rounded
  have whole := ring_size_whole dev.sizeBytes
  have inside := sound.inside
  have start := just.ringStart
  have ending := just.ringEnd
  rw [kWalBlockSize] at aligned rounded room
  have ring : 4096 * (walRingSize dev.sizeBytes / 4096) = walRingSize dev.sizeBytes := by omega
  refine ⟨⟨walRingSize dev.sizeBytes / 4096, by omega⟩, ⟨by omega, by rw [just.device], ?_, ?_, by omega, start, ?_⟩, ring,
    by rw [just.device], by omega⟩
  · rw [just.device]
    exact readable
  · rw [just.device, Ring.bytes, ring]
    exact ending ▸ inside
  · rw [Ring.bytes, ring]
    exact ending

-- The second pass over a readable ring, slot by slot and as its result.
theorem second_pass {σ : Type} (g : Ring) (bufBlocks : Nat) (w : Wal) (ready : Readable g bufBlocks w) (zone : w.ringEnd + w.bufSize < 2 ^ 64)
    (coveredSeq first : Nat) (inside : first < g.slots) (numbers : coveredSeq + 1 + g.slots + w.bufSize / kWalFrameSize < 2 ^ 64)
    (fn : WalReplayFn σ) (st : σ) :
    w.walkWord coveredSeq fn g.slots none (.startWord coveredSeq (8192 + 128 * first) st) =
        slotsWalk w w.dev.medium.cur coveredSeq fn (lapSlots g.slots first) (.start coveredSeq (8192 + 128 * first) st) ∧
      Walked w w.dev.medium.cur coveredSeq (lapSlots g.slots first) (runSlots w.dev.medium.cur (coveredSeq + 1) (lapSlots g.slots first))
        fn coveredSeq 0 st (w.walkWord coveredSeq fn g.slots none (.startWord coveredSeq (8192 + 128 * first) st)) := by
  have size : g.bytes = 128 * g.slots := by
    rw [Ring.bytes, Ring.slots]
    omega
  have start := ready.ringStart
  have ending := ready.ringEnd
  have here : (Scan.start coveredSeq (8192 + 128 * first) st).pos = g.slotOff first := by
    rw [Ring.slotOff, Nat.mod_eq_of_lt inside]
    rfl
  have begin_ : Scan.startWord coveredSeq (8192 + 128 * first) st = Scan.start coveredSeq (8192 + 128 * first) st := by
    have plain : (coveredSeq + 1) % 2 ^ 64 = coveredSeq + 1 := Nat.mod_eq_of_lt (by
      rw [kWalFrameSize] at numbers
      omega)
    rw [Scan.startWord, plain]
    rfl
  have low : (Scan.start coveredSeq (8192 + 128 * first) st).Low w g.slots := by
    refine ⟨by omega, ?_, Nat.zero_le _, zone, Nat.le_succ _, numbers⟩
    show 8192 + 128 * first + 128 ≤ w.ringEnd ∧ (8192 + 128 * first) % 128 = 0
    omega
  have lap : (List.range' first g.slots).map (· % g.slots) = lapSlots g.slots first := by
    rw [lapSlots, List.range'_eq_map_range, List.map_map]
    rfl
  have slotwise : w.walkWord coveredSeq fn g.slots none (.startWord coveredSeq (8192 + 128 * first) st) =
      slotsWalk w w.dev.medium.cur coveredSeq fn (lapSlots g.slots first) (.start coveredSeq (8192 + 128 * first) st) := by
    rw [begin_, low_walk_word w coveredSeq fn g.slots none _ low, walk_slots g bufBlocks w ready coveredSeq fn g.slots none _
      (Nat.le_add_right _ _) (by show 8192 + 128 * first + 128 ≤ 8192 + g.bytes; omega)
      (by show (8192 + 128 * first) % 128 = 0; omega) (fun c none_ => by cases none_),
      slot_walk_lap g bufBlocks w ready w.dev.medium.cur coveredSeq fn g.slots first _ here, lap]
  refine ⟨slotwise, ?_⟩
  rw [slotwise]
  exact walk_run w w.dev.medium.cur coveredSeq fn (lapSlots g.slots first) (.start coveredSeq (8192 + 128 * first) st) rfl rfl

theorem chunked_scan_exact (dev : RawDevice) (small large : Options) (a b : Wal) (sized : dev.sizeBytes ≤ 2 ^ 63)
    (readable : ∀ k, dev.unreadable k = false) (openedA : (Wal.unopened dev).openWal small = (Err.kSuccess, a))
    (openedB : (Wal.unopened dev).openWal large = (Err.kSuccess, b)) (fitsA : small.walBufferSize ≤ 2 ^ 64 - 8192)
    (fitsB : large.walBufferSize ≤ 2 ^ 64 - 8192) (ordered : a.bufSize ≤ b.bufSize) (coveredSeq slots : Nat)
    (whole : slots = walRingSize dev.sizeBytes / kWalFrameSize)
    (census : RecoverCensus) (plain : census = slotCensus dev.medium.cur coveredSeq (List.range slots) .empty) :
    a.censusScan coveredSeq = .ok census ∧ b.censusScan coveredSeq = .ok census ∧
    (0 < census.liveCount → ∃ first, first < slots ∧ census.minLiveOff = 8192 + 128 * first ∧
      liveSlot dev.medium.cur coveredSeq first = true ∧ (lapSlots slots first).Perm (List.range slots) ∧
      (∀ stopOff tStop p, LetsPass a dev.medium.cur stopOff tStop p → LetsPass b dev.medium.cur stopOff tStop p) ∧
      (coveredSeq + 1 + slots + b.bufSize / kWalFrameSize < 2 ^ 64 → ∀ (σ : Type) (fn : WalReplayFn σ) (st : σ),
        (∀ w ∈ [a, b], w.walkWord coveredSeq fn slots none (.startWord coveredSeq census.minLiveOff st) =
            slotsWalk w dev.medium.cur coveredSeq fn (lapSlots slots first) (.start coveredSeq census.minLiveOff st) ∧
          Walked w dev.medium.cur coveredSeq (lapSlots slots first) (runSlots dev.medium.cur (coveredSeq + 1) (lapSlots slots first))
            fn coveredSeq 0 st (w.walkWord coveredSeq fn slots none (.startWord coveredSeq census.minLiveOff st))) ∧
        ∀ s, a.walkWord coveredSeq fn slots none (.startWord coveredSeq census.minLiveOff st) = .ok s →
          b.walkWord coveredSeq fn slots none (.startWord coveredSeq census.minLiveOff st) = .ok s)) := by
  obtain ⟨g, readyA, bytesA, mediumA, zoneA⟩ := opened_readable dev small a sized readable openedA fitsA
  obtain ⟨h, readyB, bytesB, mediumB, zoneB⟩ := opened_readable dev large b sized readable openedB fitsB
  have same : h = g := by
    have blocks : 4096 * h.blocks = 4096 * g.blocks := bytesB.trans bytesA.symm
    cases g
    cases h
    simp only [Ring.mk.injEq] at blocks ⊢
    omega
  subst same
  have count : h.slots = slots := by
    rw [whole, ← bytesA, Ring.bytes, Ring.slots, kWalFrameSize]
    omega
  have start : a.ringStart = b.ringStart := by rw [readyA.ringStart, readyB.ringStart]
  have ending : a.ringEnd = b.ringEnd := by rw [readyA.ringEnd, readyB.ringEnd]
  have windows : a.bufSize / kWalFrameSize ≤ b.bufSize / kWalFrameSize := Nat.div_le_div_right ordered
  have ok := census_ok h dev.medium.cur coveredSeq
  rw [count, ← plain] at ok
  refine ⟨?_, ?_, ?_⟩
  · rw [census_scan_slots h _ a readyA, mediumA, count, plain]
  · rw [census_scan_slots h _ b readyB, mediumB, count, plain]
  · intro live
    obtain ⟨first, member, liveFirst, _, off⟩ := ok.least live
    have inside : first < slots := List.mem_range.mp member
    refine ⟨first, inside, off, liveFirst, lap_rotation slots first, lets_pass_larger a b ending ordered _, ?_⟩
    intro numbers σ fn st
    have passA := second_pass h _ a readyA zoneA coveredSeq first (count ▸ inside) (by rw [count]; omega) fn st
    have passB := second_pass h _ b readyB zoneB coveredSeq first (count ▸ inside) (by rw [count]; omega) fn st
    rw [mediumA, count, ← off] at passA
    rw [mediumB, count, ← off] at passB
    refine ⟨?_, ?_⟩
    · intro w which
      rcases List.mem_cons.mp which with rfl | second
      · exact passA
      · rw [List.mem_singleton.mp second]
        exact passB
    · intro s done
      rw [passA.1] at done
      rw [passB.1]
      exact slots_walk_larger a b start ending ordered dev.medium.cur coveredSeq fn _ _ s done

-- A covered value so high that a wider window passes the end of a word: the run
-- is one frame long, and one frame behind it is left over.
def gapEntry : WalEntry := ⟨.put, [0x6B], ⟨7⟩, 0, 0⟩

def gapImage (coveredSeq : Nat) : Image :=
  write (write (fun _ => 0) 8192 (encodeFrame gapEntry (coveredSeq + 1)).toBytes) 8448 (encodeFrame gapEntry (coveredSeq + 3)).toBytes

def gapDevice (coveredSeq : Nat) : RawDevice := { blankDevice 3 with medium := .ofImage (gapImage coveredSeq) }

theorem gap_frames (coveredSeq : Nat) : WalFrame.ofBytes (read (gapImage coveredSeq) 8192 128) = encodeFrame gapEntry (coveredSeq + 1) ∧
    WalFrame.ofBytes (read (gapImage coveredSeq) 8448 128) = encodeFrame gapEntry (coveredSeq + 3) ∧
    ∀ pos, (8320 ≤ pos ∧ pos + 128 ≤ 8448 ∨ 8576 ≤ pos) →
      verifyFrame (WalFrame.ofBytes (read (gapImage coveredSeq) pos 128)) = false := by
  have frame (img : Image) (off : Nat) (f : WalFrame) : WalFrame.ofBytes (read (write img off f.toBytes) off 128) = f := by
    rw [read_write_inside _ _ _ _ _ (Nat.le_refl _) (by rw [to_bytes_length]), Nat.sub_self, ← to_bytes_length f, slice_all,
      of_bytes_to_bytes]
  refine ⟨?_, ?_, ?_⟩
  · rw [gapImage, read_write_disjoint _ _ _ _ _ (.inl (by decide)), frame]
  · rw [gapImage, frame]
  · intro pos outside
    rw [gapImage, read_write_disjoint _ _ _ _ _ (by rw [to_bytes_length]; omega),
      read_write_disjoint _ _ _ _ _ (by rw [to_bytes_length]; omega), read_zeros _ _ _ (fun _ _ => rfl)]
    exact verify_zeros

theorem invalid_sweep {σ : Type} (s : Scan σ) (w : Wal) (coveredSeq : Nat) (f : WalFrame) (invalid : verifyFrame f = false) :
    s.sweepWord w coveredSeq f = .ok s := by
  unfold Scan.sweepWord
  rw [if_neg (fun live => by rw [invalid] at live; cases live.1)]

theorem invalid_walk {σ : Type} (w : Wal) (img : Image) (coveredSeq : Nat) (fn : WalReplayFn σ) (slots : Nat) : ∀ s : Scan σ,
    s.inRun = false → s.pos + 128 * slots = w.ringEnd →
    (∀ pos, s.pos ≤ pos → verifyFrame (WalFrame.ofBytes (read img pos 128)) = false) →
    ∃ next, slotWalkBy img (fun s f => s.slotWord w coveredSeq fn f) slots s = .ok next ∧ next.fragments = s.fragments := by
  induction slots with
  | zero =>
      intro s _ _ _
      exact ⟨s, rfl, rfl⟩
  | succ slots ih =>
      intro s behind left invalid
      have step : s.slotWord w coveredSeq fn (.ofBytes (read img s.pos 128)) = .ok (s.next w) := by
        unfold Scan.slotWord
        rw [if_neg (by rw [behind]; exact Bool.noConfusion), invalid_sweep s w coveredSeq _ (invalid s.pos (Nat.le_refl _))]
        rfl
      rw [slotWalkBy, step]
      cases slots with
      | zero => exact ⟨s.next w, rfl, rfl⟩
      | succ slots =>
          have pos : (s.next w).pos = s.pos + 128 := by
            simp only [Scan.next]
            exact if_neg (by rw [kWalFrameSize]; omega)
          obtain ⟨next, done, same⟩ := ih (s.next w) behind (by rw [pos]; omega) (fun at_ further => invalid at_ (by omega))
          exact ⟨next, done, same⟩

theorem gap_walk (w : Wal) (ending : w.ringEnd = 8192 + 128 * 96) (coveredSeq : Nat) (few : coveredSeq + 3 < 2 ^ 64)
    (buffer : 4096 ≤ w.bufSize) (small : w.bufSize ≤ 2 ^ 32) :
    (coveredSeq + 3 ≤ (coveredSeq + 1 + w.bufSize / kWalFrameSize) % 2 ^ 64 →
      ∃ s, slotWalkBy (gapImage coveredSeq) (fun s f => s.slotWord w coveredSeq (fun st _ _ => .ok st) f) 96
        (.startWord coveredSeq 8192 ()) = .ok s ∧ s.fragments = 1) ∧
    ((coveredSeq + 1 + w.bufSize / kWalFrameSize) % 2 ^ 64 < coveredSeq + 3 →
      slotWalkBy (gapImage coveredSeq) (fun s f => s.slotWord w coveredSeq (fun st _ _ => .ok st) f) 96
        (.startWord coveredSeq 8192 ()) = .error Err.kWalRecoveryCorrupted) := by
  obtain ⟨first, third, invalid⟩ := gap_frames coveredSeq
  have number (k : Nat) (bound : k ≤ 3) : (encodeFrame gapEntry (coveredSeq + k)).seq.toNat = coveredSeq + k :=
    encode_seq gapEntry (coveredSeq + k) (by omega)
  have valid (k : Nat) : verifyFrame (encodeFrame gapEntry (coveredSeq + k)) = true := verify_encode gapEntry _ (by decide)
  have turn (pos : Nat) (low : pos ≤ 8448) : (if pos + kWalFrameSize = w.ringEnd then w.ringStart else pos + kWalFrameSize) = pos + 128 := by
    rw [kWalFrameSize, if_neg (by omega)]
  obtain ⟨s1, delivered, at1, expected1, stop1, swept1⟩ : ∃ s1 : Scan Unit,
      (Scan.startWord coveredSeq 8192 ()).slotWord w coveredSeq (fun st _ _ => .ok st) (.ofBytes (read (gapImage coveredSeq) 8192 128)) =
        .ok s1 ∧ s1.pos = 8320 ∧ s1.inRun = true ∧ s1.tStop = coveredSeq + 1 ∧ s1.fragments = 0 := by
    have own : (encodeFrame gapEntry (coveredSeq + 1)).seq.toNat = (coveredSeq + 1) % 2 ^ 64 := by
      rw [number 1 (by decide), Nat.mod_eq_of_lt (by omega)]
    obtain ⟨before, delivered⟩ : ∃ before, (Scan.startWord coveredSeq 8192 ()).deliver (fun st _ _ => .ok st)
        (encodeFrame gapEntry (coveredSeq + 1)) = .ok before := ⟨_, rfl⟩
    obtain ⟨st, crossed, last, _, shape⟩ := deliver_keeps _ before _ _ delivered
    have step : (Scan.startWord coveredSeq 8192 ()).slotWord w coveredSeq (fun st _ _ => .ok st) (encodeFrame gapEntry (coveredSeq + 1)) =
        .ok (({ before with expected := ((Scan.startWord coveredSeq 8192 ()).expected + 1) % 2 ^ 64 } : Scan Unit).next w) := by
      unfold Scan.slotWord
      rw [if_pos (show (Scan.startWord coveredSeq 8192 ()).inRun = true from rfl), if_pos ⟨valid 1, own⟩, Scan.deliverWord, delivered]
      rfl
    rw [first]
    refine ⟨_, step, ?_⟩
    rw [shape]
    exact ⟨turn 8192 (by decide), rfl, number 1 (by decide), rfl⟩
  have stopped : s1.slotWord w coveredSeq (fun st _ _ => .ok st) (.ofBytes (read (gapImage coveredSeq) s1.pos 128)) =
      .ok (({ s1 with inRun := false, stopOff := s1.pos } : Scan Unit).next w) := by
    have dead := invalid s1.pos (by omega)
    unfold Scan.slotWord
    rw [if_pos expected1, if_neg (fun live => by rw [dead] at live; cases live.1), invalid_sweep _ w coveredSeq _ dead]
    rfl
  obtain ⟨s2, done2, at2, behind2, stop2, last2, count2⟩ : ∃ s2 : Scan Unit,
      s1.slotWord w coveredSeq (fun st _ _ => .ok st) (.ofBytes (read (gapImage coveredSeq) s1.pos 128)) = .ok s2 ∧
        s2.pos = 8448 ∧ s2.inRun = false ∧ s2.stopOff = 8320 ∧ s2.tStop = coveredSeq + 1 ∧ s2.fragments = 0 := by
    refine ⟨_, stopped, ?_, rfl, at1, stop1, swept1⟩
    simp only [Scan.next, at1]
    exact turn 8320 (by decide)
  have place : s2.pos ≥ s2.stopOff ∧ s2.pos < min ((blockFloor s2.stopOff + w.bufSize) % 2 ^ 64) w.ringEnd := by
    have floor : blockFloor s2.stopOff = 8192 := by
      rw [stop2]
      decide
    rw [floor, Nat.mod_eq_of_lt (by omega)]
    omega
  have seen : verifyFrame (WalFrame.ofBytes (read (gapImage coveredSeq) s2.pos 128)) = true ∧
      (WalFrame.ofBytes (read (gapImage coveredSeq) s2.pos 128)).seq.toNat = coveredSeq + 3 := by
    rw [at2, third]
    exact ⟨valid 3, number 3 (by decide)⟩
  have live : (WalFrame.ofBytes (read (gapImage coveredSeq) s2.pos 128)).seq.toNat > coveredSeq := by
    rw [seen.2]
    omega
  have walked : slotWalkBy (gapImage coveredSeq) (fun s f => s.slotWord w coveredSeq (fun st _ _ => .ok st) f) 96
      (.startWord coveredSeq 8192 ()) = slotWalkBy (gapImage coveredSeq) (fun s f => s.slotWord w coveredSeq (fun st _ _ => .ok st) f) 94 s2 := by
    rw [slotWalkBy, show (Scan.startWord coveredSeq 8192 ()).pos = 8192 from rfl, delivered]
    dsimp only
    rw [slotWalkBy, done2]
  rw [walked, slotWalkBy]
  have stepped : s2.slotWord w coveredSeq (fun st _ _ => .ok st) (.ofBytes (read (gapImage coveredSeq) s2.pos 128)) =
      (s2.sweepWord w coveredSeq (.ofBytes (read (gapImage coveredSeq) s2.pos 128))).map (·.next w) := by
    unfold Scan.slotWord
    rw [if_neg (by rw [behind2]; exact Bool.noConfusion)]
  refine ⟨?_, ?_⟩
  · intro wide
    have passes : ¬ (¬ (s2.pos ≥ s2.stopOff ∧ s2.pos < min ((blockFloor s2.stopOff + w.bufSize) % 2 ^ 64) w.ringEnd) ∨
        ¬ ((WalFrame.ofBytes (read (gapImage coveredSeq) s2.pos 128)).seq.toNat > s2.tStop ∧
          (WalFrame.ofBytes (read (gapImage coveredSeq) s2.pos 128)).seq.toNat ≤ (s2.tStop + w.bufSize / kWalFrameSize) % 2 ^ 64)) := by
      rw [seen.2, last2]
      exact not_or.mpr ⟨not_not_intro place, not_not_intro ⟨by omega, wide⟩⟩
    obtain ⟨s3, swept, at3, behind3, count3⟩ : ∃ s3 : Scan Unit,
        s2.sweepWord w coveredSeq (.ofBytes (read (gapImage coveredSeq) s2.pos 128)) = .ok s3 ∧ s3.pos = 8448 ∧ s3.inRun = false ∧
          s3.fragments = 1 := by
      unfold Scan.sweepWord
      rw [if_pos ⟨seen.1, live⟩]
      dsimp only
      rw [if_neg passes]
      split <;> split <;> exact ⟨_, rfl, at2, behind2, by simp only [count2]⟩
    have at4 : (s3.next w).pos = 8576 := by
      simp only [Scan.next, at3]
      exact turn 8448 (by decide)
    obtain ⟨next, done, same⟩ := invalid_walk w (gapImage coveredSeq) coveredSeq (fun st _ _ => .ok st) 93 (s3.next w) behind3
      (by rw [at4]; omega) (fun pos further => invalid pos (by omega))
    rw [stepped, swept]
    exact ⟨next, done, same.trans count3⟩
  · intro narrow
    rw [stepped]
    unfold Scan.sweepWord
    rw [if_pos ⟨seen.1, live⟩]
    dsimp only
    rw [if_pos (.inr (by rw [seen.2, last2]; omega))]
    rfl

-- The ring of these frames, opened with a buffer of one block and of two.
structure GapScans (coveredSeq : Nat) (a b : Wal) (census : RecoverCensus) : Prop where
  openedA : (Wal.unopened (gapDevice coveredSeq)).openWal (plainOptions false 1) = (Err.kSuccess, a)
  openedB : (Wal.unopened (gapDevice coveredSeq)).openWal (plainOptions false 2) = (Err.kSuccess, b)
  sizeA : a.bufSize = 4096
  sizeB : b.bufSize = 8192
  slots : census = slotCensus (gapImage coveredSeq) coveredSeq (List.range 96) .empty
  censusA : a.censusScan coveredSeq = .ok census
  censusB : b.censusScan coveredSeq = .ok census
  live : 0 < census.liveCount
  least : census.minLiveOff = 8192
  ending : ∀ w ∈ [a, b], w.ringEnd = 8192 + 128 * 96
  walks : ∀ w ∈ [a, b], w.walkWord coveredSeq (fun st _ _ => .ok st) 96 none (.startWord coveredSeq 8192 ()) =
    slotWalkBy (gapImage coveredSeq) (fun s f => s.slotWord w coveredSeq (fun st _ _ => .ok st) f) 96 (.startWord coveredSeq 8192 ())

theorem gap_opened (coveredSeq bufBlocks : Nat) (pos : 0 < bufBlocks) (room : bufBlocks ≤ 2) : ∃ w,
    (Wal.unopened (gapDevice coveredSeq)).openWal (plainOptions false bufBlocks) = (Err.kSuccess, w) ∧ w.bufSize = 4096 * bufBlocks ∧
    w.ringEnd = 8192 + 128 * 96 ∧
    w.censusScan coveredSeq = .ok (slotCensus (gapImage coveredSeq) coveredSeq (List.range 96) .empty) ∧
    w.walkWord coveredSeq (fun st _ _ => .ok st) 96 none (.startWord coveredSeq 8192 ()) =
      slotWalkBy (gapImage coveredSeq) (fun s f => s.slotWord w coveredSeq (fun st _ _ => .ok st) f) 96 (.startWord coveredSeq 8192 ()) := by
  have size : (gapDevice coveredSeq).sizeBytes = 20480 := rfl
  have ring : walRingSize (gapDevice coveredSeq).sizeBytes = 12288 := by
    rw [size]
    decide
  have begin_ : (Scan.startWord coveredSeq 8192 ()).pos = 8192 := rfl
  obtain ⟨w, opened, buffer⟩ := plain_open (gapDevice coveredSeq) false bufBlocks rfl pos (by omega) (by rw [ring]; omega)
  obtain ⟨g, ready, bytes, medium, _⟩ := opened_readable _ _ w (by rw [size]; decide) (fun _ => rfl) opened (by
    show 4096 * bufBlocks ≤ _
    omega)
  have image : w.dev.medium.cur = gapImage coveredSeq := by
    rw [medium]
    rfl
  rw [ring] at bytes
  have slots : g.slots = 96 := by
    rw [Ring.bytes] at bytes
    rw [Ring.slots]
    omega
  have census := census_scan_slots g _ w ready coveredSeq
  rw [image, slots] at census
  refine ⟨w, opened, buffer, by rw [ready.ringEnd, bytes], census, ?_⟩
  rw [Wal.walkWord, walk_by_slots g _ w ready _ (fun s next f done => slot_word_pos s next w coveredSeq _ f done) 96 none _
    (by omega) (by omega) (by omega) (fun c none_ => by cases none_), image]

theorem gap_scans (coveredSeq : Nat) (few : coveredSeq + 3 < 2 ^ 64) : ∃ a b census, GapScans coveredSeq a b census := by
  obtain ⟨a, openedA, sizeA, endA, censusA, walkA⟩ := gap_opened coveredSeq 1 (by decide) (by decide)
  obtain ⟨b, openedB, sizeB, endB, censusB, walkB⟩ := gap_opened coveredSeq 2 (by decide) (by decide)
  obtain ⟨first, third, invalid⟩ := gap_frames coveredSeq
  have ok := slot_census_ok (gapImage coveredSeq) coveredSeq (List.range 96) [] .empty (census_empty_ok _ coveredSeq)
  rw [List.nil_append] at ok
  have frame (p : Nat) : slotFrame (gapImage coveredSeq) p = .ofBytes (read (gapImage coveredSeq) (8192 + 128 * p) 128) := rfl
  have lead : slotFrame (gapImage coveredSeq) 0 = encodeFrame gapEntry (coveredSeq + 1) := first
  have leads : liveSlot (gapImage coveredSeq) coveredSeq 0 = true := by
    rw [live_slot_iff, lead, encode_seq _ _ (by omega)]
    exact ⟨verify_encode gapEntry _ (by decide), by omega⟩
  have counted : 0 < (slotCensus (gapImage coveredSeq) coveredSeq (List.range 96) .empty).liveCount := by
    rw [ok.live]
    exact List.length_pos_of_mem (List.mem_filter.mpr ⟨List.mem_range.mpr (by omega), leads⟩)
  have both (P : Wal → Prop) (left : P a) (right : P b) : ∀ w ∈ [a, b], P w := by
    intro w which
    rcases List.mem_cons.mp which with rfl | second
    · exact left
    · exact List.mem_singleton.mp second ▸ right
  refine ⟨a, b, _, openedA, openedB, sizeA, sizeB, rfl, censusA, censusB, counted, ?_, both _ endA endB, both _ walkA walkB⟩
  obtain ⟨p, _, live, least, off⟩ := ok.least counted
  have below := ok.below 0 (List.mem_range.mpr (by omega)) leads
  rw [lead, encode_seq _ _ (by omega)] at below
  obtain ⟨valid, above⟩ := (live_slot_iff _ _ _).mp live
  rw [frame] at valid least
  have which : p = 0 ∨ p = 2 := by
    by_cases other : 8320 ≤ 8192 + 128 * p ∧ 8192 + 128 * p + 128 ≤ 8448 ∨ 8576 ≤ 8192 + 128 * p
    · rw [invalid _ other] at valid
      cases valid
    · omega
  rcases which with rfl | rfl
  · exact off
  · rw [show 8192 + 128 * 2 = 8448 from rfl, third, encode_seq _ _ (by omega)] at least
    omega

-- The wider window ends below the frame the narrower one lets pass.
theorem chunked_scan_wraps : ∃ a b : Wal, ∃ census : RecoverCensus,
    (Wal.unopened (gapDevice (2 ^ 64 - 41))).openWal (plainOptions false 1) = (Err.kSuccess, a) ∧
    (Wal.unopened (gapDevice (2 ^ 64 - 41))).openWal (plainOptions false 2) = (Err.kSuccess, b) ∧
    a.bufSize ≤ b.bufSize ∧ (∀ k, (gapDevice (2 ^ 64 - 41)).unreadable k = false) ∧
    a.censusScan (2 ^ 64 - 41) = .ok census ∧ b.censusScan (2 ^ 64 - 41) = .ok census ∧ census.minLiveOff = 8192 ∧
    (∃ s, a.walkWord (2 ^ 64 - 41) (fun st _ _ => .ok st) 96 none (.startWord (2 ^ 64 - 41) 8192 ()) = .ok s ∧ s.fragments = 1) ∧
    b.walkWord (2 ^ 64 - 41) (fun st _ _ => .ok st) 96 none (.startWord (2 ^ 64 - 41) 8192 ()) = .error Err.kWalRecoveryCorrupted := by
  generalize high : 2 ^ 64 - 41 = coveredSeq
  have few : coveredSeq + 3 < 2 ^ 64 := by omega
  obtain ⟨a, b, census, scans⟩ := gap_scans coveredSeq few
  have sizeA := scans.sizeA
  have sizeB := scans.sizeB
  refine ⟨a, b, census, scans.openedA, scans.openedB, by omega, fun _ => rfl, scans.censusA, scans.censusB, scans.least, ?_, ?_⟩
  · rw [scans.walks a (by simp)]
    exact (gap_walk a (scans.ending a (by simp)) coveredSeq few (by omega) (by omega)).1 (by
      rw [kWalFrameSize]
      omega)
  · rw [scans.walks b (by simp)]
    exact (gap_walk b (scans.ending b (by simp)) coveredSeq few (by omega) (by omega)).2 (by
      rw [kWalFrameSize]
      omega)

-- Two live frames with a gap between them, under both buffers.
theorem chunked_scan_exact_gap : ∃ a b : Wal, ∃ s, a.bufSize = 4096 ∧ b.bufSize = 8192 ∧
    a.censusScan 0 = .ok (slotCensus (gapImage 0) 0 (List.range 96) .empty) ∧
    b.censusScan 0 = .ok (slotCensus (gapImage 0) 0 (List.range 96) .empty) ∧
    a.walkWord 0 (fun st _ _ => .ok st) 96 none (.startWord 0 8192 ()) = .ok s ∧
    b.walkWord 0 (fun st _ _ => .ok st) 96 none (.startWord 0 8192 ()) = .ok s ∧ s.fragments = 1 := by
  obtain ⟨a, b, census, scans⟩ := gap_scans 0 (by decide)
  have sizeA := scans.sizeA
  have sizeB := scans.sizeB
  obtain ⟨s, walked, fragments⟩ := (gap_walk a (scans.ending a (by simp)) 0 (by decide) (by omega) (by omega)).1 (by
    rw [kWalFrameSize]
    omega)
  rw [← scans.walks a (by simp)] at walked
  obtain ⟨scanA, scanB, second⟩ := chunked_scan_exact (gapDevice 0) (plainOptions false 1) (plainOptions false 2) a b (by decide) (fun _ => rfl)
    scans.openedA scans.openedB (by decide) (by decide) (by omega) 0 96 (by decide) census scans.slots
  obtain ⟨_, _, _, _, _, _, passes⟩ := second scans.live
  have larger := (passes (by rw [sizeB, kWalFrameSize]; decide) Unit (fun st _ _ => .ok st) ()).2
  rw [scans.least] at larger
  rw [scans.slots] at scanA scanB
  exact ⟨a, b, s, sizeA, sizeB, scanA, scanB, walked, larger s walked, fragments⟩

end Cabe
