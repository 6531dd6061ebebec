import Cabe.WalSurvey

set_option autoImplicit false

namespace Cabe

open Storage

-- The callback applied to the frames from v on.
def replayFrom {σ : Type} (fn : WalReplayFn σ) (entries : List WalEntry) : Nat → Nat → σ → Except Rc σ
  | _, 0, st => .ok st
  | v, count + 1, st =>
      match fn st ((entries[v]?).getD default) (v + 1) with
      | .error rc => .error rc
      | .ok st => replayFrom fn entries (v + 1) count st

-- The walk after it has delivered the frames from covered up to stop.
def Scan.reached {σ : Type} (g : Ring) (covered stop : Nat) (st : σ) : Scan σ where
  pos := g.slotOff stop
  expected := stop + 1
  inRun := true
  replayed := stop - covered
  tStop := stop
  anchorOff := if covered < stop then g.slotOff (stop - 1) else 0
  anchorSeq := if covered < stop then stop else 0
  hasAnchor := decide (covered < stop)
  stopOff := 0
  fragments := 0
  fragMinSeq := 0
  fragMaxSeq := 0
  blocksCrossed := if covered < stop then (stop - 1) / 32 - covered / 32 + 1 else 0
  prevBlock := if covered < stop then some (g.slotOff (stop - 1) / kWalBlockSize) else none
  st := st

theorem reached_start {σ : Type} (g : Ring) (covered : Nat) (st : σ) :
    Scan.start covered (g.slotOff covered) st = Scan.reached g covered covered st := by
  simp [Scan.start, Scan.reached]

theorem slot_block_number (g : Ring) (v : Nat) : g.slotOff v / kWalBlockSize = 2 + v / 32 % g.blocks := by
  rw [g.slot_off_parts, Ring.blockOff, kWalBlockSize]
  omega

-- Consecutive frames are in one block or cross into the next one.
theorem block_crossing (g : Ring) (v : Nat) (pos : 0 < v) :
    (g.slotOff v / kWalBlockSize = g.slotOff (v - 1) / kWalBlockSize ↔ v / 32 = (v - 1) / 32) := by
  rw [slot_block_number, slot_block_number]
  have room := g.room
  constructor
  · intro same
    exact (lap_unique g.blocks ((v - 1) / 32) (v / 32) (by omega) (by omega) (by omega)).symm
  · intro same
    rw [same]

theorem next_pos_slot (g : Ring) (bufBlocks : Nat) (w : Wal) (ready : Readable g bufBlocks w) (v : Nat) :
    nextPos w (g.slotOff v) = g.slotOff (v + 1) := by
  rw [nextPos, kWalFrameSize, ready.ringEnd, ready.ringStart, g.slot_off_next]

theorem frame_at_pos (g : Ring) (img : Image) (v : Nat) :
    WalFrame.ofBytes (read img (g.slotOff v) 128) = slotFrame img (v % g.slots) := rfl

theorem slot_delivers {σ : Type} (g : Ring) (bufBlocks : Nat) (w : Wal) (ready : Readable g bufBlocks w)
    (entries : List WalEntry) (written : Nat) (img : Image) (placed : Placed g entries written img) (fn : WalReplayFn σ)
    (covered stop : Nat) (st : σ) (lower : covered ≤ stop) (here : Present g entries img stop) :
    (Scan.reached g covered stop st).slot w covered fn (slotFrame img (stop % g.slots)) =
      match fn st ((entries[stop]?).getD default) (stop + 1) with
      | .error rc => .error rc
      | .ok st => .ok (Scan.reached g covered (stop + 1) st) := by
  obtain ⟨valid, number, entry⟩ := present_frame g entries written img placed stop here
  have inRun : (Scan.reached g covered stop st).inRun = true := rfl
  have expected : (Scan.reached g covered stop st).expected = stop + 1 := rfl
  have state : (Scan.reached g covered stop st).st = st := rfl
  have moved := next_pos_slot g bufBlocks w ready stop
  unfold Scan.slot
  rw [if_pos inRun, if_pos ⟨valid, by rw [number, expected]⟩]
  unfold Scan.deliver
  rw [entry, number, state]
  cases fn st ((entries[stop]?).getD default) (stop + 1) with
  | error rc => rfl
  | ok st' =>
      unfold nextPos at moved
      have last : stop + 1 - 1 = stop := rfl
      have further : covered < stop + 1 := by omega
      have counted : stop + 1 - covered = stop - covered + 1 := by omega
      by_cases first : covered < stop
      · have crossing := block_crossing g stop (by omega)
        by_cases same : stop / 32 = (stop - 1) / 32
        · have blocks : stop / 32 - covered / 32 + 1 = (stop - 1) / 32 - covered / 32 + 1 := by omega
          simp [Except.map, Scan.next, Scan.reached, first, crossing.mpr same, moved, further, counted, blocks]
        · have blocks : stop / 32 - covered / 32 + 1 = (stop - 1) / 32 - covered / 32 + 1 + 1 := by omega
          have apart : ¬ g.slotOff stop / kWalBlockSize = g.slotOff (stop - 1) / kWalBlockSize := fun equal => same (crossing.mp equal)
          simp [Except.map, Scan.next, Scan.reached, first, apart, moved, further, counted, blocks]
      · have equal : covered = stop := by omega
        subst equal
        simp [Except.map, Scan.next, Scan.reached, moved]

theorem walk_delivers {σ : Type} (g : Ring) (bufBlocks : Nat) (w : Wal) (ready : Readable g bufBlocks w)
    (entries : List WalEntry) (written : Nat) (img : Image) (placed : Placed g entries written img) (fn : WalReplayFn σ)
    (covered : Nat) (count : Nat) :
    ∀ (stop rest : Nat) (st : σ), covered ≤ stop → (∀ v, stop ≤ v → v < stop + count → Present g entries img v) →
      slotWalk w img covered fn (count + rest) (Scan.reached g covered stop st) =
        match replayFrom fn entries stop count st with
        | .error rc => .error rc
        | .ok st => slotWalk w img covered fn rest (Scan.reached g covered (stop + count) st) := by
  induction count with
  | zero =>
      intro stop rest st _ _
      simp [replayFrom]
  | succ count ih =>
      intro stop rest st lower run
      have step := slot_delivers g bufBlocks w ready entries written img placed fn covered stop st lower
        (run stop (Nat.le_refl _) (by omega))
      have pos : (Scan.reached g covered stop st).pos = g.slotOff stop := rfl
      rw [show count + 1 + rest = (count + rest) + 1 by omega, slotWalk, pos, frame_at_pos, step, replayFrom]
      cases fn st ((entries[stop]?).getD default) (stop + 1) with
      | error rc => rfl
      | ok st' =>
          have next := ih (stop + 1) rest st' (by omega) (fun v from_ below => run v (by omega) (by omega))
          rw [show stop + 1 + count = stop + (count + 1) by omega] at next
          exact next

-- What the sweep asks of a live frame behind the stop: one window, physically
-- and by number.
def Tolerated (g : Ring) (bufBlocks stop u : Nat) : Prop :=
  (g.slotOff stop ≤ g.slotOff u ∧ g.slotOff u < zoneEnd (g.slotOff stop) (4096 * bufBlocks) (8192 + g.bytes)) ∧
    u + 1 > stop ∧ u + 1 ≤ stop + 32 * bufBlocks

instance (g : Ring) (bufBlocks stop : Nat) : DecidablePred (Tolerated g bufBlocks stop) := fun u =>
  inferInstanceAs (Decidable ((g.slotOff stop ≤ g.slotOff u ∧
    g.slotOff u < zoneEnd (g.slotOff stop) (4096 * bufBlocks) (8192 + g.bytes)) ∧ u + 1 > stop ∧ u + 1 ≤ stop + 32 * bufBlocks))

-- The walk behind the stop: the run's results stay and fragments are counted.
structure Swept {σ : Type} (g : Ring) (covered stop fragments u : Nat) (st : σ) (s : Scan σ) : Prop where
  pos : s.pos = g.slotOff u
  inRun : s.inRun = false
  replayed : s.replayed = stop - covered
  tStop : s.tStop = stop
  anchorOff : s.anchorOff = if covered < stop then g.slotOff (stop - 1) else 0
  anchorSeq : s.anchorSeq = if covered < stop then stop else 0
  hasAnchor : s.hasAnchor = decide (covered < stop)
  stopOff : s.stopOff = g.slotOff stop
  counted : s.fragments = fragments
  blocksCrossed : s.blocksCrossed = if covered < stop then (stop - 1) / 32 - covered / 32 + 1 else 0
  state : s.st = st

theorem sweep_dead {σ : Type} (s : Scan σ) (w : Wal) (img : Image) (covered p : Nat)
    (dead : liveSlot img covered p = false) : s.sweep w covered (slotFrame img p) = .ok s := by
  have none_ : ¬ (verifyFrame (slotFrame img p) = true ∧ (slotFrame img p).seq.toNat > covered) := by
    intro live
    rw [(live_slot_iff img covered p).mpr live] at dead
    cases dead
  unfold Scan.sweep
  rw [if_neg none_]

theorem dead_absent (g : Ring) (entries : List WalEntry) (written : Nat) (img : Image) (placed : Placed g entries written img)
    (covered v : Nat) (near : written ≤ covered + g.slots) (lower : covered ≤ v) (upper : v < covered + g.slots)
    (absent : ¬ Present g entries img v) : liveSlot img covered (v % g.slots) = false := by
  cases live : liveSlot img covered (v % g.slots) with
  | false => rfl
  | true => exact absurd ((live_slot_present g entries written img placed covered v near lower upper).mp live) absent

-- The slot the run stops at.
theorem slot_stops {σ : Type} (g : Ring) (bufBlocks : Nat) (w : Wal) (ready : Readable g bufBlocks w)
    (entries : List WalEntry) (written : Nat) (img : Image) (placed : Placed g entries written img) (fn : WalReplayFn σ)
    (covered stop : Nat) (st : σ) (near : written ≤ covered + g.slots) (lower : covered ≤ stop)
    (upper : stop < covered + g.slots) (absent : ¬ Present g entries img stop) :
    ∃ s, (Scan.reached g covered stop st).slot w covered fn (slotFrame img (stop % g.slots)) = .ok s ∧
      Swept g covered stop 0 (stop + 1) st s := by
  have dead := dead_absent g entries written img placed covered stop near lower upper absent
  have inRun : (Scan.reached g covered stop st).inRun = true := rfl
  have expected : (Scan.reached g covered stop st).expected = stop + 1 := rfl
  have other : ¬ (verifyFrame (slotFrame img (stop % g.slots)) = true ∧
      (slotFrame img (stop % g.slots)).seq.toNat = (Scan.reached g covered stop st).expected) := by
    rintro ⟨valid, number⟩
    rw [(live_slot_iff img covered _).mpr ⟨valid, by omega⟩] at dead
    cases dead
  have moved := next_pos_slot g bufBlocks w ready stop
  unfold Scan.slot
  rw [if_pos inRun, if_neg other, sweep_dead _ w img covered _ dead]
  exact ⟨_, rfl, ⟨moved, rfl, rfl, rfl, rfl, rfl, rfl, rfl, rfl, rfl, rfl⟩⟩

theorem slot_sweeps {σ : Type} (g : Ring) (bufBlocks : Nat) (w : Wal) (ready : Readable g bufBlocks w)
    (entries : List WalEntry) (written : Nat) (img : Image) (placed : Placed g entries written img) (fn : WalReplayFn σ)
    (covered stop fragments u : Nat) (st : σ) (s : Scan σ) (near : written ≤ covered + g.slots) (lower : covered ≤ u)
    (upper : u < covered + g.slots) (swept : Swept g covered stop fragments u st s) :
    (¬ Present g entries img u → ∃ next, s.slot w covered fn (slotFrame img (u % g.slots)) = .ok next ∧
      Swept g covered stop fragments (u + 1) st next) ∧
    (Present g entries img u → Tolerated g bufBlocks stop u →
      ∃ next, s.slot w covered fn (slotFrame img (u % g.slots)) = .ok next ∧ Swept g covered stop (fragments + 1) (u + 1) st next) ∧
    (Present g entries img u → ¬ Tolerated g bufBlocks stop u →
      s.slot w covered fn (slotFrame img (u % g.slots)) = .error Err.kWalRecoveryCorrupted) := by
  have moved : nextPos w s.pos = g.slotOff (u + 1) := by
    rw [swept.pos]
    exact next_pos_slot g bufBlocks w ready u
  have inRun : ¬ s.inRun = true := by simp [swept.inRun]
  have unfolded : s.slot w covered fn (slotFrame img (u % g.slots)) =
      (s.sweep w covered (slotFrame img (u % g.slots))).map (·.next w) := by
    unfold Scan.slot
    rw [if_neg inRun]
  refine ⟨fun absent => ?_, fun here tolerated => ?_, fun here refused => ?_⟩
  · have dead := dead_absent g entries written img placed covered u near lower upper absent
    rw [unfolded, sweep_dead _ w img covered _ dead]
    exact ⟨_, rfl, { swept with pos := moved }⟩
  · obtain ⟨valid, number, _⟩ := present_frame g entries written img placed u here
    have window : w.bufSize / kWalFrameSize = 32 * bufBlocks := by
      rw [ready.bufSize, kWalFrameSize]
      omega
    have within : ¬ (¬ (s.pos ≥ s.stopOff ∧ s.pos < zoneEnd s.stopOff w.bufSize w.ringEnd) ∨
        ¬ ((slotFrame img (u % g.slots)).seq.toNat > s.tStop ∧
          (slotFrame img (u % g.slots)).seq.toNat ≤ s.tStop + w.bufSize / kWalFrameSize)) := by
      rw [swept.pos, swept.stopOff, ready.bufSize, ready.ringEnd, number, swept.tStop, ← ready.bufSize, window, ready.bufSize]
      exact fun outside => outside.elim (fun far => far tolerated.1) (fun wrong => wrong tolerated.2)
    rw [unfolded]
    unfold Scan.sweep
    rw [if_pos ⟨valid, by omega⟩]
    dsimp only
    rw [if_neg within]
    have counted : s.fragments + 1 = fragments + 1 := by rw [swept.counted]
    split <;> split <;> exact ⟨_, rfl, { swept with pos := moved, counted := counted }⟩
  · obtain ⟨valid, number, _⟩ := present_frame g entries written img placed u here
    have window : w.bufSize / kWalFrameSize = 32 * bufBlocks := by
      rw [ready.bufSize, kWalFrameSize]
      omega
    have outside : ¬ (s.pos ≥ s.stopOff ∧ s.pos < zoneEnd s.stopOff w.bufSize w.ringEnd) ∨
        ¬ ((slotFrame img (u % g.slots)).seq.toNat > s.tStop ∧
          (slotFrame img (u % g.slots)).seq.toNat ≤ s.tStop + w.bufSize / kWalFrameSize) := by
      rw [swept.pos, swept.stopOff, ready.bufSize, ready.ringEnd, number, swept.tStop, ← ready.bufSize, window, ready.bufSize,
        ← not_and_or]
      exact refused
    rw [unfolded]
    unfold Scan.sweep
    rw [if_pos ⟨valid, by omega⟩]
    dsimp only
    rw [if_pos outside]
    rfl

-- Fragments from u on, over the rest of the lap.
def fragmentCount (g : Ring) (entries : List WalEntry) (img : Image) (u count : Nat) : Nat :=
  ((List.range' u count).filter fun v => Present g entries img v).length

theorem fragment_count_succ (g : Ring) (entries : List WalEntry) (img : Image) (u count : Nat) :
    fragmentCount g entries img u (count + 1) =
      (if Present g entries img u then 1 else 0) + fragmentCount g entries img (u + 1) count := by
  unfold fragmentCount
  by_cases here : Present g entries img u
  · simp [List.range'_succ, here]
    omega
  · simp [List.range'_succ, here]

theorem walk_sweeps {σ : Type} (g : Ring) (bufBlocks : Nat) (w : Wal) (ready : Readable g bufBlocks w)
    (entries : List WalEntry) (written : Nat) (img : Image) (placed : Placed g entries written img) (fn : WalReplayFn σ)
    (covered stop : Nat) (st : σ) (near : written ≤ covered + g.slots) (count : Nat) :
    ∀ (u fragments : Nat) (s : Scan σ), covered ≤ u → u + count ≤ covered + g.slots → Swept g covered stop fragments u st s →
      ((∀ v, u ≤ v → v < u + count → Present g entries img v → Tolerated g bufBlocks stop v) →
        ∃ next, slotWalk w img covered fn count s = .ok next ∧
          Swept g covered stop (fragments + fragmentCount g entries img u count) (u + count) st next) ∧
      ((∃ v, u ≤ v ∧ v < u + count ∧ Present g entries img v ∧ ¬ Tolerated g bufBlocks stop v) →
        slotWalk w img covered fn count s = .error Err.kWalRecoveryCorrupted) := by
  induction count with
  | zero =>
      intro u fragments s _ _ swept
      refine ⟨fun _ => ⟨s, rfl, by simpa [fragmentCount] using swept⟩, ?_⟩
      rintro ⟨v, from_, below, _⟩
      omega
  | succ count ih =>
      intro u fragments s lower upper swept
      obtain ⟨skip, keep, refuse⟩ :=
        slot_sweeps g bufBlocks w ready entries written img placed fn covered stop fragments u st s near lower (by omega) swept
      have frame : WalFrame.ofBytes (read img s.pos 128) = slotFrame img (u % g.slots) := by
        rw [swept.pos, frame_at_pos]
      rw [slotWalk, frame, fragment_count_succ]
      by_cases here : Present g entries img u
      · by_cases ok : Tolerated g bufBlocks stop u
        · obtain ⟨next, step, swept'⟩ := keep here ok
          obtain ⟨good, bad⟩ := ih (u + 1) (fragments + 1) next (by omega) (by omega) swept'
          rw [step, if_pos here]
          refine ⟨fun all => ?_, ?_⟩
          · obtain ⟨last, done, kept⟩ := good (fun v from_ below => all v (by omega) (by omega))
            refine ⟨last, done, ?_⟩
            rw [show u + (count + 1) = u + 1 + count by omega, ← Nat.add_assoc]
            exact kept
          · rintro ⟨v, from_, below, present, out⟩
            have later : v ≠ u := fun same => out (same ▸ ok)
            exact bad ⟨v, by omega, by omega, present, out⟩
        · rw [refuse here ok]
          exact ⟨fun all => absurd (all u (Nat.le_refl _) (by omega) here) ok, fun _ => rfl⟩
      · obtain ⟨next, step, swept'⟩ := skip here
        obtain ⟨good, bad⟩ := ih (u + 1) fragments next (by omega) (by omega) swept'
        rw [step, if_neg here, Nat.zero_add]
        refine ⟨fun all => ?_, ?_⟩
        · obtain ⟨last, done, kept⟩ := good (fun v from_ below => all v (by omega) (by omega))
          refine ⟨last, done, ?_⟩
          rw [show u + (count + 1) = u + 1 + count by omega]
          exact kept
        · rintro ⟨v, from_, below, present, out⟩
          have later : v ≠ u := fun same => here (same ▸ present)
          exact bad ⟨v, by omega, by omega, present, out⟩

theorem fragment_count_run (g : Ring) (entries : List WalEntry) (img : Image) (rest count : Nat) :
    ∀ u, (∀ v, u ≤ v → v < u + count → Present g entries img v) →
      fragmentCount g entries img u (count + rest) = count + fragmentCount g entries img (u + count) rest := by
  induction count with
  | zero =>
      intro u _
      simp
  | succ count ih =>
      intro u run
      have next := ih (u + 1) (fun v from_ below => run v (by omega) (by omega))
      rw [show count + 1 + rest = count + rest + 1 by omega, fragment_count_succ, if_pos (run u (Nat.le_refl _) (by omega)), next,
        show u + 1 + count = u + (count + 1) by omega]
      omega

-- The first frame from covered on that is missing.
def runStop (g : Ring) (entries : List WalEntry) (img : Image) : Nat → Nat → Nat
  | v, 0 => v
  | v, count + 1 => if Present g entries img v then runStop g entries img (v + 1) count else v

def stopOf (g : Ring) (entries : List WalEntry) (img : Image) (covered : Nat) : Nat :=
  runStop g entries img covered g.slots

theorem run_stop_spec (g : Ring) (entries : List WalEntry) (img : Image) (count : Nat) :
    ∀ v, v ≤ runStop g entries img v count ∧ (∀ u, v ≤ u → u < runStop g entries img v count → Present g entries img u) ∧
      (runStop g entries img v count = v + count ∨ ¬ Present g entries img (runStop g entries img v count)) := by
  induction count with
  | zero =>
      intro v
      exact ⟨Nat.le_refl _, fun u from_ below => by simp only [runStop] at below; omega, .inl rfl⟩
  | succ count ih =>
      intro v
      by_cases here : Present g entries img v
      · obtain ⟨lower, run, ends⟩ := ih (v + 1)
        rw [runStop, if_pos here]
        refine ⟨by omega, fun u from_ below => ?_, ?_⟩
        · by_cases first : u = v
          · exact first ▸ here
          · exact run u (by omega) below
        · rcases ends with whole | absent
          · exact .inl (by omega)
          · exact .inr absent
      · rw [runStop, if_neg here]
        exact ⟨Nat.le_refl _, fun u from_ below => by omega, .inr here⟩

-- What both passes are run on: a ring whose live frames fit one lap, less the
-- block that a writer never fills.
structure Scannable (g : Ring) (bufBlocks : Nat) (entries : List WalEntry) (written covered : Nat) (w : Wal) : Prop where
  ready : Readable g bufBlocks w
  placed : Placed g entries written w.dev.medium.cur
  near : written + 32 ≤ covered + g.slots

-- A ring that still has a frame to tell its end from, the last covered one or
-- the first live one, and the covered frames of the first live block.
structure Recoverable (g : Ring) (bufBlocks : Nat) (entries : List WalEntry) (written covered : Nat) (w : Wal) : Prop
    extends Scannable g bufBlocks entries written covered w where
  anchor : covered = 0 ∨ Present g entries w.dev.medium.cur (covered - 1) ∨ Present g entries w.dev.medium.cur covered
  block : ∀ v, 32 * (covered / 32) ≤ v → v < covered → Present g entries w.dev.medium.cur v

theorem stop_spec (g : Ring) (bufBlocks : Nat) (entries : List WalEntry) (written covered : Nat) (w : Wal)
    (r : Scannable g bufBlocks entries written covered w) :
    covered ≤ stopOf g entries w.dev.medium.cur covered ∧ stopOf g entries w.dev.medium.cur covered ≤ max covered written ∧
      (∀ v, covered ≤ v → v < stopOf g entries w.dev.medium.cur covered → Present g entries w.dev.medium.cur v) ∧
      ¬ Present g entries w.dev.medium.cur (stopOf g entries w.dev.medium.cur covered) := by
  obtain ⟨lower, run, ends⟩ := run_stop_spec g entries w.dev.medium.cur g.slots covered
  have near := r.near
  have bounded : stopOf g entries w.dev.medium.cur covered ≤ max covered written := by
    by_cases some_ : covered < stopOf g entries w.dev.medium.cur covered
    · have last := present_written g entries written _ r.placed _
        (run (stopOf g entries w.dev.medium.cur covered - 1) (by omega) (by unfold stopOf at some_ ⊢; omega))
      omega
    · omega
  refine ⟨lower, bounded, run, ?_⟩
  rcases ends with whole | absent
  · have room := g.slots_pos
    have same : stopOf g entries w.dev.medium.cur covered = covered + g.slots := whole
    have few : 32 ≤ g.slots := by
      have := g.room
      rw [Ring.slots]
      omega
    omega
  · exact absent

theorem live_exists (g : Ring) (entries : List WalEntry) (written : Nat) (img : Image) (placed : Placed g entries written img)
    (covered : Nat) (near : written ≤ covered + g.slots) (c : RecoverCensus) (ok : CensusOk img covered (List.range g.slots) c) :
    0 < c.liveCount ↔ ∃ v, covered ≤ v ∧ Present g entries img v := by
  rw [live_count_lap g entries written img placed covered near c ok, List.length_pos_iff_exists_mem]
  constructor
  · rintro ⟨v, member⟩
    obtain ⟨inside, here⟩ := List.mem_filter.mp member
    exact ⟨v, (List.mem_range'_1.mp inside).1, by simpa using here⟩
  · rintro ⟨v, lower, here⟩
    have bound := present_written g entries written img placed v here
    exact ⟨v, List.mem_filter.mpr ⟨List.mem_range'_1.mpr ⟨lower, by omega⟩, by simpa using here⟩⟩

theorem least_live (g : Ring) (entries : List WalEntry) (written : Nat) (img : Image) (placed : Placed g entries written img)
    (covered : Nat) (c : RecoverCensus) (ok : CensusOk img covered (List.range g.slots) c)
    (some_ : 0 < c.liveCount) :
    (c.minLiveSeq = covered + 1 ↔ Present g entries img covered) ∧
      (Present g entries img covered → c.minLiveOff = g.slotOff covered) := by
  obtain ⟨p, member, live, least, off⟩ := ok.least some_
  have bound : p < g.slots := List.mem_range.mp member
  obtain ⟨valid, above⟩ := (live_slot_iff img covered p).mp live
  obtain ⟨v, lower, below, slot, number, here⟩ := live_present g entries written img placed covered p bound valid above
  have equal : Present g entries img covered → v = covered := by
    intro first
    obtain ⟨valid', number', _⟩ := present_frame g entries written img placed covered first
    have bound' := ok.below _ (List.mem_range.mpr (g.slot_lt covered))
      ((live_slot_iff img covered _).mpr ⟨valid', by omega⟩)
    omega
  refine ⟨⟨fun same => ?_, fun first => ?_⟩, fun first => ?_⟩
  · have first : v = covered := by omega
    exact first ▸ here
  · have same := equal first
    omega
  · rw [off, Ring.slotOff, ← slot, equal first]

-- With no live frame the newest frame is the last covered one.
theorem newest_covered (g : Ring) (entries : List WalEntry) (written : Nat) (img : Image) (placed : Placed g entries written img)
    (covered : Nat) (c : RecoverCensus) (ok : CensusOk img covered (List.range g.slots) c) (pos : 0 < covered)
    (anchor : Present g entries img (covered - 1)) (none_ : ∀ v, covered ≤ v → ¬ Present g entries img v) :
    c.maxValidSeq = covered ∧ c.maxValidOff = g.slotOff (covered - 1) := by
  obtain ⟨valid, number, _⟩ := present_frame g entries written img placed _ anchor
  have atLeast := ok.above _ (List.mem_range.mpr (g.slot_lt (covered - 1))) valid
  obtain ⟨p, member, valid', same, off⟩ := ok.greatest (by omega)
  obtain ⟨v, _, below, slot, number', here⟩ :=
    live_present g entries written img placed 0 p (List.mem_range.mp member) valid' (by omega)
  have old : v < covered := Nat.lt_of_not_le fun late => none_ v late here
  have last : v = covered - 1 := by omega
  exact ⟨by omega, by rw [off, Ring.slotOff, ← slot, last]⟩

theorem valid_count_zero (img : Image) (covered : Nat) (slots : List Nat) (c : RecoverCensus) (ok : CensusOk img covered slots c) :
    c.validCount = 0 ↔ ∀ p ∈ slots, verifyFrame (slotFrame img p) = false := by
  rw [ok.valid, List.length_eq_zero_iff, List.filter_eq_nil_iff]
  simp

theorem survey_idle {σ : Type} (g : Ring) (bufBlocks : Nat) (entries : List WalEntry) (written covered : Nat) (w : Wal)
    (r : Recoverable g bufBlocks entries written covered w) (fn : WalReplayFn σ) (st : σ)
    (none_ : ∀ v, covered ≤ v → ¬ Present g entries w.dev.medium.cur v) :
    ∃ c, w.survey covered fn st = .ok (c, .start covered 0 st) ∧ c.liveCount = 0 ∧ (covered = 0 → c.validCount = 0) ∧
      (0 < covered → c.validCount ≠ 0 ∧ c.maxValidSeq = covered ∧ c.maxValidOff = g.slotOff (covered - 1)) := by
  have scan := census_scan_slots g bufBlocks w r.ready covered
  have ok := census_ok g w.dev.medium.cur covered
  generalize slotCensus w.dev.medium.cur covered (List.range g.slots) .empty = c at scan ok
  have near := r.near
  have idle : c.liveCount = 0 := by
    by_contra some_
    obtain ⟨v, lower, here⟩ := (live_exists g entries written _ r.placed covered (by omega) c ok).mp (by omega)
    exact none_ v lower here
  have anchored : 0 < covered → c.validCount ≠ 0 ∧ c.maxValidSeq = covered ∧ c.maxValidOff = g.slotOff (covered - 1) := by
    intro pos
    rcases r.anchor with zero | anchor | live
    · omega
    · refine ⟨fun empty => ?_, newest_covered g entries written _ r.placed covered c ok pos anchor none_⟩
      obtain ⟨valid, _⟩ := present_frame g entries written _ r.placed _ anchor
      rw [(valid_count_zero _ covered _ c ok).mp empty _ (List.mem_range.mpr (g.slot_lt _))] at valid
      cases valid
    · exact absurd live (none_ covered (Nat.le_refl _))
  have kept : ¬ (c.validCount = 0 ∧ covered > 0) := fun both => (anchored both.2).1 both.1
  refine ⟨c, ?_, idle, fun zero => ?_, anchored⟩
  · unfold Wal.survey
    simp only [scan]
    rw [if_neg kept, if_neg (by omega)]
  · rw [valid_count_zero _ covered _ c ok]
    intro p member
    cases valid : verifyFrame (slotFrame w.dev.medium.cur p) with
    | false => rfl
    | true =>
        have bound := List.mem_range.mp member
        obtain ⟨v, below, slot, bytes⟩ := r.placed.slot p bound valid
        have listed := r.placed.listed
        exact absurd ⟨by omega, by rw [slot]; exact bytes⟩ (none_ v (by omega))

theorem survey_gate {σ : Type} (g : Ring) (bufBlocks : Nat) (entries : List WalEntry) (written covered : Nat) (w : Wal)
    (r : Scannable g bufBlocks entries written covered w) (fn : WalReplayFn σ) (st : σ)
    (some_ : ∃ v, covered ≤ v ∧ Present g entries w.dev.medium.cur v) (first : ¬ Present g entries w.dev.medium.cur covered) :
    w.survey covered fn st = .error Err.kWalRecoveryCorrupted := by
  have scan := census_scan_slots g bufBlocks w r.ready covered
  have ok := census_ok g w.dev.medium.cur covered
  generalize slotCensus w.dev.medium.cur covered (List.range g.slots) .empty = c at scan ok
  have near := r.near
  have live := (live_exists g entries written _ r.placed covered (by omega) c ok).mpr some_
  have least := (least_live g entries written _ r.placed covered c ok live).1
  have wrong : c.minLiveSeq ≠ covered + 1 := fun same => first (least.mp same)
  unfold Wal.survey
  simp only [scan]
  by_cases empty : c.validCount = 0 ∧ covered > 0
  · rw [if_pos empty]
  · rw [if_neg empty, if_pos live, if_pos wrong]

theorem survey_run {σ : Type} (g : Ring) (bufBlocks : Nat) (entries : List WalEntry) (written covered : Nat) (w : Wal)
    (r : Scannable g bufBlocks entries written covered w) (fn : WalReplayFn σ) (st : σ)
    (first : Present g entries w.dev.medium.cur covered) :
    (∀ rc, replayFrom fn entries covered (stopOf g entries w.dev.medium.cur covered - covered) st = .error rc →
      w.survey covered fn st = .error rc) ∧
    (∀ st', replayFrom fn entries covered (stopOf g entries w.dev.medium.cur covered - covered) st = .ok st' →
      ((∀ v, stopOf g entries w.dev.medium.cur covered < v → Present g entries w.dev.medium.cur v →
          Tolerated g bufBlocks (stopOf g entries w.dev.medium.cur covered) v) →
        ∃ c s, w.survey covered fn st = .ok (c, s) ∧ 0 < c.liveCount ∧ c.minLiveOff = g.slotOff covered ∧
          c.liveCount = s.replayed + s.fragments ∧
          (0 < s.fragments ↔ ∃ v, stopOf g entries w.dev.medium.cur covered < v ∧ Present g entries w.dev.medium.cur v) ∧
          Swept g covered (stopOf g entries w.dev.medium.cur covered) s.fragments (covered + g.slots) st' s) ∧
      ((∃ v, stopOf g entries w.dev.medium.cur covered < v ∧ Present g entries w.dev.medium.cur v ∧
          ¬ Tolerated g bufBlocks (stopOf g entries w.dev.medium.cur covered) v) →
        w.survey covered fn st = .error Err.kWalRecoveryCorrupted)) := by
  obtain ⟨lower, upper, run, absent⟩ := stop_spec g bufBlocks entries written covered w r
  generalize stopOf g entries w.dev.medium.cur covered = stop at lower upper run absent ⊢
  have scan := census_scan_slots g bufBlocks w r.ready covered
  have ok := census_ok g w.dev.medium.cur covered
  generalize slotCensus w.dev.medium.cur covered (List.range g.slots) .empty = c at scan ok
  have near := r.near
  have fits : written ≤ covered + g.slots := by omega
  have wide : 32 ≤ g.slots := by
    have := g.room
    rw [Ring.slots]
    omega
  have live := (live_exists g entries written _ r.placed covered fits c ok).mpr ⟨covered, Nat.le_refl _, first⟩
  obtain ⟨least, off⟩ := least_live g entries written _ r.placed covered c ok live
  have nonempty : ¬ (c.validCount = 0 ∧ covered > 0) := by
    rintro ⟨empty, _⟩
    obtain ⟨valid, _⟩ := present_frame g entries written _ r.placed _ first
    rw [(valid_count_zero _ covered _ c ok).mp empty _ (List.mem_range.mpr (g.slot_lt _))] at valid
    cases valid
  have right : ¬ c.minLiveSeq ≠ covered + 1 := fun wrong => wrong (least.mpr first)
  have size : (w.ringEnd - w.ringStart) / kWalFrameSize = stop - covered + (covered + g.slots - stop - 1 + 1) := by
    rw [r.ready.ringEnd, r.ready.ringStart, Nat.add_sub_cancel_left, Ring.bytes, Ring.slots, kWalFrameSize]
    rw [Ring.slots] at near wide
    omega
  have bounds := g.slot_off_bounds covered
  have aligned : g.slotOff covered % 128 = 0 := by
    rw [Ring.slotOff]
    omega
  have surveyed : w.survey covered fn st =
      (slotWalk w w.dev.medium.cur covered fn (stop - covered + (covered + g.slots - stop - 1 + 1))
        (.reached g covered covered st)).map fun s => (c, s) := by
    unfold Wal.survey
    simp only [scan]
    rw [if_neg nonempty, if_pos live, if_neg right, off first, size,
      walk_slots g bufBlocks w r.ready covered fn _ none _ bounds.1 bounds.2 aligned (by simp), reached_start]
    cases slotWalk w w.dev.medium.cur covered fn (stop - covered + (covered + g.slots - stop - 1 + 1)) (.reached g covered covered st) <;> rfl
  have delivered := walk_delivers g bufBlocks w r.ready entries written _ r.placed fn covered (stop - covered) covered
    (covered + g.slots - stop - 1 + 1) st (Nat.le_refl _) (fun v from_ below => run v from_ (by omega))
  rw [show covered + (stop - covered) = stop by omega] at delivered
  rw [surveyed, delivered]
  refine ⟨fun rc failed => by rw [failed]; rfl, fun st' replayed => ?_⟩
  obtain ⟨s, stopped, swept⟩ := slot_stops g bufBlocks w r.ready entries written _ r.placed fn covered stop st' fits lower
    (by omega) absent
  have walked : slotWalk w w.dev.medium.cur covered fn (covered + g.slots - stop - 1 + 1) (.reached g covered stop st') =
      slotWalk w w.dev.medium.cur covered fn (covered + g.slots - stop - 1) s := by
    have pos : (Scan.reached g covered stop st').pos = g.slotOff stop := rfl
    rw [slotWalk, pos, frame_at_pos, stopped]
  obtain ⟨good, bad⟩ := walk_sweeps g bufBlocks w r.ready entries written _ r.placed fn covered stop st' fits
    (covered + g.slots - stop - 1) (stop + 1) 0 s (by omega) (by omega) swept
  simp only [replayed, walked]
  refine ⟨fun tolerated => ?_, ?_⟩
  · obtain ⟨last, done, kept⟩ := good (fun v from_ _ here => tolerated v (by omega) here)
    rw [Nat.zero_add, show stop + 1 + (covered + g.slots - stop - 1) = covered + g.slots by omega] at kept
    have counted : c.liveCount = last.replayed + last.fragments := by
      have lap := live_count_lap g entries written _ r.placed covered fits c ok
      have parts := fragment_count_run g entries w.dev.medium.cur (covered + g.slots - stop - 1 + 1) (stop - covered) covered
        (fun v from_ below => run v from_ (by omega))
      rw [show stop - covered + (covered + g.slots - stop - 1 + 1) = g.slots by omega,
        show covered + (stop - covered) = stop by omega, fragment_count_succ, if_neg absent, Nat.zero_add] at parts
      rw [lap, kept.replayed, kept.counted]
      exact parts
    refine ⟨c, last, by rw [done]; rfl, live, off first, counted, ?_, by rw [kept.counted]; exact kept⟩
    rw [kept.counted, fragmentCount, List.length_pos_iff_exists_mem]
    constructor
    · rintro ⟨v, member⟩
      obtain ⟨inside, here⟩ := List.mem_filter.mp member
      exact ⟨v, (List.mem_range'_1.mp inside).1, by simpa using here⟩
    · rintro ⟨v, late, here⟩
      have bound := present_written g entries written _ r.placed v here
      exact ⟨v, List.mem_filter.mpr ⟨List.mem_range'_1.mpr ⟨late, by omega⟩, by simpa using here⟩⟩
  · rintro ⟨v, late, here, out⟩
    have bound := present_written g entries written _ r.placed v here
    rw [bad ⟨v, late, by omega, here, out⟩]
    rfl

end Cabe
