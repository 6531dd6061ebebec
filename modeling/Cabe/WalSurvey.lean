import Cabe.WalScan
import Cabe.WalWindow

set_option autoImplicit false

namespace Cabe

open Storage

-- The ring of a history in which no slot outside it verifies.
structure Placed (g : Ring) (entries : List WalEntry) (written : Nat) (img : Image) : Prop where
  slot : ∀ p < g.slots, verifyFrame (slotFrame img p) = true →
    ∃ v, v < written ∧ v % g.slots = p ∧ slotBytes img p = frameAt entries v
  listed : written ≤ entries.length
  fits : entries.length < 2 ^ 64
  short : ∀ e ∈ entries, e.key.length ≤ kWalKeyMax

def Present (g : Ring) (entries : List WalEntry) (img : Image) (v : Nat) : Prop :=
  v < entries.length ∧ slotBytes img (v % g.slots) = frameAt entries v

instance (g : Ring) (entries : List WalEntry) (img : Image) : DecidablePred (Present g entries img) := fun v =>
  inferInstanceAs (Decidable (v < entries.length ∧ slotBytes img (v % g.slots) = frameAt entries v))

theorem listed_short (entries : List WalEntry) (short : ∀ e ∈ entries, e.key.length ≤ kWalKeyMax) (v : Nat) :
    ((entries[v]?).getD default).key.length ≤ kWalKeyMax := by
  cases found : entries[v]? with
  | none => exact Nat.zero_le _
  | some e => exact short e (List.mem_of_getElem? found)

theorem frame_at_verifies (entries : List WalEntry) (short : ∀ e ∈ entries, e.key.length ≤ kWalKeyMax) (v : Nat) :
    verifyFrame (.ofBytes (frameAt entries v)) = true := by
  rw [frameAt, of_bytes_to_bytes]
  exact verify_encode _ _ (listed_short entries short v)

theorem present_frame (g : Ring) (entries : List WalEntry) (written : Nat) (img : Image) (placed : Placed g entries written img)
    (v : Nat) (here : Present g entries img v) :
    verifyFrame (slotFrame img (v % g.slots)) = true ∧ (slotFrame img (v % g.slots)).seq.toNat = v + 1 ∧
      decodeEntry (slotFrame img (v % g.slots)) = (entries[v]?).getD default := by
  have fits := placed.fits
  obtain ⟨listed, bytes⟩ := here
  rw [slotFrame, bytes]
  refine ⟨frame_at_verifies entries placed.short v, frame_at_seq entries v (by omega), ?_⟩
  rw [frameAt, of_bytes_to_bytes]
  exact decode_encode _ _ (listed_short entries placed.short v)

-- What verifies in a slot with a number above covered is a frame of the lap.
theorem live_present (g : Ring) (entries : List WalEntry) (written : Nat) (img : Image) (placed : Placed g entries written img)
    (covered p : Nat) (bound : p < g.slots) (valid : verifyFrame (slotFrame img p) = true)
    (live : covered < (slotFrame img p).seq.toNat) :
    ∃ v, covered ≤ v ∧ v < written ∧ v % g.slots = p ∧ (slotFrame img p).seq.toNat = v + 1 ∧ Present g entries img v := by
  obtain ⟨v, below, slot, bytes⟩ := placed.slot p bound valid
  have listed := placed.listed
  have fits := placed.fits
  have number : (slotFrame img p).seq.toNat = v + 1 := by
    rw [slotFrame, bytes]
    exact frame_at_seq entries v (by omega)
  exact ⟨v, by omega, below, slot, number, by omega, by rw [slot]; exact bytes⟩

theorem present_written (g : Ring) (entries : List WalEntry) (written : Nat) (img : Image) (placed : Placed g entries written img)
    (v : Nat) (here : Present g entries img v) : v < written := by
  obtain ⟨valid, number, _⟩ := present_frame g entries written img placed v here
  obtain ⟨u, _, below, _, same, _⟩ := live_present g entries written img placed 0 _ (g.slot_lt v) valid (by omega)
  omega

def liveSlot (img : Image) (covered p : Nat) : Bool :=
  verifyFrame (slotFrame img p) && decide (covered < (slotFrame img p).seq.toNat)

-- In the lap that starts at covered a slot is live exactly when its frame is there.
theorem live_slot_present (g : Ring) (entries : List WalEntry) (written : Nat) (img : Image)
    (placed : Placed g entries written img) (covered v : Nat) (near : written ≤ covered + g.slots) (lower : covered ≤ v)
    (upper : v < covered + g.slots) : liveSlot img covered (v % g.slots) = true ↔ Present g entries img v := by
  constructor
  · intro live
    obtain ⟨valid, above⟩ : verifyFrame (slotFrame img (v % g.slots)) = true ∧ covered < (slotFrame img (v % g.slots)).seq.toNat := by
      simpa [liveSlot] using live
    obtain ⟨u, from_, below, slot, _, here⟩ := live_present g entries written img placed covered _ (g.slot_lt v) valid above
    have same : u = v := by
      rcases Nat.le_total u v with less | less
      · exact g.same_slot u v less (by omega) slot
      · exact (g.same_slot v u less (by omega) slot.symm).symm
    exact same ▸ here
  · intro here
    obtain ⟨valid, number, _⟩ := present_frame g entries written img placed v here
    simp [liveSlot, valid, number]
    omega

structure CensusOk (img : Image) (covered : Nat) (slots : List Nat) (c : RecoverCensus) : Prop where
  valid : c.validCount = (slots.filter fun p => verifyFrame (slotFrame img p)).length
  live : c.liveCount = (slots.filter (liveSlot img covered)).length
  least : 0 < c.liveCount → ∃ p ∈ slots, liveSlot img covered p = true ∧ c.minLiveSeq = (slotFrame img p).seq.toNat ∧
    c.minLiveOff = 8192 + 128 * p
  below : ∀ p ∈ slots, liveSlot img covered p = true → c.minLiveSeq ≤ (slotFrame img p).seq.toNat
  greatest : 0 < c.maxValidSeq → ∃ p ∈ slots, verifyFrame (slotFrame img p) = true ∧
    c.maxValidSeq = (slotFrame img p).seq.toNat ∧ c.maxValidOff = 8192 + 128 * p
  above : ∀ p ∈ slots, verifyFrame (slotFrame img p) = true → (slotFrame img p).seq.toNat ≤ c.maxValidSeq

theorem note_fields (c : RecoverCensus) (covered fo : Nat) (f : WalFrame) :
    (c.note covered fo f).validCount = (if verifyFrame f = true then c.validCount + 1 else c.validCount) ∧
    (c.note covered fo f).liveCount = (if verifyFrame f = true ∧ covered < f.seq.toNat then c.liveCount + 1 else c.liveCount) ∧
    ((c.note covered fo f).minLiveSeq, (c.note covered fo f).minLiveOff) =
      (if verifyFrame f = true ∧ covered < f.seq.toNat ∧ (c.liveCount = 0 ∨ f.seq.toNat < c.minLiveSeq) then (f.seq.toNat, fo)
        else (c.minLiveSeq, c.minLiveOff)) ∧
    ((c.note covered fo f).maxValidSeq, (c.note covered fo f).maxValidOff) =
      (if verifyFrame f = true ∧ c.maxValidSeq < f.seq.toNat then (f.seq.toNat, fo) else (c.maxValidSeq, c.maxValidOff)) := by
  unfold RecoverCensus.note
  cases valid : verifyFrame f with
  | false => simp
  | true =>
      by_cases live : covered < f.seq.toNat <;> by_cases greatest : c.maxValidSeq < f.seq.toNat <;>
        by_cases least : c.liveCount = 0 ∨ f.seq.toNat < c.minLiveSeq <;> simp [live, greatest, least] <;> split <;> simp

theorem live_slot_iff (img : Image) (covered p : Nat) : liveSlot img covered p = true ↔
    verifyFrame (slotFrame img p) = true ∧ covered < (slotFrame img p).seq.toNat := by
  simp [liveSlot]

theorem census_note_ok (img : Image) (covered : Nat) (slots : List Nat) (c : RecoverCensus) (p : Nat)
    (ok : CensusOk img covered slots c) :
    CensusOk img covered (slots ++ [p]) (c.note covered (8192 + 128 * p) (slotFrame img p)) := by
  obtain ⟨valid, live, least, greatest⟩ := note_fields c covered (8192 + 128 * p) (slotFrame img p)
  simp only [← and_assoc, ← live_slot_iff] at live least
  refine ⟨?_, ?_, ?_, ?_, ?_, ?_⟩
  · rw [valid, ok.valid]
    by_cases here : verifyFrame (slotFrame img p) = true <;> simp [here]
  · rw [live, ok.live]
    by_cases here : liveSlot img covered p = true <;> simp [here]
  · intro pos
    by_cases new : liveSlot img covered p = true ∧ (c.liveCount = 0 ∨ (slotFrame img p).seq.toNat < c.minLiveSeq)
    · rw [if_pos new] at least
      obtain ⟨seq, off⟩ := Prod.mk.inj least
      exact ⟨p, by simp, new.1, seq, off⟩
    · rw [if_neg new] at least
      obtain ⟨seq, off⟩ := Prod.mk.inj least
      have some_ : 0 < c.liveCount := by
        rw [live] at pos
        split at pos
        · rename_i here
          exact Nat.pos_of_ne_zero fun none_ => new ⟨here, .inl none_⟩
        · exact pos
      obtain ⟨q, member, there, minSeq, minOff⟩ := ok.least some_
      exact ⟨q, by simp [member], there, seq.trans minSeq, off.trans minOff⟩
  · intro q member there
    have either : q ∈ slots ∨ q = p := by simpa using member
    by_cases new : liveSlot img covered p = true ∧ (c.liveCount = 0 ∨ (slotFrame img p).seq.toNat < c.minLiveSeq)
    · rw [if_pos new] at least
      rw [(Prod.mk.inj least).1]
      rcases either with old | rfl
      · have bound := ok.below q old there
        have some_ : c.liveCount ≠ 0 := by
          rw [ok.live]
          exact List.length_pos_iff.mpr (List.ne_nil_of_mem (List.mem_filter.mpr ⟨old, there⟩)) |>.ne'
        rcases new.2 with none_ | less
        · exact absurd none_ some_
        · omega
      · exact Nat.le_refl _
    · rw [if_neg new] at least
      rw [(Prod.mk.inj least).1]
      rcases either with old | rfl
      · exact ok.below q old there
      · exact Nat.le_of_not_lt fun less => new ⟨there, .inr less⟩
  · intro pos
    by_cases new : verifyFrame (slotFrame img p) = true ∧ c.maxValidSeq < (slotFrame img p).seq.toNat
    · rw [if_pos new] at greatest
      obtain ⟨seq, off⟩ := Prod.mk.inj greatest
      exact ⟨p, by simp, new.1, seq, off⟩
    · rw [if_neg new] at greatest
      obtain ⟨seq, off⟩ := Prod.mk.inj greatest
      obtain ⟨q, member, there, maxSeq, maxOff⟩ := ok.greatest (seq ▸ pos)
      exact ⟨q, by simp [member], there, seq.trans maxSeq, off.trans maxOff⟩
  · intro q member there
    have either : q ∈ slots ∨ q = p := by simpa using member
    by_cases new : verifyFrame (slotFrame img p) = true ∧ c.maxValidSeq < (slotFrame img p).seq.toNat
    · rw [if_pos new] at greatest
      rw [(Prod.mk.inj greatest).1]
      rcases either with old | rfl
      · exact Nat.le_of_lt (Nat.lt_of_le_of_lt (ok.above q old there) new.2)
      · exact Nat.le_refl _
    · rw [if_neg new] at greatest
      rw [(Prod.mk.inj greatest).1]
      rcases either with old | rfl
      · exact ok.above q old there
      · exact Nat.le_of_not_lt fun less => new ⟨there, less⟩

theorem census_empty_ok (img : Image) (covered : Nat) : CensusOk img covered [] .empty :=
  ⟨rfl, rfl, by simp [RecoverCensus.empty], by simp, by simp [RecoverCensus.empty], by simp⟩

theorem slot_census_ok (img : Image) (covered : Nat) (more slots : List Nat) (c : RecoverCensus)
    (ok : CensusOk img covered slots c) : CensusOk img covered (slots ++ more) (slotCensus img covered more c) := by
  induction more generalizing slots c with
  | nil => simpa [slotCensus] using ok
  | cons p more ih =>
      have step := ih (slots ++ [p]) _ (census_note_ok img covered slots c p ok)
      simpa [slotCensus] using step

theorem census_ok (g : Ring) (img : Image) (covered : Nat) :
    CensusOk img covered (List.range g.slots) (slotCensus img covered (List.range g.slots) .empty) := by
  simpa using slot_census_ok img covered (List.range g.slots) [] .empty (census_empty_ok img covered)

-- The live slots counted along the lap that starts at covered.
theorem live_count_lap (g : Ring) (entries : List WalEntry) (written : Nat) (img : Image)
    (placed : Placed g entries written img) (covered : Nat) (near : written ≤ covered + g.slots) (c : RecoverCensus)
    (ok : CensusOk img covered (List.range g.slots) c) :
    c.liveCount = ((List.range' covered g.slots).filter fun v => Present g entries img v).length := by
  have turned := (lap_rotation g.slots covered).filter (liveSlot img covered)
  rw [ok.live, ← turned.length_eq, List.range'_eq_map_range, List.filter_map, List.filter_map, List.length_map, List.length_map]
  congr 1
  apply List.filter_congr
  intro k member
  have bound : k < g.slots := List.mem_range.mp member
  have same := live_slot_present g entries written img placed covered (covered + k) near (by omega) (by omega)
  simp only [Function.comp_apply]
  by_cases here : Present g entries img (covered + k)
  · simp [here, same.mpr here]
  · have dead : liveSlot img covered ((covered + k) % g.slots) = false := by
      cases live : liveSlot img covered ((covered + k) % g.slots) with
      | false => rfl
      | true => exact absurd (same.mp live) here
    simp [here, dead]

end Cabe
