import Cabe.SnapshotBounds
import Cabe.SnapshotWrites

set_option autoImplicit false

namespace Cabe

open Storage

-- The place of the two slots on a device that may fail.
structure SnapshotLaid (s : Snapshot) (sb : SuperBlock) : Prop where
  slotA : s.slotAOff = 8192
  slotB : s.slotBOff = 8192 + s.slotSize
  size : s.slotSize = snapshotSlotSize s.dev.sizeBytes
  capacity : 4096 + alignUp (sb.blockCount * 128) 4096 ≤ s.slotSize
  word : s.dev.sizeBytes < 2 ^ 64
  uuid : s.engineUuid = sb.engineUuid

theorem laid_large (s : Snapshot) (sb : SuperBlock) (laid : SnapshotLaid s sb) : 4096 ≤ s.slotSize := by
  have capacity := laid.capacity
  omega

theorem slots_inside (s : Snapshot) (sb : SuperBlock) (laid : SnapshotLaid s sb) (slot : Slot) :
    8192 ≤ s.slotOff slot ∧ s.slotOff slot + s.slotSize ≤ s.dev.sizeBytes := by
  have large := laid_large s sb laid
  have fits := slot_size_fits s.dev.sizeBytes (by rw [← laid.size]; omega)
  have a := laid.slotA
  have b := laid.slotB
  rw [← laid.size, kDataRegionOffset] at fits
  cases slot <;> simp only [Snapshot.slotOff] <;> omega

theorem slots_disjoint (s : Snapshot) (sb : SuperBlock) (laid : SnapshotLaid s sb) (slot other : Slot) (differ : slot ≠ other) :
    s.slotOff slot + s.slotSize ≤ s.slotOff other ∨ s.slotOff other + s.slotSize ≤ s.slotOff slot := by
  have a := laid.slotA
  have b := laid.slotB
  cases slot <;> cases other <;> simp only [Snapshot.slotOff, ne_eq, not_true_eq_false] at * <;> omega

theorem active_not_target (s : Snapshot) (slot : Slot) (active : s.activeSlot = some slot) : slot ≠ s.target := by
  rcases target_other s with ⟨inactive, _⟩ | other
  · rw [inactive] at active
    cases active
  · rw [active] at other
    cases other
    cases s.target <;> decide

theorem other_of_ne (slot other : Slot) (differ : slot ≠ other) : slot = other.other := by
  cases slot <;> cases other <;> first | rfl | exact absurd rfl differ

-- Two processes on one device see its slots in the same places.
structure SameLayout (a b : Snapshot) : Prop where
  offs : ∀ slot, a.slotOff slot = b.slotOff slot
  size : a.slotSize = b.slotSize
  oks : ∀ h, a.slotOk h = b.slotOk h

def Snapshot.headerIn (s : Snapshot) (img : Image) (slot : Slot) : SnapshotSlotHeader := .ofBytes (read img (s.slotOff slot) 4096)

def Snapshot.acceptsIn (s : Snapshot) (img : Image) (slot : Slot) : Prop := s.slotOk (s.headerIn img slot) = true

def Snapshot.dataIn (s : Snapshot) (img : Image) (slot : Slot) : Prop :=
  Util.crc32 (read img (s.slotOff slot + kSnapshotSlotHeaderSize) (s.headerIn img slot).dataLen.toNat) = (s.headerIn img slot).dataCrc

def Snapshot.genIn (s : Snapshot) (img : Image) (slot : Slot) : Nat := (s.headerIn img slot).generation.toNat

def Snapshot.coveredIn (s : Snapshot) (img : Image) (slot : Slot) : Nat := (s.headerIn img slot).coveredSeq.toNat

-- Content a later process can be relied on to judge rightly. After the number
-- of writes made, returned is the covered_seq of the last one that succeeded.
structure OnDisk (s : Snapshot) (img : Image) (writes : Nat) (returned : Option Nat) : Prop where
  differ : s.acceptsIn img .a → s.acceptsIn img .b → s.genIn img .a ≠ s.genIn img .b
  below : ∀ slot, s.acceptsIn img slot → s.genIn img slot ≤ writes
  fits : ∀ slot, s.acceptsIn img slot → 4096 + (s.headerIn img slot).dataLen.toNat ≤ s.slotSize
  kept : ∀ k, returned = some k → ∃ slot, s.acceptsIn img slot ∧ s.dataIn img slot ∧ k ≤ s.coveredIn img slot ∧
    ∀ other, s.acceptsIn img other → s.genIn img slot < s.genIn img other → k ≤ s.coveredIn img other

-- CRC32C does not accept a header put together from sectors of several: what
-- is accepted was durable, or is one that Write has handed to the device since.
def Whole (s : Snapshot) (issued : List SnapshotSlotHeader) (stable img : Image) : Prop :=
  ∀ slot, s.acceptsIn img slot → s.headerIn img slot = s.headerIn stable slot ∨ slot = s.target ∧ s.headerIn img slot ∈ issued

structure Issued (s : Snapshot) (writes : Nat) (returned : Option Nat) (h : SnapshotSlotHeader) : Prop where
  gen : h.generation.toNat = s.nextGen
  written : s.nextGen ≤ writes
  fits : 4096 + h.dataLen.toNat ≤ s.slotSize
  covered : ∀ k, returned = some k → k ≤ h.coveredSeq.toNat

-- A process between two Writes, or within one, on a medium of which only the
-- slot that is not active has changed since the last Sync.
structure Live (s : Snapshot) (sb : SuperBlock) (m : Medium) (issued : List SnapshotSlotHeader) (writes : Nat)
    (returned : Option Nat) : Prop where
  laid : SnapshotLaid s sb
  opened : s.dev.isOpen = true
  confined : ∀ v ∈ m.versions, ∀ o, (o < s.slotOff s.target ∨ s.slotOff s.target + s.slotSize ≤ o) → v o = m.stable o
  first : 1 ≤ s.nextGen
  gens : s.nextGen ≤ writes + 1
  issued : ∀ h ∈ issued, Issued s writes returned h
  below : ∀ slot, s.acceptsIn m.stable slot → s.genIn m.stable slot < s.nextGen
  fits : ∀ slot, s.acceptsIn m.stable slot → 4096 + (s.headerIn m.stable slot).dataLen.toNat ≤ s.slotSize
  differ : s.acceptsIn m.stable .a → s.acceptsIn m.stable .b → s.genIn m.stable .a ≠ s.genIn m.stable .b
  never : s.activeSlot = none → returned = none ∧ ∀ slot, ¬ s.acceptsIn m.stable slot
  active : ∀ slot, s.activeSlot = some slot → s.acceptsIn m.stable slot ∧ s.dataIn m.stable slot ∧
    ∀ k, returned = some k → k ≤ s.coveredIn m.stable slot ∧
      (s.acceptsIn m.stable slot.other → s.genIn m.stable slot < s.genIn m.stable slot.other → k ≤ s.coveredIn m.stable slot.other)

theorem header_in_congr (s : Snapshot) (img img' : Image) (slot : Slot)
    (same : ∀ i < 4096, img (s.slotOff slot + i) = img' (s.slotOff slot + i)) : s.headerIn img slot = s.headerIn img' slot :=
  congrArg SnapshotSlotHeader.ofBytes (read_congr _ _ _ _ same)

theorem data_in_congr (s : Snapshot) (img img' : Image) (slot : Slot)
    (same : ∀ o, s.slotOff slot ≤ o → o < s.slotOff slot + s.slotSize → img o = img' o)
    (fits : 4096 + (s.headerIn img slot).dataLen.toNat ≤ s.slotSize) (data : s.dataIn img slot) : s.dataIn img' slot := by
  have header : s.headerIn img slot = s.headerIn img' slot :=
    header_in_congr s img img' slot fun i bound => same _ (by omega) (by omega)
  unfold Snapshot.dataIn at data ⊢
  rw [← header, ← data]
  refine congrArg Util.crc32 (read_congr _ _ _ _ fun i bound => ?_)
  rw [kSnapshotSlotHeaderSize]
  exact (same _ (by omega) (by omega)).symm

section Live

variable (s : Snapshot) (sb : SuperBlock) (m : Medium) (issued : List SnapshotSlotHeader) (writes : Nat) (returned : Option Nat)

theorem survivor_outside (live : Live s sb m issued writes returned) (img : Image) (alive : m.Survives kSectorSize img) (o : Nat)
    (outside : o < s.slotOff s.target ∨ s.slotOff s.target + s.slotSize ≤ o) : img o = m.stable o := by
  obtain ⟨v, member, same⟩ := alive (o / kSectorSize)
  rw [same o rfl]
  exact live.confined v member o outside

theorem survivor_other (live : Live s sb m issued writes returned) (img : Image) (alive : m.Survives kSectorSize img) (slot : Slot)
    (other : slot ≠ s.target) (o : Nat) (lower : s.slotOff slot ≤ o) (upper : o < s.slotOff slot + s.slotSize) : img o = m.stable o := by
  have apart := slots_disjoint s sb live.laid slot s.target other
  exact survivor_outside s sb m issued writes returned live img alive o (by omega)

-- Whatever power loss leaves of such a medium.
theorem live_on_disk (live : Live s sb m issued writes returned) (img : Image) (alive : m.Survives kSectorSize img)
    (whole : Whole s issued m.stable img) : OnDisk s img writes returned := by
  have large := laid_large s sb live.laid
  have gens := live.gens
  have other : ∀ slot, slot ≠ s.target → s.headerIn img slot = s.headerIn m.stable slot := fun slot differ =>
    header_in_congr s img m.stable slot fun i bound =>
      survivor_other s sb m issued writes returned live img alive slot differ _ (by omega) (by omega)
  -- What is accepted is a header of the last Sync or has the next generation.
  have origin : ∀ slot, s.acceptsIn img slot → (s.headerIn img slot = s.headerIn m.stable slot ∧ s.acceptsIn m.stable slot) ∨
      (slot = s.target ∧ Issued s writes returned (s.headerIn img slot)) := by
    intro slot accepted
    rcases whole slot accepted with same | ⟨turn, member⟩
    · refine .inl ⟨same, ?_⟩
      unfold Snapshot.acceptsIn at accepted ⊢
      rw [← same]
      exact accepted
    · exact .inr ⟨turn, live.issued _ member⟩
  refine ⟨?_, ?_, ?_, ?_⟩
  · intro acceptA acceptB
    unfold Snapshot.genIn
    rcases origin .a acceptA with ⟨sameA, stableA⟩ | ⟨turnA, newA⟩ <;> rcases origin .b acceptB with ⟨sameB, stableB⟩ | ⟨turnB, newB⟩
    · rw [sameA, sameB]
      exact live.differ stableA stableB
    · have older := live.below .a stableA
      rw [sameA, newB.gen]
      exact Nat.ne_of_lt older
    · have older := live.below .b stableB
      rw [sameB, newA.gen]
      exact (Nat.ne_of_lt older).symm
    · rw [← turnA] at turnB
      cases turnB
  · intro slot accepted
    unfold Snapshot.genIn
    rcases origin slot accepted with ⟨same, stable⟩ | ⟨_, new⟩
    · have older := live.below slot stable
      unfold Snapshot.genIn at older
      rw [same]
      omega
    · rw [new.gen]
      exact new.written
  · intro slot accepted
    rcases origin slot accepted with ⟨same, stable⟩ | ⟨_, new⟩
    · rw [same]
      exact live.fits slot stable
    · exact new.fits
  · intro k last
    cases active : s.activeSlot with
    | none =>
        rw [(live.never active).1] at last
        cases last
    | some slot =>
        have apart := active_not_target s slot active
        obtain ⟨accepted, data, recent⟩ := live.active slot active
        obtain ⟨covered, newer⟩ := recent k last
        have same := other slot apart
        refine ⟨slot, ?_, ?_, ?_, ?_⟩
        · unfold Snapshot.acceptsIn
          rw [same]
          exact accepted
        · exact data_in_congr s m.stable img slot
            (fun o lower upper => (survivor_other s sb m issued writes returned live img alive slot apart o lower upper).symm)
            (live.fits slot accepted) data
        · unfold Snapshot.coveredIn
          rw [same]
          exact covered
        · intro next taken above
          unfold Snapshot.genIn at above
          unfold Snapshot.coveredIn
          rcases origin next taken with ⟨there, stable⟩ | ⟨turn, new⟩
          · rw [same, there] at above
            rw [there]
            have differ : next ≠ slot := by
              intro here
              rw [here] at above
              exact Nat.lt_irrefl _ above
            rw [other_of_ne next slot differ] at stable above ⊢
            exact newer stable above
          · exact new.covered k last

-- A WriteAt to the slot that is not active.
theorem live_put (live : Live s sb m issued writes returned) (img : Image)
    (area : ∃ offset buf, s.SlotArea offset buf ∧ ∀ o, (o < offset ∨ offset + buf.length ≤ o) → img o = m.cur o) :
    Live s sb (m.put img) issued writes returned := by
  obtain ⟨offset, buf, inside, away⟩ := area
  have stable := medium_stable_put m img
  refine ⟨live.laid, live.opened, ?_, live.first, live.gens, live.issued, ?_, ?_, ?_, ?_, ?_⟩
  · intro v member o outside
    rw [stable]
    rw [medium_versions_put] at member
    rcases List.mem_cons.mp member with rfl | old
    · have lower := inside.1
      have upper := inside.2
      rw [away o (by omega)]
      exact live.confined m.cur (medium_cur_mem m) o outside
    · exact live.confined v old o outside
  · rw [stable]; exact live.below
  · rw [stable]; exact live.fits
  · rw [stable]; exact live.differ
  · rw [stable]; exact live.never
  · rw [stable]; exact live.active

end Live

section Calls

variable (c : SnapshotCall) (s : Snapshot)

-- The header of a call, once its records have all been handed over.
def SnapshotCall.issues (c : SnapshotCall) (s : Snapshot) : List SnapshotSlotHeader :=
  if (c.scanned s).1 = Err.kSuccess ∧ (c.drained s).1 = Err.kSuccess then
    [s.header c.coveredSeq (c.drained s).2.count (~~~ (c.drained s).2.crc) c.env.now]
  else []

theorem scanned_encoded (pos : 0 < c.bufSize) (done : (c.scanned s).1 = Err.kSuccess) :
    Encoded s.dev (s.slotOff s.target + kSnapshotSlotHeaderSize) c.bufSize c.entries (c.scanned s).2 := by
  have aligned : c.bufSize % 4096 = 0 := round_up_aligned _
  have visited := visit_all_encoded s.dev (s.slotOff s.target + kSnapshotSlotHeaderSize) c.bufSize (s.slotOff s.target + s.slotSize) aligned
    c.entries [] _ (encoded_start s.dev _ _ pos)
  unfold SnapshotCall.scanned at done ⊢
  rw [scanning_visits]
  apply visited
  unfold scanning at done
  simp only at done
  split at done
  · rename_i failed
    exact absurd done failed
  · rename_i fine
    exact Decidable.not_not.mp fine

-- What the guards of Write leave room for.
theorem drained_fits (pos : 0 < c.bufSize) (scanned : (c.scanned s).1 = Err.kSuccess) (done : (c.drained s).1 = Err.kSuccess) :
    (c.drained s).2.count = c.entries.length ∧
      (0 < c.entries.length → kSnapshotSlotHeaderSize + 128 * c.entries.length ≤ s.slotSize) := by
  have encoded := scanned_encoded c s pos scanned
  have bounded := (scanned_advanced c s).bounded
  have lengths := congrArg List.length encoded.whole
  simp only [List.length_append, read_length, records_length] at lengths
  have lower := encoded.lower
  have padded := align_up_bounds (c.scanned s).2.pending.length
  have count := encoded.count
  unfold SnapshotCall.drained Encoding.drain at done ⊢
  by_cases left : 0 < (c.scanned s).2.pending.length
  · simp only [left, if_true] at done ⊢
    split at done
    · exact absurd (show Err.kDeviceTooSmall = Err.kSuccess from done) (by decide)
    · rename_i fits
      unfold kSnapshotBlockSize at fits ⊢
      rw [if_neg fits]
      refine ⟨count, fun _ => ?_⟩
      omega
  · simp only [left, if_false]
    refine ⟨count, fun some_ => ?_⟩
    rcases bounded with same | inside
    · simp only at same
      omega
    · omega

-- A call that succeeds had room for its entries.
theorem run_room (large : 4096 ≤ s.slotSize) (done : (c.run s).1 = Err.kSuccess) : 4096 + 128 * c.entries.length ≤ s.slotSize := by
  obtain ⟨scanned, drained, pos, _⟩ := run_done c s done
  have fits := (drained_fits c s pos scanned drained).2
  unfold kSnapshotSlotHeaderSize at fits
  by_cases some_ : 0 < c.entries.length
  · exact fits some_
  · omega

theorem issues_issued (writes : Nat) (returned : Option Nat) (pos : 0 < c.bufSize) (large : 4096 ≤ s.slotSize)
    (word : s.nextGen < 2 ^ 64) (gens : s.nextGen ≤ writes + 1) (covered : c.coveredSeq < 2 ^ 64)
    (mono : ∀ k, returned = some k → k ≤ c.coveredSeq) : ∀ h ∈ c.issues s, Issued s (writes + 1) returned h := by
  intro h member
  unfold SnapshotCall.issues at member
  split at member
  · rename_i fine
    obtain ⟨count, fits⟩ := drained_fits c s pos fine.1 fine.2
    rw [List.mem_singleton] at member
    rw [member]
    refine ⟨UInt64.toNat_ofNat_of_lt' word, gens, ?_, ?_⟩
    · have len : (s.header c.coveredSeq (c.drained s).2.count (~~~ (c.drained s).2.crc) c.env.now).dataLen.toNat =
          (c.drained s).2.count * kSnapshotRecordSize % 2 ^ 64 := UInt64.toNat_ofNat'
      rw [len, count]
      have less := Nat.mod_le (c.entries.length * kSnapshotRecordSize) (2 ^ 64)
      unfold kSnapshotRecordSize kSnapshotSlotHeaderSize at *
      by_cases some_ : 0 < c.entries.length
      · have room := fits some_
        omega
      · omega
    · intro k last
      have here : (s.header c.coveredSeq (c.drained s).2.count (~~~ (c.drained s).2.crc) c.env.now).coveredSeq.toNat = c.coveredSeq :=
        UInt64.toNat_ofNat_of_lt' covered
      rw [here]
      exact mono k last
  · cases member

theorem live_device (sb : SuperBlock) (m : Medium) (issued : List SnapshotSlotHeader) (writes : Nat) (returned : Option Nat)
    (live : Live s sb m issued writes returned) (d : RawDevice) (size : d.sizeBytes = s.dev.sizeBytes) (opened : d.isOpen = s.dev.isOpen) :
    Live { s with dev := d } sb m issued writes returned := by
  have laid := live.laid
  refine ⟨⟨laid.slotA, laid.slotB, ?_, laid.capacity, ?_, laid.uuid⟩, opened.trans live.opened, live.confined, live.first, live.gens, ?_,
    live.below, live.fits, live.differ, live.never, live.active⟩
  · show s.slotSize = snapshotSlotSize d.sizeBytes
    rw [size]
    exact laid.size
  · show d.sizeBytes < 2 ^ 64
    rw [size]
    exact laid.word
  · intro h member
    have here := live.issued h member
    exact ⟨here.gen, here.written, here.fits, here.covered⟩

-- A header handed to the device counts from the moment it may have arrived.
theorem live_issue (sb : SuperBlock) (m : Medium) (issued : List SnapshotSlotHeader) (writes : Nat) (returned : Option Nat)
    (live : Live s sb m issued writes returned) (more : ∀ h ∈ c.issues s, Issued s (writes + 1) returned h) :
    Live s sb m (issued ++ c.issues s) (writes + 1) returned := by
  have gens := live.gens
  refine ⟨live.laid, live.opened, live.confined, live.first, by omega, ?_, live.below, live.fits, live.differ, live.never, live.active⟩
  intro h member
  rcases List.mem_append.mp member with old | new
  · have issued := live.issued h old
    exact ⟨issued.gen, Nat.le_succ_of_le issued.written, issued.fits, issued.covered⟩
  · exact more h new

-- The slot of a header that was just written is accepted again.
theorem written_accepted (sb : SuperBlock) (laid : SnapshotLaid s sb) (h : SnapshotSlotHeader) (coveredSeq : Nat) (entries : List IndexEntry)
    (fits : HeaderFits h coveredSeq entries) (verified : verifySlotHeader h = true) (uuid : h.engineUuid = s.engineUuid)
    (room : 4096 + 128 * entries.length ≤ s.slotSize) : s.slotOk h = true := by
  have inside := (slots_inside s sb laid .a).2
  have word := laid.word
  have product : 128 * entries.length = entries.length * 128 % 2 ^ 64 := by omega
  have sum : (4096 + 128 * entries.length) % 2 ^ 64 ≤ s.slotSize := Nat.le_trans (Nat.mod_le _ _) room
  unfold Snapshot.slotOk kSnapshotRecordSize kSnapshotSlotHeaderSize
  rw [verified, fits.count, fits.len]
  rw [← product, decide_eq_true uuid, decide_eq_true rfl, decide_eq_true sum]
  decide

-- What a Write that succeeds leaves behind.
theorem run_live_done (sb : SuperBlock) (issued : List SnapshotSlotHeader) (writes : Nat) (returned : Option Nat)
    (live : Live s sb s.dev.medium issued writes returned) (gens : s.nextGen + 1 < 2 ^ 64) (covered : c.coveredSeq < 2 ^ 64)
    (done : (c.run s).1 = Err.kSuccess) :
    Live (c.run s).2 sb (c.run s).2.dev.medium [] (writes + 1) (some c.coveredSeq) := by
  have large := laid_large s sb live.laid
  have wrote := run_wrote c s done
  have driven := run_driven c s (by unfold kSnapshotSlotHeaderSize; omega)
  have room := run_room c s large done
  generalize (c.run s).2 = after at wrote driven
  obtain ⟨size, opened, _⟩ := driven_same _ _ _ driven
  have inside := (slots_inside s sb live.laid s.target).2
  have word := live.laid.word
  have offs : ∀ slot, after.slotOff slot = s.slotOff slot := by
    intro slot
    rw [wrote.fields]
    cases slot <;> rfl
  have oks : ∀ h, after.slotOk h = s.slotOk h := by
    intro h
    rw [wrote.fields]
    rfl
  have stable : after.dev.medium.stable = after.dev.medium.cur := by
    unfold Medium.stable
    rw [wrote.synced]
    rfl
  have next : after.nextGen = s.nextGen + 1 := by
    rw [wrote.fields]
    exact Nat.mod_eq_of_lt gens
  have slotSize : after.slotSize = s.slotSize := by rw [wrote.fields]
  have active : after.activeSlot = some s.target := by rw [wrote.fields]
  -- The slot that was written.
  have fits : HeaderFits (s.header c.coveredSeq c.entries.length (Util.crc32 (recordsBytes c.entries)) c.env.now) c.coveredSeq c.entries :=
    header_fits s c.coveredSeq c.entries c.env.now covered (by omega)
  have verified := header_verifies s c.coveredSeq c.entries.length (Util.crc32 (recordsBytes c.entries)) c.env.now
  have generation : (s.header c.coveredSeq c.entries.length (Util.crc32 (recordsBytes c.entries)) c.env.now).generation.toNat = s.nextGen :=
    UInt64.toNat_ofNat_of_lt' (by
      show s.nextGen < 2 ^ 64
      omega)
  have uuid : (s.header c.coveredSeq c.entries.length (Util.crc32 (recordsBytes c.entries)) c.env.now).engineUuid = s.engineUuid := rfl
  have holds := wrote.holds
  generalize s.header c.coveredSeq c.entries.length (Util.crc32 (recordsBytes c.entries)) c.env.now = h at fits verified generation uuid holds
  have here : after.headerIn after.dev.medium.cur s.target = h := by
    unfold Snapshot.headerIn
    rw [offs, holds.header]
    exact header_of_to_bytes h
  have accepted : s.slotOk h = true := written_accepted s sb live.laid h c.coveredSeq c.entries fits verified uuid room
  -- The other one is as the last Sync left it.
  have other : ∀ slot, slot ≠ s.target → after.headerIn after.dev.medium.cur slot = s.headerIn s.dev.medium.stable slot := by
    intro slot differ
    have apart := slots_disjoint s sb live.laid slot s.target differ
    unfold Snapshot.headerIn
    rw [offs]
    refine congrArg SnapshotSlotHeader.ofBytes (read_congr _ _ _ _ fun i bound => ?_)
    rw [driven_outside _ _ _ driven _ fun offset buf area => by
      obtain ⟨lower, upper⟩ := area
      omega]
    exact live.confined _ (medium_cur_mem _) _ (by omega)
  have older : ∀ slot, slot ≠ s.target → after.acceptsIn after.dev.medium.cur slot →
      s.acceptsIn s.dev.medium.stable slot ∧ after.genIn after.dev.medium.cur slot < s.nextGen := by
    intro slot differ taken
    unfold Snapshot.acceptsIn at taken
    rw [other slot differ, oks] at taken
    unfold Snapshot.genIn
    rw [other slot differ]
    exact ⟨taken, live.below slot taken⟩
  have written : after.genIn after.dev.medium.cur s.target = s.nextGen := by
    unfold Snapshot.genIn
    rw [here, generation]
  have first := live.first
  have bound := live.gens
  rw [← stable] at here other older written
  refine ⟨⟨?_, ?_, ?_, ?_, ?_, ?_⟩, opened.trans live.opened, ?_, by omega, by omega, (fun h member => nomatch member), ?_, ?_, ?_, ?_, ?_⟩
  · rw [wrote.fields]; exact live.laid.slotA
  · rw [wrote.fields]; exact live.laid.slotB
  · rw [slotSize, size]; exact live.laid.size
  · rw [slotSize]; exact live.laid.capacity
  · rw [size]; exact word
  · rw [wrote.fields]; exact live.laid.uuid
  · intro v member o _
    rw [stable]
    unfold Medium.versions at member
    rw [wrote.synced, List.mem_singleton] at member
    rw [member]
  · intro slot taken
    by_cases turn : slot = s.target
    · rw [turn, written]
      omega
    · have less := (older slot turn taken).2
      omega
  · intro slot taken
    by_cases turn : slot = s.target
    · rw [turn, here, fits.len, slotSize]
      exact room
    · rw [other slot turn, slotSize]
      exact live.fits slot (older slot turn taken).1
  · intro takenA takenB
    cases turn : s.target with
    | a =>
        rw [turn] at written older
        rw [written]
        exact (Nat.ne_of_lt (older .b (by decide) takenB).2).symm
    | b =>
        rw [turn] at written older
        rw [written]
        exact Nat.ne_of_lt (older .a (by decide) takenA).2
  · intro none_
    rw [active] at none_
    cases none_
  · intro slot turn
    rw [active] at turn
    cases turn
    refine ⟨?_, ?_, ?_⟩
    · unfold Snapshot.acceptsIn
      rw [here, oks]
      exact accepted
    · unfold Snapshot.dataIn
      rw [here, offs, stable, fits.len, kSnapshotSlotHeaderSize, holds.records, fits.crc]
    · intro k last
      cases last
      refine ⟨?_, ?_⟩
      · unfold Snapshot.coveredIn
        rw [here, fits.covered]
      · intro taken above
        have less := (older s.target.other (by cases s.target <;> decide) taken).2
        omega

-- The calls of a Write up to its Sync, and what holds at each point of them.
theorem headed_live (sb : SuperBlock) (issued : List SnapshotSlotHeader) (writes : Nat) (returned : Option Nat)
    (live : Live s sb s.dev.medium issued writes returned) (d : RawDevice) (written : Written s.dev d s.SlotArea) :
    Traced s.dev d (fun m => Live s sb m issued writes returned) ∧ Live s sb d.medium issued writes returned :=
  written_traced _ _ _ (fun m => Live s sb m issued writes returned) written live fun m img here area =>
    live_put s sb m issued writes returned here img area

theorem run_live_failed (sb : SuperBlock) (issued : List SnapshotSlotHeader) (writes : Nat) (returned : Option Nat)
    (live : Live s sb s.dev.medium issued writes returned) (failed : (c.run s).1 ≠ Err.kSuccess) :
    Live (c.run s).2 sb (c.run s).2.dev.medium issued writes returned ∧
      Traced s.dev (c.run s).2.dev (fun m => Live s sb m issued writes returned) := by
  have large := laid_large s sb live.laid
  have every := headed_live s sb issued writes returned live
  have scanned := every _ (written_mono _ _ _ _ (record_slot_area s) (scanned_written c s))
  have drained := every _ (written_mono _ _ _ _ (record_slot_area s) (drained_written c s))
  have headed := every _ (headed_written c s (by unfold kSnapshotSlotHeaderSize; omega))
  have synced : (c.headed s).2.sync.1 ≠ Err.kSuccess → Live s sb (c.headed s).2.sync.2.medium issued writes returned ∧
      Traced s.dev (c.headed s).2.sync.2 (fun m => Live s sb m issued writes returned) := by
    intro stopped
    rcases sync_failed _ stopped with same | same
    · rw [same]
      exact ⟨headed.2, headed.1⟩
    · rw [same]
      exact ⟨headed.2, traced_trans _ _ _ _ headed.1 (traced_record _ _ _ headed.2)⟩
  have driven := run_driven c s (by unfold kSnapshotSlotHeaderSize; omega)
  obtain ⟨size, opened, _⟩ := driven_same _ _ _ driven
  have fields := run_failed c s failed
  have here : Live s sb (c.run s).2.dev.medium issued writes returned ∧
      Traced s.dev (c.run s).2.dev (fun m => Live s sb m issued writes returned) := by
    have ran := run_ran c s
    generalize (c.run s).1 = rc at ran failed
    generalize (c.run s).2 = after at ran
    cases ran with
    | refused => exact ⟨live, traced_refl _ _⟩
    | scan => exact ⟨scanned.2, scanned.1⟩
    | drain => exact ⟨drained.2, drained.1⟩
    | overrun => exact ⟨drained.2, drained.1⟩
    | header => exact ⟨headed.2, headed.1⟩
    | sync _ _ _ _ stopped => exact synced stopped
    | done => exact absurd rfl failed
  refine ⟨?_, here.2⟩
  have moved := live_device s sb _ issued writes returned here.1 (c.run s).2.dev size opened
  rw [← fields] at moved
  exact moved

theorem on_disk_layout (a b : Snapshot) (img : Image) (writes : Nat) (returned : Option Nat) (same : SameLayout a b)
    (disk : OnDisk a img writes returned) : OnDisk b img writes returned := by
  have headers : ∀ slot, a.headerIn img slot = b.headerIn img slot := by
    intro slot
    unfold Snapshot.headerIn
    rw [same.offs]
  have accepts : ∀ slot, a.acceptsIn img slot ↔ b.acceptsIn img slot := by
    intro slot
    unfold Snapshot.acceptsIn
    rw [headers, same.oks]
  have gens : ∀ slot, a.genIn img slot = b.genIn img slot := fun slot => congrArg (fun h => h.generation.toNat) (headers slot)
  have covered : ∀ slot, a.coveredIn img slot = b.coveredIn img slot := fun slot => congrArg (fun h => h.coveredSeq.toNat) (headers slot)
  have data : ∀ slot, a.dataIn img slot ↔ b.dataIn img slot := by
    intro slot
    unfold Snapshot.dataIn
    rw [headers, same.offs]
  refine ⟨?_, ?_, ?_, ?_⟩
  · intro takenA takenB
    rw [← gens, ← gens]
    exact disk.differ ((accepts .a).mpr takenA) ((accepts .b).mpr takenB)
  · intro slot taken
    rw [← gens]
    exact disk.below slot ((accepts slot).mpr taken)
  · intro slot taken
    rw [← headers, ← same.size]
    exact disk.fits slot ((accepts slot).mpr taken)
  · intro k last
    obtain ⟨slot, taken, valid, recent, newer⟩ := disk.kept k last
    refine ⟨slot, (accepts slot).mp taken, (data slot).mp valid, by rw [← covered]; exact recent, ?_⟩
    intro other there above
    rw [← gens, ← gens] at above
    rw [← covered]
    exact newer other ((accepts other).mpr there) above

theorem on_disk_weaken (img : Image) (writes k : Nat) (returned : Option Nat) (older : ∀ j, returned = some j → j ≤ k)
    (disk : OnDisk s img writes (some k)) : OnDisk s img writes returned := by
  refine ⟨disk.differ, disk.below, disk.fits, ?_⟩
  intro j last
  have less := older j last
  obtain ⟨slot, taken, valid, recent, newer⟩ := disk.kept k rfl
  exact ⟨slot, taken, valid, Nat.le_trans less recent, fun other there above => Nat.le_trans less (newer other there above)⟩

-- Power may fail at any call of a Write.
theorem run_crash (sb : SuperBlock) (issued : List SnapshotSlotHeader) (writes : Nat) (returned : Option Nat)
    (live : Live s sb s.dev.medium issued writes returned) (pos : 0 < c.bufSize) (gens : s.nextGen + 1 < 2 ^ 64)
    (covered : c.coveredSeq < 2 ^ 64) (mono : ∀ k, returned = some k → k ≤ c.coveredSeq) (m : Medium)
    (during : m ∈ (c.run s).2.dev.trace.drop s.dev.trace.length) (img : Image) (alive : m.Survives kSectorSize img)
    (whole : Whole s (issued ++ c.issues s) m.stable img) : OnDisk s img (writes + 1) returned := by
  have large := laid_large s sb live.laid
  have issuing := live_issue c s sb s.dev.medium issued writes returned live
    (issues_issued c s writes returned pos large (by omega) live.gens covered mono)
  by_cases done : (c.run s).1 = Err.kSuccess
  · have after := run_live_done c s sb issued writes returned live gens covered done
    have headed := headed_live s sb _ _ _ issuing _ (headed_written c s (by unfold kSnapshotSlotHeaderSize; omega))
    have wrote := run_wrote c s done
    have layout : SameLayout (c.run s).2 s := by
      rw [wrote.fields]
      exact ⟨fun slot => by cases slot <;> rfl, rfl, fun _ => rfl⟩
    have synced : (c.run s).2.dev = (c.headed s).2.record (c.headed s).2.medium.flush := by
      obtain ⟨_, _, _, _, fine, device⟩ := run_done c s done
      rw [device, (sync_ok _ fine).2]
    obtain ⟨⟨calls, trace, _, every⟩, _⟩ := headed
    rw [synced, record_trace, trace, List.append_assoc, List.drop_left] at during
    rcases List.mem_append.mp during with earlier | last
    · exact live_on_disk s sb m _ _ _ (every m earlier) img alive whole
    · have flushed : m = (c.run s).2.dev.medium := by
        rw [synced]
        exact List.mem_singleton.mp last
      have only : img = (c.run s).2.dev.medium.stable := by
        have same := survives_flushed kSectorSize m img (by rw [flushed]; exact wrote.synced) alive
        rw [same, flushed]
        unfold Medium.stable
        rw [wrote.synced]
        rfl
      rw [flushed] at alive
      have disk := live_on_disk _ sb _ _ _ _ after img alive (by rw [only]; exact fun slot _ => .inl rfl)
      exact on_disk_weaken s img _ _ _ mono (on_disk_layout _ s img _ _ layout disk)
  · obtain ⟨_, calls, trace, _, every⟩ := run_live_failed c s sb _ _ _ issuing done
    rw [trace, List.drop_left] at during
    exact live_on_disk s sb m _ _ _ (every m during) img alive whole

end Calls

end Cabe
