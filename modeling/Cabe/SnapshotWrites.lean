import Cabe.SnapshotReopen

set_option autoImplicit false

namespace Cabe

open Storage

-- One call of Write. Its scan hands over the entries and then returns its own
-- code; a visitor that refuses ends it at once.
structure SnapshotCall where
  opts : Options
  env : SnapshotEnv
  coveredSeq : Nat
  entries : List IndexEntry
  code : Rc

def scanning (entries : List IndexEntry) (code : Rc) : MetaIndexVisitor Encoding → Encoding → Rc × Encoding := fun visitor e =>
  match visitAll visitor e entries with
  | (rc, e) => if rc ≠ Err.kSuccess then (rc, e) else (code, e)

def SnapshotCall.run (c : SnapshotCall) (s : Snapshot) : Rc × Snapshot :=
  s.write c.opts c.env c.coveredSeq (scanning c.entries c.code)

def SnapshotCall.bufSize (c : SnapshotCall) : Nat := roundUpBufferSize c.opts.snapshotBufferSize kSnapshotBlockSize

-- The stages of a call: the scan, what is left in the buffer, the header.
def SnapshotCall.scanned (c : SnapshotCall) (s : Snapshot) : Rc × Encoding :=
  scanning c.entries c.code (Encoding.visit c.bufSize (s.slotOff s.target + s.slotSize))
    ⟨s.dev, [], s.slotOff s.target + kSnapshotSlotHeaderSize, 0, 0xFFFFFFFF⟩

def SnapshotCall.drained (c : SnapshotCall) (s : Snapshot) : Rc × Encoding :=
  (c.scanned s).2.drain (s.slotOff s.target + s.slotSize)

def SnapshotCall.headed (c : SnapshotCall) (s : Snapshot) : Rc × RawDevice :=
  (c.drained s).2.dev.writeAt (s.slotOff s.target)
    (s.header c.coveredSeq (c.drained s).2.count (~~~ (c.drained s).2.crc) c.env.now).toBytes

-- All that a call can come to.
inductive SnapshotCall.Ran (c : SnapshotCall) (s : Snapshot) : Rc → Snapshot → Prop where
  | refused (closed : s.dev.isOpen = false ∨ c.env.alloc c.bufSize = false) : Ran c s Err.kSnapshotWriteFailed s
  | scan (failed : (c.scanned s).1 ≠ Err.kSuccess) : Ran c s (c.scanned s).1 { s with dev := (c.scanned s).2.dev }
  | drain (scanned : (c.scanned s).1 = Err.kSuccess) (failed : (c.drained s).1 ≠ Err.kSuccess) :
      Ran c s (c.drained s).1 { s with dev := (c.drained s).2.dev }
  | overrun (scanned : (c.scanned s).1 = Err.kSuccess) (drained : (c.drained s).1 = Err.kSuccess) (none_ : c.bufSize = 0) :
      Ran c s Err.kOverrun { s with dev := (c.drained s).2.dev }
  | header (scanned : (c.scanned s).1 = Err.kSuccess) (drained : (c.drained s).1 = Err.kSuccess) (pos : 0 < c.bufSize)
      (failed : (c.headed s).1 ≠ Err.kSuccess) : Ran c s Err.kSnapshotWriteFailed { s with dev := (c.headed s).2 }
  | sync (scanned : (c.scanned s).1 = Err.kSuccess) (drained : (c.drained s).1 = Err.kSuccess) (pos : 0 < c.bufSize)
      (headed : (c.headed s).1 = Err.kSuccess) (failed : (c.headed s).2.sync.1 ≠ Err.kSuccess) :
      Ran c s Err.kSnapshotWriteFailed { s with dev := (c.headed s).2.sync.2 }
  | done (scanned : (c.scanned s).1 = Err.kSuccess) (drained : (c.drained s).1 = Err.kSuccess) (pos : 0 < c.bufSize)
      (headed : (c.headed s).1 = Err.kSuccess) (synced : (c.headed s).2.sync.1 = Err.kSuccess) :
      Ran c s Err.kSuccess { s with
        dev := (c.headed s).2.sync.2
        activeSlot := some s.target
        lastCoveredSeq := c.coveredSeq
        activeEntryCount := (c.drained s).2.count
        nextGen := (s.nextGen + 1) % 2 ^ 64 }

theorem run_ran (c : SnapshotCall) (s : Snapshot) : c.Ran s (c.run s).1 (c.run s).2 := by
  unfold SnapshotCall.run Snapshot.write
  by_cases shut : s.dev.isOpen = false
  · rw [if_pos shut]
    exact .refused (.inl shut)
  rw [if_neg shut]
  by_cases short : c.env.alloc c.bufSize = false
  · have here := SnapshotCall.Ran.refused (.inr short) (s := s)
    unfold SnapshotCall.bufSize at short
    simp only [short, if_true]
    exact here
  have alloc := short
  unfold SnapshotCall.bufSize at alloc
  simp only [alloc]
  by_cases scanFine : (c.scanned s).1 = Err.kSuccess
  swap
  · have here := SnapshotCall.Ran.scan scanFine
    have stop := scanFine
    unfold SnapshotCall.scanned SnapshotCall.bufSize at stop here
    simp only [ne_eq, stop, not_false_eq_true, if_true]
    exact here
  have scanOn := scanFine
  unfold SnapshotCall.scanned SnapshotCall.bufSize at scanOn
  simp only [ne_eq, scanOn, not_true_eq_false, if_false]
  by_cases drainFine : (c.drained s).1 = Err.kSuccess
  swap
  · have here := SnapshotCall.Ran.drain scanFine drainFine
    have stop := drainFine
    unfold SnapshotCall.drained SnapshotCall.scanned SnapshotCall.bufSize at stop here
    simp only [stop, not_false_eq_true, if_true]
    exact here
  have drainOn := drainFine
  unfold SnapshotCall.drained SnapshotCall.scanned SnapshotCall.bufSize at drainOn
  simp only [drainOn, not_true_eq_false, if_false]
  by_cases none_ : c.bufSize = 0
  · have here := SnapshotCall.Ran.overrun scanFine drainFine none_
    unfold SnapshotCall.drained SnapshotCall.scanned at here
    unfold SnapshotCall.bufSize at none_ here
    rw [if_pos none_]
    exact here
  have pos := Nat.pos_of_ne_zero none_
  unfold SnapshotCall.bufSize at none_
  rw [if_neg none_]
  by_cases headFine : (c.headed s).1 = Err.kSuccess
  swap
  · have here := SnapshotCall.Ran.header scanFine drainFine pos headFine
    have stop := headFine
    unfold SnapshotCall.headed SnapshotCall.drained SnapshotCall.scanned SnapshotCall.bufSize at stop here
    simp only [stop, not_false_eq_true, if_true]
    exact here
  have headOn := headFine
  unfold SnapshotCall.headed SnapshotCall.drained SnapshotCall.scanned SnapshotCall.bufSize at headOn
  simp only [headOn, not_true_eq_false, if_false]
  by_cases syncFine : (c.headed s).2.sync.1 = Err.kSuccess
  · have here := SnapshotCall.Ran.done scanFine drainFine pos headFine syncFine
    unfold SnapshotCall.headed SnapshotCall.drained SnapshotCall.scanned SnapshotCall.bufSize at syncFine here
    simp only [syncFine, not_true_eq_false, if_false]
    exact here
  · have here := SnapshotCall.Ran.sync scanFine drainFine pos headFine syncFine
    unfold SnapshotCall.headed SnapshotCall.drained SnapshotCall.scanned SnapshotCall.bufSize at syncFine here
    simp only [syncFine, not_false_eq_true, if_true]
    exact here

theorem scanning_success (entries : List IndexEntry) :
    scanning entries Err.kSuccess = fun visitor e => visitAll visitor e entries := by
  funext visitor e
  unfold scanning
  cases visited : visitAll visitor e entries with
  | mk rc next =>
      simp only
      split
      · rfl
      · rename_i fine
        rw [Decidable.not_not.mp fine]

theorem scanning_code (entries : List IndexEntry) (code : Rc) (visitor : MetaIndexVisitor Encoding) (e : Encoding)
    (done : (scanning entries code visitor e).1 = Err.kSuccess) : code = Err.kSuccess := by
  unfold scanning at done
  simp only at done
  split at done
  · rename_i failed
    exact absurd done failed
  · exact done

theorem scanning_visits (entries : List IndexEntry) (code : Rc) (visitor : MetaIndexVisitor Encoding) (e : Encoding) :
    (scanning entries code visitor e).2 = (visitAll visitor e entries).2 := by
  unfold scanning
  simp only
  split <;> rfl

-- Where the WriteAt calls between two states of an encoding go.
structure Encoding.Advanced (e next : Encoding) (dataEnd : Nat) : Prop where
  calls : Written e.dev next.dev fun offset buf => e.off ≤ offset ∧ offset + buf.length ≤ dataEnd
  forward : e.off ≤ next.off
  bounded : next.off = e.off ∨ next.off ≤ dataEnd

theorem advanced_refl (e : Encoding) (dataEnd : Nat) : e.Advanced e dataEnd := ⟨written_refl e.dev _, Nat.le_refl _, .inl rfl⟩

theorem advanced_trans (a b c : Encoding) (dataEnd : Nat) (first : a.Advanced b dataEnd) (second : b.Advanced c dataEnd) :
    a.Advanced c dataEnd := by
  refine ⟨written_trans _ _ _ _ first.calls ?_, Nat.le_trans first.forward second.forward, ?_⟩
  · exact written_mono _ _ _ _ (fun _ _ inside => ⟨Nat.le_trans first.forward inside.1, inside.2⟩) second.calls
  · rcases second.bounded with same | inside
    · rw [same]
      exact first.bounded
    · exact .inr inside

theorem visit_advanced (bufSize dataEnd : Nat) (e : Encoding) (key : Key) (meta_ : ValueMeta) :
    e.Advanced (Encoding.visit bufSize dataEnd e key meta_).2 dataEnd := by
  unfold Encoding.visit
  split
  · exact advanced_refl e dataEnd
  · split
    · exact advanced_refl e dataEnd
    · simp only
      split
      · split
        · exact ⟨written_refl e.dev _, Nat.le_refl _, .inl rfl⟩
        · rename_i fits
          have written := written_write e.dev e.off (e.pending ++ (encodeSnapshotRecord key meta_).toBytes)
            (fun offset buf => e.off ≤ offset ∧ offset + buf.length ≤ dataEnd) ⟨Nat.le_refl _, Nat.le_of_not_lt fits⟩
          split
          · exact ⟨written, Nat.le_refl _, .inl rfl⟩
          · exact ⟨written, Nat.le_add_right _ _, .inr (Nat.le_of_not_lt fits)⟩
      · exact ⟨written_refl e.dev _, Nat.le_refl _, .inl rfl⟩

theorem visit_all_advanced (bufSize dataEnd : Nat) (entries : List IndexEntry) (e : Encoding) :
    e.Advanced (visitAll (Encoding.visit bufSize dataEnd) e entries).2 dataEnd := by
  induction entries generalizing e with
  | nil => exact advanced_refl e dataEnd
  | cons entry rest ih =>
      have step := visit_advanced bufSize dataEnd e entry.1 entry.2
      unfold visitAll
      cases visited : Encoding.visit bufSize dataEnd e entry.1 entry.2 with
      | mk rc next =>
          rw [visited] at step
          simp only
          split
          · exact step
          · exact advanced_trans _ _ _ _ step (ih next)

theorem drain_advanced (dataEnd : Nat) (e : Encoding) : e.Advanced (e.drain dataEnd).2 dataEnd := by
  unfold Encoding.drain
  split
  · simp only
    split
    · exact advanced_refl e dataEnd
    · rename_i left fits
      refine ⟨written_write e.dev e.off _ _ ⟨Nat.le_refl _, ?_⟩, Nat.le_refl _, .inl rfl⟩
      have padded := align_up_bounds e.pending.length
      unfold kSnapshotBlockSize at fits ⊢
      rw [List.length_append, zeros_length]
      omega
  · exact advanced_refl e dataEnd

section Calls

variable (c : SnapshotCall) (s : Snapshot)

-- The bytes of the slot being written, and those of them that hold its records.
def Snapshot.SlotArea (s : Snapshot) (offset : Nat) (buf : Bytes) : Prop :=
  s.slotOff s.target ≤ offset ∧ offset + buf.length ≤ s.slotOff s.target + s.slotSize

def Snapshot.RecordArea (s : Snapshot) (offset : Nat) (buf : Bytes) : Prop :=
  s.slotOff s.target + kSnapshotSlotHeaderSize ≤ offset ∧ offset + buf.length ≤ s.slotOff s.target + s.slotSize

theorem record_slot_area (offset : Nat) (buf : Bytes) (area : s.RecordArea offset buf) : s.SlotArea offset buf :=
  ⟨Nat.le_trans (Nat.le_add_right _ _) area.1, area.2⟩

theorem scanned_advanced : Encoding.Advanced ⟨s.dev, [], s.slotOff s.target + kSnapshotSlotHeaderSize, 0, 0xFFFFFFFF⟩ (c.scanned s).2
    (s.slotOff s.target + s.slotSize) := by
  unfold SnapshotCall.scanned
  rw [scanning_visits]
  exact visit_all_advanced _ _ _ _

theorem scanned_written : Written s.dev (c.scanned s).2.dev s.RecordArea := (scanned_advanced c s).calls

theorem drained_written : Written s.dev (c.drained s).2.dev s.RecordArea :=
  (advanced_trans _ _ _ _ (scanned_advanced c s) (drain_advanced _ _)).calls

theorem headed_written (large : kSnapshotSlotHeaderSize ≤ s.slotSize) : Written s.dev (c.headed s).2 s.SlotArea := by
  refine written_trans _ _ _ _ (written_mono _ _ _ _ (record_slot_area s) (drained_written c s)) (written_write _ _ _ _ ⟨Nat.le_refl _, ?_⟩)
  rw [header_bytes_length]
  unfold kSnapshotSlotHeaderSize at large
  omega

-- No WriteAt of a call leaves the slot it is for.
theorem run_driven (large : kSnapshotSlotHeaderSize ≤ s.slotSize) : Driven s.dev (c.run s).2.dev s.SlotArea := by
  have ran := run_ran c s
  have records := written_driven _ _ _ (written_mono _ _ _ _ (record_slot_area s) (scanned_written c s))
  have rest := written_driven _ _ _ (written_mono _ _ _ _ (record_slot_area s) (drained_written c s))
  have headed := written_driven _ _ _ (headed_written c s large)
  generalize (c.run s).1 = rc at ran
  generalize (c.run s).2 = after at ran
  cases ran with
  | refused => exact driven_refl s.dev _
  | scan => exact records
  | drain => exact rest
  | overrun => exact rest
  | header => exact headed
  | sync => exact driven_trans _ _ _ _ headed (driven_sync _ _)
  | done => exact driven_trans _ _ _ _ headed (driven_sync _ _)

-- A call that fails changes nothing but the device.
theorem run_failed (failed : (c.run s).1 ≠ Err.kSuccess) : (c.run s).2 = { s with dev := (c.run s).2.dev } := by
  have ran := run_ran c s
  generalize (c.run s).1 = rc at ran failed
  generalize (c.run s).2 = after at ran
  cases ran with
  | done => exact absurd rfl failed
  | _ => rfl

theorem run_done (done : (c.run s).1 = Err.kSuccess) : (c.scanned s).1 = Err.kSuccess ∧ (c.drained s).1 = Err.kSuccess ∧ 0 < c.bufSize ∧
    (c.headed s).1 = Err.kSuccess ∧ (c.headed s).2.sync.1 = Err.kSuccess ∧ (c.run s).2.dev = (c.headed s).2.sync.2 := by
  have ran := run_ran c s
  rw [done] at ran
  generalize (c.run s).2 = after at ran
  generalize rc : Err.kSuccess = code at ran
  cases ran with
  | refused => exact absurd rc (by decide)
  | scan failed => exact absurd rc.symm failed
  | drain _ failed => exact absurd rc.symm failed
  | overrun => exact absurd rc (by decide)
  | header => exact absurd rc (by decide)
  | sync => exact absurd rc (by decide)
  | done scanned drained pos headed synced => exact ⟨scanned, drained, pos, headed, synced, rfl⟩

-- A call that succeeds has written the entries of its scan.
theorem run_wrote (done : (c.run s).1 = Err.kSuccess) : Wrote s c.coveredSeq c.env.now c.entries (c.run s).2 := by
  obtain ⟨scanned, _, pos, _⟩ := run_done c s done
  have code : c.code = Err.kSuccess := scanning_code c.entries c.code _ _ scanned
  unfold SnapshotCall.run at done ⊢
  rw [code, scanning_success] at done ⊢
  exact write_success s c.opts c.env c.coveredSeq c.entries pos done

theorem run_layout : (c.run s).2.slotAOff = s.slotAOff ∧ (c.run s).2.slotBOff = s.slotBOff ∧ (c.run s).2.slotSize = s.slotSize ∧
    (c.run s).2.engineUuid = s.engineUuid := by
  have ran := run_ran c s
  generalize (c.run s).1 = rc at ran
  generalize (c.run s).2 = after at ran
  cases ran <;> exact ⟨rfl, rfl, rfl, rfl⟩

theorem run_ready (sb : SuperBlock) (ready : SnapshotReady s sb) : SnapshotReady (c.run s).2 sb := by
  have driven := run_driven c s (by
    have capacity := ready.capacity
    unfold kSnapshotSlotHeaderSize
    omega)
  obtain ⟨slotA, slotB, slotSize, uuid⟩ := run_layout c s
  generalize (c.run s).2 = after at driven slotA slotB slotSize uuid
  have size := (driven_same _ _ _ driven).1
  refine ⟨driven_healthy _ _ _ driven ready.healthy, ?_, ?_, ?_, ?_, ?_, ?_⟩
  · rw [slotA]; exact ready.slotA
  · rw [slotB, slotSize]; exact ready.slotB
  · rw [slotSize, size]; exact ready.size
  · rw [slotSize]; exact ready.pos
  · rw [slotSize]; exact ready.capacity
  · rw [uuid]; exact ready.uuid

end Calls

end Cabe
