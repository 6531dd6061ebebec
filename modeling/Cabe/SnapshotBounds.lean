import Cabe.SnapshotVerdict

set_option autoImplicit false

namespace Cabe

open Storage

-- The ReadAt calls of the checking loop, as offset and length. A loop that is
-- never left repeats its last call.
def Snapshot.verifyCalls (s : Snapshot) (bufSize off remaining : Nat) : List (Nat × Nat) :=
  if 0 < remaining then
    let want := min bufSize (alignUp (min remaining bufSize) kSnapshotBlockSize)
    (off, want) ::
      match s.dev.readAt off want with
      | none => []
      | some _ =>
          let use := min remaining want
          if 0 < use then s.verifyCalls bufSize (off + want) (remaining - use) else []
  else []
termination_by remaining
decreasing_by omega

def Snapshot.verifySlotCalls (s : Snapshot) (opts : Options) (env : SnapshotEnv) (slot : Slot) (h : SnapshotSlotHeader) : List (Nat × Nat) :=
  if h.dataLen.toNat = 0 then []
  else
    let bufSize := roundUpBufferSize opts.snapshotBufferSize kSnapshotBlockSize
    if env.alloc bufSize = false then []
    else s.verifyCalls bufSize (s.slotOff slot + kSnapshotSlotHeaderSize) h.dataLen.toNat

-- The ReadAt calls of the loading loop.
def Snapshot.loadCalls {σ : Type} (s : Snapshot) (visitor : MetaIndexVisitor σ) (bufSize off remaining : Nat) (st : σ) : List (Nat × Nat) :=
  if 0 < remaining then
    let want := min bufSize (alignUp (min (remaining * kSnapshotRecordSize % 2 ^ 64) bufSize) kSnapshotBlockSize)
    (off, want) ::
      match s.dev.readAt off want with
      | none => []
      | some buf =>
          let recsHere := min remaining (want / kSnapshotRecordSize)
          match loadRecords visitor buf (List.range recsHere) st with
          | (rc, st1) =>
            if rc ≠ Err.kSuccess then []
            else if 0 < recsHere then s.loadCalls visitor bufSize (off + want) (remaining - recsHere) st1
            else []
  else []
termination_by remaining
decreasing_by exact Nat.sub_lt (by assumption) (by assumption)

def Snapshot.loadSlotCalls {σ : Type} (s : Snapshot) (opts : Options) (env : SnapshotEnv) (visitor : MetaIndexVisitor σ) (st : σ) :
    List (Nat × Nat) :=
  if s.dev.isOpen = false then []
  else
    match s.activeSlot with
    | none => []
    | some slot =>
        if s.activeEntryCount = 0 then []
        else
          let bufSize := roundUpBufferSize opts.snapshotBufferSize kSnapshotBlockSize
          if env.alloc bufSize = false then []
          else s.loadCalls visitor bufSize (s.slotOff slot + kSnapshotSlotHeaderSize) s.activeEntryCount st

-- A visitor that also counts the records it is given.
def counting {σ : Type} (visitor : MetaIndexVisitor σ) : MetaIndexVisitor (σ × Nat) := fun st key meta_ =>
  match visitor st.1 key meta_ with
  | (rc, next) => (rc, (next, st.2 + 1))

def Snapshot.Inside (s : Snapshot) (slot : Slot) (call : Nat × Nat) : Prop :=
  s.slotOff slot ≤ call.1 ∧ call.1 + call.2 ≤ s.slotOff slot + s.slotSize

theorem verify_calls_inside (s : Snapshot) (bufSize : Nat) (aligned : bufSize % 4096 = 0) (pos : 0 < bufSize) (off remaining : Nat) :
    ∀ call ∈ s.verifyCalls bufSize off remaining, off ≤ call.1 ∧ call.1 + call.2 ≤ off + alignUp remaining 4096 := by
  induction remaining using Nat.strong_induction_on generalizing off with
  | h remaining ih =>
      intro call member
      rw [Snapshot.verifyCalls] at member
      by_cases more : 0 < remaining
      · rw [if_pos more] at member
        simp only [kSnapshotBlockSize] at member
        have bounds := want_bounds bufSize remaining aligned pos more
        simp only at bounds
        obtain ⟨want, named⟩ : ∃ want, min bufSize (alignUp (min remaining bufSize) 4096) = want := ⟨_, rfl⟩
        simp only [named] at bounds member
        rcases List.mem_cons.mp member with rfl | later
        · exact ⟨Nat.le_refl _, by show off + want ≤ _; omega⟩
        · cases found : s.dev.readAt off want with
          | none =>
              rw [found] at later
              cases later
          | some buf =>
              simp only [found] at later
              rw [if_pos (by omega)] at later
              have rest := ih (remaining - min remaining want) (by omega) (off + want) call later
              have big := align_up_bounds remaining
              have small := align_up_bounds (remaining - min remaining want)
              by_cases last : remaining ≤ want
              · rw [Nat.min_eq_left last, Nat.sub_self, Snapshot.verifyCalls, if_neg (Nat.lt_irrefl 0)] at later
                cases later
              · omega
      · rw [if_neg more] at member
        cases member

-- One chunk of the loading loop. The record area still to come is what the
-- rounded length of the rest covers.
theorem load_calls_inside {σ : Type} (s : Snapshot) (visitor : MetaIndexVisitor σ) (bufSize : Nat) (aligned : bufSize % 4096 = 0)
    (pos : 0 < bufSize) (off remaining : Nat) (word : remaining * 128 < 2 ^ 64) (st : σ) :
    ∀ call ∈ s.loadCalls visitor bufSize off remaining st, off ≤ call.1 ∧ call.1 + call.2 ≤ off + alignUp (remaining * 128) 4096 := by
  induction remaining using Nat.strong_induction_on generalizing off st with
  | h remaining ih =>
      intro call member
      rw [Snapshot.loadCalls] at member
      by_cases more : 0 < remaining
      · rw [if_pos more] at member
        simp only [kSnapshotBlockSize, kSnapshotRecordSize, Nat.mod_eq_of_lt word] at member
        have bounds := want_bounds bufSize (remaining * 128) aligned pos (by omega)
        simp only at bounds
        obtain ⟨want, named⟩ : ∃ want, min bufSize (alignUp (min (remaining * 128) bufSize) 4096) = want := ⟨_, rfl⟩
        simp only [named] at bounds member
        rcases List.mem_cons.mp member with rfl | later
        · exact ⟨Nat.le_refl _, by show off + want ≤ _; omega⟩
        · cases found : s.dev.readAt off want with
          | none =>
              rw [found] at later
              cases later
          | some buf =>
              simp only [found] at later
              split at later
              · cases later
              · split at later
                · have rest := ih (remaining - min remaining (want / 128)) (by omega) (off + want) (by omega) _ call later
                  have big := align_up_bounds (remaining * 128)
                  have small := align_up_bounds ((remaining - min remaining (want / 128)) * 128)
                  by_cases last : remaining * 128 ≤ want
                  · have done : remaining - min remaining (want / 128) = 0 := by omega
                    rw [done, Snapshot.loadCalls, if_neg (Nat.lt_irrefl 0)] at later
                    cases later
                  · omega
                · cases later
      · rw [if_neg more] at member
        cases member

theorem verify_from_returns (s : Snapshot) (bufSize : Nat) (aligned : bufSize % 4096 = 0) (pos : 0 < bufSize) (off remaining : Nat)
    (crc : UInt32) (rc : Rc) (failed : s.verifyFrom bufSize off remaining crc = .error rc) : rc = Err.kSnapshotReadFailed := by
  fun_induction Snapshot.verifyFrom s bufSize off remaining crc with
  | case1 off remaining crc more want unread =>
      cases failed
      rfl
  | case2 off remaining crc more want buf found use some_ ih => exact ih failed
  | case3 off remaining crc more want buf found use none_ =>
      have bounds := want_bounds bufSize remaining aligned pos more
      simp only at bounds
      have named : want = min bufSize (alignUp (min remaining bufSize) 4096) := rfl
      have taken : use = min remaining want := rfl
      omega
  | case4 => cases failed

theorem load_records_returns {σ : Type} (visitor : MetaIndexVisitor σ) (P : Rc → Prop) (corrupted : P Err.kSnapshotCorrupted)
    (success : P Err.kSuccess) (answers : ∀ st key meta_, P (visitor st key meta_).1) (buf : Bytes) (slots : List Nat) :
    ∀ st, P (loadRecords visitor buf slots st).1 := by
  induction slots with
  | nil => exact fun _ => success
  | cons i rest ih =>
      intro st
      unfold loadRecords
      simp only
      split
      · exact corrupted
      · split
        · exact answers _ _ _
        · exact ih _

-- What a load answers is its own refusals or an answer of the visitor.
theorem load_from_returns {σ : Type} (s : Snapshot) (visitor : MetaIndexVisitor σ) (P : Rc → Prop) (corrupted : P Err.kSnapshotCorrupted)
    (unreadable : P Err.kSnapshotReadFailed) (success : P Err.kSuccess) (answers : ∀ st key meta_, P (visitor st key meta_).1)
    (bufSize : Nat) (aligned : bufSize % 4096 = 0) (pos : 0 < bufSize) (off remaining : Nat) (word : remaining * 128 < 2 ^ 64) (st : σ) :
    P (s.loadFrom visitor bufSize off remaining st).1 := by
  fun_induction Snapshot.loadFrom s visitor bufSize off remaining st with
  | case1 => exact unreadable
  | case2 off remaining st more want buf found recsHere rc st1 loaded refused =>
      have records := load_records_returns visitor P corrupted success answers buf (List.range recsHere) st
      rw [loaded] at records
      exact records
  | case3 off remaining st more want buf found recsHere rc st1 loaded fine moved ih => exact ih (by omega)
  | case4 off remaining st more want buf found recsHere rc st1 loaded fine stuck =>
      have bounds := want_bounds bufSize (remaining * 128) aligned pos (by omega)
      simp only at bounds
      have named : want = min bufSize (alignUp (min (remaining * 128 % 2 ^ 64) bufSize) 4096) := rfl
      rw [Nat.mod_eq_of_lt word] at named
      have here : recsHere = min remaining (want / 128) := rfl
      omega
  | case5 => exact success

theorem load_records_count {σ : Type} (visitor : MetaIndexVisitor σ) (buf : Bytes) (slots : List Nat) : ∀ st : σ × Nat,
    (loadRecords (counting visitor) buf slots st).2.2 ≤ st.2 + slots.length := by
  induction slots with
  | nil => exact fun st => Nat.le_refl _
  | cons i rest ih =>
      intro st
      unfold loadRecords
      simp only
      split
      · exact Nat.le_add_right _ _
      · split
        · show st.2 + 1 ≤ st.2 + (rest.length + 1)
          omega
        · have later := ih (counting visitor st (decodeSnapshotRecord (.ofBytes (slice buf (i * kSnapshotRecordSize) kSnapshotRecordSize))).1
            (decodeSnapshotRecord (.ofBytes (slice buf (i * kSnapshotRecordSize) kSnapshotRecordSize))).2).2
          have once : (counting visitor st (decodeSnapshotRecord (.ofBytes (slice buf (i * kSnapshotRecordSize) kSnapshotRecordSize))).1
            (decodeSnapshotRecord (.ofBytes (slice buf (i * kSnapshotRecordSize) kSnapshotRecordSize))).2).2.2 = st.2 + 1 := rfl
          rw [once] at later
          rw [List.length_cons]
          omega

theorem load_from_count {σ : Type} (s : Snapshot) (visitor : MetaIndexVisitor σ) (bufSize off remaining : Nat) (st : σ × Nat) :
    (s.loadFrom (counting visitor) bufSize off remaining st).2.2 ≤ st.2 + remaining := by
  fun_induction Snapshot.loadFrom s (counting visitor) bufSize off remaining st with
  | case1 => exact Nat.le_add_right _ _
  | case2 off remaining st more want buf found recsHere rc st1 loaded refused =>
      have records := load_records_count visitor buf (List.range recsHere) st
      rw [loaded, List.length_range] at records
      simp only at records
      have here : recsHere = min remaining (want / 128) := rfl
      show st1.2 ≤ _
      omega
  | case3 off remaining st more want buf found recsHere rc st1 loaded fine moved ih =>
      have records := load_records_count visitor buf (List.range recsHere) st
      rw [loaded, List.length_range] at records
      simp only at records
      have here : recsHere = min remaining (want / 128) := rfl
      omega
  | case4 off remaining st more want buf found recsHere rc st1 loaded fine stuck =>
      have records := load_records_count visitor buf (List.range recsHere) st
      rw [loaded, List.length_range] at records
      simp only at records
      have here : recsHere = min remaining (want / 128) := rfl
      show st1.2 ≤ _
      omega
  | case5 => exact Nat.le_add_right _ _

-- An accepted header bounds every read the two loops will make, whatever the
-- slot holds, whoever visits and whatever memory there is.
structure ReadsBounded (s : Snapshot) (opts : Options) (slot : Slot) (h : SnapshotSlotHeader) : Prop where
  verifyReturns : ∀ env, s.verifySlotData opts env slot h ≠ Err.kNeverReturns
  verifyInside : ∀ env, ∀ call ∈ s.verifySlotCalls opts env slot h, s.Inside slot call
  loadReturns : ∀ (σ : Type) (visitor : MetaIndexVisitor σ) (env : SnapshotEnv) (st : σ) (maxGen : Nat),
    (∀ st key meta_, (visitor st key meta_).1 ≠ Err.kNeverReturns) →
      ((s.adopt slot h maxGen).load opts env visitor st).1 ≠ Err.kNeverReturns
  loadInside : ∀ (σ : Type) (visitor : MetaIndexVisitor σ) (env : SnapshotEnv) (st : σ) (maxGen : Nat),
    ∀ call ∈ (s.adopt slot h maxGen).loadSlotCalls opts env visitor st, s.Inside slot call
  decodes : ∀ (σ : Type) (visitor : MetaIndexVisitor σ) (env : SnapshotEnv) (st : σ) (maxGen : Nat),
    ((s.adopt slot h maxGen).load opts env (counting visitor) (st, 0)).2.2 ≤ (s.slotSize - kSnapshotSlotHeaderSize) / kSnapshotRecordSize

-- What slot_ok says of the lengths when neither of its two sums wraps.
theorem slot_ok_lengths (s : Snapshot) (h : SnapshotSlotHeader) (accepted : s.slotOk h = true)
    (word : h.entryCount.toNat * kSnapshotRecordSize + kSnapshotSlotHeaderSize < 2 ^ 64) :
    h.dataLen.toNat = h.entryCount.toNat * 128 ∧ 4096 + h.entryCount.toNat * 128 ≤ s.slotSize := by
  unfold Snapshot.slotOk at accepted
  simp only [Bool.and_eq_true, decide_eq_true_eq] at accepted
  obtain ⟨⟨_, len⟩, fits⟩ := accepted
  unfold kSnapshotRecordSize kSnapshotSlotHeaderSize at word
  rw [kSnapshotRecordSize, Nat.mod_eq_of_lt (by omega)] at len
  rw [kSnapshotSlotHeaderSize, Nat.mod_eq_of_lt (by omega)] at fits
  exact ⟨len, by omega⟩

theorem align_up_whole (x a : Nat) (le : x ≤ a) (whole : a % 4096 = 0) : alignUp x 4096 ≤ a := by
  have bounds := align_up_bounds x
  omega

-- A load of the slot that was adopted.
theorem adopt_load {σ : Type} (s : Snapshot) (opts : Options) (slot : Slot) (h : SnapshotSlotHeader) (visitor : MetaIndexVisitor σ)
    (env : SnapshotEnv) (st : σ) (maxGen : Nat) :
    (s.adopt slot h maxGen).load opts env visitor st =
      if s.dev.isOpen = false then (Err.kSnapshotReadFailed, st)
      else if h.entryCount.toNat = 0 then (Err.kSuccess, st)
      else if env.alloc (roundUpBufferSize opts.snapshotBufferSize kSnapshotBlockSize) = false then (Err.kSnapshotReadFailed, st)
      else (s.adopt slot h maxGen).loadFrom visitor (roundUpBufferSize opts.snapshotBufferSize kSnapshotBlockSize)
        (s.slotOff slot + kSnapshotSlotHeaderSize) h.entryCount.toNat st := by
  cases slot <;> rfl

theorem adopt_load_calls {σ : Type} (s : Snapshot) (opts : Options) (slot : Slot) (h : SnapshotSlotHeader)
    (visitor : MetaIndexVisitor σ) (env : SnapshotEnv) (st : σ) (maxGen : Nat) :
    (s.adopt slot h maxGen).loadSlotCalls opts env visitor st =
      if s.dev.isOpen = false then []
      else if h.entryCount.toNat = 0 then []
      else if env.alloc (roundUpBufferSize opts.snapshotBufferSize kSnapshotBlockSize) = false then []
      else (s.adopt slot h maxGen).loadCalls visitor (roundUpBufferSize opts.snapshotBufferSize kSnapshotBlockSize)
        (s.slotOff slot + kSnapshotSlotHeaderSize) h.entryCount.toNat st := by
  cases slot <;> rfl

section Bounded

-- A buffer of zero bytes does no harm where there is nothing to read.
variable (s : Snapshot) (opts : Options) (slot : Slot) (h : SnapshotSlotHeader) (aligned : s.slotSize % 4096 = 0)
  (buffer : 0 < roundUpBufferSize opts.snapshotBufferSize kSnapshotBlockSize ∨ h.dataLen.toNat = 0) (accepted : s.slotOk h = true)
  (word : h.entryCount.toNat * kSnapshotRecordSize + kSnapshotSlotHeaderSize < 2 ^ 64)

include buffer

theorem verify_slot_returns (env : SnapshotEnv) :
    s.verifySlotData opts env slot h = Err.kSuccess ∨ s.verifySlotData opts env slot h = Err.kSnapshotReadFailed ∨
      s.verifySlotData opts env slot h = Err.kSnapshotCorrupted := by
  have whole : roundUpBufferSize opts.snapshotBufferSize kSnapshotBlockSize % 4096 = 0 := round_up_aligned _
  unfold Snapshot.verifySlotData
  split
  · split
    · exact .inl rfl
    · exact .inr (.inr rfl)
  · rename_i long
    have some_ := buffer.resolve_right long
    simp only
    split
    · exact .inr (.inl rfl)
    · split
      · rename_i rc failed
        exact .inr (.inl (verify_from_returns s _ whole some_ _ _ _ rc failed))
      · split
        · exact .inl rfl
        · exact .inr (.inr rfl)

include word accepted

theorem load_slot_returns {σ : Type} (visitor : MetaIndexVisitor σ) (P : Rc → Prop) (corrupted : P Err.kSnapshotCorrupted)
    (unreadable : P Err.kSnapshotReadFailed) (success : P Err.kSuccess) (answers : ∀ st key meta_, P (visitor st key meta_).1)
    (env : SnapshotEnv) (st : σ) (maxGen : Nat) : P ((s.adopt slot h maxGen).load opts env visitor st).1 := by
  have whole : roundUpBufferSize opts.snapshotBufferSize kSnapshotBlockSize % 4096 = 0 := round_up_aligned _
  rw [adopt_load]
  split
  · exact unreadable
  · split
    · exact success
    · rename_i records
      have len := (slot_ok_lengths s h accepted word).1
      have some_ := buffer.resolve_right (by omega)
      split
      · exact unreadable
      · exact load_from_returns _ visitor P corrupted unreadable success answers _ whole some_ _ _
          (by unfold kSnapshotRecordSize kSnapshotSlotHeaderSize at word; omega) st

include aligned

theorem reads_bounded : ReadsBounded s opts slot h := by
  have whole : roundUpBufferSize opts.snapshotBufferSize kSnapshotBlockSize % 4096 = 0 := round_up_aligned _
  obtain ⟨len, fits⟩ := slot_ok_lengths s h accepted word
  have area : alignUp (h.entryCount.toNat * 128) 4096 ≤ s.slotSize - 4096 := align_up_whole _ _ (by omega) (by omega)
  have small : h.entryCount.toNat * 128 < 2 ^ 64 := by
    unfold kSnapshotRecordSize at word
    omega
  refine ⟨?_, ?_, ?_, ?_, ?_⟩
  · intro env
    rcases verify_slot_returns s opts slot h buffer env with rc | rc | rc <;> rw [rc] <;> decide
  · intro env call member
    unfold Snapshot.verifySlotCalls at member
    split at member
    · cases member
    · rename_i long
      have some_ := buffer.resolve_right long
      simp only at member
      split at member
      · cases member
      · have inside := verify_calls_inside s _ whole some_ _ _ call member
        rw [len] at inside
        unfold kSnapshotSlotHeaderSize at inside
        exact ⟨by omega, by omega⟩
  · intro σ visitor env st maxGen answers
    exact load_slot_returns s opts slot h buffer accepted word visitor (fun rc => rc ≠ Err.kNeverReturns) (by decide) (by decide) (by decide)
      answers env st maxGen
  · intro σ visitor env st maxGen call member
    rw [adopt_load_calls] at member
    split at member
    · cases member
    · split at member
      · cases member
      · rename_i records
        have some_ := buffer.resolve_right (by omega)
        split at member
        · cases member
        · have inside := load_calls_inside _ visitor _ whole some_ _ _ small st call member
          unfold kSnapshotSlotHeaderSize at inside
          exact ⟨by omega, by omega⟩
  · intro σ visitor env st maxGen
    have most : h.entryCount.toNat ≤ (s.slotSize - kSnapshotSlotHeaderSize) / kSnapshotRecordSize := by
      unfold kSnapshotSlotHeaderSize kSnapshotRecordSize
      omega
    rw [adopt_load]
    split
    · exact Nat.zero_le _
    · split
      · exact Nat.zero_le _
      · split
        · exact Nat.zero_le _
        · have count := load_from_count (s.adopt slot h maxGen) visitor (roundUpBufferSize opts.snapshotBufferSize kSnapshotBlockSize)
            (s.slotOff slot + kSnapshotSlotHeaderSize) h.entryCount.toNat (st, 0)
          rw [Nat.zero_add] at count
          exact Nat.le_trans count most

end Bounded

-- A device of zeros, which reads as records with empty keys.
def zeroDevice (size : Nat) : RawDevice where
  isOpen := true
  sizeBytes := size
  medium := .ofImage fun _ => 0
  outcomes := []
  unreadable := fun _ => false
  trace := []

def acceptAll : MetaIndexVisitor Unit := fun st _ _ => (Err.kSuccess, st)

theorem zero_device_read (size off len : Nat) (fits : off + len ≤ size) : (zeroDevice size).readAt off len = some (zeros len) := by
  rw [read_at_readable (zeroDevice size) off len rfl (fun _ => rfl) fits, read_zeros _ _ _ fun _ _ => rfl]

theorem zero_record_key (len at_ : Nat) (fits : at_ + 128 ≤ len) :
    (SnapshotRecord.ofBytes (slice (zeros len) at_ kSnapshotRecordSize)).keyLen.toNat = 0 := by
  rw [kSnapshotRecordSize, slice_zeros _ _ _ fits]
  decide

theorem zero_records_counted (len : Nat) (slots : List Nat) : ∀ st : Unit × Nat, (∀ i ∈ slots, i * 128 + 128 ≤ len) →
    loadRecords (counting acceptAll) (zeros len) slots st = (Err.kSuccess, (st.1, st.2 + slots.length)) := by
  induction slots with
  | nil => exact fun _ _ => rfl
  | cons i rest ih =>
      intro st inside
      have key := zero_record_key len (i * kSnapshotRecordSize) (inside i (by simp))
      unfold loadRecords
      simp only [key]
      rw [if_neg (Nat.not_lt_zero _)]
      simp only [counting, acceptAll, ne_eq, not_true_eq_false, if_false]
      rw [ih _ fun j member => inside j (List.mem_cons_of_mem _ member), List.length_cons, Nat.add_assoc, Nat.add_comm 1]

-- Over zeros nothing but a read past the device ends a load early.
theorem zero_load_counts (s : Snapshot) (size : Nat) (device : s.dev = zeroDevice size) (bufSize off remaining : Nat) (st : Unit × Nat)
    (inside : ∀ call ∈ s.loadCalls (counting acceptAll) bufSize off remaining st, call.1 + call.2 ≤ size)
    (returns : (s.loadFrom (counting acceptAll) bufSize off remaining st).1 ≠ Err.kNeverReturns) :
    (s.loadFrom (counting acceptAll) bufSize off remaining st).2.2 = st.2 + remaining := by
  fun_induction Snapshot.loadFrom s (counting acceptAll) bufSize off remaining st with
  | case1 off remaining st more want unread =>
      rw [Snapshot.loadCalls, if_pos more] at inside
      have fits := inside (off, want) (List.mem_cons_self ..)
      rw [device, zero_device_read size off want fits] at unread
      cases unread
  | case2 off remaining st more want buf found recsHere rc st1 loaded refused =>
      rw [Snapshot.loadCalls, if_pos more] at inside
      have fits := inside (off, want) (List.mem_cons_self ..)
      rw [device, zero_device_read size off want fits] at found
      cases found
      have here : recsHere = min remaining (want / 128) := rfl
      rw [zero_records_counted want _ st fun i member => by
        have bound := List.mem_range.mp member
        omega] at loaded
      cases loaded
      exact absurd rfl refused
  | case3 off remaining st more want buf found recsHere rc st1 loaded fine moved ih =>
      rw [Snapshot.loadCalls, if_pos more] at inside
      have fits := inside (off, want) (List.mem_cons_self ..)
      have bytes := found
      rw [device, zero_device_read size off want fits] at bytes
      cases bytes
      have here : recsHere = min remaining (want / 128) := rfl
      have counted := zero_records_counted want (List.range recsHere) st fun i member => by
        have bound := List.mem_range.mp member
        omega
      have later := ih (fun call member => inside call (List.mem_cons_of_mem _ (by
        show call ∈ match s.dev.readAt off want with | none => [] | some buf => _
        rw [found]
        simp only
        have again : loadRecords (counting acceptAll) (zeros want) (List.range (min remaining (want / kSnapshotRecordSize))) st = (rc, st1) := loaded
        rw [again]
        simp only
        rw [if_neg fine, if_pos moved]
        exact member))) returns
      rw [counted] at loaded
      cases loaded
      rw [later, List.length_range]
      simp only
      omega
  | case4 off remaining st more want buf found recsHere rc st1 loaded fine stuck => exact absurd rfl returns
  | case5 off remaining st none_ =>
      show st.2 = st.2 + remaining
      omega

-- The test on a slot header bounds the reads behind it exactly when neither
-- the product of its entry count nor the sum with the header wraps.
theorem accepted_header_bounded_iff (opts : Options) (s : Snapshot) (slot : Slot) (h : SnapshotSlotHeader)
    (buffer : opts.snapshotBufferSize ≤ 2 ^ 63) (aligned : s.slotSize % kSnapshotBlockSize = 0) (word : s.slotSize < 2 ^ 64)
    (accepted : s.slotOk h = true) :
    (∀ dev : RawDevice, ReadsBounded { s with dev := dev } opts slot h) ↔
      h.entryCount.toNat * kSnapshotRecordSize + kSnapshotSlotHeaderSize < 2 ^ 64 := by
  have bounds := round_up_bounds opts.snapshotBufferSize (by omega)
  have some_ : 0 < roundUpBufferSize opts.snapshotBufferSize kSnapshotBlockSize := by
    unfold kSnapshotBlockSize
    omega
  constructor
  · intro bounded
    have here := bounded (zeroDevice (s.slotOff slot + s.slotSize))
    have env : ∃ env : SnapshotEnv, env.alloc (roundUpBufferSize opts.snapshotBufferSize kSnapshotBlockSize) = true :=
      ⟨⟨fun _ => true, 0⟩, rfl⟩
    obtain ⟨env, alloc⟩ := env
    have returns := here.loadReturns (Unit × Nat) (counting acceptAll) env ((), 0) 0 (fun _ _ _ => by
      show Err.kSuccess ≠ Err.kNeverReturns
      decide)
    have inside := here.loadInside (Unit × Nat) (counting acceptAll) env ((), 0) 0
    have few := here.decodes Unit acceptAll env () 0
    rw [adopt_load] at returns few
    rw [adopt_load_calls] at inside
    by_cases none_ : h.entryCount.toNat = 0
    · rw [none_]
      decide
    · have opened : ¬ ({ s with dev := zeroDevice (s.slotOff slot + s.slotSize) } : Snapshot).dev.isOpen = false := by
        exact Bool.noConfusion
      rw [if_neg opened, if_neg none_, if_neg (by rw [alloc]; exact Bool.noConfusion)] at returns few inside
      have counted := zero_load_counts _ (s.slotOff slot + s.slotSize) rfl _ _ _ _ (fun call member => by
        have within := (inside call member).2
        cases slot <;> exact within) returns
      rw [counted, Nat.zero_add] at few
      have most : h.entryCount.toNat ≤ (s.slotSize - kSnapshotSlotHeaderSize) / kSnapshotRecordSize := few
      unfold kSnapshotSlotHeaderSize kSnapshotRecordSize at most ⊢
      omega
  · intro fits dev
    exact reads_bounded { s with dev := dev } opts slot h aligned (.inl some_) accepted fits

-- Two slots of two blocks each, and a header whose count times 128 is 2^64.
def bareSnapshot : Snapshot :=
  { Snapshot.unopened (zeroDevice 24576) with slotAOff := 8192, slotBOff := 16384, slotSize := 8192 }

def bareOptions : Options where
  create := false
  walLevel := .strict
  walBufferSize := 4096
  snapshotThresholdBytes := 0
  snapshotBufferSize := 4096
  verifyValueCrcOnRecovery := false

theorem bare_header_accepted (count : Nat) (fits : count < 2 ^ 64) (short : count * kSnapshotRecordSize % 2 ^ 64 ≤ 4096) :
    bareSnapshot.slotOk (bareSnapshot.header 0 count 0 0) = true := by
  have entries : (bareSnapshot.header 0 count 0 0).entryCount.toNat = count := UInt64.toNat_ofNat_of_lt' fits
  have len : (bareSnapshot.header 0 count 0 0).dataLen.toNat = count * kSnapshotRecordSize % 2 ^ 64 := UInt64.toNat_ofNat'
  have uuid : (bareSnapshot.header 0 count 0 0).engineUuid = bareSnapshot.engineUuid := rfl
  have room : bareSnapshot.slotSize = 8192 := rfl
  unfold Snapshot.slotOk
  rw [header_verifies, uuid, len, entries, room]
  simp only [decide_true, Bool.and_self, Bool.true_and]
  exact decide_eq_true (by
    unfold kSnapshotSlotHeaderSize
    omega)

theorem wrapped_header_unbounded : bareSnapshot.slotOk (bareSnapshot.header 0 (2 ^ 57) 0 0) = true ∧
    bareSnapshot.verifySlotData bareOptions ⟨fun _ => true, 0⟩ .a (bareSnapshot.header 0 (2 ^ 57) 0 0) = Err.kSuccess ∧
    ((bareSnapshot.adopt .a (bareSnapshot.header 0 (2 ^ 57) 0 0) 1).load bareOptions ⟨fun _ => true, 0⟩ acceptAll ()).1 =
      Err.kNeverReturns ∧
    ¬ ReadsBounded bareSnapshot bareOptions .a (bareSnapshot.header 0 (2 ^ 57) 0 0) := by
  have entries : (bareSnapshot.header 0 (2 ^ 57) 0 0).entryCount.toNat = 2 ^ 57 := UInt64.toNat_ofNat_of_lt' (by decide)
  have len : (bareSnapshot.header 0 (2 ^ 57) 0 0).dataLen.toNat = 0 := UInt64.toNat_ofNat'
  have size : roundUpBufferSize bareOptions.snapshotBufferSize kSnapshotBlockSize = 4096 := by decide
  have endless : ((bareSnapshot.adopt .a (bareSnapshot.header 0 (2 ^ 57) 0 0) 1).load bareOptions ⟨fun _ => true, 0⟩ acceptAll ()).1 =
      Err.kNeverReturns := by
    have device : ∀ maxGen, (bareSnapshot.adopt .a (bareSnapshot.header 0 (2 ^ 57) 0 0) maxGen).dev = zeroDevice 24576 := fun _ => rfl
    have want : min 4096 (alignUp (min (2 ^ 57 * kSnapshotRecordSize % 2 ^ 64) 4096) kSnapshotBlockSize) = 0 := by decide
    rw [adopt_load, if_neg (show ¬ bareSnapshot.dev.isOpen = false from Bool.noConfusion), entries, if_neg (by decide),
      if_neg Bool.noConfusion, size, Snapshot.loadFrom, if_pos (by decide)]
    simp only [want, device]
    rw [zero_device_read _ _ _ (by decide)]
    simp only [Nat.zero_div, Nat.min_zero, List.range_zero, loadRecords, ne_eq, not_true_eq_false, if_false, Nat.lt_irrefl]
  refine ⟨bare_header_accepted _ (by decide) (by decide), ?_, endless, fun bounded => ?_⟩
  · unfold Snapshot.verifySlotData
    rw [if_pos len]
    rfl
  · exact bounded.loadReturns Unit acceptAll ⟨fun _ => true, 0⟩ () 1 (fun _ _ _ => by
      show Err.kSuccess ≠ Err.kNeverReturns
      decide) endless

theorem accepted_header_bounded_iff_bare : bareSnapshot.slotOk (bareSnapshot.header 0 1 0 0) = true ∧
    ∀ dev : RawDevice, ReadsBounded { bareSnapshot with dev := dev } bareOptions .b (bareSnapshot.header 0 1 0 0) := by
  have accepted := bare_header_accepted 1 (by decide) (by decide)
  exact ⟨accepted, (accepted_header_bounded_iff bareOptions bareSnapshot .b (bareSnapshot.header 0 1 0 0) (by decide) (by decide)
    (by decide) accepted).mpr (by decide)⟩

end Cabe
