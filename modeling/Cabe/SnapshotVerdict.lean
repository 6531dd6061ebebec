import Cabe.SnapshotStore

set_option autoImplicit false

namespace Cabe

open Storage

def Snapshot.headerAt (s : Snapshot) (slot : Slot) : SnapshotSlotHeader :=
  .ofBytes (read s.dev.medium.cur (s.slotOff slot) 4096)

-- The records of a slot match the checksum in its header.
def Snapshot.DataOk (s : Snapshot) (slot : Slot) (h : SnapshotSlotHeader) : Prop :=
  Util.crc32 (read s.dev.medium.cur (s.slotOff slot + kSnapshotSlotHeaderSize) h.dataLen.toNat) = h.dataCrc

theorem verify_from_ok (s : Snapshot) (bufSize len : Nat) : ∀ (off : Nat) (crc total : UInt32),
    s.verifyFrom bufSize off len crc = .ok total → total = Util.crc32cStreamUpdate crc (read s.dev.medium.cur off len) := by
  induction len using Nat.strong_induction_on with
  | h len ih =>
      intro off crc total done
      rw [Snapshot.verifyFrom] at done
      by_cases more : 0 < len
      · rw [if_pos more] at done
        simp only at done
        obtain ⟨want, named⟩ : ∃ want, min bufSize (alignUp (min len bufSize) kSnapshotBlockSize) = want := ⟨_, rfl⟩
        simp only [named] at done
        cases found : s.dev.readAt off want with
        | none =>
            rw [found] at done
            cases done
        | some buf =>
            rw [found] at done
            simp only at done
            split at done
            · rename_i some_
              have bytes : buf = read s.dev.medium.cur off want := by
                unfold RawDevice.readAt at found
                split at found
                · exact (Option.some.inj found).symm
                · cases found
              rw [bytes, read_take _ _ _ _ (by omega)] at done
              by_cases last : len ≤ want
              · rw [Nat.min_eq_left last, Nat.sub_self, Snapshot.verifyFrom, if_neg (Nat.lt_irrefl 0)] at done
                cases done
                rfl
              · have rest := ih (len - min len want) (by omega) _ _ _ done
                rw [Nat.min_eq_right (by omega)] at rest
                rw [rest, ← Util.crc_stream_append, ← read_append, show want + (len - want) = len by omega]
            · cases done
      · rw [if_neg more] at done
        cases done
        rw [show len = 0 by omega]
        rfl

theorem verify_from_error (s : Snapshot) (bufSize off len : Nat) (crc : UInt32) (rc : Rc)
    (failed : s.verifyFrom bufSize off len crc = .error rc) : rc = Err.kSnapshotReadFailed ∨ rc = Err.kNeverReturns := by
  induction len using Nat.strong_induction_on generalizing off crc with
  | h len ih =>
      rw [Snapshot.verifyFrom] at failed
      split at failed
      · simp only at failed
        split at failed
        · cases failed
          exact .inl rfl
        · split at failed
          · exact ih _ (by omega) _ _ failed
          · cases failed
            exact .inr rfl
      · cases failed

theorem crc_empty : Util.crc32 [] = kEmptyDataCrc := by decide

-- What each verdict on the records of a slot says about them.
theorem verify_slot_cases (s : Snapshot) (opts : Options) (env : SnapshotEnv) (slot : Slot) (h : SnapshotSlotHeader) :
    (s.verifySlotData opts env slot h = Err.kSuccess ∧ s.DataOk slot h) ∨
      (s.verifySlotData opts env slot h = Err.kSnapshotCorrupted ∧ ¬ s.DataOk slot h) ∨
      s.verifySlotData opts env slot h = Err.kSnapshotReadFailed ∨ s.verifySlotData opts env slot h = Err.kNeverReturns := by
  unfold Snapshot.verifySlotData Snapshot.DataOk
  split
  · rename_i none_
    rw [none_, show read s.dev.medium.cur (s.slotOff slot + kSnapshotSlotHeaderSize) 0 = [] from rfl, crc_empty]
    split
    · rename_i same
      exact .inl ⟨rfl, same.symm⟩
    · rename_i differ
      exact .inr (.inl ⟨rfl, fun same => differ same.symm⟩)
  · simp only
    split
    · exact .inr (.inr (.inl rfl))
    · split
      · rename_i rc failed
        exact .inr (.inr (verify_from_error s _ _ _ _ rc failed))
      · rename_i total done
        have crc := verify_from_ok s _ _ _ _ total done
        have sum : Util.crc32 (read s.dev.medium.cur (s.slotOff slot + kSnapshotSlotHeaderSize) h.dataLen.toNat) = ~~~ total := by
          rw [crc]
          rfl
        rw [sum]
        split
        · rename_i same
          exact .inl ⟨rfl, same⟩
        · rename_i differ
          exact .inr (.inl ⟨rfl, differ⟩)

theorem verify_slot_valid (s : Snapshot) (opts : Options) (env : SnapshotEnv) (slot : Slot) (h : SnapshotSlotHeader)
    (fine : s.verifySlotData opts env slot h = Err.kSuccess) : s.DataOk slot h := by
  rcases verify_slot_cases s opts env slot h with ⟨_, ok⟩ | ⟨rc, _⟩ | rc | rc
  · exact ok
  · exact absurd (show Err.kSuccess = Err.kSnapshotCorrupted from fine.symm.trans rc) (by decide)
  · exact absurd (show Err.kSuccess = Err.kSnapshotReadFailed from fine.symm.trans rc) (by decide)
  · exact absurd (show Err.kSuccess = Err.kNeverReturns from fine.symm.trans rc) (by decide)

-- With memory and a device that reads, the verdict is one of the first two.
theorem verify_slot_answers (s : Snapshot) (opts : Options) (env : SnapshotEnv) (slot : Slot) (h : SnapshotSlotHeader)
    (buffered : Buffered opts env) (opened : s.dev.isOpen = true) (readable : ∀ k, s.dev.unreadable k = false)
    (inside : s.slotOff slot + kSnapshotSlotHeaderSize + alignUp h.dataLen.toNat 4096 ≤ s.dev.sizeBytes) :
    s.verifySlotData opts env slot h = Err.kSuccess ∨ s.verifySlotData opts env slot h = Err.kSnapshotCorrupted := by
  have aligned : roundUpBufferSize opts.snapshotBufferSize kSnapshotBlockSize % 4096 = 0 := round_up_aligned _
  unfold Snapshot.verifySlotData
  split
  · split
    · exact .inl rfl
    · exact .inr rfl
  · simp only [buffered.alloc, Bool.true_eq_false, if_false]
    rw [verify_from_crc s _ aligned buffered.pos opened readable _ _ _ inside]
    simp only
    split
    · exact .inl rfl
    · exact .inr rfl

theorem choose_first (s : Snapshot) (opts : Options) (env : SnapshotEnv) (h : Slot → SnapshotSlotHeader) (ok : Slot → Bool) (cand : Slot)
    (fine : s.verifySlotData opts env cand (h cand) = Err.kSuccess) : s.choose opts env h ok cand = .ok cand := by
  unfold Snapshot.choose
  simp only [fine, if_true]

-- What the adjudication makes of two readable headers.
theorem adjudicate_reads (s : Snapshot) (opened : s.dev.isOpen = true) (readable : ∀ k, s.dev.unreadable k = false)
    (inside : ∀ slot, s.slotOff slot + 4096 ≤ s.dev.sizeBytes) (slot : Slot) :
    s.readHeader slot = some (s.headerAt slot) := by
  unfold Snapshot.readHeader Snapshot.headerAt kSnapshotSlotHeaderSize
  rw [read_at_readable s.dev _ _ opened readable (inside slot)]
  rfl

theorem adjudicate_never (s : Snapshot) (opts : Options) (env : SnapshotEnv) (alloc : env.alloc kSnapshotSlotHeaderSize = true)
    (opened : s.dev.isOpen = true) (readable : ∀ k, s.dev.unreadable k = false)
    (inside : ∀ slot, s.slotOff slot + 4096 ≤ s.dev.sizeBytes) (dead : ∀ slot, s.slotOk (s.headerAt slot) = false) :
    s.adjudicate opts env = .ok s.never := by
  have reads := adjudicate_reads s opened readable inside
  unfold Snapshot.adjudicate
  simp only [alloc, Bool.true_eq_false, if_false, reads, dead, false_and, and_self, if_true, Bool.false_eq_true]

theorem choose_accepted (s : Snapshot) (opts : Options) (env : SnapshotEnv) (h : Slot → SnapshotSlotHeader) (ok : Slot → Bool)
    (cand chosen : Slot) (fine : ok cand = true) (done : s.choose opts env h ok cand = .ok chosen) : ok chosen = true := by
  unfold Snapshot.choose at done
  simp only at done
  split at done
  · cases done
    exact fine
  · split at done
    · cases done
    · split at done
      · rename_i otherFine
        split at done
        · cases done
          exact otherFine
        · split at done <;> cases done
      · cases done

-- What belongs to a slot, out of a pair.
def Slot.pick {α : Type} (slot : Slot) (a b : α) : α :=
  match slot with
  | .a => a
  | .b => b

theorem candidate_accepted (ok : Slot → Bool) (newer : Prop) [Decidable newer] (some_ : ¬ (ok .a = false ∧ ok .b = false)) :
    ok (if ok .a = true ∧ ok .b = true then (if newer then .a else .b) else if ok .a = true then .a else .b) = true := by
  by_cases both : ok .a = true ∧ ok .b = true
  · rw [if_pos both]
    split
    · exact both.1
    · exact both.2
  · rw [if_neg both]
    split
    · assumption
    · rename_i noA
      cases b : ok .b with
      | true => rfl
      | false => exact absurd ⟨Bool.eq_false_iff.mpr noA, b⟩ some_

theorem choose_second (s : Snapshot) (opts : Options) (env : SnapshotEnv) (h : Slot → SnapshotSlotHeader) (ok : Slot → Bool)
    (cand other : Slot) (turn : cand.other = other) (torn : s.verifySlotData opts env cand (h cand) = Err.kSnapshotCorrupted)
    (there : ok other = true) (fine : s.verifySlotData opts env other (h other) = Err.kSuccess) :
    s.choose opts env h ok cand = .ok other := by
  subst turn
  unfold Snapshot.choose
  simp only [torn, there, fine, if_true]
  rw [if_neg (by decide), if_neg (by decide)]

-- The greatest generation of any header that is accepted.
def Snapshot.maxGen (s : Snapshot) : Nat :=
  max (if s.slotOk (s.headerAt .a) = true then (s.headerAt .a).generation.toNat else 0)
    (if s.slotOk (s.headerAt .b) = true then (s.headerAt .b).generation.toNat else 0)

theorem max_gen_bounds (s : Snapshot) (slot : Slot) (ok : s.slotOk (s.headerAt slot) = true) :
    (s.headerAt slot).generation.toNat ≤ s.maxGen := by
  unfold Snapshot.maxGen
  cases slot with
  | a =>
      rw [if_pos ok]
      exact Nat.le_max_left _ _
  | b =>
      rw [if_pos ok]
      exact Nat.le_max_right _ _

def Snapshot.Differ (s : Snapshot) : Prop :=
  s.slotOk (s.headerAt .a) = true → s.slotOk (s.headerAt .b) = true → (s.headerAt .a).generation ≠ (s.headerAt .b).generation

theorem adjudicate_adopts (s : Snapshot) (opts : Options) (env : SnapshotEnv) (alloc : env.alloc kSnapshotSlotHeaderSize = true)
    (reads : ∀ slot, s.readHeader slot = some (s.headerAt slot)) (differ : s.Differ) (slot : Slot)
    (ok : s.slotOk (s.headerAt slot) = true) (data : s.verifySlotData opts env slot (s.headerAt slot) = Err.kSuccess)
    (newer : s.slotOk (s.headerAt slot.other) = true →
      (s.headerAt slot).generation.toNat < (s.headerAt slot.other).generation.toNat →
      s.verifySlotData opts env slot.other (s.headerAt slot.other) = Err.kSnapshotCorrupted) :
    s.adjudicate opts env = .ok (s.adopt slot (s.headerAt slot) s.maxGen) := by
  have readsA := reads .a
  have readsB := reads .b
  unfold Snapshot.Differ at differ
  unfold Snapshot.adjudicate Snapshot.maxGen
  rw [alloc, readsA, readsB]
  clear reads readsA readsB
  cases slot with
  | a =>
      simp only [Slot.other] at newer
      generalize s.headerAt .a = ha at *
      generalize s.headerAt .b = hb at *
      simp only [Bool.true_eq_false, if_false, ok, true_and]
      rcases Bool.eq_false_or_eq_true (s.slotOk hb) with taken | taken
      · have apart := differ ok taken
        have unequal : ha.generation.toNat ≠ hb.generation.toNat := fun same => apart (UInt64.toNat_inj.mp same)
        simp only [taken, apart, and_false, if_false, Bool.true_eq_false, and_self, if_true]
        by_cases first : ha.generation.toNat > hb.generation.toNat
        · simp only [first, if_true]
          rw [choose_first s opts env _ _ .a data]
        · simp only [first, if_false]
          rw [choose_second s opts env _ _ .b .a rfl (newer taken (by omega)) ok data]
      · simp only [taken, Bool.false_eq_true, false_and, if_false, if_true]
        rw [choose_first s opts env _ _ .a data]
  | b =>
      simp only [Slot.other] at newer
      generalize s.headerAt .a = ha at *
      generalize s.headerAt .b = hb at *
      simp only [Bool.true_eq_false, if_false, ok, true_and]
      rcases Bool.eq_false_or_eq_true (s.slotOk ha) with taken | taken
      · have apart := differ taken ok
        simp only [taken, apart, and_false, if_false, Bool.true_eq_false, and_self, if_true]
        by_cases second : ha.generation.toNat > hb.generation.toNat
        · simp only [second, if_true]
          rw [choose_second s opts env _ _ .a .b rfl (newer taken second) ok data]
        · simp only [second, if_false]
          rw [choose_first s opts env _ _ .b data]
      · simp only [taken, Bool.false_eq_true, false_and, if_false, and_false, if_true]
        rw [choose_first s opts env _ _ .b data]

-- The slot with the greatest generation among those whose records check.
structure Snapshot.Best (s : Snapshot) (slot : Slot) : Prop where
  ok : s.slotOk (s.headerAt slot) = true
  data : s.DataOk slot (s.headerAt slot)
  greatest : ∀ other, s.slotOk (s.headerAt other) = true → s.DataOk other (s.headerAt other) →
    (s.headerAt other).generation.toNat ≤ (s.headerAt slot).generation.toNat

theorem best_exists (s : Snapshot) (slot : Slot) (ok : s.slotOk (s.headerAt slot) = true) (data : s.DataOk slot (s.headerAt slot)) :
    ∃ best, s.Best best := by
  have either : ∀ other : Slot, other = slot ∨ other = slot.other := by
    intro other
    cases other <;> cases slot <;> decide
  by_cases second : s.slotOk (s.headerAt slot.other) = true ∧ s.DataOk slot.other (s.headerAt slot.other) ∧
      (s.headerAt slot).generation.toNat < (s.headerAt slot.other).generation.toNat
  · refine ⟨slot.other, second.1, second.2.1, ?_⟩
    intro other _ _
    rcases either other with rfl | rfl
    · exact Nat.le_of_lt second.2.2
    · exact Nat.le_refl _
  · refine ⟨slot, ok, data, ?_⟩
    intro other okOther fine
    rcases either other with rfl | rfl
    · exact Nat.le_refl _
    · exact Nat.le_of_not_lt fun less => second ⟨okOther, fine, less⟩

-- Every question a recovery asks has an answer.
structure Snapshot.Answers (s : Snapshot) (opts : Options) (env : SnapshotEnv) : Prop where
  alloc : env.alloc kSnapshotSlotHeaderSize = true
  reads : ∀ slot, s.readHeader slot = some (s.headerAt slot)
  data : ∀ slot, s.slotOk (s.headerAt slot) = true → s.verifySlotData opts env slot (s.headerAt slot) = Err.kSuccess ∨
    s.verifySlotData opts env slot (s.headerAt slot) = Err.kSnapshotCorrupted

theorem adjudicate_best (s : Snapshot) (opts : Options) (env : SnapshotEnv) (answers : s.Answers opts env) (differ : s.Differ) (slot : Slot)
    (best : s.Best slot) : s.adjudicate opts env = .ok (s.adopt slot (s.headerAt slot) s.maxGen) := by
  apply adjudicate_adopts s opts env answers.alloc answers.reads differ slot best.ok
  · refine (answers.data slot best.ok).resolve_right fun torn => ?_
    rcases verify_slot_cases s opts env slot (s.headerAt slot) with ⟨rc, _⟩ | ⟨_, bad⟩ | rc | rc
    · exact absurd (show Err.kSuccess = Err.kSnapshotCorrupted from rc.symm.trans torn) (by decide)
    · exact bad best.data
    · exact absurd (show Err.kSnapshotReadFailed = Err.kSnapshotCorrupted from rc.symm.trans torn) (by decide)
    · exact absurd (show Err.kNeverReturns = Err.kSnapshotCorrupted from rc.symm.trans torn) (by decide)
  · intro taken less
    refine (answers.data slot.other taken).resolve_left fun fine => ?_
    have most := best.greatest slot.other taken (verify_slot_valid s opts env _ _ fine)
    omega

theorem choose_cases (s : Snapshot) (opts : Options) (env : SnapshotEnv) (h : Slot → SnapshotSlotHeader) (ok : Slot → Bool)
    (cand chosen : Slot) (done : s.choose opts env h ok cand = .ok chosen) :
    s.verifySlotData opts env chosen (h chosen) = Err.kSuccess ∧
      (chosen = cand ∨ chosen = cand.other ∧ ¬ s.DataOk cand (h cand)) := by
  unfold Snapshot.choose at done
  simp only at done
  split at done
  · rename_i fine
    cases done
    exact ⟨fine, .inl rfl⟩
  · rename_i torn
    split at done
    · cases done
    · rename_i unread
      split at done
      · split at done
        · rename_i fine
          cases done
          refine ⟨fine, .inr ⟨rfl, ?_⟩⟩
          rcases verify_slot_cases s opts env cand (h cand) with ⟨rc, _⟩ | ⟨_, bad⟩ | rc | rc
          · exact absurd rc torn
          · exact bad
          · exact absurd (.inl rc) unread
          · exact absurd (.inr rc) unread
        · split at done <;> cases done
      · cases done

theorem candidate_greatest (ok : Slot → Bool) (gen : Slot → Nat) (other : Slot) (taken : ok other = true) :
    gen other ≤ gen (if ok .a = true ∧ ok .b = true then (if gen .a > gen .b then .a else .b) else if ok .a = true then .a else .b) := by
  by_cases both : ok .a = true ∧ ok .b = true
  · rw [if_pos both]
    split <;> cases other <;> omega
  · rw [if_neg both]
    cases other with
    | a => rw [if_pos taken]
    | b => rw [if_neg fun first => both ⟨first, taken⟩]

theorem choose_error (s : Snapshot) (opts : Options) (env : SnapshotEnv) (h : Slot → SnapshotSlotHeader) (ok : Slot → Bool)
    (cand : Slot) (rc : Rc) (failed : s.choose opts env h ok cand = .error rc) : rc ≠ Err.kSuccess := by
  have corrupted : Err.kSnapshotCorrupted ≠ Err.kSuccess := by decide
  unfold Snapshot.choose at failed
  simp only at failed
  split at failed
  · cases failed
  · rename_i torn
    split at failed
    · cases failed
      exact torn
    · split at failed
      · split at failed
        · cases failed
        · rename_i torn'
          split at failed
          · cases failed
            exact torn'
          · cases failed
            exact corrupted
      · cases failed
        exact corrupted

theorem adjudicate_error (s : Snapshot) (opts : Options) (env : SnapshotEnv) (rc : Rc) (failed : s.adjudicate opts env = .error rc) :
    rc ≠ Err.kSuccess := by
  have corrupted : Err.kSnapshotCorrupted ≠ Err.kSuccess := by decide
  have unread : Err.kSnapshotReadFailed ≠ Err.kSuccess := by decide
  unfold Snapshot.adjudicate at failed
  split at failed
  · cases failed
    exact unread
  · split at failed
    · simp only at failed
      split at failed
      · cases failed
        exact corrupted
      · split at failed
        · cases failed
        · split at failed
          · rename_i code refused
            cases failed
            exact choose_error s opts env _ _ _ rc refused
          · cases failed
    · cases failed
      exact unread

theorem adjudicate_has_read (s next : Snapshot) (opts : Options) (env : SnapshotEnv) (done : s.adjudicate opts env = .ok next) (slot : Slot) :
    s.readHeader slot = some (s.headerAt slot) := by
  have some_ : ∃ h, s.readHeader slot = some h := by
    unfold Snapshot.adjudicate at done
    split at done
    · cases done
    · split at done
      · rename_i ha hb readA readB
        cases slot with
        | a => exact ⟨ha, readA⟩
        | b => exact ⟨hb, readB⟩
      · cases done
  obtain ⟨h, found⟩ := some_
  rw [found]
  unfold Snapshot.readHeader RawDevice.readAt at found
  split at found
  · exact found.symm
  · cases found

-- The verdict leaves the two slots where they are.
@[simp] theorem never_header (s : Snapshot) (slot : Slot) : s.never.headerAt slot = s.headerAt slot := by cases slot <;> rfl

@[simp] theorem never_slot_ok (s : Snapshot) (h : SnapshotSlotHeader) : s.never.slotOk h = s.slotOk h := rfl

@[simp] theorem adopt_header (s : Snapshot) (slot other : Slot) (h : SnapshotSlotHeader) (maxGen : Nat) :
    (s.adopt slot h maxGen).headerAt other = s.headerAt other := by cases other <;> rfl

@[simp] theorem adopt_slot_ok (s : Snapshot) (slot : Slot) (h h' : SnapshotSlotHeader) (maxGen : Nat) :
    (s.adopt slot h maxGen).slotOk h' = s.slotOk h' := rfl

-- What a recovery that succeeds has found.
inductive Snapshot.Found (s : Snapshot) : Snapshot → Prop where
  | never (dead : ∀ slot, s.slotOk (s.headerAt slot) = false) : Found s s.never
  | adopted (slot : Slot) (best : s.Best slot) (differ : s.Differ) : Found s (s.adopt slot (s.headerAt slot) s.maxGen)

theorem adjudicate_found (s next : Snapshot) (opts : Options) (env : SnapshotEnv)
    (reads : ∀ slot, s.readHeader slot = some (s.headerAt slot)) (done : s.adjudicate opts env = .ok next) : s.Found next := by
  obtain ⟨ha, namedA⟩ : ∃ ha, s.headerAt .a = ha := ⟨_, rfl⟩
  obtain ⟨hb, namedB⟩ : ∃ hb, s.headerAt .b = hb := ⟨_, rfl⟩
  unfold Snapshot.adjudicate at done
  split at done
  · cases done
  rw [reads, reads, namedA, namedB] at done
  simp only at done
  split at done
  · cases done
  rename_i apart
  split at done
  · rename_i dead
    cases done
    refine .never fun slot => ?_
    cases slot with
    | a => rw [namedA]; exact dead.1
    | b => rw [namedB]; exact dead.2
  rename_i some_
  have differ : s.Differ := by
    intro okA okB same
    rw [namedA] at okA same
    rw [namedB] at okB same
    exact apart ⟨okA, okB, same⟩
  have accepted := candidate_accepted (fun slot => s.slotOk (slot.pick ha hb))
    (ha.generation.toNat > hb.generation.toNat) some_
  have most : ∀ slot : Slot, s.slotOk (slot.pick ha hb) = true → (slot.pick ha hb).generation.toNat ≤
      ((if s.slotOk ha = true ∧ s.slotOk hb = true then (if ha.generation.toNat > hb.generation.toNat then Slot.a else .b)
        else if s.slotOk ha = true then .a else .b).pick ha hb).generation.toNat :=
    candidate_greatest (fun slot => s.slotOk (slot.pick ha hb)) (fun slot => (slot.pick ha hb).generation.toNat)
  have header : ∀ slot, s.headerAt slot = slot.pick ha hb := by
    intro slot
    cases slot with
    | a => exact namedA
    | b => exact namedB
  split at done
  · cases done
  · rename_i chosen decided
    have ok := choose_accepted s opts env _ _ _ chosen accepted decided
    obtain ⟨data, place⟩ := choose_cases s opts env _ _ _ chosen decided
    generalize candidate : (if s.slotOk ha = true ∧ s.slotOk hb = true then (if ha.generation.toNat > hb.generation.toNat then Slot.a else .b)
      else if s.slotOk ha = true then .a else .b) = cand at *
    have best : s.Best chosen := by
      refine ⟨by rw [header]; exact ok, by rw [header]; exact verify_slot_valid s opts env _ _ data, ?_⟩
      intro other taken fine
      rw [header] at taken fine
      rw [header, header]
      rcases place with rfl | ⟨turn, torn⟩
      · exact most other taken
      · have same : other = chosen := by
          rw [turn]
          cases cand <;> cases other <;> first | rfl | exact absurd fine torn
        rw [same]
    have adopted := Snapshot.Found.adopted chosen best differ
    unfold Snapshot.maxGen at adopted
    rw [header chosen, namedA, namedB] at adopted
    cases done
    exact adopted

-- The slot that is known to be the newest.
theorem adjudicate_active (s : Snapshot) (opts : Options) (env : SnapshotEnv) (slot : Slot) (h : SnapshotSlotHeader)
    (alloc : env.alloc kSnapshotSlotHeaderSize = true) (opened : s.dev.isOpen = true) (readable : ∀ k, s.dev.unreadable k = false)
    (inside : ∀ slot, s.slotOff slot + 4096 ≤ s.dev.sizeBytes) (here : s.headerAt slot = h) (ok : s.slotOk h = true)
    (older : s.slotOk (s.headerAt slot.other) = true → (s.headerAt slot.other).generation.toNat < h.generation.toNat)
    (fine : s.verifySlotData opts env slot h = Err.kSuccess) :
    s.adjudicate opts env = .ok (s.adopt slot h h.generation.toNat) := by
  rw [← here] at ok older fine ⊢
  have most : s.maxGen = (s.headerAt slot).generation.toNat := by
    unfold Snapshot.maxGen
    cases slot with
    | a =>
        rw [if_pos ok]
        apply Nat.max_eq_left
        split
        · exact Nat.le_of_lt (older (by assumption))
        · exact Nat.zero_le _
    | b =>
        rw [if_pos ok]
        apply Nat.max_eq_right
        split
        · exact Nat.le_of_lt (older (by assumption))
        · exact Nat.zero_le _
  have differ : s.Differ := by
    intro okA okB same
    cases slot with
    | a =>
        have less := older okB
        rw [Slot.other, same] at less
        exact Nat.lt_irrefl _ less
    | b =>
        have less := older okA
        rw [Slot.other, same] at less
        exact Nat.lt_irrefl _ less
  rw [adjudicate_adopts s opts env alloc (adjudicate_reads s opened readable inside) differ slot ok fine ?_, most]
  intro taken less
  have less' := older taken
  omega

-- A buffer of no blocks: the check of the records reads nothing, for ever.
theorem verify_slot_endless (s : Snapshot) (opts : Options) (env : SnapshotEnv) (slot : Slot) (h : SnapshotSlotHeader)
    (opened : s.dev.isOpen = true) (readable : ∀ k, s.dev.unreadable k = false) (inside : s.slotOff slot + 4096 ≤ s.dev.sizeBytes)
    (empty : roundUpBufferSize opts.snapshotBufferSize kSnapshotBlockSize = 0) (alloc : env.alloc 0 = true) (some_ : h.dataLen.toNat ≠ 0) :
    s.verifySlotData opts env slot h = Err.kNeverReturns := by
  unfold Snapshot.verifySlotData
  rw [if_neg some_, empty]
  simp only [alloc, Bool.true_eq_false, if_false]
  rw [Snapshot.verifyFrom, if_pos (Nat.pos_of_ne_zero some_)]
  simp only [Nat.zero_min]
  rw [read_at_readable s.dev _ 0 opened readable (by unfold kSnapshotSlotHeaderSize; omega)]
  simp only [Nat.min_zero, Nat.lt_irrefl, if_false]

-- The newest slot is judged first, whatever comes of it.
theorem adjudicate_stuck (s : Snapshot) (opts : Options) (env : SnapshotEnv) (slot : Slot) (h : SnapshotSlotHeader)
    (alloc : env.alloc kSnapshotSlotHeaderSize = true) (opened : s.dev.isOpen = true) (readable : ∀ k, s.dev.unreadable k = false)
    (inside : ∀ slot, s.slotOff slot + 4096 ≤ s.dev.sizeBytes) (here : s.headerAt slot = h) (ok : s.slotOk h = true)
    (older : s.slotOk (s.headerAt slot.other) = true → (s.headerAt slot.other).generation.toNat < h.generation.toNat)
    (stuck : s.verifySlotData opts env slot h = Err.kNeverReturns) : s.adjudicate opts env = .error Err.kNeverReturns := by
  rw [← here] at ok older stuck
  have reads := adjudicate_reads s opened readable inside
  have apart (a b : SnapshotSlotHeader) (less : a.generation.toNat < b.generation.toNat) : a.generation ≠ b.generation := by
    intro same
    rw [same] at less
    exact Nat.lt_irrefl _ less
  unfold Snapshot.adjudicate
  rw [if_neg (by rw [alloc]; exact Bool.noConfusion), reads .a, reads .b]
  cases slot with
  | a =>
      rw [show Slot.a.other = .b from rfl] at older
      generalize s.headerAt .a = ha at *
      generalize s.headerAt .b = hb at *
      by_cases other : s.slotOk hb = true
      · have less := older other
        simp only [ok, other, true_and, if_true, Bool.true_eq_false, false_and, if_false, (apart _ _ less).symm, if_pos less]
        unfold Snapshot.choose
        simp only [stuck]
        rw [if_neg (by decide), if_pos (.inr trivial)]
      · have dead := Bool.eq_false_iff.mpr other
        simp only [ok, dead, Bool.false_eq_true, false_and, and_false, if_false, if_true, Bool.true_eq_false]
        unfold Snapshot.choose
        simp only [stuck]
        rw [if_neg (by decide), if_pos (.inr trivial)]
  | b =>
      rw [show Slot.b.other = .a from rfl] at older
      generalize s.headerAt .a = ha at *
      generalize s.headerAt .b = hb at *
      by_cases other : s.slotOk ha = true
      · have less := older other
        have behind : ¬ ha.generation.toNat > hb.generation.toNat := by omega
        simp only [ok, other, true_and, if_true, Bool.true_eq_false, and_false, if_false, apart _ _ less, if_neg behind]
        unfold Snapshot.choose
        simp only [stuck]
        rw [if_neg (by decide), if_pos (.inr trivial)]
      · have dead := Bool.eq_false_iff.mpr other
        simp only [ok, dead, Bool.false_eq_true, false_and, and_false, if_false, Bool.true_eq_false]
        unfold Snapshot.choose
        simp only [stuck]
        rw [if_neg (by decide), if_pos (.inr trivial)]

-- The snapshot device with its slots laid out, before it is judged.
structure SlotsOf (dev : RawDevice) (s : Snapshot) : Prop where
  medium : s.dev.medium = dev.medium
  slotA : s.slotAOff = kDataRegionOffset
  slotB : s.slotBOff = kDataRegionOffset + snapshotSlotSize dev.sizeBytes
  size : s.slotSize = snapshotSlotSize dev.sizeBytes

-- Opening a device of an accepted size is left to the verdict on its headers,
-- or begins with clearing them.
theorem open_snapshot_begins (opts : Options) (env : SnapshotEnv) (sb : SuperBlock) (dev : RawDevice) (closed : dev.isOpen = false)
    (some_ : snapshotSlotSize dev.sizeBytes ≠ 0)
    (room : ¬ snapshotSlotSize dev.sizeBytes <
      kSnapshotSlotHeaderSize + alignUp (sb.blockCount * kSnapshotRecordSize) kSnapshotBlockSize) :
    ∃ s : Snapshot, SlotsOf dev s ∧ s.dev = { dev with isOpen := true } ∧ s.engineUuid = sb.engineUuid ∧
      (Snapshot.unopened dev).openSnapshot opts env sb =
        if opts.create = true then s.clear env
        else
          match s.adjudicate opts env with
          | .error rc => (rc, { s with dev := s.dev.close.2 })
          | .ok next => (Err.kSuccess, next) := by
  refine ⟨{ Snapshot.unopened dev with
    dev := { dev with isOpen := true }
    slotAOff := kDataRegionOffset
    slotBOff := kDataRegionOffset + snapshotSlotSize dev.sizeBytes
    slotSize := snapshotSlotSize dev.sizeBytes
    engineUuid := sb.engineUuid }, ⟨rfl, rfl, rfl, rfl⟩, rfl, rfl, ?_⟩
  unfold Snapshot.openSnapshot RawDevice.openDevice
  simp only [Snapshot.unopened, closed, Bool.false_eq_true, if_false, ne_eq, not_true_eq_false]
  exact (if_neg some_).trans (if_neg room)

theorem open_snapshot_judges (opts : Options) (env : SnapshotEnv) (sb : SuperBlock) (dev : RawDevice) (mode : opts.create = false)
    (closed : dev.isOpen = false) (some_ : snapshotSlotSize dev.sizeBytes ≠ 0)
    (room : ¬ snapshotSlotSize dev.sizeBytes <
      kSnapshotSlotHeaderSize + alignUp (sb.blockCount * kSnapshotRecordSize) kSnapshotBlockSize) :
    ∃ s : Snapshot, SlotsOf dev s ∧ s.dev = { dev with isOpen := true } ∧ s.engineUuid = sb.engineUuid ∧
      (Snapshot.unopened dev).openSnapshot opts env sb =
        match s.adjudicate opts env with
        | .error rc => (rc, { s with dev := s.dev.close.2 })
        | .ok next => (Err.kSuccess, next) := by
  obtain ⟨s, slots, device, uuid, opens⟩ := open_snapshot_begins opts env sb dev closed some_ room
  rw [mode, if_neg Bool.noConfusion] at opens
  exact ⟨s, slots, device, uuid, opens⟩

theorem open_snapshot_sized (opts : Options) (env : SnapshotEnv) (sb : SuperBlock) (dev : RawDevice) :
    ((Snapshot.unopened dev).openSnapshot opts env sb).1 < 0 ∨ (dev.isOpen = false ∧ snapshotSlotSize dev.sizeBytes ≠ 0 ∧
      ¬ snapshotSlotSize dev.sizeBytes < kSnapshotSlotHeaderSize + alignUp (sb.blockCount * kSnapshotRecordSize) kSnapshotBlockSize) := by
  unfold Snapshot.openSnapshot RawDevice.openDevice
  by_cases opened : dev.isOpen = true
  · simp only [Snapshot.unopened, opened, if_true]
    rw [if_pos (by decide)]
    exact .inl (show Err.kIoBase < 0 by decide)
  · simp only [Snapshot.unopened, opened, Bool.false_eq_true, if_false, ne_eq, not_true_eq_false]
    split
    · exact .inl (show Err.kDeviceTooSmall < 0 by decide)
    · rename_i some_
      split
      · exact .inl (show Err.kDeviceTooSmall < 0 by decide)
      · rename_i room
        exact .inr ⟨trivial, some_, room⟩

end Cabe
