import Cabe.SnapshotImage

set_option autoImplicit false

namespace Cabe

open Storage

theorem verify_from_crc (s : Snapshot) (bufSize : Nat) (aligned : bufSize % 4096 = 0) (pos : 0 < bufSize)
    (opened : s.dev.isOpen = true) (readable : ∀ k, s.dev.unreadable k = false) (len : Nat) :
    ∀ (off : Nat) (crc : UInt32), off + alignUp len 4096 ≤ s.dev.sizeBytes →
      s.verifyFrom bufSize off len crc = .ok (Util.crc32cStreamUpdate crc (read s.dev.medium.cur off len)) := by
  induction len using Nat.strong_induction_on with
  | h len ih =>
      intro off crc inside
      rw [Snapshot.verifyFrom]
      by_cases more : 0 < len
      · rw [if_pos more]
        simp only [kSnapshotBlockSize]
        have bounds := want_bounds bufSize len aligned pos more
        obtain ⟨want, named⟩ : ∃ want, min bufSize (alignUp (min len bufSize) 4096) = want := ⟨_, rfl⟩
        simp only [named] at bounds ⊢
        rw [read_at_readable s.dev off want opened readable (by omega)]
        simp only
        rw [if_pos (by omega), read_take _ _ _ _ (by omega)]
        by_cases last : len ≤ want
        · rw [Nat.min_eq_left last, Nat.sub_self, Snapshot.verifyFrom]
          rfl
        · rw [Nat.min_eq_right (by omega), ih (len - want) (by omega) (off + want) _ (by
            have big := align_up_bounds len
            have small := align_up_bounds (len - want)
            omega), ← Util.crc_stream_append, ← read_append, show want + (len - want) = len by omega]
      · rw [if_neg more, show len = 0 by omega]
        rfl

-- The header Write puts in front of a snapshot passes every check of a recovery.
theorem header_verifies (s : Snapshot) (coveredSeq count : Nat) (dataCrc : UInt32) (now : UInt64) :
    verifySlotHeader (s.header coveredSeq count dataCrc now) = true := by
  have crc : computeSlotHeaderCrc (s.header coveredSeq count dataCrc now) = (s.header coveredSeq count dataCrc now).headerCrc32c := by
    simp only [Snapshot.header, computeSlotHeaderCrc, header_bytes_covered]
    rfl
  have magic : (s.header coveredSeq count dataCrc now).magic = kSnapshotSlotMagic := rfl
  have version : (s.header coveredSeq count dataCrc now).version = kSnapshotSlotVersion := rfl
  simp [verifySlotHeader, magic, version, crc]

structure HeaderFits (h : SnapshotSlotHeader) (coveredSeq : Nat) (entries : List IndexEntry) : Prop where
  covered : h.coveredSeq.toNat = coveredSeq
  count : h.entryCount.toNat = entries.length
  len : h.dataLen.toNat = 128 * entries.length
  crc : h.dataCrc = Util.crc32 (recordsBytes entries)

theorem header_fits (s : Snapshot) (coveredSeq : Nat) (entries : List IndexEntry) (now : UInt64) (covered : coveredSeq < 2 ^ 64)
    (word : 128 * entries.length < 2 ^ 64) :
    HeaderFits (s.header coveredSeq entries.length (Util.crc32 (recordsBytes entries)) now) coveredSeq entries := by
  refine ⟨UInt64.toNat_ofNat_of_lt' covered, UInt64.toNat_ofNat_of_lt' ?_, ?_, rfl⟩
  · show entries.length < 2 ^ 64
    omega
  · have len : (UInt64.ofNat (entries.length * kSnapshotRecordSize)).toNat = entries.length * kSnapshotRecordSize :=
      UInt64.toNat_ofNat_of_lt' (by
        unfold kSnapshotRecordSize
        show entries.length * 128 < 2 ^ 64
        omega)
    refine len.trans ?_
    unfold kSnapshotRecordSize
    omega

-- The buffer for the record area can be had and is not empty.
structure Buffered (opts : Options) (env : SnapshotEnv) : Prop where
  pos : 0 < roundUpBufferSize opts.snapshotBufferSize kSnapshotBlockSize
  alloc : env.alloc (roundUpBufferSize opts.snapshotBufferSize kSnapshotBlockSize) = true

theorem verify_slot_holds (s : Snapshot) (opts : Options) (env : SnapshotEnv) (slot : Slot) (h : SnapshotSlotHeader) (coveredSeq : Nat)
    (entries : List IndexEntry) (buffered : Buffered opts env) (opened : s.dev.isOpen = true)
    (readable : ∀ k, s.dev.unreadable k = false) (holds : SlotHolds s.dev (s.slotOff slot) h entries)
    (fits : HeaderFits h coveredSeq entries) : s.verifySlotData opts env slot h = Err.kSuccess := by
  have aligned : roundUpBufferSize opts.snapshotBufferSize kSnapshotBlockSize % 4096 = 0 := round_up_aligned _
  unfold Snapshot.verifySlotData
  by_cases none_ : h.dataLen.toNat = 0
  · have empty : entries = [] := List.eq_nil_of_length_eq_zero (by
      have len := fits.len
      omega)
    rw [if_pos none_, if_pos]
    rw [fits.crc, empty]
    decide
  · rw [if_neg none_]
    simp only [buffered.alloc, Bool.true_eq_false, if_false]
    simp only [fits.len, kSnapshotSlotHeaderSize]
    rw [verify_from_crc s _ aligned buffered.pos opened readable _ _ _ holds.inside]
    simp only [holds.records]
    rw [if_pos]
    rw [fits.crc]
    rfl

-- Loading a slot delivers its entries in the order they were written.
theorem load_holds {σ : Type} (s : Snapshot) (opts : Options) (env : SnapshotEnv) (visitor : MetaIndexVisitor σ) (st : σ) (slot : Slot)
    (h : SnapshotSlotHeader) (entries : List IndexEntry) (buffered : Buffered opts env) (opened : s.dev.isOpen = true)
    (readable : ∀ k, s.dev.unreadable k = false) (active : s.activeSlot = some slot) (count : s.activeEntryCount = entries.length)
    (word : 128 * entries.length < 2 ^ 64) (holds : SlotHolds s.dev (s.slotOff slot) h entries) :
    s.load opts env visitor st = visitAll visitor st entries := by
  have aligned : roundUpBufferSize opts.snapshotBufferSize kSnapshotBlockSize % 4096 = 0 := round_up_aligned _
  unfold Snapshot.load
  rw [opened]
  simp only [Bool.true_eq_false, if_false, active, count, buffered.alloc]
  by_cases none_ : entries.length = 0
  · rw [if_pos none_, List.eq_nil_of_length_eq_zero none_]
    rfl
  · rw [if_neg none_]
    exact load_from_visits s visitor _ aligned buffered.pos opened readable entries.length entries _ st rfl holds.records holds.inside
      word holds.short

-- On a device that does not fail an entry is always taken.
theorem visit_succeeds (start : RawDevice) (dataOff bufSize dataEnd : Nat) (entries : List IndexEntry) (e : Encoding) (key : Key)
    (meta_ : ValueMeta) (encoded : Encoded start dataOff bufSize entries e) (healthy : e.dev.Healthy)
    (short : key.length ≤ kSnapshotKeyMax) (room : dataOff + 128 * (entries.length + 1) ≤ dataEnd) (fits : dataEnd ≤ start.sizeBytes) :
    (Encoding.visit bufSize dataEnd e key meta_).1 = Err.kSuccess ∧ (Encoding.visit bufSize dataEnd e key meta_).2.dev.Healthy := by
  have lengths := congrArg List.length encoded.whole
  simp only [List.length_append, read_length, records_length] at lengths
  have lower := encoded.lower
  have some_ := encoded.pending
  unfold Encoding.visit
  rw [if_neg (by omega), if_neg (by omega : ¬ bufSize = 0)]
  generalize record : (encodeSnapshotRecord key meta_).toBytes = bytes
  have size : bytes.length = 128 := by rw [← record, record_bytes_length]
  simp only
  by_cases full : (e.pending ++ bytes).length = bufSize
  · have total : (e.pending ++ bytes).length = e.pending.length + 128 := by rw [List.length_append, size]
    rw [if_pos full, if_neg (by omega), healthy_write e.dev _ _ healthy (by rw [encoded.device.size]; omega)]
    simp only [ne_eq, not_true_eq_false, if_false]
    exact ⟨trivial, healthy_record _ _ healthy⟩
  · rw [if_neg full]
    exact ⟨rfl, healthy⟩

theorem visit_all_succeeds (start : RawDevice) (dataOff bufSize dataEnd : Nat) (aligned : bufSize % 4096 = 0)
    (fits : dataEnd ≤ start.sizeBytes) (rest : List IndexEntry) : ∀ (entries : List IndexEntry) (e : Encoding),
    Encoded start dataOff bufSize entries e → e.dev.Healthy → (∀ entry ∈ rest, entry.1.length ≤ kSnapshotKeyMax) →
      dataOff + 128 * (entries.length + rest.length) ≤ dataEnd →
      (visitAll (Encoding.visit bufSize dataEnd) e rest).1 = Err.kSuccess ∧
        (visitAll (Encoding.visit bufSize dataEnd) e rest).2.dev.Healthy := by
  induction rest with
  | nil => exact fun _ _ _ healthy _ _ => ⟨rfl, healthy⟩
  | cons entry rest ih =>
      intro entries e encoded healthy short room
      rw [List.length_cons] at room
      obtain ⟨fine, healthy'⟩ := visit_succeeds start dataOff bufSize dataEnd entries e entry.1 entry.2 encoded healthy
        (short entry (by simp)) (by omega) fits
      have next := visit_encoded start dataOff bufSize dataEnd entries e entry.1 entry.2 aligned encoded fine
      unfold visitAll
      simp only [ne_eq, fine, not_true_eq_false, if_false]
      apply ih _ _ next healthy' (fun entry member => short entry (List.mem_cons_of_mem _ member))
      rw [List.length_append, List.length_singleton]
      omega

theorem drain_succeeds (start : RawDevice) (dataOff bufSize dataEnd : Nat) (entries : List IndexEntry) (e : Encoding)
    (encoded : Encoded start dataOff bufSize entries e) (healthy : e.dev.Healthy)
    (room : dataOff + alignUp (128 * entries.length) 4096 ≤ dataEnd) (fits : dataEnd ≤ start.sizeBytes) :
    (e.drain dataEnd).1 = Err.kSuccess ∧ (e.drain dataEnd).2.dev.Healthy := by
  have lengths := congrArg List.length encoded.whole
  simp only [List.length_append, read_length, records_length] at lengths
  have lower := encoded.lower
  have blocks := encoded.blocks
  have rounded := align_up_bounds (128 * entries.length)
  unfold Encoding.drain
  by_cases left : 0 < e.pending.length
  · have padded := align_up_bounds e.pending.length
    simp only [left, if_true, kSnapshotBlockSize]
    obtain ⟨bytes, named⟩ : ∃ bytes, alignUp e.pending.length 4096 = bytes := ⟨_, rfl⟩
    simp only [named] at padded ⊢
    have size : (e.pending ++ zeros (bytes - e.pending.length)).length = bytes := by
      rw [List.length_append, zeros_length]
      omega
    rw [if_neg (by omega), healthy_write e.dev _ _ healthy (by rw [encoded.device.size, size]; omega)]
    exact ⟨rfl, healthy_record _ _ healthy⟩
  · rw [if_neg left]
    exact ⟨rfl, healthy⟩

-- The place of the two slots on a device that does not fail.
structure SnapshotReady (s : Snapshot) (sb : SuperBlock) : Prop where
  healthy : s.dev.Healthy
  slotA : s.slotAOff = 8192
  slotB : s.slotBOff = 8192 + s.slotSize
  size : s.slotSize = snapshotSlotSize s.dev.sizeBytes
  pos : 0 < s.slotSize
  capacity : 4096 + alignUp (sb.blockCount * 128) 4096 ≤ s.slotSize
  uuid : s.engineUuid = sb.engineUuid

theorem slot_inside (s : Snapshot) (sb : SuperBlock) (ready : SnapshotReady s sb) (slot : Slot) :
    8192 ≤ s.slotOff slot ∧ s.slotOff slot + s.slotSize ≤ s.dev.sizeBytes := by
  have fits := slot_size_fits s.dev.sizeBytes (by rw [← ready.size]; exact ready.pos)
  have a := ready.slotA
  have b := ready.slotB
  rw [← ready.size, kDataRegionOffset] at fits
  cases slot <;> simp only [Snapshot.slotOff] <;> omega

theorem slots_apart (s : Snapshot) (sb : SuperBlock) (ready : SnapshotReady s sb) (slot : Slot) :
    s.slotOff slot + s.slotSize ≤ s.slotOff slot.other ∨ s.slotOff slot.other + s.slotSize ≤ s.slotOff slot := by
  have a := ready.slotA
  have b := ready.slotB
  cases slot <;> simp only [Snapshot.slotOff, Slot.other] <;> omega

theorem align_up_mono (a b : Nat) (le : a ≤ b) : alignUp a 4096 ≤ alignUp b 4096 := by
  unfold alignUp
  omega

-- A snapshot of what the device can index fails only for want of memory, and
-- then before anything is written.
theorem write_succeeds (s : Snapshot) (sb : SuperBlock) (opts : Options) (env : SnapshotEnv) (coveredSeq : Nat)
    (entries : List IndexEntry) (ready : SnapshotReady s sb)
    (pos : 0 < roundUpBufferSize opts.snapshotBufferSize kSnapshotBlockSize) (count : entries.length ≤ sb.blockCount)
    (short : ∀ entry ∈ entries, entry.1.length ≤ kSnapshotKeyMax) :
    (s.write opts env coveredSeq (fun visitor st => visitAll visitor st entries) = (Err.kSnapshotWriteFailed, s) ∧
        env.alloc (roundUpBufferSize opts.snapshotBufferSize kSnapshotBlockSize) = false) ∨
      ((s.write opts env coveredSeq (fun visitor st => visitAll visitor st entries)).1 = Err.kSuccess ∧
        SnapshotReady (s.write opts env coveredSeq (fun visitor st => visitAll visitor st entries)).2 sb) := by
  cases alloc : env.alloc (roundUpBufferSize opts.snapshotBufferSize kSnapshotBlockSize) with
  | false =>
      left
      refine ⟨?_, rfl⟩
      unfold Snapshot.write
      simp [ready.healthy.opened, alloc]
  | true =>
      right
      have aligned : roundUpBufferSize opts.snapshotBufferSize kSnapshotBlockSize % 4096 = 0 := round_up_aligned _
      have inside := (slot_inside s sb ready s.target).2
      have capacity := ready.capacity
      have grown := align_up_mono (128 * entries.length) (sb.blockCount * 128) (by omega)
      have rounded := align_up_bounds (128 * entries.length)
      have started := encoded_start s.dev (s.slotOff s.target + kSnapshotSlotHeaderSize) _ pos
      have place : s.slotOff s.target + kSnapshotSlotHeaderSize = s.slotOff s.target + 4096 := rfl
      have done : (s.write opts env coveredSeq (fun visitor st => visitAll visitor st entries)).1 = Err.kSuccess ∧
          (s.write opts env coveredSeq (fun visitor st => visitAll visitor st entries)).2.dev.Healthy := by
        unfold Snapshot.write
        rw [ready.healthy.opened]
        simp only [Bool.true_eq_false, if_false, alloc]
        obtain ⟨bufSize, named⟩ : ∃ bufSize, roundUpBufferSize opts.snapshotBufferSize kSnapshotBlockSize = bufSize := ⟨_, rfl⟩
        simp only [named] at aligned pos started ⊢
        generalize s.slotOff s.target + kSnapshotSlotHeaderSize = dataOff at place started ⊢
        have visits := visit_all_succeeds s.dev dataOff bufSize (s.slotOff s.target + s.slotSize) aligned inside entries [] _ started
          ready.healthy short (by rw [List.length_nil]; omega)
        have encoded := visit_all_encoded s.dev dataOff bufSize (s.slotOff s.target + s.slotSize) aligned entries [] _ started
        generalize (⟨s.dev, [], dataOff, 0, 0xFFFFFFFF⟩ : Encoding) = first at visits encoded ⊢
        generalize visitAll (Encoding.visit bufSize (s.slotOff s.target + s.slotSize)) first entries = scanned at visits encoded ⊢
        have kept := encoded visits.1
        rw [List.nil_append] at kept
        simp only [visits.1, ne_eq, not_true_eq_false, if_false]
        have drains := drain_succeeds s.dev dataOff bufSize (s.slotOff s.target + s.slotSize) entries scanned.2 kept visits.2
          (by omega) inside
        have flushed := drain_flushed s.dev dataOff bufSize (s.slotOff s.target + s.slotSize) entries scanned.2 kept drains.1
        generalize scanned.2.drain (s.slotOff s.target + s.slotSize) = rest at drains flushed ⊢
        simp only [drains.1, not_true_eq_false, if_false, if_neg (Nat.ne_of_gt pos)]
        generalize s.header coveredSeq rest.2.count (~~~ rest.2.crc) env.now = h
        rw [healthy_write rest.2.dev _ _ drains.2 (by rw [flushed.device.size, header_bytes_length]; omega)]
        simp only [not_true_eq_false, if_false]
        rw [healthy_sync _ (healthy_record _ _ drains.2)]
        simp only [not_true_eq_false, if_false]
        exact ⟨trivial, healthy_record _ _ (healthy_record _ _ drains.2)⟩
      have wrote := write_success s opts env coveredSeq entries pos done.1
      generalize s.write opts env coveredSeq (fun visitor st => visitAll visitor st entries) = result at done wrote ⊢
      refine ⟨done.1, done.2, ?_, ?_, ?_, ?_, ?_, ?_⟩
      · rw [wrote.fields]
        exact ready.slotA
      · rw [wrote.fields]
        exact ready.slotB
      · rw [wrote.device.size, wrote.fields]
        exact ready.size
      · rw [wrote.fields]
        exact ready.pos
      · rw [wrote.fields]
        exact ready.capacity
      · rw [wrote.fields]
        exact ready.uuid

end Cabe
