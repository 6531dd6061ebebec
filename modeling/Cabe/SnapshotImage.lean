import Cabe.Snapshot

set_option autoImplicit false

namespace Cabe

open Storage

def recordBytes (e : IndexEntry) : Bytes := (encodeSnapshotRecord e.1 e.2).toBytes

-- The record area of a snapshot of these entries.
def recordsBytes (entries : List IndexEntry) : Bytes := entries.flatMap recordBytes

@[simp] theorem record_length (e : IndexEntry) : (recordBytes e).length = 128 := record_bytes_length _

@[simp] theorem records_length (entries : List IndexEntry) : (recordsBytes entries).length = 128 * entries.length := by
  induction entries with
  | nil => rfl
  | cons e rest ih =>
      rw [recordsBytes, List.flatMap_cons, List.length_append, record_length, ← recordsBytes, ih, List.length_cons]
      omega

theorem records_append (a b : List IndexEntry) : recordsBytes (a ++ b) = recordsBytes a ++ recordsBytes b := List.flatMap_append

theorem slice_record (entries : List IndexEntry) (i : Nat) (inside : i < entries.length) :
    slice (recordsBytes entries) (i * 128) 128 = recordBytes entries[i] := by
  have rest : entries.drop i = entries[i] :: entries.drop (i + 1) := List.drop_eq_getElem_cons inside
  have split : recordsBytes entries = recordsBytes (entries.take i) ++ (recordBytes entries[i] ++ recordsBytes (entries.drop (i + 1))) := by
    conv_lhs => rw [← List.take_append_drop i entries, rest]
    rw [records_append]
    rfl
  have len : (recordsBytes (entries.take i)).length = i * 128 := by
    rw [records_length, List.length_take]
    omega
  rw [split, slice_append_right _ _ _ _ (by omega), len, Nat.sub_self, slice_left_exact _ _ _ (record_length _)]

-- The device as it was found, but for the writes since.
structure SameDevice (a b : RawDevice) : Prop where
  size : b.sizeBytes = a.sizeBytes
  open_ : b.isOpen = a.isOpen
  unreadable : b.unreadable = a.unreadable

-- How far an encoding has come: the flushed part and the buffer are the records
-- so far.
structure Encoded (start : RawDevice) (dataOff bufSize : Nat) (entries : List IndexEntry) (e : Encoding) : Prop where
  whole : read e.dev.medium.cur dataOff (e.off - dataOff) ++ e.pending = recordsBytes entries
  lower : dataOff ≤ e.off
  blocks : (e.off - dataOff) % 4096 = 0
  inside : e.off = dataOff ∨ e.off ≤ start.sizeBytes
  pending : e.pending.length < bufSize
  count : e.count = entries.length
  crc : e.crc = Util.crc32cStreamUpdate 0xFFFFFFFF (recordsBytes entries)
  outside : ∀ o, (o < dataOff ∨ e.off ≤ o) → e.dev.medium.cur o = start.medium.cur o
  device : SameDevice start e.dev
  short : ∀ entry ∈ entries, entry.1.length ≤ kSnapshotKeyMax

theorem encoded_start (start : RawDevice) (dataOff bufSize : Nat) (pos : 0 < bufSize) :
    Encoded start dataOff bufSize [] ⟨start, [], dataOff, 0, 0xFFFFFFFF⟩ where
  whole := by simp [recordsBytes, Storage.read]
  lower := Nat.le_refl _
  blocks := by simp
  inside := .inl rfl
  pending := pos
  count := rfl
  crc := rfl
  outside := fun _ _ => rfl
  device := ⟨rfl, rfl, rfl⟩
  short := by simp

theorem visit_encoded (start : RawDevice) (dataOff bufSize dataEnd : Nat) (entries : List IndexEntry) (e : Encoding) (key : Key)
    (meta_ : ValueMeta) (aligned : bufSize % 4096 = 0) (encoded : Encoded start dataOff bufSize entries e)
    (done : (Encoding.visit bufSize dataEnd e key meta_).1 = Err.kSuccess) :
    Encoded start dataOff bufSize (entries ++ [⟨key, meta_⟩]) (Encoding.visit bufSize dataEnd e key meta_).2 := by
  have more : recordsBytes (entries ++ [⟨key, meta_⟩]) = recordsBytes entries ++ recordBytes ⟨key, meta_⟩ := by
    rw [records_append]
    simp [recordsBytes]
  have crc : Util.crc32cStreamUpdate e.crc (recordBytes ⟨key, meta_⟩) =
      Util.crc32cStreamUpdate 0xFFFFFFFF (recordsBytes (entries ++ [⟨key, meta_⟩])) := by
    rw [more, Util.crc_stream_append, encoded.crc]
  have whole : read e.dev.medium.cur dataOff (e.off - dataOff) ++ (e.pending ++ recordBytes ⟨key, meta_⟩) =
      recordsBytes (entries ++ [⟨key, meta_⟩]) := by
    rw [more, ← encoded.whole, List.append_assoc]
  have lengths := congrArg List.length encoded.whole
  simp only [List.length_append, read_length, records_length] at lengths
  have pending := encoded.pending
  have lower := encoded.lower
  have blocks := encoded.blocks
  unfold Encoding.visit at done ⊢
  by_cases long : key.length > kSnapshotKeyMax
  · rw [if_pos long] at done
    exact absurd (show Err.kSnapshotWriteFailed = Err.kSuccess from done) (by decide)
  have short : ∀ entry ∈ entries ++ [⟨key, meta_⟩], entry.1.length ≤ kSnapshotKeyMax := by
    intro entry member
    rcases List.mem_append.mp member with old | new
    · exact encoded.short entry old
    · cases List.mem_singleton.mp new
      exact Nat.le_of_not_gt long
  rw [if_neg long, if_neg (by omega : ¬ bufSize = 0)] at done ⊢
  generalize record : (encodeSnapshotRecord key meta_).toBytes = bytes at done ⊢
  have named : recordBytes ⟨key, meta_⟩ = bytes := record
  have size : bytes.length = 128 := by rw [← named, record_length]
  rw [named] at crc whole
  simp only at done ⊢
  by_cases full : (e.pending ++ bytes).length = bufSize
  · rw [if_pos full] at done ⊢
    by_cases past : e.off + (e.pending ++ bytes).length > dataEnd
    · rw [if_pos past] at done
      exact absurd (show Err.kDeviceTooSmall = Err.kSuccess from done) (by decide)
    rw [if_neg past] at done ⊢
    by_cases wrote : (e.dev.writeAt e.off (e.pending ++ bytes)).1 = Err.kSuccess
    swap
    · simp only [ne_eq, wrote, not_false_eq_true, if_true] at done
      exact absurd (show Err.kSnapshotWriteFailed = Err.kSuccess from done) (by decide)
    obtain ⟨_, fits, after⟩ := write_at_ok _ _ _ wrote
    simp only [ne_eq, wrote, not_true_eq_false, if_false, after]
    refine ⟨?_, ?_, ?_, ?_, ?_, ?_, crc, ?_, ?_, short⟩
    · show read (write e.dev.medium.cur e.off (e.pending ++ bytes)) dataOff (e.off + (e.pending ++ bytes).length - dataOff) ++ [] = _
      rw [List.append_nil, show e.off + (e.pending ++ bytes).length - dataOff = (e.off - dataOff) + (e.pending ++ bytes).length by omega,
        read_append, read_write_disjoint _ _ _ _ _ (by omega), show dataOff + (e.off - dataOff) = e.off by omega,
        read_write_inside _ _ _ _ _ (by omega) (by omega), Nat.sub_self, slice_all]
      exact whole
    · show dataOff ≤ e.off + (e.pending ++ bytes).length
      omega
    · show (e.off + (e.pending ++ bytes).length - dataOff) % 4096 = 0
      rw [full]
      omega
    · right
      show e.off + (e.pending ++ bytes).length ≤ start.sizeBytes
      rw [← encoded.device.size]
      exact fits
    · show 0 < bufSize
      omega
    · show e.count + 1 = _
      rw [encoded.count, List.length_append, List.length_singleton]
    · intro o away
      show write e.dev.medium.cur e.off (e.pending ++ bytes) o = _
      have away' : o < dataOff ∨ e.off + (e.pending ++ bytes).length ≤ o := away
      rw [write_outside _ _ _ _ (by omega)]
      exact encoded.outside o (by omega)
    · exact ⟨encoded.device.size, encoded.device.open_, encoded.device.unreadable⟩
  · rw [if_neg full]
    rw [List.length_append] at full
    refine ⟨whole, lower, blocks, encoded.inside, ?_, ?_, crc, encoded.outside, encoded.device, short⟩
    · show (e.pending ++ bytes).length < bufSize
      rw [List.length_append]
      omega
    · show e.count + 1 = _
      rw [encoded.count, List.length_append, List.length_singleton]

theorem visit_all_encoded (start : RawDevice) (dataOff bufSize dataEnd : Nat) (aligned : bufSize % 4096 = 0) (rest : List IndexEntry) :
    ∀ (entries : List IndexEntry) (e : Encoding), Encoded start dataOff bufSize entries e →
      (visitAll (Encoding.visit bufSize dataEnd) e rest).1 = Err.kSuccess →
      Encoded start dataOff bufSize (entries ++ rest) (visitAll (Encoding.visit bufSize dataEnd) e rest).2 := by
  induction rest with
  | nil =>
      intro entries e encoded _
      rw [List.append_nil]
      exact encoded
  | cons entry rest ih =>
      intro entries e encoded done
      unfold visitAll at done ⊢
      simp only at done ⊢
      by_cases fine : (Encoding.visit bufSize dataEnd e entry.1 entry.2).1 = Err.kSuccess
      · simp only [ne_eq, fine, not_true_eq_false, if_false] at done ⊢
        have next := ih _ _ (visit_encoded start dataOff bufSize dataEnd entries e entry.1 entry.2 aligned encoded fine) done
        rw [List.append_assoc] at next
        exact next
      · simp only [ne_eq, fine, not_false_eq_true, if_true] at done

theorem align_up_bounds (x : Nat) : x ≤ alignUp x 4096 ∧ alignUp x 4096 % 4096 = 0 ∧ alignUp x 4096 < x + 4096 := by
  unfold alignUp
  omega

-- The record area once the buffer is empty.
structure Flushed (start : RawDevice) (dataOff : Nat) (entries : List IndexEntry) (e : Encoding) : Prop where
  records : read e.dev.medium.cur dataOff (128 * entries.length) = recordsBytes entries
  inside : entries = [] ∨ dataOff + alignUp (128 * entries.length) 4096 ≤ start.sizeBytes
  count : e.count = entries.length
  crc : ~~~ e.crc = Util.crc32 (recordsBytes entries)
  outside : ∀ o, (o < dataOff ∨ dataOff + alignUp (128 * entries.length) 4096 ≤ o) → e.dev.medium.cur o = start.medium.cur o
  device : SameDevice start e.dev
  short : ∀ entry ∈ entries, entry.1.length ≤ kSnapshotKeyMax

theorem drain_flushed (start : RawDevice) (dataOff bufSize dataEnd : Nat) (entries : List IndexEntry) (e : Encoding)
    (encoded : Encoded start dataOff bufSize entries e) (done : (e.drain dataEnd).1 = Err.kSuccess) :
    Flushed start dataOff entries (e.drain dataEnd).2 := by
  have lengths := congrArg List.length encoded.whole
  simp only [List.length_append, read_length, records_length] at lengths
  have lower := encoded.lower
  have blocks := encoded.blocks
  have rounded := align_up_bounds (128 * entries.length)
  have crc : ~~~ e.crc = Util.crc32 (recordsBytes entries) := by
    rw [encoded.crc]
    rfl
  unfold Encoding.drain at done ⊢
  by_cases left : 0 < e.pending.length
  · rw [if_pos left] at done ⊢
    simp only at done ⊢
    have padded := align_up_bounds e.pending.length
    rw [kSnapshotBlockSize] at done ⊢
    generalize alignUp e.pending.length 4096 = bytes at done padded ⊢
    by_cases past : e.off + bytes > dataEnd
    · rw [if_pos past] at done
      exact absurd (show Err.kDeviceTooSmall = Err.kSuccess from done) (by decide)
    rw [if_neg past] at done ⊢
    have size : (e.pending ++ zeros (bytes - e.pending.length)).length = bytes := by
      rw [List.length_append, zeros_length]
      omega
    generalize block : e.pending ++ zeros (bytes - e.pending.length) = buf at done size ⊢
    by_cases wrote : (e.dev.writeAt e.off buf).1 = Err.kSuccess
    swap
    · simp only [ne_eq, wrote, not_false_eq_true, if_true] at done
      exact absurd (show Err.kSnapshotWriteFailed = Err.kSuccess from done) (by decide)
    obtain ⟨_, fits, after⟩ := write_at_ok _ _ _ wrote
    have total : dataOff + alignUp (128 * entries.length) 4096 = e.off + bytes := by omega
    refine ⟨?_, .inr ?_, encoded.count, crc, ?_, ?_, encoded.short⟩
    · show read (e.dev.writeAt e.off buf).2.medium.cur dataOff (128 * entries.length) = _
      rw [after]
      show read (write e.dev.medium.cur e.off buf) dataOff (128 * entries.length) = _
      rw [show 128 * entries.length = (e.off - dataOff) + e.pending.length by omega, read_append,
        read_write_disjoint _ _ _ _ _ (by omega), show dataOff + (e.off - dataOff) = e.off by omega,
        read_write_inside _ _ _ _ _ (by omega) (by omega), Nat.sub_self, ← block, slice_left_exact _ _ _ rfl]
      exact encoded.whole
    · rw [total, ← encoded.device.size, ← size]
      exact fits
    · intro o away
      show (e.dev.writeAt e.off buf).2.medium.cur o = _
      rw [after]
      show write e.dev.medium.cur e.off buf o = _
      rw [write_outside _ _ _ _ (by omega)]
      exact encoded.outside o (by omega)
    · show SameDevice start (e.dev.writeAt e.off buf).2
      rw [after]
      exact ⟨encoded.device.size, encoded.device.open_, encoded.device.unreadable⟩
  · rw [if_neg left]
    have none_ : e.pending = [] := List.eq_nil_of_length_eq_zero (by omega)
    have total : dataOff + alignUp (128 * entries.length) 4096 = e.off := by omega
    refine ⟨?_, ?_, encoded.count, crc, fun o away => encoded.outside o (by omega), encoded.device, encoded.short⟩
    · have whole := encoded.whole
      rw [none_, List.append_nil] at whole
      rw [show 128 * entries.length = e.off - dataOff by omega]
      exact whole
    · rcases encoded.inside with first | fits
      · exact .inl (List.eq_nil_of_length_eq_zero (by omega))
      · exact .inr (by omega)

-- A slot that holds a snapshot of these entries.
structure SlotHolds (dev : RawDevice) (slotOff : Nat) (h : SnapshotSlotHeader) (entries : List IndexEntry) : Prop where
  header : read dev.medium.cur slotOff 4096 = h.toBytes
  records : read dev.medium.cur (slotOff + 4096) (128 * entries.length) = recordsBytes entries
  inside : slotOff + 4096 + alignUp (128 * entries.length) 4096 ≤ dev.sizeBytes
  short : ∀ entry ∈ entries, entry.1.length ≤ kSnapshotKeyMax

structure Wrote (s : Snapshot) (coveredSeq : Nat) (now : UInt64) (entries : List IndexEntry) (after : Snapshot) : Prop where
  holds : SlotHolds after.dev (s.slotOff s.target) (s.header coveredSeq entries.length (Util.crc32 (recordsBytes entries)) now) entries
  outside : ∀ o, (o < s.slotOff s.target ∨ s.slotOff s.target + 4096 + alignUp (128 * entries.length) 4096 ≤ o) →
    after.dev.medium.cur o = s.dev.medium.cur o
  device : SameDevice s.dev after.dev
  synced : after.dev.medium.unsynced = []
  fields : after = { s with
    dev := after.dev
    activeSlot := some s.target
    lastCoveredSeq := coveredSeq
    activeEntryCount := entries.length
    nextGen := (s.nextGen + 1) % 2 ^ 64 }

theorem write_success (s : Snapshot) (opts : Options) (env : SnapshotEnv) (coveredSeq : Nat) (entries : List IndexEntry)
    (pos : 0 < roundUpBufferSize opts.snapshotBufferSize kSnapshotBlockSize)
    (done : (s.write opts env coveredSeq (fun visitor st => visitAll visitor st entries)).1 = Err.kSuccess) :
    Wrote s coveredSeq env.now entries (s.write opts env coveredSeq (fun visitor st => visitAll visitor st entries)).2 := by
  have aligned : roundUpBufferSize opts.snapshotBufferSize kSnapshotBlockSize % 4096 = 0 := round_up_aligned _
  unfold Snapshot.write at done ⊢
  by_cases shut : s.dev.isOpen = false
  · rw [if_pos shut] at done
    exact absurd (show Err.kSnapshotWriteFailed = Err.kSuccess from done) (by decide)
  rw [if_neg shut] at done ⊢
  obtain ⟨bufSize, size⟩ : ∃ bufSize, roundUpBufferSize opts.snapshotBufferSize kSnapshotBlockSize = bufSize := ⟨_, rfl⟩
  simp only [size] at done pos aligned ⊢
  by_cases short : env.alloc bufSize = false
  · rw [if_pos short] at done
    exact absurd (show Err.kSnapshotWriteFailed = Err.kSuccess from done) (by decide)
  rw [if_neg short] at done ⊢
  have place : s.slotOff s.target + kSnapshotSlotHeaderSize = s.slotOff s.target + 4096 := rfl
  generalize s.slotOff s.target + kSnapshotSlotHeaderSize = dataOff at place done ⊢
  have started := encoded_start s.dev dataOff bufSize pos
  generalize (⟨s.dev, [], dataOff, 0, 0xFFFFFFFF⟩ : Encoding) = first at started done ⊢
  have visited := visit_all_encoded s.dev dataOff bufSize (s.slotOff s.target + s.slotSize) aligned entries [] first started
  generalize visitAll (Encoding.visit bufSize (s.slotOff s.target + s.slotSize)) first entries = scanned at visited done ⊢
  by_cases scanFine : scanned.1 = Err.kSuccess
  swap
  · simp only [ne_eq, scanFine, not_false_eq_true, if_true] at done
  simp only [ne_eq, scanFine, not_true_eq_false, if_false] at done ⊢
  have drained := drain_flushed s.dev dataOff bufSize (s.slotOff s.target + s.slotSize) _ scanned.2 (visited scanFine)
  generalize scanned.2.drain (s.slotOff s.target + s.slotSize) = rest at drained done ⊢
  by_cases drainFine : rest.1 = Err.kSuccess
  swap
  · simp only [drainFine, not_false_eq_true, if_true] at done
  simp only [drainFine, not_true_eq_false, if_false, if_neg (Nat.ne_of_gt pos)] at done ⊢
  have flushed := drained drainFine
  rw [List.nil_append] at flushed
  rw [flushed.count, flushed.crc] at done ⊢
  generalize named : s.header coveredSeq entries.length (Util.crc32 (recordsBytes entries)) env.now = h at done ⊢
  by_cases headFine : (rest.2.dev.writeAt (s.slotOff s.target) h.toBytes).1 = Err.kSuccess
  swap
  · simp only [headFine, not_false_eq_true, if_true] at done
    exact absurd (show Err.kSnapshotWriteFailed = Err.kSuccess from done) (by decide)
  simp only [headFine, not_true_eq_false, if_false] at done ⊢
  obtain ⟨_, fits, wrote⟩ := write_at_ok _ _ _ headFine
  rw [header_bytes_length] at fits
  rw [wrote] at done ⊢
  generalize last : rest.2.dev.record (rest.2.dev.medium.put (write rest.2.dev.medium.cur (s.slotOff s.target) h.toBytes)) = dev at done ⊢
  by_cases syncFine : dev.sync.1 = Err.kSuccess
  swap
  · simp only [syncFine, not_false_eq_true, if_true] at done
    exact absurd (show Err.kSnapshotWriteFailed = Err.kSuccess from done) (by decide)
  simp only [syncFine, not_true_eq_false, if_false]
  obtain ⟨_, synced⟩ := sync_ok _ syncFine
  rw [synced]
  have cur : dev.medium.cur = write rest.2.dev.medium.cur (s.slotOff s.target) h.toBytes := by rw [← last]; rfl
  have same : SameDevice s.dev (dev.record dev.medium.flush) := by
    rw [← last]
    exact ⟨flushed.device.size, flushed.device.open_, flushed.device.unreadable⟩
  have size := header_bytes_length h
  have rounded := align_up_bounds (128 * entries.length)
  refine ⟨⟨?_, ?_, ?_, flushed.short⟩, ?_, same, rfl, rfl⟩
  · show read dev.medium.cur (s.slotOff s.target) 4096 = _
    rw [cur, read_write_inside _ _ _ _ _ (Nat.le_refl _) (by omega), Nat.sub_self, ← size, slice_all, ← named]
  · show read dev.medium.cur (s.slotOff s.target + 4096) (128 * entries.length) = _
    rw [cur, read_write_disjoint _ _ _ _ _ (by omega), ← place]
    exact flushed.records
  · show _ ≤ (dev.record dev.medium.flush).sizeBytes
    rw [same.size]
    rcases flushed.inside with none_ | inside
    · rw [flushed.device.size] at fits
      rw [none_]
      simpa [alignUp] using fits
    · rw [← place]
      exact inside
  · intro o away
    show dev.medium.cur o = _
    rw [cur, write_outside _ _ _ _ (by omega)]
    exact flushed.outside o (by omega)

theorem visit_all_append {σ : Type} (visitor : MetaIndexVisitor σ) (a b : List IndexEntry) : ∀ st,
    visitAll visitor st (a ++ b) =
      if (visitAll visitor st a).1 ≠ Err.kSuccess then visitAll visitor st a else visitAll visitor (visitAll visitor st a).2 b := by
  induction a with
  | nil => exact fun _ => rfl
  | cons e rest ih =>
      intro st
      rw [List.cons_append, visitAll, visitAll]
      simp only
      by_cases fine : (visitor st e.1 e.2).1 = Err.kSuccess
      · simp only [ne_eq, fine, not_true_eq_false, if_false]
        exact ih _
      · simp only [ne_eq, fine, not_false_eq_true, if_true]

-- The records of a chunk are delivered as the entries they encode.
theorem load_records_visits {σ : Type} (visitor : MetaIndexVisitor σ) (buf : Bytes) (entries : List IndexEntry) (start : Nat)
    (holds : ∀ i (inside : i < entries.length), slice buf ((start + i) * 128) 128 = recordBytes entries[i])
    (short : ∀ entry ∈ entries, entry.1.length ≤ kSnapshotKeyMax) : ∀ st,
    loadRecords visitor buf (List.range' start entries.length) st = visitAll visitor st entries := by
  induction entries generalizing start with
  | nil => exact fun _ => rfl
  | cons e rest ih =>
      intro st
      have first : slice buf (start * 128) 128 = recordBytes e := holds 0 (by simp)
      have record : SnapshotRecord.ofBytes (slice buf (start * kSnapshotRecordSize) kSnapshotRecordSize) = encodeSnapshotRecord e.1 e.2 := by
        rw [kSnapshotRecordSize, first]
        exact record_of_to_bytes _
      have fits := short e (by simp)
      have len : (encodeSnapshotRecord e.1 e.2).keyLen.toNat = e.1.length := by
        unfold kSnapshotKeyMax at fits
        exact UInt16.toNat_ofNat_of_lt' (Nat.lt_of_le_of_lt fits (by decide))
      have later := ih (start + 1) (fun i inside => by
        have next := holds (i + 1) (by simpa using inside)
        rw [List.getElem_cons_succ, show start + (i + 1) = start + 1 + i by omega] at next
        exact next) (fun entry member => short entry (List.mem_cons_of_mem _ member))
      rw [List.length_cons, List.range'_succ, loadRecords, visitAll]
      simp only [record, decode_encode_record e.1 e.2 fits]
      rw [if_neg (by omega)]
      by_cases fine : (visitor st e.1 e.2).1 = Err.kSuccess
      · simp only [ne_eq, fine, not_true_eq_false, if_false]
        exact later _
      · simp only [ne_eq, fine, not_false_eq_true, if_true]

-- How much one read of a loop over the record area takes.
theorem want_bounds (bufSize rest : Nat) (aligned : bufSize % 4096 = 0) (pos : 0 < bufSize) (more : 0 < rest) :
    let want := min bufSize (alignUp (min rest bufSize) 4096)
    0 < want ∧ want % 4096 = 0 ∧ want ≤ alignUp rest 4096 ∧ (want < rest ∨ rest ≤ want) ∧ (rest ≤ want ∨ want = bufSize) := by
  intro want
  have rounded := align_up_bounds rest
  have capped := align_up_bounds (min rest bufSize)
  have named : want = min bufSize (alignUp (min rest bufSize) 4096) := rfl
  omega

theorem load_from_visits {σ : Type} (s : Snapshot) (visitor : MetaIndexVisitor σ) (bufSize : Nat) (aligned : bufSize % 4096 = 0)
    (pos : 0 < bufSize) (opened : s.dev.isOpen = true) (readable : ∀ k, s.dev.unreadable k = false) (count : Nat) :
    ∀ (entries : List IndexEntry) (off : Nat) (st : σ), entries.length = count →
      read s.dev.medium.cur off (128 * entries.length) = recordsBytes entries →
      off + alignUp (128 * entries.length) 4096 ≤ s.dev.sizeBytes → 128 * entries.length < 2 ^ 64 →
      (∀ entry ∈ entries, entry.1.length ≤ kSnapshotKeyMax) →
      s.loadFrom visitor bufSize off count st = visitAll visitor st entries := by
  induction count using Nat.strong_induction_on with
  | h count ih =>
      intro entries off st len records inside word short
      rw [Snapshot.loadFrom]
      by_cases more : 0 < count
      · rw [if_pos more]
        have bytes : count * kSnapshotRecordSize % 2 ^ 64 = 128 * entries.length := by
          rw [kSnapshotRecordSize, ← len, Nat.mul_comm, Nat.mod_eq_of_lt word]
        simp only [bytes, kSnapshotBlockSize]
        have bounds := want_bounds bufSize (128 * entries.length) aligned pos (by omega)
        simp only at bounds
        generalize min bufSize (alignUp (min (128 * entries.length) bufSize) 4096) = want at bounds ⊢
        rw [read_at_readable s.dev off want opened readable (by omega)]
        simp only [kSnapshotRecordSize]
        obtain ⟨recs, here⟩ : ∃ recs, min count (want / 128) = recs := ⟨_, rfl⟩
        simp only [here]
        have recsBound : recs ≤ entries.length := by omega
        have taken : (entries.take recs).length = recs := by
          rw [List.length_take]
          omega
        have chunk : loadRecords visitor (read s.dev.medium.cur off want) (List.range recs) st =
            visitAll visitor st (entries.take recs) := by
          have visits := load_records_visits visitor (read s.dev.medium.cur off want) (entries.take recs) 0 (fun i bound => by
            rw [taken] at bound
            rw [Nat.zero_add, slice_read _ _ _ _ _ (by omega), List.getElem_take, ← slice_record entries i (by omega), ← records,
              slice_read _ _ _ _ _ (by omega)]) (fun entry member => short entry (List.mem_of_mem_take member)) st
          rw [taken] at visits
          rw [List.range_eq_range']
          exact visits
        have rest : visitAll visitor st entries = if (visitAll visitor st (entries.take recs)).1 ≠ Err.kSuccess then
            visitAll visitor st (entries.take recs)
          else visitAll visitor (visitAll visitor st (entries.take recs)).2 (entries.drop recs) := by
          conv_lhs => rw [← List.take_append_drop recs entries]
          exact visit_all_append visitor _ _ st
        rw [chunk, rest]
        by_cases fine : (visitAll visitor st (entries.take recs)).1 = Err.kSuccess
        · simp only [ne_eq, fine, not_true_eq_false, if_false]
          rw [if_pos (by omega)]
          have dropped : (entries.drop recs).length = entries.length - recs := List.length_drop
          by_cases last : entries.length ≤ recs
          · have none_ : entries.drop recs = [] := List.drop_eq_nil_of_le last
            rw [none_, show count - recs = 0 by omega, Snapshot.loadFrom]
            rfl
          · have whole : want = 128 * recs := by omega
            apply ih (count - recs) (by omega) (entries.drop recs) (off + want) _ (by omega)
            · have split := records
              rw [← List.take_append_drop recs entries, records_append, List.length_append, taken, dropped,
                show 128 * (recs + (entries.length - recs)) = 128 * recs + 128 * (entries.length - recs) by omega, read_append] at split
              rw [dropped, whole]
              exact (List.append_inj split (by rw [read_length, records_length, taken])).2
            · rw [dropped]
              have big := align_up_bounds (128 * entries.length)
              have small := align_up_bounds (128 * (entries.length - recs))
              omega
            · omega
            · exact fun entry member => short entry (List.mem_of_mem_drop member)
        · simp only [ne_eq, fine, not_false_eq_true, if_true]
      · rw [if_neg more]
        have none_ : entries = [] := List.eq_nil_of_length_eq_zero (by omega)
        rw [none_]
        rfl

end Cabe
