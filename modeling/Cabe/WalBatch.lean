import Cabe.WalLined

set_option autoImplicit false

namespace Cabe

open Storage

-- WriteAt calls that all succeed, one after another.
inductive WroteOut : RawDevice → List (Nat × Bytes) → RawDevice → Prop where
  | none (d : RawDevice) : WroteOut d [] d
  | more (a b : RawDevice) (writes : List (Nat × Bytes)) (offset : Nat) (buf : Bytes) (prior : WroteOut a writes b)
      (done : (b.writeAt offset buf).1 = Err.kSuccess) : WroteOut a (writes ++ [(offset, buf)]) (b.writeAt offset buf).2

-- The frames of these entries, the first of which gets this number.
def batchFrames (first : Nat) : List WalEntry → Bytes
  | [] => []
  | e :: rest => (encodeFrame e first).toBytes ++ batchFrames (first + 1) rest

theorem batch_frames_length (entries : List WalEntry) : ∀ first, (batchFrames first entries).length = 128 * entries.length := by
  induction entries with
  | nil => exact fun _ => rfl
  | cons e rest ih =>
      intro first
      rw [batchFrames, List.length_append, to_bytes_length, ih, List.length_cons]
      omega

theorem batch_frames_append (entries more : List WalEntry) : ∀ first,
    batchFrames first (entries ++ more) = batchFrames first entries ++ batchFrames (first + entries.length) more := by
  induction entries with
  | nil => exact fun _ => rfl
  | cons e rest ih =>
      intro first
      rw [List.cons_append, batchFrames, batchFrames, ih, List.append_assoc, List.length_cons, Nat.add_assoc, Nat.add_comm 1]

theorem batch_frames_slice (entries : List WalEntry) : ∀ (first i : Nat) (e : WalEntry), entries[i]? = some e →
    slice (batchFrames first entries) (128 * i) 128 = (encodeFrame e (first + i)).toBytes := by
  induction entries with
  | nil => exact fun _ _ _ found => nomatch found
  | cons head rest ih =>
      intro first i e found
      cases i with
      | zero =>
          cases found
          exact slice_left_exact _ _ _ (to_bytes_length _)
      | succ i =>
          rw [batchFrames, slice_append_right _ _ _ _ (by rw [to_bytes_length]; omega), to_bytes_length,
            show 128 * (i + 1) - 128 = 128 * i by omega, ih (first + 1) i e found, Nat.add_assoc, Nat.add_comm 1]

-- One of these calls puts this frame at this place of the ring.
def Puts (writes : List (Nat × Bytes)) (ring place : Nat) (frame : Bytes) : Prop :=
  ∃ call ∈ writes, ∃ i, call.1 + 128 * i ≡ place [MOD ring] ∧ slice call.2 (128 * i) 128 = frame

theorem puts_more (writes more : List (Nat × Bytes)) (ring place : Nat) (frame : Bytes) (puts : Puts writes ring place frame) :
    Puts (writes ++ more) ring place frame := by
  obtain ⟨call, member, found⟩ := puts
  exact ⟨call, List.mem_append_left _ member, found⟩

-- The frames that were in the buffer when the batch began, and those that it
-- has encoded since.
def Wal.stream (w : Wal) (accepted : List WalEntry) : Bytes := w.held ++ batchFrames w.seqNext accepted

-- How far a batch has come. The first blocks of its stream are written and left
-- behind, the rest of it is in the buffer, and dirty says that part of that has
-- not been written.
structure Progress (start : Wal) (accepted : List WalEntry) (writes : List (Nat × Bytes)) (gone : Nat) (dirty : Bool) (w : Wal) : Prop where
  lined : Lined w
  calls : WroteOut start.dev writes w.dev
  ring : w.ringStart = start.ringStart ∧ w.ringEnd = start.ringEnd
  numbers : w.seqNext = start.seqNext + accepted.length
  held : w.held = (start.stream accepted).drop (4096 * gone)
  total : 32 * gone + w.nFrames = start.nFrames + accepted.length
  place : w.curOff ≡ start.curOff + 4096 * gone [MOD start.ringEnd - start.ringStart]
  opening : (writes = [] ∧ gone = 0 ∧ w.curOff = start.curOff ∧ (0 < start.windowBytes → 0 < w.windowBytes)) ∨
    ∃ first rest, writes = first :: rest ∧ first.1 = start.curOff ∧ start.held <+: first.2
  written : ∀ k, start.nFrames ≤ k → k < (if dirty then 32 * gone else start.nFrames + accepted.length) →
    Puts writes (start.ringEnd - start.ringStart) (start.curOff + 128 * k) (slice (start.stream accepted) (128 * k) 128)
  waits : dirty = true → 0 < w.windowBytes ∧ 0 < w.nFrames
  quiet : dirty = false → writes = [] → accepted = []

theorem progress_start (w : Wal) (lined : Lined w) : Progress w [] [] 0 false w where
  lined := lined
  calls := .none w.dev
  ring := ⟨rfl, rfl⟩
  numbers := rfl
  held := by rw [Wal.stream, batchFrames, List.append_nil, Nat.mul_zero, List.drop_zero]
  total := Nat.zero_add _
  place := Nat.ModEq.refl _
  opening := .inl ⟨rfl, rfl, rfl, id⟩
  written := by
    intro k above below
    simp only [Bool.false_eq_true, if_false, List.length_nil] at below
    omega
  waits := fun no => nomatch no
  quiet := fun _ _ => rfl

theorem stream_length (w : Wal) (accepted : List WalEntry) (lined : Lined w) :
    (w.stream accepted).length = 128 * (w.nFrames + accepted.length) := by
  rw [Wal.stream, List.length_append, held_length w lined, batch_frames_length]
  omega

theorem held_front (w : Wal) : w.held <+: w.span := ⟨_, (span_front w ▸ List.take_append_drop _ _)⟩

-- What the span puts on the device beside what earlier calls did.
theorem span_puts (start w : Wal) (accepted : List WalEntry) (writes : List (Nat × Bytes)) (gone : Nat) (dirty : Bool)
    (progress : Progress start accepted writes gone dirty w) (k : Nat) (above : start.nFrames ≤ k) (below : k < start.nFrames + accepted.length) :
    Puts (writes ++ [(w.curOff, w.span)]) (start.ringEnd - start.ringStart) (start.curOff + 128 * k)
      (slice (start.stream accepted) (128 * k) 128) := by
  have total := progress.total
  by_cases left : k < 32 * gone
  · apply puts_more
    apply progress.written k above
    split <;> omega
  · refine ⟨(w.curOff, w.span), by simp, k - 32 * gone, ?_, ?_⟩
    · have shifted := Nat.ModEq.add_right (128 * (k - 32 * gone)) progress.place
      rwa [Nat.add_assoc, show 4096 * gone + 128 * (k - 32 * gone) = 128 * k by omega] at shifted
    · show slice w.span (128 * (k - 32 * gone)) 128 = _
      rw [← slice_take w.span _ _ (128 * w.nFrames) (by omega), span_front, progress.held, slice, slice, List.drop_drop,
        show 4096 * gone + 128 * (k - 32 * gone) = 128 * k by omega]

theorem progress_write (start w : Wal) (accepted : List WalEntry) (writes : List (Nat × Bytes)) (gone : Nat) (dirty : Bool)
    (progress : Progress start accepted writes gone dirty w) (done : (w.dev.writeAt w.curOff w.span).1 = Err.kSuccess) :
    Progress start accepted (writes ++ [(w.curOff, w.span)]) (gone + w.nFrames / 32) false
      (w.on (w.dev.writeAt w.curOff w.span).2).advanceAfterWrite := by
  obtain ⟨lined, held, place⟩ := lined_advance _ (lined_on w (w.dev.writeAt w.curOff w.span).2 progress.lined)
  obtain ⟨_, ringStart, ringEnd, _, seqNext⟩ := advance_keeps (w.on (w.dev.writeAt w.curOff w.span).2)
  have total := progress.total
  refine ⟨lined, ?_, ⟨ringStart.trans progress.ring.1, ringEnd.trans progress.ring.2⟩, seqNext.trans progress.numbers, ?_, ?_, ?_, .inr ?_, ?_,
    (fun no => nomatch no), fun _ none_ => absurd none_ (by simp)⟩
  · rw [advance_dev]
    exact .more start.dev w.dev writes w.curOff w.span progress.calls done
  · rw [held]
    show w.held.drop (4096 * (w.nFrames / 32)) = _
    rw [progress.held, List.drop_drop, ← Nat.mul_add]
  · rw [advance_frames]
    show 32 * (gone + w.nFrames / 32) + w.nFrames % 32 = _
    omega
  · have moved : (w.on (w.dev.writeAt w.curOff w.span).2).advanceAfterWrite.curOff ≡ w.curOff + 4096 * (w.nFrames / 32)
        [MOD w.ringEnd - w.ringStart] := place
    rw [progress.ring.1, progress.ring.2] at moved
    refine moved.trans ?_
    rw [Nat.mul_add, ← Nat.add_assoc]
    exact Nat.ModEq.add_right _ progress.place
  · rcases progress.opening with ⟨rfl, rfl, same, _⟩ | ⟨first, rest, rfl, same, front⟩
    · refine ⟨(w.curOff, w.span), [], rfl, same, List.IsPrefix.trans ?_ (held_front w)⟩
      rw [progress.held, Nat.mul_zero, List.drop_zero]
      exact List.prefix_append _ _
    · exact ⟨first, rest ++ [(w.curOff, w.span)], rfl, same, front⟩
  · intro k above below
    exact span_puts start w accepted writes gone dirty progress k above (by simpa using below)

theorem progress_reopened (start w : Wal) (accepted : List WalEntry) (writes : List (Nat × Bytes)) (gone : Nat) (dirty : Bool)
    (progress : Progress start accepted writes gone dirty w) : Progress start accepted writes gone dirty w.reopened := by
  obtain ⟨lined, place, buffer, dev⟩ := lined_reopened w progress.lined
  refine ⟨lined, by rw [dev]; exact progress.calls, ⟨place.ringStart.trans progress.ring.1, place.ringEnd.trans progress.ring.2⟩,
    place.seqNext.trans progress.numbers, (held_same w w.reopened place buffer).trans progress.held, by rw [place.nFrames]; exact progress.total,
    by rw [place.curOff]; exact progress.place, ?_, progress.written, fun waits => ?_, progress.quiet⟩
  · rw [place.curOff]
    rcases progress.opening with ⟨none_, first, same, open_⟩ | began
    · refine .inl ⟨none_, first, same, fun before => ?_⟩
      have still := open_ before
      unfold Wal.reopened
      rw [if_neg (by omega)]
      exact still
    · exact .inr began
  · have open_ := progress.waits waits
    unfold Wal.reopened
    rw [if_neg (by omega)]
    exact open_

theorem progress_append (start w : Wal) (e : WalEntry) (accepted : List WalEntry) (writes : List (Nat × Bytes)) (gone : Nat) (dirty : Bool)
    (progress : Progress start accepted writes gone dirty w) (began : Lined start) (space : 128 * w.nFrames < w.windowBytes) :
    w.append e = (Err.kSuccess, w.appended e) ∧ Progress start (accepted ++ [e]) writes gone true (w.appended e) := by
  obtain ⟨done, lined, held⟩ := lined_append w e progress.lined space
  have total := progress.total
  have stream : start.stream (accepted ++ [e]) = start.stream accepted ++ (encodeFrame e w.seqNext).toBytes := by
    rw [Wal.stream, batch_frames_append, ← List.append_assoc, ← progress.numbers, batchFrames, batchFrames, List.append_nil]
    rfl
  have length := stream_length start accepted began
  refine ⟨done, lined, progress.calls, progress.ring, ?_, ?_, ?_, progress.place, progress.opening, ?_,
    fun _ => ⟨?_, Nat.succ_pos _⟩, fun no => nomatch no⟩
  · show w.seqNext + 1 = _
    rw [progress.numbers, List.length_append, List.length_singleton, Nat.add_assoc]
  · rw [held, stream, List.drop_append_of_le_length (by omega), progress.held]
  · show 32 * gone + (w.nFrames + 1) = _
    rw [List.length_append, List.length_singleton]
    omega
  · intro k above below
    rw [if_pos rfl] at below
    rw [stream, slice_append_left _ _ _ _ (by omega)]
    apply progress.written k above
    split <;> omega
  · show 0 < w.windowBytes
    omega

-- How a frame is admitted: behind the others, after the full window has been
-- written out, or not at all because the ring is full or that write has failed.
inductive Admitted (start : Wal) (accepted : List WalEntry) (writes : List (Nat × Bytes)) (gone : Nat) (dirty : Bool) (w : Wal) :
    Admission → Prop where
  | behind (progress : Progress start accepted writes gone dirty w.reopened) (space : 128 * w.reopened.nFrames < w.reopened.windowBytes) :
      Admitted start accepted writes gone dirty w ⟨Err.kSuccess, false, w.reopened⟩
  | walled (progress : Progress start accepted writes gone false w.reopened) (clean : dirty = false) (full : w.reopened.windowBytes = 0) :
      Admitted start accepted writes gone dirty w ⟨Err.kWalFull, false, w.reopened⟩
  | failed (call : Nat × Bytes) (progress : Progress start accepted writes gone dirty w.reopened) (open_ : 0 < w.reopened.windowBytes)
      (busy : 0 < w.reopened.nFrames) (same : call = (w.reopened.curOff, w.reopened.span))
      (bad : (w.reopened.dev.writeAt call.1 call.2).1 ≠ Err.kSuccess) :
      Admitted start accepted writes gone dirty w ⟨Err.kWalWriteFailed, false, w.reopened.on (w.reopened.dev.writeAt call.1 call.2).2⟩
  | turned (call : Nat × Bytes) (gone' : Nat) (after : Wal) (progress : Progress start accepted (writes ++ [call]) gone' false after)
      (space : 128 * after.nFrames < after.windowBytes) : Admitted start accepted writes gone dirty w ⟨Err.kSuccess, true, after⟩
  | walledOff (call : Nat × Bytes) (gone' : Nat) (after : Wal) (progress : Progress start accepted (writes ++ [call]) gone' false after) :
      Admitted start accepted writes gone dirty w ⟨Err.kWalFull, true, after⟩

theorem admission_admits (start w : Wal) (accepted : List WalEntry) (writes : List (Nat × Bytes)) (gone : Nat) (dirty : Bool)
    (progress : Progress start accepted writes gone dirty w) : Admitted start accepted writes gone dirty w w.admission := by
  have opened := progress_reopened start w accepted writes gone dirty progress
  have window := opened.lined.window
  have frames := opened.lined.frames
  rw [admission_unfolds]
  by_cases full : w.reopened.windowBytes = 0
  · rw [if_pos full]
    have clean : dirty = false := by
      cases dirty with
      | false => rfl
      | true =>
          have open_ := opened.waits rfl
          omega
    subst clean
    exact .walled opened rfl full
  · rw [if_neg full]
    by_cases filled : w.reopened.nFrames * kWalFrameSize ≥ w.reopened.windowBytes
    · rw [if_pos filled]
      unfold kWalFrameSize at filled
      rcases write_out_cases w.reopened (by omega) with ⟨bad, out⟩ | ⟨done, out⟩
      · have code : Err.kWalWriteFailed ≠ Err.kSuccess := by decide
        simp only [out, ne_eq, code, not_false_eq_true, if_true]
        exact .failed (w.reopened.curOff, w.reopened.span) opened (by omega) (by omega) rfl bad
      · have next := progress_write start w.reopened accepted writes gone dirty opened done
        have left := advance_frames (w.reopened.on (w.reopened.dev.writeAt w.reopened.curOff w.reopened.span).2)
        have none_ : (w.reopened.on (w.reopened.dev.writeAt w.reopened.curOff w.reopened.span).2).advanceAfterWrite.nFrames = 0 := by
          rw [left]
          show w.reopened.nFrames % 32 = 0
          omega
        simp only [out, ne_eq, not_true_eq_false, if_false]
        split
        · exact .walledOff _ _ _ next
        · exact .turned _ _ _ next (by omega)
    · rw [if_neg filled]
      unfold kWalFrameSize at filled
      exact .behind opened (by omega)

-- What the loop of a batch leaves for its end.
inductive Looped (start : Wal) (accepted : List WalEntry) : List (Nat × Bytes) → BatchRun → Prop where
  | all (writes : List (Nat × Bytes)) (gone : Nat) (wrote dirty : Bool) (w : Wal) (progress : Progress start accepted writes gone dirty w)
      (synced : wrote = true ↔ writes ≠ []) (some_ : accepted ≠ [] → dirty = true) :
      Looped start accepted writes ⟨w, wrote, dirty, Err.kSuccess, []⟩
  | walled (writes : List (Nat × Bytes)) (gone : Nat) (wrote : Bool) (w : Wal) (rejected : List WalEntry)
      (progress : Progress start accepted writes gone false w) (synced : wrote = true ↔ writes ≠ []) (left : rejected ≠ [])
      (first : writes = [] → w.windowBytes = 0) :
      Looped start accepted writes ⟨w, wrote, false, Err.kWalFull, rejected⟩
  | failed (writes : List (Nat × Bytes)) (gone : Nat) (wrote dirty : Bool) (w : Wal) (offset : Nat) (buf : Bytes) (rejected : List WalEntry)
      (progress : Progress start accepted writes gone dirty w) (open_ : 0 < w.windowBytes) (busy : 0 < w.nFrames)
      (same : offset = w.curOff ∧ buf = w.span) (bad : (w.dev.writeAt offset buf).1 ≠ Err.kSuccess) :
      Looped start accepted writes ⟨w.on (w.dev.writeAt offset buf).2, wrote, dirty, Err.kWalWriteFailed, rejected⟩

theorem batch_loop_looped (start : Wal) (began : Lined start) (batch : List WalEntry) : ∀ (w : Wal) (accepted : List WalEntry)
    (writes : List (Nat × Bytes)) (gone : Nat) (wrote dirty : Bool), Progress start accepted writes gone dirty w →
    (wrote = true ↔ writes ≠ []) → (accepted ≠ [] → dirty = true) →
    ∃ more writes', batch = more ++ (w.batchLoop wrote dirty batch).rejected ∧
      Looped start (accepted ++ more) writes' (w.batchLoop wrote dirty batch) := by
  induction batch with
  | nil =>
      intro w accepted writes gone wrote dirty progress synced some_
      refine ⟨[], writes, rfl, ?_⟩
      rw [List.append_nil]
      exact .all writes gone wrote dirty w progress synced some_
  | cons e rest ih =>
      intro w accepted writes gone wrote dirty progress synced some_
      have admitted := admission_admits start w accepted writes gone dirty progress
      generalize admission : w.admission = a at admitted
      -- An admitted frame leaves the rest of the batch to the same loop.
      have goesOn (writes' : List (Nat × Bytes)) (gone' : Nat) (dirty' wrote' : Bool) (after : Wal) (here : a = ⟨Err.kSuccess, wrote', after⟩)
          (next : Progress start accepted writes' gone' dirty' after) (synced' : (wrote || wrote') = true ↔ writes' ≠ [])
          (space : 128 * after.nFrames < after.windowBytes) : ∃ more writes', e :: rest = more ++ (w.batchLoop wrote dirty (e :: rest)).rejected ∧
            Looped start (accepted ++ more) writes' (w.batchLoop wrote dirty (e :: rest)) := by
        obtain ⟨done, grown⟩ := progress_append start after e accepted writes' gone' dirty' next began space
        obtain ⟨more, writes'', taken, looped⟩ := ih (after.appended e) (accepted ++ [e]) writes' gone' (wrote || wrote') true grown synced'
          (fun _ => rfl)
        have unfolded : w.batchLoop wrote dirty (e :: rest) = (after.appended e).batchLoop (wrote || wrote') true rest := by
          simp [Wal.batchLoop, admission, here, done]
        rw [unfolded]
        refine ⟨e :: more, writes'', by rw [List.cons_append, ← taken], ?_⟩
        rwa [List.append_assoc] at looped
      cases admitted with
      | behind opened space => exact goesOn writes gone dirty false w.reopened rfl opened (by rw [Bool.or_false]; exact synced) space
      | turned call gone' after next space => exact goesOn _ gone' false true after rfl next (by simp) space
      | walled opened clean full =>
          have unfolded : w.batchLoop wrote dirty (e :: rest) = ⟨w.reopened, wrote, false, Err.kWalFull, e :: rest⟩ := by
            simp [Wal.batchLoop, admission, clean, Err.kWalFull, Err.kSuccess]
          rw [unfolded]
          refine ⟨[], writes, rfl, ?_⟩
          rw [List.append_nil]
          exact .walled writes gone wrote w.reopened _ opened synced (by simp) (fun _ => full)
      | walledOff call gone' after next =>
          have unfolded : w.batchLoop wrote dirty (e :: rest) = ⟨after, true, false, Err.kWalFull, e :: rest⟩ := by
            simp [Wal.batchLoop, admission, Err.kWalFull, Err.kSuccess]
          rw [unfolded]
          refine ⟨[], writes ++ [call], rfl, ?_⟩
          rw [List.append_nil]
          exact .walled _ gone' true after _ next (by simp) (by simp) (by simp)
      | failed call opened open_ busy same bad =>
          have unfolded : w.batchLoop wrote dirty (e :: rest) =
              ⟨w.reopened.on (w.reopened.dev.writeAt call.1 call.2).2, wrote, dirty, Err.kWalWriteFailed, e :: rest⟩ := by
            simp [Wal.batchLoop, admission, Err.kWalWriteFailed, Err.kSuccess]
          rw [unfolded]
          refine ⟨[], writes, rfl, ?_⟩
          rw [List.append_nil]
          exact .failed writes gone wrote dirty w.reopened call.1 call.2 _ opened open_ busy (by rw [same]; exact ⟨rfl, rfl⟩) bad

-- The device call that ends a batch, if there is one.
inductive BatchEnd where
  | none
  | writeFailed (offset : Nat) (buf : Bytes)
  | synced
  | syncFailed

def BatchEnd.Leads (d : RawDevice) : BatchEnd → RawDevice → Prop
  | .none, after => after = d
  | .writeFailed offset buf, after => (d.writeAt offset buf).1 ≠ Err.kSuccess ∧ after = (d.writeAt offset buf).2
  | .synced, after => d.sync.1 = Err.kSuccess ∧ after = d.sync.2
  | .syncFailed, after => d.sync.1 ≠ Err.kSuccess ∧ after = d.sync.2

-- The results of the accepted nodes and of the rejected ones behind them.
def BatchEnd.codes : BatchEnd → Rc × Rc
  | .none => (Err.kSuccess, Err.kWalFull)
  | .writeFailed _ _ => (Err.kWalWriteFailed, Err.kWalWriteFailed)
  | .synced => (Err.kSuccess, Err.kWalFull)
  | .syncFailed => (Err.kWalWriteFailed, Err.kWalFull)

def firstWrite (writes : List (Nat × Bytes)) (ending : BatchEnd) : Option (Nat × Bytes) :=
  match writes, ending with
  | first :: _, _ => some first
  | [], .writeFailed offset buf => some (offset, buf)
  | [], _ => none

-- All that a batch does and answers.
structure BatchReport (w : Wal) (batch accepted rejected : List WalEntry) (writes : List (Nat × Bytes)) (ending : BatchEnd) : Prop where
  split : batch = accepted ++ rejected
  calls : ∃ mid, WroteOut w.dev writes mid ∧ ending.Leads mid (w.processBatch batch).2.dev
  results : (w.processBatch batch).1 =
    List.replicate accepted.length ending.codes.1 ++ List.replicate rejected.length ending.codes.2
  numbers : (w.processBatch batch).2.seqNext = w.seqNext + accepted.length
  held : (w.processBatch batch).2.held <:+ w.stream accepted
  idle : ending = .none → accepted = [] ∧ writes = []
  written : (∀ offset buf, ending ≠ .writeFailed offset buf) → ∀ k e, accepted[k]? = some e →
    Puts writes (w.ringEnd - w.ringStart) (w.curOff + 128 * (w.nFrames + k)) (encodeFrame e (w.seqNext + k)).toBytes
  opening : ∀ first, firstWrite writes ending = some first → first.1 = w.curOff ∧ w.held <+: first.2
  starts : 0 < w.windowBytes → batch ≠ [] → ∃ first, firstWrite writes ending = some first
  retained : ∀ offset buf, ending = .writeFailed offset buf → (w.processBatch batch).2.curOff = offset ∧
    (w.processBatch batch).2.held <+: buf ∧ 0 < (w.processBatch batch).2.nFrames ∧ 0 < (w.processBatch batch).2.windowBytes
  lined : Lined (w.processBatch batch).2

theorem progress_written (start w : Wal) (accepted : List WalEntry) (writes : List (Nat × Bytes)) (gone : Nat) (began : Lined start)
    (progress : Progress start accepted writes gone false w) (k : Nat) (e : WalEntry) (found : accepted[k]? = some e) :
    Puts writes (start.ringEnd - start.ringStart) (start.curOff + 128 * (start.nFrames + k)) (encodeFrame e (start.seqNext + k)).toBytes := by
  have bound := (List.getElem?_eq_some_iff.mp found).1
  have puts := progress.written (start.nFrames + k) (Nat.le_add_right _ _) (by simpa using bound)
  have length := held_length start began
  rwa [Wal.stream, slice_append_right _ _ _ _ (by omega), length, Nat.mul_add, Nat.add_sub_cancel_left, ← Nat.mul_add,
    batch_frames_slice _ _ _ _ found] at puts

theorem held_drop_suffix (start w : Wal) (accepted : List WalEntry) (writes : List (Nat × Bytes)) (gone : Nat) (dirty : Bool)
    (progress : Progress start accepted writes gone dirty w) : w.held <:+ start.stream accepted :=
  progress.held ▸ List.drop_suffix _ _

-- A batch that ends with its one sync.
theorem sync_report (start w : Wal) (batch accepted rejected : List WalEntry) (writes : List (Nat × Bytes)) (gone : Nat) (suffix : Rc)
    (began : Lined start) (progress : Progress start accepted writes gone false w) (split : batch = accepted ++ rejected)
    (some_ : writes ≠ []) (full : rejected = [] ∨ suffix = Err.kWalFull)
    (processed : start.processBatch batch =
      (List.replicate accepted.length (if w.dev.sync.1 ≠ Err.kSuccess then Err.kWalWriteFailed else Err.kSuccess) ++
      List.replicate rejected.length suffix, w.on w.dev.sync.2)) :
    ∃ ending, BatchReport start batch accepted rejected writes ending := by
  have codes (rc : Rc) : List.replicate accepted.length rc ++ List.replicate rejected.length suffix =
      List.replicate accepted.length rc ++ List.replicate rejected.length Err.kWalFull := by
    rcases full with rfl | rfl <;> rfl
  have opening (ending : BatchEnd) (first : Nat × Bytes) (begins : firstWrite writes ending = some first) :
      first.1 = start.curOff ∧ start.held <+: first.2 := by
    rcases progress.opening with ⟨none_, _⟩ | ⟨head, rest, rfl, same, front⟩
    · exact absurd none_ some_
    · cases begins
      exact ⟨same, front⟩
  have starts (ending : BatchEnd) : ∃ first, firstWrite writes ending = some first := by
    cases writes with
    | nil => exact absurd rfl some_
    | cons first rest => exact ⟨first, rfl⟩
  rw [codes] at processed
  by_cases done : w.dev.sync.1 = Err.kSuccess
  · rw [if_neg (not_not.mpr done)] at processed
    refine ⟨.synced, split, ?_, ?_, ?_, ?_, (fun no => nomatch no), fun _ => progress_written start w accepted writes gone began progress,
      opening .synced, fun _ _ => starts .synced, (fun _ _ no => nomatch no), ?_⟩ <;> rw [processed]
    · exact ⟨w.dev, progress.calls, done, rfl⟩
    · rfl
    · exact progress.numbers
    · exact held_drop_suffix start w accepted writes gone false progress
    · exact lined_on w _ progress.lined
  · rw [if_pos done] at processed
    refine ⟨.syncFailed, split, ?_, ?_, ?_, ?_, (fun no => nomatch no), fun _ => progress_written start w accepted writes gone began progress,
      opening .syncFailed, fun _ _ => starts .syncFailed, (fun _ _ no => nomatch no), ?_⟩ <;> rw [processed]
    · exact ⟨w.dev, progress.calls, done, rfl⟩
    · rfl
    · exact progress.numbers
    · exact held_drop_suffix start w accepted writes gone false progress
    · exact lined_on w _ progress.lined

-- A batch that neither writes nor syncs.
theorem quiet_report (start w : Wal) (batch rejected : List WalEntry) (gone : Nat)
    (progress : Progress start [] [] gone false w) (split : batch = rejected) (closed : rejected ≠ [] → w.windowBytes = 0)
    (processed : start.processBatch batch = (List.replicate rejected.length Err.kWalFull, w)) :
    BatchReport start batch [] rejected [] .none := by
  refine ⟨split, ?_, ?_, ?_, ?_, fun _ => ⟨rfl, rfl⟩, (fun _ _ _ found => nomatch found), (fun _ none_ => nomatch none_), fun open_ some_ => ?_,
    (fun _ _ no => nomatch no), ?_⟩ <;> try rw [processed]
  · exact ⟨w.dev, progress.calls, rfl⟩
  · rfl
  · exact progress.numbers
  · exact held_drop_suffix start w [] [] gone false progress
  · rcases progress.opening with ⟨_, _, _, still⟩ | ⟨_, _, no, _⟩
    · have shut := closed (split ▸ some_)
      have here := still open_
      omega
    · cases no
  · exact progress.lined

-- A batch that ends with a write that fails.
theorem failed_report (start w : Wal) (batch accepted rejected : List WalEntry) (writes : List (Nat × Bytes)) (gone : Nat) (dirty : Bool)
    (progress : Progress start accepted writes gone dirty w) (split : batch = accepted ++ rejected) (open_ : 0 < w.windowBytes)
    (busy : 0 < w.nFrames) (bad : (w.dev.writeAt w.curOff w.span).1 ≠ Err.kSuccess)
    (processed : start.processBatch batch = (List.replicate accepted.length Err.kWalWriteFailed ++
      List.replicate rejected.length Err.kWalWriteFailed, w.on (w.dev.writeAt w.curOff w.span).2)) :
    BatchReport start batch accepted rejected writes (.writeFailed w.curOff w.span) := by
  refine ⟨split, ?_, ?_, ?_, ?_, (fun no => nomatch no), fun no => absurd rfl (no w.curOff w.span), fun first begins => ?_, fun _ _ => ?_,
    fun offset buf same => ?_, ?_⟩ <;> try rw [processed]
  · exact ⟨w.dev, progress.calls, bad, rfl⟩
  · rfl
  · exact progress.numbers
  · exact held_drop_suffix start w accepted writes gone dirty progress
  · rcases progress.opening with ⟨rfl, rfl, same, _⟩ | ⟨head, rest, rfl, same, front⟩
    · cases begins
      refine ⟨same, List.IsPrefix.trans ?_ (held_front w)⟩
      rw [progress.held, Nat.mul_zero, List.drop_zero]
      exact List.prefix_append _ _
    · cases begins
      exact ⟨same, front⟩
  · cases writes with
    | nil => exact ⟨(w.curOff, w.span), rfl⟩
    | cons first rest => exact ⟨first, rfl⟩
  · cases same
    exact ⟨rfl, held_front w, busy, open_⟩
  · exact lined_on w _ progress.lined

theorem batch_processed (w : Wal) (batch accepted : List WalEntry) (r : BatchRun) (rc : Rc) (after : Wal)
    (loop : w.batchLoop false false batch = r) (split : batch = accepted ++ r.rejected) (done : r.finish = (rc, after)) :
    w.processBatch batch = (List.replicate accepted.length rc ++
      List.replicate r.rejected.length (if r.failRc = Err.kWalFull then Err.kWalFull else rc), after) := by
  have total := congrArg List.length split
  rw [List.length_append] at total
  unfold Wal.processBatch
  rw [loop]
  simp only [done]
  rw [show batch.length - r.rejected.length = accepted.length by omega]

-- Every batch on a log that is lined up reports, whatever its device calls do.
theorem batch_reports (w : Wal) (batch : List WalEntry) (lined : Lined w) :
    ∃ accepted rejected writes ending, BatchReport w batch accepted rejected writes ending := by
  obtain ⟨accepted, writes, split, looped⟩ := batch_loop_looped w lined batch w [] [] 0 false false (progress_start w lined) (by simp) (by simp)
  rw [List.nil_append] at looped
  generalize loop : w.batchLoop false false batch = r at looped split
  have processed := batch_processed w batch accepted r
  cases looped with
  | failed gone wrote dirty after offset buf rejected progress open_ busy same bad =>
      obtain ⟨rfl, rfl⟩ := same
      have finish : BatchRun.finish ⟨after.on (after.dev.writeAt after.curOff after.span).2, wrote, dirty, Err.kWalWriteFailed, rejected⟩ =
          (Err.kWalWriteFailed, after.on (after.dev.writeAt after.curOff after.span).2) := by
        simp [BatchRun.finish, Err.kWalWriteFailed, Err.kSuccess, Err.kWalFull]
      have code : Err.kWalWriteFailed ≠ Err.kWalFull := by decide
      have out := processed _ _ loop split finish
      rw [if_neg code] at out
      exact ⟨_, _, _, _, failed_report w after batch accepted rejected writes gone dirty progress split open_ busy bad out⟩
  | walled gone wrote after rejected progress synced left first =>
      cases writes with
      | nil =>
          have still : wrote = false := by simpa using synced
          subst still
          obtain rfl := progress.quiet rfl rfl
          have finish : BatchRun.finish ⟨after, false, false, Err.kWalFull, rejected⟩ = (Err.kSuccess, after) := by
            simp [BatchRun.finish]
          have out := processed _ _ loop split finish
          rw [if_pos rfl] at out
          exact ⟨_, _, _, _, quiet_report w after batch rejected gone progress split (fun _ => first rfl) out⟩
      | cons call rest =>
          have wrote_ : wrote = true := synced.mpr (by simp)
          subst wrote_
          have finish : BatchRun.finish ⟨after, true, false, Err.kWalFull, rejected⟩ =
              (if after.dev.sync.1 ≠ Err.kSuccess then Err.kWalWriteFailed else Err.kSuccess, after.on after.dev.sync.2) := by
            simp [BatchRun.finish, Wal.on]
          have out := processed _ _ loop split finish
          rw [if_pos rfl] at out
          obtain ⟨ending, report⟩ := sync_report w after batch accepted rejected _ gone _ lined progress split (by simp) (.inr rfl) out
          exact ⟨_, _, _, ending, report⟩
  | all gone wrote dirty after progress synced some_ =>
      cases dirty with
      | false =>
          have none_ : accepted = [] := by
            by_contra more
            cases some_ more
          cases writes with
          | nil =>
              have still : wrote = false := by simpa using synced
              subst still none_
              have finish : BatchRun.finish ⟨after, false, false, Err.kSuccess, []⟩ = (Err.kSuccess, after) := by simp [BatchRun.finish]
              exact ⟨_, _, _, _, quiet_report w after batch [] gone progress split (fun no => absurd rfl no) (processed _ _ loop split finish)⟩
          | cons call rest =>
              have wrote_ : wrote = true := synced.mpr (by simp)
              subst wrote_
              have finish : BatchRun.finish ⟨after, true, false, Err.kSuccess, []⟩ =
                  (if after.dev.sync.1 ≠ Err.kSuccess then Err.kWalWriteFailed else Err.kSuccess, after.on after.dev.sync.2) := by
                simp [BatchRun.finish, Wal.on]
              obtain ⟨ending, report⟩ := sync_report w after batch accepted [] _ gone _ lined progress split (by simp) (.inl rfl)
                (processed _ _ loop split finish)
              exact ⟨_, _, _, ending, report⟩
      | true =>
          obtain ⟨open_, busy⟩ := progress.waits rfl
          rcases write_out_cases after busy with ⟨bad, out⟩ | ⟨good, out⟩
          · have finish : BatchRun.finish ⟨after, wrote, true, Err.kSuccess, []⟩ =
                (Err.kWalWriteFailed, after.on (after.dev.writeAt after.curOff after.span).2) := by
              simp [BatchRun.finish, out, Err.kWalWriteFailed, Err.kSuccess]
            exact ⟨_, _, _, _, failed_report w after batch accepted [] writes gone true progress split open_ busy bad
              (processed _ _ loop split finish)⟩
          · have next := progress_write w after accepted writes gone true progress good
            generalize (after.on (after.dev.writeAt after.curOff after.span).2).advanceAfterWrite = last at out next
            have finish : BatchRun.finish ⟨after, wrote, true, Err.kSuccess, []⟩ =
                (if last.dev.sync.1 ≠ Err.kSuccess then Err.kWalWriteFailed else Err.kSuccess, last.on last.dev.sync.2) := by
              simp [BatchRun.finish, out, Wal.on]
            obtain ⟨ending, report⟩ := sync_report w last batch accepted [] _ _ _ lined next split (by simp) (.inl rfl)
              (processed _ _ loop split finish)
            exact ⟨_, _, _, ending, report⟩

theorem lined_append_flush (w : Wal) (level : WalLevel) (e : WalEntry) (lined : Lined w) (space : 128 * w.nFrames < w.windowBytes) :
    Lined (w.appendFlush level e).2 := by
  obtain ⟨done, grown, _⟩ := lined_append w e lined space
  unfold Wal.appendFlush
  simp only [done, ne_eq, not_true_eq_false, if_false]
  split
  · exact lined_flush _ level grown
  · exact grown

-- A full window that has been flushed is empty.
theorem flushed_space (w : Wal) (level : WalLevel) (batched : isWalSyncLevel level = false) (lined : Lined w) (open_ : w.windowBytes ≠ 0)
    (full : w.nFrames * kWalFrameSize ≥ w.windowBytes) (done : (w.flush level).1 = Err.kSuccess) : (w.flush level).2.nFrames = 0 := by
  obtain ⟨buf, same, _⟩ := lined.buffer
  have frames := lined.frames
  have window := lined.window
  unfold kWalFrameSize at full
  have buffered : w.curBuf ≠ none := by simp [same]
  have state := (span_called w).1
  unfold Wal.flush at done ⊢
  rw [if_neg buffered, batched, if_neg (by simp), if_neg (by omega)] at done ⊢
  generalize w.writeWindowSpan = out at state done ⊢
  obtain ⟨rc, w1⟩ := out
  simp only at state done ⊢
  subst state
  by_cases wrote : rc = Err.kSuccess
  · rw [if_neg (not_not.mpr wrote)] at done ⊢
    by_cases synced : (w.on (w.dev.writeAt w.curOff w.span).2).dev.sync.1 = Err.kSuccess
    · rw [if_neg (not_not.mpr synced), advance_frames]
      show w.nFrames % 32 = 0
      omega
    · rw [if_pos synced] at done
      exact absurd (show Err.kWalWriteFailed = Err.kSuccess from done) (by decide)
  · rw [if_pos wrote] at done
    exact absurd done wrote

theorem lined_write (w : Wal) (level : WalLevel) (e : WalEntry) (lined : Lined w) : Lined (w.writeWal level e).2 := by
  obtain ⟨buf, same, _⟩ := lined.buffer
  have buffered : w.curBuf ≠ none := by simp [same]
  by_cases long : e.key.length > kWalKeyMax
  · unfold Wal.writeWal
    rw [if_pos long]
    exact lined
  · cases batched : isWalSyncLevel level with
    | true =>
        obtain ⟨_, _, _, _, report⟩ := batch_reports w [e] lined
        have out : (w.writeWal level e).2 = (w.processBatch [e]).2 := by
          simp only [Wal.writeWal, if_neg long, if_neg buffered, batched, if_true]
        rw [out]
        exact report.lined
    | false =>
        obtain ⟨opened, _, _, _⟩ := lined_reopened w lined
        have window := opened.window
        rw [write_wal_batched w level e (by omega) buffered batched]
        by_cases closed : w.reopened.windowBytes = 0
        · rw [if_pos closed]
          exact opened
        · rw [if_neg closed]
          by_cases full : w.reopened.nFrames * kWalFrameSize ≥ w.reopened.windowBytes
          · rw [if_pos full]
            have flushed := lined_flush w.reopened level opened
            have empty := flushed_space w.reopened level batched opened closed full
            generalize w.reopened.flush level = out at flushed empty
            obtain ⟨rc, w1⟩ := out
            simp only at flushed empty ⊢
            split
            · exact flushed
            · rename_i fine
              split
              · exact flushed
              · have none_ := empty (not_not.mp fine)
                exact lined_append_flush w1 level e flushed (by omega)
          · rw [if_neg full]
            unfold kWalFrameSize at full
            simp only [ne_eq, not_true_eq_false, if_false, if_neg closed]
            exact lined_append_flush w.reopened level e opened (by omega)

theorem lined_perform (w : Wal) (op : WalOp) (lined : Lined w) : Lined (w.perform op) := by
  cases op with
  | write level e => exact lined_write w level e lined
  | group batch =>
      obtain ⟨_, _, _, _, report⟩ := batch_reports w (batch.filter fun e => e.key.length ≤ kWalKeyMax) lined
      exact report.lined
  | flush level => exact lined_flush w level lined
  | reclaim boundary => exact reclaim_lined w boundary lined

theorem open_geometry (dev : RawDevice) (opts : Options) (w : Wal) (opened : JustOpened dev opts w) (allocated : Allocated w) :
    (w.bufSize % 4096 = 0 ∧ w.ringStart % 4096 = 0 ∧ w.ringEnd % 4096 = 0) ∧ w.ringStart = 8192 ∧ w.bufSize + 4096 ≤ w.ringEnd - 8192 := by
  have enough := opened.enough
  have whole := ring_size_whole dev.sizeBytes
  have aligned : w.bufSize % 4096 = 0 := by
    rw [opened.bufSize]
    exact round_up_aligned opts.walBufferSize
  have small : w.bufSize ≤ 2 ^ 63 := allocated
  rw [kWalBlockSize, Nat.mod_eq_of_lt (by omega)] at enough
  rw [opened.ringStart, opened.ringEnd]
  omega

theorem lined_created (dev : RawDevice) (opts : Options) (w : Wal) (create : opts.create = true) (opened : JustOpened dev opts w)
    (allocated : Allocated w) : Lined w := by
  obtain ⟨whole, start, room⟩ := open_geometry dev opts w opened allocated
  have buffer := opened.buffer
  rw [if_pos create] at buffer
  obtain ⟨curOff, headOff, nFrames, _⟩ := opened.position
  have window := window_at_whole w w.curOff whole (by rw [curOff]) (by rw [headOff, start]; omega)
  refine ⟨⟨_, buffer.1, zeros_length _⟩, whole, by rw [curOff, start]; omega, by rw [headOff, start]; omega, ?_, ?_, .inl ?_⟩
  · rw [buffer.2]
    exact window
  · rw [nFrames]
    exact Nat.zero_le _
  · rw [nFrames]
    exact Nat.zero_le _

end Cabe
