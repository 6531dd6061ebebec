import Cabe.SnapshotBounds
import Cabe.SnapshotWrites

set_option autoImplicit false

namespace Cabe

open Storage

-- Memory can be had, and the buffer size is one that rounding up leaves within
-- a word.
structure Usable (opts : Options) (env : SnapshotEnv) : Prop where
  size : opts.snapshotBufferSize ≤ 2 ^ 64 - 4096
  alloc : ∀ n, env.alloc n = true

theorem buffer_pos (opts : Options) (size : opts.snapshotBufferSize ≤ 2 ^ 64 - 4096) :
    0 < roundUpBufferSize opts.snapshotBufferSize kSnapshotBlockSize := by
  have bounds := (round_up_bounds opts.snapshotBufferSize (by omega)).2.1
  rw [← kSnapshotBlockSize] at bounds
  unfold kSnapshotBlockSize at *
  omega

theorem usable_buffered (opts : Options) (env : SnapshotEnv) (usable : Usable opts env) : Buffered opts env :=
  ⟨buffer_pos opts usable.size, usable.alloc _⟩

-- Whoever opens the device next is given this snapshot, and reads nothing but
-- the slot it is in.
structure Delivered (sb : SuperBlock) (coveredSeq : Nat) (entries : List IndexEntry) (opts : Options) (env : SnapshotEnv) (r : Snapshot) : Prop where
  covered : r.lastCoveredSeq = coveredSeq
  loads : ∀ (σ : Type) (visitor : MetaIndexVisitor σ) (st : σ), r.load opts env visitor st = visitAll visitor st entries
  loadInside : ∀ (σ : Type) (visitor : MetaIndexVisitor σ) (st : σ) (slot : Slot), r.activeSlot = some slot →
    ∀ call ∈ r.loadSlotCalls opts env visitor st, r.Inside slot call
  verifyInside : ∀ slot, r.activeSlot = some slot → ∀ call ∈ r.verifySlotCalls opts env slot (r.headerAt slot), r.Inside slot call

def Delivers (sb : SuperBlock) (dev : RawDevice) (coveredSeq : Nat) (entries : List IndexEntry) : Prop :=
  ∀ (opts : Options) (env : SnapshotEnv) (next : RawDevice), opts.create = false → Usable opts env → CarriedOver dev next →
    ∃ r, (Snapshot.unopened next).openSnapshot opts env sb = (Err.kSuccess, r) ∧ Delivered sb coveredSeq entries opts env r

theorem held_delivered (s : Snapshot) (sb : SuperBlock) (opts : Options) (env : SnapshotEnv) (coveredSeq : Nat) (entries : List IndexEntry)
    (ready : SnapshotReady s sb) (held : SnapshotHolds s sb coveredSeq entries) (usable : Usable opts env)
    (word : sb.blockCount * 128 < 2 ^ 64) : Delivered sb coveredSeq entries opts env s := by
  have opened := ready.healthy.opened
  cases held with
  | never inactive gen covered count dead =>
      refine ⟨covered, ?_, ?_, ?_⟩
      · intro σ visitor st
        unfold Snapshot.load
        simp only [opened, Bool.true_eq_false, if_false, inactive]
        rfl
      · intro σ visitor st slot active
        rw [inactive] at active
        cases active
      · intro slot active
        rw [inactive] at active
        cases active
  | held slot h _ _ active holds fits verified uuid gen covered count bound older =>
      have buffered := usable_buffered opts env usable
      have whole : roundUpBufferSize opts.snapshotBufferSize kSnapshotBlockSize % 4096 = 0 := round_up_aligned _
      have grown := align_up_mono (128 * entries.length) (sb.blockCount * 128) (by omega)
      have capacity := ready.capacity
      have pos := buffered.pos
      refine ⟨covered, ?_, ?_, ?_⟩
      · exact fun σ visitor st => load_holds s opts env visitor st slot h entries buffered opened ready.healthy.readable active count
          (by omega) holds
      · intro σ visitor st slot' active' call member
        rw [active] at active'
        cases active'
        unfold Snapshot.loadSlotCalls at member
        simp only [opened, active, usable.alloc, Bool.true_eq_false, if_false] at member
        split at member
        · cases member
        · have inside := load_calls_inside s visitor _ whole pos _ _ (by omega) st call member
          rw [count, Nat.mul_comm entries.length] at inside
          unfold kSnapshotSlotHeaderSize at inside
          exact ⟨by omega, by omega⟩
      · intro slot' active' call member
        rw [active] at active'
        cases active'
        rw [header_at_held s _ h entries holds] at member
        unfold Snapshot.verifySlotCalls at member
        simp only [usable.alloc, Bool.true_eq_false, if_false] at member
        split at member
        · cases member
        · have inside := verify_calls_inside s _ whole pos _ _ call member
          rw [fits.len] at inside
          unfold kSnapshotSlotHeaderSize at inside
          exact ⟨by omega, by omega⟩

-- What a snapshot device in force gives to the next process.
theorem holds_delivers (s : Snapshot) (sb : SuperBlock) (coveredSeq : Nat) (entries : List IndexEntry) (ready : SnapshotReady s sb)
    (held : SnapshotHolds s sb coveredSeq entries) (word : sb.blockCount * 128 < 2 ^ 64) (gens : s.nextGen < 2 ^ 64) :
    Delivers sb s.dev coveredSeq entries := by
  intro opts env next mode usable carried
  obtain ⟨r, opened, _, ready', held'⟩ := snapshot_reopens s sb opts env next coveredSeq entries ready held carried mode
    (usable_buffered opts env usable) (usable.alloc _) gens
  exact ⟨r, opened, held_delivered r sb opts env coveredSeq entries ready' held' usable word⟩

-- A device that does not fail, on which no accepted header has the generation
-- the next Write will use.
structure Writable (s : Snapshot) (sb : SuperBlock) : Prop where
  ready : SnapshotReady s sb
  newest : ∀ slot, s.slotOk (s.headerAt slot) = true → (s.headerAt slot).generation.toNat < s.nextGen

theorem holds_writable (s : Snapshot) (sb : SuperBlock) (coveredSeq : Nat) (entries : List IndexEntry) (ready : SnapshotReady s sb)
    (held : SnapshotHolds s sb coveredSeq entries) : Writable s sb := by
  refine ⟨ready, ?_⟩
  intro slot accepted
  cases held with
  | never _ _ _ _ dead =>
      rw [dead] at accepted
      cases accepted
  | held active h _ _ _ holds _ _ _ gen _ _ _ older =>
      have here := header_at_held s active h entries holds
      rw [gen]
      by_cases same : slot = active
      · rw [same, here]
        exact Nat.lt_succ_self _
      · have turned : slot = active.other := by
          cases slot <;> cases active <;> first | rfl | exact absurd rfl same
        rw [turned] at accepted ⊢
        exact Nat.lt_succ_of_lt (older accepted)

theorem created_writable (dev : RawDevice) (opts : Options) (env : SnapshotEnv) (sb : SuperBlock) (s : Snapshot) (mode : opts.create = true)
    (outcomes : dev.outcomes = []) (readable : ∀ k, dev.unreadable k = false) (closed : dev.isOpen = false)
    (capacity : 4096 + alignUp (sb.blockCount * 128) 4096 ≤ snapshotSlotSize dev.sizeBytes)
    (opened : (Snapshot.unopened dev).openSnapshot opts env sb = (Err.kSuccess, s)) : Writable s sb := by
  cases alloc : env.alloc kSnapshotSlotHeaderSize with
  | false =>
      have rc := congrArg Prod.fst opened
      unfold Snapshot.openSnapshot RawDevice.openDevice Snapshot.clear at rc
      simp only [Snapshot.unopened, closed, mode, alloc, Bool.false_eq_true, if_false, ne_eq, not_true_eq_false, if_true] at rc
      split at rc
      · exact absurd (show Err.kDeviceTooSmall = Err.kSuccess from rc) (by decide)
      · split at rc
        · exact absurd (show Err.kDeviceTooSmall = Err.kSuccess from rc) (by decide)
        · exact absurd (show Err.kSnapshotWriteFailed = Err.kSuccess from rc) (by decide)
  | true =>
      obtain ⟨next, opens, ready, held, _⟩ := snapshot_created sb opts env dev closed outcomes readable mode alloc capacity
      rw [opened] at opens
      cases opens
      exact holds_writable s sb 0 [] ready held

theorem adopt_ready (s : Snapshot) (sb : SuperBlock) (slot : Slot) (h : SnapshotSlotHeader) (maxGen : Nat) (ready : SnapshotReady s sb) :
    SnapshotReady (s.adopt slot h maxGen) sb :=
  ⟨ready.healthy, ready.slotA, ready.slotB, ready.size, ready.pos, ready.capacity, ready.uuid⟩

-- Whatever an Open that succeeds has found.
theorem opened_writable (dev : RawDevice) (opts : Options) (env : SnapshotEnv) (sb : SuperBlock) (s : Snapshot)
    (outcomes : dev.outcomes = []) (readable : ∀ k, dev.unreadable k = false)
    (opened : (Snapshot.unopened dev).openSnapshot opts env sb = (Err.kSuccess, s)) (unwrapped : 0 < s.nextGen) : Writable s sb := by
  rcases open_snapshot_sized opts env sb dev with negative | ⟨closed, some_, room⟩
  · rw [opened] at negative
    exact absurd (show Err.kSuccess < 0 from negative) (by decide)
  have capacity : 4096 + alignUp (sb.blockCount * 128) 4096 ≤ snapshotSlotSize dev.sizeBytes := Nat.le_of_not_lt room
  cases mode : opts.create with
  | true => exact created_writable dev opts env sb s mode outcomes readable closed capacity opened
  | false =>
      obtain ⟨t, laid, device, uuid, judged⟩ := open_snapshot_judges opts env sb dev mode closed some_ room
      have ready : SnapshotReady t sb := by
        have size := laid.size
        have place := laid.slotB
        rw [← size] at place
        refine ⟨⟨by rw [device], by rw [device]; exact outcomes, by rw [device]; exact readable⟩, laid.slotA, place, ?_, ?_, ?_, uuid⟩
        · rw [size, device]
        · omega
        · omega
      have inside : ∀ slot, t.slotOff slot + 4096 ≤ t.dev.sizeBytes := by
        intro slot
        have fits := (slot_inside t sb ready slot).2
        have large := ready.capacity
        omega
      have reads := adjudicate_reads t ready.healthy.opened ready.healthy.readable inside
      obtain ⟨verdict, named⟩ : ∃ verdict, t.adjudicate opts env = verdict := ⟨_, rfl⟩
      rw [opened, named] at judged
      cases verdict with
      | error rc =>
          cases judged
          exact absurd rfl (adjudicate_error t opts env _ named)
      | ok next =>
          cases judged
          cases adjudicate_found t s opts env reads named with
          | never dead =>
              refine ⟨⟨ready.healthy, ready.slotA, ready.slotB, ready.size, ready.pos, ready.capacity, ready.uuid⟩, ?_⟩
              intro slot accepted
              rw [never_header, never_slot_ok, dead] at accepted
              cases accepted
          | adopted chosen best differ =>
              refine ⟨adopt_ready t sb chosen _ _ ready, ?_⟩
              intro slot accepted
              rw [adopt_header, adopt_slot_ok] at accepted
              have most := max_gen_bounds t slot accepted
              have word : t.maxGen < 2 ^ 64 := by
                unfold Snapshot.maxGen
                have a := (t.headerAt .a).generation.toNat_lt
                have b := (t.headerAt .b).generation.toNat_lt
                split <;> split <;> omega
              have next : (t.adopt chosen (t.headerAt chosen) t.maxGen).nextGen = (t.maxGen + 1) % 2 ^ 64 := rfl
              rw [next] at unwrapped ⊢
              rw [adopt_header]
              omega

section Calls

variable (c : SnapshotCall) (s : Snapshot) (sb : SuperBlock)

-- On a device that does not fail only the scan and the size of a slot stop a
-- call, and then the header has not been touched.
theorem run_refused (ready : SnapshotReady s sb) (failed : (c.run s).1 ≠ Err.kSuccess) : Driven s.dev (c.run s).2.dev s.RecordArea := by
  have ran := run_ran c s
  have drained := written_driven _ _ _ (drained_written c s)
  have healthy := driven_healthy _ _ _ drained ready.healthy
  have size := (driven_same _ _ _ drained).1
  have inside := (slot_inside s sb ready s.target).2
  have large := ready.capacity
  have headed : c.headed s = (Err.kSuccess, (c.headed s).2) := by
    have fine := healthy_write (c.drained s).2.dev (s.slotOff s.target)
      (s.header c.coveredSeq (c.drained s).2.count (~~~ (c.drained s).2.crc) c.env.now).toBytes healthy (by rw [header_bytes_length, size]; omega)
    unfold SnapshotCall.headed
    rw [fine]
  have healthy' : (c.headed s).2.Healthy :=
    driven_healthy _ _ _ (written_driven _ _ _ (headed_written c s (by unfold kSnapshotSlotHeaderSize; omega))) ready.healthy
  generalize (c.run s).1 = rc at ran failed
  generalize (c.run s).2 = after at ran
  cases ran with
  | refused => exact driven_refl s.dev _
  | scan => exact written_driven _ _ _ (scanned_written c s)
  | drain => exact drained
  | overrun => exact drained
  | header _ _ _ stopped =>
      rw [headed] at stopped
      exact absurd rfl stopped
  | sync _ _ _ _ stopped =>
      rw [healthy_sync _ healthy'] at stopped
      exact absurd rfl stopped
  | done => exact absurd rfl failed

-- The snapshot in force after a call that failed: nothing the active slot holds
-- is different, nor what a later process finds.
structure Unaffected (s after : Snapshot) (sb : SuperBlock) : Prop where
  fields : after = { s with dev := after.dev }
  kept : ∀ o, (o < s.slotOff s.target + kSnapshotSlotHeaderSize ∨ s.slotOff s.target + s.slotSize ≤ o) →
    after.dev.medium.cur o = s.dev.medium.cur o
  active : ∀ slot, s.activeSlot = some slot → slot ≠ s.target
  ready : SnapshotReady after sb
  headers : ∀ slot, after.headerAt slot = s.headerAt slot
  holds : ∀ coveredSeq entries, SnapshotHolds s sb coveredSeq entries → SnapshotHolds after sb coveredSeq entries

theorem refused_unaffected (ready : SnapshotReady s sb) (failed : (c.run s).1 ≠ Err.kSuccess) : Unaffected s (c.run s).2 sb := by
  have fields := run_failed c s failed
  have driven := run_refused c s sb ready failed
  have ready' := run_ready c s sb ready
  generalize (c.run s).2 = after at fields driven ready'
  have size := (driven_same _ _ _ driven).1
  have kept : ∀ o, (o < s.slotOff s.target + kSnapshotSlotHeaderSize ∨ s.slotOff s.target + s.slotSize ≤ o) →
      after.dev.medium.cur o = s.dev.medium.cur o := by
    intro o away
    apply driven_outside _ _ _ driven o
    rintro offset buf ⟨lower, upper⟩
    omega
  have apart := slots_apart s sb ready s.target
  have capacity := ready.capacity
  have offs : ∀ slot, after.slotOff slot = s.slotOff slot := by
    intro slot
    rw [fields]
    cases slot <;> rfl
  have oks : ∀ h, after.slotOk h = s.slotOk h := by
    intro h
    rw [fields]
    rfl
  have others : ∀ slot, slot ≠ s.target → slot = s.target.other := by
    intro slot differ
    cases slot <;> cases target : s.target <;> first | rfl | exact absurd target.symm differ
  have away : ∀ slot, slot ≠ s.target → ∀ o, s.slotOff slot ≤ o → o < s.slotOff slot + s.slotSize →
      after.dev.medium.cur o = s.dev.medium.cur o := by
    intro slot differ o lower upper
    rw [others slot differ] at lower upper
    exact kept o (by omega)
  have headers : ∀ slot, after.headerAt slot = s.headerAt slot := by
    intro slot
    unfold Snapshot.headerAt
    rw [offs]
    refine congrArg SnapshotSlotHeader.ofBytes (read_congr _ _ _ _ fun i inside => ?_)
    by_cases here : slot = s.target
    · exact kept _ (.inl (by rw [here, kSnapshotSlotHeaderSize]; omega))
    · exact away slot here _ (by omega) (by omega)
  have active : ∀ slot, s.activeSlot = some slot → slot ≠ s.target := by
    intro slot active
    rcases target_other s with ⟨inactive, _⟩ | other
    · rw [inactive] at active
      cases active
    · rw [active] at other
      cases other
      cases s.target <;> decide
  refine ⟨fields, kept, active, ready', headers, ?_⟩
  intro coveredSeq entries held
  cases held with
  | never inactive gen covered count dead =>
      refine .never (by rw [fields]; exact inactive) (by rw [fields]; exact gen) (by rw [fields]; exact covered)
        (by rw [fields]; exact count) fun slot => ?_
      rw [headers, oks]
      exact dead slot
  | held slot h _ _ here holds fits verified uuid gen covered count bound older =>
      have grown := align_up_mono (128 * entries.length) (sb.blockCount * 128) (by omega)
      have rounded := align_up_bounds (128 * entries.length)
      have bytes := away slot (active slot here)
      refine .held slot h coveredSeq entries (by rw [fields]; exact here) ⟨?_, ?_, ?_, holds.short⟩ fits verified
        (by rw [fields]; exact uuid) (by rw [fields]; exact gen) (by rw [fields]; exact covered) (by rw [fields]; exact count) bound ?_
      · rw [offs, ← holds.header]
        exact read_congr _ _ _ _ fun i inside => bytes _ (by omega) (by omega)
      · rw [offs, ← holds.records]
        exact read_congr _ _ _ _ fun i inside => bytes _ (by omega) (by omega)
      · rw [offs, size]
        exact holds.inside
      · rw [headers, oks]
        exact older

theorem run_writable (writable : Writable s sb) (gens : s.nextGen + 1 < 2 ^ 64) :
    Writable (c.run s).2 sb ∧ s.nextGen ≤ (c.run s).2.nextGen ∧ (c.run s).2.nextGen ≤ s.nextGen + 1 := by
  have ready := writable.ready
  by_cases done : (c.run s).1 = Err.kSuccess
  · have wrote := run_wrote c s done
    have driven := run_driven c s (by
      have capacity := ready.capacity
      unfold kSnapshotSlotHeaderSize
      omega)
    have ready' := run_ready c s sb ready
    generalize (c.run s).2 = after at wrote driven ready'
    have next : after.nextGen = s.nextGen + 1 := by
      rw [wrote.fields]
      exact Nat.mod_eq_of_lt gens
    have offs : ∀ slot, after.slotOff slot = s.slotOff slot := by
      intro slot
      rw [wrote.fields]
      cases slot <;> rfl
    refine ⟨⟨ready', ?_⟩, by omega, by omega⟩
    intro slot accepted
    by_cases here : slot = s.target
    · have holds := wrote.holds
      rw [← offs] at holds
      rw [here, header_at_held after _ _ _ holds, next]
      refine Nat.lt_succ_of_le (Nat.le_of_eq (UInt64.toNat_ofNat_of_lt' ?_))
      show s.nextGen < 2 ^ 64
      omega
    · have other : slot = s.target.other := by
        cases slot <;> cases target : s.target <;> first | rfl | exact absurd target.symm here
      have capacity := ready.capacity
      have apart := slots_apart s sb ready s.target
      have same : after.headerAt slot = s.headerAt slot := by
        unfold Snapshot.headerAt
        rw [offs]
        refine congrArg SnapshotSlotHeader.ofBytes (read_congr _ _ _ _ fun i inside => ?_)
        apply driven_outside _ _ _ driven
        rintro offset buf ⟨lower, upper⟩
        rw [other]
        omega
      have ok : s.slotOk (s.headerAt slot) = true := by
        rw [same, wrote.fields] at accepted
        exact accepted
      have newest := writable.newest slot ok
      rw [same]
      omega
  · have kept := refused_unaffected c s sb ready done
    have fields := kept.fields
    have headers := kept.headers
    have ready' := kept.ready
    generalize (c.run s).2 = after at fields headers ready'
    have next : after.nextGen = s.nextGen := by rw [fields]
    refine ⟨⟨ready', ?_⟩, by omega, by omega⟩
    intro slot accepted
    rw [headers, fields] at accepted
    rw [headers, next]
    exact writable.newest slot accepted

end Calls

def Snapshot.after (s : Snapshot) (calls : List SnapshotCall) : Snapshot := calls.foldl (fun s c => (c.run s).2) s

-- Calls of which each fails where the ones before it have left the device.
def Refused : Snapshot → List SnapshotCall → Prop
  | _, [] => True
  | s, c :: rest => (c.run s).1 ≠ Err.kSuccess ∧ Refused (c.run s).2 rest

theorem after_writable (sb : SuperBlock) (calls : List SnapshotCall) (s : Snapshot) (writable : Writable s sb)
    (gens : s.nextGen + calls.length + 1 < 2 ^ 64) :
    Writable (s.after calls) sb ∧ (s.after calls).nextGen + 1 < 2 ^ 64 := by
  induction calls generalizing s with
  | nil => exact ⟨writable, gens⟩
  | cons c rest ih =>
      rw [List.length_cons] at gens
      obtain ⟨kept, _, next⟩ := run_writable c s sb writable (by omega)
      have gens' : (c.run s).2.nextGen + rest.length + 1 < 2 ^ 64 := by omega
      exact ih _ kept gens'

theorem after_refused (sb : SuperBlock) (coveredSeq : Nat) (entries : List IndexEntry) (calls : List SnapshotCall) (s : Snapshot)
    (ready : SnapshotReady s sb) (held : SnapshotHolds s sb coveredSeq entries) (refused : Refused s calls) :
    SnapshotReady (s.after calls) sb ∧ SnapshotHolds (s.after calls) sb coveredSeq entries ∧ (s.after calls).nextGen = s.nextGen := by
  induction calls generalizing s with
  | nil => exact ⟨ready, held, rfl⟩
  | cons c rest ih =>
      have kept := refused_unaffected c s sb ready refused.1
      obtain ⟨ready', held', next⟩ := ih _ kept.ready (kept.holds coveredSeq entries held) refused.2
      refine ⟨ready', held', next.trans ?_⟩
      rw [kept.fields]

-- What one call of Write on a device that does not fail comes to, and what the
-- device is good for after it and after any further calls that fail.
structure RoundTrips (s : Snapshot) (sb : SuperBlock) (c : SnapshotCall) : Prop where
  inside : Driven s.dev (c.run s).2.dev fun offset buf =>
    s.slotOff s.target ≤ offset ∧ offset + buf.length ≤ s.slotOff s.target + s.slotSize
  succeeds : c.env.alloc c.bufSize = true → c.code = Err.kSuccess → c.entries.length ≤ sb.blockCount →
    (∀ entry ∈ c.entries, entry.1.length ≤ kSnapshotKeyMax) → (c.run s).1 = Err.kSuccess
  delivers : (c.run s).1 = Err.kSuccess → c.entries.length ≤ sb.blockCount → c.coveredSeq < 2 ^ 64 →
    ∀ failed, Refused (c.run s).2 failed → Delivers sb ((c.run s).2.after failed).dev c.coveredSeq c.entries
  scanned : c.env.alloc c.bufSize = true → (c.scanned s).1 ≠ Err.kSuccess → (c.run s).1 = (c.scanned s).1
  unaffected : (c.run s).1 ≠ Err.kSuccess → Unaffected s (c.run s).2 sb

theorem writable_round_trips (s : Snapshot) (sb : SuperBlock) (c : SnapshotCall) (writable : Writable s sb)
    (size : c.opts.snapshotBufferSize ≤ 2 ^ 63) (word : sb.blockCount * 128 < 2 ^ 64) (gens : s.nextGen + 1 < 2 ^ 64) : RoundTrips s sb c := by
  have ready := writable.ready
  have capacity := ready.capacity
  have pos := buffer_pos c.opts (Nat.le_trans size (by decide))
  refine ⟨run_driven c s (by unfold kSnapshotSlotHeaderSize; omega), ?_, ?_, ?_, refused_unaffected c s sb ready⟩
  · intro alloc code count short
    have writes := write_succeeds s sb c.opts c.env c.coveredSeq c.entries ready pos count short
    unfold SnapshotCall.run
    rw [code, scanning_success]
    rcases writes with ⟨_, none_⟩ | ⟨done, _⟩
    · exact absurd (alloc.symm.trans none_) (by decide)
    · exact done
  · intro done count covered failed refused
    have wrote := run_wrote c s done
    have ready' := run_ready c s sb ready
    have held := wrote_newest s _ sb c.coveredSeq c.env.now c.entries ready wrote count covered gens word (writable.newest _)
    have next := (run_writable c s sb writable gens).2.2
    obtain ⟨ready'', held', same⟩ := after_refused sb c.coveredSeq c.entries failed _ ready' held refused
    exact holds_delivers _ sb c.coveredSeq c.entries ready'' held' word (by omega)
  · intro alloc failed
    have ran := run_ran c s
    generalize (c.run s).1 = rc at ran ⊢
    generalize (c.run s).2 = after at ran
    cases ran with
    | refused closed =>
        rcases closed with shut | none_
        · exact absurd (ready.healthy.opened.symm.trans shut) (by decide)
        · exact absurd (alloc.symm.trans none_) (by decide)
    | scan => rfl
    | drain fine => exact absurd fine failed
    | overrun fine => exact absurd fine failed
    | header fine => exact absurd fine failed
    | sync fine => exact absurd fine failed
    | done fine => exact absurd fine failed

-- Whatever was done since the device was opened, what a Write has put into its
-- slot is what the next process loads, with buffers of any two sizes. Of the calls
-- before it the source says what they do only while their buffers have a block.
theorem snapshot_round_trip (dev : RawDevice) (opts : Options) (env : SnapshotEnv) (sb : SuperBlock) (s : Snapshot)
    (calls : List SnapshotCall) (c : SnapshotCall) (sized : dev.sizeBytes < 2 ^ 64) (outcomes : dev.outcomes = [])
    (readable : ∀ k, dev.unreadable k = false) (opened : (Snapshot.unopened dev).openSnapshot opts env sb = (Err.kSuccess, s))
    (unwrapped : 0 < s.nextGen) (gens : s.nextGen + calls.length + 1 < 2 ^ 64)
    (_sizes : ∀ c ∈ calls, c.opts.snapshotBufferSize ≤ 2 ^ 63) (size : c.opts.snapshotBufferSize ≤ 2 ^ 63) :
    RoundTrips (s.after calls) sb c := by
  have writable := opened_writable dev opts env sb s outcomes readable opened unwrapped
  obtain ⟨kept, next⟩ := after_writable sb calls s writable gens
  have word : sb.blockCount * 128 < 2 ^ 64 := by
    rcases open_snapshot_sized opts env sb dev with negative | ⟨_, some_, room⟩
    · rw [opened] at negative
      exact absurd (show Err.kSuccess < 0 from negative) (by decide)
    · have fits := slot_size_fits dev.sizeBytes (Nat.pos_of_ne_zero some_)
      have rounded := align_up_bounds (sb.blockCount * 128)
      unfold kSnapshotSlotHeaderSize kSnapshotRecordSize kSnapshotBlockSize at room
      omega
  exact writable_round_trips _ sb c kept size word next

def oneEntryCall : SnapshotCall where
  opts := bareOptions
  env := ⟨fun _ => true, 0⟩
  coveredSeq := 1
  entries := [⟨[1], default⟩]
  code := Err.kSuccess

theorem snapshot_round_trip_one : ∃ s, (Snapshot.unopened { zeroDevice 24576 with isOpen := false }).openSnapshot
    { bareOptions with create := true } ⟨fun _ => true, 0⟩ ⟨Vector.replicate 16 0, 0, 2⟩ = (Err.kSuccess, s) ∧
      RoundTrips (s.after [oneEntryCall]) ⟨Vector.replicate 16 0, 0, 2⟩ oneEntryCall := by
  obtain ⟨s, opened, _, _, _, first⟩ := snapshot_created ⟨Vector.replicate 16 0, 0, 2⟩ { bareOptions with create := true } ⟨fun _ => true, 0⟩
    { zeroDevice 24576 with isOpen := false } rfl rfl (fun _ => rfl) rfl rfl (by decide)
  refine ⟨s, opened, ?_⟩
  exact snapshot_round_trip _ _ _ _ s [oneEntryCall] oneEntryCall (by decide) rfl (fun _ => rfl) opened (by rw [first]; decide)
    (by rw [first]; decide) (fun c member => by cases List.mem_singleton.mp member; decide) (by decide)

end Cabe
