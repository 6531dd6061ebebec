import Cabe.StoreServed

set_option autoImplicit false

namespace Cabe

open Storage Concurrency

-- The slot of a snapshot that is in force holds the entries of this index, under
-- the header that Write puts in front of them.
structure Snapshot.InForce (taken : Snapshot) (covered : Nat) (index : MetaIndex) (slot : Slot) (h : SnapshotSlotHeader)
    (entries : List IndexEntry) : Prop where
  active : taken.activeSlot = some slot
  covers : taken.lastCoveredSeq = covered
  count : taken.activeEntryCount = entries.length
  header : ∃ (s : Snapshot) (now : UInt64), h = s.header covered entries.length (Util.crc32 (recordsBytes entries)) now
  holds : SlotHolds taken.dev (taken.slotOff slot) h entries
  nodup : entries.NodupKeys
  lookups : ∀ key, entries.dlookup key = index.lookup key

def Snapshot.Contains (taken : Snapshot) (covered : Nat) (index : MetaIndex) : Prop :=
  ∃ slot h entries, taken.InForce covered index slot h entries

theorem written_contains (s taken : Snapshot) (opts : Options) (env : ScanEnv) (covered : Nat) (index : MetaIndex)
    (pos : opts.SnapshotBuffered) (done : s.write opts env.toSnapshotEnv covered (index.forEach env.walk) = (Err.kSuccess, taken)) :
    taken.Contains covered index := by
  have wrote := write_success s opts env.toSnapshotEnv covered (env.walk.order index) pos (congrArg Prod.fst done)
  have result : (s.write opts env.toSnapshotEnv covered fun visitor st => visitAll visitor st (env.walk.order index)).2 = taken :=
    congrArg Prod.snd done
  rw [result] at wrote
  have fields := wrote.fields
  have place : taken.slotOff s.target = s.slotOff s.target := by
    rw [fields]
    cases s.target <;> rfl
  obtain ⟨nodup, lookups⟩ := walk_lookups index env.walk
  exact ⟨s.target, _, env.walk.order index, by rw [fields], by rw [fields], by rw [fields], ⟨s, env.now, rfl⟩, by
    rw [place]
    exact wrote.holds, nodup, lookups⟩

theorem contains_same (taken : Snapshot) (covered : Nat) (a b : MetaIndex) (same : a.Same b) (contains : taken.Contains covered b) :
    taken.Contains covered a := by
  obtain ⟨slot, h, entries, force⟩ := contains
  exact ⟨slot, h, entries, { force with lookups := fun key => (force.lookups key).trans (same key).symm }⟩

-- A snapshot device of any process on which this snapshot is in force and its
-- bytes are still there.
structure Snapshot.Keeps (taken t : Snapshot) : Prop where
  active : t.activeSlot = taken.activeSlot
  count : t.activeEntryCount = taken.activeEntryCount
  place : ∀ slot, taken.activeSlot = some slot → t.slotOff slot = taken.slotOff slot
  size : t.dev.sizeBytes = taken.dev.sizeBytes
  word : t.dev.sizeBytes < 2 ^ 64
  opened : t.dev.isOpen = true
  readable : ∀ k, t.dev.unreadable k = false
  bytes : ∀ slot, taken.activeSlot = some slot → ∀ o, taken.slotOff slot ≤ o →
    o < taken.slotOff slot + kSnapshotSlotHeaderSize + alignUp (taken.activeEntryCount * kSnapshotRecordSize) kSnapshotBlockSize →
    t.dev.medium.cur o = taken.dev.medium.cur o

theorem keeps_holds (taken t : Snapshot) (covered : Nat) (index : MetaIndex) (slot : Slot) (h : SnapshotSlotHeader)
    (entries : List IndexEntry) (force : taken.InForce covered index slot h entries) (keeps : taken.Keeps t) :
    SlotHolds t.dev (t.slotOff slot) h entries := by
  have bytes := keeps.bytes slot force.active
  have holds := force.holds
  have rounded := align_up_bounds (128 * entries.length)
  have turned : alignUp (entries.length * 128) 4096 = alignUp (128 * entries.length) 4096 := by rw [Nat.mul_comm]
  have inside := holds.inside
  rw [force.count] at bytes
  simp only [kSnapshotSlotHeaderSize, kSnapshotRecordSize, kSnapshotBlockSize, turned] at bytes
  rw [keeps.place slot force.active]
  refine ⟨?_, ?_, by rw [keeps.size]; exact inside, holds.short⟩
  · rw [← holds.header]
    exact read_congr _ _ _ _ fun i bound => bytes _ (by omega) (by omega)
  · rw [← holds.records]
    exact read_congr _ _ _ _ fun i bound => bytes _ (by omega) (by omega)

-- What a load needs of its buffer: a block, unless there is nothing to read.
def Snapshot.LoadsWith (taken : Snapshot) (opts : Options) : Prop :=
  0 < roundUpBufferSize opts.snapshotBufferSize kSnapshotBlockSize ∨ taken.activeEntryCount = 0

theorem load_none {σ : Type} (t : Snapshot) (opts : Options) (env : SnapshotEnv) (visitor : MetaIndexVisitor σ) (st : σ) (slot : Slot)
    (opened : t.dev.isOpen = true) (active : t.activeSlot = some slot) (none_ : t.activeEntryCount = 0) :
    t.load opts env visitor st = (Err.kSuccess, st) := by
  unfold Snapshot.load
  rw [opened, active]
  simp only [Bool.true_eq_false, if_false, none_, if_true]

-- A buffer of no blocks: the records are read in pieces of nothing, for ever.
theorem load_endless {σ : Type} (t : Snapshot) (opts : Options) (env : SnapshotEnv) (visitor : MetaIndexVisitor σ) (st : σ) (slot : Slot)
    (opened : t.dev.isOpen = true) (readable : ∀ k, t.dev.unreadable k = false) (active : t.activeSlot = some slot)
    (inside : t.slotOff slot + 4096 ≤ t.dev.sizeBytes) (some_ : t.activeEntryCount ≠ 0)
    (empty : roundUpBufferSize opts.snapshotBufferSize kSnapshotBlockSize = 0) (alloc : env.alloc 0 = true) :
    (t.load opts env visitor st).1 = Err.kNeverReturns := by
  unfold Snapshot.load
  rw [opened, active]
  simp only [Bool.true_eq_false, if_false, some_, empty, alloc]
  rw [Snapshot.loadFrom, if_pos (Nat.pos_of_ne_zero some_)]
  simp only [Nat.zero_min]
  rw [read_at_readable t.dev _ 0 opened readable (by unfold kSnapshotSlotHeaderSize; omega)]
  simp [loadRecords, Err.kSuccess, Err.kNeverReturns]

theorem contained_loads (sb : SuperBlock) (taken t : Snapshot) (opts : Options) (env : SnapshotEnv) (covered : Nat) (index : MetaIndex)
    (lawful : Lawful sb index) (contains : taken.Contains covered index) (keeps : taken.Keeps t)
    (memory : env.alloc (roundUpBufferSize opts.snapshotBufferSize kSnapshotBlockSize) = true) (buffered : taken.LoadsWith opts) :
    ∃ base, t.load opts env (applyRecoveredEntry sb) ∅ = (Err.kSuccess, base) ∧ base.Same index := by
  obtain ⟨slot, h, entries, force⟩ := contains
  have active := keeps.active.trans force.active
  have count := keeps.count.trans force.count
  obtain ⟨base, visited, same⟩ := visit_all_brings sb index entries force.nodup force.lookups lawful
  refine ⟨base, ?_, same⟩
  rcases buffered with pos | none_
  · have holds := keeps_holds taken t covered index slot h entries force keeps
    have word := keeps.word
    have inside := holds.inside
    have rounded := align_up_bounds (128 * entries.length)
    rw [load_holds t opts env (applyRecoveredEntry sb) ∅ slot h entries ⟨pos, memory⟩ keeps.opened keeps.readable active count (by omega) holds]
    exact visited
  · have empty : entries = [] := List.eq_nil_of_length_eq_zero (force.count.symm.trans none_)
    rw [load_none t opts env _ ∅ slot keeps.opened active (keeps.count.trans none_), ← visited, empty]
    rfl

theorem contained_endless (sb : SuperBlock) (taken t : Snapshot) (opts : Options) (env : SnapshotEnv) (covered : Nat) (index : MetaIndex)
    (contains : taken.Contains covered index) (keeps : taken.Keeps t)
    (memory : env.alloc (roundUpBufferSize opts.snapshotBufferSize kSnapshotBlockSize) = true) (unbuffered : ¬ taken.LoadsWith opts) :
    (t.load opts env (applyRecoveredEntry sb) ∅).1 = Err.kNeverReturns := by
  obtain ⟨slot, h, entries, force⟩ := contains
  obtain ⟨none_, some_⟩ := not_or.mp unbuffered
  have empty := Nat.eq_zero_of_not_pos none_
  have holds := keeps_holds taken t covered index slot h entries force keeps
  have inside := holds.inside
  rw [empty] at memory
  exact load_endless t opts env _ ∅ slot keeps.opened keeps.readable (keeps.active.trans force.active) (by omega)
    (by rw [keeps.count]; exact some_) empty memory

def framesIn (trace : List LogEvent) : List WalFrame :=
  trace.filterMap fun event => match event with | .frame f => some f | _ => none

theorem frames_in_append (a b : List LogEvent) : framesIn (a ++ b) = framesIn a ++ framesIn b := List.filterMap_append

structure Accelerated (sb : SuperBlock) (trace : List LogEvent) (s : Logging) : Prop where
  seq : s.reactor.dc.wal.seqNext = (framesIn trace).length + 1
  numbered : ∀ i f, (framesIn trace)[i]? = some f → f.seq = UInt64.ofNat (i + 1)
  lawful : Lawful sb s.reactor.dc.metaIndex
  logged : ∀ e, s.stage = .logged e → Acceptable sb s.reactor.dc.metaIndex e
  flushed : ∀ covered boundary, s.stage = .flushed covered boundary → covered = (framesIn trace).length
  buffered : s.reactor.options.SnapshotBuffered
  empty : Replays sb (framesIn trace) ∅ s.live
  taken : ∀ covered taken, .snapshot covered taken ∈ trace → covered ≤ (framesIn trace).length ∧
    ∃ index, replay sb ((framesIn trace).take covered) ∅ = .ok index ∧ Lawful sb index ∧ taken.Contains covered index

-- A call that changes neither the index nor the frames.
theorem accelerated_still (sb : SuperBlock) (trace : List LogEvent) (s after : Logging) (inv : Accelerated sb trace s)
    (index : after.live = s.live) (entries : Lawful sb after.reactor.dc.metaIndex) (seq : after.reactor.dc.wal.seqNext = s.reactor.dc.wal.seqNext)
    (logged : ∀ e, after.stage = .logged e → Acceptable sb after.reactor.dc.metaIndex e)
    (flushed : ∀ covered boundary, after.stage = .flushed covered boundary → covered = (framesIn trace).length)
    (options : after.reactor.options.SnapshotBuffered) : Accelerated sb (trace ++ []) after := by
  rw [List.append_nil]
  exact ⟨by rw [seq]; exact inv.seq, inv.numbered, entries, logged, flushed, options, by rw [index]; exact inv.empty, inv.taken⟩

theorem accelerated_logged (sb : SuperBlock) (trace : List LogEvent) (r : Reactor) (wal : Wal) (e : WalEntry)
    (inv : Accelerated sb trace ⟨.rest, r⟩) (acceptable : Acceptable sb r.dc.metaIndex e) (next : wal.seqNext = r.dc.wal.seqNext + 1) :
    Accelerated sb (trace ++ [.frame (encodeFrame e r.dc.wal.seqNext)]) ⟨.logged e, r.withWal wal⟩ := by
  have seq := inv.seq
  simp only at seq
  have frames : framesIn (trace ++ [.frame (encodeFrame e r.dc.wal.seqNext)]) = framesIn trace ++ [encodeFrame e r.dc.wal.seqNext] :=
    frames_in_append _ _
  refine ⟨?_, ?_, inv.lawful, ?_, (fun _ _ at_ => nomatch at_), inv.buffered, ?_, ?_⟩
  · rw [frames, List.length_append, List.length_singleton, ← seq]
    exact next
  · intro i f found
    rw [frames] at found
    rcases Nat.lt_or_ge i (framesIn trace).length with old | new
    · rw [List.getElem?_append_left old] at found
      exact inv.numbered i f found
    · rw [List.getElem?_append_right new] at found
      have last : i = (framesIn trace).length := by
        have bound := (List.getElem?_eq_some_iff.mp found).1
        simp only [List.length_singleton] at bound
        omega
      rw [last, Nat.sub_self] at found
      cases found
      rw [last, ← seq]
      rfl
  · rintro e' ⟨⟩
    exact acceptable
  · rw [frames]
    exact replays_logged sb _ ∅ _ e _ acceptable inv.empty
  · intro covered taken member
    have old : .snapshot covered taken ∈ trace := by
      rcases List.mem_append.mp member with before | now
      · exact before
      · cases List.mem_singleton.mp now
    obtain ⟨behind, found⟩ := inv.taken covered taken old
    rw [frames, List.length_append, List.take_append_of_le_length behind]
    exact ⟨by omega, found⟩

theorem accelerated_step (sb : SuperBlock) (trace events : List LogEvent) (s after : Logging) (move : LogMove)
    (inv : Accelerated sb trace s) (clean : NoGhost events) (step : Logging.Step sb s.reactor s.stage move events after) :
    Accelerated sb (trace ++ events) after := by
  obtain ⟨stage, r⟩ := s
  cases step with
  | store _ next same =>
      refine accelerated_still sb trace ⟨stage, r⟩ ⟨stage, next⟩ inv ?_ ?_ ?_ ?_ inv.flushed ?_
      · unfold Logging.live
        simp only [same.index]
      · rw [same.index]
        exact inv.lawful
      · rw [same.wal]
      · rw [same.index]
        exact inv.logged
      · rw [same.options]
        exact inv.buffered
  | note =>
      exact accelerated_still sb trace _ _ inv rfl inv.lawful rfl (fun _ at_ => by cases at_) (fun _ _ at_ => by cases at_) inv.buffered
  | write e acceptable =>
      have numbered := write_wal_numbered r.dc.wal r.options.walLevel e
      generalize r.dc.wal.writeWal r.options.walLevel e = out at numbered clean ⊢
      by_cases done : out.1 = Err.kSuccess
      · simp only [appended, if_pos done]
        exact accelerated_logged sb trace r out.2 e inv acceptable (numbered.done done)
      · have still : out.2.seqNext = r.dc.wal.seqNext := by
          by_contra grown
          simp only [appended, if_neg done, if_neg grown] at clean
          exact clean _ (List.mem_singleton_self _)
        simp only [appended, if_neg done, if_pos still]
        exact accelerated_still sb trace _ _ inv rfl inv.lawful still (fun _ at_ => by cases at_) (fun _ _ at_ => by cases at_) inv.buffered
  | commit e =>
      have acceptable := inv.logged e rfl
      refine accelerated_still sb trace ⟨.logged e, r⟩ ⟨.rest, r.commit e⟩ inv (commit_index r e) ?_ ?_ (fun _ at_ => by cases at_)
        (fun _ _ at_ => by cases at_) ?_
      · rw [commit_index]
        exact commit_lawful sb _ e inv.lawful acceptable
      · unfold Reactor.commit
        split <;> rfl
      · unfold Reactor.commit
        split <;> exact inv.buffered
  | level level =>
      obtain ⟨index, seq, buffer⟩ := set_level_still r level
      refine accelerated_still sb trace ⟨.rest, r⟩ _ inv index ?_ seq (fun _ at_ => by cases at_) (fun _ _ at_ => by cases at_) ?_
      · rw [index]
        exact inv.lawful
      · unfold Options.SnapshotBuffered
        rw [buffer]
        exact inv.buffered
  | flush =>
      have drained := (flush_codes r.dc.wal r.options.walLevel).2
      have seq := inv.seq
      generalize r.dc.wal.flush r.options.walLevel = out at drained ⊢
      by_cases done : out.1 = Err.kSuccess
      · rw [if_pos done]
        refine accelerated_still sb trace ⟨.rest, r⟩ _ inv rfl inv.lawful drained (fun _ at_ => by cases at_) ?_ inv.buffered
        rintro covered boundary ⟨⟩
        show out.2.seqNext - 1 = _
        rw [drained, seq]
        rfl
      · rw [if_neg done]
        exact accelerated_still sb trace ⟨.rest, r⟩ _ inv rfl inv.lawful drained (fun _ at_ => by cases at_) (fun _ _ at_ => by cases at_)
          inv.buffered
  | saved covered boundary env taken done =>
      have all := inv.flushed covered boundary rfl
      have frames : framesIn (trace ++ [.snapshot covered taken]) = framesIn trace := by
        rw [frames_in_append]
        exact List.append_nil _
      refine ⟨by rw [frames]; exact inv.seq, by rw [frames]; exact inv.numbered, inv.lawful, (fun _ at_ => by cases at_),
        (fun _ _ at_ => by cases at_), inv.buffered, by rw [frames]; exact inv.empty, ?_⟩
      intro covered' taken' member
      rw [frames]
      rcases List.mem_append.mp member with before | now
      · exact inv.taken covered' taken' before
      · cases List.mem_singleton.mp now
        obtain ⟨index, replayed, same⟩ := inv.empty
        refine ⟨by omega, index, ?_, same_lawful sb _ _ same inv.lawful, contains_same taken covered _ _ same
          (written_contains _ taken r.options env covered _ inv.buffered done)⟩
        rw [List.take_of_length_le (by omega)]
        exact replayed
  | unsaved covered boundary env rc left failed done =>
      exact accelerated_still sb trace _ _ inv rfl inv.lawful rfl (fun _ at_ => by cases at_) (fun _ _ at_ => by cases at_) inv.buffered
  | reclaim covered boundary =>
      exact accelerated_still sb trace _ _ inv rfl inv.lawful (reclaim_seq r.dc.wal boundary) (fun _ at_ => by cases at_)
        (fun _ _ at_ => by cases at_) inv.buffered

theorem accelerated_run (sb : SuperBlock) (trace : List LogEvent) (s : Logging) (run : (logMachine sb).Run trace s) :
    NoGhost trace → Accelerated sb trace s := by
  refine run_invariant (logMachine sb) (fun trace s => NoGhost trace → Accelerated sb trace s) ?_ ?_ trace s run
  · rintro ⟨stage, r⟩ ⟨rest, create, buffered, env, group, word, opened⟩ _
    cases rest
    obtain ⟨io, _, _, modes⟩ := open_device_ok r.options env sb group r.dc opened
    rcases modes with ⟨_, wal, snapshot, walOpened, _, made⟩ | ⟨mode, _⟩
    swap
    · rw [create] at mode
      cases mode
    have just := open_wal_success _ _ _ walOpened
    have index : r.dc.metaIndex = ∅ := by rw [made]; rfl
    refine ⟨?_, (fun _ _ found => nomatch found), by rw [index]; exact lawful_empty sb, (fun _ at_ => nomatch at_),
      (fun _ _ at_ => nomatch at_), buffered, ⟨∅, rfl, ?_⟩, (fun _ _ member => nomatch member)⟩
    · show r.dc.wal.seqNext = 1
      rw [made]
      exact just.position.2.2.2
    · show MetaIndex.Same ∅ r.dc.metaIndex
      rw [index]
      exact same_refl _
  · intro trace s move events s' inv step clean
    exact accelerated_step sb trace events s s' move (inv fun f member => clean f (List.mem_append_left _ member))
      (fun f member => clean f (List.mem_append_right _ member)) step

-- The states a thread reaches from the creation of its device by operations that
-- succeed, or fail without leaving a frame behind.
inductive Operated (sb : SuperBlock) : Reactor → Prop
  | created (env : OpenEnv) (group : DeviceGroup) (r : Reactor) (mode : r.options.create = true) (buffered : r.options.SnapshotBuffered)
      (word : group.data.sizeBytes < 2 ^ 64) (opened : openDevice r.options env sb group = (Err.kSuccess, r.dc)) : Operated sb r
  | operation (r : Reactor) (env : OpEnv) (req : Request) (operated : Operated sb r) (admitted : req.Admitted)
      (clean : (r.execute env req).1.rc = Err.kSuccess ∨ (r.execute env req).2.dc.wal.seqNext = r.dc.wal.seqNext) :
      Operated sb (r.execute env req).2

theorem operation_trace (sb : SuperBlock) (r : Reactor) (env : OpEnv) (req : Request) (trace : List LogEvent) (owns : r.Owns sb)
    (small : sb.blockCount < 2 ^ 44) (run : (logMachine sb).Run trace ⟨.rest, r⟩) (quiet : NoGhost trace) (admitted : req.Admitted)
    (clean : (r.execute env req).1.rc = Err.kSuccess ∨ (r.execute env req).2.dc.wal.seqNext = r.dc.wal.seqNext) :
    ∃ events, (logMachine sb).Run (trace ++ events) ⟨.rest, (r.execute env req).2⟩ ∧ NoGhost (trace ++ events) := by
  have lawful := (accelerated_run sb trace _ run quiet).lawful
  obtain ⟨events, logs⟩ := execute_logs sb r env req _ owns.blocks lawful (by omega) admitted
  exact ⟨events, log_run_extends sb trace events _ _ run logs.run, no_ghost_append _ _ quiet (operation_no_ghost sb r events _ logs clean)⟩

theorem operated_trace (sb : SuperBlock) (r : Reactor) (operated : Operated sb r) :
    (∃ trace, (logMachine sb).Run trace ⟨.rest, r⟩ ∧ NoGhost trace) ∧ r.Owns sb ∧ sb.blockCount < 2 ^ 44 := by
  induction operated with
  | created env group r mode buffered word opened =>
      obtain ⟨conserved, pool, _, _, small⟩ := opened_conserved r.options env sb group r.dc word opened
      refine ⟨⟨[], .begin _ ⟨rfl, mode, buffered, env, group, word, opened⟩, fun _ member => nomatch member⟩, ⟨conserved, ?_⟩, small⟩
      rw [pool]
      rfl
  | operation r env req _ admitted clean ih =>
      obtain ⟨⟨trace, run, quiet⟩, owns, small⟩ := ih
      obtain ⟨events, more, silent⟩ := operation_trace sb r env req trace owns small run quiet admitted clean
      exact ⟨⟨trace ++ events, more, silent⟩, execute_owns sb r env req owns, small⟩

-- Where a recovery can start from: the empty index, or a snapshot, loaded by a
-- process with these options.
inductive Start where
  | empty
  | load (taken t : Snapshot) (opts : Options) (env : SnapshotEnv)

-- The starts that a history has left, with the number each of them covers.
inductive Start.Of (trace : List LogEvent) : Nat → Start → Prop
  | empty : Start.Of trace 0 .empty
  | load (covered : Nat) (taken t : Snapshot) (opts : Options) (env : SnapshotEnv) (event : .snapshot covered taken ∈ trace)
      (keeps : taken.Keeps t) (memory : env.alloc (roundUpBufferSize opts.snapshotBufferSize kSnapshotBlockSize) = true) :
      Start.Of trace covered (.load taken t opts env)

def Start.loaded (sb : SuperBlock) : Start → Rc × MetaIndex
  | .empty => (Err.kSuccess, ∅)
  | .load _ t opts env => t.load opts env (applyRecoveredEntry sb) ∅

def Start.Buffered : Start → Prop
  | .empty => True
  | .load taken _ opts _ => taken.LoadsWith opts

-- A recovery from this start ends with this index, and refuses nothing on the way.
def Start.Gives (sb : SuperBlock) (frames : List WalFrame) (covered : Nat) (start : Start) (index : MetaIndex) : Prop :=
  ∃ base, start.loaded sb = (Err.kSuccess, base) ∧ replay sb (frames.drop covered) base = .ok index

structure Agree (sb : SuperBlock) (frames : List WalFrame) (live : MetaIndex) (c₁ c₂ : Nat) (a b : Start) (index₁ index₂ : MetaIndex) :
    Prop where
  first : a.Gives sb frames c₁ index₁
  second : b.Gives sb frames c₂ index₂
  same : index₁.Same index₂
  live : index₁.Same live
  blocks : index₁.blocks.Nodup ∧ index₂.blocks.Nodup

-- Every snapshot holds the index of the frames that it covers, and any two starts
-- lead to the live index exactly when each has a buffer for what it loads.
structure OnlyAccelerates (sb : SuperBlock) (trace : List LogEvent) (r : Reactor) : Prop where
  all : (framesIn trace).length = r.dc.wal.lastSeq
  numbered : ∀ i f, (framesIn trace)[i]? = some f → f.seq = UInt64.ofNat (i + 1)
  contains : ∀ covered taken, .snapshot covered taken ∈ trace → covered ≤ r.dc.wal.lastSeq ∧
    ∃ index, replay sb ((framesIn trace).take covered) ∅ = .ok index ∧ taken.Contains covered index
  agree : ∀ c₁ c₂ a b, c₁ < c₂ → Start.Of trace c₁ a → Start.Of trace c₂ b →
    ((∃ index₁ index₂, Agree sb (framesIn trace) r.dc.metaIndex c₁ c₂ a b index₁ index₂) ↔ a.Buffered ∧ b.Buffered)
  whole : ∃ index, replay sb (framesIn trace) ∅ = .ok index ∧ index.Same r.dc.metaIndex ∧ index.blocks.Nodup

-- The square: the frames that a snapshot covers lead to what it holds, so those
-- behind them lead from what it holds to where all of them lead.
theorem start_gives (sb : SuperBlock) (trace : List LogEvent) (r : Reactor) (inv : Accelerated sb trace ⟨.rest, r⟩) (c : Nat)
    (start : Start) (of : Start.Of trace c start) (buffered : start.Buffered) :
    ∃ index, start.Gives sb (framesIn trace) c index ∧ index.Same r.dc.metaIndex := by
  obtain ⟨whole, replayed, live⟩ := inv.empty
  cases of with
  | empty => exact ⟨whole, ⟨∅, rfl, replayed⟩, live⟩
  | load _ taken t opts env event keeps memory =>
      obtain ⟨_, mid, front, lawful, contains⟩ := inv.taken c taken event
      obtain ⟨base, loaded, same⟩ := contained_loads sb taken t opts env c mid lawful contains keeps memory buffered
      have back : replay sb ((framesIn trace).drop c) mid = .ok whole := by
        rw [← replay_append sb _ _ ∅ mid front, List.take_append_drop]
        exact replayed
      obtain ⟨index, done, same'⟩ := replay_same sb _ mid base whole (fun key => (same key).symm) back
      exact ⟨index, ⟨base, loaded, done⟩, fun key => (same' key).symm.trans (live key)⟩

theorem gives_buffered (sb : SuperBlock) (trace : List LogEvent) (s : Logging) (inv : Accelerated sb trace s) (c : Nat) (start : Start)
    (of : Start.Of trace c start) (index : MetaIndex) (gives : start.Gives sb (framesIn trace) c index) : start.Buffered := by
  cases of with
  | empty => exact trivial
  | load _ taken t opts env event keeps memory =>
      obtain ⟨_, mid, _, _, contains⟩ := inv.taken c taken event
      obtain ⟨base, loaded, _⟩ := gives
      by_contra unbuffered
      have endless := contained_endless sb taken t opts env c mid contains keeps memory unbuffered
      have done : (t.load opts env (applyRecoveredEntry sb) ∅).1 = Err.kSuccess := congrArg Prod.fst loaded
      rw [endless] at done
      exact absurd done (by decide)

theorem snapshot_only_accelerates (sb : SuperBlock) (r : Reactor) (operated : Operated sb r) :
    (∃ trace, (logMachine sb).Run trace ⟨.rest, r⟩ ∧ NoGhost trace) ∧
      ∀ trace, (logMachine sb).Run trace ⟨.rest, r⟩ → NoGhost trace → OnlyAccelerates sb trace r := by
  obtain ⟨traced, owns, small⟩ := operated_trace sb r operated
  refine ⟨traced, fun trace run quiet => ?_⟩
  have inv := accelerated_run sb trace _ run quiet
  have nodup := owned_nodup sb r owns (by omega)
  have last : (framesIn trace).length = r.dc.wal.lastSeq := by
    rw [Wal.lastSeq, inv.seq]
    rfl
  have free (index : MetaIndex) (same : index.Same r.dc.metaIndex) : index.blocks.Nodup := (same_blocks _ _ same).nodup_iff.mpr nodup
  refine ⟨last, inv.numbered, ?_, ?_, ?_⟩
  · intro covered taken event
    obtain ⟨behind, index, replayed, _, contains⟩ := inv.taken covered taken event
    exact ⟨by omega, index, replayed, contains⟩
  · intro c₁ c₂ a b _ first second
    constructor
    · rintro ⟨index₁, index₂, agree⟩
      exact ⟨gives_buffered sb trace _ inv c₁ a first index₁ agree.first, gives_buffered sb trace _ inv c₂ b second index₂ agree.second⟩
    · rintro ⟨bufferedA, bufferedB⟩
      obtain ⟨index₁, gives₁, same₁⟩ := start_gives sb trace r inv c₁ a first bufferedA
      obtain ⟨index₂, gives₂, same₂⟩ := start_gives sb trace r inv c₂ b second bufferedB
      exact ⟨index₁, index₂, gives₁, gives₂, fun key => (same₁ key).trans (same₂ key).symm, same₁, free _ same₁, free _ same₂⟩
  · obtain ⟨index, done, same⟩ := inv.empty
    exact ⟨index, done, same, free index same⟩

-- A history on the plain group, as far as it has come.
structure PlainHistory (ops : Nat) (index : MetaIndex) (trace : List LogEvent) (r : Reactor) : Prop where
  operated : Operated blankSuperBlock r
  run : (logMachine blankSuperBlock).Run trace ⟨.rest, r⟩
  quiet : NoGhost trace
  ready : Faultless blankSuperBlock ops r
  index : r.dc.metaIndex = index

theorem plain_created : ∃ r, PlainHistory 0 ∅ [] r ∧ r.dc.wal.lastSeq = 0 := by
  obtain ⟨dc, opened, empty, ready⟩ := blank_group_serves
  have buffered : (plainOptions true 1).SnapshotBuffered := by
    unfold Options.SnapshotBuffered
    decide
  have begun := Machine.Run.begin (m := logMachine blankSuperBlock) ⟨.rest, ⟨plainOptions true 1, dc⟩⟩
    ⟨rfl, rfl, buffered, plainOpenEnv, blankGroup, (by decide : 8192 + 4096 * 512 < 2 ^ 64), opened⟩
  refine ⟨⟨plainOptions true 1, dc⟩, ⟨.created plainOpenEnv blankGroup _ rfl buffered (by decide) opened, begun, (fun _ member => nomatch member),
    ready, empty⟩, ?_⟩
  rw [Wal.lastSeq, (accelerated_run _ _ _ begun fun _ member => nomatch member).seq]
  rfl

-- One more operation that writes a frame.
theorem plain_history_step (ops : Nat) (index next : MetaIndex) (trace : List LogEvent) (r : Reactor) (req : Request)
    (history : PlainHistory ops index trace r) (admitted : req.Admitted) (code : (r.execute plainOpEnv req).1 = .code Err.kSuccess)
    (seq : (r.execute plainOpEnv req).2.dc.wal.seqNext = r.dc.wal.seqNext + 1) (changed : (r.execute plainOpEnv req).2.dc.metaIndex = next)
    (ready : Faultless blankSuperBlock (ops + 1) (r.execute plainOpEnv req).2) :
    ∃ events after, PlainHistory (ops + 1) next (trace ++ events) after ∧ after.dc.wal.lastSeq = r.dc.wal.lastSeq + 1 := by
  have clean : (r.execute plainOpEnv req).1.rc = Err.kSuccess := by rw [code]; rfl
  have small := history.ready.alive.small
  have numbered := (accelerated_run _ _ _ history.run history.quiet).seq
  obtain ⟨events, run, quiet⟩ := operation_trace blankSuperBlock r plainOpEnv req trace history.ready.alive.sound.owns small history.run
    history.quiet admitted (.inl clean)
  refine ⟨events, _, ⟨.operation r plainOpEnv req history.operated admitted (.inl clean), run, quiet, ready, changed⟩, ?_⟩
  simp only at numbered
  rw [Wal.lastSeq, seq, Wal.lastSeq, numbered]
  rfl

theorem plain_history_put (ops : Nat) (index : MetaIndex) (trace : List LogEvent) (r : Reactor) (key : UInt8) (few : ops ≤ 31)
    (history : PlainHistory ops index trace r) (free : index.blocks.length < blankSuperBlock.blockCount) : ∃ meta_ events after,
      PlainHistory (ops + 1) (index.insert [key] meta_) (trace ++ events) after ∧ after.dc.wal.lastSeq = r.dc.wal.lastSeq + 1 := by
  obtain ⟨meta_, code, seq, changed, ready⟩ := plain_put ops r index history.ready few history.index key free
  exact ⟨meta_, plain_history_step ops index _ trace r _ history (zero_put_admitted key) code seq changed ready⟩

theorem plain_history_snapshot (ops : Nat) (index : MetaIndex) (trace : List LogEvent) (r : Reactor) (few : ops ≤ 31)
    (history : PlainHistory ops index trace r) : ∃ events after, PlainHistory (ops + 1) index (trace ++ events) after ∧
      .snapshot r.dc.wal.lastSeq after.dc.snapshot ∈ events ∧ after.dc.wal.lastSeq = r.dc.wal.lastSeq ∧
      after.dc.snapshot.activeEntryCount = index.blocks.length := by
  obtain ⟨code, seq, count, same, ready⟩ := plain_snapshot ops r index history.ready few history.index
  obtain ⟨events, run, only, event⟩ := do_snapshot_logs blankSuperBlock r plainOpEnv.auto
  have done : (r.doSnapshot plainOpEnv.auto).1 = Err.kSuccess := congrArg Reply.rc code
  have clean : (r.execute plainOpEnv .snapshot).1.rc = Err.kSuccess := by rw [code]; rfl
  exact ⟨events, (r.execute plainOpEnv .snapshot).2, ⟨.operation r plainOpEnv .snapshot history.operated trivial (.inl clean),
    log_run_extends _ trace events _ _ history.run run, no_ghost_append _ _ history.quiet (snapshots_no_ghost _ only), ready, same⟩,
    event done, by rw [Wal.lastSeq, seq]; rfl, count⟩

-- A Put and a snapshot, a Put, a Delete and another snapshot.
theorem snapshot_only_accelerates_twice : ∃ r trace first second, Operated blankSuperBlock r ∧
    (logMachine blankSuperBlock).Run trace ⟨.rest, r⟩ ∧ NoGhost trace ∧ .snapshot 1 first ∈ trace ∧ .snapshot 3 second ∈ trace ∧
    first.activeEntryCount = 1 ∧ second.activeEntryCount = 1 ∧ OnlyAccelerates blankSuperBlock trace r := by
  obtain ⟨r0, history0, last0⟩ := plain_created
  obtain ⟨m1, events1, r1, history1, last1⟩ := plain_history_put 0 ∅ [] r0 1 (by decide) history0 (by decide)
  obtain ⟨events2, r2, history2, event2, last2, count2⟩ := plain_history_snapshot 1 _ _ r1 (by decide) history1
  obtain ⟨m3, events3, r3, history3, last3⟩ := plain_history_put 2 _ _ r2 2 (by decide) history2 (by decide : 1 < 2)
  obtain ⟨code4, seq4, index4, ready4⟩ := plain_delete 3 r3 _ history3.ready (by decide) history3.index 1 m1 rfl
  obtain ⟨events4, r4, history4, last4⟩ := plain_history_step 3 _ _ _ r3 (.delete [1]) history3 (Nat.le_refl 1) code4 seq4 index4 ready4
  obtain ⟨events5, r5, history5, event5, _, count5⟩ := plain_history_snapshot 4 _ _ r4 (by decide) history4
  rw [show r1.dc.wal.lastSeq = 1 by omega] at event2
  rw [show r4.dc.wal.lastSeq = 3 by omega] at event5
  exact ⟨r5, _, _, _, history5.operated, history5.run, history5.quiet,
    List.mem_append_left _ (List.mem_append_left _ (List.mem_append_left _ (List.mem_append_right _ event2))), List.mem_append_right _ event5,
    count2, count5, (snapshot_only_accelerates blankSuperBlock r5 history5.operated).2 _ history5.run history5.quiet⟩

theorem alive_keeps (sb : SuperBlock) (count : Nat) (r : Reactor) (alive : Alive sb count r) : r.dc.snapshot.Keeps r.dc.snapshot := by
  obtain ⟨_, _, _, _, _, lasting⟩ := alive.lasts
  have healthy := lasting.rests.ready.healthy
  exact ⟨rfl, rfl, fun _ _ => rfl, rfl, lasting.rests.word, healthy.opened, healthy.readable, fun _ _ _ _ _ => rfl⟩

theorem holds_count (s : Snapshot) (sb : SuperBlock) (coveredSeq : Nat) (entries : List IndexEntry)
    (holds : SnapshotHolds s sb coveredSeq entries) : s.activeEntryCount = entries.length := by
  cases holds with
  | never _ _ _ count _ => exact count
  | held _ _ _ _ _ _ _ _ _ _ _ count _ _ => exact count

-- The next process does not get past a snapshot that is not empty.
theorem rested_reopen_endless (sb : SuperBlock) (s : Snapshot) (coveredSeq : Nat) (entries : List IndexEntry) (writes : Nat) (opts : Options)
    (env : SnapshotEnv) (rests : SnapshotRests sb s coveredSeq entries writes) (mode : opts.create = false)
    (empty : roundUpBufferSize opts.snapshotBufferSize kSnapshotBlockSize = 0) (alloc : ∀ n, env.alloc n = true)
    (some_ : s.activeEntryCount ≠ 0) :
    ((Snapshot.unopened (s.dev.reboot s.dev.medium.cur)).openSnapshot opts env sb).1 = Err.kNeverReturns := by
  have ready := rests.ready
  have size : s.slotSize = snapshotSlotSize (s.dev.reboot s.dev.medium.cur).sizeBytes := ready.size
  have capacity := ready.capacity
  rw [size] at capacity
  rw [open_wide opts env sb _ rfl capacity, ← size]
  refine snapshot_reopen_endless s _ opts env _ coveredSeq entries (ready_wide s sb ready) rests.holds ⟨rfl, rfl, rfl, rfl, ready.healthy.readable⟩
    mode empty alloc ?_
  rintro rfl
  exact some_ (holds_count s _ _ _ rests.holds)

-- The size 2^64 - 1 is rounded up to no block. A process that has it neither
-- opens nor loads the snapshot of one Put.
theorem wrapped_buffer_loads_never : ∃ r trace taken opts, Operated blankSuperBlock r ∧
    (logMachine blankSuperBlock).Run trace ⟨.rest, r⟩ ∧ NoGhost trace ∧ .snapshot 1 taken ∈ trace ∧ taken.Keeps taken ∧
    opts.snapshotBufferSize = 2 ^ 64 - 1 ∧
    ((Snapshot.unopened (taken.dev.reboot taken.dev.medium.cur)).openSnapshot opts ⟨fun _ => true, 0⟩ blankSuperBlock).1 = Err.kNeverReturns ∧
    (taken.load opts ⟨fun _ => true, 0⟩ (applyRecoveredEntry blankSuperBlock) ∅).1 = Err.kNeverReturns := by
  obtain ⟨r0, history0, last0⟩ := plain_created
  obtain ⟨m1, events1, r1, history1, last1⟩ := plain_history_put 0 ∅ [] r0 1 (by decide) history0 (by decide)
  obtain ⟨events2, r2, history2, event2, _, count2⟩ := plain_history_snapshot 1 _ _ r1 (by decide) history1
  rw [show r1.dc.wal.lastSeq = 1 by omega] at event2
  have event := List.mem_append_right ([] ++ events1) event2
  obtain ⟨_, index, _, _, contains⟩ := (accelerated_run _ _ _ history2.run history2.quiet).taken 1 r2.dc.snapshot event
  have keeps := alive_keeps _ _ r2 history2.ready.alive
  have count : r2.dc.snapshot.activeEntryCount = 1 := count2
  refine ⟨r2, _, r2.dc.snapshot, { plainOptions false 1 with snapshotBufferSize := 2 ^ 64 - 1 }, history2.operated, history2.run, history2.quiet,
    event, keeps, rfl, ?_, ?_⟩
  · obtain ⟨_, _, _, _, _, lasting⟩ := history2.ready.alive.lasts
    exact rested_reopen_endless _ r2.dc.snapshot _ _ _ _ _ lasting.rests rfl (by decide) (fun _ => rfl) (by rw [count]; decide)
  · refine contained_endless _ r2.dc.snapshot r2.dc.snapshot _ _ 1 index contains keeps rfl ?_
    unfold Snapshot.LoadsWith
    rw [count]
    decide

end Cabe
