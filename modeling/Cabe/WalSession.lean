import Cabe.WalCrash

set_option autoImplicit false

namespace Cabe

open Storage

-- One life of a log as its single writer drives it. Beside the log this keeps
-- what the writer knows: the entries by sequence number, the last number it was
-- promised, the boundaries captured after a flush with their numbers, and the
-- number that has been made durable elsewhere.
structure Session where
  wal : Wal
  level : WalLevel
  entries : List WalEntry
  acked : Nat
  captured : List (Nat × Nat)
  covered : Nat
  reclaimed : Nat

inductive SessionOp where
  | write (e : WalEntry)
  | flush
  | setLevel (level : WalLevel)
  | cover (pair : Nat)
  | reclaim (pair : Nat)

def Session.start (w : Wal) (level : WalLevel) : Session where
  wal := w
  level := level
  entries := []
  acked := 0
  captured := []
  covered := 0
  reclaimed := 0

def Session.writeEntry (s : Session) (e : WalEntry) : Rc × Session :=
  match s.wal.writeWal s.level e with
  | (rc, w) =>
    (rc, { s with
      wal := w
      entries := if w.seqNext = s.wal.seqNext then s.entries else s.entries ++ [e]
      acked := if rc = Err.kSuccess ∧ isWalSyncLevel s.level = true then w.lastSeq else s.acked })

def Session.flushAll (s : Session) : Rc × Session :=
  match s.wal.flush s.level with
  | (rc, w) =>
    if rc = Err.kSuccess then
      (rc, { s with wal := w, acked := w.lastSeq, captured := s.captured ++ [(w.lastSeq, w.reclaimBoundary)] })
    else (rc, { s with wal := w })

-- Tightening from a batched to a synchronous level flushes first.
def Session.changeLevel (s : Session) (level : WalLevel) : Rc × Session :=
  if isWalSyncLevel s.level = false ∧ isWalSyncLevel level = true then
    match s.wal.flush s.level with
    | (rc, w) =>
      if rc = Err.kSuccess then (rc, { s with wal := w, level := level, acked := w.lastSeq }) else (rc, { s with wal := w })
  else (Err.kSuccess, { s with level := level })

def Session.coverPair (s : Session) (pair : Nat) : Rc × Session :=
  match s.captured[pair]? with
  | some (covered, _) => if s.covered ≤ covered then (Err.kSuccess, { s with covered := covered }) else (Err.kSuccess, s)
  | none => (Err.kSuccess, s)

-- A boundary is given back only once its number is durable, and never an older
-- one than before.
def Session.reclaimPair (s : Session) (pair : Nat) : Rc × Session :=
  match s.captured[pair]? with
  | some (covered, boundary) =>
      if s.reclaimed ≤ covered then
        match s.wal.reclaimUpTo boundary with
        | (rc, w) => (rc, { s with wal := w, covered := max s.covered covered, reclaimed := covered })
      else (Err.kSuccess, s)
  | none => (Err.kSuccess, s)

def Session.step (s : Session) : SessionOp → Rc × Session
  | .write e => s.writeEntry e
  | .flush => s.flushAll
  | .setLevel level => s.changeLevel level
  | .cover pair => s.coverPair pair
  | .reclaim pair => s.reclaimPair pair

def Session.run (s : Session) (ops : List SessionOp) : Session := ops.foldl (fun s op => (s.step op).2) s

-- How a life ends, with the entries that had a number by then, the medium it
-- leaves and the last number that was promised: power is lost at rest, inside the
-- next operation or inside the closing flush, or the log has been closed.
inductive Session.Ends (s : Session) : List WalEntry → Medium → Nat → Prop where
  | atRest : s.Ends s.entries s.wal.dev.medium s.acked
  | inside (op : SessionOp) (m : Medium) (during : m ∈ (s.step op).2.wal.dev.trace.drop s.wal.dev.trace.length) :
      s.Ends (s.step op).2.entries m s.acked
  | closing (m : Medium) (during : m ∈ (s.wal.close s.level).2.dev.trace.drop s.wal.dev.trace.length) : s.Ends s.entries m s.acked
  | closed (done : (s.wal.close s.level).1 = Err.kSuccess) : s.Ends s.entries (s.wal.close s.level).2.dev.medium s.wal.lastSeq

-- A captured pair names the block its number ends in, and giving it back leaves
-- every later frame alone.
structure PairOk (g : Ring) (v : WalView) (reclaimed : Nat) (pair : Nat × Nat) : Prop where
  synced : pair.1 ≤ v.synced
  boundary : pair.2 = g.blockOff (pair.1 / 32)
  behind : pair.1 / 32 ≤ v.cur
  ahead : reclaimed ≤ pair.1 → v.head ≤ pair.1 / 32 ∧ v.lo ≤ 32 * (pair.1 / 32) ∧ (pair.1 = 0 ∨ v.lo < pair.1)

-- Recovery from this number finds its frames, or those of an erased stretch
-- that it must refuse.
def BaseOk (v : WalView) (covered : Nat) : Prop :=
  (v.lo ≤ 32 * (covered / 32) ∧ (covered = 0 ∨ v.lo < covered ∨ covered < v.synced)) ∨ (v.gone ≤ covered ∧ covered < v.lo ∧ v.lo < v.synced)

structure SessionInv (g : Ring) (bufBlocks : Nat) (v : WalView) (s : Session) : Prop where
  quiet : Quiet g bufBlocks s.level v s.wal
  entries : v.entries = s.entries
  acked : s.acked ≤ v.synced
  covered : s.covered ≤ v.synced
  head : v.head = s.reclaimed / 32
  reclaimed : s.reclaimed ≤ s.covered
  pairs : ∀ pair ∈ s.captured, PairOk g v s.reclaimed pair
  base : BaseOk v s.covered

-- What a crash of the session finds, wherever it happens.
structure CrashOk (g : Ring) (bufBlocks : Nat) (s : Session) (h : History) (synced written : Nat) (m : Medium) : Prop where
  medium : MediumOk g h synced written m
  torn : TornAt g bufBlocks synced written
  acked : s.acked ≤ synced
  covered : s.covered ≤ synced
  ordered : synced ≤ written
  listed : written ≤ h.entries.length
  near : written + 32 ≤ 32 * (s.covered / 32) + g.slots
  base : (h.lo ≤ 32 * (s.covered / 32) ∧ (s.covered = 0 ∨ h.lo < s.covered ∨ s.covered < synced)) ∨
    (h.gone ≤ s.covered ∧ s.covered < h.lo ∧ h.lo < synced)
  short : ∀ e ∈ h.entries, e.key.length ≤ kWalKeyMax

theorem session_head (g : Ring) (bufBlocks : Nat) (v : WalView) (s : Session) (inv : SessionInv g bufBlocks v s) :
    v.head ≤ s.covered / 32 := by
  rw [inv.head]
  exact Nat.div_le_div_right inv.reclaimed

theorem crash_at_rest (g : Ring) (bufBlocks : Nat) (v : WalView) (s : Session) (inv : SessionInv g bufBlocks v s) :
    CrashOk g bufBlocks s v.toHistory v.synced v.synced s.wal.dev.medium := by
  have bound := wal_synced_bound g bufBlocks v s.wal inv.quiet.inv
  have room := wal_written_room g bufBlocks v s.wal inv.quiet.inv
  have head := session_head g bufBlocks v s inv
  have ok := inv.quiet.inv.medium
  have durable := ok.durable
  rw [show s.wal.dev.medium.stable = s.wal.dev.medium.cur by rw [Medium.stable, inv.quiet.clean]; rfl] at durable
  exact ⟨medium_ok_still g _ _ _ inv.quiet.clean durable, torn_synced g bufBlocks v.synced inv.quiet.inv.bufPos,
    inv.acked, inv.covered, Nat.le_refl _, bound,
    by omega, inv.base, inv.quiet.inv.shortKeys⟩

-- No recovery has erased anything that the live region still counts on.
def WalView.Intact (v : WalView) : Prop := v.lo ≤ 32 * v.head

-- What a step of the session must leave behind.
structure SessionStep (g : Ring) (bufBlocks : Nat) (v : WalView) (s : Session) (next : WalView) (after : Session) : Prop where
  inv : SessionInv g bufBlocks next after
  prior : next.prior = v.prior
  intact : v.Intact → next.Intact
  grown : ∃ more, after.entries = s.entries ++ more
  synced : v.synced ≤ next.synced
  acked : s.acked ≤ after.acked
  crash : Traced s.wal.dev after.wal.dev fun m => ∃ synced written, v.synced ≤ synced ∧ next.lo = v.lo ∧
    CrashOk g bufBlocks s next.toHistory synced written m
  laid : ∀ base, Laid g v.entries base v.visible s.wal.dev.medium.cur → Laid g next.entries base next.visible after.wal.dev.medium.cur

-- What a write leaves alone beside the log.
structure Session.Kept (s after : Session) : Prop where
  captured : after.captured = s.captured
  covered : after.covered = s.covered
  reclaimed : after.reclaimed = s.reclaimed
  level : after.level = s.level

theorem quiet_step_crash (g : Ring) (bufBlocks : Nat) (v next : WalView) (s : Session) (w : Wal) (more : List WalEntry)
    (inv : SessionInv g bufBlocks v s) (step : QuietStep g bufBlocks s.level v s.wal more next w) :
    Traced s.wal.dev w.dev fun m => ∃ synced written, v.synced ≤ synced ∧ next.lo = v.lo ∧
      CrashOk g bufBlocks s next.toHistory synced written m := by
  refine traced_mono _ _ _ _ (fun m torn => ?_) step.traced
  obtain ⟨synced, written, lower, upper, ordered, listed, room, ok, window⟩ := torn
  have head := session_head g bufBlocks v s inv
  have acked := inv.acked
  have covered := inv.covered
  have base := inv.base
  have sameHead := step.grown.head
  refine ⟨synced, written, lower, step.grown.lo, ok, window, by omega, by omega, ordered, listed, by omega, ?_, step.quiet.inv.shortKeys⟩
  rw [step.grown.lo, step.grown.gone]
  rcases base with ⟨low, anchor⟩ | ⟨gone, erased, beyond⟩
  · exact .inl ⟨low, by omega⟩
  · exact .inr ⟨gone, erased, by omega⟩

theorem quiet_step_session (g : Ring) (bufBlocks : Nat) (v next : WalView) (s : Session) (w : Wal) (more : List WalEntry)
    (level : WalLevel) (acked : Nat) (captured : List (Nat × Nat))
    (inv : SessionInv g bufBlocks v s) (step : QuietStep g bufBlocks s.level v s.wal more next w)
    (quiet : Quiet g bufBlocks level next w) (promise : s.acked ≤ acked) (kept : acked ≤ next.synced)
    (pairs : ∀ pair ∈ captured, pair ∈ s.captured ∨ PairOk g next s.reclaimed pair) :
    SessionStep g bufBlocks v s next
      { s with wal := w, level := level, entries := s.entries ++ more, acked := acked, captured := captured } := by
  have covered := inv.covered
  have synced := step.grown.synced
  have base := inv.base
  refine ⟨⟨quiet, by rw [step.grown.entries, inv.entries], kept, Nat.le_trans covered synced, by rw [step.grown.head]; exact inv.head, inv.reclaimed,
    fun pair member => ?_, ?_⟩, step.grown.prior, ?_, ⟨more, rfl⟩, synced, promise, quiet_step_crash g bufBlocks v next s w more inv step,
    step.laid⟩
  · rcases pairs pair member with old | new
    · obtain ⟨below, boundary, behind, ahead⟩ := inv.pairs pair old
      refine ⟨by omega, boundary, Nat.le_trans behind step.grown.cur, ?_⟩
      rw [step.grown.head, step.grown.lo]
      exact ahead
    · exact new
  · rcases base with ⟨low, anchor⟩ | ⟨gone, erased, beyond⟩
    · left
      rw [step.grown.lo]
      exact ⟨low, by omega⟩
    · right
      rw [step.grown.lo, step.grown.gone]
      exact ⟨gone, erased, by omega⟩
  · unfold WalView.Intact
    rw [step.grown.lo, step.grown.head]
    exact id

theorem last_seq_length (g : Ring) (bufBlocks : Nat) (v : WalView) (w : Wal) (inv : WalInv g bufBlocks v w) :
    w.lastSeq = v.entries.length := by
  rw [Wal.lastSeq, inv.seqNext, Nat.add_sub_cancel]

theorem session_still (g : Ring) (bufBlocks : Nat) (v : WalView) (s : Session) (level : WalLevel) (inv : SessionInv g bufBlocks v s)
    (quiet : Quiet g bufBlocks level v s.wal) : SessionStep g bufBlocks v s v { s with level := level } := by
  have step := quiet_step_session g bufBlocks v v s s.wal [] level s.acked s.captured inv
    (quiet_step_refl g bufBlocks s.level v s.wal inv.quiet) quiet (Nat.le_refl _) inv.acked (fun pair member => .inl member)
  rw [List.append_nil] at step
  exact step

-- A write is refused exactly when its frame would need the block kept free
-- before the head.
theorem write_view (g : Ring) (bufBlocks : Nat) (v : WalView) (s : Session) (e : WalEntry) (inv : SessionInv g bufBlocks v s)
    (short : e.key.length ≤ kWalKeyMax) :
    ∃ next more, SessionStep g bufBlocks v s next (s.writeEntry e).2 ∧ v.Grows next more ∧ s.Kept (s.writeEntry e).2 ∧
      (((s.writeEntry e).1 = Err.kSuccess ∧ more = [e]) ∨
        ((s.writeEntry e).1 = Err.kWalFull ∧ more = [] ∧ v.entries.length = 32 * (v.head + g.blocks - 1))) := by
  obtain ⟨rc, next, after, more, done, step, outcome⟩ := write_quiet g bufBlocks s.level v s.wal e inv.quiet short
  have entries : (if after.seqNext = s.wal.seqNext then s.entries else s.entries ++ [e]) = s.entries ++ more := by
    rw [step.quiet.inv.seqNext, inv.quiet.inv.seqNext, step.grown.entries]
    rcases outcome with ⟨_, rfl⟩ | ⟨_, rfl, _⟩
    · rw [if_neg (by simp)]
    · rw [if_pos (by simp), List.append_nil]
  have promise : s.acked ≤ (if rc = Err.kSuccess ∧ isWalSyncLevel s.level = true then after.lastSeq else s.acked) ∧
      (if rc = Err.kSuccess ∧ isWalSyncLevel s.level = true then after.lastSeq else s.acked) ≤ next.synced := by
    have before := inv.acked
    have synced := step.grown.synced
    split
    · rename_i both
      have all := (step.quiet.owed both.2).1
      rw [last_seq_length g bufBlocks next after step.quiet.inv]
      omega
    · omega
  have kept := quiet_step_session g bufBlocks v next s after more s.level _ s.captured inv step step.quiet promise.1 promise.2
    (fun pair member => .inl member)
  refine ⟨next, more, ?_⟩
  simp only [Session.writeEntry, done, entries]
  exact ⟨kept, step.grown, ⟨rfl, rfl, rfl, rfl⟩, outcome⟩

theorem write_long (s : Session) (e : WalEntry) (long : ¬ e.key.length ≤ kWalKeyMax) : s.writeEntry e = (Err.kWalKeyTooLong, s) := by
  have same : s.wal.writeWal s.level e = (Err.kWalKeyTooLong, s.wal) := by
    unfold Wal.writeWal
    rw [if_pos (by omega)]
  have failed : ¬ (Err.kWalKeyTooLong = Err.kSuccess ∧ isWalSyncLevel s.level = true) := fun both => absurd both.1 (by decide)
  simp only [Session.writeEntry, same, if_true, if_neg failed]

theorem write_session (g : Ring) (bufBlocks : Nat) (v : WalView) (s : Session) (e : WalEntry)
    (inv : SessionInv g bufBlocks v s) : ∃ next, SessionStep g bufBlocks v s next (s.writeEntry e).2 := by
  by_cases short : e.key.length ≤ kWalKeyMax
  · obtain ⟨next, _, step, _⟩ := write_view g bufBlocks v s e inv short
    exact ⟨next, step⟩
  · rw [write_long s e short]
    exact ⟨v, session_still g bufBlocks v s s.level inv inv.quiet⟩

-- A flush leaves everything synced, and the pair captured after it.
theorem flush_pair (g : Ring) (bufBlocks : Nat) (v next : WalView) (s : Session) (w : Wal)
    (step : QuietStep g bufBlocks s.level v s.wal [] next w) (all : next.synced = next.entries.length) (few : w.nFrames < 32)
    (inside : s.covered ≤ v.synced) (base : BaseOk v s.covered) :
    PairOk g next s.reclaimed (w.lastSeq, w.reclaimBoundary) := by
  have last := last_seq_length g bufBlocks next w step.quiet.inv
  have count := step.quiet.inv.count
  have ordered := step.quiet.inv.headCur
  have loCur := step.quiet.inv.loCur
  have synced := step.grown.synced
  have block : next.entries.length / 32 = next.cur := by omega
  have lo := step.grown.lo
  refine ⟨by rw [last, all], by rw [last, block]; exact step.quiet.inv.curOff, by rw [last, block], fun late => ?_⟩
  simp only [last, block]
  refine ⟨ordered, loCur, ?_⟩
  rcases base with ⟨low, anchor⟩ | ⟨_, _, beyond⟩ <;> omega

theorem flush_session (g : Ring) (bufBlocks : Nat) (v : WalView) (s : Session) (inv : SessionInv g bufBlocks v s) :
    ∃ next after, s.wal.flush s.level = (Err.kSuccess, after) ∧ QuietStep g bufBlocks s.level v s.wal [] next after ∧
      next.synced = next.entries.length ∧ (∀ level, Quiet g bufBlocks level next after) ∧
      PairOk g next s.reclaimed (after.lastSeq, after.reclaimBoundary) := by
  obtain ⟨next, after, done, step, all, few, _⟩ := flush_quiet g bufBlocks s.level v s.wal inv.quiet
  have pair := flush_pair g bufBlocks v next s after step all few inv.covered inv.base
  exact ⟨next, after, done, step, all, fun level => { step.quiet with owed := fun _ => ⟨all, few⟩ }, pair⟩

theorem flush_all_view (g : Ring) (bufBlocks : Nat) (v : WalView) (s : Session) (inv : SessionInv g bufBlocks v s) :
    ∃ next, SessionStep g bufBlocks v s next s.flushAll.2 ∧ v.Grows next [] ∧ next.synced = next.entries.length ∧
      s.flushAll.2.wal.nFrames < 32 ∧ s.flushAll.2.captured = s.captured ++ [(v.entries.length, g.blockOff (v.entries.length / 32))] ∧
      s.flushAll.2.covered = s.covered ∧ s.flushAll.2.reclaimed = s.reclaimed ∧ s.flushAll.2.level = s.level ∧
      s.flushAll.1 = Err.kSuccess := by
  obtain ⟨next, after, done, step, all, quiet, pair⟩ := flush_session g bufBlocks v s inv
  have last := last_seq_length g bufBlocks next after step.quiet.inv
  have before := inv.acked
  have synced := step.grown.synced
  have boundary := pair.boundary
  have kept := quiet_step_session g bufBlocks v next s after [] s.level after.lastSeq
    (s.captured ++ [(after.lastSeq, after.reclaimBoundary)]) inv step (quiet s.level) (by omega) (by omega)
    (fun p member => by
      rcases List.mem_append.mp member with old | new
      · exact .inl old
      · exact .inr ((List.mem_singleton.mp new) ▸ pair))
  rw [List.append_nil] at kept
  have entries : next.entries.length = v.entries.length := by rw [step.grown.entries, List.append_nil]
  simp only [last, entries] at boundary
  refine ⟨next, ?_⟩
  simp only [Session.flushAll, done, if_true]
  exact ⟨kept, step.grown, all, ((quiet .strict).owed rfl).2, by rw [boundary, last, entries], trivial, trivial, trivial, trivial⟩

theorem flush_all_session (g : Ring) (bufBlocks : Nat) (v : WalView) (s : Session) (inv : SessionInv g bufBlocks v s) :
    ∃ next, SessionStep g bufBlocks v s next s.flushAll.2 := by
  obtain ⟨next, step, _⟩ := flush_all_view g bufBlocks v s inv
  exact ⟨next, step⟩

-- A level that tightens writes out what is owed first.
theorem change_level_view (g : Ring) (bufBlocks : Nat) (v : WalView) (s : Session) (level : WalLevel)
    (inv : SessionInv g bufBlocks v s) : ∃ next, SessionStep g bufBlocks v s next (s.changeLevel level).2 ∧ v.Grows next [] ∧
      s.changeLevel level = (Err.kSuccess, (s.changeLevel level).2) ∧ (s.changeLevel level).2.level = level ∧
      (s.changeLevel level).2.captured = s.captured ∧ (s.changeLevel level).2.covered = s.covered ∧
      (s.changeLevel level).2.reclaimed = s.reclaimed ∧
      ((next = v ∧ (s.changeLevel level).2.wal = s.wal) ∨
        (next.synced = next.entries.length ∧ (s.changeLevel level).2.wal.nFrames < 32)) := by
  by_cases tighten : isWalSyncLevel s.level = false ∧ isWalSyncLevel level = true
  · obtain ⟨next, after, done, step, all, quiet, _⟩ := flush_session g bufBlocks v s inv
    have last := last_seq_length g bufBlocks next after step.quiet.inv
    have before := inv.acked
    have synced := step.grown.synced
    have kept := quiet_step_session g bufBlocks v next s after [] level after.lastSeq s.captured inv step (quiet level)
      (by omega) (by omega) (fun p member => .inl member)
    rw [List.append_nil] at kept
    refine ⟨next, ?_⟩
    simp only [Session.changeLevel, if_pos tighten, done, if_true]
    exact ⟨kept, step.grown, trivial, trivial, trivial, trivial, trivial, .inr ⟨all, ((quiet .strict).owed rfl).2⟩⟩
  · -- A level that does not tighten never owes more than the one before.
    have quiet : Quiet g bufBlocks level v s.wal := { inv.quiet with
      owed := fun sync => inv.quiet.owed (by
        cases old : isWalSyncLevel s.level with
        | true => rfl
        | false => exact absurd ⟨old, sync⟩ tighten) }
    refine ⟨v, ?_⟩
    simp only [Session.changeLevel, if_neg tighten]
    exact ⟨session_still g bufBlocks v s level inv quiet, grows_refl v, trivial, trivial, trivial, trivial, trivial, .inl ⟨trivial, trivial⟩⟩

theorem change_level_session (g : Ring) (bufBlocks : Nat) (v : WalView) (s : Session) (level : WalLevel)
    (inv : SessionInv g bufBlocks v s) : ∃ next, SessionStep g bufBlocks v s next (s.changeLevel level).2 := by
  obtain ⟨next, step, _⟩ := change_level_view g bufBlocks v s level inv
  exact ⟨next, step⟩

theorem pair_base (g : Ring) (v : WalView) (reclaimed : Nat) (pair : Nat × Nat) (ok : PairOk g v reclaimed pair)
    (late : reclaimed ≤ pair.1) : BaseOk v pair.1 := by
  obtain ⟨_, low, anchor⟩ := ok.ahead late
  exact .inl ⟨low, by omega⟩

theorem cover_session (g : Ring) (bufBlocks : Nat) (v : WalView) (s : Session) (pair : Nat)
    (inv : SessionInv g bufBlocks v s) : SessionStep g bufBlocks v s v (s.coverPair pair).2 := by
  have still := session_still g bufBlocks v s s.level inv inv.quiet
  unfold Session.coverPair
  cases found : s.captured[pair]? with
  | none => exact still
  | some p =>
      obtain ⟨covered, boundary⟩ := p
      by_cases late : s.covered ≤ covered
      · have ok := inv.pairs _ (List.mem_of_getElem? found)
        have reclaimed := inv.reclaimed
        simp only [if_pos late]
        refine ⟨⟨inv.quiet, inv.entries, inv.acked, ok.synced, inv.head, Nat.le_trans reclaimed late, fun q member => ?_,
          pair_base g v s.reclaimed _ ok (Nat.le_trans reclaimed late)⟩, rfl, id, ⟨[], (List.append_nil _).symm⟩, Nat.le_refl _,
          Nat.le_refl _, traced_refl _ _, fun _ laid => laid⟩
        exact inv.pairs q member
      · simp only [if_neg late]
        exact still

-- Giving back a captured boundary that is not older than the last one.
theorem reclaim_view (g : Ring) (bufBlocks : Nat) (v : WalView) (s : Session) (pair covered boundary : Nat)
    (inv : SessionInv g bufBlocks v s) (found : s.captured[pair]? = some (covered, boundary)) (late : s.reclaimed ≤ covered) :
    SessionStep g bufBlocks v s (v.reclaimed (covered / 32)) (s.reclaimPair pair).2 ∧
      (s.reclaimPair pair).2.covered = max s.covered covered ∧ (s.reclaimPair pair).2.captured = s.captured ∧
      (s.reclaimPair pair).2.level = s.level ∧ (s.reclaimPair pair).2.reclaimed = covered ∧ (s.reclaimPair pair).1 = Err.kSuccess := by
  obtain ⟨synced, boundaryOff, behind, ahead⟩ := inv.pairs _ (List.mem_of_getElem? found)
  obtain ⟨headBehind, lo, anchor⟩ := ahead late
  simp only at boundaryOff behind headBehind lo anchor synced
  have inside := inv.covered
  have base := inv.base
  obtain ⟨done, kept⟩ := reclaim_inv g bufBlocks v s.wal (covered / 32) inv.quiet.inv headBehind behind
  have quiet : Quiet g bufBlocks s.level (v.reclaimed (covered / 32)) { s.wal with headOff := g.blockOff (covered / 32) } :=
    ⟨kept, inv.quiet.healthy, inv.quiet.clean, inv.quiet.settled, inv.quiet.owed⟩
  have result : s.reclaimPair pair = (Err.kSuccess, { s with
      wal := { s.wal with headOff := g.blockOff (covered / 32) }
      covered := max s.covered covered
      reclaimed := covered }) := by
    simp [Session.reclaimPair, found, late, boundaryOff, done]
  rw [result]
  refine ⟨⟨⟨quiet, inv.entries, inv.acked, Nat.max_le.mpr ⟨inside, synced⟩, rfl, Nat.le_max_right _ _, fun q member => ?_,
    .inl ?_⟩, rfl, fun whole => ?_, ⟨[], (List.append_nil _).symm⟩, Nat.le_refl _, Nat.le_refl _, traced_refl _ _,
    fun _ laid => laid⟩, rfl, rfl, rfl, rfl, rfl⟩
  · have old := inv.pairs q member
    refine ⟨old.synced, old.boundary, old.behind, fun later => ?_⟩
    obtain ⟨_, low, above⟩ := old.ahead (Nat.le_trans late later)
    simp only at later
    show covered / 32 ≤ q.1 / 32 ∧ max v.lo (32 * (covered / 32) - 32) ≤ 32 * (q.1 / 32) ∧
      (q.1 = 0 ∨ max v.lo (32 * (covered / 32) - 32) < q.1)
    omega
  · show max v.lo (32 * (covered / 32) - 32) ≤ 32 * (max s.covered covered / 32) ∧
      (max s.covered covered = 0 ∨ max v.lo (32 * (covered / 32) - 32) < max s.covered covered ∨
        max s.covered covered < v.synced)
    rcases base with ⟨low, first⟩ | ⟨_, erased, _⟩ <;> omega
  · unfold WalView.Intact at whole
    show max v.lo (32 * (covered / 32) - 32) ≤ 32 * (covered / 32)
    omega

theorem reclaim_session (g : Ring) (bufBlocks : Nat) (v : WalView) (s : Session) (pair : Nat)
    (inv : SessionInv g bufBlocks v s) : ∃ next, SessionStep g bufBlocks v s next (s.reclaimPair pair).2 := by
  have still := session_still g bufBlocks v s s.level inv inv.quiet
  cases found : s.captured[pair]? with
  | none => exact ⟨v, by simpa [Session.reclaimPair, found] using still⟩
  | some p =>
      obtain ⟨covered, boundary⟩ := p
      by_cases late : s.reclaimed ≤ covered
      · exact ⟨_, (reclaim_view g bufBlocks v s pair covered boundary inv found late).1⟩
      · exact ⟨v, by simpa [Session.reclaimPair, found, late] using still⟩

theorem session_step (g : Ring) (bufBlocks : Nat) (v : WalView) (s : Session) (op : SessionOp)
    (inv : SessionInv g bufBlocks v s) : ∃ next, SessionStep g bufBlocks v s next (s.step op).2 := by
  cases op with
  | write e => exact write_session g bufBlocks v s e inv
  | flush => exact flush_all_session g bufBlocks v s inv
  | setLevel level => exact change_level_session g bufBlocks v s level inv
  | cover pair => exact ⟨v, cover_session g bufBlocks v s pair inv⟩
  | reclaim pair => exact reclaim_session g bufBlocks v s pair inv

theorem session_run (g : Ring) (bufBlocks : Nat) (ops : List SessionOp) :
    ∀ (v : WalView) (s : Session), SessionInv g bufBlocks v s →
      ∃ next, SessionInv g bufBlocks next (s.run ops) ∧ next.prior = v.prior ∧ (v.Intact → next.Intact) ∧
        ∀ base, Laid g v.entries base v.visible s.wal.dev.medium.cur →
          Laid g next.entries base next.visible (s.run ops).wal.dev.medium.cur := by
  induction ops with
  | nil => exact fun v s inv => ⟨v, inv, rfl, id, fun _ laid => laid⟩
  | cons op ops ih =>
      intro v s inv
      obtain ⟨mid, step⟩ := session_step g bufBlocks v s op inv
      obtain ⟨next, kept, prior, intact, laid⟩ := ih mid _ step.inv
      exact ⟨next, kept, prior.trans step.prior, fun whole => intact (step.intact whole), fun base old => laid base (step.laid base old)⟩

-- Entries that fit the ring are all accepted.
theorem writes_session (g : Ring) (bufBlocks : Nat) (entries : List WalEntry) :
    ∀ (v : WalView) (s : Session), SessionInv g bufBlocks v s → (∀ e ∈ entries, e.key.length ≤ kWalKeyMax) →
      v.entries.length + entries.length ≤ 32 * (v.head + g.blocks - 1) →
      ∃ next, SessionInv g bufBlocks next (s.run (entries.map .write)) ∧ v.Grows next entries ∧ s.Kept (s.run (entries.map .write)) := by
  induction entries with
  | nil =>
      intro v s inv _ _
      exact ⟨v, inv, grows_refl v, ⟨rfl, rfl, rfl, rfl⟩⟩
  | cons e rest ih =>
      intro v s inv short room
      rw [List.length_cons] at room
      obtain ⟨mid, more, step, grown, kept, outcome⟩ := write_view g bufBlocks v s e inv (short e (by simp))
      rcases outcome with ⟨_, rfl⟩ | ⟨_, _, full⟩
      · obtain ⟨last, inv', grown', kept'⟩ := ih mid (s.writeEntry e).2 step.inv
          (fun e' member => short e' (List.mem_cons_of_mem _ member)) (by
            rw [grown.entries, grown.head, List.length_append, List.length_singleton]
            omega)
        exact ⟨last, inv', grows_trans v mid last [e] rest grown grown', kept'.captured.trans kept.captured,
          kept'.covered.trans kept.covered, kept'.reclaimed.trans kept.reclaimed, kept'.level.trans kept.level⟩
      · omega

-- Entries that leave the window room are all buffered.
theorem buffered_session (g : Ring) (bufBlocks : Nat) (entries : List WalEntry) :
    ∀ (v : WalView) (s : Session), SessionInv g bufBlocks v s → (∀ e ∈ entries, e.key.length ≤ kWalKeyMax) →
      isWalSyncLevel s.level = false → s.wal.nFrames + entries.length < 32 * (v.reopened g bufBlocks).win →
      ∃ next, SessionInv g bufBlocks next (s.run (entries.map .write)) ∧ next.entries = v.entries ++ entries ∧
        next.synced = v.synced ∧ next.prior = v.prior ∧ next.lo = v.lo ∧ (s.run (entries.map .write)).wal.dev = s.wal.dev ∧
        (s.run (entries.map .write)).wal.nFrames = s.wal.nFrames + entries.length ∧
        (s.run (entries.map .write)).covered = s.covered ∧ (s.run (entries.map .write)).level = s.level := by
  induction entries with
  | nil =>
      intro v s inv _ _ _
      exact ⟨v, inv, by simp, rfl, rfl, rfl, rfl, rfl, rfl, rfl⟩
  | cons e rest ih =>
      intro v s inv short batched room
      rw [List.length_cons] at room
      obtain ⟨after, done, dev, frames, quiet⟩ :=
        write_buffered g bufBlocks s.level v s.wal e inv.quiet (short e (by simp)) batched (by omega)
      have open_ : (v.reopened g bufBlocks).win ≠ 0 := by omega
      have grown : v.Grows { v.reopened g bufBlocks with entries := v.entries ++ [e] } [e] := by
        unfold WalView.reopened
        split <;> exact ⟨rfl, rfl, rfl, rfl, rfl, Nat.le_refl _, Nat.le_refl _, Nat.le_refl _⟩
      have numbered : ¬ after.seqNext = s.wal.seqNext := by
        rw [quiet.inv.seqNext, inv.quiet.inv.seqNext]
        simp
      have result : (s.writeEntry e).2 = { s with wal := after, entries := s.entries ++ [e] } := by
        simp [Session.writeEntry, done, numbered, batched]
      have synced : (v.reopened g bufBlocks).synced = v.synced := by
        unfold WalView.reopened
        split <;> rfl
      have visible : ({ v.reopened g bufBlocks with entries := v.entries ++ [e] } : WalView).visible = v.visible := by
        unfold WalView.reopened
        split <;> rfl
      have step : QuietStep g bufBlocks s.level v s.wal [e] _ after := ⟨quiet, grown, by rw [dev]; exact traced_refl _ _, fun base laid => by
        rw [dev, visible]
        exact laid_append g v.entries [e] base _ _ inv.quiet.inv.visibleAll laid⟩
      have kept := quiet_step_session g bufBlocks v _ s after [e] s.level s.acked s.captured inv step quiet (Nat.le_refl _)
        (by show s.acked ≤ (v.reopened g bufBlocks).synced; rw [synced]; exact inv.acked) (fun pair member => .inl member)
      rw [← result] at kept
      have again : (({ v.reopened g bufBlocks with entries := v.entries ++ [e] } : WalView).reopened g bufBlocks).win =
          (v.reopened g bufBlocks).win := by
        have shut : ¬ ({ v.reopened g bufBlocks with entries := v.entries ++ [e] } : WalView).win = 0 := open_
        rw [show ({ v.reopened g bufBlocks with entries := v.entries ++ [e] } : WalView).reopened g bufBlocks =
          { v.reopened g bufBlocks with entries := v.entries ++ [e] } from if_neg shut]
      have wal : (s.writeEntry e).2.wal = after := by rw [result]
      have level : (s.writeEntry e).2.level = s.level := by rw [result]
      obtain ⟨last, inv', entries', synced', prior, lo, dev', frames', covered, level'⟩ := ih _ (s.writeEntry e).2 kept.inv
        (fun e' member => short e' (List.mem_cons_of_mem _ member)) (by rw [level]; exact batched) (by rw [again, wal]; omega)
      refine ⟨last, inv', ?_, synced'.trans synced, prior.trans grown.prior, lo.trans grown.lo, ?_, ?_, ?_, level'.trans level⟩
      · rw [entries', List.append_assoc]
        rfl
      · exact dev'.trans ((congrArg Wal.dev wal).trans dev)
      · show ((s.writeEntry e).2.run (rest.map .write)).wal.nFrames = _
        rw [frames', wal, frames, List.length_cons]
        omega
      · exact covered.trans (by rw [result])

-- Closing writes out what is buffered, so everything is on the medium it leaves.
theorem close_session (g : Ring) (bufBlocks : Nat) (v : WalView) (s : Session) (inv : SessionInv g bufBlocks v s) :
    (s.wal.close s.level).1 = Err.kSuccess ∧ ∃ h, CrashOk g bufBlocks s h s.entries.length s.entries.length
      (s.wal.close s.level).2.dev.medium ∧ h.prior = v.prior ∧ h.lo = v.lo ∧ h.entries = s.entries ∧
      v.synced ≤ s.entries.length := by
  obtain ⟨next, after, done, step, all, quiet, _⟩ := flush_session g bufBlocks v s inv
  have buffered : s.wal.curBuf ≠ none := by simp [inv.quiet.inv.buffer]
  have same : next.entries = s.entries := by rw [step.grown.entries, List.append_nil, inv.entries]
  have close : s.wal.close s.level = (Err.kSuccess, { after with dev := after.dev.close.2, curBuf := none }) := by
    simp [Wal.close, buffered, done, RawDevice.close]
  have kept := quiet_step_session g bufBlocks v next s after [] s.level s.acked s.captured inv step (quiet s.level)
    (Nat.le_refl _) (Nat.le_trans inv.acked step.grown.synced) (fun pair member => .inl member)
  have ok := crash_at_rest g bufBlocks next _ kept.inv
  have count : next.synced = s.entries.length := by rw [all, same]
  rw [count] at ok
  refine ⟨by rw [close], next.toHistory, ?_, step.grown.prior, step.grown.lo, same, by rw [← count]; exact step.grown.synced⟩
  rw [close]
  exact { ok with }

-- Whatever a life leaves is a ring of the entries accepted so far, the one in
-- flight included.
theorem ends_ok (g : Ring) (bufBlocks : Nat) (v : WalView) (s : Session) (entries : List WalEntry) (m : Medium) (acked : Nat)
    (inv : SessionInv g bufBlocks v s) (ends : s.Ends entries m acked) :
    ∃ h synced written, CrashOk g bufBlocks s h synced written m ∧ h.prior = v.prior ∧ h.lo = v.lo ∧ v.synced ≤ synced ∧
      h.entries = entries ∧ acked ≤ synced := by
  obtain ⟨next, after, done, step, all, quiet, _⟩ := flush_session g bufBlocks v s inv
  have buffered : s.wal.curBuf ≠ none := by simp [inv.quiet.inv.buffer]
  have same : next.entries = s.entries := by rw [step.grown.entries, List.append_nil, inv.entries]
  have close : s.wal.close s.level = (Err.kSuccess, { after with dev := after.dev.close.2, curBuf := none }) := by
    simp [Wal.close, buffered, done, RawDevice.close]
  cases ends with
  | atRest =>
      have ok := crash_at_rest g bufBlocks v s inv
      exact ⟨_, _, _, ok, rfl, rfl, Nat.le_refl _, inv.entries, ok.acked⟩
  | inside op m during =>
      obtain ⟨later, step⟩ := session_step g bufBlocks v s op inv
      obtain ⟨calls, trace, _, every⟩ := step.crash
      rw [trace, List.drop_left] at during
      obtain ⟨synced, written, lower, lo, ok⟩ := every m during
      exact ⟨_, synced, written, ok, step.prior, lo, lower, step.inv.entries, ok.acked⟩
  | closing m during =>
      obtain ⟨calls, trace, _, every⟩ := quiet_step_crash g bufBlocks v next s after [] inv step
      have calls' : (s.wal.close s.level).2.dev.trace = s.wal.dev.trace ++ calls := by
        rw [close]
        exact trace
      rw [calls', List.drop_left] at during
      obtain ⟨synced, written, lower, lo, ok⟩ := every m during
      exact ⟨_, synced, written, ok, step.grown.prior, lo, lower, same, ok.acked⟩
  | closed _ =>
      obtain ⟨_, h, ok, prior, lo, entries, synced⟩ := close_session g bufBlocks v s inv
      have last := last_seq_length g bufBlocks v s.wal inv.quiet.inv
      exact ⟨h, _, _, ok, prior, lo, synced, entries, by rw [last, inv.entries]⟩

end Cabe
