import Cabe.EngineOpen
import Cabe.WalResults

set_option autoImplicit false

namespace Cabe

open Storage

-- An open window takes at least one more frame.
def Roomy (w : Wal) : Prop := w.windowBytes = 0 ∨ 128 * w.nFrames < w.windowBytes

-- A log between two calls on a device that never fails.
structure Steady (g : Ring) (bufBlocks : Nat) (v : WalView) (w : Wal) : Prop where
  inv : WalInv g bufBlocks v w
  healthy : w.dev.Healthy
  roomy : Roomy w

def WalView.Full (v : WalView) (g : Ring) : Prop := v.entries.length = 32 * (v.head + g.blocks - 1)

theorem few_roomy (g : Ring) (bufBlocks : Nat) (v : WalView) (w : Wal) (inv : WalInv g bufBlocks v w) (few : w.nFrames < 32) : Roomy w := by
  have window := inv.window
  unfold Roomy
  omega

theorem steady_step (g : Ring) (bufBlocks : Nat) (v next : WalView) (w after : Wal) (more : List WalEntry) (steady : Steady g bufBlocks v w)
    (step : WalStep g bufBlocks v w more next after) (roomy : Roomy after) : Steady g bufBlocks next after :=
  ⟨step.inv, driven_healthy _ _ _ step.driven steady.healthy, roomy⟩

theorem reopened_roomy (g : Ring) (bufBlocks : Nat) (v : WalView) (w : Wal) (steady : Steady g bufBlocks v w) : Roomy w.reopened := by
  have roomy := steady.roomy
  have window := steady.inv.window
  have frames := steady.inv.framesFit
  unfold Roomy Wal.reopened at *
  split
  · show w.windowAt w.curOff = 0 ∨ 128 * w.nFrames < w.windowAt w.curOff
    omega
  · exact roomy

-- What is counted from the head block on fills the ring but for one block.
theorem full_closed (g : Ring) (bufBlocks : Nat) (v : WalView) (w : Wal) (steady : Steady g bufBlocks v w) :
    (v.reopened g bufBlocks).win = 0 ↔ v.Full g := by
  constructor
  · exact fun closed => (reopened_closed g bufBlocks v w steady.inv closed).2
  · intro full
    have roomy := steady.roomy
    have window := steady.inv.window
    have frames := steady.inv.framesFit
    have room := steady.inv.winRoom
    have count := steady.inv.count
    have ordered := steady.inv.headCur
    unfold WalView.Full at full
    unfold Roomy at roomy
    have shut : v.win = 0 := by omega
    simp only [WalView.reopened, shut, if_true, Ring.openWin]
    omega

theorem full_admission (g : Ring) (bufBlocks : Nat) (v : WalView) (w : Wal) (steady : Steady g bufBlocks v w) (full : v.Full g) :
    w.reopened.windowBytes = 0 ∧ w.admission = ⟨Err.kWalFull, false, w.reopened⟩ := by
  have closed := (full_closed g bufBlocks v w steady).mpr full
  obtain ⟨step, _⟩ := reopened_step g bufBlocks v w steady.inv
  have window := step.inv.window
  rw [closed] at window
  exact ⟨window, by rw [admission_unfolds, if_pos window]⟩

theorem full_batch (g : Ring) (bufBlocks : Nat) (v : WalView) (w : Wal) (e : WalEntry) (rest : List WalEntry) (steady : Steady g bufBlocks v w)
    (full : v.Full g) : w.processBatch (e :: rest) = (List.replicate (e :: rest).length Err.kWalFull, w.reopened) := by
  have admitted := (full_admission g bufBlocks v w steady full).2
  simp [Wal.processBatch, Wal.batchLoop, admitted, BatchRun.finish, Err.kWalFull, Err.kSuccess]

-- A batch is accepted from the front on until the ring is full.
theorem steady_batch (g : Ring) (bufBlocks : Nat) (v : WalView) (w : Wal) (batch : List WalEntry) (steady : Steady g bufBlocks v w)
    (short : ∀ e ∈ batch, e.key.length ≤ kWalKeyMax) :
    ∃ more rest next after, batch = more ++ rest ∧
      w.processBatch batch = (List.replicate more.length Err.kSuccess ++ List.replicate rest.length Err.kWalFull, after) ∧
      WalStep g bufBlocks v w more next after ∧ Roomy after ∧ (rest = [] ∨ next.Full g) ∧
      (more ≠ [] → next.synced = next.entries.length ∧ after.nFrames < 32) ∧ (more = [] → after = w ∨ after = w.reopened) := by
  obtain ⟨rc, suffix, next, after, more, rest, split, done, step, refused, outcome⟩ := process_batch_step g bufBlocks v w batch steady.inv short
  obtain ⟨rfl, synced, codes⟩ : rc = Err.kSuccess ∧ (more ≠ [] → next.synced = next.entries.length ∧ after.nFrames < 32) ∧
      (rest = [] ∨ suffix = Err.kWalFull) := by
    rcases outcome with fine | ⟨_, sick⟩
    · exact fine
    · exact absurd steady.healthy sick
  have closed : rest = [] ∨ next.Full g := by
    rcases codes with none_ | full
    · exact .inl none_
    · rcases refused with none_ | same | ⟨_, shut⟩
      · exact .inl none_
      · exact absurd (same.symm.trans full) (by decide)
      · exact .inr (reopened_closed g bufBlocks next after step.inv shut).2
  have results : w.processBatch batch = (List.replicate more.length Err.kSuccess ++ List.replicate rest.length Err.kWalFull, after) := by
    rw [done]
    rcases codes with rfl | rfl <;> rfl
  have still : more = [] → after = w ∨ after = w.reopened := by
    rintro rfl
    cases rest with
    | nil =>
        left
        subst split
        have nothing : w.processBatch [] = ([], w) := by simp [Wal.processBatch, Wal.batchLoop, BatchRun.finish]
        exact congrArg Prod.snd (results.symm.trans nothing)
    | cons e rest =>
        right
        have full : v.Full g := by
          rcases closed with no | full
          · cases no
          · unfold WalView.Full at full ⊢
            rwa [step.grown.entries, step.grown.head, List.append_nil] at full
        subst split
        exact congrArg Prod.snd (results.symm.trans (full_batch g bufBlocks v w e rest steady full))
  refine ⟨more, rest, next, after, split, results, step, ?_, closed, synced, still⟩
  by_cases none_ : more = []
  · rcases still none_ with rfl | rfl
    · exact steady.roomy
    · exact reopened_roomy g bufBlocks v w steady
  · exact few_roomy g bufBlocks next after step.inv (synced none_).2

theorem flush_roomy (g : Ring) (bufBlocks : Nat) (v : WalView) (w : Wal) (level : WalLevel) (inv : WalInv g bufBlocks v w)
    (healthy : w.dev.Healthy) (owed : isWalSyncLevel level = true ∨ w.nFrames = 0 → Roomy w) :
    ∃ next after, w.flush level = (Err.kSuccess, after) ∧ WalStep g bufBlocks v w [] next after ∧ Roomy after ∧
      (isWalSyncLevel level = false → next.visible = next.entries.length ∧ after.nFrames < 32) ∧
      (isWalSyncLevel level = true → next = v ∧ after = w) := by
  obtain ⟨rc, next, after, done, step, outcome⟩ := flush_step g bufBlocks v w level inv
  have whole := step.inv.visibleAll
  have count := step.inv.count
  have written := step.inv.visibleCur
  rcases outcome with ⟨rfl, idle, rfl, rfl⟩ | ⟨rfl, batched, _, synced, few, _⟩ | ⟨_, sick⟩
  · refine ⟨next, after, done, step, owed idle, fun batched => ?_, fun _ => ⟨rfl, rfl⟩⟩
    rcases idle with sync | none_
    · rw [batched] at sync
      cases sync
    · omega
  · have seen := step.inv.syncedVisible
    refine ⟨next, after, done, step, few_roomy g bufBlocks next after step.inv (by omega), fun _ => by omega, fun sync => ?_⟩
    rw [batched] at sync
    cases sync
  · exact absurd healthy sick

theorem append_flush_roomy (g : Ring) (bufBlocks : Nat) (v : WalView) (w : Wal) (level : WalLevel) (e : WalEntry) (inv : WalInv g bufBlocks v w)
    (healthy : w.dev.Healthy) (batched : isWalSyncLevel level = false) (short : e.key.length ≤ kWalKeyMax) (space : w.nFrames < 32 * v.win) :
    ∃ next after, w.appendFlush level e = (Err.kSuccess, after) ∧ WalStep g bufBlocks v w [e] next after ∧ Roomy after := by
  obtain ⟨grown, appended, step, dev, frames⟩ := append_step g bufBlocks v w e inv short space
  by_cases full : grown.nFrames * kWalFrameSize ≥ grown.windowBytes
  · obtain ⟨next, after, done, flushed, roomy, _⟩ := flush_roomy g bufBlocks _ grown level step.inv (by rw [dev]; exact healthy) (by
      rintro (sync | none_)
      · rw [batched] at sync
        cases sync
      · omega)
    exact ⟨next, after, by simp [Wal.appendFlush, appended, full, done], wal_step_trans g bufBlocks _ _ _ _ _ _ [e] [] step flushed, roomy⟩
  · refine ⟨_, grown, by simp [Wal.appendFlush, appended, full], step, .inr ?_⟩
    unfold kWalFrameSize at full
    omega

-- WriteWal at either kind of level, with a key that it lets through.
theorem steady_write (g : Ring) (bufBlocks : Nat) (v : WalView) (w : Wal) (level : WalLevel) (e : WalEntry) (steady : Steady g bufBlocks v w)
    (short : e.key.length ≤ kWalKeyMax) :
    (v.Full g ∧ w.writeWal level e = (Err.kWalFull, w.reopened)) ∨
      (¬ v.Full g ∧ ∃ next after, w.writeWal level e = (Err.kSuccess, after) ∧ WalStep g bufBlocks v w [e] next after ∧ Roomy after) := by
  have buffered : w.curBuf ≠ none := by simp [steady.inv.buffer]
  have long : ¬ e.key.length > kWalKeyMax := by omega
  cases sync : isWalSyncLevel level with
  | true =>
      obtain ⟨more, rest, next, after, split, done, step, roomy, closed, _, _⟩ :=
        steady_batch g bufBlocks v w [e] steady (by simpa using short)
      by_cases full : v.Full g
      · refine .inl ⟨full, ?_⟩
        simp only [Wal.writeWal, if_neg long, if_neg buffered, sync, if_true, full_batch g bufBlocks v w e [] steady full]
        rfl
      · refine .inr ⟨full, ?_⟩
        cases more with
        | nil =>
            rcases closed with rfl | stop
            · cases split
            · unfold WalView.Full at full stop
              rw [step.grown.entries, step.grown.head, List.append_nil] at stop
              exact absurd stop full
        | cons first more =>
            obtain ⟨rfl, others⟩ : first = e ∧ more ++ rest = [] := by simpa [eq_comm] using split
            obtain ⟨rfl, rfl⟩ := List.append_eq_nil_iff.mp others
            refine ⟨next, after, ?_, step, roomy⟩
            simp only [Wal.writeWal, if_neg long, if_neg buffered, sync, if_true, done]
            rfl
  | false =>
      have unfolded := write_wal_batched w level e short buffered sync
      by_cases full : v.Full g
      · rw [if_pos (full_admission g bufBlocks v w steady full).1] at unfolded
        exact .inl ⟨full, unfolded⟩
      · have open_ := mt (full_closed g bufBlocks v w steady).mp full
        obtain ⟨step, dev, _⟩ := reopened_step g bufBlocks v w steady.inv
        have window := step.inv.window
        have roomy := reopened_roomy g bufBlocks v w steady
        unfold Roomy at roomy
        have space : ¬ w.reopened.nFrames * kWalFrameSize ≥ w.reopened.windowBytes := by
          unfold kWalFrameSize
          omega
        rw [if_neg (by omega), if_neg space] at unfolded
        simp only [ne_eq, not_true_eq_false, if_false] at unfolded
        rw [if_neg (by omega)] at unfolded
        obtain ⟨next, after, done, last, room⟩ := append_flush_roomy g bufBlocks _ w.reopened level e step.inv
          (by rw [dev]; exact steady.healthy) sync
          short (by omega)
        exact .inr ⟨full, next, after, unfolded.trans done, wal_step_trans g bufBlocks _ _ _ _ _ _ [] [e] step last, room⟩

theorem reclaim_roomy (w : Wal) (boundary : Nat) (roomy : Roomy w) : Roomy (w.reclaimUpTo boundary).2 := by
  unfold Wal.reclaimUpTo
  dsimp only
  split <;> exact roomy

theorem steady_perform (g : Ring) (bufBlocks : Nat) (v : WalView) (w : Wal) (op : WalOp) (steady : Steady g bufBlocks v w) :
    ∃ next, Steady g bufBlocks next (w.perform op) := by
  cases op with
  | write level e =>
      show ∃ next, Steady g bufBlocks next (w.writeWal level e).2
      by_cases short : e.key.length ≤ kWalKeyMax
      · rcases steady_write g bufBlocks v w level e steady short with ⟨_, done⟩ | ⟨_, next, after, done, step, roomy⟩ <;> rw [done]
        · exact ⟨_, steady_step g bufBlocks v _ w _ [] steady (reopened_step g bufBlocks v w steady.inv).1 (reopened_roomy g bufBlocks v w steady)⟩
        · exact ⟨next, steady_step g bufBlocks v next w after [e] steady step roomy⟩
      · unfold Wal.writeWal
        rw [if_pos (by omega)]
        exact ⟨v, steady⟩
  | group batch =>
      obtain ⟨more, rest, next, after, _, done, step, roomy, _⟩ := steady_batch g bufBlocks v w
        (batch.filter fun e => e.key.length ≤ kWalKeyMax) steady
        (fun e member => by simpa using (List.mem_filter.mp member).2)
      show ∃ next, Steady g bufBlocks next (w.processBatch (batch.filter fun e => e.key.length ≤ kWalKeyMax)).2
      rw [done]
      exact ⟨next, steady_step g bufBlocks v next w after more steady step roomy⟩
  | flush level =>
      obtain ⟨next, after, done, step, roomy, _⟩ := flush_roomy g bufBlocks v w level steady.inv steady.healthy (fun _ => steady.roomy)
      show ∃ next, Steady g bufBlocks next (w.flush level).2
      rw [done]
      exact ⟨next, steady_step g bufBlocks v next w after [] steady step roomy⟩
  | reclaim boundary =>
      show ∃ next, Steady g bufBlocks next (w.reclaimUpTo boundary).2
      have roomy := reclaim_roomy w boundary steady.roomy
      rcases reclaim_boundary g bufBlocks v w boundary steady.inv with same | ⟨b, ahead, behind, rfl⟩
      · rw [same]
        exact ⟨v, steady⟩
      · obtain ⟨done, kept⟩ := reclaim_inv g bufBlocks v w b steady.inv ahead behind
        rw [done] at roomy ⊢
        exact ⟨_, kept, steady.healthy, roomy⟩

-- A session that writes its windows out when they are full leaves room in them.
theorem session_roomy (g : Ring) (bufBlocks : Nat) (v : WalView) (s : Session) (op : SessionOp) (inv : SessionInv g bufBlocks v s)
    (roomy : Roomy s.wal) : Roomy (s.step op).2.wal := by
  have steady : Steady g bufBlocks v s.wal := ⟨inv.quiet.inv, inv.quiet.healthy, roomy⟩
  have performed (walOp : WalOp) : Roomy (s.wal.perform walOp) := by
    obtain ⟨_, kept⟩ := steady_perform g bufBlocks v s.wal walOp steady
    exact kept.roomy
  cases op with
  | write e => exact performed (.write s.level e)
  | flush =>
      have kept : Roomy (s.wal.flush s.level).2 := performed (.flush s.level)
      show Roomy s.flushAll.2.wal
      unfold Session.flushAll
      generalize s.wal.flush s.level = out at kept
      obtain ⟨rc, w⟩ := out
      simp only
      split <;> exact kept
  | setLevel level =>
      have kept : Roomy (s.wal.flush s.level).2 := performed (.flush s.level)
      show Roomy (s.changeLevel level).2.wal
      unfold Session.changeLevel
      generalize s.wal.flush s.level = out at kept
      obtain ⟨rc, w⟩ := out
      simp only
      split
      · split <;> exact kept
      · exact roomy
  | cover pair =>
      show Roomy (s.coverPair pair).2.wal
      unfold Session.coverPair
      split
      · split <;> exact roomy
      · exact roomy
  | reclaim pair =>
      show Roomy (s.reclaimPair pair).2.wal
      unfold Session.reclaimPair
      split
      · split
        · exact performed (.reclaim _)
        · exact roomy
      · exact roomy

theorem lives_roomy (s : Session) (lives : Lives s) : Roomy s.wal := by
  induction lives with
  | created dev opts w level fresh create opened allocated =>
      have just := open_wal_success dev opts w opened
      have none_ := just.position.2.2.1
      show Roomy w
      unfold Roomy
      omega
  | step s op lives ih =>
      cases lives_inv s lives with
      | running g bufBlocks v inv blank => exact session_roomy g bufBlocks v s op inv ih
      | stuck w empty still fresh =>
          have next := stuck_step w empty s op still
          rw [next.wal]
          exact .inl empty.window
  | restarted s entries m acked img opts w level lives ends fits alive reopens recovered ih =>
      have pos := reopens_pos s img opts w s.covered collect [] reopens recovered
      obtain ⟨g, bufBlocks, h, synced, written, rfl, blank, _, crash, reopened⟩ :=
        life_crash_image s entries m acked img opts w (lives_inv s lives) ends fits alive reopens pos
      obtain ⟨stop, restarted⟩ := crash_image_restarts g bufBlocks s h synced written img w .walSync crash reopened recovered
      obtain ⟨lo, inv, _⟩ := restarted.inv
      exact few_roomy g bufBlocks _ _ inv.quiet.inv (inv.quiet.owed rfl).2

-- The bytes of the blocks between the head and the tail.
def Wal.liveBytes (w : Wal) : Nat := (w.curOff + (w.ringEnd - w.ringStart) - w.headOff) % (w.ringEnd - w.ringStart)

theorem live_bytes (g : Ring) (bufBlocks : Nat) (v : WalView) (w : Wal) (inv : WalInv g bufBlocks v w) :
    w.liveBytes = 4096 * (v.cur - v.head) ∧ w.ringEnd - w.ringStart - kWalBlockSize = 4096 * (g.blocks - 1) := by
  have near := wal_live_room g bufBlocks v w inv
  have distance := g.block_distance v.head v.cur inv.headCur
  rw [Nat.mod_eq_of_lt near] at distance
  refine ⟨?_, ?_⟩
  · rw [Wal.liveBytes, inv.ringEnd, inv.ringStart, Nat.add_sub_cancel_left, inv.curOff, inv.headOff]
    exact distance
  · have size : g.bytes = 4096 * g.blocks := rfl
    rw [inv.ringEnd, inv.ringStart, Nat.add_sub_cancel_left, size, kWalBlockSize]
    omega

theorem full_live (g : Ring) (bufBlocks : Nat) (v : WalView) (w : Wal) (steady : Steady g bufBlocks v w) :
    v.Full g ↔ w.nFrames = 0 ∧ w.liveBytes = w.ringEnd - w.ringStart - kWalBlockSize := by
  obtain ⟨live, capacity⟩ := live_bytes g bufBlocks v w steady.inv
  have count := steady.inv.count
  have room := steady.inv.winRoom
  have frames := steady.inv.framesFit
  have ordered := steady.inv.headCur
  have window := steady.inv.window
  have roomy := steady.roomy
  unfold Roomy at roomy
  have pos := g.blocks_pos
  rw [live, capacity]
  clear live capacity
  unfold WalView.Full
  constructor
  · intro full
    omega
  · rintro ⟨none_, same⟩
    have far : v.cur = v.head + g.blocks - 1 := by omega
    rw [← count, none_, far, Nat.add_zero]

-- The frames that the ring takes before a snapshot has to make room in it.
def Wal.freeFrames (w : Wal) : Nat := (w.ringEnd - w.ringStart - kWalBlockSize - w.liveBytes) / kWalFrameSize - w.nFrames

-- What the ring admits, and that a snapshot makes room in it.
structure FullRing (w : Wal) (level : WalLevel) : Prop where
  bounded : w.liveBytes + 128 * w.nFrames ≤ w.ringEnd - w.ringStart - kWalBlockSize
  exactly : ∀ e : WalEntry, e.key.length ≤ kWalKeyMax →
    ((w.writeWal level e).1 = Err.kWalFull ↔ w.nFrames = 0 ∧ w.liveBytes = w.ringEnd - w.ringStart - kWalBlockSize)
  admitted : ∀ e : WalEntry, e.key.length ≤ kWalKeyMax → (w.writeWal level e).1 ≠ Err.kWalFull →
    (w.writeWal level e).1 = Err.kSuccess ∧ (w.writeWal level e).2.seqNext = w.seqNext + 1
  untouched : ∀ e : WalEntry, (w.writeWal level e).1 = Err.kWalFull → (w.writeWal level e).2.dev = w.dev ∧
    w.SamePlace (w.writeWal level e).2 ∧ (w.writeWal level e).2.curBuf = w.curBuf
  grouped : ∀ batch : List WalEntry, (∀ e ∈ batch, e.key.length ≤ kWalKeyMax) →
    (w.processBatch batch).1 = List.replicate (min batch.length w.freeFrames) Err.kSuccess ++
      List.replicate (batch.length - w.freeFrames) Err.kWalFull ∧
    (w.processBatch batch).2.seqNext = w.seqNext + min batch.length w.freeFrames
  rescued : ∀ (r : Reactor) (env : ScanEnv) (e : WalEntry), r.dc.wal = w → r.options.walLevel = level → e.key.length ≤ kWalKeyMax →
    (w.writeWal level e).1 = Err.kWalFull → ((r.withWal (w.writeWal level e).2).doSnapshot env).1 = Err.kSuccess →
    (r.writeWalRescuing env e).1 ≠ Err.kWalFull

-- A snapshot taken while nothing waits gives back everything before the tail.
theorem snapshot_reclaims (r : Reactor) (env : ScanEnv) (flushed : r.dc.wal.flush r.options.walLevel = (Err.kSuccess, r.dc.wal))
    (done : (r.doSnapshot env).1 = Err.kSuccess) :
    (r.doSnapshot env).2.dc.wal = (r.dc.wal.reclaimUpTo r.dc.wal.curOff).2 ∧ (r.doSnapshot env).2.options = r.options := by
  unfold Reactor.doSnapshot at done ⊢
  have same : (r.withSnapshot (r.dc.snapshot.noteTriggerAttempt r.dc.wal.lastSeq)).dc.wal.flush
      (r.withSnapshot (r.dc.snapshot.noteTriggerAttempt r.dc.wal.lastSeq)).options.walLevel = (Err.kSuccess, r.dc.wal) := flushed
  simp only [same, ne_eq, not_true_eq_false, if_false] at done ⊢
  split at done
  · rename_i failed
    exact absurd done failed
  · rename_i fine
    rw [if_neg fine]
    exact ⟨rfl, rfl⟩

theorem rescue_unfolds (r : Reactor) (env : ScanEnv) (e : WalEntry) (full : (r.dc.wal.writeWal r.options.walLevel e).1 = Err.kWalFull)
    (done : ((r.withWal (r.dc.wal.writeWal r.options.walLevel e).2).doSnapshot env).1 = Err.kSuccess) :
    (r.writeWalRescuing env e).1 = (((r.withWal (r.dc.wal.writeWal r.options.walLevel e).2).doSnapshot env).2.dc.wal.writeWal
      ((r.withWal (r.dc.wal.writeWal r.options.walLevel e).2).doSnapshot env).2.options.walLevel e).1 := by
  unfold Reactor.writeWalRescuing
  generalize r.dc.wal.writeWal r.options.walLevel e = out at full done ⊢
  obtain ⟨rc, wal⟩ := out
  simp only at full done ⊢
  rw [if_neg (not_not.mpr full)]
  generalize (r.withWal wal).doSnapshot env = out at done ⊢
  obtain ⟨rc', r'⟩ := out
  simp only at done ⊢
  rw [if_neg (not_not.mpr done)]

theorem steady_cleared (g : Ring) (bufBlocks : Nat) (v : WalView) (w : Wal) (level : WalLevel) (e : WalEntry) (steady : Steady g bufBlocks v w)
    (none_ : w.nFrames = 0) (short : e.key.length ≤ kWalKeyMax) :
    ((w.reclaimUpTo w.curOff).2.writeWal level e).1 = Err.kSuccess := by
  have count := steady.inv.count
  have bufPos := steady.inv.bufPos
  have bufRoom := steady.inv.bufRoom
  have roomy := reclaim_roomy w w.curOff steady.roomy
  obtain ⟨done, kept⟩ := reclaim_inv g bufBlocks v w v.cur steady.inv steady.inv.headCur le_rfl
  rw [steady.inv.curOff, done] at roomy ⊢
  rcases steady_write g bufBlocks _ _ level e ⟨kept, steady.healthy, roomy⟩ short with ⟨full, _⟩ | ⟨_, _, _, wrote, _⟩
  · have full : v.entries.length = 32 * (v.cur + g.blocks - 1) := full
    omega
  · rw [wrote]

theorem idle_flush (w : Wal) (level : WalLevel) (none_ : w.nFrames = 0) : w.flush level = (Err.kSuccess, w) := by
  unfold Wal.flush
  rw [none_, if_pos rfl]
  split
  · rfl
  · split <;> rfl

theorem free_frames (g : Ring) (bufBlocks : Nat) (v : WalView) (w : Wal) (inv : WalInv g bufBlocks v w) :
    v.entries.length + w.freeFrames = 32 * (v.head + g.blocks - 1) := by
  obtain ⟨live, capacity⟩ := live_bytes g bufBlocks v w inv
  have count := inv.count
  have room := inv.winRoom
  have frames := inv.framesFit
  have ordered := inv.headCur
  rw [Wal.freeFrames, capacity, live, kWalFrameSize]
  omega

-- A batch fills what is free and its other entries are refused.
theorem steady_grouped (g : Ring) (bufBlocks : Nat) (v : WalView) (w : Wal) (batch : List WalEntry) (steady : Steady g bufBlocks v w)
    (short : ∀ e ∈ batch, e.key.length ≤ kWalKeyMax) :
    (w.processBatch batch).1 = List.replicate (min batch.length w.freeFrames) Err.kSuccess ++
        List.replicate (batch.length - w.freeFrames) Err.kWalFull ∧
      (w.processBatch batch).2.seqNext = w.seqNext + min batch.length w.freeFrames := by
  obtain ⟨more, rest, next, after, rfl, done, step, _, closed, _⟩ := steady_batch g bufBlocks v w batch steady short
  have free := free_frames g bufBlocks v w steady.inv
  have left := free_frames g bufBlocks next after step.inv
  have grown : next.entries.length = v.entries.length + more.length := by rw [step.grown.entries, List.length_append]
  rw [step.grown.head, grown] at left
  have taken : min (more ++ rest).length w.freeFrames = more.length ∧ (more ++ rest).length - w.freeFrames = rest.length := by
    rw [List.length_append]
    rcases closed with rfl | full
    · rw [List.length_nil]
      omega
    · unfold WalView.Full at full
      rw [step.grown.head, grown] at full
      omega
  rw [taken.1, taken.2, done]
  refine ⟨rfl, ?_⟩
  show after.seqNext = w.seqNext + more.length
  rw [step.inv.seqNext, steady.inv.seqNext, grown]
  omega

theorem steady_full_ring (g : Ring) (bufBlocks : Nat) (v : WalView) (w : Wal) (level : WalLevel) (steady : Steady g bufBlocks v w) :
    FullRing w level := by
  obtain ⟨live, capacity⟩ := live_bytes g bufBlocks v w steady.inv
  have count := steady.inv.count
  have room := steady.inv.winRoom
  have frames := steady.inv.framesFit
  have ordered := steady.inv.headCur
  have short (e : WalEntry) (full : (w.writeWal level e).1 = Err.kWalFull) : e.key.length ≤ kWalKeyMax := by
    by_contra long
    unfold Wal.writeWal at full
    rw [if_pos (by omega)] at full
    exact absurd (show Err.kWalKeyTooLong = Err.kWalFull from full) (by decide)
  have refused (e : WalEntry) (full : (w.writeWal level e).1 = Err.kWalFull) : v.Full g ∧ (w.writeWal level e) = (Err.kWalFull, w.reopened) := by
    rcases steady_write g bufBlocks v w level e steady (short e full) with both | ⟨_, _, _, done, _⟩
    · exact both
    · rw [done] at full
      exact absurd (show Err.kSuccess = Err.kWalFull from full) (by decide)
  have reopened := lined_reopened w
  refine ⟨by omega, fun e legal => ?_, fun e legal notFull => ?_, fun e full => ?_,
    fun batch legal => steady_grouped g bufBlocks v w batch steady legal, ?_⟩
  · rw [← full_live g bufBlocks v w steady]
    refine ⟨fun full => (refused e full).1, fun full => ?_⟩
    rcases steady_write g bufBlocks v w level e steady legal with ⟨_, done⟩ | ⟨notFull, _⟩
    · rw [done]
    · exact absurd full notFull
  · rcases steady_write g bufBlocks v w level e steady legal with ⟨_, done⟩ | ⟨_, next, after, done, step, _⟩
    · rw [done] at notFull
      exact absurd rfl notFull
    · rw [done]
      refine ⟨rfl, ?_⟩
      rw [step.inv.seqNext, steady.inv.seqNext, step.grown.entries, List.length_append, List.length_singleton]
  · rw [(refused e full).2]
    unfold Wal.reopened
    split <;> exact ⟨rfl, ⟨rfl, rfl, rfl, rfl, rfl, rfl, rfl⟩, rfl⟩
  · rintro r env e rfl rfl legal full done
    obtain ⟨stop, written⟩ := refused e full
    have waits := ((full_live g bufBlocks v _ steady).mp stop).1
    have kept := steady_step g bufBlocks v _ _ _ [] steady (reopened_step g bufBlocks v _ steady.inv).1 (reopened_roomy g bufBlocks v _ steady)
    have none_ : r.dc.wal.reopened.nFrames = 0 := by
      unfold Wal.reopened
      split <;> exact waits
    rw [rescue_unfolds r env e full done]
    rw [written] at done ⊢
    obtain ⟨reclaimed, options⟩ := snapshot_reclaims (r.withWal r.dc.wal.reopened) env (idle_flush _ _ none_) done
    rw [reclaimed, options]
    have admitted := steady_cleared g bufBlocks _ _ r.options.walLevel e kept none_ legal
    intro again
    exact absurd (show Err.kSuccess = Err.kWalFull from admitted.symm.trans again) (by decide)

-- A log without a buffer answers the same before and after the snapshot that
-- should have made room.
theorem stuck_snapshot (r : Reactor) (env : ScanEnv) (stuck : StuckWal r.dc.wal)
    (ready : SnapshotReady r.dc.snapshot blankSuperBlock) (index : r.dc.metaIndex = ∅)
    (size : 0 < roundUpBufferSize r.options.snapshotBufferSize kSnapshotBlockSize) (alloc : ∀ n, env.alloc n = true) :
    (r.doSnapshot env).1 = Err.kSuccess := by
  have entries : env.walk.order r.dc.metaIndex = [] := by
    rw [index]
    exact List.perm_nil.mp (env.walk.perm ∅)
  have scan {σ : Type} : (r.dc.metaIndex.forEach env.walk : MetaIndexVisitor σ → σ → Rc × σ) = fun visitor st => visitAll visitor st [] := by
    unfold MetaIndex.forEach
    rw [entries]
  have noted : SnapshotReady (r.dc.snapshot.noteTriggerAttempt r.dc.wal.lastSeq) blankSuperBlock :=
    ⟨ready.healthy, ready.slotA, ready.slotB, ready.size, ready.pos, ready.capacity, ready.uuid⟩
  rcases write_succeeds _ blankSuperBlock r.options env.toSnapshotEnv r.dc.wal.lastSeq [] noted size (by decide)
    (fun entry member => by cases member) with ⟨_, refused⟩ | ⟨written, _⟩
  · rw [alloc] at refused
    cases refused
  · unfold Reactor.doSnapshot
    simp only [Reactor.withSnapshot, Reactor.withWal, stuck_flush r.dc.wal stuck, ne_eq, not_true_eq_false, if_false, scan]
    generalize (r.dc.snapshot.noteTriggerAttempt r.dc.wal.lastSeq).write _ _ _ _ = out at written ⊢
    obtain ⟨rc, s⟩ := out
    simp only at written ⊢
    rw [if_neg (not_not.mpr written)]

theorem stuck_unrescued (w : Wal) (stuck : StuckWal w) (level : WalLevel) : ¬ FullRing w level := by
  intro ring
  obtain ⟨dc, _, index, _⟩ := blank_group_opens
  obtain ⟨snapshot, _, ready, _⟩ := snapshot_created blankSuperBlock (plainOptions true 1) plainOpenEnv.toSnapshotEnv (blankDevice 4)
    rfl rfl (fun _ => rfl) rfl rfl (by decide)
  generalize reactor_ : (⟨{ plainOptions true 1 with walLevel := level }, { dc with wal := w, snapshot := snapshot }⟩ : Reactor) = r
  have wal : r.dc.wal = w := by rw [← reactor_]
  have level_ : r.options.walLevel = level := by rw [← reactor_]
  have full := stuck_full w stuck level (plainEntry 1) (by decide)
  have same : r.withWal (r.dc.wal.writeWal r.options.walLevel (plainEntry 1)).2 = r := by
    rw [wal, level_, full, ← wal]
    rfl
  have snapped : (r.doSnapshot plainScanEnv).1 = Err.kSuccess := by
    refine stuck_snapshot r plainScanEnv (by rw [wal]; exact stuck) ?_ ?_ ?_ (fun _ => rfl) <;> rw [← reactor_]
    · exact ready
    · exact index
    · show 0 < roundUpBufferSize 4096 kSnapshotBlockSize
      decide
  have flushed : r.dc.wal.flush r.options.walLevel = (Err.kSuccess, r.dc.wal) := by
    rw [wal]
    exact stuck_flush w stuck _
  obtain ⟨kept, options⟩ := snapshot_reclaims r plainScanEnv flushed snapped
  refine ring.rescued r plainScanEnv (plainEntry 1) wal level_ (by decide) (by rw [full]) ?_ ?_
  · rw [← wal, ← level_, same]
    exact snapped
  · rw [rescue_unfolds r plainScanEnv (plainEntry 1) (by rw [wal, level_, full]) (by rw [same]; exact snapped), same, kept, options, wal, level_,
      stuck.curOff, stuck_reclaim w stuck, full]

-- Every log on devices that have not failed: created over any content, or held
-- in any life that started on a blank device, and after any operations on it.
inductive RingReached : Wal → Prop where
  | created (dev : RawDevice) (opts : Options) (w : Wal) (succeeds : dev.outcomes = []) (readable : ∀ k, dev.unreadable k = false)
      (durable : dev.medium.unsynced = []) (create : opts.create = true)
      (opened : (Wal.unopened dev).openWal opts = (Err.kSuccess, w)) (allocated : Allocated w) : RingReached w
  | lived (s : Session) (lives : Lives s) : RingReached s.wal
  | performed (w : Wal) (op : WalOp) (reached : RingReached w) : RingReached (w.perform op)

theorem ring_reached_steady (w : Wal) (reached : RingReached w) :
    (0 < w.bufSize ∧ ∃ g bufBlocks v, Steady g bufBlocks v w) ∨ StuckWal w := by
  have sized (g : Ring) (bufBlocks : Nat) (v : WalView) (w : Wal) (steady : Steady g bufBlocks v w) : 0 < w.bufSize := by
    have pos := steady.inv.bufPos
    have size := steady.inv.bufSize
    omega
  induction reached with
  | created dev opts w succeeds readable durable create opened allocated =>
      have just := open_wal_success dev opts w opened
      by_cases empty : w.bufSize = 0
      · exact .inr (stuck_open dev opts w just create empty)
      · obtain ⟨g, bufBlocks, accepts⟩ := open_accepts dev opts w just allocated (by omega)
        have inv := create_inv g bufBlocks dev opts w accepts just create durable
        have healthy : w.dev.Healthy := by
          refine ⟨inv.opened, ?_, ?_⟩ <;> rw [just.device]
          · exact succeeds
          · exact readable
        have none_ := just.position.2.2.1
        exact .inl ⟨by omega, g, bufBlocks, _, inv, healthy, few_roomy g bufBlocks _ w inv (by omega)⟩
  | lived s lives =>
      cases lives_inv s lives with
      | running g bufBlocks v inv blank =>
          have steady : Steady g bufBlocks v s.wal := ⟨inv.quiet.inv, inv.quiet.healthy, lives_roomy s lives⟩
          exact .inl ⟨sized g bufBlocks v s.wal steady, g, bufBlocks, v, steady⟩
      | stuck w empty still fresh => exact .inr (by rw [still.wal]; exact empty)
  | performed w op reached ih =>
      rcases ih with ⟨_, g, bufBlocks, v, steady⟩ | stuck
      · obtain ⟨next, kept⟩ := steady_perform g bufBlocks v w op steady
        exact .inl ⟨sized g bufBlocks next _ kept, g, bufBlocks, next, kept⟩
      · exact .inr (by rw [stuck_perform w stuck op]; exact stuck)

-- The ring is full exactly at one block less than its size, and a snapshot always
-- makes room in it, exactly when its buffer holds a block.
theorem full_ring_iff (w : Wal) (level : WalLevel) (reached : RingReached w) : FullRing w level ↔ 0 < w.bufSize := by
  constructor
  · intro ring
    rcases ring_reached_steady w reached with ⟨pos, _⟩ | stuck
    · exact pos
    · exact absurd ring (stuck_unrescued w stuck level)
  · intro pos
    rcases ring_reached_steady w reached with ⟨_, g, bufBlocks, v, steady⟩ | stuck
    · exact steady_full_ring g bufBlocks v w level steady
    · exact absurd stuck.bufSize (by omega)

theorem full_ring_iff_blank : FullRing (blankWal 2 1) .strict := by
  obtain ⟨opened, size⟩ := blank_opens 2 1 (by decide) (by decide) (by decide)
  exact (full_ring_iff (blankWal 2 1) .strict
    (.created (blankDevice 2) (plainOptions true 1) _ rfl (fun _ => rfl) rfl rfl opened (by unfold Allocated; omega))).mpr (by omega)

-- An empty ring of two blocks is full, and stays full after every snapshot.
theorem wrapped_buffer_full : ∃ w, (Wal.unopened (blankDevice 2)).openWal { plainOptions true 1 with walBufferSize := 2 ^ 64 - 1 } =
    (Err.kSuccess, w) ∧ w.ringEnd - w.ringStart = w.bufSize + 8192 ∧ w.nFrames = 0 ∧ w.liveBytes = 0 ∧
      (w.writeWal .walSync (plainEntry 1)).1 = Err.kWalFull ∧ ¬ FullRing w .walSync := by
  obtain ⟨w, opened⟩ : ∃ w, (Wal.unopened (blankDevice 2)).openWal { plainOptions true 1 with walBufferSize := 2 ^ 64 - 1 } =
    (Err.kSuccess, w) := ⟨_, rfl⟩
  have just := open_wal_success _ _ w opened
  have empty : w.bufSize = 0 := just.bufSize.trans (by decide)
  have stuck := stuck_open _ _ w just rfl empty
  have ring : w.ringEnd - w.ringStart = 8192 := by
    rw [just.ringEnd, just.ringStart]
    decide
  refine ⟨w, opened, by omega, stuck.nFrames, ?_, by rw [stuck_full w stuck .walSync (plainEntry 1) (by decide)],
    stuck_unrescued w stuck .walSync⟩
  rw [Wal.liveBytes, ring, stuck.curOff, stuck.headOff]

end Cabe
