import Cabe.WalReentry

set_option autoImplicit false

namespace Cabe

open Storage

-- What the next call of a log depends on.
structure Wal.SameState (a b : Wal) : Prop where
  curOff : a.curOff = b.curOff
  nFrames : a.nFrames = b.nFrames
  seqNext : a.seqNext = b.seqNext
  headOff : a.headOff = b.headOff
  curBuf : a.curBuf = b.curBuf
  window : a.windowAt a.curOff = b.windowAt b.curOff

structure Wal.SameRing (a b : Wal) : Prop where
  ringStart : a.ringStart = b.ringStart
  ringEnd : a.ringEnd = b.ringEnd
  bytes : ∀ o, a.ringStart ≤ o → o < a.ringEnd → a.dev.medium.cur o = b.dev.medium.cur o

def SessionOp.writes : SessionOp → Bool
  | .write _ => true
  | _ => false

-- The codes the operations of a run return.
def Session.codes (s : Session) : List SessionOp → List Rc
  | [] => []
  | op :: ops => (s.step op).1 :: (s.step op).2.codes ops

-- Every run of the second session returns what the same run of the first does,
-- and leaves the same ring whenever a call has just made everything durable.
structure Session.Mirrors (s t : Session) : Prop where
  codes : ∀ ops, s.codes ops = t.codes ops
  flushed : ∀ ops, (s.run (ops ++ [.flush])).wal.SameRing (t.run (ops ++ [.flush])).wal
  written : ∀ ops e, isWalSyncLevel (s.run ops).level = true → (s.run (ops ++ [.write e])).wal.SameRing (t.run (ops ++ [.write e])).wal

-- The medium a life leaves when its process stops or when it closes the log.
def Session.Leaves (s : Session) (img : Image) : Prop :=
  img = s.wal.dev.medium.cur ∨ img = (s.wal.close s.level).2.dev.medium.cur

-- What two sessions have in common when only their logs may differ.
structure Session.Alike (s t : Session) : Prop where
  entries : s.entries = t.entries
  level : s.level = t.level
  captured : s.captured = t.captured
  covered : s.covered = t.covered
  reclaimed : s.reclaimed = t.reclaimed

-- Two sessions over the same frames. Their open windows need not agree, and so
-- neither does how much each has written out between two flushes.
structure Twin (g : Ring) (bufBlocks : Nat) (base : Image) (u v : WalView) (s t : Session) : Prop where
  left : SessionInv g bufBlocks u s
  right : SessionInv g bufBlocks v t
  laidLeft : Laid g u.entries base u.visible s.wal.dev.medium.cur
  laidRight : Laid g v.entries base v.visible t.wal.dev.medium.cur
  alike : s.Alike t

theorem twin_next (g : Ring) (bufBlocks : Nat) (base : Image) (u v u' v' : WalView) (s t s' t' : Session)
    (twin : Twin g bufBlocks base u v s t) (left : SessionStep g bufBlocks u s u' s') (right : SessionStep g bufBlocks v t v' t')
    (alike : s'.Alike t') : Twin g bufBlocks base u' v' s' t' :=
  ⟨left.inv, right.inv, left.laid base twin.laidLeft, right.laid base twin.laidRight, alike⟩

theorem twin_views (g : Ring) (bufBlocks : Nat) (base : Image) (u v : WalView) (s t : Session)
    (twin : Twin g bufBlocks base u v s t) : u.entries = v.entries ∧ u.head = v.head := by
  refine ⟨twin.left.entries.trans (twin.alike.entries.trans twin.right.entries.symm), ?_⟩
  rw [twin.left.head, twin.right.head, twin.alike.reclaimed]

theorem slots_same_ring (g : Ring) (bufBlocks : Nat) (u v : WalView) (a b : Wal) (left : WalInv g bufBlocks u a) (right : WalInv g bufBlocks v b)
    (slots : ∀ p < g.slots, slotBytes a.dev.medium.cur p = slotBytes b.dev.medium.cur p) : a.SameRing b := by
  refine ⟨left.ringStart.trans right.ringStart.symm, left.ringEnd.trans right.ringEnd.symm, fun o lower upper => ?_⟩
  rw [left.ringStart] at lower
  rw [left.ringEnd, Ring.bytes] at upper
  have here := read_eq_at _ _ _ 128 ((o - 8192) % 128) (slots ((o - 8192) / 128) (by rw [Ring.slots]; omega)) (by omega)
  rw [show 8192 + 128 * ((o - 8192) / 128) + (o - 8192) % 128 = o by omega] at here
  exact here

-- With nothing owed on either side the two rings hold the same bytes.
theorem twin_ring (g : Ring) (bufBlocks : Nat) (base : Image) (u v : WalView) (s t : Session)
    (twin : Twin g bufBlocks base u v s t) (left : u.synced = u.entries.length) (right : v.synced = v.entries.length) :
    s.wal.SameRing t.wal := by
  obtain ⟨entries, _⟩ := twin_views g bufBlocks base u v s t twin
  have lLaid := twin.laidLeft
  have rLaid := twin.laidRight
  rw [twin.left.quiet.settled, left, entries] at lLaid
  rw [twin.right.quiet.settled, right] at rLaid
  exact slots_same_ring g bufBlocks u v s.wal t.wal twin.left.quiet.inv twin.right.quiet.inv (laid_unique g v.entries base _ _ _ lLaid rLaid)

-- An accepted frame leaves the block before the head free.
theorem accepted_room (g : Ring) (bufBlocks : Nat) (v next : WalView) (s after : Session) (e : WalEntry)
    (step : SessionStep g bufBlocks v s next after) (grown : v.Grows next [e]) : v.entries.length < 32 * (v.head + g.blocks - 1) := by
  have room := wal_written_room g bufBlocks next after.wal step.inv.quiet.inv
  rw [grown.entries, grown.head, List.length_append, List.length_singleton, Ring.slots] at room
  omega

theorem twin_write (g : Ring) (bufBlocks : Nat) (base : Image) (u v : WalView) (s t : Session) (e : WalEntry)
    (twin : Twin g bufBlocks base u v s t) :
    (s.writeEntry e).1 = (t.writeEntry e).1 ∧ ∃ u' v', Twin g bufBlocks base u' v' (s.writeEntry e).2 (t.writeEntry e).2 := by
  by_cases short : e.key.length ≤ kWalKeyMax
  · obtain ⟨u', more, left, grown, kept, outcome⟩ := write_view g bufBlocks u s e twin.left short
    obtain ⟨v', more', right, grown', kept', outcome'⟩ := write_view g bufBlocks v t e twin.right short
    obtain ⟨entries, head⟩ := twin_views g bufBlocks base u v s t twin
    have alike := twin.alike
    -- Both refuse at the same length, so they accept the same frames.
    have same : (s.writeEntry e).1 = (t.writeEntry e).1 ∧ more = more' := by
      rcases outcome with ⟨done, rfl⟩ | ⟨done, rfl, full⟩ <;> rcases outcome' with ⟨done', rfl⟩ | ⟨done', rfl, full'⟩
      · exact ⟨done.trans done'.symm, rfl⟩
      · have room := accepted_room g bufBlocks u u' s _ e left grown
        rw [entries, head] at room
        omega
      · have room := accepted_room g bufBlocks v v' t _ e right grown'
        rw [entries, head] at full
        omega
      · exact ⟨done.trans done'.symm, rfl⟩
    refine ⟨same.1, u', v', twin_next g bufBlocks base u v u' v' s t _ _ twin left right ⟨?_, ?_, ?_, ?_, ?_⟩⟩
    · rw [← left.inv.entries, ← right.inv.entries, grown.entries, grown'.entries, entries, same.2]
    · rw [kept.level, kept'.level, alike.level]
    · rw [kept.captured, kept'.captured, alike.captured]
    · rw [kept.covered, kept'.covered, alike.covered]
    · rw [kept.reclaimed, kept'.reclaimed, alike.reclaimed]
  · rw [write_long s e short, write_long t e short]
    exact ⟨rfl, u, v, twin⟩

theorem twin_flush (g : Ring) (bufBlocks : Nat) (base : Image) (u v : WalView) (s t : Session)
    (twin : Twin g bufBlocks base u v s t) :
    s.flushAll.1 = t.flushAll.1 ∧ ∃ u' v', Twin g bufBlocks base u' v' s.flushAll.2 t.flushAll.2 ∧
      u'.synced = u'.entries.length ∧ v'.synced = v'.entries.length := by
  obtain ⟨u', left, grown, all, _, captured, covered, reclaimed, level, done⟩ := flush_all_view g bufBlocks u s twin.left
  obtain ⟨v', right, grown', all', _, captured', covered', reclaimed', level', done'⟩ := flush_all_view g bufBlocks v t twin.right
  obtain ⟨entries, _⟩ := twin_views g bufBlocks base u v s t twin
  have alike := twin.alike
  refine ⟨done.trans done'.symm, u', v', twin_next g bufBlocks base u v u' v' s t _ _ twin left right ⟨?_, ?_, ?_, ?_, ?_⟩, all, all'⟩
  · rw [← left.inv.entries, ← right.inv.entries, grown.entries, grown'.entries, entries]
  · rw [level, level', alike.level]
  · rw [captured, captured', entries, alike.captured]
  · rw [covered, covered', alike.covered]
  · rw [reclaimed, reclaimed', alike.reclaimed]

theorem twin_change_level (g : Ring) (bufBlocks : Nat) (base : Image) (u v : WalView) (s t : Session) (level : WalLevel)
    (twin : Twin g bufBlocks base u v s t) :
    (s.changeLevel level).1 = (t.changeLevel level).1 ∧
      ∃ u' v', Twin g bufBlocks base u' v' (s.changeLevel level).2 (t.changeLevel level).2 := by
  obtain ⟨u', left, grown, done, at_, captured, covered, reclaimed, _⟩ := change_level_view g bufBlocks u s level twin.left
  obtain ⟨v', right, grown', done', at_', captured', covered', reclaimed', _⟩ := change_level_view g bufBlocks v t level twin.right
  obtain ⟨entries, _⟩ := twin_views g bufBlocks base u v s t twin
  have alike := twin.alike
  refine ⟨by rw [done, done'], u', v', twin_next g bufBlocks base u v u' v' s t _ _ twin left right ⟨?_, ?_, ?_, ?_, ?_⟩⟩
  · rw [← left.inv.entries, ← right.inv.entries, grown.entries, grown'.entries, entries]
  · rw [at_, at_']
  · rw [captured, captured', alike.captured]
  · rw [covered, covered', alike.covered]
  · rw [reclaimed, reclaimed', alike.reclaimed]

theorem twin_cover (g : Ring) (bufBlocks : Nat) (base : Image) (u v : WalView) (s t : Session) (pair : Nat)
    (twin : Twin g bufBlocks base u v s t) :
    (s.coverPair pair).1 = (t.coverPair pair).1 ∧ ∃ u' v', Twin g bufBlocks base u' v' (s.coverPair pair).2 (t.coverPair pair).2 := by
  have left := cover_session g bufBlocks u s pair twin.left
  have right := cover_session g bufBlocks v t pair twin.right
  have alike := twin.alike
  have both : (s.coverPair pair).1 = (t.coverPair pair).1 ∧ (s.coverPair pair).2.Alike (t.coverPair pair).2 := by
    unfold Session.coverPair
    rw [alike.captured, alike.covered]
    cases t.captured[pair]? with
    | none => exact ⟨rfl, alike⟩
    | some p =>
        dsimp only
        split
        · exact ⟨rfl, alike.entries, alike.level, rfl, rfl, alike.reclaimed⟩
        · exact ⟨rfl, alike⟩
  exact ⟨both.1, u, v, twin_next g bufBlocks base u v u v s t _ _ twin left right both.2⟩

theorem twin_reclaim (g : Ring) (bufBlocks : Nat) (base : Image) (u v : WalView) (s t : Session) (pair : Nat)
    (twin : Twin g bufBlocks base u v s t) :
    (s.reclaimPair pair).1 = (t.reclaimPair pair).1 ∧
      ∃ u' v', Twin g bufBlocks base u' v' (s.reclaimPair pair).2 (t.reclaimPair pair).2 := by
  have alike := twin.alike
  cases found : t.captured[pair]? with
  | none =>
      have found' : s.captured[pair]? = none := by rw [alike.captured, found]
      simp only [Session.reclaimPair, found, found']
      exact ⟨trivial, u, v, twin⟩
  | some p =>
      obtain ⟨covered, boundary⟩ := p
      have found' : s.captured[pair]? = some (covered, boundary) := by rw [alike.captured, found]
      by_cases late : t.reclaimed ≤ covered
      · have late' : s.reclaimed ≤ covered := by rw [alike.reclaimed]; exact late
        obtain ⟨left, covers, captured, level, reclaimed, done⟩ :=
          reclaim_view g bufBlocks u s pair covered boundary twin.left found' late'
        obtain ⟨right, covers', captured', level', reclaimed', done'⟩ :=
          reclaim_view g bufBlocks v t pair covered boundary twin.right found late
        obtain ⟨entries, _⟩ := twin_views g bufBlocks base u v s t twin
        refine ⟨done.trans done'.symm, _, _, twin_next g bufBlocks base u v _ _ s t _ _ twin left right ⟨?_, ?_, ?_, ?_, ?_⟩⟩
        · rw [← left.inv.entries, ← right.inv.entries]
          exact entries
        · rw [level, level', alike.level]
        · rw [captured, captured', alike.captured]
        · rw [covers, covers', alike.covered]
        · rw [reclaimed, reclaimed']
      · have late' : ¬ s.reclaimed ≤ covered := by rw [alike.reclaimed]; exact late
        simp only [Session.reclaimPair, found, found', if_neg late, if_neg late']
        exact ⟨trivial, u, v, twin⟩

theorem twin_step (g : Ring) (bufBlocks : Nat) (base : Image) (u v : WalView) (s t : Session) (op : SessionOp)
    (twin : Twin g bufBlocks base u v s t) :
    (s.step op).1 = (t.step op).1 ∧ ∃ u' v', Twin g bufBlocks base u' v' (s.step op).2 (t.step op).2 := by
  cases op with
  | write e => exact twin_write g bufBlocks base u v s t e twin
  | flush =>
      obtain ⟨codes, u', v', next, _⟩ := twin_flush g bufBlocks base u v s t twin
      exact ⟨codes, u', v', next⟩
  | setLevel level => exact twin_change_level g bufBlocks base u v s t level twin
  | cover pair => exact twin_cover g bufBlocks base u v s t pair twin
  | reclaim pair => exact twin_reclaim g bufBlocks base u v s t pair twin

theorem twin_run (g : Ring) (bufBlocks : Nat) (base : Image) (ops : List SessionOp) : ∀ u v s t, Twin g bufBlocks base u v s t →
    s.codes ops = t.codes ops ∧ ∃ u' v', Twin g bufBlocks base u' v' (s.run ops) (t.run ops) := by
  induction ops with
  | nil => exact fun u v s t twin => ⟨rfl, u, v, twin⟩
  | cons op ops ih =>
      intro u v s t twin
      obtain ⟨code, mid, mid', next⟩ := twin_step g bufBlocks base u v s t op twin
      obtain ⟨codes, last⟩ := ih mid mid' _ _ next
      exact ⟨by rw [Session.codes, Session.codes, code, codes], last⟩

theorem run_last (s : Session) (ops : List SessionOp) (op : SessionOp) : s.run (ops ++ [op]) = ((s.run ops).step op).2 := by
  rw [Session.run, List.foldl_append]
  rfl

theorem twin_mirrors (g : Ring) (bufBlocks : Nat) (base : Image) (u v : WalView) (s t : Session)
    (twin : Twin g bufBlocks base u v s t) : s.Mirrors t := by
  refine ⟨fun ops => (twin_run g bufBlocks base ops u v s t twin).1, fun ops => ?_, fun ops e sync => ?_⟩
  · obtain ⟨_, mid, mid', here⟩ := twin_run g bufBlocks base ops u v s t twin
    obtain ⟨_, last, last', next, all, all'⟩ := twin_flush g bufBlocks base mid mid' _ _ here
    rw [run_last, run_last]
    exact twin_ring g bufBlocks base last last' _ _ next all all'
  · obtain ⟨_, mid, mid', here⟩ := twin_run g bufBlocks base ops u v s t twin
    obtain ⟨_, last, last', next⟩ := twin_write g bufBlocks base mid mid' _ _ e here
    rw [run_last, run_last]
    have level : ((s.run ops).writeEntry e).2.level = (s.run ops).level := rfl
    have level' : ((t.run ops).writeEntry e).2.level = (t.run ops).level := rfl
    refine twin_ring g bufBlocks base last last' _ _ next (next.left.quiet.owed ?_).1 (next.right.quiet.owed ?_).1
    · rw [level]
      exact sync
    · rw [level', ← here.alike.level]
      exact sync

-- Everything a session wrote is durable and only the frames of a half block are
-- kept in the buffer.
structure Settled (v : WalView) (s : Session) : Prop where
  synced : v.synced = v.entries.length
  few : s.wal.nFrames < 32

theorem settled_step (g : Ring) (bufBlocks : Nat) (v : WalView) (s : Session) (op : SessionOp) (inv : SessionInv g bufBlocks v s)
    (settled : Settled v s) (idle : op.writes = false) :
    ∃ next, SessionStep g bufBlocks v s next (s.step op).2 ∧ Settled next (s.step op).2 := by
  cases op with
  | write e => cases idle
  | flush =>
      obtain ⟨next, step, _, all, few, _⟩ := flush_all_view g bufBlocks v s inv
      exact ⟨next, step, all, few⟩
  | setLevel level =>
      obtain ⟨next, step, _, _, _, _, _, _, outcome⟩ := change_level_view g bufBlocks v s level inv
      refine ⟨next, step, ?_⟩
      rcases outcome with ⟨rfl, same⟩ | ⟨all, few⟩
      · exact ⟨settled.synced, by show (s.changeLevel level).2.wal.nFrames < 32; rw [same]; exact settled.few⟩
      · exact ⟨all, few⟩
  | cover pair =>
      have wal : (s.coverPair pair).2.wal = s.wal := by
        unfold Session.coverPair
        cases s.captured[pair]? with
        | none => rfl
        | some p =>
            dsimp only
            split <;> rfl
      refine ⟨v, cover_session g bufBlocks v s pair inv, settled.synced, ?_⟩
      show (s.coverPair pair).2.wal.nFrames < 32
      rw [wal]
      exact settled.few
  | reclaim pair =>
      have frames : (s.reclaimPair pair).2.wal.nFrames = s.wal.nFrames := by
        unfold Session.reclaimPair
        cases s.captured[pair]? with
        | none => rfl
        | some p =>
            dsimp only
            split
            · unfold Wal.reclaimUpTo
              dsimp only
              split <;> rfl
            · rfl
      obtain ⟨next, step, same⟩ : ∃ next, SessionStep g bufBlocks v s next (s.reclaimPair pair).2 ∧
          next.synced = v.synced ∧ next.entries = v.entries := by
        cases found : s.captured[pair]? with
        | none =>
            have still := session_still g bufBlocks v s s.level inv inv.quiet
            exact ⟨v, by simpa [Session.reclaimPair, found] using still, rfl, rfl⟩
        | some p =>
            obtain ⟨covered, boundary⟩ := p
            by_cases late : s.reclaimed ≤ covered
            · exact ⟨_, (reclaim_view g bufBlocks v s pair covered boundary inv found late).1, rfl, rfl⟩
            · have still := session_still g bufBlocks v s s.level inv inv.quiet
              exact ⟨v, by simpa [Session.reclaimPair, found, late] using still, rfl, rfl⟩
      refine ⟨next, step, by rw [same.1, same.2]; exact settled.synced, ?_⟩
      show (s.reclaimPair pair).2.wal.nFrames < 32
      rw [frames]
      exact settled.few

theorem settled_run (g : Ring) (bufBlocks : Nat) (ops : List SessionOp) : ∀ (v : WalView) (s : Session), SessionInv g bufBlocks v s →
    Settled v s → (∀ op ∈ ops, op.writes = false) →
    ∃ next, SessionInv g bufBlocks next (s.run ops) ∧ Settled next (s.run ops) ∧ next.prior = v.prior ∧ (v.Intact → next.Intact) ∧
      ∀ base, Laid g v.entries base v.visible s.wal.dev.medium.cur →
        Laid g next.entries base next.visible (s.run ops).wal.dev.medium.cur := by
  induction ops with
  | nil => exact fun v s inv settled _ => ⟨v, inv, settled, rfl, id, fun _ laid => laid⟩
  | cons op ops ih =>
      intro v s inv settled idle
      obtain ⟨mid, step, here⟩ := settled_step g bufBlocks v s op inv settled (idle op (by simp))
      obtain ⟨next, kept, last, prior, intact, laid⟩ := ih mid _ step.inv here fun op' member => idle op' (List.mem_cons_of_mem _ member)
      exact ⟨next, kept, last, prior.trans step.prior, fun whole => intact (step.intact whole), fun base old => laid base (step.laid base old)⟩

-- What a settled session leaves is its whole ring, closed or not.
theorem settled_image (g : Ring) (bufBlocks : Nat) (base : Image) (v : WalView) (s : Session) (img : Image)
    (inv : SessionInv g bufBlocks v s) (settled : Settled v s) (stale : ∀ img, NoStale g v.prior img)
    (fits : s.entries.length < 2 ^ 64) (laid : Laid g v.entries base v.visible s.wal.dev.medium.cur) (leaves : s.Leaves img) :
    ∃ h, CrashImage g h s.entries.length s.entries.length s.covered img ∧ h.entries = s.entries ∧ h.lo = v.lo ∧
      Laid g s.entries base s.entries.length img := by
  have total : v.synced = s.entries.length := by rw [settled.synced, inv.entries]
  rcases leaves with rfl | rfl
  · have ok := crash_at_rest g bufBlocks v s inv
    rw [total] at ok
    refine ⟨v.toHistory, crash_image g bufBlocks s _ _ _ _ _ ok (survives_self kSectorSize _) (stale _) ?_, inv.entries, rfl, ?_⟩
    · show v.entries.length < 2 ^ 64
      rw [inv.entries]
      exact fits
    · rw [inv.quiet.settled, total, inv.entries] at laid
      exact laid
  · obtain ⟨_, h, ok, prior, lo, entries, _⟩ := close_session g bufBlocks v s inv
    refine ⟨h, crash_image g bufBlocks s _ _ _ _ _ ok (survives_self kSectorSize _) (by rw [prior]; exact stale _)
      (by rw [entries]; exact fits), entries, lo, ?_⟩
    obtain ⟨next, after, done, step, all, _⟩ := flush_session g bufBlocks v s inv
    have buffered : s.wal.curBuf ≠ none := by simp [inv.quiet.inv.buffer]
    have same : next.entries = s.entries := by rw [step.grown.entries, List.append_nil, inv.entries]
    have close : (s.wal.close s.level).2.dev.medium = after.dev.medium := by
      simp [Wal.close, buffered, done, RawDevice.close]
    have last := step.laid base laid
    rw [step.quiet.settled, all, same] at last
    rw [close]
    exact last

-- The recovered log in place of the one that stopped, with everything else the
-- writer knew.
theorem resumed_session (g : Ring) (bufBlocks : Nat) (base : Image) (v : WalView) (s : Session) (h : History) (img : Image) (w : Wal)
    (inv : SessionInv g bufBlocks v s) (settled : Settled v s) (intact : v.Intact) (reclaimed : s.reclaimed = s.covered)
    (crash : CrashImage g h s.entries.length s.entries.length s.covered img) (entries : h.entries = s.entries) (lo : h.lo = v.lo)
    (reopened : Reopened g bufBlocks img w) (laid : Laid g s.entries base s.entries.length img) :
    ∃ next, SessionInv g bufBlocks next { s with wal := recoveredWal g bufBlocks s.entries s.covered s.entries.length w w.dev } ∧
      Laid g next.entries base next.visible w.dev.medium.cur := by
  have image : w.dev.medium.cur = img := by rw [reopened.image]; rfl
  have clean : w.dev.medium.unsynced = [] := by rw [reopened.image]; rfl
  have total : v.entries.length = s.entries.length := by rw [inv.entries]
  have count := inv.quiet.inv.count
  have few := settled.few
  have synced := settled.synced
  have inside := inv.covered
  have near := crash.near
  have head := inv.head
  have headCur := inv.quiet.inv.headCur
  have loCur := inv.quiet.inv.loCur
  have block : s.entries.length / 32 = v.cur := by omega
  have low : v.lo ≤ 32 * (s.covered / 32) := by
    unfold WalView.Intact at intact
    rw [head, reclaimed] at intact
    exact intact
  have all : s.entries.take s.entries.length = s.entries := List.take_length
  have placed := placed_of_ring g h _ _ img crash.ring crash.stale crash.listed crash.fits crash.short
  have ok : RingOk g (WalView.recovered g bufBlocks h s.covered s.entries.length (max h.lo (32 * (s.covered / 32) - 32))).toHistory
      s.entries.length s.entries.length w.dev.medium.cur := by
    rw [image]
    refine ring_ok_recovered g h s.entries.length s.entries.length s.covered s.entries.length _ img crash.ring crash.listed crash.inside
      (Nat.le_max_left _ _) (by rw [lo]; omega) (fun u from_ below => ?_) fun u late here => ?_
    · exact present_kept g h _ _ img crash.ring crash.listed u (by rw [lo]; omega) below
    · have below := present_written g h.entries _ img placed u here
      omega
  have quiet := recovered_quiet g bufBlocks h s.covered s.entries.length _ w w.dev s.level reopened.ready reopened.ring
    reopened.bufRoom reopened.healthy rfl clean (by omega) crash.listed (by omega) (by omega) (by rw [lo]; omega) crash.short ok
  rw [entries] at quiet
  refine ⟨_, ⟨quiet, ?_, ?_, ?_, ?_, inv.reclaimed, fun pair member => ?_, .inl ⟨?_, ?_⟩⟩, ?_⟩
  · show h.entries.take s.entries.length = s.entries
    rw [entries, all]
  · show s.acked ≤ s.entries.length
    have acked := inv.acked
    omega
  · show s.covered ≤ s.entries.length
    omega
  · show s.covered / 32 = s.reclaimed / 32
    rw [reclaimed]
  · obtain ⟨below, boundary, behind, ahead⟩ := inv.pairs pair member
    refine ⟨?_, boundary, ?_, fun late => ?_⟩
    · show pair.1 ≤ s.entries.length
      omega
    · show pair.1 / 32 ≤ s.entries.length / 32
      rw [block]
      exact behind
    · obtain ⟨_, lower, first⟩ := ahead late
      rw [reclaimed] at late
      show s.covered / 32 ≤ pair.1 / 32 ∧ max h.lo (32 * (s.covered / 32) - 32) ≤ 32 * (pair.1 / 32) ∧
        (pair.1 = 0 ∨ max h.lo (32 * (s.covered / 32) - 32) < pair.1)
      rw [lo]
      omega
  · show max h.lo (32 * (s.covered / 32) - 32) ≤ 32 * (s.covered / 32)
    rw [lo]
    omega
  · show s.covered = 0 ∨ max h.lo (32 * (s.covered / 32) - 32) < s.covered ∨ s.covered < s.entries.length
    have base := inv.base
    rw [lo]
    rcases base with ⟨_, first⟩ | ⟨_, erased, _⟩ <;> omega
  · show Laid g (h.entries.take s.entries.length) base s.entries.length w.dev.medium.cur
    rw [entries, all, image]
    exact laid

theorem resumed_state (g : Ring) (bufBlocks : Nat) (v : WalView) (s : Session) (w : Wal) (ready : Readable g bufBlocks w)
    (inv : SessionInv g bufBlocks v s) (settled : Settled v s) (reclaimed : s.reclaimed = s.covered) :
    (recoveredWal g bufBlocks s.entries s.covered s.entries.length w w.dev).SameState s.wal := by
  have was := inv.quiet.inv
  have count := was.count
  have few := settled.few
  have total : v.entries.length = s.entries.length := by rw [inv.entries]
  have near := wal_live_room g bufBlocks v s.wal was
  have block : s.entries.length / 32 = v.cur := by omega
  have kept : s.entries.length % 32 = s.wal.nFrames := by omega
  have head : s.covered / 32 = v.head := by rw [inv.head, reclaimed]
  have opens := window_at_open g bufBlocks s.wal v.head v.cur was.headCur near was.bufSize was.ringStart was.ringEnd was.headOff
  have again := window_at_open g bufBlocks (recoveredWal g bufBlocks s.entries s.covered s.entries.length w w.dev) v.head v.cur was.headCur
    near ready.bufSize ready.ringStart ready.ringEnd (by rw [← head]; rfl)
  refine ⟨?_, kept, ?_, ?_, ?_, ?_⟩
  · show g.blockOff (s.entries.length / 32) = s.wal.curOff
    rw [block, was.curOff]
  · show s.entries.length + 1 = s.wal.seqNext
    rw [was.seqNext, total]
  · show g.blockOff (s.covered / 32) = s.wal.headOff
    rw [head, was.headOff]
  · show some (windowBuf s.entries (32 * (s.entries.length / 32)) (s.entries.length % 32) (4096 * bufBlocks)) = s.wal.curBuf
    rw [was.buffer, block, kept, inv.entries]
  · rw [was.curOff, opens]
    show (recoveredWal g bufBlocks s.entries s.covered s.entries.length w w.dev).windowAt (g.blockOff (s.entries.length / 32)) = _
    rw [block, again]

-- A run that ends with everything flushed and its last boundary given back is
-- recovered to the state it stopped in, and continues as if it had not stopped.
theorem recovery_resumes (dev : RawDevice) (opts : Options) (created : Wal) (level : WalLevel) (ops last : List SessionOp) (s : Session)
    (img : Image) (opts' : Options) (w : Wal) (fresh : FreshDevice dev) (create : opts.create = true)
    (opened : (Wal.unopened dev).openWal opts = (Err.kSuccess, created)) (allocated : Allocated created) (buffer : 0 < created.bufSize)
    (ran : (Session.start created level).run (ops ++ .flush :: last) = s) (idle : ∀ op ∈ last, op.writes = false)
    (reclaimed : s.reclaimed = s.covered) (fits : s.entries.length < 2 ^ 64) (leaves : s.Leaves img) (reopens : s.Reopens img opts' w)
    (same : w.bufSize = s.wal.bufSize) :
    ∃ resumed, w.recover s.covered collect [] =
        ⟨Err.kSuccess, resumed, framesOf s.entries s.covered (s.entries.length - s.covered)⟩ ∧
      resumed.SameState s.wal ∧ s.Mirrors { s with wal := resumed } := by
  have just := open_wal_success dev opts created opened
  obtain ⟨g, bufBlocks, inv, blank⟩ := created_session dev opts created level fresh create just allocated buffer
  have laid : Laid g [] dev.medium.cur 0 created.dev.medium.cur := by
    rw [just.device]
    exact laid_base g dev.medium.cur
  obtain ⟨mid, midInv, midPrior, midIntact, midLaid⟩ := session_run g bufBlocks ops _ _ inv
  obtain ⟨flushed, step, _, all, few, _⟩ := flush_all_view g bufBlocks mid _ midInv
  obtain ⟨v, inv', settled, prior, intact, whole⟩ := settled_run g bufBlocks last flushed _ step.inv ⟨all, few⟩ idle
  have split : (((Session.start created level).run ops).flushAll.2).run last = s := by
    rw [← ran]
    simp only [Session.run, List.foldl_append, List.foldl_cons]
    rfl
  rw [split] at inv' settled whole
  have held := whole dev.medium.cur (step.laid _ (midLaid _ laid))
  have intact' := intact (step.intact (midIntact (Nat.le_refl 0)))
  have stale (img : Image) : NoStale g v.prior img := by
    rw [prior, step.prior, midPrior]
    exact blank_stale g _ img blank
  obtain ⟨h, crash, entries, lo, laid'⟩ := settled_image g bufBlocks dev.medium.cur v s img inv' settled stale fits held leaves
  have pos : 0 < w.bufSize := by
    rw [same, inv'.quiet.inv.bufSize]
    have := inv'.quiet.inv.bufPos
    omega
  obtain ⟨b, reopened⟩ := reopens_ready g s img opts' w reopens pos inv'.quiet.inv.ring inv'.quiet.healthy.readable
  have equal := reopened_buffer g bufBlocks b v s img w inv' reopened same
  subst equal
  have low : h.lo ≤ 32 * (s.covered / 32) := by
    unfold WalView.Intact at intact'
    rw [inv'.head, reclaimed] at intact'
    rw [lo]
    exact intact'
  have recovered := whole_image_recovers g b h s.entries.length s.covered img w crash reopened low
  rw [entries] at recovered
  obtain ⟨next, resumed, laidNext⟩ := resumed_session g b dev.medium.cur v s h img w inv' settled intact' reclaimed crash entries lo
    reopened laid'
  exact ⟨_, recovered, resumed_state g b v s w reopened.ready inv' settled reclaimed,
    twin_mirrors g b dev.medium.cur v next s _ ⟨inv', resumed, held, laidNext, rfl, rfl, rfl, rfl, rfl⟩⟩

-- It is so exactly when the configured buffer holds a block: with a size next to
-- 2^64 the run takes no frame, and its recovery never ends.
theorem recovery_resumes_iff (dev : RawDevice) (opts : Options) (created : Wal) (level : WalLevel) (ops last : List SessionOp) (s : Session)
    (img : Image) (opts' : Options) (w : Wal) (fresh : FreshDevice dev) (create : opts.create = true)
    (opened : (Wal.unopened dev).openWal opts = (Err.kSuccess, created)) (allocated : Allocated created)
    (ran : (Session.start created level).run (ops ++ .flush :: last) = s) (idle : ∀ op ∈ last, op.writes = false)
    (reclaimed : s.reclaimed = s.covered) (fits : s.entries.length < 2 ^ 64) (leaves : s.Leaves img) (reopens : s.Reopens img opts' w)
    (same : w.bufSize = s.wal.bufSize) :
    (∃ resumed, w.recover s.covered collect [] =
        ⟨Err.kSuccess, resumed, framesOf s.entries s.covered (s.entries.length - s.covered)⟩ ∧
      resumed.SameState s.wal ∧ s.Mirrors { s with wal := resumed }) ↔
      0 < roundUpBufferSize opts.walBufferSize kWalBlockSize := by
  have just := open_wal_success dev opts created opened
  rw [← just.bufSize]
  constructor
  · rintro ⟨resumed, recovered, _⟩
    have pos := reopens_pos s img opts' w s.covered collect [] reopens (by rw [recovered])
    by_contra none_
    have stuck := stuck_open dev opts created just create (Nat.eq_zero_of_not_pos none_)
    have still := stuck_run created stuck (ops ++ .flush :: last) _ (stuck_start created level)
    rw [ran] at still
    rw [same, still.wal] at pos
    exact none_ pos
  · intro buffer
    exact recovery_resumes dev opts created level ops last s img opts' w fresh create opened allocated buffer ran idle reclaimed fits leaves
      reopens same

-- One frame, flushed, with its boundary given back.
def settledLife : Session := (Session.start (blankWal 2 1) .valueSync).run ([.write (plainEntry 1)] ++ .flush :: [.reclaim 0])

theorem settled_life_inv : ∃ g v, SessionInv g 1 v settledLife ∧ settledLife.reclaimed = settledLife.covered ∧
    settledLife.entries.length = 1 := by
  obtain ⟨g, blocks, inv, _⟩ := blank_session 2 1 .valueSync (by decide) (by decide) (by decide)
  obtain ⟨u, written, grown, kept⟩ := writes_session g 1 [plainEntry 1] _ _ inv (by decide) (show 1 ≤ 32 * (0 + g.blocks - 1) by omega)
  have split : settledLife =
      (((Session.start (blankWal 2 1) .valueSync).run ([plainEntry 1].map .write)).flushAll.2.reclaimPair 0).2 := rfl
  rw [split]
  generalize (Session.start (blankWal 2 1) .valueSync).run ([plainEntry 1].map .write) = s at written kept ⊢
  have count : u.entries.length = 1 := by
    rw [grown.entries]
    rfl
  obtain ⟨v, step, grown', _, _, captured, covered, reclaimed, _⟩ := flush_all_view g 1 u s written
  rw [kept.captured, count] at captured
  have zero : s.reclaimed = 0 := kept.reclaimed
  have none_ : s.covered = 0 := kept.covered
  obtain ⟨last, covers, _, _, back, _⟩ := reclaim_view g 1 v s.flushAll.2 0 1 (g.blockOff (1 / 32)) step.inv (by rw [captured]; rfl) (by omega)
  refine ⟨g, _, last.inv, by rw [back, covers, covered, none_]; rfl, ?_⟩
  rw [← last.inv.entries]
  show v.entries.length = 1
  rw [grown'.entries, List.append_nil, count]

theorem recovery_resumes_settled : ∃ w resumed, settledLife.Reopens settledLife.wal.dev.medium.cur (plainOptions false 1) w ∧
    w.recover settledLife.covered collect [] = ⟨Err.kSuccess, resumed,
      framesOf settledLife.entries settledLife.covered (settledLife.entries.length - settledLife.covered)⟩ ∧
    resumed.SameState settledLife.wal ∧ settledLife.Mirrors { settledLife with wal := resumed } := by
  obtain ⟨opened, size⟩ := blank_opens 2 1 (by decide) (by decide) (by decide)
  obtain ⟨g, v, inv, reclaimed, count⟩ := settled_life_inv
  obtain ⟨w, reopens, same, _⟩ := plain_reopens g 1 v settledLife settledLife.wal.dev.medium.cur inv (by decide)
  obtain ⟨resumed, result⟩ := (recovery_resumes_iff _ _ _ .valueSync [.write (plainEntry 1)] [.reclaim 0] settledLife _ _ w (blank_fresh 2) rfl
    opened (by unfold Allocated; omega) rfl (by decide) reclaimed (by omega) (.inl rfl) reopens same).mpr (by decide)
  exact ⟨w, resumed, reopens, result⟩

-- The size 2^64 - 1 rounds up to no block. A run that flushes and gives back its
-- boundary succeeds, and the recovery after it never returns.
theorem wrapped_buffer_resumes_never : ∃ created w,
    (Wal.unopened (blankDevice 2)).openWal { plainOptions true 1 with walBufferSize := 2 ^ 64 - 1 } = (Err.kSuccess, created) ∧
      (Session.start created .strict).codes [.flush, .reclaim 0] = [Err.kSuccess, Err.kSuccess] ∧
      ((Session.start created .strict).run [.flush, .reclaim 0]).reclaimed = ((Session.start created .strict).run [.flush, .reclaim 0]).covered ∧
      ((Session.start created .strict).run [.flush, .reclaim 0]).Reopens created.dev.medium.cur
        { plainOptions false 1 with walBufferSize := 2 ^ 64 - 1 } w ∧
      w.bufSize = created.bufSize ∧
      (w.recover ((Session.start created .strict).run [.flush, .reclaim 0]).covered collect []).rc = Err.kNeverReturns := by
  obtain ⟨created, opened⟩ : ∃ created, (Wal.unopened (blankDevice 2)).openWal { plainOptions true 1 with walBufferSize := 2 ^ 64 - 1 } =
    (Err.kSuccess, created) := ⟨_, rfl⟩
  have just := open_wal_success _ _ created opened
  have empty : created.bufSize = 0 := just.bufSize.trans (by decide)
  have stuck := stuck_open _ _ created just rfl empty
  have still := stuck_run created stuck [.flush, .reclaim 0] _ (stuck_start created .strict)
  have codes : (Session.start created .strict).codes [.flush, .reclaim 0] = [Err.kSuccess, Err.kSuccess] := by
    cases opened
    rfl
  have device : created.dev.reboot created.dev.medium.cur = blankDevice 2 := by
    cases opened
    rfl
  obtain ⟨w, reopened⟩ : ∃ w, (Wal.unopened (blankDevice 2)).openWal { plainOptions false 1 with walBufferSize := 2 ^ 64 - 1 } =
    (Err.kSuccess, w) := ⟨_, rfl⟩
  have just' := open_wal_success _ _ w reopened
  have empty' : w.bufSize = 0 := just'.bufSize.trans (by decide)
  refine ⟨created, w, opened, codes, still.reclaimed.trans still.covered.symm, ⟨rfl, ?_, by unfold Allocated; omega⟩, empty'.trans empty.symm,
    stuck_recover_endless _ _ w just' empty' rfl _ collect []⟩
  rw [still.wal, device]
  exact reopened

end Cabe
