import Cabe.ReactorSession
import Cabe.SnapshotRest

set_option autoImplicit false

namespace Cabe

open Storage Concurrency

theorem replay_from_append {σ : Type} (fn : WalReplayFn σ) (entries more : List WalEntry) (count : Nat) : ∀ (v : Nat) (st : σ),
    v + count ≤ entries.length → replayFrom fn (entries ++ more) v count st = replayFrom fn entries v count st := by
  induction count with
  | zero => exact fun _ _ _ => rfl
  | succ count ih =>
      intro v st inside
      simp only [replayFrom]
      rw [List.getElem?_append_left (by omega)]
      cases fn st ((entries[v]?).getD default) (v + 1) with
      | error rc => rfl
      | ok next => exact ih (v + 1) next (by omega)

theorem replay_from_more {σ : Type} (fn : WalReplayFn σ) (entries : List WalEntry) (count more : Nat) : ∀ (v : Nat) (st mid : σ),
    replayFrom fn entries v count st = .ok mid → replayFrom fn entries v (count + more) st = replayFrom fn entries (v + count) more mid := by
  induction count with
  | zero =>
      intro v st mid done
      cases done
      rw [Nat.zero_add, Nat.add_zero]
  | succ count ih =>
      intro v st mid done
      simp only [replayFrom] at done
      rw [Nat.succ_add]
      simp only [replayFrom]
      cases first : fn st ((entries[v]?).getD default) (v + 1) with
      | error rc =>
          rw [first] at done
          cases done
      | ok next =>
          rw [first] at done
          simp only at done ⊢
          rw [ih (v + 1) next mid done, Nat.add_right_comm, Nat.add_assoc v]

-- The snapshot in force and the entries behind those it covers bring this index
-- back, and nothing in them is refused.
def Restores (sb : SuperBlock) (kept : List IndexEntry) (covered : Nat) (entries : List WalEntry) (live : MetaIndex) : Prop :=
  ∃ base index, visitAll (applyRecoveredEntry sb) ∅ kept = (Err.kSuccess, base) ∧
    replayFrom (applyWalEntry sb) entries covered (entries.length - covered) base = .ok index ∧ index.Same live

theorem restores_empty (sb : SuperBlock) : Restores sb [] 0 [] ∅ := ⟨∅, ∅, rfl, rfl, same_refl ∅⟩

-- A snapshot of the index needs no entry behind it.
theorem restores_taken (sb : SuperBlock) (index : MetaIndex) (walk : Walk) (entries : List WalEntry) (lawful : Lawful sb index) :
    Restores sb (walk.order index) entries.length entries index := by
  obtain ⟨base, loaded, same⟩ := visit_all_restores sb index walk lawful
  refine ⟨base, base, loaded, ?_, same⟩
  rw [Nat.sub_self]
  rfl

theorem restores_logged (sb : SuperBlock) (kept : List IndexEntry) (covered : Nat) (entries : List WalEntry) (live : MetaIndex) (e : WalEntry)
    (acceptable : Acceptable sb live e) (inside : covered ≤ entries.length) (restores : Restores sb kept covered entries live) :
    Restores sb kept covered (entries ++ [e]) (live.commit e) := by
  obtain ⟨base, index, loaded, replayed, same⟩ := restores
  obtain ⟨next, applied, same'⟩ := acceptable_applies sb index live e (entries.length + 1) acceptable same
  refine ⟨base, next, loaded, ?_, same'⟩
  have whole : replayFrom (applyWalEntry sb) (entries ++ [e]) covered (entries.length - covered) base = .ok index := by
    rw [replay_from_append _ _ _ _ _ _ (by omega)]
    exact replayed
  rw [List.length_append, List.length_singleton, Nat.sub_add_comm inside, replay_from_more _ _ _ _ _ _ _ whole,
    show covered + (entries.length - covered) = entries.length by omega]
  simp only [replayFrom]
  rw [List.getElem?_concat_length, Option.getD_some, applied]

theorem rests_noted (sb : SuperBlock) (s : Snapshot) (seq coveredSeq : Nat) (entries : List IndexEntry) (writes : Nat)
    (rests : SnapshotRests sb s coveredSeq entries writes) : SnapshotRests sb (s.noteTriggerAttempt seq) coveredSeq entries writes := by
  have ready := rests.ready
  refine ⟨⟨ready.healthy, ready.slotA, ready.slotB, ready.size, ready.pos, ready.capacity, ready.uuid⟩, ?_, rests.confined, rests.word, rests.gen⟩
  cases rests.holds with
  | never inactive gen covered count dead => exact .never inactive gen covered count dead
  | held slot h _ _ active holds fits verified uuid gen covered count bound older =>
      exact .held slot h coveredSeq entries active holds fits verified uuid gen covered count bound older

-- What a thread keeps between its calls, whatever these are: its log is a session,
-- and the snapshot in force with the log's tail restores its index. Nothing that
-- the log still counts on was erased.
structure Lasting (sb : SuperBlock) (g : Ring) (bufBlocks : Nat) (v : WalView) (s : Session) (kept : List IndexEntry) (count : Nat)
    (at_ : Logging) : Prop where
  tracks : Tracks g bufBlocks v s at_
  blank : BlankPrior g v.prior
  intact : v.Intact
  rests : SnapshotRests sb at_.reactor.dc.snapshot s.covered kept count
  restores : Restores sb kept s.covered s.entries at_.live
  lawful : Lawful sb at_.reactor.dc.metaIndex
  logged : ∀ e, at_.stage = .logged e → Acceptable sb at_.reactor.dc.metaIndex e
  buffered : at_.reactor.options.SnapshotBuffered
  short : s.entries.length ≤ count

def Lasts (sb : SuperBlock) (count : Nat) (at_ : Logging) : Prop :=
  ∃ g bufBlocks v s kept, Lasting sb g bufBlocks v s kept count at_

theorem session_covered (g : Ring) (bufBlocks : Nat) (v : WalView) (s : Session) (inv : SessionInv g bufBlocks v s) :
    s.covered ≤ s.entries.length := by
  have bound := wal_synced_bound g bufBlocks v s.wal inv.quiet.inv
  have covered := inv.covered
  rw [inv.entries] at bound
  omega

section Steps

variable (sb : SuperBlock) (g : Ring) (bufBlocks : Nat) (v : WalView) (s : Session) (kept : List IndexEntry) (count : Nat)

-- A call that leaves the snapshot, the entries and the index alone.
theorem lasting_still (at_ after : Logging) (next : WalView) (session : Session) (lasting : Lasting sb g bufBlocks v s kept count at_)
    (step : SessionStep g bufBlocks v s next session) (tracks : Tracks g bufBlocks next session after)
    (rests : SnapshotRests sb after.reactor.dc.snapshot s.covered kept count) (entries : session.entries = s.entries)
    (covered : session.covered = s.covered) (live : after.live = at_.live) (lawful : Lawful sb after.reactor.dc.metaIndex)
    (logged : ∀ e, after.stage = .logged e → Acceptable sb after.reactor.dc.metaIndex e)
    (options : after.reactor.options.SnapshotBuffered) : Lasting sb g bufBlocks next session kept count after := by
  refine ⟨tracks, by rw [step.prior]; exact lasting.blank, step.intact lasting.intact, by rw [covered]; exact rests, ?_, lawful, logged, options,
    by rw [entries]; exact lasting.short⟩
  rw [covered, entries, live]
  exact lasting.restores

theorem lasting_write (r : Reactor) (e : WalEntry) (lasting : Lasting sb g bufBlocks v s kept count ⟨.rest, r⟩)
    (acceptable : Acceptable sb r.dc.metaIndex e) (next : WalView) (step : SessionStep g bufBlocks v s next (s.writeEntry e).2)
    (tracks : Tracks g bufBlocks next (s.writeEntry e).2
      ⟨if (r.dc.wal.writeWal r.options.walLevel e).1 = Err.kSuccess then .logged e else .rest,
        r.withWal (r.dc.wal.writeWal r.options.walLevel e).2⟩) :
    Lasting sb g bufBlocks next (s.writeEntry e).2 kept (count + (appended r.dc.wal (r.dc.wal.writeWal r.options.walLevel e).2
      (r.dc.wal.writeWal r.options.walLevel e).1 e).length)
      ⟨if (r.dc.wal.writeWal r.options.walLevel e).1 = Err.kSuccess then .logged e else .rest,
        r.withWal (r.dc.wal.writeWal r.options.walLevel e).2⟩ := by
  have inv := lasting.tracks.inv
  obtain ⟨next', more, step', _, same, outcome⟩ := write_view g bufBlocks v s e inv (acceptable_short sb _ e acceptable).2
  have wal : r.dc.wal = s.wal := lasting.tracks.wal
  have level : r.options.walLevel = s.level := lasting.tracks.level
  have code : (r.dc.wal.writeWal r.options.walLevel e).1 = (s.writeEntry e).1 := by
    rw [wal, level]
    rfl
  have seq : (s.writeEntry e).2.entries = if (r.dc.wal.writeWal r.options.walLevel e).2.seqNext = r.dc.wal.seqNext then s.entries
      else s.entries ++ [e] := by
    rw [wal, level]
    rfl
  have numbered := write_wal_numbered r.dc.wal r.options.walLevel e
  have inside := session_covered g bufBlocks v s inv
  generalize r.dc.wal.writeWal r.options.walLevel e = out at tracks code seq numbered ⊢
  have base := rests_more sb r.dc.snapshot s.covered kept count (count + (appended r.dc.wal out.2 out.1 e).length) lasting.rests (by omega)
  have short := lasting.short
  rcases outcome with ⟨done, rfl⟩ | ⟨full, rfl, _⟩
  · rw [done] at code
    rw [if_neg (by rw [numbered.done code]; omega)] at seq
    rw [if_pos code] at tracks ⊢
    refine ⟨tracks, by rw [step.prior]; exact lasting.blank, step.intact lasting.intact, by rw [same.covered]; exact base, ?_, lasting.lawful,
      fun e' here => by cases here; exact acceptable, lasting.buffered, ?_⟩
    · rw [same.covered, seq]
      exact restores_logged sb kept s.covered s.entries _ e acceptable inside lasting.restores
    · rw [seq, appended, if_pos code, List.length_append, List.length_singleton, List.length_singleton]
      omega
  · rw [full] at code
    have refused : out.1 ≠ Err.kSuccess := by
      rw [code]
      decide
    rw [if_pos (numbered.full code)] at seq
    rw [if_neg refused] at tracks ⊢
    refine ⟨tracks, by rw [step.prior]; exact lasting.blank, step.intact lasting.intact, by rw [same.covered]; exact base, ?_, lasting.lawful,
      fun e' here => (by cases here), lasting.buffered, by rw [seq]; omega⟩
    rw [same.covered, seq]
    exact lasting.restores

-- A snapshot that was taken is in force and covers every entry.
theorem lasting_saved (r : Reactor) (covered boundary : Nat) (env : ScanEnv) (taken : Snapshot)
    (lasting : Lasting sb g bufBlocks v s kept count ⟨.flushed covered boundary, r⟩)
    (done : r.dc.snapshot.write r.options env.toSnapshotEnv covered (r.dc.metaIndex.forEach env.walk) = (Err.kSuccess, taken))
    (fits : count + 2 < 2 ^ 64) (next : WalView) (step : SessionStep g bufBlocks v s next { s with covered := covered })
    (tracks : Tracks g bufBlocks next { s with covered := covered } ⟨.saved covered boundary, r.withSnapshot taken⟩) :
    Lasting sb g bufBlocks next { s with covered := covered } (env.walk.order r.dc.metaIndex) (count + 1)
      ⟨.saved covered boundary, r.withSnapshot taken⟩ := by
  have all : covered = s.entries.length := lasting.tracks.stage.2
  have short := lasting.short
  have call := scan_call_run r.options env covered r.dc.metaIndex r.dc.snapshot
  rw [done] at call
  have rests := rest_done sb r.dc.snapshot s.covered kept count lasting.rests (scanCall r.options env covered r.dc.metaIndex)
    (by show covered < _; omega) fits (by rw [call])
  rw [call] at rests
  refine ⟨tracks, by rw [step.prior]; exact lasting.blank, step.intact lasting.intact, rests, ?_, lasting.lawful, nofun, lasting.buffered,
    by show s.entries.length ≤ _; omega⟩
  show Restores sb _ covered s.entries r.dc.metaIndex
  rw [all]
  exact restores_taken sb r.dc.metaIndex env.walk s.entries lasting.lawful

theorem lasting_unsaved (r : Reactor) (covered boundary : Nat) (env : ScanEnv) (rc : Rc) (left : Snapshot) (failed : rc ≠ Err.kSuccess)
    (lasting : Lasting sb g bufBlocks v s kept count ⟨.flushed covered boundary, r⟩)
    (done : r.dc.snapshot.write r.options env.toSnapshotEnv covered (r.dc.metaIndex.forEach env.walk) = (rc, left)) :
    SnapshotRests sb left s.covered kept count := by
  have call := scan_call_run r.options env covered r.dc.metaIndex r.dc.snapshot
  rw [done] at call
  have rests := rest_failed sb r.dc.snapshot s.covered kept count lasting.rests (scanCall r.options env covered r.dc.metaIndex)
    (by rw [call]; exact failed)
  rw [call] at rests
  exact rests

theorem flush_all_kept (inv : SessionInv g bufBlocks v s) :
    s.flushAll.2.entries = s.entries ∧ s.flushAll.2.covered = s.covered := by
  obtain ⟨fine, _⟩ := flush_fits g bufBlocks v s inv
  rw [flush_all_captures s fine]
  exact ⟨rfl, rfl⟩

theorem write_covered (e : WalEntry) : (s.writeEntry e).2.covered = s.covered := rfl

theorem change_level_kept (level : WalLevel) :
    (s.changeLevel level).2.entries = s.entries ∧ (s.changeLevel level).2.covered = s.covered := by
  unfold Session.changeLevel
  simp only
  split
  · split <;> exact ⟨rfl, rfl⟩
  · exact ⟨rfl, rfl⟩

theorem set_level_snapshot (r : Reactor) (level : WalLevel) : (r.executeSetWalLevel level).2.dc.snapshot = r.dc.snapshot := by
  unfold Reactor.executeSetWalLevel
  simp only
  split
  · split <;> rfl
  · rfl

-- What a call does to the session and the snapshot that stand behind a thread.
structure Moved (at_ after : Logging) (next : WalView) (session : Session) (kept' : List IndexEntry) : Prop where
  step : SessionStep g bufBlocks v s next session
  snapshot : (kept' = kept ∧ session.covered = s.covered) ∨ (session.covered = session.entries.length ∧ session.entries = s.entries)
  live : session.entries = s.entries → after.live = at_.live

theorem lasting_step (at_ after : Logging) (move : LogMove) (events : List LogEvent) (lasting : Lasting sb g bufBlocks v s kept count at_)
    (fits : count + 2 < 2 ^ 64) (step : Logging.Step sb at_.reactor at_.stage move events after) :
    ∃ next session kept', Moved g bufBlocks v s kept at_ after next session kept' ∧
      Lasting sb g bufBlocks next session kept' (count + events.length) after := by
  obtain ⟨next, moved, tracks⟩ := tracks_step sb g bufBlocks v s at_ after move events lasting.tracks step
  have inv := lasting.tracks.inv
  obtain ⟨stage, r⟩ := at_
  have still (session : Session) (here : s.follow move events = session) (entries : session.entries = s.entries)
      (covered : session.covered = s.covered) (rests : SnapshotRests sb after.reactor.dc.snapshot s.covered kept count)
      (live : after.live = Logging.live ⟨stage, r⟩) (lawful : Lawful sb after.reactor.dc.metaIndex)
      (logged : ∀ e, after.stage = .logged e → Acceptable sb after.reactor.dc.metaIndex e)
      (options : after.reactor.options.SnapshotBuffered) : ∃ next session kept', Moved g bufBlocks v s kept ⟨stage, r⟩ after next session kept' ∧
        Lasting sb g bufBlocks next session kept' (count + 0) after := by
    rw [here] at moved tracks
    exact ⟨next, session, kept, ⟨moved, .inl ⟨rfl, covered⟩, fun _ => live⟩,
      lasting_still sb g bufBlocks v s kept count _ after next session lasting moved tracks rests entries covered live lawful logged options⟩
  cases step with
  | store _ next same =>
      refine still s rfl rfl rfl (by rw [same.snapshot]; exact lasting.rests) ?_ (by rw [same.index]; exact lasting.lawful)
        (fun e here => by rw [same.index]; exact lasting.logged e here) (by rw [same.options]; exact lasting.buffered)
      unfold Logging.live
      rw [same.index]
  | note => exact still s rfl rfl rfl (rests_noted sb _ _ _ _ _ lasting.rests) rfl lasting.lawful nofun lasting.buffered
  | write e acceptable =>
      have wrote := lasting_write sb g bufBlocks v s kept count r e lasting acceptable next moved tracks
      refine ⟨next, _, kept, ⟨moved, .inl ⟨rfl, (write_covered s e)⟩, fun same => ?_⟩, wrote⟩
      have wal : r.dc.wal = s.wal := lasting.tracks.wal
      have level : r.options.walLevel = s.level := lasting.tracks.level
      have refused : (r.dc.wal.writeWal r.options.walLevel e).1 ≠ Err.kSuccess := by
        intro done
        have numbered := (write_wal_numbered r.dc.wal r.options.walLevel e).done done
        rw [wal, level] at numbered
        have entries : (s.follow (.write e) (appended r.dc.wal (r.dc.wal.writeWal r.options.walLevel e).2
            (r.dc.wal.writeWal r.options.walLevel e).1 e)).entries = s.entries ++ [e] :=
          if_neg (show (s.wal.writeWal s.level e).2.seqNext ≠ s.wal.seqNext by omega)
        rw [entries] at same
        have lengths := congrArg List.length same
        rw [List.length_append, List.length_singleton] at lengths
        omega
      rw [if_neg refused]
      rfl
  | commit e =>
      obtain ⟨_, snapshot, options⟩ := commit_log r e
      have acceptable := lasting.logged e rfl
      refine still s rfl rfl rfl (by rw [snapshot]; exact lasting.rests) (commit_index r e) ?_ nofun (by rw [options]; exact lasting.buffered)
      rw [commit_index]
      exact commit_lawful sb r.dc.metaIndex e lasting.lawful acceptable
  | level level =>
      obtain ⟨entries, covered⟩ := change_level_kept s level
      obtain ⟨index, _, buffer⟩ := set_level_still r level
      have store := set_level_snapshot r level
      refine still _ rfl entries covered (by rw [store]; exact lasting.rests) index (by rw [index]; exact lasting.lawful) nofun ?_
      show 0 < roundUpBufferSize (r.executeSetWalLevel level).2.options.snapshotBufferSize _
      rw [buffer]
      exact lasting.buffered
  | flush =>
      obtain ⟨entries, covered⟩ := flush_all_kept g bufBlocks v s inv
      refine still _ rfl entries covered lasting.rests ?_ lasting.lawful ?_ lasting.buffered
      · unfold Logging.live
        simp only
        split <;> rename_i here <;> split at here <;> first | rfl | cases here
      · intro e here
        simp only at here
        split at here <;> cases here
  | saved covered boundary env taken done =>
      have covers := cover_fits g bufBlocks v s covered boundary inv lasting.tracks.stage
      have all : covered = s.entries.length := lasting.tracks.stage.2
      rw [show s.follow (.save env) [.snapshot covered taken] = { s with covered := covered } from covers] at moved tracks
      exact ⟨next, _, _, ⟨moved, .inr ⟨all, rfl⟩, fun _ => rfl⟩,
        lasting_saved sb g bufBlocks v s kept count r covered boundary env taken lasting done fits next moved tracks⟩
  | unsaved covered boundary env rc left failed done =>
      exact still s rfl rfl rfl (lasting_unsaved sb g bufBlocks v s kept count r covered boundary env rc left failed lasting done) rfl
        lasting.lawful nofun lasting.buffered
  | reclaim covered boundary =>
      have gives := reclaim_fits g bufBlocks v s covered boundary inv lasting.tracks.stage
      have same : s.covered = covered := lasting.tracks.stage.2
      refine still { s with wal := (s.wal.reclaimUpTo boundary).2, covered := max s.covered covered, reclaimed := covered } gives rfl ?_
        lasting.rests rfl lasting.lawful nofun lasting.buffered
      show max s.covered covered = s.covered
      omega

end Steps

-- What any number of calls does to the session and the snapshot behind a thread.
structure LedTo (sb : SuperBlock) (v : WalView) (s : Session) (kept : List IndexEntry) (at_ : Logging) (next : WalView) (session : Session)
    (kept' : List IndexEntry) (last : Logging) : Prop where
  grown : ∃ more, session.entries = s.entries ++ more
  synced : v.synced ≤ next.synced
  live : session.entries.length = s.entries.length → last.live = at_.live
  start : ∀ n base, n ≤ s.entries.length → (s.entries.length = n → at_.live = base) →
    (s.covered ≤ n → Restores sb kept s.covered (s.entries.take n) base) →
    session.covered ≤ n → Restores sb kept' session.covered (session.entries.take n) base

theorem led_refl (sb : SuperBlock) (v : WalView) (s : Session) (kept : List IndexEntry) (at_ : Logging) :
    LedTo sb v s kept at_ v s kept at_ :=
  ⟨⟨[], (List.append_nil _).symm⟩, Nat.le_refl _, fun _ => rfl, fun _ _ _ _ restores => restores⟩

theorem grown_same (s session : Session) (grown : ∃ more, session.entries = s.entries ++ more)
    (length : session.entries.length = s.entries.length) : session.entries = s.entries := by
  obtain ⟨more, all⟩ := grown
  rw [all, List.length_append] at length
  have none_ : more = [] := List.eq_nil_of_length_eq_zero (by omega)
  rw [all, none_, List.append_nil]

theorem led_trans (sb : SuperBlock) (v₁ v₂ v₃ : WalView) (s₁ s₂ s₃ : Session) (k₁ k₂ k₃ : List IndexEntry) (a b c : Logging)
    (first : LedTo sb v₁ s₁ k₁ a v₂ s₂ k₂ b) (second : LedTo sb v₂ s₂ k₂ b v₃ s₃ k₃ c) : LedTo sb v₁ s₁ k₁ a v₃ s₃ k₃ c := by
  obtain ⟨more, all⟩ := first.grown
  obtain ⟨more', all'⟩ := second.grown
  have length := congrArg List.length all
  have length' := congrArg List.length all'
  rw [List.length_append] at length length'
  refine ⟨⟨more ++ more', by rw [all', all, List.append_assoc]⟩, Nat.le_trans first.synced second.synced, fun same => ?_, ?_⟩
  · exact (second.live (by omega)).trans (first.live (by omega))
  · intro n base inside live restores
    refine second.start n base (by omega) (fun same => ?_) (first.start n base inside live restores)
    exact (first.live (by omega)).trans (live (by omega))

theorem led_moved (sb : SuperBlock) (g : Ring) (bufBlocks : Nat) (v : WalView) (s : Session) (kept : List IndexEntry) (count : Nat)
    (at_ after : Logging) (next : WalView) (session : Session) (kept' : List IndexEntry)
    (moved : Moved g bufBlocks v s kept at_ after next session kept') (lasting : Lasting sb g bufBlocks next session kept' count after) :
    LedTo sb v s kept at_ next session kept' after := by
  have grown := moved.step.grown
  have live (length : session.entries.length = s.entries.length) : after.live = at_.live := moved.live (grown_same s session grown length)
  refine ⟨grown, moved.step.synced, live, fun n base inside here restores below => ?_⟩
  obtain ⟨more, all⟩ := grown
  have length := congrArg List.length all
  rw [List.length_append] at length
  rcases moved.snapshot with ⟨rfl, covered⟩ | ⟨covered, _⟩
  · rw [covered] at below ⊢
    rw [all, List.take_append_of_le_length inside]
    exact restores below
  · have whole : session.entries.take n = session.entries := List.take_of_length_le (by omega)
    have same : after.live = base := (live (by omega)).trans (here (by omega))
    rw [whole, ← same]
    exact lasting.restores

theorem lasting_run (sb : SuperBlock) (g : Ring) (bufBlocks : Nat) (at_ last : Logging) (events : List LogEvent)
    (run : LogRun sb at_ events last) : ∀ (v : WalView) (s : Session) (kept : List IndexEntry) (count : Nat),
    Lasting sb g bufBlocks v s kept count at_ → count + events.length + 2 < 2 ^ 64 →
    ∃ next session kept', Lasting sb g bufBlocks next session kept' (count + events.length) last ∧
      LedTo sb v s kept at_ next session kept' last := by
  induction run with
  | done at_ => exact fun v s kept count lasting _ => ⟨v, s, kept, lasting, led_refl sb v s kept at_⟩
  | next at_ mid last move events rest step _ ih =>
      intro v s kept count lasting fits
      rw [List.length_append] at fits ⊢
      obtain ⟨next, session, kept', moved, lasting'⟩ := lasting_step sb g bufBlocks v s kept count at_ mid move events lasting (by omega) step
      have first := led_moved sb g bufBlocks v s kept _ at_ mid next session kept' moved lasting'
      obtain ⟨next', session', kept'', lasting'', second⟩ := ih next session kept' (count + events.length) lasting' (by omega)
      rw [← Nat.add_assoc]
      exact ⟨next', session', kept'', lasting'', led_trans sb _ _ _ _ _ _ _ _ _ _ _ _ first second⟩

theorem lasting_more (sb : SuperBlock) (g : Ring) (bufBlocks : Nat) (v : WalView) (s : Session) (kept : List IndexEntry) (count more : Nat)
    (at_ : Logging) (lasting : Lasting sb g bufBlocks v s kept count at_) (later : count ≤ more) :
    Lasting sb g bufBlocks v s kept more at_ :=
  { lasting with
    rests := rests_more sb _ _ _ _ _ lasting.rests later
    short := Nat.le_trans lasting.short later }

theorem lasts_more (sb : SuperBlock) (count more : Nat) (at_ : Logging) (lasts : Lasts sb count at_) (later : count ≤ more) :
    Lasts sb more at_ := by
  obtain ⟨g, bufBlocks, v, s, kept, lasting⟩ := lasts
  exact ⟨g, bufBlocks, v, s, kept, lasting_more sb g bufBlocks v s kept count more at_ lasting later⟩

-- An operation gives at most three numbers away, to a frame and two snapshots.
theorem execute_lasts (sb : SuperBlock) (r : Reactor) (env : OpEnv) (req : Request) (count : Nat) (fits : sb.blockCount ≤ 2 ^ 56)
    (owns : r.Owns sb) (admitted : req.Admitted) (room : count + 5 < 2 ^ 64) (lasts : Lasts sb count ⟨.rest, r⟩) :
    Lasts sb (count + 3) ⟨.rest, (r.execute env req).2⟩ := by
  have lawful : Lawful sb r.dc.metaIndex := by
    obtain ⟨_, _, _, _, _, lasting⟩ := lasts
    exact lasting.lawful
  obtain ⟨events, logs⟩ := execute_logs sb r env req r.dc.metaIndex.blocks owns.blocks lawful fits admitted
  have few := logs.few
  obtain ⟨g, bufBlocks, v, s, kept, lasting⟩ := lasts
  obtain ⟨next, session, kept', lasting', _⟩ := lasting_run sb g bufBlocks _ _ events logs.run v s kept count lasting (by omega)
  exact ⟨g, bufBlocks, next, session, kept', lasting_more sb g bufBlocks _ _ _ _ _ _ lasting' (by omega)⟩

end Cabe
