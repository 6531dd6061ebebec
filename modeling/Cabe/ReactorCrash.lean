import Cabe.ReactorReopen

set_option autoImplicit false

namespace Cabe

open Storage Concurrency

-- Where the calls of an operation on the log can be cut off, between two of them
-- or inside the next, and the medium of the log there. What the operation does to
-- the snapshot device inside one Write is left out.
inductive LogCut (sb : SuperBlock) (r after : Reactor) : Logging → Medium → Prop
  | between (at_ : Logging) (events rest : List LogEvent) (first : LogRun sb ⟨.rest, r⟩ events at_) (second : LogRun sb at_ rest ⟨.rest, after⟩)
      (few : (events ++ rest).length ≤ 3) : LogCut sb r after at_ at_.reactor.dc.wal.dev.medium
  | during (at_ mid : Logging) (events more rest : List LogEvent) (move : LogMove) (m : Medium) (first : LogRun sb ⟨.rest, r⟩ events at_)
      (step : Logging.Step sb at_.reactor at_.stage move more mid) (second : LogRun sb mid rest ⟨.rest, after⟩)
      (few : (events ++ more ++ rest).length ≤ 3)
      (inside : m ∈ mid.reactor.dc.wal.dev.trace.drop at_.reactor.dc.wal.dev.trace.length) : LogCut sb r after at_ m

theorem lasting_io (sb : SuperBlock) (g : Ring) (bufBlocks : Nat) (v : WalView) (s : Session) (kept : List IndexEntry) (count : Nat)
    (stage : LogStage) (r : Reactor) (io : SyncIoBackend) (lasting : Lasting sb g bufBlocks v s kept count ⟨stage, r⟩) :
    Lasting sb g bufBlocks v s kept count ⟨stage, r.withIo io⟩ :=
  ⟨⟨lasting.tracks.wal, lasting.tracks.level, lasting.tracks.inv, lasting.tracks.stage⟩, lasting.blank, lasting.intact, lasting.rests,
    lasting.restores, lasting.lawful, lasting.logged, lasting.buffered, lasting.short⟩

theorem lasting_length (sb : SuperBlock) (g : Ring) (bufBlocks : Nat) (v : WalView) (s : Session) (kept : List IndexEntry) (count : Nat)
    (at_ : Logging) (lasting : Lasting sb g bufBlocks v s kept count at_) :
    at_.reactor.dc.wal.seqNext = s.entries.length + 1 ∧ v.entries = s.entries ∧ v.synced ≤ s.entries.length := by
  have inv := lasting.tracks.inv
  have bound := wal_synced_bound g bufBlocks v s.wal inv.quiet.inv
  rw [inv.entries] at bound
  refine ⟨?_, inv.entries, bound⟩
  rw [lasting.tracks.wal, inv.quiet.inv.seqNext, inv.entries]

-- What a cut leaves of the log: the entries that were there before, and at most
-- the one of the operation.
structure CutLeaves (sb : SuperBlock) (g : Ring) (bufBlocks : Nat) (count : Nat) (before after : MetaIndex) (n : Nat) (at_ : Logging) (m : Medium)
    (v : WalView) (s : Session) (kept : List IndexEntry) (h : History) (synced written : Nat) : Prop where
  lasting : Lasting sb g bufBlocks v s kept count at_
  ok : CrashOk g bufBlocks s h synced written m
  prior : h.prior = v.prior
  lo : h.lo = v.lo
  reach : n ≤ synced
  upper : written ≤ n + 1
  few : h.entries.length ≤ count
  old : s.covered ≤ n → Restores sb kept s.covered (h.entries.take n) before
  new : written = n + 1 → Restores sb kept s.covered (h.entries.take (n + 1)) after

theorem cut_leaves (sb : SuperBlock) (g : Ring) (bufBlocks : Nat) (v : WalView) (s : Session) (kept : List IndexEntry) (count : Nat)
    (r after : Reactor) (at_ : Logging) (m : Medium) (lasting : Lasting sb g bufBlocks v s kept count ⟨.rest, r⟩)
    (all : v.synced = s.entries.length) (one : after.dc.wal.seqNext ≤ r.dc.wal.seqNext + 1) (room : count + 5 < 2 ^ 64)
    (cut : LogCut sb r after at_ m) : ∃ v' s' kept' h synced written,
      CutLeaves sb g bufBlocks (count + 3) r.dc.metaIndex after.dc.metaIndex s.entries.length at_ m v' s' kept' h synced written := by
  have begun : s.covered ≤ s.entries.length → Restores sb kept s.covered (s.entries.take s.entries.length) r.dc.metaIndex := fun _ => by
    rw [List.take_length]
    exact lasting.restores
  obtain ⟨seq, _, _⟩ := lasting_length sb g bufBlocks v s kept count _ lasting
  cases cut with
  | between events rest first second few =>
      rw [List.length_append] at few
      obtain ⟨v₁, s₁, k₁, lasting₁, led₁⟩ := lasting_run sb g bufBlocks _ _ events first v s kept count lasting (by omega)
      obtain ⟨v₂, s₂, k₂, lasting₂, led₂⟩ := lasting_run sb g bufBlocks _ _ rest second v₁ s₁ k₁ _ lasting₁ (by omega)
      obtain ⟨_, entries₁, bound₁⟩ := lasting_length sb g bufBlocks _ _ _ _ _ lasting₁
      obtain ⟨seq₂, _, _⟩ := lasting_length sb g bufBlocks _ _ _ _ _ lasting₂
      obtain ⟨more₁, grown₁⟩ := led₁.grown
      obtain ⟨more₂, grown₂⟩ := led₂.grown
      have length₁ := congrArg List.length grown₁
      have length₂ := congrArg List.length grown₂
      rw [List.length_append] at length₁ length₂
      have synced₁ := led₁.synced
      have short₁ := lasting₁.short
      simp only at seq seq₂
      refine ⟨v₁, s₁, k₁, v₁.toHistory, v₁.synced, v₁.synced, lasting_more sb g bufBlocks _ _ _ _ _ _ lasting₁ (by omega), ?_, rfl, rfl, by omega,
        by omega, ?_, fun below => ?_, fun full => ?_⟩
      · have rested := crash_at_rest g bufBlocks v₁ s₁ lasting₁.tracks.inv
        rw [lasting₁.tracks.wal]
        exact rested
      · show v₁.entries.length ≤ _
        rw [entries₁]
        omega
      · show Restores sb k₁ s₁.covered (v₁.entries.take s.entries.length) _
        rw [entries₁]
        exact led₁.start s.entries.length r.dc.metaIndex (Nat.le_refl _) (fun _ => rfl) begun below
      · show Restores sb k₁ s₁.covered (v₁.entries.take (s.entries.length + 1)) _
        have live : after.dc.metaIndex = at_.live := led₂.live (by omega)
        rw [entries₁, live, List.take_of_length_le (by omega)]
        exact lasting₁.restores
  | during mid events more rest move _ first step second few inside =>
      rw [List.length_append, List.length_append] at few
      obtain ⟨v₁, s₁, k₁, lasting₁, led₁⟩ := lasting_run sb g bufBlocks _ _ events first v s kept count lasting (by omega)
      obtain ⟨v₂, s₂, k₂, moved, lasting₂⟩ := lasting_step sb g bufBlocks v₁ s₁ k₁ _ at_ mid move more lasting₁ (by omega) step
      obtain ⟨v₃, s₃, k₃, lasting₃, led₃⟩ := lasting_run sb g bufBlocks _ _ rest second v₂ s₂ k₂ _ lasting₂ (by omega)
      obtain ⟨_, entries₁, bound₁⟩ := lasting_length sb g bufBlocks _ _ _ _ _ lasting₁
      obtain ⟨_, entries₂, _⟩ := lasting_length sb g bufBlocks _ _ _ _ _ lasting₂
      obtain ⟨seq₃, _, _⟩ := lasting_length sb g bufBlocks _ _ _ _ _ lasting₃
      obtain ⟨calls, trace, _, every⟩ := moved.step.crash
      rw [← lasting₁.tracks.wal, ← lasting₂.tracks.wal] at trace
      rw [trace, List.drop_left] at inside
      obtain ⟨synced, written, reach, lo, ok⟩ := every m inside
      obtain ⟨more₁, grown₁⟩ := led₁.grown
      obtain ⟨more₂, grown₂⟩ := moved.step.grown
      obtain ⟨more₃, grown₃⟩ := led₃.grown
      have length₁ := congrArg List.length grown₁
      have length₂ := congrArg List.length grown₂
      have length₃ := congrArg List.length grown₃
      rw [List.length_append] at length₁ length₂ length₃
      have synced₁ := led₁.synced
      have short₂ := lasting₂.short
      have listed : written ≤ s₂.entries.length := by
        rw [← entries₂]
        exact ok.listed
      simp only at seq seq₃
      refine ⟨v₁, s₁, k₁, v₂.toHistory, synced, written, lasting_more sb g bufBlocks _ _ _ _ _ _ lasting₁ (by omega), ok, moved.step.prior, lo,
        by omega, by omega, ?_, fun below => ?_, fun full => ?_⟩
      · show v₂.entries.length ≤ _
        rw [entries₂]
        omega
      · show Restores sb k₁ s₁.covered (v₂.entries.take s.entries.length) _
        rw [entries₂, grown₂, List.take_append_of_le_length (by omega)]
        exact led₁.start s.entries.length r.dc.metaIndex (Nat.le_refl _) (fun _ => rfl) begun below
      · show Restores sb k₁ s₁.covered (v₂.entries.take (s.entries.length + 1)) _
        have live : after.dc.metaIndex = mid.live := led₃.live (by omega)
        rw [entries₂, live, List.take_of_length_le (by omega)]
        by_cases there : s₁.entries.length = s.entries.length + 1
        · have same := grown_same s₁ s₂ moved.step.grown (by omega)
          rw [moved.live same, same]
          exact lasting₁.restores
        · rcases moved.snapshot with ⟨sameKept, sameCovered⟩ | ⟨_, same⟩
          · rw [← sameKept, ← sameCovered]
            exact lasting₂.restores
          · have short := congrArg List.length same
            omega

-- The next start finds the index from before the operation that was cut off or
-- the one it would have left.
theorem cut_reopens (sb : SuperBlock) (count : Nat) (r after : Reactor) (at_ : Logging) (m : Medium) (io : SyncIoBackend)
    (data wal snapshot : Image) (opts : Options) (env : OpenEnv) (lasts : Lasts sb count ⟨.rest, r⟩) (strict : r.options.walLevel = .strict)
    (one : after.dc.wal.seqNext ≤ r.dc.wal.seqNext + 1) (room : count + 5 < 2 ^ 64) (cut : LogCut sb r after at_ m)
    (houses : io.Houses sb.blockCount) (walAlive : m.Survives kSectorSize wal)
    (snapshotAlive : at_.reactor.dc.snapshot.dev.medium.Survives kSectorSize snapshot)
    (provided : Provided (at_.reactor.withIo io) opts env wal) (before : Lawful sb r.dc.metaIndex ∧ r.dc.metaIndex.blocks.Nodup)
    (then_ : Lawful sb after.dc.metaIndex ∧ after.dc.metaIndex.blocks.Nodup) :
    ∃ live dc, (live = r.dc.metaIndex ∨ live = after.dc.metaIndex) ∧
      openDevice opts env sb ((at_.reactor.withIo io).left data wal snapshot) = (Err.kSuccess, dc) ∧
      ReopenedAs sb (count + 3) (at_.reactor.withIo io) ⟨opts, dc⟩ data live := by
  obtain ⟨g, bufBlocks, v, s, kept, lasting⟩ := lasts
  have level : r.options.walLevel = s.level := lasting.tracks.level
  have all : v.synced = s.entries.length := by
    rw [← lasting.tracks.inv.entries]
    exact (lasting.tracks.inv.quiet.owed (by rw [← level, strict]; rfl)).1
  obtain ⟨v', s', kept', h, synced, written, leaves⟩ := cut_leaves sb g bufBlocks v s kept count r after at_ m lasting all one room cut
  have reach := leaves.reach
  have upper := leaves.upper
  have few := leaves.few
  have covered := leaves.ok.covered
  have stale : NoStale g h.prior wal := by
    rw [leaves.prior]
    exact blank_stale g v'.prior _ leaves.lasting.blank
  have crash := crash_image g bufBlocks s' h synced written m wal leaves.ok walAlive stale (by omega)
  obtain ⟨stop, dc, lower, below, done, reopened⟩ := reactor_reopens sb g bufBlocks v' s' kept' (count + 3) at_.stage (at_.reactor.withIo io)
    (lasting_io sb g bufBlocks v' s' kept' (count + 3) at_.stage at_.reactor io leaves.lasting) houses h synced written data wal snapshot crash
    leaves.prior leaves.lo (by omega) snapshotAlive opts env provided
    (fun stop => if stop = s.entries.length then r.dc.metaIndex else after.dc.metaIndex) (fun stop lower below => by
      by_cases old : stop = s.entries.length
      · rw [if_pos old, old]
        exact leaves.old (by omega)
      · have full : stop = s.entries.length + 1 := by omega
        rw [if_neg old, full]
        exact leaves.new (by omega))
    (fun stop _ _ => by split <;> assumption) few (by omega)
  refine ⟨_, dc, ?_, done, reopened⟩
  split
  · exact .inl rfl
  · exact .inr rfl

end Cabe
