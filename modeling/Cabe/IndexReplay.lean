import Cabe.ReactorLog

set_option autoImplicit false

namespace Cabe

open Storage

-- The same entries, field by field.
def MetaIndex.Same (a b : MetaIndex) : Prop := ∀ key, a.lookup key = b.lookup key

theorem same_refl (a : MetaIndex) : a.Same a := fun _ => rfl

theorem same_blocks (a b : MetaIndex) (same : a.Same b) : a.blocks.Perm b.blocks := by
  apply List.Perm.map
  apply List.lookup_ext a.nodupKeys b.nodupKeys
  intro key meta_
  rw [show a.entries.dlookup key = b.entries.dlookup key from same key]

theorem same_insert (a b : MetaIndex) (key : Key) (meta_ : ValueMeta) (same : a.Same b) :
    MetaIndex.Same (a.insert key meta_) (b.insert key meta_) := by
  intro other
  by_cases here : other = key
  · subst here
    rw [AList.lookup_insert, AList.lookup_insert]
  · rw [AList.lookup_insert_ne here, AList.lookup_insert_ne here]
    exact same other

theorem same_erase (a b : MetaIndex) (key : Key) (same : a.Same b) : MetaIndex.Same (a.erase key) (b.erase key) := by
  intro other
  by_cases here : other = key
  · subst here
    rw [AList.lookup_erase, AList.lookup_erase]
  · rw [AList.lookup_erase_ne here, AList.lookup_erase_ne here]
    exact same other

theorem same_lawful (sb : SuperBlock) (a b : MetaIndex) (same : a.Same b) (lawful : Lawful sb b) : Lawful sb a := by
  intro key meta_ found
  exact lawful key meta_ ((same key).symm.trans found)

-- What recovery does with the frames behind a snapshot.
def replay (sb : SuperBlock) : List WalFrame → MetaIndex → Except Rc MetaIndex
  | [], index => .ok index
  | f :: rest, index =>
      match applyWalEntry sb index (decodeEntry f) f.seq.toNat with
      | .error rc => .error rc
      | .ok next => replay sb rest next

theorem replay_append (sb : SuperBlock) (front back : List WalFrame) : ∀ (index mid : MetaIndex),
    replay sb front index = .ok mid → replay sb (front ++ back) index = replay sb back mid := by
  induction front with
  | nil =>
      intro index mid done
      cases done
      rfl
  | cons f rest ih =>
      intro index mid done
      rw [replay] at done
      rw [List.cons_append, replay]
      cases applied : applyWalEntry sb index (decodeEntry f) f.seq.toNat with
      | error rc =>
          rw [applied] at done
          cases done
      | ok next =>
          rw [applied] at done
          exact ih next mid done

-- Replaying does the same to the same entries.
theorem applied_same (sb : SuperBlock) (a b next : MetaIndex) (e : WalEntry) (seq : Nat) (same : a.Same b)
    (done : applyWalEntry sb a e seq = .ok next) : ∃ other, applyWalEntry sb b e seq = .ok other ∧ next.Same other := by
  unfold applyWalEntry at done ⊢
  split at done
  · rename_i put
    rw [if_pos put]
    split at done
    · cases done
    · rename_i valid
      cases done
      exact ⟨_, if_neg valid, same_insert a b e.key _ same⟩
  · rename_i other
    rw [if_neg other]
    split at done
    · rename_i delete
      rw [if_pos delete]
      split at done
      · cases done
      · rename_i valid
        rw [if_neg valid]
        unfold MetaIndex.deleteMeta at done ⊢
        rw [← same e.key]
        cases found : a.lookup e.key with
        | none => simp [found] at done
        | some meta_ =>
            simp only [found, show Err.kSuccess ≠ Err.kIndexKeyNotFound by decide, if_false, ne_eq, not_true_eq_false,
              Except.ok.injEq] at done ⊢
            subst done
            exact ⟨_, rfl, same_erase a b e.key same⟩
    · cases done

theorem replay_same (sb : SuperBlock) (frames : List WalFrame) : ∀ (a b last : MetaIndex), a.Same b → replay sb frames a = .ok last →
    ∃ other, replay sb frames b = .ok other ∧ last.Same other := by
  induction frames with
  | nil =>
      intro a b last same done
      cases done
      exact ⟨b, rfl, same⟩
  | cons f rest ih =>
      intro a b last same done
      rw [replay] at done
      cases applied : applyWalEntry sb a (decodeEntry f) f.seq.toNat with
      | error rc =>
          rw [applied] at done
          cases done
      | ok next =>
          rw [applied] at done
          obtain ⟨next', applied', same'⟩ := applied_same sb a b next _ _ same applied
          obtain ⟨other, done', last'⟩ := ih next next' last same' done
          refine ⟨other, ?_, last'⟩
          rw [replay, applied']
          exact done'

-- The frames lead from the base to this index, and nothing in them is refused.
def Replays (sb : SuperBlock) (frames : List WalFrame) (base live : MetaIndex) : Prop :=
  ∃ index, replay sb frames base = .ok index ∧ index.Same live

def MetaIndex.commit (index : MetaIndex) (e : WalEntry) : MetaIndex :=
  if e.type = .put then
    (index.insertMeta e.key { block := e.block, timestamp := e.timestamp, crc := e.valueCrc, state := .active }).2
  else (index.deleteMeta e.key).2

theorem commit_index (r : Reactor) (e : WalEntry) : (r.commit e).dc.metaIndex = r.dc.metaIndex.commit e := by
  unfold Reactor.commit MetaIndex.commit
  split <;> rfl

theorem acceptable_short (sb : SuperBlock) (index : MetaIndex) (e : WalEntry) (acceptable : Acceptable sb index e) :
    1 ≤ e.key.length ∧ e.key.length ≤ kWalKeyMax := by
  cases acceptable with
  | put key block crc now named short => exact ⟨named, short⟩
  | delete key now meta_ named short => exact ⟨named, short⟩

-- Replaying a frame does what the operation that wrote it did.
theorem acceptable_applies (sb : SuperBlock) (index live : MetaIndex) (e : WalEntry) (seq : Nat) (acceptable : Acceptable sb live e)
    (same : index.Same live) : ∃ next, applyWalEntry sb index e seq = .ok next ∧ next.Same (live.commit e) := by
  have valid (id : Option BlockId) (named : 1 ≤ e.key.length) (short : e.key.length ≤ kWalKeyMax)
      (fits : ∀ b, id = some b → b.dev = sb.dev ∧ b.blockIdx < sb.blockCount) : ¬ validateRecoveredMeta sb e.key id = false := by
    cases id with
    | none =>
        unfold validateRecoveredMeta
        rw [if_neg (by omega)]
        exact Bool.noConfusion
    | some b =>
        have holds := (validate_meta sb e.key b).mpr ⟨named, short, fits b rfl⟩
        rw [holds]
        exact Bool.noConfusion
  cases acceptable with
  | put key block crc now named short dev inside =>
      have fine := valid (some block) named short (by rintro b ⟨⟩; exact ⟨dev, inside⟩)
      refine ⟨index.insert key { block := block, timestamp := now, crc := crc, state := .active }, ?_, ?_⟩
      · unfold applyWalEntry
        rw [if_pos (show (putEntry key block crc now).type = .put from rfl)]
        exact if_neg fine
      · unfold MetaIndex.commit
        rw [if_pos (show (putEntry key block crc now).type = .put from rfl)]
        exact same_insert index live key _ same
  | delete key now meta_ named short found =>
      have fine := valid none named short (by rintro b ⟨⟩)
      have other : ¬ (deleteEntry key now).type = .put := by simp [deleteEntry, WalEntryType.delete, WalEntryType.put]
      have found' : index.lookup key = some meta_ := (same key).trans found
      refine ⟨index.erase key, ?_, ?_⟩
      · unfold applyWalEntry
        rw [if_neg other, if_pos (show (deleteEntry key now).type = .delete from rfl), if_neg fine]
        unfold MetaIndex.deleteMeta
        rw [show (deleteEntry key now).key = key from rfl, found']
        simp [Err.kSuccess, Err.kIndexKeyNotFound]
      · unfold MetaIndex.commit MetaIndex.deleteMeta
        rw [if_neg other, show (deleteEntry key now).key = key from rfl, found]
        exact same_erase index live key same

theorem replays_logged (sb : SuperBlock) (frames : List WalFrame) (base live : MetaIndex) (e : WalEntry) (seq : Nat)
    (acceptable : Acceptable sb live e) (replays : Replays sb frames base live) :
    Replays sb (frames ++ [encodeFrame e seq]) base (live.commit e) := by
  obtain ⟨index, done, same⟩ := replays
  obtain ⟨next, applied, after⟩ := acceptable_applies sb index live e (encodeFrame e seq).seq.toNat acceptable same
  refine ⟨next, ?_, after⟩
  rw [replay_append sb frames _ base index done, replay, decode_encode e seq (acceptable_short sb live e acceptable).2, applied]
  rfl

-- Loading entries that could have been written leaves them in front of what was there.
theorem visit_all_loads (sb : SuperBlock) (entries : List IndexEntry) : ∀ (st : MetaIndex), entries.NodupKeys →
    (∀ e ∈ entries, validateRecoveredMeta sb e.1 (some e.2.block) = true) →
    ∃ base, visitAll (applyRecoveredEntry sb) st entries = (Err.kSuccess, base) ∧
      ∀ key, base.lookup key = (entries.dlookup key).or (st.lookup key) := by
  induction entries with
  | nil => exact fun st _ _ => ⟨st, rfl, fun _ => rfl⟩
  | cons e rest ih =>
      intro st nodup valid
      obtain ⟨key, meta_⟩ := e
      have parts := List.nodupKeys_cons.mp nodup
      obtain ⟨base, loaded, lookups⟩ := ih (st.insert key meta_) parts.2 (fun e member => valid e (List.mem_cons_of_mem _ member))
      have first : applyRecoveredEntry sb st key meta_ = (Err.kSuccess, st.insert key meta_) := by
        unfold applyRecoveredEntry
        rw [valid _ (List.mem_cons_self)]
        rfl
      refine ⟨base, ?_, fun other => ?_⟩
      · unfold visitAll
        simp only [first, ne_eq, not_true_eq_false, if_false]
        exact loaded
      · rw [lookups other]
        by_cases here : other = key
        · subst here
          rw [List.dlookup_cons_eq, AList.lookup_insert, List.dlookup_eq_none.mpr parts.1]
          rfl
        · rw [List.dlookup_cons_ne rest _ here, AList.lookup_insert_ne here]

-- Entries that say what an index does bring it back, in whatever order.
theorem visit_all_brings (sb : SuperBlock) (index : MetaIndex) (entries : List IndexEntry) (nodup : entries.NodupKeys)
    (lookups : ∀ key, entries.dlookup key = index.lookup key) (lawful : Lawful sb index) :
    ∃ base, visitAll (applyRecoveredEntry sb) ∅ entries = (Err.kSuccess, base) ∧ base.Same index := by
  obtain ⟨base, loaded, found⟩ := visit_all_loads sb entries ∅ nodup (fun e member => by
    have known : index.lookup e.1 = some e.2 := (lookups e.1).symm.trans (List.mem_dlookup nodup member)
    exact (validate_meta sb e.1 e.2.block).mpr (lawful e.1 e.2 known))
  refine ⟨base, loaded, fun key => ?_⟩
  rw [found key, lookups key, AList.lookup_empty, Option.or_none]

theorem walk_lookups (index : MetaIndex) (walk : Walk) :
    (walk.order index).NodupKeys ∧ ∀ key, (walk.order index).dlookup key = index.lookup key := by
  have perm := walk.perm index
  have nodup : (walk.order index).NodupKeys := (List.perm_nodupKeys perm).mpr index.nodupKeys
  exact ⟨nodup, fun key => List.perm_dlookup key nodup perm⟩

-- A snapshot of an index brings it back.
theorem visit_all_restores (sb : SuperBlock) (index : MetaIndex) (walk : Walk) (lawful : Lawful sb index) :
    ∃ base, visitAll (applyRecoveredEntry sb) ∅ (walk.order index) = (Err.kSuccess, base) ∧ base.Same index := by
  obtain ⟨nodup, lookups⟩ := walk_lookups index walk
  exact visit_all_brings sb index _ nodup lookups lawful

theorem commit_lawful (sb : SuperBlock) (index : MetaIndex) (e : WalEntry) (lawful : Lawful sb index) (acceptable : Acceptable sb index e) :
    Lawful sb (index.commit e) := by
  obtain ⟨next, applied, same⟩ := acceptable_applies sb index index e 0 acceptable (same_refl index)
  exact same_lawful sb _ next (fun key => (same key).symm) (apply_wal_lawful sb index next e 0 lawful applied)

-- The index the log stands for.
def Logging.live (s : Logging) : MetaIndex :=
  match s.stage with
  | .logged e => s.reactor.dc.metaIndex.commit e
  | _ => s.reactor.dc.metaIndex

end Cabe
