import Cabe.EngineGroups

set_option autoImplicit false

namespace Cabe

open Storage

theorem same_head_symm (a b : RawDevice) (same : SameHead a b) : SameHead b a := fun o inside => (same o inside).symm

section Groups

variable {Path : Type}

-- The three devices of a group bear the super blocks of one call.
structure GroupCall.On (call : GroupCall) (g : DeviceGroup) : Prop where
  data : g.data.Bears call.dataSb
  wal : g.wal.Bears call.walSb
  snapshot : g.snapshot.Bears call.snapSb

theorem on_heads (call : GroupCall) (g after : DeviceGroup) (on : call.On g) (data : SameHead g.data after.data)
    (wal : SameHead g.wal after.wal) (snapshot : SameHead g.snapshot after.snapshot) : call.On after :=
  ⟨bears_head _ _ _ data on.data, bears_head _ _ _ wal on.wal, bears_head _ _ _ snapshot on.snapshot⟩

-- What holds of all engines ever since they were created.
structure Stands (w : World Path) (engines : List (List (CreatedGroup Path))) : Prop where
  apart : (engines.flatten.map CreatedGroup.call).Pairwise GroupCall.Apart
  numbered : ∀ e ∈ engines, ∀ i (bound : i < e.length), e[i].call.deviceId = UInt64.ofNat i ∧ e[i].call.deviceCount = UInt64.ofNat e.length
  sized : ∀ e ∈ engines, e.length ≤ 256
  on : ∀ g ∈ engines.flatten, g.call.On (w.group g.config)

theorem one_group (engines : List (List (CreatedGroup Path))) (apart : (engines.flatten.map CreatedGroup.call).Pairwise GroupCall.Apart)
    (a b : CreatedGroup Path) (memberA : a ∈ engines.flatten) (memberB : b ∈ engines.flatten)
    (shared : a.call.uuids.wal = b.call.uuids.wal ∨ a.call.uuids.snapshot = b.call.uuids.snapshot) : a = b := by
  by_contra different
  have : Std.Symm fun a b : CreatedGroup Path => a.call.Apart b.call := ⟨fun _ _ apart => ⟨apart.1.symm, apart.2.symm⟩⟩
  obtain ⟨wal, snapshot⟩ := (List.pairwise_map.mp apart).forall memberA memberB different
  rcases shared with same | same
  · exact wal same
  · exact snapshot same

-- A device that shows either the super block it bears or none at all.
def Shown (d : RawDevice) : Prop := (∃ sb, d.Bears sb) ∨ d.Unformatted

theorem shown_head (before after : RawDevice) (same : SameHead before after) (shown : Shown before) : Shown after := by
  rcases shown with ⟨sb, bears⟩ | blank
  · exact .inl ⟨sb, bears_head before after sb same bears⟩
  · exact .inr (unformatted_head before after same blank)

theorem read_shown (alloc : Nat → Bool) (d after : RawDevice) (found : DiskSuperBlock) (shown : Shown d)
    (done : readSuperBlockWithRepair alloc d.opened = (.ok found, after)) : d.Bears found ∧ ¬ d.Unformatted ∧ SameHead d after.close.2 := by
  have formatted : ¬ d.Unformatted := fun blank => read_unformatted alloc d.opened after found blank done
  rcases shown with ⟨sb, bears⟩ | blank
  · obtain ⟨rfl, head⟩ := read_bears alloc d.opened after sb found bears done
    exact ⟨bears, formatted, head⟩
  · exact absurd blank formatted

-- What one round of a recovery has checked.
structure RoundChecks (w : World Path) (c : DeviceConfig Path) (deviceId deviceCount : UInt64) (dataSb walSb snapSb : DiskSuperBlock) : Prop where
  data : (w c.dataPath).Bears dataSb
  wal : (w c.walPath).Bears walSb
  snapshot : (w c.snapshotPath).Bears snapSb
  formatted : ∀ p ∈ c.paths, ¬ (w p).Unformatted
  passed : ∃ sb blocks, checkDeviceGroup deviceId deviceCount blocks dataSb walSb snapSb = .ok sb

theorem checks_head (w next : World Path) (c : DeviceConfig Path) (deviceId deviceCount : UInt64) (data wal snap : DiskSuperBlock)
    (heads : ∀ p, SameHead (w p) (next p)) (checks : RoundChecks next c deviceId deviceCount data wal snap) :
    RoundChecks w c deviceId deviceCount data wal snap := by
  have back (p : Path) (mark : DiskSuperBlock) (bears : (next p).Bears mark) : (w p).Bears mark :=
    bears_head _ _ _ (same_head_symm _ _ (heads p)) bears
  exact ⟨back _ _ checks.data, back _ _ checks.wal, back _ _ checks.snapshot,
    fun p inside blank => checks.formatted p inside (unformatted_head _ _ (heads p) blank), checks.passed⟩

-- Whose super block a device of an engine can be taken for.
theorem bears_known (w : World Path) (engines : List (List (CreatedGroup Path))) (stands : Stands w engines) (p : Path) (sb : DiskSuperBlock)
    (bears : (w p).Bears sb) (formatted : ¬ (w p).Unformatted)
    (known : (∃ g ∈ engines.flatten, p ∈ g.config.paths) ∨ (w p).Unformatted) :
    ∃ g ∈ engines.flatten, (sb = g.call.dataSb ∧ p = g.config.dataPath) ∨ (sb = g.call.walSb ∧ p = g.config.walPath) ∨
      (sb = g.call.snapSb ∧ p = g.config.snapshotPath) := by
  rcases known with ⟨g, member, inside⟩ | blank
  · have on := stands.on g member
    refine ⟨g, member, ?_⟩
    simp only [DeviceConfig.paths, List.mem_cons, List.not_mem_nil, or_false] at inside
    rcases inside with rfl | rfl | rfl
    · exact .inl ⟨bears_one _ _ _ bears on.data, rfl⟩
    · exact .inr (.inl ⟨bears_one _ _ _ bears on.wal, rfl⟩)
    · exact .inr (.inr ⟨bears_one _ _ _ bears on.snapshot, rfl⟩)
  · exact absurd blank formatted

-- A group that passes the check is a group of one engine, at its own place in
-- an engine of as many groups as the list has.
theorem checks_place (w : World Path) (engines : List (List (CreatedGroup Path))) (stands : Stands w engines) (c : DeviceConfig Path) (i n : Nat)
    (data wal snap : DiskSuperBlock) (checks : RoundChecks w c (UInt64.ofNat i) (UInt64.ofNat n) data wal snap) (small : i < 2 ^ 64)
    (few : n < 2 ^ 64) (known : ∀ p ∈ c.paths, (∃ g ∈ engines.flatten, p ∈ g.config.paths) ∨ (w p).Unformatted) :
    ∃ e ∈ engines, e.length = n ∧ ∃ bound : i < e.length, c = e[i].config := by
  have dataIn : c.dataPath ∈ c.paths := by simp [DeviceConfig.paths]
  have walIn : c.walPath ∈ c.paths := by simp [DeviceConfig.paths]
  have snapIn : c.snapshotPath ∈ c.paths := by simp [DeviceConfig.paths]
  obtain ⟨a, memberA, dataOf⟩ := bears_known w engines stands _ _ checks.data (checks.formatted _ dataIn) (known _ dataIn)
  obtain ⟨b, memberB, walOf⟩ := bears_known w engines stands _ _ checks.wal (checks.formatted _ walIn) (known _ walIn)
  obtain ⟨d, memberD, snapOf⟩ := bears_known w engines stands _ _ checks.snapshot (checks.formatted _ snapIn) (known _ snapIn)
  obtain ⟨sb, blocks, passed⟩ := checks.passed
  have listed (g : CreatedGroup Path) (member : g ∈ engines.flatten) : g.call ∈ engines.flatten.map CreatedGroup.call :=
    List.mem_map_of_mem member
  obtain ⟨call, memberCall, rfl, rfl, rfl, _, ids, counts⟩ := check_group_one _ stands.apart _ _ _ _ _ _ _
    ⟨a.call, listed a memberA, dataOf.imp And.left (Or.imp And.left And.left)⟩
    ⟨b.call, listed b memberB, walOf.imp And.left (Or.imp And.left And.left)⟩
    ⟨d.call, listed d memberD, snapOf.imp And.left (Or.imp And.left And.left)⟩ passed
  obtain ⟨g, memberG, rfl⟩ := List.mem_map.mp memberCall
  have types (x y : GroupCall) : x.dataSb ≠ y.walSb ∧ x.dataSb ≠ y.snapSb ∧ x.walSb ≠ y.snapSb := by
    refine ⟨fun same => ?_, fun same => ?_, fun same => ?_⟩
    · exact absurd (show DeviceType.data.raw = DeviceType.wal.raw from congrArg DiskSuperBlock.deviceType same) (by decide)
    · exact absurd (show DeviceType.data.raw = DeviceType.snapshot.raw from congrArg DiskSuperBlock.deviceType same) (by decide)
    · exact absurd (show DeviceType.wal.raw = DeviceType.snapshot.raw from congrArg DiskSuperBlock.deviceType same) (by decide)
  have dataPath : c.dataPath = g.config.dataPath := by
    rcases dataOf with ⟨same, path⟩ | ⟨same, _⟩ | ⟨same, _⟩
    · rw [path, one_group engines stands.apart g a memberG memberA (.inl (congrArg DiskSuperBlock.pairedWalUuid same))]
    · exact absurd same (types _ _).1
    · exact absurd same (types _ _).2.1
  have walPath : c.walPath = g.config.walPath := by
    rcases walOf with ⟨same, _⟩ | ⟨same, path⟩ | ⟨same, _⟩
    · exact absurd same.symm (types _ _).1
    · rw [path, one_group engines stands.apart g b memberG memberB (.inl (congrArg DiskSuperBlock.deviceUuid same))]
    · exact absurd same (types _ _).2.2
  have snapshotPath : c.snapshotPath = g.config.snapshotPath := by
    rcases snapOf with ⟨same, _⟩ | ⟨same, _⟩ | ⟨same, path⟩
    · exact absurd same.symm (types _ _).2.1
    · exact absurd same.symm (types _ _).2.2
    · rw [path, one_group engines stands.apart g d memberG memberD (.inr (congrArg DiskSuperBlock.deviceUuid same))]
  obtain ⟨e, memberE, inside⟩ := List.mem_flatten.mp memberG
  obtain ⟨j, bound, rfl⟩ := List.getElem_of_mem inside
  obtain ⟨number, count⟩ := stands.numbered e memberE j bound
  have few_ := stands.sized e memberE
  have length : e.length = n := by
    have same := congrArg UInt64.toNat (count.symm.trans counts)
    rwa [UInt64.toNat_ofNat', UInt64.toNat_ofNat', Nat.mod_eq_of_lt (by omega), Nat.mod_eq_of_lt few] at same
  have index : j = i := by
    have same := congrArg UInt64.toNat (number.symm.trans ids)
    rwa [UInt64.toNat_ofNat', UInt64.toNat_ofNat', Nat.mod_eq_of_lt (by omega), Nat.mod_eq_of_lt small] at same
  subst index
  refine ⟨e, memberE, length, bound, ?_⟩
  cases c
  simp only at dataPath walPath snapshotPath
  rw [dataPath, walPath, snapshotPath]

end Groups

section Engine

variable {Path : Type} [DecidableEq Path]

theorem store_other (w : World Path) (c : DeviceConfig Path) (g : DeviceGroup) (p : Path) (other : p ∉ c.paths) : w.store c g p = w p := by
  simp only [DeviceConfig.paths, List.mem_cons, List.not_mem_nil, or_false, not_or] at other
  rw [World.store, Function.update_of_ne other.2.2, Function.update_of_ne other.2.1, Function.update_of_ne other.1]

theorem store_own (w : World Path) (c : DeviceConfig Path) (g : DeviceGroup) (distinct : c.paths.Nodup) : (w.store c g).group c = g := by
  simp only [DeviceConfig.paths, List.nodup_cons, List.mem_cons, List.not_mem_nil, or_false, not_or] at distinct
  obtain ⟨⟨dataWal, dataSnap⟩, walSnap, _⟩ := distinct
  rw [World.group, World.store, Function.update_self, Function.update_of_ne walSnap, Function.update_self, Function.update_of_ne dataSnap,
    Function.update_of_ne dataWal, Function.update_self]

theorem store_heads (w : World Path) (c : DeviceConfig Path) (g : DeviceGroup) (data : SameHead (w c.dataPath) g.data)
    (wal : SameHead (w c.walPath) g.wal) (snapshot : SameHead (w c.snapshotPath) g.snapshot) (p : Path) : SameHead (w p) (w.store c g p) := by
  unfold World.store
  by_cases here : p = c.snapshotPath
  · subst here
    rw [Function.update_self]
    exact snapshot
  rw [Function.update_of_ne here]
  by_cases here : p = c.walPath
  · subst here
    rw [Function.update_self]
    exact wal
  rw [Function.update_of_ne here]
  by_cases here : p = c.dataPath
  · subst here
    rw [Function.update_self]
    exact data
  rw [Function.update_of_ne here]
  exact same_head_refl (w p)

theorem round_ok (opts : Options) (env : RoundEnv) (deviceId deviceCount : UInt64) (c : DeviceConfig Path) (w next : World Path)
    (dc : DeviceContext) (done : openRound opts env deviceId deviceCount c w = (.ok dc, next)) :
    ∃ sb g, (if opts.create = true then createDeviceGroup env.create deviceId deviceCount (w.group c)
        else recoverDeviceGroup env.create.alloc deviceId deviceCount (w.group c)) = (.ok sb, g) ∧
      openDevice opts env.device sb.summary g = (Err.kSuccess, dc) ∧ next = w.store c dc.released := by
  unfold openRound at done
  generalize (if opts.create = true then createDeviceGroup env.create deviceId deviceCount (w.group c)
    else recoverDeviceGroup env.create.alloc deviceId deviceCount (w.group c)) = found at done ⊢
  obtain ⟨rc | sb, g⟩ := found
  · cases done
  · simp only at done
    cases out : openDevice opts env.device sb.summary g with
    | mk rc one =>
    rw [out] at done
    by_cases refused : rc ≠ Err.kSuccess
    · simp [refused] at done
    · simp only [if_neg refused, Prod.mk.injEq, Except.ok.injEq] at done
      obtain ⟨rfl, rfl⟩ := done
      exact ⟨sb, g, rfl, by rw [out, not_not.mp refused], rfl⟩

theorem loop_ok (opts : Options) (env : Nat → RoundEnv) (deviceCount : UInt64) (i : Nat) (c : DeviceConfig Path)
    (rest : List (DeviceConfig Path)) (w next : World Path) (dcs : List DeviceContext)
    (done : openLoop opts env deviceCount i (c :: rest) w = (.ok dcs, next)) :
    ∃ dc others middle, openRound opts (env i) (UInt64.ofNat i) deviceCount c w = (.ok dc, middle) ∧
      openLoop opts env deviceCount (i + 1) rest middle = (.ok others, next) ∧ dcs = dc :: others := by
  unfold openLoop at done
  generalize openRound opts (env i) (UInt64.ofNat i) deviceCount c w = found at done ⊢
  obtain ⟨rc | dc, middle⟩ := found
  · cases done
  · simp only at done
    cases out : openLoop opts env deviceCount (i + 1) rest middle with
    | mk last after =>
    rw [out] at done
    cases last with
    | error rc => cases done
    | ok others =>
        simp only [Prod.mk.injEq, Except.ok.injEq] at done
        obtain ⟨rfl, rfl⟩ := done
        exact ⟨dc, others, middle, rfl, out, rfl⟩

theorem round_creates (opts : Options) (env : RoundEnv) (uuids : GroupUuids) (deviceId deviceCount : UInt64) (c : DeviceConfig Path)
    (w next : World Path) (dc : DeviceContext) (mode : opts.create = true) (entropy : env.create.entropy = some uuids)
    (distinct : c.paths.Nodup) (done : openRound opts env deviceId deviceCount c w = (.ok dc, next)) :
    ((w.group c).call uuids env.create.now deviceId deviceCount).On (next.group c) ∧ ∀ p ∉ c.paths, next p = w p := by
  obtain ⟨sb, g, made, opened, rfl⟩ := round_ok opts env deviceId deviceCount c w next dc done
  rw [if_pos mode] at made
  obtain ⟨yielded, same, _, data, wal, snapshot⟩ := create_bears env.create deviceId deviceCount (w.group c) g sb made
  rw [entropy] at same
  cases same
  obtain ⟨dataHead, walHead, snapHead⟩ := open_device_heads opts env.device sb.summary g dc opened
  rw [store_own w c _ distinct]
  exact ⟨on_heads _ g _ ⟨data, wal, snapshot⟩ dataHead walHead snapHead, fun p other => store_other w c _ p other⟩

theorem loop_creates (opts : Options) (env : Nat → RoundEnv) (uuids : Nat → GroupUuids) (deviceCount : UInt64) (mode : opts.create = true)
    (entropy : ∀ i, (env i).create.entropy = some (uuids i)) (devices : List (DeviceConfig Path)) :
    ∀ (i : Nat) (w next : World Path) (dcs : List DeviceContext), (devices.flatMap DeviceConfig.paths).Nodup →
      openLoop opts env deviceCount i devices w = (.ok dcs, next) →
      (∀ k (bound : k < devices.length), ((w.group devices[k]).call (uuids (i + k)) (env (i + k)).create.now (UInt64.ofNat (i + k))
        deviceCount).On (next.group devices[k])) ∧ ∀ p ∉ devices.flatMap DeviceConfig.paths, next p = w p := by
  induction devices with
  | nil =>
      intro i w next dcs _ done
      cases done
      exact ⟨fun k bound => absurd bound (Nat.not_lt_zero k), fun _ _ => rfl⟩
  | cons c rest ih =>
      intro i w next dcs distinct done
      obtain ⟨dc, others, middle, round, loop, rfl⟩ := loop_ok opts env deviceCount i c rest w next dcs done
      rw [List.flatMap_cons, List.nodup_append] at distinct
      obtain ⟨own, later, apart⟩ := distinct
      obtain ⟨first, kept⟩ := round_creates opts (env i) (uuids i) (UInt64.ofNat i) deviceCount c w middle dc mode (entropy i) own round
      obtain ⟨more, left⟩ := ih (i + 1) middle next others later loop
      have still (d : DeviceConfig Path) (a b : World Path) (same : ∀ p ∈ d.paths, a p = b p) : a.group d = b.group d := by
        rw [World.group, World.group, same _ (by simp [DeviceConfig.paths]), same _ (by simp [DeviceConfig.paths]),
          same _ (by simp [DeviceConfig.paths])]
      constructor
      · intro k bound
        cases k with
        | zero =>
            rw [List.getElem_cons_zero, still c next middle fun p member => left p fun again => apart p member p again rfl]
            exact first
        | succ k =>
            have inside : k < rest.length := Nat.lt_of_succ_lt_succ bound
            have next_ := more k inside
            rw [still rest[k] middle w fun p member => kept p fun again =>
              apart p again p (List.mem_flatMap.mpr ⟨rest[k], List.getElem_mem inside, member⟩) rfl] at next_
            rw [List.getElem_cons_succ, Nat.add_comm k 1, ← Nat.add_assoc]
            exact next_
      · intro p outside
        rw [List.flatMap_cons, List.mem_append, not_or] at outside
        rw [left p outside.2, kept p outside.1]

theorem open_engine_ok (opts : Options) (env : Nat → RoundEnv) (devices : List (DeviceConfig Path)) (w next : World Path)
    (dcs : List DeviceContext) (done : openEngine opts env devices w = (.ok dcs, next)) :
    devices ≠ [] ∧ devices.length ≤ 256 ∧ openLoop opts env (UInt64.ofNat devices.length) 0 devices w = (.ok dcs, next) := by
  unfold openEngine at done
  by_cases empty : devices.isEmpty = true
  · rw [if_pos empty] at done
    cases done
  rw [if_neg empty] at done
  by_cases many : devices.length > 256
  · rw [if_pos many] at done
    cases done
  rw [if_neg many] at done
  exact ⟨fun none_ => empty (by rw [none_]; rfl), Nat.le_of_not_lt many, done⟩

theorem created_stands (w : World Path) (engines : List (List (CreatedGroup Path))) (created : Created w engines) : Stands w engines := by
  induction created with
  | none w => exact ⟨List.Pairwise.nil, by simp, by simp, by simp⟩
  | create w engines opts env uuids devices dcs next _ mode entropy disjoint fresh opened ih =>
      obtain ⟨_, few, loop⟩ := open_engine_ok opts env devices w next dcs opened
      rw [List.flatMap_append, List.nodup_append] at disjoint
      obtain ⟨_, own, away⟩ := disjoint
      obtain ⟨made, kept⟩ := loop_creates opts env uuids _ mode entropy devices 0 w next dcs own loop
      have length : (createdGroups w env uuids devices).length = devices.length := by simp [createdGroups]
      refine ⟨?_, ?_, ?_, ?_⟩
      · rw [List.flatten_append, List.flatten_singleton]
        exact fresh
      · intro e member i bound
        rcases List.mem_append.mp member with old | new
        · exact ih.numbered e old i bound
        · cases List.mem_singleton.mp new
          rw [length]
          simp [createdGroups, DeviceGroup.call]
      · intro e member
        rcases List.mem_append.mp member with old | new
        · exact ih.sized e old
        · rw [List.mem_singleton.mp new, length]
          exact few
      · intro g member
        rw [List.flatten_append, List.flatten_singleton] at member
        rcases List.mem_append.mp member with old | new
        · have same (p : Path) (inside : p ∈ g.config.paths) : next p = w p :=
            kept p fun again => away p (List.mem_flatMap.mpr ⟨g.config, List.mem_map_of_mem old, inside⟩) p again rfl
          rw [World.group, same _ (by simp [DeviceConfig.paths]), same _ (by simp [DeviceConfig.paths]), same _ (by simp [DeviceConfig.paths])]
          exact ih.on g old
        · obtain ⟨k, bound, rfl⟩ := List.getElem_of_mem new
          have here := made k (by rw [← length]; exact bound)
          simpa [createdGroups] using here
  | used w next engines _ heads ih =>
      refine ⟨ih.apart, ih.numbered, ih.sized, fun g member => ?_⟩
      have same := heads g member
      exact on_heads _ _ _ (ih.on g member) (same _ (by simp [DeviceConfig.paths])) (same _ (by simp [DeviceConfig.paths]))
        (same _ (by simp [DeviceConfig.paths]))

theorem round_recovers (opts : Options) (env : RoundEnv) (deviceId deviceCount : UInt64) (c : DeviceConfig Path) (w next : World Path)
    (dc : DeviceContext) (mode : opts.create = false) (shown : ∀ p ∈ c.paths, Shown (w p))
    (done : openRound opts env deviceId deviceCount c w = (.ok dc, next)) :
    (∃ data wal snap, RoundChecks w c deviceId deviceCount data wal snap) ∧ ∀ p, SameHead (w p) (next p) := by
  obtain ⟨sb, g, found, opened, rfl⟩ := round_ok opts env deviceId deviceCount c w next dc done
  rw [if_neg (by rw [mode]; exact Bool.false_ne_true)] at found
  obtain ⟨data, wal, snap, dataDev, walDev, snapDev, dataRead, walRead, snapRead, ⟨blocks, passed⟩, rfl⟩ :=
    recover_reads env.create.alloc deviceId deviceCount (w.group c) g sb found
  obtain ⟨dataBears, dataShown, dataKept⟩ := read_shown _ _ dataDev data (shown c.dataPath (by simp [DeviceConfig.paths])) dataRead
  obtain ⟨walBears, walShown, walKept⟩ := read_shown _ _ walDev wal (shown c.walPath (by simp [DeviceConfig.paths])) walRead
  obtain ⟨snapBears, snapShown, snapKept⟩ := read_shown _ _ snapDev snap (shown c.snapshotPath (by simp [DeviceConfig.paths])) snapRead
  obtain ⟨dataHead, walHead, snapHead⟩ := open_device_heads opts env.device sb.summary _ dc opened
  refine ⟨⟨data, wal, snap, dataBears, walBears, snapBears, ?_, sb, blocks, passed⟩, store_heads w c dc.released
    (same_head_trans _ _ _ dataKept dataHead) (same_head_trans _ _ _ walKept walHead) (same_head_trans _ _ _ snapKept snapHead)⟩
  simp only [DeviceConfig.paths, List.mem_cons, List.not_mem_nil, or_false, forall_eq_or_imp, forall_eq]
  exact ⟨dataShown, walShown, snapShown⟩

theorem loop_recovers (opts : Options) (env : Nat → RoundEnv) (deviceCount : UInt64) (mode : opts.create = false)
    (devices : List (DeviceConfig Path)) : ∀ (i : Nat) (w next : World Path) (dcs : List DeviceContext),
      (∀ c ∈ devices, ∀ p ∈ c.paths, Shown (w p)) → openLoop opts env deviceCount i devices w = (.ok dcs, next) →
      ∀ k (bound : k < devices.length), ∃ data wal snap, RoundChecks w devices[k] (UInt64.ofNat (i + k)) deviceCount data wal snap := by
  induction devices with
  | nil => exact fun i w next dcs _ _ k bound => absurd bound (Nat.not_lt_zero k)
  | cons c rest ih =>
      intro i w next dcs shown done k bound
      obtain ⟨dc, others, middle, round, loop, rfl⟩ := loop_ok opts env deviceCount i c rest w next dcs done
      obtain ⟨checks, heads⟩ := round_recovers opts (env i) _ deviceCount c w middle dc mode (shown c (by simp)) round
      cases k with
      | zero => exact checks
      | succ k =>
          obtain ⟨data, wal, snap, later⟩ := ih (i + 1) middle next others
            (fun d member p inside => shown_head _ _ (heads p) (shown d (List.mem_cons_of_mem _ member) p inside)) loop k
            (Nat.lt_of_succ_lt_succ bound)
          rw [List.getElem_cons_succ, Nat.add_comm k 1, ← Nat.add_assoc]
          exact ⟨data, wal, snap, checks_head w middle _ _ _ _ _ _ heads later⟩

end Engine

theorem engines_shown {Path : Type} (w : World Path) (engines : List (List (CreatedGroup Path))) (stands : Stands w engines) (p : Path)
    (known : (∃ g ∈ engines.flatten, p ∈ g.config.paths) ∨ (w p).Unformatted) : Shown (w p) := by
  rcases known with ⟨g, member, inside⟩ | blank
  · have on := stands.on g member
    simp only [DeviceConfig.paths, List.mem_cons, List.not_mem_nil, or_false] at inside
    rcases inside with rfl | rfl | rfl
    · exact .inl ⟨_, on.data⟩
    · exact .inl ⟨_, on.wal⟩
    · exact .inl ⟨_, on.snapshot⟩
  · exact .inr blank

-- With one engine of each size at most, the place of a group in its engine and
-- the number of groups name the engine.
theorem identity_apart (hash : Key → UInt64) (counts : List Nat) (apart : counts.Pairwise fun a b => a = b → a ≤ 1) : Identity hash counts := by
  intro Path _ w engines created sizes opts env devices dcs next mode known opened
  have stands := created_stands w engines created
  obtain ⟨some_, few, loop⟩ := open_engine_ok opts env devices w next dcs opened
  have checks := loop_recovers opts env _ mode devices 0 w next dcs
    (fun c member p inside => engines_shown w engines stands p (known c member p inside)) loop
  have placed (k : Nat) (bound : k < devices.length) :
      ∃ e ∈ engines, e.length = devices.length ∧ ∃ inside : k < e.length, devices[k] = e[k].config := by
    obtain ⟨data, wal, snap, passed⟩ := checks k bound
    rw [Nat.zero_add] at passed
    exact checks_place w engines stands devices[k] k devices.length data wal snap passed (by omega) (by omega)
      (known _ (List.getElem_mem bound))
  obtain ⟨engine, member, length, _, first⟩ := placed 0 (List.length_pos_of_ne_nil some_)
  have all : devices = engine.map CreatedGroup.config := by
    apply List.ext_getElem
    · rw [List.length_map, length]
    · intro k bound _
      rw [List.getElem_map]
      cases k with
      | zero => exact first
      | succ k =>
          obtain ⟨other, memberOther, lengthOther, _, same⟩ := placed (k + 1) bound
          have one : engine = other := by
            by_contra different
            rw [← sizes, List.pairwise_map] at apart
            have : Std.Symm fun a b : List (CreatedGroup Path) => a.length = b.length → a.length ≤ 1 :=
              ⟨fun a b small equal => equal ▸ small equal.symm⟩
            have small := apart.forall member memberOther different (length.trans lengthOther.symm)
            omega
          subst one
          exact same
  exact ⟨engine, member, all, fun key => by rw [all]⟩

end Cabe
