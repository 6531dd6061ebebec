import Cabe.GroupHeads

set_option autoImplicit false

namespace Cabe

open Storage

def DeviceConfig.paths {Path : Type} (c : DeviceConfig Path) : List Path := [c.dataPath, c.walPath, c.snapshotPath]

-- Every device of the machine, closed, as the next process finds it.
abbrev World (Path : Type) : Type := Path → RawDevice

-- What Open finds in one round of its loop.
structure RoundEnv where
  create : CreateEnv
  device : OpenEnv

-- The devices of a context once the process has let go of them.
def DeviceContext.released (dc : DeviceContext) : DeviceGroup := ⟨dc.io.dev.close.2, dc.wal.dev.close.2, dc.snapshot.dev.close.2⟩

section Engine

variable {Path : Type} [DecidableEq Path]

def World.group (w : World Path) (c : DeviceConfig Path) : DeviceGroup := ⟨w c.dataPath, w c.walPath, w c.snapshotPath⟩

def World.store (w : World Path) (c : DeviceConfig Path) (g : DeviceGroup) : World Path :=
  Function.update (Function.update (Function.update w c.dataPath g.data) c.walPath g.wal) c.snapshotPath g.snapshot

def openRound (opts : Options) (env : RoundEnv) (deviceId deviceCount : UInt64) (c : DeviceConfig Path) (w : World Path) :
    Except Rc DeviceContext × World Path :=
  match (if opts.create = true then createDeviceGroup env.create deviceId deviceCount (w.group c)
    else recoverDeviceGroup env.create.alloc deviceId deviceCount (w.group c)) with
  | (.error rc, g) => (.error rc, w.store c g)
  | (.ok sb, g) =>
      match openDevice opts env.device sb.summary g with
      | (rc, dc) => (if rc ≠ Err.kSuccess then .error rc else .ok dc, w.store c dc.released)

-- The first round to fail ends the loop.
def openLoop (opts : Options) (env : Nat → RoundEnv) (deviceCount : UInt64) :
    Nat → List (DeviceConfig Path) → World Path → Except Rc (List DeviceContext) × World Path
  | _, [], w => (.ok [], w)
  | i, c :: rest, w =>
      match openRound opts (env i) (UInt64.ofNat i) deviceCount c w with
      | (.error rc, w) => (.error rc, w)
      | (.ok dc, w) =>
          match openLoop opts env deviceCount (i + 1) rest w with
          | (.error rc, w) => (.error rc, w)
          | (.ok dcs, w) => (.ok (dc :: dcs), w)

-- Open up to its reactors. The value buffer pools are taken to be made.
def openEngine (opts : Options) (env : Nat → RoundEnv) (devices : List (DeviceConfig Path)) (w : World Path) :
    Except Rc (List DeviceContext) × World Path :=
  if devices.isEmpty = true then (.error Err.kEngineInvalidOpts, w)
  else if devices.length > 256 then (.error Err.kEngineInvalidOpts, w)
  else openLoop opts env (UInt64.ofNat devices.length) 0 devices w

-- A group of an engine and the CreateDeviceGroup call that made it.
structure CreatedGroup (Path : Type) where
  config : DeviceConfig Path
  call : GroupCall

def createdGroups (w : World Path) (env : Nat → RoundEnv) (uuids : Nat → GroupUuids) (devices : List (DeviceConfig Path)) :
    List (CreatedGroup Path) :=
  devices.mapIdx fun i c =>
    ⟨c, (w.group c).call (uuids i) (env i).create.now (UInt64.ofNat i) (UInt64.ofNat devices.length)⟩

-- The engines that have been created on disjoint devices, and all that can
-- become of the devices since: behind their super blocks, anything.
inductive Created : World Path → List (List (CreatedGroup Path)) → Prop where
  | none (w : World Path) : Created w []
  | create (w : World Path) (engines : List (List (CreatedGroup Path))) (opts : Options) (env : Nat → RoundEnv) (uuids : Nat → GroupUuids)
      (devices : List (DeviceConfig Path)) (dcs : List DeviceContext) (next : World Path) (earlier : Created w engines)
      (mode : opts.create = true) (entropy : ∀ i, (env i).create.entropy = some (uuids i))
      (disjoint : ((engines.flatten.map CreatedGroup.config ++ devices).flatMap DeviceConfig.paths).Nodup)
      (fresh : ((engines.flatten ++ createdGroups w env uuids devices).map CreatedGroup.call).Pairwise GroupCall.Apart)
      (opened : openEngine opts env devices w = (.ok dcs, next)) : Created next (engines ++ [createdGroups w env uuids devices])
  | used (w next : World Path) (engines : List (List (CreatedGroup Path))) (earlier : Created w engines)
      (heads : ∀ g ∈ engines.flatten, ∀ p ∈ g.config.paths, SameHead (w p) (next p)) : Created next engines

end Engine

-- The group that RouteKey sends a key to. The hash is fixed by its library.
def routeToDevice (hash : Key → UInt64) (key : Key) (devices : Nat) : DeviceId := UInt8.ofNat ((hash key).toNat % devices)

def servingGroup {Path : Type} (hash : Key → UInt64) (devices : List (DeviceConfig Path)) (key : Key) : Option (DeviceConfig Path) :=
  devices[(routeToDevice hash key devices.length).toNat]?

-- An Open(recover) that is given devices of these engines, or such as hold no
-- super block, succeeds for the groups of one engine in their order only.
def Identity (hash : Key → UInt64) (counts : List Nat) : Prop :=
  ∀ (Path : Type) [DecidableEq Path] (w : World Path) (engines : List (List (CreatedGroup Path))), Created w engines →
    engines.map List.length = counts → ∀ (opts : Options) (env : Nat → RoundEnv) (devices : List (DeviceConfig Path))
      (dcs : List DeviceContext) (next : World Path), opts.create = false →
      (∀ c ∈ devices, ∀ p ∈ c.paths, (∃ g ∈ engines.flatten, p ∈ g.config.paths) ∨ (w p).Unformatted) →
      openEngine opts env devices w = (.ok dcs, next) →
      ∃ engine ∈ engines, devices = engine.map CreatedGroup.config ∧
        ∀ key, servingGroup hash devices key = servingGroup hash (engine.map CreatedGroup.config) key

end Cabe
