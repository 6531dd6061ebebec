import Cabe.Common

set_option autoImplicit false

namespace Cabe

open Storage

def Err.kSpdkInvalidConfig : Rc := -107000
def Err.kSpdkNamespaceOverlap : Rc := -107001

def kMaxSpdkDeviceGroups : Nat := 256
def kNvmeGlobalNamespaceId : UInt32 := 0xFFFFFFFF

structure SpdkNvmeByteRange where
  offsetBytes : UInt64
  lengthBytes : UInt64
deriving DecidableEq, Repr

structure SpdkNvmeNamespaceConfig where
  bdf : Bytes
  nsid : UInt32
  range : Option SpdkNvmeByteRange
deriving DecidableEq, Repr

structure SpdkDeviceConfig where
  data : SpdkNvmeNamespaceConfig
  wal : SpdkNvmeNamespaceConfig
  snapshot : SpdkNvmeNamespaceConfig
deriving DecidableEq, Repr

-- The two device lists of Options; nothing else of it is read here.
structure DeviceOptions where
  devices : List (DeviceConfig Bytes)
  spdkDevices : List SpdkDeviceConfig
deriving DecidableEq

inductive DeviceConfigFamily where
  | raw
  | spdk
deriving DecidableEq, Repr

inductive SpdkDeviceRole where
  | data
  | wal
  | snapshot
deriving DecidableEq, Repr

def kRoles : List SpdkDeviceRole := [.data, .wal, .snapshot]

structure CanonicalBdf where
  domain : UInt16
  bus : UInt8
  device : UInt8
  function : UInt8
  text : Bytes
deriving DecidableEq, Repr, Inhabited

structure ValidatedSpdkNamespacePlan where
  bdf : CanonicalBdf
  nsid : UInt32
  range : Option SpdkNvmeByteRange
deriving DecidableEq, Repr

structure ValidatedSpdkDevicePlan where
  data : ValidatedSpdkNamespacePlan
  wal : ValidatedSpdkNamespacePlan
  snapshot : ValidatedSpdkNamespacePlan
deriving DecidableEq, Repr

structure SpdkOpenPlanResult where
  status : Rc
  plan : List ValidatedSpdkDevicePlan
deriving DecidableEq, Repr

def namespaceConfig (config : SpdkDeviceConfig) : SpdkDeviceRole → SpdkNvmeNamespaceConfig
  | .data => config.data
  | .wal => config.wal
  | .snapshot => config.snapshot

def namespacePlan (plan : ValidatedSpdkDevicePlan) : SpdkDeviceRole → ValidatedSpdkNamespacePlan
  | .data => plan.data
  | .wal => plan.wal
  | .snapshot => plan.snapshot

def setNamespacePlan (plan : ValidatedSpdkDevicePlan) (role : SpdkDeviceRole) (entry : ValidatedSpdkNamespacePlan) : ValidatedSpdkDevicePlan :=
  match role with
  | .data => { plan with data := entry }
  | .wal => { plan with wal := entry }
  | .snapshot => { plan with snapshot := entry }

def hexDigit (ch : UInt8) : Option UInt32 :=
  if ch ≥ 0x30 ∧ ch ≤ 0x39 then some (ch.toUInt32 - 0x30)
  else if ch ≥ 0x61 ∧ ch ≤ 0x66 then some (ch.toUInt32 - 0x61 + 10)
  else if ch ≥ 0x41 ∧ ch ≤ 0x46 then some (ch.toUInt32 - 0x41 + 10)
  else none

def parseHexFrom : UInt32 → Bytes → Option UInt32
  | value, [] => some value
  | value, ch :: rest =>
      match hexDigit ch with
      | none => none
      | some digit => parseHexFrom (value * 16 + digit) rest

def parseHex (text : Bytes) : Option UInt32 := parseHexFrom 0 text

def toLower (ch : UInt8) : UInt8 := if ch ≥ 0x41 ∧ ch ≤ 0x5A then ch + 0x20 else ch

def parseBdf (text : Bytes) : Option CanonicalBdf :=
  if text.length ≠ 12 ∨ text[4]? ≠ some 0x3A ∨ text[7]? ≠ some 0x3A ∨ text[10]? ≠ some 0x2E then none
  else
    match parseHex (slice text 0 4), parseHex (slice text 5 2), parseHex (slice text 8 2), parseHex (slice text 11 1) with
    | some domain, some bus, some device, some function =>
        if device > 0x1F ∨ function > 7 then none
        else some ⟨domain.toUInt16, bus.toUInt8, device.toUInt8, function.toUInt8, text.map toLower⟩
    | _, _, _, _ => none

def validRange (range : SpdkNvmeByteRange) : Bool :=
  if range.lengthBytes = 0 then false
  else if range.offsetBytes.toNat % kSuperBlockSize ≠ 0 ∨ range.lengthBytes.toNat % kSuperBlockSize ≠ 0 then false
  else decide (range.offsetBytes ≤ 0xFFFFFFFFFFFFFFFF - range.lengthBytes)

def sameNamespace (left right : ValidatedSpdkNamespacePlan) : Bool :=
  left.bdf.domain == right.bdf.domain && left.bdf.bus == right.bdf.bus && left.bdf.device == right.bdf.device &&
    left.bdf.function == right.bdf.function && left.nsid == right.nsid

def rangesOverlap (left right : ValidatedSpdkNamespacePlan) : Bool :=
  match left.range, right.range with
  | some l, some r =>
      let leftEnd := l.offsetBytes + l.lengthBytes
      let rightEnd := r.offsetBytes + r.lengthBytes
      decide (l.offsetBytes < rightEnd) && decide (r.offsetBytes < leftEnd)
  | _, _ => true

def validateDeviceConfigFamily (options : DeviceOptions) (expected : DeviceConfigFamily) : Rc :=
  let hasRaw := !options.devices.isEmpty
  let hasSpdk := !options.spdkDevices.isEmpty
  let exactlyOne := hasRaw != hasSpdk
  let expectedPresent := if expected = .raw then hasRaw else hasSpdk
  if !exactlyOne || !expectedPresent then Err.kSpdkInvalidConfig else Err.kSuccess

-- What one phase makes of an entry of the candidate, or that it refuses it.
abbrev SpdkCheck := SpdkNvmeNamespaceConfig → ValidatedSpdkNamespacePlan → Option ValidatedSpdkNamespacePlan

def checkBdf : SpdkCheck := fun source entry => (parseBdf source.bdf).map fun bdf => { entry with bdf := bdf }

def checkNsid : SpdkCheck := fun source entry =>
  if source.nsid = 0 ∨ source.nsid = kNvmeGlobalNamespaceId then none else some { entry with nsid := source.nsid }

def checkRange : SpdkCheck := fun source entry =>
  if source.range.any (fun range => !validRange range) then none else some { entry with range := source.range }

def checkRoles (check : SpdkCheck) (source : SpdkDeviceConfig) :
    List SpdkDeviceRole → ValidatedSpdkDevicePlan → Option ValidatedSpdkDevicePlan
  | [], plan => some plan
  | role :: roles, plan =>
      match check (namespaceConfig source role) (namespacePlan plan role) with
      | none => none
      | some entry => checkRoles check source roles (setNamespacePlan plan role entry)

-- One phase over all groups and all roles of each.
def checkGroups (check : SpdkCheck) : List SpdkDeviceConfig → List ValidatedSpdkDevicePlan → Option (List ValidatedSpdkDevicePlan)
  | source :: sources, plan :: plans =>
      match checkRoles check source kRoles plan with
      | none => none
      | some plan => (checkGroups check sources plans).map (plan :: ·)
  | _, _ => some []

def planEntries (candidate : List ValidatedSpdkDevicePlan) : List ValidatedSpdkNamespacePlan :=
  candidate.flatMap fun plan => kRoles.map (namespacePlan plan)

def entriesConflict : List ValidatedSpdkNamespacePlan → Bool
  | [] => false
  | left :: rest => rest.any (fun right => sameNamespace left right && rangesOverlap left right) || entriesConflict rest

def ValidatedSpdkNamespacePlan.empty : ValidatedSpdkNamespacePlan := ⟨⟨0, 0, 0, 0, []⟩, 0, none⟩
def ValidatedSpdkDevicePlan.empty : ValidatedSpdkDevicePlan := ⟨.empty, .empty, .empty⟩

def buildSpdkOpenPlan (options : DeviceOptions) : SpdkOpenPlanResult :=
  if validateDeviceConfigFamily options .spdk ≠ Err.kSuccess then ⟨Err.kSpdkInvalidConfig, []⟩
  else if options.spdkDevices.length > kMaxSpdkDeviceGroups then ⟨Err.kSpdkInvalidConfig, []⟩
  else
    match checkGroups checkBdf options.spdkDevices (List.replicate options.spdkDevices.length .empty) with
    | none => ⟨Err.kSpdkInvalidConfig, []⟩
    | some named =>
        match checkGroups checkNsid options.spdkDevices named with
        | none => ⟨Err.kSpdkInvalidConfig, []⟩
        | some numbered =>
            match checkGroups checkRange options.spdkDevices numbered with
            | none => ⟨Err.kSpdkInvalidConfig, []⟩
            | some candidate =>
                if entriesConflict (planEntries candidate) then ⟨Err.kSpdkNamespaceOverlap, []⟩
                else ⟨Err.kSuccess, candidate⟩

end Cabe
