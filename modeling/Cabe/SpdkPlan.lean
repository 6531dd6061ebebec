import Mathlib.Data.List.Forall2
import Cabe.SpdkConfig

set_option autoImplicit false

namespace Cabe

open Storage

-- What a configuration means, apart from how it is checked. A controller is its
-- four numbers, however their digits are written.
structure Controller where
  domain : Nat
  bus : Nat
  device : Nat
  function : Nat

def IsHexDigit (ch : UInt8) (d : Nat) : Prop :=
  (0x30 ≤ ch.toNat ∧ ch.toNat ≤ 0x39 ∧ d = ch.toNat - 0x30) ∨ (0x61 ≤ ch.toNat ∧ ch.toNat ≤ 0x66 ∧ d = ch.toNat - 0x61 + 10) ∨
    (0x41 ≤ ch.toNat ∧ ch.toNat ≤ 0x46 ∧ d = ch.toNat - 0x41 + 10)

def hexValue (digits : List Nat) : Nat := digits.foldl (fun value d => value * 16 + d) 0

def Hex (text : Bytes) (value : Nat) : Prop := ∃ digits, List.Forall₂ IsHexDigit text digits ∧ value = hexValue digits

-- dddd:bb:dd.f
structure Names (text : Bytes) (c : Controller) : Prop where
  parts : ∃ domain bus device function : Bytes, text = domain ++ 0x3A :: (bus ++ 0x3A :: (device ++ 0x2E :: function)) ∧
    (domain.length = 4 ∧ bus.length = 2 ∧ device.length = 2 ∧ function.length = 1) ∧
    Hex domain c.domain ∧ Hex bus c.bus ∧ Hex device c.device ∧ Hex function c.function
  device : c.device ≤ 0x1F
  function : c.function ≤ 7

theorem hex_digit_from (ch low high : UInt8) (base extra : UInt32) (same : base.toNat = low.toNat) (small : extra.toNat ≤ 16)
    (above : low ≤ ch ∧ ch ≤ high) : (ch.toUInt32 - base + extra).toNat = ch.toNat - low.toNat + extra.toNat := by
  have word : ch.toUInt32.toNat = ch.toNat := UInt8.toNat_toUInt32 ch
  have bound : ch.toNat < 256 := ch.toNat_lt
  have below : low.toNat ≤ ch.toNat := UInt8.le_iff_toNat_le.mp above.1
  rw [UInt32.toNat_add, UInt32.toNat_sub_of_le _ _ (UInt32.le_iff_toNat_le.mpr (by omega)), word, same]
  exact Nat.mod_eq_of_lt (by omega)

theorem hex_digit_iff (ch : UInt8) (digit : UInt32) : hexDigit ch = some digit ↔ IsHexDigit ch digit.toNat := by
  have between (low high : UInt8) : low ≤ ch ∧ ch ≤ high ↔ low.toNat ≤ ch.toNat ∧ ch.toNat ≤ high.toNat := by
    rw [UInt8.le_iff_toNat_le, UInt8.le_iff_toNat_le]
  have decimal : 0x30 ≤ ch ∧ ch ≤ 0x39 ↔ 0x30 ≤ ch.toNat ∧ ch.toNat ≤ 0x39 := between 0x30 0x39
  have lower : 0x61 ≤ ch ∧ ch ≤ 0x66 ↔ 0x61 ≤ ch.toNat ∧ ch.toNat ≤ 0x66 := between 0x61 0x66
  have upper : 0x41 ≤ ch ∧ ch ≤ 0x46 ↔ 0x41 ≤ ch.toNat ∧ ch.toNat ≤ 0x46 := between 0x41 0x46
  unfold hexDigit IsHexDigit
  simp only [ge_iff_le]
  by_cases isDecimal : 0x30 ≤ ch ∧ ch ≤ 0x39
  · have value : (ch.toUInt32 - 0x30 + 0).toNat = ch.toNat - 0x30 + 0 := hex_digit_from ch 0x30 0x39 0x30 0 rfl (by decide) isDecimal
    rw [UInt32.add_zero] at value
    rw [if_pos isDecimal, Option.some.injEq, ← UInt32.toNat_inj, value]
    rw [decimal] at isDecimal
    omega
  · rw [if_neg isDecimal]
    rw [decimal] at isDecimal
    by_cases isLower : 0x61 ≤ ch ∧ ch ≤ 0x66
    · have value : (ch.toUInt32 - 0x61 + 10).toNat = ch.toNat - 0x61 + 10 := hex_digit_from ch 0x61 0x66 0x61 10 rfl (by decide) isLower
      rw [if_pos isLower, Option.some.injEq, ← UInt32.toNat_inj, value]
      rw [lower] at isLower
      omega
    · rw [if_neg isLower]
      rw [lower] at isLower
      by_cases isUpper : 0x41 ≤ ch ∧ ch ≤ 0x46
      · have value : (ch.toUInt32 - 0x41 + 10).toNat = ch.toNat - 0x41 + 10 := hex_digit_from ch 0x41 0x46 0x41 10 rfl (by decide) isUpper
        rw [if_pos isUpper, Option.some.injEq, ← UInt32.toNat_inj, value]
        rw [upper] at isUpper
        omega
      · rw [if_neg isUpper]
        rw [upper] at isUpper
        simp only [reduceCtorEq, false_iff]
        omega

theorem is_hex_digit_lt (ch : UInt8) (d : Nat) (digit : IsHexDigit ch d) : d < 16 := by
  unfold IsHexDigit at digit
  omega

theorem hex_from_lt (digits : List Nat) (small : ∀ d ∈ digits, d < 16) : ∀ value k : Nat, value < 16 ^ k →
    digits.foldl (fun value d => value * 16 + d) value < 16 ^ (k + digits.length) := by
  induction digits with
  | nil =>
      intro value k less
      exact less
  | cons d rest ih =>
      intro value k less
      have here : d < 16 := small d (by simp)
      have next : value * 16 + d < 16 ^ (k + 1) := by
        rw [Nat.pow_succ]
        omega
      have all := ih (fun e member => small e (by simp [member])) _ _ next
      rwa [Nat.add_assoc, Nat.add_comm 1] at all

theorem parse_hex_from_iff (text : Bytes) : ∀ (value v : UInt32) (k : Nat), value.toNat < 16 ^ k → k + text.length ≤ 8 →
    (parseHexFrom value text = some v ↔
      ∃ digits, List.Forall₂ IsHexDigit text digits ∧ v.toNat = digits.foldl (fun value d => value * 16 + d) value.toNat) := by
  induction text with
  | nil =>
      intro value v k _ _
      rw [parseHexFrom, Option.some.injEq, ← UInt32.toNat_inj]
      constructor
      · intro same
        exact ⟨[], .nil, same.symm⟩
      · rintro ⟨digits, each, same⟩
        cases each
        exact same.symm
  | cons ch rest ih =>
      intro value v k less short
      rw [List.length_cons] at short
      have step (digit : UInt32) (small : digit.toNat < 16) : (value * 16 + digit).toNat = value.toNat * 16 + digit.toNat ∧
          value.toNat * 16 + digit.toNat < 16 ^ (k + 1) := by
        have fits : 16 ^ (k + 1) ≤ 16 ^ 8 := Nat.pow_le_pow_right (by decide) (by omega)
        have next : value.toNat * 16 + digit.toNat < 16 ^ (k + 1) := by
          rw [Nat.pow_succ]
          omega
        refine ⟨?_, next⟩
        rw [UInt32.toNat_add, UInt32.toNat_mul, show (16 : UInt32).toNat = 16 from rfl]
        omega
      rw [parseHexFrom]
      cases found : hexDigit ch with
      | none =>
          simp only [reduceCtorEq, false_iff]
          rintro ⟨digits, each, _⟩
          cases each with
          | @cons _ d _ _ digit _ =>
              have word : (UInt32.ofNat d).toNat = d := UInt32.toNat_ofNat_of_lt' (by
                have small := is_hex_digit_lt ch d digit
                exact Nat.lt_trans small (by decide))
              rw [(hex_digit_iff ch (UInt32.ofNat d)).mpr (word.symm ▸ digit)] at found
              cases found
      | some digit =>
          have spelled := (hex_digit_iff ch digit).mp found
          obtain ⟨sum, next⟩ := step digit (is_hex_digit_lt ch _ spelled)
          simp only
          rw [ih (value * 16 + digit) v (k + 1) (sum ▸ next) (by omega)]
          constructor
          · rintro ⟨digits, each, same⟩
            exact ⟨digit.toNat :: digits, .cons spelled each, by rw [same, sum, List.foldl_cons]⟩
          · rintro ⟨digits, each, same⟩
            cases each with
            | cons first later =>
                rename_i d digits
                have one : d = digit.toNat := by
                  unfold IsHexDigit at first spelled
                  omega
                exact ⟨digits, later, by rw [same, sum, List.foldl_cons, one]⟩

theorem parse_hex_iff (text : Bytes) (v : UInt32) (short : text.length ≤ 8) : parseHex text = some v ↔ Hex text v.toNat :=
  parse_hex_from_iff text 0 v 0 (by decide) (by omega)

theorem hex_lt (text : Bytes) (value : Nat) (spelled : Hex text value) : value < 16 ^ text.length := by
  obtain ⟨digits, each, rfl⟩ := spelled
  have small : ∀ d ∈ digits, d < 16 := by
    induction each with
    | nil => simp
    | cons digit _ ih =>
        intro d member
        rcases List.mem_cons.mp member with rfl | later
        · exact is_hex_digit_lt _ _ digit
        · exact ih d later
  have all := hex_from_lt digits small 0 0 (by decide)
  rw [each.length_eq, hexValue]
  rwa [Nat.zero_add] at all

-- The fixed places of the separators cut the text into its four numbers.
theorem bdf_shape (text : Bytes) (len : text.length = 12) (first : text[4]? = some 0x3A) (second : text[7]? = some 0x3A)
    (dot : text[10]? = some 0x2E) :
    text = slice text 0 4 ++ 0x3A :: (slice text 5 2 ++ 0x3A :: (slice text 8 2 ++ 0x2E :: slice text 11 1)) ∧
      (slice text 0 4).length = 4 ∧ (slice text 5 2).length = 2 ∧ (slice text 8 2).length = 2 ∧ (slice text 11 1).length = 1 := by
  match text, len with
  | [a, b, c, d, e, f, g, h, i, j, k, l], _ =>
      simp only [List.getElem?_cons_succ, List.getElem?_cons_zero, Option.some.injEq] at first second dot
      subst first second dot
      exact ⟨rfl, rfl, rfl, rfl, rfl⟩

theorem bdf_slices (domain bus device function : Bytes)
    (lens : domain.length = 4 ∧ bus.length = 2 ∧ device.length = 2 ∧ function.length = 1) (text : Bytes)
    (whole : text = domain ++ 0x3A :: (bus ++ 0x3A :: (device ++ 0x2E :: function))) :
    (text.length = 12 ∧ text[4]? = some 0x3A ∧ text[7]? = some 0x3A ∧ text[10]? = some 0x2E) ∧
      slice text 0 4 = domain ∧ slice text 5 2 = bus ∧ slice text 8 2 = device ∧ slice text 11 1 = function := by
  obtain ⟨four, two, twoMore, one⟩ := lens
  match domain, four, bus, two, device, twoMore, function, one with
  | [a, b, c, d], _, [e, f], _, [g, h], _, [i], _ =>
      subst whole
      exact ⟨⟨rfl, rfl, rfl, rfl⟩, rfl, rfl, rfl, rfl⟩

theorem parse_bdf_iff (text : Bytes) (bdf : CanonicalBdf) : parseBdf text = some bdf ↔
    Names text ⟨bdf.domain.toNat, bdf.bus.toNat, bdf.device.toNat, bdf.function.toNat⟩ ∧ bdf.text = text.map toLower := by
  constructor
  · intro parsed
    unfold parseBdf at parsed
    split at parsed
    · cases parsed
    · rename_i shape
      obtain ⟨len, first, second, dot⟩ : text.length = 12 ∧ text[4]? = some 0x3A ∧ text[7]? = some 0x3A ∧ text[10]? = some 0x2E := by
        simpa only [not_or, ne_eq, Decidable.not_not] using shape
      obtain ⟨whole, lens⟩ := bdf_shape text len first second dot
      split at parsed
      · rename_i domain bus device function foundDomain foundBus foundDevice foundFunction
        split at parsed
        · cases parsed
        · rename_i small
          obtain ⟨smallDevice, smallFunction⟩ := not_or.mp small
          cases parsed
          rw [parse_hex_iff _ _ (by omega)] at foundDomain foundBus foundDevice foundFunction
          have domainBound := hex_lt _ _ foundDomain
          have busBound := hex_lt _ _ foundBus
          rw [lens.1] at domainBound
          rw [lens.2.1] at busBound
          have device31 : device.toNat ≤ 0x1F := UInt32.le_iff_toNat_le.mp (UInt32.not_lt.mp smallDevice)
          have function7 : function.toNat ≤ 7 := UInt32.le_iff_toNat_le.mp (UInt32.not_lt.mp smallFunction)
          have domainWord : domain.toUInt16.toNat = domain.toNat := by
            rw [UInt32.toNat_toUInt16, Nat.mod_eq_of_lt (by omega)]
          have byte (v : UInt32) (bound : v.toNat < 256) : v.toUInt8.toNat = v.toNat := by
            rw [UInt32.toNat_toUInt8, Nat.mod_eq_of_lt bound]
          refine ⟨⟨⟨_, _, _, _, whole, lens, ?_, ?_, ?_, ?_⟩, ?_, ?_⟩, rfl⟩
          · rw [domainWord]
            exact foundDomain
          · rw [byte bus (by omega)]
            exact foundBus
          · rw [byte device (by omega)]
            exact foundDevice
          · rw [byte function (by omega)]
            exact foundFunction
          · rw [byte device (by omega)]
            exact device31
          · rw [byte function (by omega)]
            exact function7
      · cases parsed
  · rintro ⟨named, lowered⟩
    obtain ⟨domainText, busText, deviceText, functionText, whole, lens, spellDomain, spellBus, spellDevice, spellFunction⟩ := named.parts
    obtain ⟨shape, domainSlice, busSlice, deviceSlice, functionSlice⟩ := bdf_slices _ _ _ _ lens text whole
    have domain : parseHex domainText = some bdf.domain.toUInt32 := (parse_hex_iff _ _ (by omega)).mpr (by simpa using spellDomain)
    have bus : parseHex busText = some bdf.bus.toUInt32 := (parse_hex_iff _ _ (by omega)).mpr (by simpa using spellBus)
    have device : parseHex deviceText = some bdf.device.toUInt32 := (parse_hex_iff _ _ (by omega)).mpr (by simpa using spellDevice)
    have function : parseHex functionText = some bdf.function.toUInt32 := (parse_hex_iff _ _ (by omega)).mpr (by simpa using spellFunction)
    have small : ¬ (bdf.device.toUInt32 > 0x1F ∨ bdf.function.toUInt32 > 7) := by
      have device31 : bdf.device.toNat ≤ 31 := named.device
      have function7 : bdf.function.toNat ≤ 7 := named.function
      rintro (large | large)
      · have more := UInt32.lt_iff_toNat_lt.mp large
        rw [UInt8.toNat_toUInt32] at more
        exact absurd more (Nat.not_lt.mpr device31)
      · have more := UInt32.lt_iff_toNat_lt.mp large
        rw [UInt8.toNat_toUInt32] at more
        exact absurd more (Nat.not_lt.mpr function7)
    unfold parseBdf
    rw [if_neg (by simpa only [not_or, ne_eq, Decidable.not_not] using shape), domainSlice, busSlice, deviceSlice, functionSlice, domain, bus,
      device, function]
    dsimp only
    rw [if_neg small]
    simp [← lowered]

-- Letter case plays no part in what a text names.
theorem lower_byte (ch : UInt8) : hexDigit (toLower ch) = hexDigit ch ∧ toLower (toLower ch) = toLower ch ∧
    (toLower ch = 0x3A ↔ ch = 0x3A) ∧ (toLower ch = 0x2E ↔ ch = 0x2E) := by
  have all : ∀ n < 256, hexDigit (toLower (UInt8.ofNat n)) = hexDigit (UInt8.ofNat n) ∧
      toLower (toLower (UInt8.ofNat n)) = toLower (UInt8.ofNat n) ∧ (toLower (UInt8.ofNat n) = 0x3A ↔ UInt8.ofNat n = 0x3A) ∧
      (toLower (UInt8.ofNat n) = 0x2E ↔ UInt8.ofNat n = 0x2E) := by decide +kernel
  simpa using all ch.toNat ch.toNat_lt

theorem parse_hex_lower (text : Bytes) : parseHex (text.map toLower) = parseHex text := by
  have from_ (value : UInt32) : parseHexFrom value (text.map toLower) = parseHexFrom value text := by
    induction text generalizing value with
    | nil => rfl
    | cons ch rest ih =>
        rw [List.map_cons, parseHexFrom, parseHexFrom, (lower_byte ch).1]
        cases hexDigit ch with
        | none => rfl
        | some digit => exact ih _
  exact from_ 0

theorem parse_bdf_lower (text : Bytes) : parseBdf (text.map toLower) = parseBdf text := by
  have slices (off len : Nat) : slice (text.map toLower) off len = (slice text off len).map toLower := by
    simp [slice]
  have colon (i : Nat) : (text.map toLower)[i]? = some 0x3A ↔ text[i]? = some 0x3A := by
    rw [List.getElem?_map]
    cases text[i]? with
    | none => simp
    | some ch => simpa using (lower_byte ch).2.2.1
  have dot (i : Nat) : (text.map toLower)[i]? = some 0x2E ↔ text[i]? = some 0x2E := by
    rw [List.getElem?_map]
    cases text[i]? with
    | none => simp
    | some ch => simpa using (lower_byte ch).2.2.2
  have twice : (text.map toLower).map toLower = text.map toLower := by
    rw [List.map_map]
    exact List.map_congr_left fun ch _ => (lower_byte ch).2.1
  unfold parseBdf
  simp only [List.length_map, ne_eq, colon, dot, slices, parse_hex_lower, twice]

theorem parse_bdf_case (a b : Bytes) (same : a.map toLower = b.map toLower) : parseBdf a = parseBdf b := by
  rw [← parse_bdf_lower a, same, parse_bdf_lower]

structure RangeSound (range : SpdkNvmeByteRange) : Prop where
  length : range.lengthBytes.toNat ≠ 0
  offsetAligned : range.offsetBytes.toNat % 4096 = 0
  lengthAligned : range.lengthBytes.toNat % 4096 = 0
  ending : range.offsetBytes.toNat + range.lengthBytes.toNat < 2 ^ 64

-- The bytes of a range, as integers.
def Covers (range : SpdkNvmeByteRange) (x : Nat) : Prop :=
  range.offsetBytes.toNat ≤ x ∧ x < range.offsetBytes.toNat + range.lengthBytes.toNat

theorem valid_range_iff (range : SpdkNvmeByteRange) : validRange range = true ↔ RangeSound range := by
  have word := range.lengthBytes.toNat_lt
  have most : (0xFFFFFFFFFFFFFFFF - range.lengthBytes : UInt64).toNat = 2 ^ 64 - 1 - range.lengthBytes.toNat :=
    UInt64.toNat_sub_of_le _ _ (UInt64.le_iff_toNat_le.mpr (by
      show range.lengthBytes.toNat ≤ 2 ^ 64 - 1
      omega))
  have size : kSuperBlockSize = 4096 := rfl
  unfold validRange
  rw [size]
  by_cases none_ : range.lengthBytes = 0
  · rw [if_pos none_]
    simp only [Bool.false_eq_true, false_iff]
    exact fun sound => sound.length (by rw [none_]; rfl)
  · have some_ : range.lengthBytes.toNat ≠ 0 := fun zero => none_ (UInt64.toNat_inj.mp zero)
    rw [if_neg none_]
    by_cases loose : range.offsetBytes.toNat % 4096 ≠ 0 ∨ range.lengthBytes.toNat % 4096 ≠ 0
    · rw [if_pos loose]
      simp only [Bool.false_eq_true, false_iff]
      exact fun sound => loose.elim (fun off => off sound.offsetAligned) fun len => len sound.lengthAligned
    · rw [if_neg loose, decide_eq_true_iff, UInt64.le_iff_toNat_le, most]
      constructor
      · intro below
        exact ⟨some_, by omega, by omega, by omega⟩
      · intro sound
        have ending := sound.ending
        omega

-- Two sound ranges share a byte exactly when each begins before the other ends.
theorem overlap_iff (l r : SpdkNvmeByteRange) (soundL : RangeSound l) (soundR : RangeSound r) :
    (l.offsetBytes < r.offsetBytes + r.lengthBytes ∧ r.offsetBytes < l.offsetBytes + l.lengthBytes) ↔ ∃ x, Covers l x ∧ Covers r x := by
  have leftEnd : (l.offsetBytes + l.lengthBytes).toNat = l.offsetBytes.toNat + l.lengthBytes.toNat := by
    rw [UInt64.toNat_add, Nat.mod_eq_of_lt soundL.ending]
  have rightEnd : (r.offsetBytes + r.lengthBytes).toNat = r.offsetBytes.toNat + r.lengthBytes.toNat := by
    rw [UInt64.toNat_add, Nat.mod_eq_of_lt soundR.ending]
  have left := soundL.length
  have right := soundR.length
  rw [UInt64.lt_iff_toNat_lt, UInt64.lt_iff_toNat_lt, leftEnd, rightEnd]
  constructor
  · rintro ⟨before, after⟩
    rcases Nat.le_total l.offsetBytes.toNat r.offsetBytes.toNat with le | le
    · exact ⟨r.offsetBytes.toNat, ⟨le, after⟩, ⟨Nat.le_refl _, by omega⟩⟩
    · exact ⟨l.offsetBytes.toNat, ⟨Nat.le_refl _, by omega⟩, ⟨le, before⟩⟩
  · rintro ⟨x, ⟨fromL, untilL⟩, fromR, untilR⟩
    omega

-- Every namespace view of the configuration, three for each group.
def views (sources : List SpdkDeviceConfig) : List SpdkNvmeNamespaceConfig :=
  sources.flatMap fun source => [source.data, source.wal, source.snapshot]

def eachRole (f : SpdkNvmeNamespaceConfig → ValidatedSpdkNamespacePlan → ValidatedSpdkNamespacePlan) (source : SpdkDeviceConfig)
    (plan : ValidatedSpdkDevicePlan) : ValidatedSpdkDevicePlan :=
  ⟨f source.data plan.data, f source.wal plan.wal, f source.snapshot plan.snapshot⟩

-- A phase refuses, or it has updated every entry of the candidate.
theorem check_groups_phase (check : SpdkCheck) (good : SpdkNvmeNamespaceConfig → Bool)
    (update : SpdkNvmeNamespaceConfig → ValidatedSpdkNamespacePlan → ValidatedSpdkNamespacePlan)
    (spec : ∀ source entry, check source entry = if good source = true then some (update source entry) else none)
    (sources : List SpdkDeviceConfig) (before : SpdkDeviceConfig → ValidatedSpdkDevicePlan) :
    checkGroups check sources (sources.map before) =
      if (views sources).all good = true then some (sources.map fun source => eachRole update source (before source)) else none := by
  have group (source : SpdkDeviceConfig) (plan : ValidatedSpdkDevicePlan) : checkRoles check source kRoles plan =
      if (good source.data && good source.wal && good source.snapshot) = true then some (eachRole update source plan) else none := by
    simp only [kRoles, checkRoles, namespaceConfig, spec]
    cases good source.data <;> cases good source.wal <;> cases good source.snapshot <;> rfl
  induction sources with
  | nil => rfl
  | cons source rest ih =>
      have more : views (source :: rest) = [source.data, source.wal, source.snapshot] ++ views rest := List.flatMap_cons
      rw [List.map_cons, checkGroups, group, ih, more, List.all_append]
      simp only [List.all_cons, List.all_nil, Bool.and_true, ← Bool.and_assoc]
      cases good source.data && good source.wal && good source.snapshot <;> cases (views rest).all good <;> rfl

def mirror (source : SpdkNvmeNamespaceConfig) : ValidatedSpdkNamespacePlan :=
  ⟨(parseBdf source.bdf).getD ⟨0, 0, 0, 0, []⟩, source.nsid, source.range⟩

def mirrorGroup (source : SpdkDeviceConfig) : ValidatedSpdkDevicePlan := ⟨mirror source.data, mirror source.wal, mirror source.snapshot⟩

def viewNamed (source : SpdkNvmeNamespaceConfig) : Bool := (parseBdf source.bdf).isSome
def viewNumbered (source : SpdkNvmeNamespaceConfig) : Bool := !decide (source.nsid = 0 ∨ source.nsid = kNvmeGlobalNamespaceId)
def viewRanged (source : SpdkNvmeNamespaceConfig) : Bool := !source.range.any fun range => !validRange range

theorem check_bdf_spec (source : SpdkNvmeNamespaceConfig) (entry : ValidatedSpdkNamespacePlan) : checkBdf source entry =
    if viewNamed source = true then some { entry with bdf := (parseBdf source.bdf).getD ⟨0, 0, 0, 0, []⟩ } else none := by
  unfold checkBdf viewNamed
  cases parseBdf source.bdf <;> rfl

theorem check_nsid_spec (source : SpdkNvmeNamespaceConfig) (entry : ValidatedSpdkNamespacePlan) : checkNsid source entry =
    if viewNumbered source = true then some { entry with nsid := source.nsid } else none := by
  unfold checkNsid viewNumbered
  by_cases reserved : source.nsid = 0 ∨ source.nsid = kNvmeGlobalNamespaceId
  · rw [if_pos reserved, decide_eq_true reserved]
    rfl
  · rw [if_neg reserved, decide_eq_false reserved]
    rfl

theorem check_range_spec (source : SpdkNvmeNamespaceConfig) (entry : ValidatedSpdkNamespacePlan) : checkRange source entry =
    if viewRanged source = true then some { entry with range := source.range } else none := by
  unfold checkRange viewRanged
  cases source.range.any fun range => !validRange range <;> rfl

theorem plan_entries_mirror (sources : List SpdkDeviceConfig) : planEntries (sources.map mirrorGroup) = (views sources).map mirror := by
  rw [planEntries, views, List.flatMap_map, List.map_flatMap]
  rfl

def Conflict (left right : ValidatedSpdkNamespacePlan) : Prop := sameNamespace left right = true ∧ rangesOverlap left right = true

theorem entries_conflict_iff (entries : List ValidatedSpdkNamespacePlan) :
    entriesConflict entries = false ↔ entries.Pairwise fun left right => ¬ Conflict left right := by
  induction entries with
  | nil => simp [entriesConflict]
  | cons left rest ih => simp [entriesConflict, ih, Conflict]

-- The code as one decision over the views.
theorem build_decides (options : DeviceOptions) : buildSpdkOpenPlan options =
    if options.devices = [] ∧ options.spdkDevices ≠ [] ∧ options.spdkDevices.length ≤ 256 ∧ (views options.spdkDevices).all viewNamed = true ∧
      (views options.spdkDevices).all viewNumbered = true ∧ (views options.spdkDevices).all viewRanged = true then
      if entriesConflict ((views options.spdkDevices).map mirror) = true then ⟨Err.kSpdkNamespaceOverlap, []⟩
      else ⟨Err.kSuccess, options.spdkDevices.map mirrorGroup⟩
    else ⟨Err.kSpdkInvalidConfig, []⟩ := by
  have family : validateDeviceConfigFamily options .spdk ≠ Err.kSuccess ↔ ¬ (options.devices = [] ∧ options.spdkDevices ≠ []) := by
    unfold validateDeviceConfigFamily
    cases options.devices <;> cases options.spdkDevices <;> simp [Err.kSpdkInvalidConfig, Err.kSuccess]
  unfold buildSpdkOpenPlan
  by_cases present : options.devices = [] ∧ options.spdkDevices ≠ []
  · rw [if_neg (mt family.mp (not_not_intro present))]
    by_cases many : options.spdkDevices.length > kMaxSpdkDeviceGroups
    · rw [if_pos many, if_neg fun all => absurd all.2.2.1 (Nat.not_le.mpr many)]
    · have few : options.spdkDevices.length ≤ 256 := Nat.not_lt.mp many
      have blank : List.replicate options.spdkDevices.length ValidatedSpdkDevicePlan.empty =
          options.spdkDevices.map fun _ => ValidatedSpdkDevicePlan.empty := (List.map_const' ..).symm
      rw [if_neg many, blank, check_groups_phase checkBdf viewNamed _ check_bdf_spec]
      simp only [present, few, true_and, ne_eq, not_false_eq_true]
      cases named : (views options.spdkDevices).all viewNamed with
      | false => rfl
      | true =>
          rw [if_pos rfl]
          dsimp only
          rw [check_groups_phase checkNsid viewNumbered _ check_nsid_spec]
          cases numbered : (views options.spdkDevices).all viewNumbered with
          | false => rfl
          | true =>
              rw [if_pos rfl]
              dsimp only
              rw [check_groups_phase checkRange viewRanged _ check_range_spec]
              cases ranged : (views options.spdkDevices).all viewRanged with
              | false => rfl
              | true =>
                  rw [← plan_entries_mirror]
                  rfl
  · rw [if_pos (family.mpr present), if_neg fun all => present ⟨all.1, all.2.1⟩]

def CanonicalBdf.controller (bdf : CanonicalBdf) : Controller := ⟨bdf.domain.toNat, bdf.bus.toNat, bdf.device.toNat, bdf.function.toNat⟩

-- Two views of one namespace name two ranges without a common byte.
def Apart (left right : SpdkNvmeNamespaceConfig) : Prop :=
  ∀ c, Names left.bdf c → Names right.bdf c → left.nsid = right.nsid →
    ∃ l r, left.range = some l ∧ right.range = some r ∧ ∀ x, ¬ (Covers l x ∧ Covers r x)

structure ValidView (view : SpdkNvmeNamespaceConfig) : Prop where
  named : ∃ c, Names view.bdf c
  numbered : view.nsid ≠ 0 ∧ view.nsid ≠ 0xFFFFFFFF
  ranged : ∀ range, view.range = some range → RangeSound range

structure ValidOptions (options : DeviceOptions) : Prop where
  raw : options.devices = []
  groups : 1 ≤ options.spdkDevices.length ∧ options.spdkDevices.length ≤ 256
  valid : ∀ view ∈ views options.spdkDevices, ValidView view
  apart : (views options.spdkDevices).Pairwise Apart

structure Mirrors (source : SpdkNvmeNamespaceConfig) (entry : ValidatedSpdkNamespacePlan) : Prop where
  bdf : Names source.bdf entry.bdf.controller
  text : entry.bdf.text = source.bdf.map toLower
  nsid : entry.nsid = source.nsid
  range : entry.range = source.range

structure MirrorsGroup (source : SpdkDeviceConfig) (plan : ValidatedSpdkDevicePlan) : Prop where
  data : Mirrors source.data plan.data
  wal : Mirrors source.wal plan.wal
  snapshot : Mirrors source.snapshot plan.snapshot

-- Equal up to the letter case of the controllers.
structure SameView (a b : SpdkNvmeNamespaceConfig) : Prop where
  bdf : a.bdf.map toLower = b.bdf.map toLower
  nsid : a.nsid = b.nsid
  range : a.range = b.range

structure SameGroup (a b : SpdkDeviceConfig) : Prop where
  data : SameView a.data b.data
  wal : SameView a.wal b.wal
  snapshot : SameView a.snapshot b.snapshot

theorem names_parsed (text : Bytes) (c : Controller) (named : Names text c) : ∃ bdf, parseBdf text = some bdf ∧ c = bdf.controller := by
  obtain ⟨_, _, _, _, _, lens, domain, bus, _, _⟩ := named.parts
  have domainBound := hex_lt _ _ domain
  have busBound := hex_lt _ _ bus
  rw [lens.1] at domainBound
  rw [lens.2.1] at busBound
  have device := named.device
  have function := named.function
  have byte (n : Nat) (bound : n < 256) : (UInt8.ofNat n).toNat = n := UInt8.toNat_ofNat_of_lt' bound
  have same : c = CanonicalBdf.controller ⟨UInt16.ofNat c.domain, UInt8.ofNat c.bus, UInt8.ofNat c.device, UInt8.ofNat c.function,
      text.map toLower⟩ := by
    rw [CanonicalBdf.controller, UInt16.toNat_ofNat_of_lt' domainBound, byte _ (by omega), byte _ (by omega), byte _ (by omega)]
  exact ⟨_, (parse_bdf_iff text _).mpr ⟨(same ▸ named :), rfl⟩, same⟩

theorem view_named_iff (view : SpdkNvmeNamespaceConfig) : viewNamed view = true ↔ ∃ c, Names view.bdf c := by
  rw [viewNamed, Option.isSome_iff_exists]
  constructor
  · rintro ⟨bdf, parsed⟩
    exact ⟨_, ((parse_bdf_iff _ bdf).mp parsed).1⟩
  · rintro ⟨c, named⟩
    obtain ⟨bdf, parsed, _⟩ := names_parsed _ c named
    exact ⟨bdf, parsed⟩

theorem valid_view_iff (view : SpdkNvmeNamespaceConfig) :
    (viewNamed view = true ∧ viewNumbered view = true ∧ viewRanged view = true) ↔ ValidView view := by
  have numbered : viewNumbered view = true ↔ view.nsid ≠ 0 ∧ view.nsid ≠ 0xFFFFFFFF := by
    rw [viewNumbered, kNvmeGlobalNamespaceId, Bool.not_eq_true', decide_eq_false_iff_not, not_or]
  have ranged : viewRanged view = true ↔ ∀ range, view.range = some range → RangeSound range := by
    unfold viewRanged
    cases view.range with
    | none => simp
    | some range => simp [valid_range_iff]
  rw [view_named_iff, numbered, ranged]
  exact ⟨fun all => ⟨all.1, all.2.1, all.2.2⟩, fun valid => ⟨valid.named, valid.numbered, valid.ranged⟩⟩

theorem mirror_mirrors (view : SpdkNvmeNamespaceConfig) (named : viewNamed view = true) : Mirrors view (mirror view) := by
  obtain ⟨bdf, parsed⟩ := Option.isSome_iff_exists.mp named
  obtain ⟨names, text⟩ := (parse_bdf_iff _ bdf).mp parsed
  rw [mirror, parsed]
  exact ⟨names, text, rfl, rfl⟩

theorem conflict_iff (left right : SpdkNvmeNamespaceConfig) (validL : ValidView left) (validR : ValidView right) :
    ¬ Conflict (mirror left) (mirror right) ↔ Apart left right := by
  obtain ⟨c, namedL⟩ := validL.named
  obtain ⟨d, namedR⟩ := validR.named
  obtain ⟨bdfL, parsedL, controllerL⟩ := names_parsed _ c namedL
  obtain ⟨bdfR, parsedR, controllerR⟩ := names_parsed _ d namedR
  have only (text : Bytes) (bdf : CanonicalBdf) (parsed : parseBdf text = some bdf) (e : Controller) (named : Names text e) :
      e = bdf.controller := by
    obtain ⟨other, again, same⟩ := names_parsed _ e named
    rw [parsed, Option.some.injEq] at again
    rw [same, again]
  have namespace_ : sameNamespace (mirror left) (mirror right) = true ↔ bdfL.controller = bdfR.controller ∧ left.nsid = right.nsid := by
    simp only [sameNamespace, mirror, parsedL, parsedR, Option.getD_some, Bool.and_eq_true, beq_iff_eq, CanonicalBdf.controller,
      Controller.mk.injEq, UInt16.toNat_inj, UInt8.toNat_inj, and_assoc]
  have overlap : rangesOverlap (mirror left) (mirror right) = false ↔
      ∃ l r, left.range = some l ∧ right.range = some r ∧ ∀ x, ¬ (Covers l x ∧ Covers r x) := by
    rw [← Bool.not_eq_true]
    unfold rangesOverlap mirror
    cases rangeL : left.range with
    | none => simp
    | some l =>
        cases rangeR : right.range with
        | none => simp
        | some r =>
            have meet := overlap_iff l r (validL.ranged l rangeL) (validR.ranged r rangeR)
            simp only [Bool.and_eq_true, decide_eq_true_iff, meet, not_exists]
            constructor
            · intro clear
              exact ⟨l, r, rfl, rfl, clear⟩
            · rintro ⟨_, _, sameL, sameR, clear⟩
              cases sameL
              cases sameR
              exact clear
  rw [Conflict, namespace_, Apart, not_and, ← overlap]
  constructor
  · intro apart e namesL namesR nsid
    exact Bool.eq_false_iff.mpr (apart ⟨(only _ _ parsedL e namesL).symm.trans (only _ _ parsedR e namesR), nsid⟩)
  · rintro apart ⟨same, nsid⟩
    have clear := apart bdfL.controller (controllerL ▸ namedL) (same ▸ controllerR ▸ namedR) nsid
    rw [clear]
    decide

theorem conflict_symm (left right : ValidatedSpdkNamespacePlan) (conflict : ¬ Conflict left right) : ¬ Conflict right left := by
  rintro ⟨same, overlap⟩
  apply conflict
  refine ⟨?_, ?_⟩
  · simp only [sameNamespace, Bool.and_eq_true, beq_iff_eq] at same ⊢
    obtain ⟨⟨⟨⟨domain, bus⟩, device⟩, function⟩, nsid⟩ := same
    exact ⟨⟨⟨⟨domain.symm, bus.symm⟩, device.symm⟩, function.symm⟩, nsid.symm⟩
  · unfold rangesOverlap at overlap ⊢
    cases leftRange : left.range with
    | none => cases right.range <;> rfl
    | some l =>
        cases rightRange : right.range with
        | none => rfl
        | some r =>
            simp only [leftRange, rightRange, Bool.and_eq_true] at overlap ⊢
            exact overlap.symm

theorem valid_options_iff (options : DeviceOptions) :
    (options.devices = [] ∧ options.spdkDevices ≠ [] ∧ options.spdkDevices.length ≤ 256 ∧ (views options.spdkDevices).all viewNamed = true ∧
      (views options.spdkDevices).all viewNumbered = true ∧ (views options.spdkDevices).all viewRanged = true) ∧
      entriesConflict ((views options.spdkDevices).map mirror) = false ↔ ValidOptions options := by
  have groups : options.spdkDevices ≠ [] ↔ 1 ≤ options.spdkDevices.length := List.length_pos_iff.symm
  rw [entries_conflict_iff, List.pairwise_map, groups]
  simp only [List.all_eq_true]
  constructor
  · rintro ⟨⟨raw, some_, few, named, numbered, ranged⟩, apart⟩
    have valid (view : SpdkNvmeNamespaceConfig) (member : view ∈ views options.spdkDevices) : ValidView view :=
      (valid_view_iff view).mp ⟨named view member, numbered view member, ranged view member⟩
    refine ⟨raw, ⟨some_, few⟩, valid, apart.imp_of_mem ?_⟩
    intro left right memberL memberR clear
    exact (conflict_iff left right (valid left memberL) (valid right memberR)).mp clear
  · rintro ⟨raw, ⟨some_, few⟩, valid, apart⟩
    have checks (view : SpdkNvmeNamespaceConfig) (member : view ∈ views options.spdkDevices) :=
      (valid_view_iff view).mpr (valid view member)
    refine ⟨⟨raw, some_, few, fun view member => (checks view member).1, fun view member => (checks view member).2.1,
      fun view member => (checks view member).2.2⟩, apart.imp_of_mem ?_⟩
    intro left right memberL memberR clear
    exact (conflict_iff left right (valid left memberL) (valid right memberR)).mpr clear

theorem build_status_perm (options : DeviceOptions) (sources : List SpdkDeviceConfig) (perm : sources.Perm options.spdkDevices) :
    (buildSpdkOpenPlan { options with spdkDevices := sources }).status = (buildSpdkOpenPlan options).status := by
  have turned : (views sources).Perm (views options.spdkDevices) := perm.flatMap_right _
  have some_ : sources = [] ↔ options.spdkDevices = [] := by
    rw [← List.length_eq_zero_iff, perm.length_eq, List.length_eq_zero_iff]
  have conflict : entriesConflict ((views sources).map mirror) = entriesConflict ((views options.spdkDevices).map mirror) := by
    have same := (turned.map mirror).pairwise_iff (R := fun left right => ¬ Conflict left right) fun {left right} => conflict_symm left right
    rw [← entries_conflict_iff, ← entries_conflict_iff] at same
    exact Bool.eq_iff_iff.mpr (by
      rw [← Bool.not_eq_false, ← Bool.not_eq_false, not_iff_not]
      exact same)
  rw [build_decides, build_decides]
  simp only [ne_eq, some_, perm.length_eq, turned.all_eq, conflict]
  split
  · split <;> rfl
  · rfl

-- The whole result, not only its status.
theorem build_case (options : DeviceOptions) (sources : List SpdkDeviceConfig) (same : List.Forall₂ SameGroup sources options.spdkDevices) :
    buildSpdkOpenPlan { options with spdkDevices := sources } = buildSpdkOpenPlan options := by
  have view (a b : SpdkNvmeNamespaceConfig) (alike : SameView a b) : mirror a = mirror b ∧ viewNamed a = viewNamed b ∧
      viewNumbered a = viewNumbered b ∧ viewRanged a = viewRanged b := by
    have parsed := parse_bdf_case a.bdf b.bdf alike.bdf
    simp only [mirror, viewNamed, viewNumbered, viewRanged, parsed, alike.nsid, alike.range, and_self]
  have lists (l r : List SpdkDeviceConfig) (each : List.Forall₂ SameGroup l r) : l.length = r.length ∧ l.map mirrorGroup = r.map mirrorGroup ∧
      (views l).map mirror = (views r).map mirror ∧ (views l).all viewNamed = (views r).all viewNamed ∧
      (views l).all viewNumbered = (views r).all viewNumbered ∧ (views l).all viewRanged = (views r).all viewRanged := by
    induction each with
    | nil => exact ⟨rfl, rfl, rfl, rfl, rfl, rfl⟩
    | @cons a b l r first _ ih =>
        obtain ⟨length, groups, entries, named, numbered, ranged⟩ := ih
        have data := view _ _ first.data
        have wal := view _ _ first.wal
        have snapshot := view _ _ first.snapshot
        have more (source : SpdkDeviceConfig) (rest : List SpdkDeviceConfig) :
            views (source :: rest) = [source.data, source.wal, source.snapshot] ++ views rest := List.flatMap_cons
        simp only [more, List.length_cons, List.map_cons, List.map_append, List.all_append, List.all_cons, mirrorGroup, length, groups, entries,
          named, numbered, ranged, data, wal, snapshot, and_self, List.map_nil, List.all_nil]
  obtain ⟨length, groups, entries, named, numbered, ranged⟩ := lists _ _ same
  have some_ : sources = [] ↔ options.spdkDevices = [] := by
    rw [← List.length_eq_zero_iff, length, List.length_eq_zero_iff]
  rw [build_decides, build_decides]
  simp only [ne_eq, some_, length, groups, entries, named, numbered, ranged]

theorem spdk_plan_exact (options : DeviceOptions) :
    ((buildSpdkOpenPlan options).status = Err.kSuccess ↔ ValidOptions options) ∧
    ((buildSpdkOpenPlan options).status = Err.kSuccess →
      List.Forall₂ MirrorsGroup options.spdkDevices (buildSpdkOpenPlan options).plan) ∧
    ((buildSpdkOpenPlan options).status ≠ Err.kSuccess → (buildSpdkOpenPlan options).plan = []) ∧
    (∀ sources : List SpdkDeviceConfig, sources.Perm options.spdkDevices →
      (buildSpdkOpenPlan { options with spdkDevices := sources }).status = (buildSpdkOpenPlan options).status) ∧
    ∀ sources : List SpdkDeviceConfig, List.Forall₂ SameGroup sources options.spdkDevices →
      (buildSpdkOpenPlan { options with spdkDevices := sources }).status = (buildSpdkOpenPlan options).status := by
  have invalid : Err.kSpdkInvalidConfig ≠ Err.kSuccess := by decide
  have overlapping : Err.kSpdkNamespaceOverlap ≠ Err.kSuccess := by decide
  refine ⟨?_, ?_, ?_, build_status_perm options, fun sources same => congrArg SpdkOpenPlanResult.status (build_case options sources same)⟩
  · rw [← valid_options_iff, build_decides]
    split
    · rename_i checked
      cases conflict : entriesConflict ((views options.spdkDevices).map mirror) with
      | true => simp [overlapping]
      | false => simpa using checked
    · rename_i unchecked
      exact iff_of_false invalid fun all => unchecked all.1
  · intro ok
    rw [build_decides] at ok ⊢
    split at ok
    · rename_i checked
      cases conflict : entriesConflict ((views options.spdkDevices).map mirror) with
      | true =>
          rw [conflict] at ok
          exact absurd ok overlapping
      | false =>
          rw [if_pos checked]
          have named := List.all_eq_true.mp checked.2.2.2.1
          simp only [Bool.false_eq_true, if_false]
          rw [List.forall₂_map_right_iff, List.forall₂_same]
          intro source member
          have view (v : SpdkNvmeNamespaceConfig) (role : v ∈ [source.data, source.wal, source.snapshot]) : Mirrors v (mirror v) :=
            mirror_mirrors v (named v (List.mem_flatMap.mpr ⟨source, member, role⟩))
          exact ⟨view _ (by simp), view _ (by simp), view _ (by simp)⟩
    · exact absurd ok invalid
  · intro failed
    rw [build_decides] at failed ⊢
    split
    · rename_i checked
      rw [if_pos checked] at failed
      cases conflict : entriesConflict ((views options.spdkDevices).map mirror) with
      | true => rfl
      | false =>
          rw [conflict] at failed
          exact absurd rfl failed
    · rfl

end Cabe
