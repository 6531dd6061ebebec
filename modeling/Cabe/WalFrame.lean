import Cabe.Crc32

set_option autoImplicit false

namespace Cabe

open Storage

def kWalMagic : UInt32 := 0x45424143
def kWalFrameVersion : UInt8 := 1
def kWalFrameSize : Nat := 128
def kWalKeyMax : Nat := 84
def kWalBlockSize : Nat := 4096
def kWalFramesPerBlock : Nat := 32

-- Like the source's scoped enum, any byte is a value of the type; the writer
-- uses the two named ones.
structure WalEntryType where
  raw : UInt8
deriving DecidableEq, Repr, Inhabited

def WalEntryType.put : WalEntryType := ⟨1⟩
def WalEntryType.delete : WalEntryType := ⟨2⟩

structure WalEntry where
  type : WalEntryType
  key : Key
  block : BlockId
  valueCrc : UInt32
  timestamp : UInt64
deriving DecidableEq, Repr, Inhabited

structure WalFrame where
  magic : UInt32
  version : UInt8
  flags : UInt8
  entryType : UInt8
  reserved0 : UInt8
  seq : UInt64
  block : UInt64
  timestamp : UInt64
  valueCrc : UInt32
  keyLen : UInt16
  reserved1 : UInt16
  key : Vector UInt8 84
  frameCrc32c : UInt32
deriving DecidableEq

-- The first 124 bytes, which the checksum covers.
def WalFrame.covered (f : WalFrame) : Bytes :=
  leBytes 4 f.magic.toNat ++ ([f.version, f.flags, f.entryType, f.reserved0] ++ (leBytes 8 f.seq.toNat ++
    (leBytes 8 f.block.toNat ++ (leBytes 8 f.timestamp.toNat ++ (leBytes 4 f.valueCrc.toNat ++
    (leBytes 2 f.keyLen.toNat ++ (leBytes 2 f.reserved1.toNat ++ f.key.toList)))))))

def WalFrame.toBytes (f : WalFrame) : Bytes := f.covered ++ leBytes 4 f.frameCrc32c.toNat

def WalFrame.ofBytes (b : Bytes) : WalFrame where
  magic := UInt32.ofNat (leNat (slice b 0 4))
  version := (b[4]?).getD 0
  flags := (b[5]?).getD 0
  entryType := (b[6]?).getD 0
  reserved0 := (b[7]?).getD 0
  seq := UInt64.ofNat (leNat (slice b 8 8))
  block := UInt64.ofNat (leNat (slice b 16 8))
  timestamp := UInt64.ofNat (leNat (slice b 24 8))
  valueCrc := UInt32.ofNat (leNat (slice b 32 4))
  keyLen := UInt16.ofNat (leNat (slice b 36 2))
  reserved1 := UInt16.ofNat (leNat (slice b 38 2))
  key := Vector.ofFn fun i => (b[40 + i.val]?).getD 0
  frameCrc32c := UInt32.ofNat (leNat (slice b 124 4))

def computeFrameCrc (f : WalFrame) : UInt32 := Util.crc32 (f.toBytes.take (kWalFrameSize - 4))

def encodeFrame (e : WalEntry) (seq : Nat) : WalFrame :=
  let f : WalFrame := {
    magic := kWalMagic
    version := kWalFrameVersion
    flags := 0
    entryType := e.type.raw
    reserved0 := 0
    seq := UInt64.ofNat seq
    block := e.block.raw
    timestamp := e.timestamp
    valueCrc := e.valueCrc
    keyLen := UInt16.ofNat e.key.length
    reserved1 := 0
    key := Vector.ofFn fun i => (e.key[i.val]?).getD 0
    frameCrc32c := 0 }
  { f with frameCrc32c := computeFrameCrc f }

def verifyFrame (f : WalFrame) : Bool :=
  if f.magic ≠ kWalMagic then false
  else if f.version ≠ kWalFrameVersion then false
  else if f.keyLen.toNat > kWalKeyMax then false
  else computeFrameCrc f == f.frameCrc32c

-- The record a replay hands to its callback.
def decodeEntry (f : WalFrame) : WalEntry where
  type := ⟨f.entryType⟩
  key := f.key.toList.take f.keyLen.toNat
  block := ⟨f.block⟩
  valueCrc := f.valueCrc
  timestamp := f.timestamp

theorem covered_length (f : WalFrame) : f.covered.length = 124 := by
  simp [WalFrame.covered]

@[simp] theorem to_bytes_length (f : WalFrame) : f.toBytes.length = 128 := by
  simp [WalFrame.toBytes, covered_length]

theorem to_bytes_covered (f : WalFrame) : f.toBytes.take (kWalFrameSize - 4) = f.covered := by
  rw [WalFrame.toBytes, kWalFrameSize, List.take_append_of_le_length (by simp [covered_length]),
    List.take_of_length_le (by simp [covered_length])]

theorem field_u64 (x : UInt64) : UInt64.ofNat (leNat (leBytes 8 x.toNat)) = x := by
  rw [leNat_leBytes_fits 8 _ x.toNat_lt, UInt64.ofNat_toNat]

theorem field_u32 (x : UInt32) : UInt32.ofNat (leNat (leBytes 4 x.toNat)) = x := by
  rw [leNat_leBytes_fits 4 _ x.toNat_lt, UInt32.ofNat_toNat]

theorem field_u16 (x : UInt16) : UInt16.ofNat (leNat (leBytes 2 x.toNat)) = x := by
  rw [leNat_leBytes_fits 2 _ x.toNat_lt, UInt16.ofNat_toNat]

theorem of_bytes_to_bytes (f : WalFrame) : WalFrame.ofBytes f.toBytes = f := by
  obtain ⟨magic, version, flags, entryType, reserved0, seq, block, timestamp, valueCrc, keyLen, reserved1, key, crc⟩ := f
  have keyBytes (i : Nat) (bound : i < 84) : ((key.toList ++ leBytes 4 crc.toNat)[i]?).getD 0 = key[i] := by
    rw [List.getElem?_append_left (by simpa using bound)]
    simp [bound]
  have last : slice (leBytes 4 crc.toNat) 0 4 = leBytes 4 crc.toNat := by
    simpa using slice_all (leBytes 4 crc.toNat)
  simp only [WalFrame.ofBytes, WalFrame.toBytes, WalFrame.covered, List.append_assoc, WalFrame.mk.injEq]
  refine ⟨?_, by simp [leBytes], by simp [leBytes], by simp [leBytes], by simp [leBytes], ?_, ?_, ?_, ?_, ?_, ?_, ?_, ?_⟩
  case refine_8 =>
    apply Vector.ext
    intro i bound
    rw [Vector.getElem_ofFn, ← keyBytes i bound]
    simp (disch := first | simp; done | simp; omega) only [List.getElem?_append_right, leBytes_length, List.length_cons,
      List.length_nil]
    congr 2
    omega
  all_goals
    simp (disch := simp) only [slice_append_right, leBytes_length, List.length_cons, List.length_nil, Vector.length_toList,
      Nat.reduceAdd, Nat.reduceSub, slice_left_exact, last, field_u64, field_u32, field_u16]

theorem encode_crc (e : WalEntry) (seq : Nat) :
    computeFrameCrc (encodeFrame e seq) = (encodeFrame e seq).frameCrc32c := by
  simp only [encodeFrame, computeFrameCrc, to_bytes_covered]
  rfl

theorem key_len_fits (key : Key) (short : key.length ≤ kWalKeyMax) : (UInt16.ofNat key.length).toNat = key.length := by
  unfold kWalKeyMax at short
  exact UInt16.toNat_ofNat_of_lt' (Nat.lt_of_le_of_lt short (by decide))

theorem verify_encode (e : WalEntry) (seq : Nat) (short : e.key.length ≤ kWalKeyMax) :
    verifyFrame (encodeFrame e seq) = true := by
  have len : (encodeFrame e seq).keyLen.toNat = e.key.length := key_len_fits e.key short
  have fits : ¬ (encodeFrame e seq).keyLen.toNat > kWalKeyMax := by omega
  have magic : (encodeFrame e seq).magic = kWalMagic := rfl
  have version : (encodeFrame e seq).version = kWalFrameVersion := rfl
  simp only [verifyFrame, magic, version, fits, encode_crc]
  simp

theorem decode_encode (e : WalEntry) (seq : Nat) (short : e.key.length ≤ kWalKeyMax) :
    decodeEntry (encodeFrame e seq) = e := by
  have len := key_len_fits e.key short
  unfold kWalKeyMax at short
  have key : ((encodeFrame e seq).key.toList.take (UInt16.ofNat e.key.length).toNat) = e.key := by
    rw [len]
    apply List.ext_getElem
    · simp
      omega
    · intro i left right
      simp [encodeFrame, right]
  obtain ⟨type, k, block, crc, timestamp⟩ := e
  simpa [decodeEntry, encodeFrame] using key

theorem encode_seq (e : WalEntry) (seq : Nat) (fits : seq < 2 ^ 64) : (encodeFrame e seq).seq.toNat = seq :=
  UInt64.toNat_ofNat_of_lt' fits

theorem verify_zeros : verifyFrame (WalFrame.ofBytes (zeros 128)) = false := by
  have magic : (WalFrame.ofBytes (zeros 128)).magic = 0 := by decide
  simp [verifyFrame, magic, kWalMagic]

end Cabe
