import Cabe.Common

set_option autoImplicit false

namespace Cabe.Util

open Storage

def kRevPoly : UInt32 := 0x82F63B78

def crcBit (c : UInt32) : UInt32 := (c >>> 1) ^^^ (if c &&& 1 = 1 then kRevPoly else 0)

def crcEntry (i : UInt32) : UInt32 := crcBit (crcBit (crcBit (crcBit (crcBit (crcBit (crcBit (crcBit i)))))))

def kCrc32cTable : Vector UInt32 256 := Vector.ofFn fun i => crcEntry (UInt32.ofNat i.val)

def crcByte (crc : UInt32) (b : UInt8) : UInt32 :=
  (crc >>> 8) ^^^ (kCrc32cTable[((crc ^^^ b.toUInt32) &&& 0xFF).toNat]?).getD 0

def crc32cStreamUpdate (crc : UInt32) (data : Bytes) : UInt32 := data.foldl crcByte crc

-- The software path. The dispatcher may choose the SSE4.2 instruction instead,
-- which computes the same checksum.
def crc32 (data : Bytes) : UInt32 := ~~~ crc32cStreamUpdate 0xFFFFFFFF data

theorem crc_stream_append (crc : UInt32) (a b : Bytes) :
    crc32cStreamUpdate crc (a ++ b) = crc32cStreamUpdate (crc32cStreamUpdate crc a) b := by
  simp [crc32cStreamUpdate]

example : crc32 [0x31, 0x32, 0x33, 0x34, 0x35, 0x36, 0x37, 0x38, 0x39] = 0xE3069283 := by decide +kernel

end Cabe.Util
