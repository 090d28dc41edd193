import ObjectStore.Bytes

/-!
The 32-bit cyclic redundancy check with the Castagnoli polynomial, and its four bytes.
-/

namespace ObjectStore.Crc32c

/-- The polynomial with its bits in reverse order. -/
def polynomial : UInt32 := 0x82F63B78

def shiftBit (remainder : UInt32) : UInt32 :=
  if remainder &&& 1 == 1 then (remainder >>> 1) ^^^ polynomial else remainder >>> 1

def feed (remainder : UInt32) (byte : UInt8) : UInt32 :=
  let mixed := remainder ^^^ byte.toUInt32
  shiftBit (shiftBit (shiftBit (shiftBit (shiftBit (shiftBit (shiftBit (shiftBit mixed)))))))

def checksum (bytes : Bytes) : UInt32 :=
  bytes.foldl feed 0xFFFFFFFF ^^^ 0xFFFFFFFF

def toBytes (value : UInt32) : Bytes :=
  [(value >>> 24).toUInt8, (value >>> 16).toUInt8, (value >>> 8).toUInt8, value.toUInt8]

def ofBytes (first second third fourth : UInt8) : UInt32 :=
  (first.toUInt32 <<< 24) ||| (second.toUInt32 <<< 16) ||| (third.toUInt32 <<< 8) ||| fourth.toUInt32

end ObjectStore.Crc32c
