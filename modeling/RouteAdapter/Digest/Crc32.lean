/-!
# CRC-32

The reflected checksum with polynomial `0xEDB88320`, initial value and final complement all ones.
-/

namespace RouteAdapter.Digest

def crcShift (c : UInt32) : UInt32 :=
  if c &&& 1 = 0 then c >>> 1 else (c >>> 1) ^^^ 0xEDB88320

def crcByte (c : UInt32) (b : UInt8) : UInt32 :=
  Nat.repeat crcShift 8 (c ^^^ b.toUInt32)

def crc32 (bytes : List UInt8) : UInt32 :=
  bytes.foldl crcByte 0xFFFFFFFF ^^^ 0xFFFFFFFF

end RouteAdapter.Digest
