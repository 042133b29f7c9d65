/-
  ClassSkeleton.Archive.Crc — CRC-32.

  The reflected polynomial EDB88320, eight single-bit steps a byte, complemented before and after.
-/

namespace ClassSkeleton.Archive

def crcStep (c : UInt32) : UInt32 := if c &&& 1 = 1 then (c >>> 1) ^^^ 0xEDB88320 else c >>> 1

def crcByte (c : UInt32) (b : UInt8) : UInt32 :=
  crcStep (crcStep (crcStep (crcStep (crcStep (crcStep (crcStep (crcStep (c ^^^ b.toUInt32))))))))

def crc32 (bytes : List UInt8) : UInt32 := bytes.foldl crcByte 0xFFFFFFFF ^^^ 0xFFFFFFFF

end ClassSkeleton.Archive
