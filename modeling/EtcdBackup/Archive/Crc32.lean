import EtcdBackup.Bytes

/-!
# The checksum CRC-32

The remainder of a message by a polynomial of degree 32 over two elements, lowest bit first, as
gzip uses it.
-/

set_option autoImplicit false
set_option relaxedAutoImplicit false

namespace EtcdBackup.Crc32

/-- Divides out one bit. -/
def shift (x : UInt32) : UInt32 :=
  if x &&& 1 = 1 then (x >>> 1) ^^^ 0xEDB88320 else x >>> 1

/-- Takes a byte into the remainder. -/
def update (remainder : UInt32) (b : UInt8) : UInt32 :=
  Nat.repeat shift 8 (remainder ^^^ b.toUInt32)

/-- The checksum of a message. -/
def checksum (message : Bytes) : UInt32 := message.foldl update 0xFFFFFFFF ^^^ 0xFFFFFFFF

end EtcdBackup.Crc32
