import CallGraph.Bytes

/-!
# Checksums

The checksum of a byte string is the remainder of its cyclic redundancy check with 32 bits, least
significant bit first.
-/

namespace CallGraph

namespace Checksum

/-- The polynomial of the check. -/
def polynomial : UInt32 := 0xedb88320

/-- Takes one bit out of a remainder. -/
def shift (remainder : UInt32) : UInt32 :=
  if remainder &&& 1 = 0 then remainder >>> 1 else (remainder >>> 1) ^^^ polynomial

/-- Takes one byte into a remainder. -/
def step (remainder : UInt32) (byte : UInt8) : UInt32 :=
  Nat.repeat shift 8 (remainder ^^^ byte.toUInt32)

/-- The checksum of a byte string. -/
def ofBytes (bytes : Bytes) : UInt32 :=
  bytes.foldl step 0xffffffff ^^^ 0xffffffff

end Checksum

end CallGraph
