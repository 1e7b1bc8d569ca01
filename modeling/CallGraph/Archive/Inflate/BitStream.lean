import CallGraph.Bytes
import CallGraph.Fallible

/-!
# Streams of bits

Compressed data is read bit by bit, the least significant bit of each byte first.  Reading takes
bits away, so the number of bits that are left bounds every loop.
-/

namespace CallGraph

namespace Inflate

/-- Why compressed data cannot be restored. -/
inductive Fault where
  /-- The data states something that cannot be. -/
  | corrupt
  /-- The data ends too early. -/
  | incomplete
  deriving DecidableEq, Repr

/-- What is left of a stream of bits. -/
structure BitStream where
  /-- The bits that are left of a byte that was begun. -/
  pending : List Bool
  /-- The bytes after it. -/
  rest : Bytes
  deriving DecidableEq, Repr

namespace BitStream

/-- The bits of a byte string. -/
def ofBytes (bytes : Bytes) : BitStream :=
  ⟨[], bytes⟩

/-- The number of bits that are left. -/
def size (stream : BitStream) : Nat :=
  stream.pending.length + 8 * stream.rest.length

/-- The next bit. -/
def bit : BitStream → Except Fault (Bool × BitStream)
  | ⟨bit :: pending, rest⟩ => .ok (bit, ⟨pending, rest⟩)
  | ⟨[], byte :: rest⟩ =>
      .ok (byte.toNat.testBit 0,
        ⟨[1, 2, 3, 4, 5, 6, 7].map fun place => byte.toNat.testBit place, rest⟩)
  | ⟨[], []⟩ => .error .incomplete

/-- The number in the next bits, least significant bit first. -/
def bits : (count : Nat) → BitStream → Except Fault (Nat × BitStream)
  | 0, stream => .ok (0, stream)
  | count + 1, stream => do
    let (lowest, stream) ← stream.bit
    let (others, stream) ← bits count stream
    return (lowest.toNat + 2 * others, stream)

/-- What follows the byte that was begun. -/
def align (stream : BitStream) : BitStream :=
  ⟨[], stream.rest⟩

/-- The next bytes of a stream that stands between bytes. -/
def bytes (count : Nat) (stream : BitStream) : Except Fault (Bytes × BitStream) :=
  match Bytes.slice? 0 count stream.rest with
  | none => .error .incomplete
  | some block => .ok (block, ⟨[], stream.rest.drop count⟩)

theorem size_of_bit {stream rest : BitStream} {bit : Bool}
    (read : stream.bit = .ok (bit, rest)) : stream.size = rest.size + 1 := by
  unfold BitStream.bit at read
  split at read
  · simp only [Except.ok.injEq, Prod.mk.injEq] at read
    rw [← read.2]
    simp only [size, List.length_cons]
    omega
  · simp only [Except.ok.injEq, Prod.mk.injEq] at read
    rw [← read.2]
    simp only [size, List.length_cons, List.length_map, List.length_nil]
    omega
  · cases read

theorem size_of_bits {count number : Nat} {stream rest : BitStream}
    (read : bits count stream = .ok (number, rest)) : stream.size = rest.size + count := by
  induction count generalizing stream number with
  | zero =>
      simp only [bits, Except.ok.injEq, Prod.mk.injEq] at read
      rw [read.2]
      rfl
  | succ count ih =>
      obtain ⟨⟨lowest, middle⟩, first, read⟩ := Fallible.of_bind_eq_ok read
      obtain ⟨⟨others, last⟩, second, read⟩ := Fallible.of_bind_eq_ok read
      have result := Fallible.of_pure_eq_ok read
      simp only [Prod.mk.injEq] at result
      rw [result.2] at second
      rw [size_of_bit first, ih second]
      omega

theorem size_align_le (stream : BitStream) : stream.align.size ≤ stream.size := by
  simp [align, size]

theorem size_of_bytes {count : Nat} {stream rest : BitStream} {block : Bytes}
    (read : stream.bytes count = .ok (block, rest)) : rest.size ≤ stream.size := by
  unfold bytes at read
  split at read
  · cases read
  · simp only [Except.ok.injEq, Prod.mk.injEq] at read
    rw [← read.2]
    simp only [size, List.length_drop, List.length_nil]
    omega

end BitStream

end Inflate

end CallGraph
