/-!
# Byte strings

Class files, archives and the written graph are finite strings of bytes.  Numbers in class
files stand with their most significant byte first, numbers in archives with their least
significant byte first; both readings are given here, with their inverses of fixed width.
Powers are written `Nat.pow`, which means the same whatever else is imported.
-/

namespace CallGraph

/-- A finite string of bytes. -/
abbrev Bytes := List UInt8

namespace Bytes

/-- The number that a byte string denotes, most significant byte first. -/
def toNatBE (bytes : Bytes) : Nat :=
  bytes.foldl (fun number byte => 256 * number + byte.toNat) 0

/-- The number that a byte string denotes as two's complement of its own width, most
significant byte first. -/
def toIntBE (bytes : Bytes) : Int :=
  Int.bmod (toNatBE bytes) (Nat.pow 256 bytes.length)

/-- The number that a byte string denotes, least significant byte first. -/
def toNatLE : Bytes → Nat
  | [] => 0
  | byte :: rest => byte.toNat + 256 * toNatLE rest

/-- The last `width` base-256 digits of a number, most significant byte first. -/
def ofNatBE : (width : Nat) → Nat → Bytes
  | 0, _ => []
  | width + 1, number => ofNatBE width (number / 256) ++ [UInt8.ofNat number]

/-- The last `width` base-256 digits of a number, least significant byte first. -/
def ofNatLE : (width : Nat) → Nat → Bytes
  | 0, _ => []
  | width + 1, number => UInt8.ofNat number :: ofNatLE width (number / 256)

/-- The `size` bytes from `start` on, when the string holds that many. -/
def slice? (start size : Nat) (bytes : Bytes) : Option Bytes :=
  let block := (bytes.drop start).take size
  if block.length = size then some block else none

/-- The bytes of a text in UTF-8. -/
def ofString (text : String) : Bytes :=
  text.toUTF8.data.toList

@[simp]
theorem length_ofNatBE (width number : Nat) : (ofNatBE width number).length = width := by
  induction width generalizing number with
  | zero => rfl
  | succ width ih => simp [ofNatBE, ih]

@[simp]
theorem length_ofNatLE (width number : Nat) : (ofNatLE width number).length = width := by
  induction width generalizing number with
  | zero => rfl
  | succ width ih => simp [ofNatLE, ih]

@[simp]
theorem toNatBE_append_singleton (bytes : Bytes) (byte : UInt8) :
    toNatBE (bytes ++ [byte]) = 256 * toNatBE bytes + byte.toNat := by
  simp [toNatBE]

/-- Writing in a fixed width and reading back keeps the number modulo the power `256 ^ width`. -/
@[simp]
theorem toNatBE_ofNatBE (width number : Nat) :
    toNatBE (ofNatBE width number) = number % Nat.pow 256 width := by
  induction width generalizing number with
  | zero => simp [ofNatBE, toNatBE, Nat.mod_one]
  | succ width ih =>
      have split : number % (256 * Nat.pow 256 width) =
          number % 256 + 256 * (number / 256 % Nat.pow 256 width) := Nat.mod_mul
      have power : Nat.pow 256 (width + 1) = 256 * Nat.pow 256 width := Nat.mul_comm _ _
      simp only [ofNatBE, toNatBE_append_singleton, ih, power, split]
      simp only [UInt8.toNat_ofNat', Nat.reducePow]
      omega

/-- Writing in a fixed width and reading back keeps the number modulo the power `256 ^ width`. -/
@[simp]
theorem toNatLE_ofNatLE (width number : Nat) :
    toNatLE (ofNatLE width number) = number % Nat.pow 256 width := by
  induction width generalizing number with
  | zero => simp [ofNatLE, toNatLE, Nat.mod_one]
  | succ width ih =>
      have split : number % (256 * Nat.pow 256 width) =
          number % 256 + 256 * (number / 256 % Nat.pow 256 width) := Nat.mod_mul
      have power : Nat.pow 256 (width + 1) = 256 * Nat.pow 256 width := Nat.mul_comm _ _
      simp only [ofNatLE, toNatLE, ih, power, split]
      simp only [UInt8.toNat_ofNat', Nat.reducePow]

end Bytes

end CallGraph
