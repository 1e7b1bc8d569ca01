import CallGraph.ClassFile.Constant

/-!
# Decoders of class files

A decoder takes what it needs from the front of the bytes that are left of a file.  Numbers and
blocks that reach past the end of the file are refused with the place where they stand, which
follows from the length of the file and the number of bytes left.
-/

namespace CallGraph

namespace ClassFile

/-- Why bytes are no class file. -/
inductive Fault where
  /-- The file does not start with the magic number. -/
  | wrongMagic
  /-- A number reaches past the end of the file. -/
  | numberPastEnd (position length : Nat)
  /-- A block of bytes reaches past the end of the file. -/
  | blockPastEnd (stop length : Nat)
  /-- The file goes on behind its last attribute. -/
  | leftOver (length position : Nat)
  | constantTag (tag : UInt8)
  /-- The bytes of a text are neither UTF-8 nor modified UTF-8. -/
  | malformedText
  /-- The name of an attribute lies outside the constant pool. -/
  | nameOutsidePool (index : UInt16)
  | nameNotText (found : Constant)
  | attributeName (name : String)
  | elementTag (tag : UInt8)
  | frameTag (tag : UInt8)
  | verificationTag (tag : UInt8)
  /-- No annotated type stands at such a place. -/
  | targetTag (tag : UInt8)
  /-- Structures are nested deeper than the file has bytes. -/
  | nestedTooDeep
  deriving DecidableEq, Repr

/-- The wording of a fault. -/
def Fault.message : Fault → String
  | wrongMagic => "InvalidInput Error: Not a valid class-file"
  | numberPastEnd position length =>
      "I/O Error: overflow : attempt to read from " ++ toString position ++
        " whereas len is " ++ toString length
  | blockPastEnd stop length =>
      "I/O Error: Index out of bounds: " ++ toString stop ++ " of " ++ toString length
  | leftOver length position =>
      "I/O Error: Not all was read : data.len() is " ++ toString length ++
        ", start_from is " ++ toString position
  | constantTag tag => "I/O Error: unmatched tag: " ++ toString tag.toNat
  | malformedText => "I/O Error: could not convert CESU-8 data to UTF-8"
  | nameOutsidePool index => "I/O Error: element not found at index " ++ toString index.toNat
  | nameNotText found => "I/O Error: element type is not Uint8 but " ++ found.text
  | attributeName name => "I/O Error: unmatched attribute: " ++ name
  | elementTag tag => "I/O Error: Unsupported element tag: " ++ toString tag.toNat
  | frameTag tag => "I/O Error: Unsupported frame_type: " ++ toString tag.toNat
  | verificationTag tag => "I/O Error: tag " ++ toString tag.toNat ++ " is not valid"
  | targetTag tag => "I/O Error: Invalid target_type: " ++ toString tag.toNat
  | nestedTooDeep => "I/O Error: nested too deep"

/-- A decoder takes a value from the front of the bytes that are left of a file of the given
length. -/
def Decoder (α : Type) : Type :=
  (length : Nat) → (left : Bytes) → Except Fault (α × Bytes)

namespace Decoder

/-- Takes nothing. -/
protected def pure {α : Type} (value : α) : Decoder α :=
  fun _ left => .ok (value, left)

/-- One decoder after the other. -/
protected def bind {α β : Type} (first : Decoder α) (next : α → Decoder β) : Decoder β :=
  fun length left =>
    match first length left with
    | .error fault => .error fault
    | .ok (value, left) => next value length left

instance : Monad Decoder where
  pure := Decoder.pure
  bind := Decoder.bind

/-- Refuses the file. -/
def refuse {α : Type} (fault : Fault) : Decoder α :=
  fun _ _ => .error fault

/-- A number of `width` bytes. -/
def number (width : Nat) : Decoder Nat :=
  fun length left =>
    match left.slice? 0 width with
    | some bytes => .ok (Bytes.toNatBE bytes, left.drop width)
    | none => .error (.numberPastEnd (length - left.length) length)

/-- A number of one byte. -/
def u1 : Decoder UInt8 := do
  return UInt8.ofNat (← number 1)

/-- A number of two bytes. -/
def u2 : Decoder UInt16 := do
  return UInt16.ofNat (← number 2)

/-- A number of four bytes. -/
def u4 : Decoder UInt32 := do
  return UInt32.ofNat (← number 4)

/-- Passes over numbers of the given widths. -/
def skip : List Nat → Decoder Unit
  | [] => pure ()
  | width :: widths => do
    let _ ← number width
    skip widths

/-- Requires that a block of the given size is left, and takes nothing. -/
def require (size : Nat) : Decoder Unit :=
  fun length left =>
    match left.slice? 0 size with
    | some _ => .ok ((), left)
    | none => .error (.blockPastEnd (length - left.length + size) length)

/-- A block of the given size. -/
def block (size : Nat) : Decoder Bytes := do
  require size
  fun _ left => .ok (left.take size, left.drop size)

/-- The same thing a number of times over. -/
def times {α : Type} (item : Decoder α) : Nat → Decoder (List α)
  | 0 => pure []
  | count + 1 => do
    let first ← item
    let rest ← item.times count
    return first :: rest

/-- A table: a count of two bytes and as many entries. -/
def table {α : Type} (item : Decoder α) : Decoder (List α) := do
  item.times (← u2).toNat

/-- The number of bytes that are left. -/
def remaining : Decoder Nat :=
  fun _ left => .ok (left.length, left)

/-- Requires that nothing is left. -/
def finish : Decoder Unit :=
  fun length left =>
    match left with
    | [] => .ok ((), [])
    | _ :: _ => .error (.leftOver length (length - left.length))

/-- The value that a decoder takes from a whole file. -/
def run {α : Type} (decoder : Decoder α) (file : Bytes) : Except Fault α :=
  match decoder file.length file with
  | .error fault => .error fault
  | .ok (value, _) => .ok value

end Decoder

end ClassFile

end CallGraph
