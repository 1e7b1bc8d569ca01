import CallGraph.Bytes

/-!
# Instruction lengths

The length of an instruction follows from its opcode, except for the two switches, whose
tables are as long as their headers say, and for `wide`, which looks at the opcode it widens.
The tables of a switch start at the next offset that is a multiple of four, so a switch also
depends on where it stands.
-/

namespace CallGraph

namespace Bytecode

/-- Why an instruction has no length. -/
inductive LengthFault where
  /-- The header of a switch reaches past the code. -/
  | headerPastEnd
  /-- The bounds of a `tableswitch` count no table. -/
  | tableRange
  /-- The number of pairs of a `lookupswitch` is negative. -/
  | pairCount
  /-- A `wide` with nothing to widen. -/
  | nothingToWiden
  /-- No instruction has this opcode. -/
  | unsupported (opcode : UInt8)
  deriving DecidableEq, Repr

/-- Two lower-case hexadecimal digits. -/
def hexByte (byte : UInt8) : String :=
  String.ofList [Nat.digitChar (byte.toNat / 16), Nat.digitChar (byte.toNat % 16)]

/-- The wording of a missing length. -/
def LengthFault.message : LengthFault → String
  | headerPastEnd => "bytecode i32 out of bounds"
  | tableRange => "invalid tableswitch range"
  | pairCount => "invalid lookupswitch pairs"
  | nothingToWiden => "missing wide opcode"
  | unsupported opcode => "unsupported opcode 0x" ++ hexByte opcode

namespace Opcode

/-- Adds a constant to a local variable. -/
abbrev iinc : UInt8 := 0x84
/-- Jumps through a table of consecutive cases. -/
abbrev tableswitch : UInt8 := 0xaa
/-- Jumps through a table of matched cases. -/
abbrev lookupswitch : UInt8 := 0xab
/-- Returns from a method without a value. -/
abbrev return_ : UInt8 := 0xb1
/-- Calls a method of the receiver's class. -/
abbrev invokevirtual : UInt8 := 0xb6
/-- Calls a constructor, a private method or one of the superclass. -/
abbrev invokespecial : UInt8 := 0xb7
/-- Calls a static method. -/
abbrev invokestatic : UInt8 := 0xb8
/-- Calls a method of an interface. -/
abbrev invokeinterface : UInt8 := 0xb9
/-- Calls what a bootstrap method links. -/
abbrev invokedynamic : UInt8 := 0xba
/-- Widens the operand of the next opcode. -/
abbrev wide : UInt8 := 0xc4

end Opcode

/-- The lengths of the instructions of fixed length, run by run: a run ends at its first
component and follows the run before it. -/
def lengthRuns : List (UInt8 × Option Nat) :=
  [(0x0f, some 1), (0x10, some 2), (0x11, some 3), (0x12, some 2), (0x14, some 3),
   (0x19, some 2), (0x35, some 1), (0x3a, some 2), (0x83, some 1), (0x84, some 3),
   (0x98, some 1), (0xa8, some 3), (0xa9, some 2), (0xab, none), (0xb1, some 1),
   (0xb8, some 3), (0xba, some 5), (0xbb, some 3), (0xbc, some 2), (0xbd, some 3),
   (0xbf, some 1), (0xc1, some 3), (0xc3, some 1), (0xc4, none), (0xc5, some 4),
   (0xc7, some 3), (0xc9, some 5), (0xca, some 1), (0xfd, none), (0xff, some 1)]

/-- The length of an instruction of fixed length. -/
def fixedLength? (opcode : UInt8) : Option Nat :=
  (lengthRuns.find? fun run => opcode ≤ run.1).bind (·.2)

/-- The number of bytes between the opcode of a switch at `offset` and the next multiple of
four. -/
def padding (offset : Nat) : Nat :=
  (4 - (offset + 1) % 4) % 4

/-- The signed word of four bytes that starts `index` bytes into the operands. -/
def word? (operands : Bytes) (index : Nat) : Option Int :=
  (operands.slice? index 4).map Bytes.toIntBE

/-- The length of a `tableswitch`: its bounds are the second and third word of its header. -/
def tableswitchLength (offset : Nat) (operands : Bytes) : Except LengthFault Nat :=
  match word? operands (padding offset + 4), word? operands (padding offset + 8) with
  | some low, some high =>
    let count := high - low + 1
    if 0 ≤ count ∧ count < 0x80000000 then
      .ok (13 + padding offset + 4 * count.toNat)
    else
      .error .tableRange
  | _, _ => .error .headerPastEnd

/-- The length of a `lookupswitch`: its number of pairs is the second word of its header. -/
def lookupswitchLength (offset : Nat) (operands : Bytes) : Except LengthFault Nat :=
  match word? operands (padding offset + 4) with
  | some pairs =>
    if 0 ≤ pairs then
      .ok (9 + padding offset + 8 * pairs.toNat)
    else
      .error .pairCount
  | none => .error .headerPastEnd

/-- The length of a widened instruction. -/
def wideLength : Bytes → Except LengthFault Nat
  | [] => .error .nothingToWiden
  | opcode :: _ => .ok (if opcode = Opcode.iinc then 6 else 4)

/-- The length of the instruction with the given opcode at `offset`, where `operands` is all
of the code behind the opcode. -/
def instructionLength (offset : Nat) (opcode : UInt8) (operands : Bytes) :
    Except LengthFault Nat :=
  if opcode = Opcode.tableswitch then tableswitchLength offset operands
  else if opcode = Opcode.lookupswitch then lookupswitchLength offset operands
  else if opcode = Opcode.wide then wideLength operands
  else
    match fixedLength? opcode with
    | some length => .ok length
    | none => .error (.unsupported opcode)

/-- The length of the instruction at an offset of a method's code; `none` when the code ends
before the offset. -/
def lengthAt? (code : Bytes) (offset : Nat) : Option (Except LengthFault Nat) :=
  match code.drop offset with
  | [] => none
  | opcode :: operands => some (instructionLength offset opcode operands)

end Bytecode

end CallGraph
