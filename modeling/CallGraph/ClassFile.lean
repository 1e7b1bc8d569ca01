import CallGraph.ClassFile.Attribute
import CallGraph.Text.ModifiedUtf8

/-!
# Class files

A class file is its constant pool, the index of its own name, its methods and its attributes; all
else is passed over.  No index is followed here: what a constant refers to is the concern of
`CallGraph.ClassFile.Resolution`.
-/

namespace CallGraph

/-- A method as a file gives it, by indices into the constant pool. -/
structure ClassFile.MethodInfo where
  accessFlags : UInt16
  nameIndex : UInt16
  descriptorIndex : UInt16
  attributes : List ClassFile.Attribute
  deriving DecidableEq, Repr

namespace ClassFile

/-- The flag of a native method. -/
def nativeFlag : UInt16 := 0x0100

/-- The flag of an abstract method. -/
def abstractFlag : UInt16 := 0x0400

/-- Whether a method is native. -/
def MethodInfo.isNative (method : MethodInfo) : Bool :=
  method.accessFlags &&& nativeFlag != 0

/-- Whether a method is abstract. -/
def MethodInfo.isAbstract (method : MethodInfo) : Bool :=
  method.accessFlags &&& abstractFlag != 0

end ClassFile

/-- A class file, as far as a call graph looks at it. -/
structure ClassFile where
  constantPool : ClassFile.ConstantPool
  thisIndex : UInt16
  superIndex : UInt16
  interfaceIndices : List UInt16
  methods : List ClassFile.MethodInfo
  attributes : List ClassFile.Attribute
  deriving DecidableEq, Repr

namespace ClassFile

open Decoder

/-- The number every class file starts with. -/
def magic : Nat := 0xcafebabe

/-- The text of a constant. -/
def textConstant : Decoder Constant := do
  let bytes ← block (← u2).toNat
  match ModifiedUtf8.decode? bytes with
  | some value => return .utf8 value
  | none => refuse .malformedText

/-- A constant: a tag and its fields. -/
def constant : Decoder Constant := do
  let tag ← u1
  match tag.toNat with
  | 1 => textConstant
  | 3 => return .integer (UInt32.ofNat (← number 4)).toInt32
  | 4 => return .float (UInt32.ofNat (Bytes.toNatBE (← block 4)))
  | 5 => return .long (UInt64.ofNat (← number 8)).toInt64
  | 6 => return .double (UInt64.ofNat (Bytes.toNatBE (← block 8)))
  | 7 => return .classInfo (← u2)
  | 8 => return .string (← u2)
  | 9 => return .fieldRef (← u2) (← u2)
  | 10 => return .methodRef (← u2) (← u2)
  | 11 => return .interfaceMethodRef (← u2) (← u2)
  | 12 => return .nameAndType (← u2) (← u2)
  | 15 => return .methodHandle (← u1) (← u2)
  | 16 => return .methodType (← u2)
  | 17 => return .dynamic (← u2) (← u2)
  | 18 => return .invokeDynamic (← u2) (← u2)
  | 19 => return .moduleInfo (← u2)
  | 20 => return .packageInfo (← u2)
  | _ => refuse (.constantTag tag)

/-- A number of slots, of which the first is the second half of the constant before it when
`isSecondHalf` says so.  The second half of a constant takes no bytes. -/
def slots : (count : Nat) → (isSecondHalf : Bool) → Decoder (List Constant)
  | 0, _ => pure []
  | count + 1, true => do
    let rest ← slots count false
    return .empty :: rest
  | count + 1, false => do
    let first ← constant
    let rest ← slots count (first.width == 2)
    return first :: rest

/-- The constant pool.  Slot 0 takes no bytes. -/
def poolTable : Decoder ConstantPool := do
  match (← u2).toNat with
  | 0 => return #[]
  | count + 1 => do
    let rest ← slots count false
    return (Constant.empty :: rest).toArray

/-- A field or a method. -/
def member (pool : ConstantPool) : Decoder MethodInfo := do
  let accessFlags ← u2
  let nameIndex ← u2
  let descriptorIndex ← u2
  let attributes ← attributeTable pool
  return ⟨accessFlags, nameIndex, descriptorIndex, attributes⟩

/-- A class file. -/
def decoder : Decoder ClassFile := do
  if (← number 4) = magic then
    skip [2, 2]
    let pool ← poolTable
    skip [2]
    let thisIndex ← u2
    let superIndex ← u2
    let interfaceIndices ← table u2
    let _ ← table (member pool)
    let methods ← table (member pool)
    let attributes ← attributeTable pool
    finish
    return ⟨pool, thisIndex, superIndex, interfaceIndices, methods, attributes⟩
  else
    refuse .wrongMagic

/-- The class file that bytes spell. -/
def decode (file : Bytes) : Except Fault ClassFile :=
  decoder.run file

end ClassFile

end CallGraph
