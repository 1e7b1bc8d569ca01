import CallGraph.Bytes
import CallGraph.Decimal.FloatText

/-!
# Constants of a class file

The constant pool is an array of slots that refer to each other by index.  Slot 0 and the slot
after a `long` or `double` hold nothing.  A constant has a text, by which it is named where it
stands in the wrong place, and an encoding, which is how it stands in a file.
-/

namespace CallGraph

namespace ClassFile

/-- A slot of the constant pool.  Fields named `…Index` are indices into the pool. -/
inductive Constant where
  | empty
  | utf8 (value : String)
  | integer (value : Int32)
  | float (word : UInt32)
  | long (value : Int64)
  | double (word : UInt64)
  | classInfo (nameIndex : UInt16)
  | string (stringIndex : UInt16)
  | fieldRef (classIndex nameAndTypeIndex : UInt16)
  | methodRef (classIndex nameAndTypeIndex : UInt16)
  | interfaceMethodRef (classIndex nameAndTypeIndex : UInt16)
  | nameAndType (nameIndex descriptorIndex : UInt16)
  | methodHandle (kind : UInt8) (referenceIndex : UInt16)
  | methodType (descriptorIndex : UInt16)
  | dynamic (bootstrapIndex nameAndTypeIndex : UInt16)
  | invokeDynamic (bootstrapIndex nameAndTypeIndex : UInt16)
  | moduleInfo (nameIndex : UInt16)
  | packageInfo (nameIndex : UInt16)
  deriving DecidableEq, Repr

/-- The constant pool, slot by slot. -/
abbrev ConstantPool := Array Constant

namespace Constant

/-- The number of slots that a constant takes. -/
def width : Constant → Nat
  | long _ => 2
  | double _ => 2
  | _ => 1

/-- A record with named fields, as text. -/
def recordText (name : String) (fields : List (String × String)) : String :=
  name ++ " \x7b " ++ String.intercalate ", " (fields.map fun field => field.1 ++ ": " ++ field.2)
    ++ " \x7d"

/-- The text of a constant. -/
def text : Constant → String
  | empty => "Empty"
  | utf8 value => recordText "Utf8" [("value", "\"" ++ value ++ "\"")]
  | integer value => recordText "Integer" [("value", toString value.toInt)]
  | float word =>
      recordText "Float" [("value", Decimal.FloatFormat.single.text word.toNat)]
  | long value => recordText "Long" [("value", toString value.toInt)]
  | double word =>
      recordText "Double" [("value", Decimal.FloatFormat.double.text word.toNat)]
  | classInfo nameIndex => recordText "Class" [("name_index", toString nameIndex.toNat)]
  | string stringIndex => recordText "String" [("string_index", toString stringIndex.toNat)]
  | fieldRef classIndex nameAndTypeIndex =>
      member "Fieldref" classIndex nameAndTypeIndex
  | methodRef classIndex nameAndTypeIndex =>
      member "Methodref" classIndex nameAndTypeIndex
  | interfaceMethodRef classIndex nameAndTypeIndex =>
      member "InterfaceMethodref" classIndex nameAndTypeIndex
  | nameAndType nameIndex descriptorIndex =>
      recordText "NameAndType"
        [("name_index", toString nameIndex.toNat),
         ("descriptor_index", toString descriptorIndex.toNat)]
  | methodHandle kind referenceIndex =>
      recordText "MethodHandle"
        [("reference_kind", toString kind.toNat),
         ("reference_index", toString referenceIndex.toNat)]
  | methodType descriptorIndex =>
      recordText "MethodType" [("descriptor_index", toString descriptorIndex.toNat)]
  | dynamic bootstrapIndex nameAndTypeIndex =>
      site "Dynamic" bootstrapIndex nameAndTypeIndex
  | invokeDynamic bootstrapIndex nameAndTypeIndex =>
      site "InvokeDynamic" bootstrapIndex nameAndTypeIndex
  | moduleInfo nameIndex => recordText "Module" [("name_index", toString nameIndex.toNat)]
  | packageInfo nameIndex => recordText "Package" [("name_index", toString nameIndex.toNat)]
where
  /-- The text of a reference to a member. -/
  member (name : String) (classIndex nameAndTypeIndex : UInt16) : String :=
    recordText name
      [("class_index", toString classIndex.toNat),
       ("name_and_type_index", toString nameAndTypeIndex.toNat)]
  /-- The text of a dynamically linked constant. -/
  site (name : String) (bootstrapIndex nameAndTypeIndex : UInt16) : String :=
    recordText name
      [("bootstrap_method_attr_index", toString bootstrapIndex.toNat),
       ("name_and_type_index", toString nameAndTypeIndex.toNat)]

/-- Two bytes of a pool index or a count. -/
def indexBytes (index : UInt16) : Bytes :=
  Bytes.ofNatBE 2 index.toNat

/-- A constant as it stands in a file: a tag and its fields.  An empty slot takes no bytes.  The
length of a text is written modulo 65536. -/
def encode : Constant → Bytes
  | empty => []
  | utf8 value =>
      let bytes := Bytes.ofString value
      1 :: Bytes.ofNatBE 2 bytes.length ++ bytes
  | integer value => 3 :: Bytes.ofNatBE 4 value.toUInt32.toNat
  | float word => 4 :: Bytes.ofNatBE 4 word.toNat
  | long value => 5 :: Bytes.ofNatBE 8 value.toUInt64.toNat
  | double word => 6 :: Bytes.ofNatBE 8 word.toNat
  | classInfo nameIndex => 7 :: indexBytes nameIndex
  | string stringIndex => 8 :: indexBytes stringIndex
  | fieldRef classIndex nameAndTypeIndex =>
      9 :: indexBytes classIndex ++ indexBytes nameAndTypeIndex
  | methodRef classIndex nameAndTypeIndex =>
      10 :: indexBytes classIndex ++ indexBytes nameAndTypeIndex
  | interfaceMethodRef classIndex nameAndTypeIndex =>
      11 :: indexBytes classIndex ++ indexBytes nameAndTypeIndex
  | nameAndType nameIndex descriptorIndex =>
      12 :: indexBytes nameIndex ++ indexBytes descriptorIndex
  | methodHandle kind referenceIndex => 15 :: kind :: indexBytes referenceIndex
  | methodType descriptorIndex => 16 :: indexBytes descriptorIndex
  | dynamic bootstrapIndex nameAndTypeIndex =>
      17 :: indexBytes bootstrapIndex ++ indexBytes nameAndTypeIndex
  | invokeDynamic bootstrapIndex nameAndTypeIndex =>
      18 :: indexBytes bootstrapIndex ++ indexBytes nameAndTypeIndex
  | moduleInfo nameIndex => 19 :: indexBytes nameIndex
  | packageInfo nameIndex => 20 :: indexBytes nameIndex

end Constant

end ClassFile

end CallGraph
