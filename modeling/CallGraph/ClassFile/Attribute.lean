import CallGraph.ClassFile.Annotation

/-!
# Attributes

An attribute has a name, a length and a body.  The body is read by the layout that belongs to the
name; the length is passed over, but for the two attributes whose block is checked first.  Only
the code of a method and the bootstrap methods of a class are kept.
-/

namespace CallGraph

namespace ClassFile

open Decoder

/-- A bootstrap method as a file gives it, by indices into the constant pool. -/
structure BootstrapRecord where
  /-- The method handle that links a call site. -/
  methodIndex : UInt16
  /-- The arguments that it is handed. -/
  argumentIndices : List UInt16
  deriving DecidableEq, Repr

/-- What is kept of an attribute. -/
inductive Attribute where
  | code (bytes : Bytes)
  | bootstrapMethods (records : List BootstrapRecord)
  | other
  deriving DecidableEq, Repr

/-- The name of an attribute. -/
def attributeName (pool : ConstantPool) (index : UInt16) : Decoder String :=
  match pool[index.toNat]? with
  | none => refuse (.nameOutsidePool index)
  | some (.utf8 value) => pure value
  | some found => refuse (.nameNotText found)

/-- Passes over a table whose entries are numbers of the given widths. -/
def skipTable (widths : List Nat) : Decoder Attribute := do
  let _ ← table (skip widths)
  return .other

/-- Passes over numbers of the given widths. -/
def skipFields (widths : List Nat) : Decoder Attribute := do
  skip widths
  return .other

/-- A bootstrap method. -/
def bootstrapRecord : Decoder BootstrapRecord := do
  let methodIndex ← u2
  let argumentIndices ← table u2
  return ⟨methodIndex, argumentIndices⟩

/-- The body of an attribute, by its name and its stated length, given how to read the
attributes in it. -/
def attributeBody (nested : Decoder (List Attribute)) (name : String) (length : Nat) :
    Decoder Attribute :=
  match name with
  | "Code" => do
      skip [2, 2]
      let code ← block (← u4).toNat
      let _ ← table (skip [2, 2, 2, 2])
      let _ ← nested
      return .code code
  | "BootstrapMethods" => do
      return .bootstrapMethods (← table bootstrapRecord)
  | "ConstantValue" | "SourceFile" | "Signature" | "NestHost" => skipFields [2]
  | "EnclosingMethod" => skipFields [2, 2]
  | "Synthetic" | "Deprecated" => return .other
  | "Exceptions" | "NestMembers" | "PermittedSubclasses" => skipTable [2]
  | "LineNumberTable" => skipTable [2, 2]
  | "LocalVariableTable" | "LocalVariableTypeTable" => skipTable [2, 2, 2, 2, 2]
  | "InnerClasses" => skipTable [2, 2, 2, 2]
  | "MethodParameters" => do
      let _ ← times (skip [2, 2]) (← u1).toNat
      return .other
  | "RuntimeVisibleAnnotations" => do
      require length
      let _ ← table annotation
      return .other
  | "RuntimeInvisibleAnnotations" => do
      let _ ← table annotation
      return .other
  | "RuntimeVisibleParameterAnnotations" => do
      let _ ← times (table annotation) (← u1).toNat
      return .other
  | "RuntimeVisibleTypeAnnotations" => do
      let _ ← table typeAnnotation
      return .other
  | "AnnotationDefault" => do
      require length
      elementValue
      return .other
  | "StackMapTable" => do
      let _ ← table stackMapFrame
      return .other
  | "Record" => do
      let _ ← table do
        skip [2, 2]
        nested
      return .other
  | _ => refuse (.attributeName name)

/-- An attribute, given how to read the attributes in it. -/
def attributeWith (nested : Decoder (List Attribute)) (pool : ConstantPool) :
    Decoder Attribute := do
  let name ← attributeName pool (← u2)
  let length ← u4
  attributeBody nested name length.toNat

/-- A table of attributes with at most `depth` levels. -/
def attributesAt (pool : ConstantPool) : (depth : Nat) → Decoder (List Attribute)
  | 0 => refuse .nestedTooDeep
  | depth + 1 => table (attributeWith (attributesAt pool depth) pool)

/-- A table of attributes.  Each level takes a byte, so the number of bytes left bounds the
depth. -/
def attributeTable (pool : ConstantPool) : Decoder (List Attribute) := do
  attributesAt pool ((← remaining) + 1)

/-- The code of a method, among its attributes. -/
def firstCode? (attributes : List Attribute) : Option Bytes :=
  attributes.findSome? fun
    | .code bytes => some bytes
    | _ => none

/-- The bootstrap methods of a class, among its attributes. -/
def firstBootstrapMethods? (attributes : List Attribute) : Option (List BootstrapRecord) :=
  attributes.findSome? fun
    | .bootstrapMethods records => some records
    | _ => none

end ClassFile

end CallGraph
