import CallGraph.Assembler.Pool
import CallGraph.Bytecode.Length

/-!
# Assembler of class files

A class file is assembled by directives: each adds a constant, a bootstrap method or a method.
The class is public, extends `java/lang/Object` and has no fields and no interfaces.
-/

namespace CallGraph

namespace Assembler

open ClassFile

/-- What can be asked of the assembler. -/
inductive Directive where
  | utf8 (value : String)
  | classInfo (name : String)
  /-- A class constant of its own, even if there is one for the class. -/
  | duplicateClass (name : String)
  | long (value : Int64)
  | nameAndType (name descriptor : String)
  | methodRef (owner name descriptor : String)
  | interfaceMethodRef (owner name descriptor : String)
  | methodHandle (kind : UInt8) (referenceIndex : UInt16)
  | invokeDynamic (bootstrapIndex : UInt16) (name descriptor : String)
  | bootstrapMethod (handleIndex : UInt16) (arguments : List UInt16)
  | method (access : UInt16) (name descriptor : String) (code : Option Bytes)
  deriving DecidableEq, Repr

/-- The code of a method. -/
structure AssembledCode where
  attributeName : UInt16
  code : Bytes
  deriving DecidableEq, Repr

/-- A method, with the indices of its constants. -/
structure AssembledMethod where
  access : UInt16
  nameIndex : UInt16
  descriptorIndex : UInt16
  code : Option AssembledCode
  deriving DecidableEq, Repr

/-- A bootstrap method, with the indices of its constants. -/
structure AssembledBootstrap where
  handleIndex : UInt16
  arguments : List UInt16
  deriving DecidableEq, Repr

/-- A class under construction. -/
structure Builder where
  pool : PoolBuilder
  thisClass : UInt16
  superClass : UInt16
  methods : List AssembledMethod
  bootstrapMethods : List AssembledBootstrap
  deriving DecidableEq, Repr

/-- A number in two bytes. -/
def word (number : Nat) : Bytes :=
  Bytes.ofNatBE 2 number

/-- A number in four bytes. -/
def doubleWord (number : Nat) : Bytes :=
  Bytes.ofNatBE 4 number

/-- An attribute with its name and length. -/
def namedBlock (nameIndex : UInt16) (body : Bytes) : Bytes :=
  word nameIndex.toNat ++ doubleWord body.length ++ body

/-- The most operands and the most local variables of assembled code. -/
def frameLimit : Nat := 16

/-- Code as an attribute, without exception handlers and without attributes of its own. -/
def AssembledCode.encode (code : AssembledCode) : Bytes :=
  namedBlock code.attributeName
    (word frameLimit ++ word frameLimit ++ doubleWord code.code.length ++ code.code ++ word 0 ++
      word 0)

/-- A method as it stands in a file. -/
def AssembledMethod.encode (method : AssembledMethod) : Bytes :=
  word method.access.toNat ++ word method.nameIndex.toNat ++ word method.descriptorIndex.toNat ++
    match method.code with
    | none => word 0
    | some code => word 1 ++ code.encode

/-- A bootstrap method as it stands in a file. -/
def AssembledBootstrap.encode (bootstrap : AssembledBootstrap) : Bytes :=
  word bootstrap.handleIndex.toNat ++ word bootstrap.arguments.length ++
    bootstrap.arguments.flatMap fun argument => word argument.toNat

/-- An instruction that calls a method, with its operand.  Calls of interface methods and dynamic
calls take two more bytes. -/
def invokeInstruction (opcode : UInt8) (index : UInt16) : Bytes :=
  opcode :: word index.toNat ++
    if opcode = Bytecode.Opcode.invokeinterface then [1, 0]
    else if opcode = Bytecode.Opcode.invokedynamic then [0, 0]
    else []

/-! ## From directives to a file -/

namespace Builder

/-- A class with an internal name, as yet without members. -/
def start (name : String) : Builder :=
  let (thisClass, pool) := PoolBuilder.classInfo name .empty
  let (superClass, pool) := PoolBuilder.classInfo "java/lang/Object" pool
  ⟨pool, thisClass, superClass, [], []⟩

/-- Adds constants to the pool. -/
def onPool {α : Type} (action : StateM PoolBuilder α) : StateM Builder α := fun builder =>
  let (result, pool) := action builder.pool
  (result, { builder with pool })

/-- Adds a bootstrap method and gives its index. -/
def bootstrapMethod (handleIndex : UInt16) (arguments : List UInt16) : StateM Builder UInt16 :=
  fun builder =>
    (UInt16.ofNat builder.bootstrapMethods.length,
      { builder with
        bootstrapMethods := builder.bootstrapMethods ++ [⟨handleIndex, arguments⟩] })

/-- The constants of a method, and the method with their indices. -/
def methodOf (access : UInt16) (name descriptor : String) (code : Option Bytes) :
    StateM PoolBuilder AssembledMethod := do
  let nameIndex ← PoolBuilder.utf8 name
  let descriptorIndex ← PoolBuilder.utf8 descriptor
  match code with
  | none => return ⟨access, nameIndex, descriptorIndex, none⟩
  | some code => do
    let attributeName ← PoolBuilder.utf8 "Code"
    return ⟨access, nameIndex, descriptorIndex, some ⟨attributeName, code⟩⟩

/-- Adds a method. -/
def method (access : UInt16) (name descriptor : String) (code : Option Bytes) :
    StateM Builder Unit := do
  let method ← onPool (methodOf access name descriptor code)
  modify fun builder => { builder with methods := builder.methods ++ [method] }

/-- Follows a directive, which gives an index unless it adds a method. -/
def follow : Directive → StateM Builder (Option UInt16)
  | .utf8 value => some <$> onPool (PoolBuilder.utf8 value)
  | .classInfo name => some <$> onPool (PoolBuilder.classInfo name)
  | .duplicateClass name => some <$> onPool (PoolBuilder.duplicateClass name)
  | .long value => some <$> onPool (PoolBuilder.long value)
  | .nameAndType name descriptor => some <$> onPool (PoolBuilder.nameAndType name descriptor)
  | .methodRef owner name descriptor =>
      some <$> onPool (PoolBuilder.methodRef owner name descriptor)
  | .interfaceMethodRef owner name descriptor =>
      some <$> onPool (PoolBuilder.interfaceMethodRef owner name descriptor)
  | .methodHandle kind referenceIndex =>
      some <$> onPool (PoolBuilder.methodHandle kind referenceIndex)
  | .invokeDynamic bootstrapIndex name descriptor =>
      some <$> onPool (PoolBuilder.invokeDynamic bootstrapIndex name descriptor)
  | .bootstrapMethod handleIndex arguments => some <$> bootstrapMethod handleIndex arguments
  | .method access name descriptor code => do
      method access name descriptor code
      return none

/-- Follows directives in order. -/
def followAll (directives : List Directive) : StateM Builder (List (Option UInt16)) :=
  directives.mapM follow

/-- The attributes of the class: the bootstrap methods, if there are any. -/
def attributes (builder : Builder) : Bytes × PoolBuilder :=
  if builder.bootstrapMethods.isEmpty then (word 0, builder.pool)
  else
    let (nameIndex, pool) := PoolBuilder.utf8 "BootstrapMethods" builder.pool
    let table := word builder.bootstrapMethods.length ++
      builder.bootstrapMethods.flatMap AssembledBootstrap.encode
    (word 1 ++ namedBlock nameIndex table, pool)

/-- The access flags of a public class. -/
def classAccess : Nat := 0x0021

/-- The version of the format that is written. -/
def formatVersion : Nat := 52

/-- The class file. -/
def toBytes (builder : Builder) : Bytes :=
  let (attributes, pool) := builder.attributes
  doubleWord 0xcafebabe ++ word 0 ++ word formatVersion ++ word pool.nextIndex.toNat ++
    pool.encode ++ word classAccess ++ word builder.thisClass.toNat ++
    word builder.superClass.toNat ++ word 0 ++ word 0 ++ word builder.methods.length ++
    builder.methods.flatMap AssembledMethod.encode ++ attributes

end Builder

/-- The answers of directives that start from an empty class, and the class file. -/
def assemble (name : String) (directives : List Directive) : List (Option UInt16) × Bytes :=
  let (results, builder) := Builder.followAll directives (.start name)
  (results, builder.toBytes)

/-- The class file of `pkg/A`, whose method `m` calls the method `n` of `pkg/B` and returns. -/
def singleStaticCall : Bytes :=
  let (target, builder) := Builder.onPool (PoolBuilder.methodRef "pkg/B" "n" "()V") (.start "pkg/A")
  let code := invokeInstruction Bytecode.Opcode.invokestatic target ++ [Bytecode.Opcode.return_]
  let (_, builder) := Builder.method 0x0009 "m" "()V" (some code) builder
  builder.toBytes

/-- A method that calls another one, and a dynamic site that the other one is handed to. -/
def linkedCalls : List Directive :=
  [.methodRef "pkg/B" "n" "()V", .methodHandle 6 10, .bootstrapMethod 11 [11], .long (-1),
    .invokeDynamic 0 "run" "()V", .duplicateClass "pkg/B",
    .method 0x0009 "m" "()V" (some [0xb8, 0, 10, 0xba, 0, 16, 0, 0, 0xb1])]

end Assembler

end CallGraph
