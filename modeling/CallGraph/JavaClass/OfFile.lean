import CallGraph.Bytecode.Walk
import CallGraph.ClassFile

/-!
# From class files to classes

A class file is reduced to a class by following every index that a call graph depends on: the
name of the class, the names and descriptors of its methods, and the operands of its calls.  An
index that leads nowhere refuses the whole class.  Two things are read as far as they go: class
constants without a name become empty slots, and arguments of bootstrap methods that are no
well-formed method handles are dropped.
-/

namespace CallGraph

open ClassFile (ConstantPool Dangling)

/-- Why a method of a class file is refused. -/
inductive MethodFault where
  /-- Its name leads nowhere. -/
  | name (cause : Dangling)
  /-- Its descriptor leads nowhere. -/
  | descriptorIndex (cause : Dangling)
  /-- Its descriptor is not well-formed. -/
  | descriptor (cause : Descriptor.Rejection)
  /-- It has no code, and is neither abstract nor native. -/
  | noCode (methodName text : String)
  /-- Its code cannot be walked. -/
  | code (methodName text : String) (cause : Bytecode.Fault)
  deriving DecidableEq, Repr

/-- The account of a refused method, from the outermost line to the cause. -/
def MethodFault.chain : MethodFault → List String
  | name cause => "resolve method name" :: cause.chain
  | descriptorIndex cause => "resolve method descriptor" :: cause.chain
  | descriptor cause => cause.chain
  | noCode methodName text => ["missing Code attribute for " ++ methodName ++ text]
  | code methodName text cause => ("parse bytecode of " ++ methodName ++ text) :: cause.chain

/-- Why bytes are refused as a class. -/
inductive ClassFault where
  /-- They are no class file. -/
  | file (cause : ClassFile.Fault)
  /-- The name of the class leads nowhere. -/
  | name (cause : Dangling)
  /-- A method of the class is refused. -/
  | method (className : String) (cause : MethodFault)
  deriving DecidableEq, Repr

/-- The account of a refused class, from the outermost line to the cause. -/
def ClassFault.chain : ClassFault → List String
  | file cause => ["failed to parse class file bytes", cause.message]
  | name cause => "resolve class name" :: cause.chain
  | method className cause => ("parse methods of " ++ className) :: cause.chain

/-- The slot of a constant. -/
def PoolSlot.ofConstant (pool : ConstantPool) : ClassFile.Constant → PoolSlot
  | .classInfo nameIndex =>
    match ClassFile.textAt pool nameIndex with
    | .ok name => .classRef (dotted name)
    | .error _ => .empty
  | _ => .other

/-- The slots of a constant pool.  The first one is empty whatever it holds. -/
def PoolSlot.ofPool (pool : ConstantPool) : List PoolSlot :=
  match pool.toList with
  | [] => []
  | _ :: constants => .empty :: constants.map (PoolSlot.ofConstant pool)

/-- The method of a class file's method. -/
def Method.ofInfo (pool : ConstantPool) (info : ClassFile.MethodInfo) :
    Except MethodFault Method := do
  let name ← (ClassFile.textAt pool info.nameIndex).mapError .name
  let descriptor ← (ClassFile.textAt pool info.descriptorIndex).mapError .descriptorIndex
  let argumentTypes ← (Descriptor.argumentTypes descriptor).mapError .descriptor
  if info.isAbstract || info.isNative then
    return ⟨name, argumentTypes, info.isAbstract, info.isNative, []⟩
  else
    match ClassFile.firstCode? info.attributes with
    | none => .error (.noCode name descriptor)
    | some code =>
      let instructions ← (Bytecode.walk pool code).mapError (.code name descriptor)
      return ⟨name, argumentTypes, false, false, instructions⟩

/-- The method handle at an index, when the index leads to a well-formed one. -/
def MethodHandle.ofIndex? (pool : ConstantPool) (index : UInt16) : Option MethodHandle :=
  match pool[index.toNat]? with
  | some (.methodHandle _ referenceIndex) => do
      let method ← (ClassFile.methodAt pool referenceIndex).toOption
      let owner ← (Descriptor.classDisplayName method.owner).toOption
      let argumentTypes ← (Descriptor.argumentTypes method.descriptor).toOption
      return ⟨owner, method.name, argumentTypes⟩
  | _ => none

/-- The bootstrap method of a class file's bootstrap method. -/
def BootstrapMethod.ofRecord (pool : ConstantPool) (bootstrap : ClassFile.BootstrapRecord) :
    BootstrapMethod :=
  ⟨bootstrap.argumentIndices.filterMap (MethodHandle.ofIndex? pool)⟩

namespace JavaClass

/-- The class of a class file. -/
def ofFile (file : ClassFile) : Except ClassFault JavaClass := do
  let pool := file.constantPool
  let name ← (ClassFile.classNameAt pool file.thisIndex).mapError .name
  let methods ← (file.methods.mapM (Method.ofInfo pool)).mapError (.method (dotted name))
  let bootstraps := (ClassFile.firstBootstrapMethods? file.attributes).getD []
  return ⟨dotted name, PoolSlot.ofPool pool, methods,
    bootstraps.map (BootstrapMethod.ofRecord pool)⟩

/-- The class that bytes spell. -/
def ofBytes (bytes : Bytes) : Except ClassFault JavaClass := do
  ofFile (← (ClassFile.decode bytes).mapError .file)

end JavaClass

end CallGraph
