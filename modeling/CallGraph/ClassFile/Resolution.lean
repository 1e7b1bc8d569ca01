import CallGraph.ClassFile.Constant

/-!
# Following indices through a constant pool

Constants refer to each other by index.  Following an index either arrives at a constant of the
expected kind or fails, because the index lies outside the pool or arrives at something else.  A
failure remembers what it was looked for as.
-/

namespace CallGraph

namespace ClassFile

/-- What an index is followed for. -/
inductive Wanted where
  | text
  | classConstant
  | method
  | callSite
  | nameAndType
  deriving DecidableEq, Repr

/-- The name of what an index is followed for. -/
def Wanted.noun : Wanted → String
  | text => "utf8 entry"
  | classConstant => "class entry"
  | method => "method ref entry"
  | callSite => "invokedynamic entry"
  | nameAndType => "name and type entry"

/-- The part that a constant plays where it is followed. -/
inductive Part where
  | owner
  | memberName
  | memberDescriptor
  deriving DecidableEq, Repr

/-- The name of a part. -/
def Part.noun : Part → String
  | owner => "owner"
  | memberName => "member name"
  | memberDescriptor => "member descriptor"

/-- Why an index leads nowhere. -/
inductive Dangling where
  /-- The index lies outside the pool. -/
  | missing (wanted : Wanted)
  /-- The index arrives at a constant of another kind. -/
  | unexpected (wanted : Wanted)
  /-- An index failed that was followed for a part. -/
  | within (part : Part) (cause : Dangling)
  deriving DecidableEq, Repr

/-- The account of a failure, from the outermost line to the cause. -/
def Dangling.chain : Dangling → List String
  | missing wanted => ["missing " ++ wanted.noun]
  | unexpected wanted => ["unexpected " ++ wanted.noun]
  | within part cause => ("resolve " ++ part.noun) :: cause.chain

/-- The text at an index. -/
def textAt (pool : ConstantPool) (index : UInt16) : Except Dangling String :=
  match pool[index.toNat]? with
  | none => .error (.missing .text)
  | some (.utf8 value) => .ok value
  | some _ => .error (.unexpected .text)

/-- The internal name of the class at an index. -/
def classNameAt (pool : ConstantPool) (index : UInt16) : Except Dangling String :=
  match pool[index.toNat]? with
  | none => .error (.missing .classConstant)
  | some (.classInfo nameIndex) => textAt pool nameIndex
  | some _ => .error (.unexpected .classConstant)

/-- Name and descriptor at an index. -/
def nameAndTypeAt (pool : ConstantPool) (index : UInt16) : Except Dangling (String × String) :=
  match pool[index.toNat]? with
  | none => .error (.missing .nameAndType)
  | some (.nameAndType nameIndex descriptorIndex) => do
      let name ← (textAt pool nameIndex).mapError (.within .memberName)
      let descriptor ← (textAt pool descriptorIndex).mapError (.within .memberDescriptor)
      return (name, descriptor)
  | some _ => .error (.unexpected .nameAndType)

/-- A method that a constant refers to; names are still internal. -/
structure MethodReference where
  /-- The internal name of the class. -/
  owner : String
  name : String
  descriptor : String
  deriving DecidableEq, Repr

/-- The method at a pair of indices. -/
def memberAt (pool : ConstantPool) (classIndex nameAndTypeIndex : UInt16) :
    Except Dangling MethodReference := do
  let owner ← (classNameAt pool classIndex).mapError (.within .owner)
  let (name, descriptor) ← nameAndTypeAt pool nameAndTypeIndex
  return ⟨owner, name, descriptor⟩

/-- The method at an index, of a class or of an interface. -/
def methodAt (pool : ConstantPool) (index : UInt16) : Except Dangling MethodReference :=
  match pool[index.toNat]? with
  | none => .error (.missing .method)
  | some (.methodRef classIndex nameAndTypeIndex) => memberAt pool classIndex nameAndTypeIndex
  | some (.interfaceMethodRef classIndex nameAndTypeIndex) =>
      memberAt pool classIndex nameAndTypeIndex
  | some _ => .error (.unexpected .method)

/-- A dynamically linked call site. -/
structure DynamicSite where
  bootstrapIndex : UInt16
  name : String
  descriptor : String
  deriving DecidableEq, Repr

/-- The dynamically linked call site at an index. -/
def callSiteAt (pool : ConstantPool) (index : UInt16) : Except Dangling DynamicSite :=
  match pool[index.toNat]? with
  | none => .error (.missing .callSite)
  | some (.invokeDynamic bootstrapIndex nameAndTypeIndex) => do
      let (name, descriptor) ← nameAndTypeAt pool nameAndTypeIndex
      return ⟨bootstrapIndex, name, descriptor⟩
  | some _ => .error (.unexpected .callSite)

end ClassFile

end CallGraph
