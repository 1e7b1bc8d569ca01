import CallGraph.Edge

/-!
# Classes as a call graph sees them

A class is reduced to its name, the slots of its constant pool that name classes, its methods with
their call sites, and the method handles that its bootstrap methods hand over.  All names are in
the form in which they are shown.
-/

namespace CallGraph

/-- A slot of the constant pool, as far as class references are concerned. -/
inductive PoolSlot where
  /-- The constant names this class. -/
  | classRef (name : String)
  /-- Slot 0, or a class constant without a name. -/
  | empty
  /-- Any other slot. -/
  | other
  deriving DecidableEq, Repr

/-- A call site in the code of a method. -/
structure CallSite where
  /-- The class whose method is called; for a dynamic site, the type that it yields. -/
  owner : String
  name : String
  argumentTypes : List String
  dispatch : Dispatch
  /-- The index of the bootstrap method of a dynamic site. -/
  bootstrapIndex : Option UInt16
  deriving DecidableEq, Repr

/-- What an instruction does, as far as calls are concerned. -/
inductive Operation where
  | invoke (site : CallSite)
  | other
  deriving DecidableEq, Repr

/-- An instruction of a method. -/
structure Instruction where
  offset : Nat
  operation : Operation
  deriving DecidableEq, Repr

/-- A method that a bootstrap method hands over. -/
structure MethodHandle where
  /-- The class of the method. -/
  owner : String
  name : String
  argumentTypes : List String
  deriving DecidableEq, Repr

/-- A bootstrap method, reduced to the method handles among its arguments. -/
structure BootstrapMethod where
  handles : List MethodHandle
  deriving DecidableEq, Repr

/-- A method of a class. -/
structure Method where
  name : String
  argumentTypes : List String
  isAbstract : Bool
  isNative : Bool
  instructions : List Instruction
  deriving DecidableEq, Repr

/-- Abstract and native methods have no code. -/
def Method.hasBody (method : Method) : Bool :=
  !method.isAbstract && !method.isNative

/-- A class as a call graph sees it. -/
structure JavaClass where
  /-- The dotted name. -/
  name : String
  pool : List PoolSlot
  methods : List Method
  bootstrapMethods : List BootstrapMethod
  deriving DecidableEq, Repr

end CallGraph
