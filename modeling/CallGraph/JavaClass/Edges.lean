import CallGraph.IdentifierFilter
import CallGraph.JavaClass

/-!
# The edges of a class

A class has one edge per class constant, per static call and per method that a bootstrap method
hands over to a dynamic call.  A filter decides by the class at the far end of an edge whether the
edge is kept.
-/

namespace CallGraph

/-- The signature of a method that is called. -/
def CallSite.callee (site : CallSite) : MethodSignature :=
  ⟨site.owner, site.name, site.argumentTypes⟩

/-- The signature of a method that is handed over. -/
def MethodHandle.callee (handle : MethodHandle) : MethodSignature :=
  ⟨handle.owner, handle.name, handle.argumentTypes⟩

/-- The call site of an instruction, if it calls a method. -/
def Instruction.site? (instruction : Instruction) : Option CallSite :=
  match instruction.operation with
  | .invoke site => some site
  | .other => none

/-- The call sites of a method, in order.  A method without a body has none. -/
def Method.sites (method : Method) : List CallSite :=
  if method.hasBody then method.instructions.filterMap (·.site?) else []

/-- The call that a site states by itself. -/
def CallSite.staticCall? (filter : IdentifierFilter) (caller : MethodSignature)
    (site : CallSite) : Option MethodCall :=
  if filter.accepts site.owner then some ⟨caller, site.dispatch, site.callee⟩ else none

/-- The call of a method that is handed over. -/
def MethodHandle.linkedCall? (filter : IdentifierFilter) (caller : MethodSignature)
    (handle : MethodHandle) : Option MethodCall :=
  if filter.accepts handle.owner then some ⟨caller, .dynamic, handle.callee⟩ else none

/-- The method handles for a site: those of its bootstrap method, if that exists. -/
def CallSite.handles (bootstrapMethods : List BootstrapMethod) (site : CallSite) :
    List MethodHandle :=
  ((site.bootstrapIndex.bind fun index => bootstrapMethods[index.toNat]?).map
    BootstrapMethod.handles).getD []

/-- The static calls of a method, in the order of its instructions. -/
def Method.staticCalls (method : Method) (filter : IdentifierFilter) (caller : MethodSignature) :
    List MethodCall :=
  method.sites.filterMap (CallSite.staticCall? filter caller)

namespace JavaClass

/-- The signature of a method as a caller. -/
def caller (javaClass : JavaClass) (method : Method) : MethodSignature :=
  ⟨javaClass.name, method.name, method.argumentTypes⟩

/-- The calls that bootstrap methods make of the dynamic call sites of a method. -/
def linkedCalls (javaClass : JavaClass) (filter : IdentifierFilter) (method : Method) :
    List MethodCall :=
  method.sites.flatMap fun site =>
    (site.handles javaClass.bootstrapMethods).filterMap
      (MethodHandle.linkedCall? filter (javaClass.caller method))

/-- What is reported about an instruction whose bootstrap method does not exist. -/
def linkEvent? (javaClass : JavaClass) (method : Method) (instruction : Instruction) :
    Option Event := do
  let site ← instruction.site?
  let index ← site.bootstrapIndex
  if index.toNat < javaClass.bootstrapMethods.length then none
  else some (.bootstrapMissing javaClass.name method.name instruction.offset index)

/-- What is reported about the dynamic call sites of a method. -/
def linkEvents (javaClass : JavaClass) (method : Method) : List Event :=
  if method.hasBody then method.instructions.filterMap (javaClass.linkEvent? method) else []

/-- The class that a slot of the constant pool names, if a filter accepts it. -/
def slotReference? (javaClass : JavaClass) (filter : IdentifierFilter) :
    PoolSlot → Option ClassReference
  | .classRef name => if filter.accepts name then some ⟨javaClass.name, name⟩ else none
  | .empty => none
  | .other => none

/-- The class references of a class, in the order of the constant pool. -/
def classReferences (javaClass : JavaClass) (filter : IdentifierFilter) : List ClassReference :=
  javaClass.pool.filterMap (javaClass.slotReference? filter)

/-- The calls of a method: those through bootstrap methods, then the static ones. -/
def callsOf (javaClass : JavaClass) (filter : IdentifierFilter) (method : Method) :
    List MethodCall :=
  javaClass.linkedCalls filter method ++ method.staticCalls filter (javaClass.caller method)

/-- The method calls of a class, in the order of its methods. -/
def methodCalls (javaClass : JavaClass) (filter : IdentifierFilter) : List MethodCall :=
  javaClass.methods.flatMap (javaClass.callsOf filter)

/-- What is reported while the calls of a class are collected. -/
def events (javaClass : JavaClass) : List Event :=
  javaClass.methods.flatMap javaClass.linkEvents

end JavaClass

end CallGraph
