import CallGraph.Bytecode.Walk
import CallGraph.Proofs.Bytes
import CallGraph.Proofs.ClassFile.Resolution

/-!
# What the operand of a call names

The operand of a call is an index into the constant pool.  It names a call site when every entry on
the way from the index is there and the texts at its end are well-formed: a method with an owner
that can be shown, or, for a dynamic call, a bootstrap method with a name and a descriptor.  An
instruction is resolved exactly when its operand names a call site.
-/

namespace CallGraph

namespace Bytecode

open ClassFile (ConstantPool MethodReference DynamicSite IsMethod IsCallSite)

/-- A call of a kind of dispatch names a call site by the index in its operand. -/
inductive IsSite (pool : ConstantPool) (index : UInt16) : Dispatch → CallSite → Prop where
  /-- The site of a method belongs to the class of the method. -/
  | named {dispatch : Dispatch} {method : MethodReference} {owner : String} {type : MethodType}
      (plain : dispatch ≠ .dynamic) (found : IsMethod pool index method)
      (shown : Descriptor.classDisplayName method.owner = .ok owner)
      (typed : Descriptor.methodType method.descriptor = .ok type) :
      IsSite pool index dispatch
        ⟨owner, method.name, type.parameters.map JavaType.sourceForm, dispatch, none⟩
  /-- The site of a dynamic call belongs to the type that the call yields. -/
  | dynamic {target : DynamicSite} {type : MethodType} (found : IsCallSite pool index target)
      (typed : Descriptor.methodType target.descriptor = .ok type) :
      IsSite pool index .dynamic
        ⟨type.result.sourceForm, target.name, type.parameters.map JavaType.sourceForm, .dynamic,
          some target.bootstrapIndex⟩

/-- A call site has the dispatch of the call that names it. -/
theorem IsSite.dispatch_eq {pool : ConstantPool} {index : UInt16} {dispatch : Dispatch}
    {site : CallSite} (names : IsSite pool index dispatch site) : site.dispatch = dispatch := by
  cases names <;> rfl

theorem namedSite_eq_ok_iff {pool : ConstantPool} {offset : Nat} {dispatch : Dispatch}
    {index : UInt16} {site : CallSite} (plain : dispatch ≠ .dynamic) :
    namedSite pool offset dispatch index = .ok site ↔ IsSite pool index dispatch site := by
  constructor
  · intro resolved
    obtain ⟨method, found, rest⟩ := Fallible.of_bind_eq_ok resolved
    obtain ⟨owner, shown, rest⟩ := Fallible.of_bind_eq_ok rest
    obtain ⟨argumentTypes, read, built⟩ := Fallible.of_bind_eq_ok rest
    obtain ⟨type, typed, rfl⟩ := Fallible.map_eq_ok_iff.mp (Fallible.mapError_eq_ok_iff.mp read)
    obtain rfl := Fallible.of_pure_eq_ok built
    exact .named plain (ClassFile.methodAt_eq_ok_iff.mp (Fallible.mapError_eq_ok_iff.mp found))
      (Fallible.mapError_eq_ok_iff.mp shown) typed
  · intro names
    cases names with
    | dynamic => contradiction
    | named _ found shown typed =>
        rw [namedSite, ClassFile.methodAt_eq_ok_iff.mpr found]
        simp only [Fallible.mapError_ok, bind, Except.bind, shown, Descriptor.argumentTypes, typed,
          Except.map]
        rfl

theorem dynamicSite_eq_ok_iff {pool : ConstantPool} {offset : Nat} {index : UInt16}
    {site : CallSite} :
    dynamicSite pool offset index = .ok site ↔ IsSite pool index .dynamic site := by
  constructor
  · intro resolved
    obtain ⟨target, found, rest⟩ := Fallible.of_bind_eq_ok resolved
    obtain ⟨owner, yields, rest⟩ := Fallible.of_bind_eq_ok rest
    obtain ⟨argumentTypes, read, built⟩ := Fallible.of_bind_eq_ok rest
    obtain ⟨type, typed, rfl⟩ := Fallible.map_eq_ok_iff.mp (Fallible.mapError_eq_ok_iff.mp read)
    -- Both source forms come from one reading of the descriptor.
    obtain ⟨type', typed', rfl⟩ := Fallible.map_eq_ok_iff.mp (Fallible.mapError_eq_ok_iff.mp yields)
    obtain rfl : type = type' := Except.ok.inj (typed.symm.trans typed')
    obtain rfl := Fallible.of_pure_eq_ok built
    exact .dynamic (ClassFile.callSiteAt_eq_ok_iff.mp (Fallible.mapError_eq_ok_iff.mp found)) typed
  · intro names
    cases names with
    | named plain => contradiction
    | dynamic found typed =>
        rw [dynamicSite, ClassFile.callSiteAt_eq_ok_iff.mpr found]
        simp only [Fallible.mapError_ok, bind, Except.bind, Descriptor.returnType,
          Descriptor.argumentTypes, typed, Except.map]
        rfl

/-- The site to which the index in the operand of a call leads. -/
def siteOf (pool : ConstantPool) (offset : Nat) (dispatch : Dispatch) (index : UInt16) :
    Except Fault CallSite :=
  match dispatch with
  | .dynamic => dynamicSite pool offset index
  | dispatch => namedSite pool offset dispatch index

theorem siteOf_of_ne_dynamic {pool : ConstantPool} {offset : Nat} {dispatch : Dispatch}
    {index : UInt16} (plain : dispatch ≠ .dynamic) :
    siteOf pool offset dispatch index = namedSite pool offset dispatch index := by
  cases dispatch with
  | dynamic => contradiction
  | _ => rfl

theorem siteOf_eq_ok_iff {pool : ConstantPool} {offset : Nat} {dispatch : Dispatch}
    {index : UInt16} {site : CallSite} :
    siteOf pool offset dispatch index = .ok site ↔ IsSite pool index dispatch site := by
  by_cases plain : dispatch = .dynamic
  · subst plain
    exact dynamicSite_eq_ok_iff
  · rw [siteOf_of_ne_dynamic plain, namedSite_eq_ok_iff plain]

theorem operation_of_dispatch?_eq_none {pool : ConstantPool} {offset : Nat} {opcode : UInt8}
    {operands : Bytes} (plain : dispatch? opcode = none) :
    operation pool offset opcode operands = .ok .other := by
  rw [operation, plain]

/-- An instruction that calls invokes the site to which its operand leads. -/
theorem operation_of_call {pool : ConstantPool} {offset : Nat} {opcode : UInt8}
    {operands : Bytes} {dispatch : Dispatch} {index : UInt16}
    (calls : dispatch? opcode = some dispatch) (read : operandIndex operands = .ok index) :
    operation pool offset opcode operands =
      Operation.invoke <$> siteOf pool offset dispatch index := by
  cases dispatch <;> simp only [operation, calls, read, bind_pure_comp] <;> rfl

theorem operation_eq_ok_iff {pool : ConstantPool} {offset : Nat} {opcode : UInt8}
    {operands : Bytes} {dispatch : Dispatch} {index : UInt16} {result : Operation}
    (calls : dispatch? opcode = some dispatch) (read : operandIndex operands = .ok index) :
    operation pool offset opcode operands = .ok result ↔
      ∃ site, IsSite pool index dispatch site ∧ Operation.invoke site = result := by
  rw [operation_of_call calls read, Fallible.functorMap_eq_ok_iff]
  simp only [siteOf_eq_ok_iff]

/-- An instruction invokes a site if and only if it calls and its operand names the site. -/
theorem operation_eq_invoke_iff {pool : ConstantPool} {offset : Nat} {opcode : UInt8}
    {operands : Bytes} {site : CallSite} :
    operation pool offset opcode operands = .ok (.invoke site) ↔
      ∃ dispatch index, dispatch? opcode = some dispatch ∧ operandIndex operands = .ok index ∧
        IsSite pool index dispatch site := by
  cases calls : dispatch? opcode with
  | none => simp [operation_of_dispatch?_eq_none calls]
  | some dispatch =>
      cases read : operandIndex operands with
      | error fault =>
          have failed : operation pool offset opcode operands = .error fault := by
            cases dispatch <;> simp only [operation, calls, read] <;> rfl
          simp [failed]
      | ok index =>
          simp [operation_eq_ok_iff calls read]

end Bytecode

end CallGraph
