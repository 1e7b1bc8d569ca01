import CallGraph.JavaClass.OfFile
import CallGraph.Proofs.ClassFile.Resolution

/-!
# When a class file is a class

A class file is accepted as a class exactly when its name and the names and descriptors of its
methods are found, and every method that has to have code has code that can be walked.  The
relations below say what is found at an index; the theorems say that reading finds just that.
-/

namespace CallGraph

open ClassFile (ConstantPool IsText IsClass IsMethod)

/-- A well-formed method handle stands at an index. -/
def IsHandle (pool : ConstantPool) (index : UInt16) (handle : MethodHandle) : Prop :=
  ∃ kind referenceIndex method,
    pool[index.toNat]? = some (.methodHandle kind referenceIndex) ∧
      IsMethod pool referenceIndex method ∧
        Descriptor.classDisplayName method.owner = .ok handle.owner ∧
          method.name = handle.name ∧
            Descriptor.argumentTypes method.descriptor = .ok handle.argumentTypes

theorem MethodHandle.ofIndex?_eq_some_iff {pool : ConstantPool} {index : UInt16}
    {handle : MethodHandle} :
    MethodHandle.ofIndex? pool index = some handle ↔ IsHandle pool index handle := by
  rcases handle with ⟨owner, name, argumentTypes⟩
  unfold MethodHandle.ofIndex? IsHandle
  cases found : pool[index.toNat]? with
  | none => simp
  | some constant =>
      cases constant with
      | methodHandle kind referenceIndex =>
          simp only [← ClassFile.methodAt_eq_ok_iff, Option.some.injEq,
            ClassFile.Constant.methodHandle.injEq]
          constructor
          · intro read
            obtain ⟨method, methodFound, read⟩ := Option.bind_eq_some_iff.mp read
            obtain ⟨shown, ownerFound, read⟩ := Option.bind_eq_some_iff.mp read
            obtain ⟨types, typesFound, read⟩ := Option.bind_eq_some_iff.mp read
            cases read
            exact ⟨kind, referenceIndex, method, ⟨rfl, rfl⟩,
              Fallible.toOption_eq_some_iff.mp methodFound,
              Fallible.toOption_eq_some_iff.mp ownerFound, rfl,
              Fallible.toOption_eq_some_iff.mp typesFound⟩
          · rintro ⟨_, _, method, ⟨rfl, rfl⟩, methodFound, ownerFound, rfl, typesFound⟩
            refine Option.bind_eq_some_iff.mpr
              ⟨method, Fallible.toOption_eq_some_iff.mpr methodFound, ?_⟩
            refine Option.bind_eq_some_iff.mpr
              ⟨owner, Fallible.toOption_eq_some_iff.mpr ownerFound, ?_⟩
            exact Option.bind_eq_some_iff.mpr
              ⟨argumentTypes, Fallible.toOption_eq_some_iff.mpr typesFound, rfl⟩
      | _ => simp

theorem PoolSlot.getElem?_ofPool {pool : ConstantPool} {index : Nat} (behind : index ≠ 0) :
    (PoolSlot.ofPool pool)[index]? = pool[index]?.map (PoolSlot.ofConstant pool) := by
  obtain ⟨index, rfl⟩ := Nat.exists_eq_succ_of_ne_zero behind
  rw [← Array.getElem?_toList, PoolSlot.ofPool]
  cases pool.toList with
  | nil => rfl
  | cons first constants => simp

/-- The slot of a constant refers to a class if and only if the constant is a class of that name. -/
theorem PoolSlot.ofConstant_eq_classRef_iff {pool : ConstantPool}
    {constant : ClassFile.Constant} {name : String} :
    PoolSlot.ofConstant pool constant = .classRef name ↔
      ∃ nameIndex internal, constant = .classInfo nameIndex ∧ IsText pool nameIndex internal ∧
        dotted internal = name := by
  cases constant with
  | classInfo nameIndex =>
      simp only [← ClassFile.textAt_eq_ok_iff, PoolSlot.ofConstant]
      cases named : ClassFile.textAt pool nameIndex <;> simp [named]
  | _ => simp [PoolSlot.ofConstant]

/-- The slot of a constant is empty if and only if the constant is a class without a name. -/
theorem PoolSlot.ofConstant_eq_empty_iff {pool : ConstantPool} {constant : ClassFile.Constant} :
    PoolSlot.ofConstant pool constant = .empty ↔
      ∃ nameIndex, constant = .classInfo nameIndex ∧ ∀ text, ¬IsText pool nameIndex text := by
  cases constant with
  | classInfo nameIndex =>
      simp only [← ClassFile.textAt_eq_ok_iff, PoolSlot.ofConstant]
      cases named : ClassFile.textAt pool nameIndex <;> simp [named]
  | _ => simp [PoolSlot.ofConstant]

/-- A slot refers to a class if and only if a class with a name stands there. -/
theorem PoolSlot.classRef_iff {pool : ConstantPool} {index : UInt16} {name : String}
    (behind : index ≠ 0) :
    (PoolSlot.ofPool pool)[index.toNat]? = some (.classRef name) ↔
      ∃ internal, IsClass pool index internal ∧ dotted internal = name := by
  have apart : index.toNat ≠ 0 := fun zero => behind (UInt16.toNat_inj.mp zero)
  rw [PoolSlot.getElem?_ofPool apart, Option.map_eq_some_iff]
  simp only [PoolSlot.ofConstant_eq_classRef_iff]
  constructor
  · rintro ⟨_, found, nameIndex, internal, rfl, named, shown⟩
    exact ⟨internal, ⟨nameIndex, found, named⟩, shown⟩
  · rintro ⟨internal, ⟨nameIndex, found, named⟩, shown⟩
    exact ⟨_, found, nameIndex, internal, rfl, named, shown⟩

/-! ## Methods and classes -/

/-- The instructions of a method that needs code are those of its first code; other methods have
none. -/
def HasBody (pool : ConstantPool) (info : ClassFile.MethodInfo) (instructions : List Instruction) :
    Prop :=
  if info.isAbstract || info.isNative then instructions = []
  else ∃ code, ClassFile.firstCode? info.attributes = some code ∧
    Bytecode.walk pool code = .ok instructions

theorem Method.ofInfo_eq_ok_iff {pool : ConstantPool} {info : ClassFile.MethodInfo}
    {method : Method} :
    Method.ofInfo pool info = .ok method ↔
      IsText pool info.nameIndex method.name ∧
        (∃ descriptor, IsText pool info.descriptorIndex descriptor ∧
          Descriptor.argumentTypes descriptor = .ok method.argumentTypes) ∧
        method.isAbstract = info.isAbstract ∧ method.isNative = info.isNative ∧
        HasBody pool info method.instructions := by
  rcases method with ⟨name, argumentTypes, isAbstract, isNative, instructions⟩
  unfold Method.ofInfo HasBody
  simp only [Fallible.bind_eq_ok_iff, Fallible.mapError_eq_ok_iff, ClassFile.textAt_eq_ok_iff]
  by_cases bodiless : (info.isAbstract || info.isNative) = true
  · simp only [if_pos bodiless, Fallible.pure_eq_ok_iff, Method.mk.injEq]
    constructor
    · rintro ⟨_, named, descriptor, typed, _, parsed, rfl, rfl, rfl, rfl, rfl⟩
      exact ⟨named, ⟨descriptor, typed, parsed⟩, rfl, rfl, rfl⟩
    · rintro ⟨named, ⟨descriptor, typed, parsed⟩, rfl, rfl, rfl⟩
      exact ⟨_, named, descriptor, typed, _, parsed, rfl, rfl, rfl, rfl, rfl⟩
  · have plain : info.isAbstract = false ∧ info.isNative = false := by
      simpa using bodiless
    simp only [if_neg bodiless]
    simp only [plain]
    cases found : ClassFile.firstCode? info.attributes with
    | none => simp
    | some code =>
        simp only [Fallible.bind_eq_ok_iff, Fallible.mapError_eq_ok_iff, Fallible.pure_eq_ok_iff,
          Method.mk.injEq, Option.some.injEq]
        constructor
        · rintro ⟨_, named, descriptor, typed, _, parsed, _, walked, rfl, rfl, rfl, rfl, rfl⟩
          exact ⟨named, ⟨descriptor, typed, parsed⟩, rfl, rfl, code, rfl, walked⟩
        · rintro ⟨named, ⟨descriptor, typed, parsed⟩, rfl, rfl, _, rfl, walked⟩
          exact ⟨_, named, descriptor, typed, _, parsed, _, walked, rfl, rfl, rfl, rfl, rfl⟩

/-- A class file is accepted if and only if its name is found and all its methods are accepted. -/
theorem JavaClass.ofFile_eq_ok_iff {file : ClassFile} {javaClass : JavaClass} :
    JavaClass.ofFile file = .ok javaClass ↔
      ∃ name methods, IsClass file.constantPool file.thisIndex name ∧
        file.methods.map (Method.ofInfo file.constantPool) = methods.map .ok ∧
        javaClass =
          { name := dotted name
            pool := PoolSlot.ofPool file.constantPool
            methods := methods
            bootstrapMethods :=
              ((ClassFile.firstBootstrapMethods? file.attributes).getD []).map
                (BootstrapMethod.ofRecord file.constantPool) } := by
  unfold JavaClass.ofFile
  simp only [Fallible.bind_eq_ok_iff, Fallible.mapError_eq_ok_iff, Fallible.mapM_eq_ok_iff,
    Fallible.pure_eq_ok_iff, ClassFile.classNameAt_eq_ok_iff]
  constructor
  · rintro ⟨name, named, methods, accepted, rfl⟩
    exact ⟨name, methods, named, accepted, rfl⟩
  · rintro ⟨name, methods, named, accepted, rfl⟩
    exact ⟨name, named, methods, accepted, rfl⟩

/-- The slots of a class that was read are those of the constant pool. -/
theorem JavaClass.pool_of_ofFile {file : ClassFile} {javaClass : JavaClass}
    (read : JavaClass.ofFile file = .ok javaClass) :
    javaClass.pool = PoolSlot.ofPool file.constantPool := by
  obtain ⟨_, _, -, -, rfl⟩ := JavaClass.ofFile_eq_ok_iff.mp read
  rfl

/-- A class is read from bytes by way of the class file that they spell. -/
theorem JavaClass.ofBytes_eq_ok_iff {bytes : Bytes} {javaClass : JavaClass} :
    JavaClass.ofBytes bytes = .ok javaClass ↔
      ∃ file, ClassFile.decode bytes = .ok file ∧ JavaClass.ofFile file = .ok javaClass := by
  simp only [JavaClass.ofBytes, Fallible.bind_eq_ok_iff, Fallible.mapError_eq_ok_iff]

/-- A class file that was decoded is never refused for its bytes. -/
theorem JavaClass.ofFile_ne_file (file : ClassFile) (cause : ClassFile.Fault) :
    JavaClass.ofFile file ≠ .error (.file cause) := by
  unfold JavaClass.ofFile
  simp [Fallible.bind_eq_error_iff, pure, Except.pure]

end CallGraph
