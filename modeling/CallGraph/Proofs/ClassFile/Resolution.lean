import CallGraph.ClassFile.Resolution
import CallGraph.Fallible

/-!
# What an index leads to

Following an index arrives at a value exactly when the entries on the way say so.  Each relation
below lists the entries that have to stand in the pool; each theorem says that the function which
follows the index succeeds with a value if and only if the entries are there.
-/

namespace CallGraph

namespace ClassFile

/-- A text stands at an index. -/
def IsText (pool : ConstantPool) (index : UInt16) (text : String) : Prop :=
  pool[index.toNat]? = some (.utf8 text)

/-- A class of an internal name stands at an index. -/
def IsClass (pool : ConstantPool) (index : UInt16) (name : String) : Prop :=
  ∃ nameIndex, pool[index.toNat]? = some (.classInfo nameIndex) ∧ IsText pool nameIndex name

/-- A name with a descriptor stands at an index. -/
def IsNameAndType (pool : ConstantPool) (index : UInt16) (name descriptor : String) : Prop :=
  ∃ nameIndex descriptorIndex,
    pool[index.toNat]? = some (.nameAndType nameIndex descriptorIndex) ∧
      IsText pool nameIndex name ∧ IsText pool descriptorIndex descriptor

/-- A class and a name with a descriptor stand at a pair of indices. -/
def IsMember (pool : ConstantPool) (classIndex nameAndTypeIndex : UInt16)
    (method : MethodReference) : Prop :=
  IsClass pool classIndex method.owner ∧
    IsNameAndType pool nameAndTypeIndex method.name method.descriptor

/-- A method of a class or of an interface stands at an index. -/
def IsMethod (pool : ConstantPool) (index : UInt16) (method : MethodReference) : Prop :=
  ∃ classIndex nameAndTypeIndex,
    (pool[index.toNat]? = some (.methodRef classIndex nameAndTypeIndex) ∨
      pool[index.toNat]? = some (.interfaceMethodRef classIndex nameAndTypeIndex)) ∧
    IsMember pool classIndex nameAndTypeIndex method

/-- A dynamically linked call site stands at an index. -/
def IsCallSite (pool : ConstantPool) (index : UInt16) (site : DynamicSite) : Prop :=
  ∃ nameAndTypeIndex,
    pool[index.toNat]? = some (.invokeDynamic site.bootstrapIndex nameAndTypeIndex) ∧
      IsNameAndType pool nameAndTypeIndex site.name site.descriptor

/-- At most one text stands at an index. -/
theorem IsText.unique {pool : ConstantPool} {index : UInt16} {text other : String}
    (one : IsText pool index text) (two : IsText pool index other) : text = other := by
  have same := one.symm.trans two
  simpa using same

theorem textAt_eq_ok_iff {pool : ConstantPool} {index : UInt16} {text : String} :
    textAt pool index = .ok text ↔ IsText pool index text := by
  unfold textAt IsText
  cases found : pool[index.toNat]? with
  | none => simp
  | some constant => cases constant <;> simp

theorem classNameAt_eq_ok_iff {pool : ConstantPool} {index : UInt16} {name : String} :
    classNameAt pool index = .ok name ↔ IsClass pool index name := by
  unfold classNameAt IsClass
  cases found : pool[index.toNat]? with
  | none => simp
  | some constant => cases constant <;> simp [textAt_eq_ok_iff]

theorem nameAndTypeAt_eq_ok_iff {pool : ConstantPool} {index : UInt16}
    {name descriptor : String} :
    nameAndTypeAt pool index = .ok (name, descriptor) ↔
      IsNameAndType pool index name descriptor := by
  unfold nameAndTypeAt IsNameAndType
  cases found : pool[index.toNat]? with
  | none => simp
  | some constant =>
      cases constant <;> simp [textAt_eq_ok_iff, Fallible.bind_eq_ok_iff, and_assoc]

theorem memberAt_eq_ok_iff {pool : ConstantPool} {classIndex nameAndTypeIndex : UInt16}
    {method : MethodReference} :
    memberAt pool classIndex nameAndTypeIndex = .ok method ↔
      IsMember pool classIndex nameAndTypeIndex method := by
  unfold memberAt IsMember
  constructor
  · intro found
    obtain ⟨owner, ownerFound, rest⟩ := Fallible.of_bind_eq_ok found
    obtain ⟨⟨name, descriptor⟩, restFound, built⟩ := Fallible.of_bind_eq_ok rest
    obtain rfl := Fallible.of_pure_eq_ok built
    exact ⟨classNameAt_eq_ok_iff.mp (Fallible.mapError_eq_ok_iff.mp ownerFound),
      nameAndTypeAt_eq_ok_iff.mp restFound⟩
  · rintro ⟨owner, rest⟩
    rw [classNameAt_eq_ok_iff.mpr owner, nameAndTypeAt_eq_ok_iff.mpr rest]
    rfl

theorem methodAt_eq_ok_iff {pool : ConstantPool} {index : UInt16} {method : MethodReference} :
    methodAt pool index = .ok method ↔ IsMethod pool index method := by
  unfold methodAt IsMethod
  cases found : pool[index.toNat]? with
  | none => simp
  | some constant => cases constant <;> simp [memberAt_eq_ok_iff, and_assoc]

theorem callSiteAt_eq_ok_iff {pool : ConstantPool} {index : UInt16} {site : DynamicSite} :
    callSiteAt pool index = .ok site ↔ IsCallSite pool index site := by
  rcases site with ⟨bootstrapIndex, name, descriptor⟩
  unfold callSiteAt IsCallSite
  cases found : pool[index.toNat]? with
  | none => simp
  | some constant =>
      cases constant with
      | invokeDynamic found nameAndTypeIndex =>
          simp only [bind_pure_comp, Fallible.functorMap_eq_ok_iff, Prod.exists,
            nameAndTypeAt_eq_ok_iff, Option.some.injEq, Constant.invokeDynamic.injEq,
            DynamicSite.mk.injEq]
          constructor
          · rintro ⟨_, _, member, rfl, rfl, rfl⟩
            exact ⟨nameAndTypeIndex, ⟨rfl, rfl⟩, member⟩
          · rintro ⟨_, ⟨rfl, rfl⟩, member⟩
            exact ⟨name, descriptor, member, rfl, rfl, rfl⟩
      | _ => simp

end ClassFile

end CallGraph
