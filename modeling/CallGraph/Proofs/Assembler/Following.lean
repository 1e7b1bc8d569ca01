import CallGraph.Assembler
import CallGraph.ClassFile.Attribute
import CallGraph.Proofs.Assembler.Pool
import Mathlib.Data.List.Forall2

/-!
# Following directives

Directives that are followed one after the other only add to a class under construction.  Every
answer stands for what was asked for in every class that goes on from there, and the methods and
bootstrap methods are those that were asked for, in order.
-/

namespace CallGraph

namespace Assembler

open ClassFile
open PoolBuilder (Short Grows grows_pure grows_intern grows_utf8 grows_classInfo
  grows_duplicateClass grows_nameAndType grows_member grows_invokeDynamic)

/-- A method that is asked for. -/
structure MethodRequest where
  access : UInt16
  name : String
  descriptor : String
  code : Option Bytes
  deriving DecidableEq, Repr

/-- The method that a directive asks for, if it asks for one. -/
def Directive.methodRequest? : Directive → Option MethodRequest
  | .method access name descriptor code => some ⟨access, name, descriptor, code⟩
  | _ => none

/-- The bootstrap method that a directive asks for, if it asks for one. -/
def Directive.bootstrapRequest? : Directive → Option AssembledBootstrap
  | .bootstrapMethod handleIndex arguments => some ⟨handleIndex, arguments⟩
  | _ => none

/-- The methods that directives ask for, in order. -/
def methodRequests (directives : List Directive) : List MethodRequest :=
  directives.filterMap Directive.methodRequest?

/-- The bootstrap methods that directives ask for, in order. -/
def bootstrapRequests (directives : List Directive) : List AssembledBootstrap :=
  directives.filterMap Directive.bootstrapRequest?

/-- The texts of a directive are short, and what it counts can be counted in the fields of a
class file. -/
def Directive.Fits : Directive → Prop
  | .utf8 value => Short value
  | .classInfo name => Short name
  | .duplicateClass name => Short name
  | .long _ => True
  | .nameAndType name descriptor => Short name ∧ Short descriptor
  | .methodRef owner name descriptor => Short owner ∧ Short name ∧ Short descriptor
  | .interfaceMethodRef owner name descriptor => Short owner ∧ Short name ∧ Short descriptor
  | .methodHandle _ _ => True
  | .invokeDynamic _ name descriptor => Short name ∧ Short descriptor
  | .bootstrapMethod _ arguments => arguments.length < 0x10000
  | .method _ name descriptor code =>
      Short name ∧ Short descriptor ∧ ∀ bytes, code = some bytes → bytes.length < 0x100000000

/-- The texts of a directive. -/
def Directive.texts : Directive → List String
  | .utf8 value => [value]
  | .classInfo name => [name]
  | .duplicateClass name => [name]
  | .long _ => []
  | .nameAndType name descriptor => [name, descriptor]
  | .methodRef owner name descriptor => [owner, name, descriptor]
  | .interfaceMethodRef owner name descriptor => [owner, name, descriptor]
  | .methodHandle _ _ => []
  | .invokeDynamic _ name descriptor => [name, descriptor]
  | .bootstrapMethod _ _ => []
  | .method _ name descriptor _ => [name, descriptor]

/-- The texts of a directive are short. -/
def Directive.IsShort (directive : Directive) : Prop :=
  ∀ text ∈ directive.texts, Short text

theorem Directive.Fits.isShort {directive : Directive} (fits : directive.Fits) :
    directive.IsShort := by
  cases directive <;> simp_all [Fits, IsShort, texts]

/-- The constant that a directive asks the pool for, if it asks for one. -/
def Directive.request? : Directive → Option (StateM PoolBuilder UInt16)
  | .utf8 value => some (PoolBuilder.utf8 value)
  | .classInfo name => some (PoolBuilder.classInfo name)
  | .duplicateClass name => some (PoolBuilder.duplicateClass name)
  | .long value => some (PoolBuilder.long value)
  | .nameAndType name descriptor => some (PoolBuilder.nameAndType name descriptor)
  | .methodRef owner name descriptor => some (PoolBuilder.methodRef owner name descriptor)
  | .interfaceMethodRef owner name descriptor =>
      some (PoolBuilder.interfaceMethodRef owner name descriptor)
  | .methodHandle kind referenceIndex => some (PoolBuilder.methodHandle kind referenceIndex)
  | .invokeDynamic bootstrapIndex name descriptor =>
      some (PoolBuilder.invokeDynamic bootstrapIndex name descriptor)
  | .bootstrapMethod _ _ => none
  | .method _ _ _ _ => none

/-- The bootstrap method as it is read back. -/
def AssembledBootstrap.record (bootstrap : AssembledBootstrap) : BootstrapRecord :=
  ⟨bootstrap.handleIndex, bootstrap.arguments⟩

/-- The answer of a directive stands for what was asked for, in a class of the given constants and
bootstrap methods. -/
inductive Denotes (table : ConstantPool) (bootstraps : List AssembledBootstrap) :
    Directive → Option UInt16 → Prop where
  | utf8 {value : String} {index : UInt16} (text : IsText table index value) :
      Denotes table bootstraps (.utf8 value) (some index)
  | classInfo {name : String} {index : UInt16} (named : IsClass table index name) :
      Denotes table bootstraps (.classInfo name) (some index)
  | duplicateClass {name : String} {index : UInt16} (named : IsClass table index name) :
      Denotes table bootstraps (.duplicateClass name) (some index)
  | long {value : Int64} {index : UInt16} (found : table[index.toNat]? = some (.long value)) :
      Denotes table bootstraps (.long value) (some index)
  | nameAndType {name descriptor : String} {index : UInt16}
      (member : IsNameAndType table index name descriptor) :
      Denotes table bootstraps (.nameAndType name descriptor) (some index)
  | methodRef {owner name descriptor : String} {index classIndex nameAndTypeIndex : UInt16}
      (found : table[index.toNat]? = some (.methodRef classIndex nameAndTypeIndex))
      (member : IsMember table classIndex nameAndTypeIndex ⟨owner, name, descriptor⟩) :
      Denotes table bootstraps (.methodRef owner name descriptor) (some index)
  | interfaceMethodRef {owner name descriptor : String}
      {index classIndex nameAndTypeIndex : UInt16}
      (found : table[index.toNat]? = some (.interfaceMethodRef classIndex nameAndTypeIndex))
      (member : IsMember table classIndex nameAndTypeIndex ⟨owner, name, descriptor⟩) :
      Denotes table bootstraps (.interfaceMethodRef owner name descriptor) (some index)
  | methodHandle {kind : UInt8} {referenceIndex index : UInt16}
      (found : table[index.toNat]? = some (.methodHandle kind referenceIndex)) :
      Denotes table bootstraps (.methodHandle kind referenceIndex) (some index)
  | invokeDynamic {bootstrapIndex : UInt16} {name descriptor : String} {index : UInt16}
      (site : IsCallSite table index ⟨bootstrapIndex, name, descriptor⟩) :
      Denotes table bootstraps (.invokeDynamic bootstrapIndex name descriptor) (some index)
  | bootstrapMethod {handleIndex : UInt16} {arguments : List UInt16} {index : UInt16}
      (found : bootstraps[index.toNat]? = some ⟨handleIndex, arguments⟩) :
      Denotes table bootstraps (.bootstrapMethod handleIndex arguments) (some index)
  | method {access : UInt16} {name descriptor : String} {code : Option Bytes} :
      Denotes table bootstraps (.method access name descriptor code) none

/-- An assembled method is the one that was asked for, in a class of the given constants. -/
structure Assembles (table : ConstantPool) (request : MethodRequest) (method : AssembledMethod) :
    Prop where
  access_eq : method.access = request.access
  name : IsText table method.nameIndex request.name
  descriptor : IsText table method.descriptorIndex request.descriptor
  code_eq : method.code.map AssembledCode.code = request.code
  labelled : ∀ code, method.code = some code → IsText table code.attributeName "Code"

/-- A constant that a directive asks for is added, and the answer stands for it. -/
theorem grows_request {directive : Directive} (short : directive.IsShort)
    {action : StateM PoolBuilder UInt16} (asked : directive.request? = some action) :
    Grows action fun table index =>
      ∀ bootstraps, Denotes table bootstraps directive (some index) := by
  cases directive with
  | utf8 value =>
      cases asked
      have shortValue : Short value := List.forall_mem_singleton.mp short
      exact (grows_utf8 shortValue).mono fun _ _ text _ => .utf8 text
  | classInfo name =>
      cases asked
      have shortName : Short name := List.forall_mem_singleton.mp short
      exact (grows_classInfo shortName).mono fun _ _ named _ => .classInfo named
  | duplicateClass name =>
      cases asked
      have shortName : Short name := List.forall_mem_singleton.mp short
      exact (grows_duplicateClass shortName).mono fun _ _ named _ => .duplicateClass named
  | long value =>
      cases asked
      exact (grows_intern (.long value) trivial).mono fun _ _ found _ => .long found
  | nameAndType name descriptor =>
      cases asked
      obtain ⟨shortName, shortDescriptor⟩ : Short name ∧ Short descriptor := by
        simpa [Directive.IsShort, Directive.texts] using short
      exact (grows_nameAndType shortName shortDescriptor).mono
        fun _ _ member _ => .nameAndType member
  | methodRef owner name descriptor =>
      cases asked
      obtain ⟨shortOwner, shortName, shortDescriptor⟩ :
          Short owner ∧ Short name ∧ Short descriptor := by
        simpa [Directive.IsShort, Directive.texts] using short
      exact (grows_member ⟨owner, name, descriptor⟩ .methodRef (fun _ _ => trivial)
        shortOwner shortName shortDescriptor).mono
          fun _ _ ⟨_, _, found, member⟩ _ => .methodRef found member
  | interfaceMethodRef owner name descriptor =>
      cases asked
      obtain ⟨shortOwner, shortName, shortDescriptor⟩ :
          Short owner ∧ Short name ∧ Short descriptor := by
        simpa [Directive.IsShort, Directive.texts] using short
      exact (grows_member ⟨owner, name, descriptor⟩ .interfaceMethodRef (fun _ _ => trivial)
        shortOwner shortName shortDescriptor).mono
          fun _ _ ⟨_, _, found, member⟩ _ => .interfaceMethodRef found member
  | methodHandle kind referenceIndex =>
      cases asked
      exact (grows_intern (.methodHandle kind referenceIndex) trivial).mono
        fun _ _ found _ => .methodHandle found
  | invokeDynamic bootstrapIndex name descriptor =>
      cases asked
      obtain ⟨shortName, shortDescriptor⟩ : Short name ∧ Short descriptor := by
        simpa [Directive.IsShort, Directive.texts] using short
      exact (grows_invokeDynamic ⟨bootstrapIndex, name, descriptor⟩ shortName
        shortDescriptor).mono fun _ _ site _ => .invokeDynamic site
  | bootstrapMethod handleIndex arguments => contradiction
  | method access name descriptor code => contradiction

theorem grows_methodOf (access : UInt16) {name descriptor : String} (code : Option Bytes)
    (shortName : Short name) (shortDescriptor : Short descriptor) :
    Grows (Builder.methodOf access name descriptor code) fun table method =>
      Assembles table ⟨access, name, descriptor, code⟩ method := by
  cases code with
  | none =>
      refine ((grows_utf8 shortName).bind fun nameIndex =>
        (grows_utf8 shortDescriptor).bind fun descriptorIndex =>
          grows_pure (AssembledMethod.mk access nameIndex descriptorIndex none)).mono ?_
      rintro table _ ⟨nameIndex, nameText, descriptorIndex, descriptorText, rfl⟩
      exact ⟨rfl, nameText, descriptorText, rfl, nofun⟩
  | some bytes =>
      have shortLabel : Short "Code" := by decide
      refine ((grows_utf8 shortName).bind fun nameIndex =>
        (grows_utf8 shortDescriptor).bind fun descriptorIndex =>
          (grows_utf8 shortLabel).bind fun label => grows_pure
            (AssembledMethod.mk access nameIndex descriptorIndex (some ⟨label, bytes⟩))).mono ?_
      rintro table _ ⟨nameIndex, nameText, descriptorIndex, descriptorText, label, labelText, rfl⟩
      refine ⟨rfl, nameText, descriptorText, rfl, ?_⟩
      rintro _ ⟨⟩
      exact labelText

/-! ## Steps -/

namespace Builder

/-- The methods that are added are those of the requests. -/
def Adds (requests : List MethodRequest) (before after : Builder) : Prop :=
  ∃ added, after.methods = before.methods ++ added ∧
    ∀ table, after.pool.Within table → List.Forall₂ (Assembles table) requests added

/-- What directives do to a class under construction, and what they answer. -/
structure Step (before : Builder) (directives : List Directive) (answers : List (Option UInt16))
    (after : Builder) : Prop where
  wellFormed : after.pool.WellFormed
  continues : before.pool.Continues after.pool
  thisClass_eq : after.thisClass = before.thisClass
  superClass_eq : after.superClass = before.superClass
  methods : Adds (methodRequests directives) before after
  bootstraps_eq : after.bootstrapMethods = before.bootstrapMethods ++ bootstrapRequests directives
  /-- An answer keeps its meaning when more bootstrap methods are added later. -/
  answers : ∀ table bootstraps, after.pool.Within table →
    after.bootstrapMethods <+: bootstraps → bootstraps.length ≤ 0x10000 →
    List.Forall₂ (Denotes table bootstraps) directives answers

theorem Step.refl {builder : Builder} (wellFormed : builder.pool.WellFormed) :
    Step builder [] [] builder where
  wellFormed := wellFormed
  continues := .refl builder.pool
  thisClass_eq := rfl
  superClass_eq := rfl
  methods := ⟨[], (List.append_nil _).symm, fun _ _ => .nil⟩
  bootstraps_eq := (List.append_nil _).symm
  answers := fun _ _ _ _ _ => .nil

theorem Step.cons {first middle last : Builder} {directive : Directive}
    {directives : List Directive} {answer : Option UInt16} {answers : List (Option UInt16)}
    (one : Step first [directive] [answer] middle) (rest : Step middle directives answers last) :
    Step first (directive :: directives) (answer :: answers) last := by
  have requests_eq : methodRequests (directive :: directives) =
      methodRequests [directive] ++ methodRequests directives :=
    (@List.filterMap_append _ _ [directive] directives _)
  have bootstraps_eq : bootstrapRequests (directive :: directives) =
      bootstrapRequests [directive] ++ bootstrapRequests directives :=
    (@List.filterMap_append _ _ [directive] directives _)
  obtain ⟨added, methods_eq, assembles⟩ := one.methods
  obtain ⟨later, laterMethods_eq, laterAssembles⟩ := rest.methods
  refine ⟨rest.wellFormed, one.continues.trans rest.continues,
    rest.thisClass_eq.trans one.thisClass_eq, rest.superClass_eq.trans one.superClass_eq,
    ⟨added ++ later, ?_, ?_⟩, ?_, ?_⟩
  · rw [laterMethods_eq, methods_eq, List.append_assoc]
  · intro table within
    rw [requests_eq]
    exact List.rel_append (assembles table (rest.continues.within within))
      (laterAssembles table within)
  · rw [rest.bootstraps_eq, one.bootstraps_eq, bootstraps_eq, List.append_assoc]
  · intro table bootstraps within included counted
    have earlier : middle.bootstrapMethods <+: bootstraps :=
      List.IsPrefix.trans ⟨_, rest.bootstraps_eq.symm⟩ included
    obtain ⟨denotes, -⟩ := List.forall₂_cons.mp
      (one.answers table bootstraps (rest.continues.within within) earlier counted)
    exact .cons denotes (rest.answers table bootstraps within included counted)

/-- Adds constants to the pool and answers with an index. -/
def answering (action : StateM PoolBuilder UInt16) : StateM Builder (Option UInt16) :=
  some <$> onPool action

/-- A constant that is asked for is added to the pool, and nothing else changes. -/
theorem step_answering {builder : Builder} {directive : Directive}
    (action : StateM PoolBuilder UInt16) {means : ConstantPool → UInt16 → Prop}
    (wellFormed : builder.pool.WellFormed) (grows : Grows action means)
    (noMethod : directive.methodRequest? = none) (noBootstrap : directive.bootstrapRequest? = none)
    (denotes : ∀ table bootstraps index, means table index →
      Denotes table bootstraps directive (some index)) :
    Step builder [directive] [(answering action builder).1] (answering action builder).2 := by
  obtain ⟨after, continues, holds⟩ := grows builder.pool wellFormed
  have noRequests : methodRequests [directive] = [] := by simp [methodRequests, noMethod]
  have noBootstraps : bootstrapRequests [directive] = [] := by
    simp [bootstrapRequests, noBootstrap]
  refine ⟨after, continues, rfl, rfl, ⟨[], (List.append_nil _).symm, ?_⟩, ?_, ?_⟩
  · intro table within
    rw [noRequests]
    exact .nil
  · rw [noBootstraps]
    exact (List.append_nil _).symm
  · intro table bootstraps within _ _
    exact .cons (denotes table bootstraps _ (holds table within)) .nil

theorem step_bootstrapMethod {builder : Builder} (wellFormed : builder.pool.WellFormed)
    (handleIndex : UInt16) (arguments : List UInt16) :
    Step builder [.bootstrapMethod handleIndex arguments]
      [some (bootstrapMethod handleIndex arguments builder).1]
      (bootstrapMethod handleIndex arguments builder).2 := by
  refine ⟨wellFormed, .refl builder.pool, rfl, rfl, ⟨[], (List.append_nil _).symm, ?_⟩, rfl, ?_⟩
  · exact fun _ _ => .nil
  · intro table bootstraps _ included counted
    obtain ⟨later, rfl⟩ := included
    refine .cons (.bootstrapMethod ?_) .nil
    have inside : builder.bootstrapMethods.length < 0x10000 := by
      simp only [bootstrapMethod, List.length_append, List.length_singleton] at counted
      omega
    have index_eq : (UInt16.ofNat builder.bootstrapMethods.length).toNat =
        builder.bootstrapMethods.length := UInt16.toNat_ofNat_of_lt' inside
    simp [bootstrapMethod, index_eq]

theorem step_method {builder : Builder} (wellFormed : builder.pool.WellFormed) {access : UInt16}
    {name descriptor : String} {code : Option Bytes} (shortName : Short name)
    (shortDescriptor : Short descriptor) :
    Step builder [.method access name descriptor code] [none]
      (method access name descriptor code builder).2 := by
  obtain ⟨after, continues, holds⟩ :=
    grows_methodOf access code shortName shortDescriptor builder.pool wellFormed
  refine ⟨after, continues, rfl, rfl, ⟨_, rfl, ?_⟩, (List.append_nil _).symm, ?_⟩
  · intro table within
    exact .cons (holds table within) .nil
  · exact fun _ _ _ _ _ => .cons .method .nil

/-- A directive that asks for a constant adds it to the pool and answers with its index. -/
theorem follow_of_request {directive : Directive} {action : StateM PoolBuilder UInt16}
    (asked : directive.request? = some action) : follow directive = answering action := by
  cases directive <;> cases asked <;> rfl

theorem step_follow {builder : Builder} (wellFormed : builder.pool.WellFormed)
    {directive : Directive} (short : directive.IsShort) :
    Step builder [directive] [(follow directive builder).1] (follow directive builder).2 := by
  cases directive with
  | bootstrapMethod handleIndex arguments =>
      exact step_bootstrapMethod wellFormed handleIndex arguments
  | method access name descriptor code =>
      obtain ⟨shortName, shortDescriptor⟩ : Short name ∧ Short descriptor := by
        simpa [Directive.IsShort, Directive.texts] using short
      exact step_method wellFormed shortName shortDescriptor
  | _ =>
      rw [follow_of_request rfl]
      exact step_answering _ wellFormed (grows_request short rfl) rfl rfl
        fun _ bootstraps _ denotes => denotes bootstraps

theorem followAll_cons (directive : Directive) (directives : List Directive) (builder : Builder) :
    followAll (directive :: directives) builder =
      ((follow directive builder).1 :: (followAll directives (follow directive builder).2).1,
        (followAll directives (follow directive builder).2).2) := by
  rw [followAll, List.mapM_cons]
  rfl

/-- Directives whose texts are short do what was asked for, one after the other. -/
theorem step_followAll {builder : Builder} (wellFormed : builder.pool.WellFormed)
    {directives : List Directive} (short : ∀ directive ∈ directives, directive.IsShort) :
    Step builder directives (followAll directives builder).1
      (followAll directives builder).2 := by
  induction directives generalizing builder with
  | nil => exact .refl wellFormed
  | cons directive directives ih =>
      have one := step_follow wellFormed (short directive List.mem_cons_self)
      have rest := ih one.wellFormed fun other member =>
        short other (List.mem_cons_of_mem directive member)
      rw [followAll_cons]
      exact one.cons rest

end Builder

end Assembler

end CallGraph
