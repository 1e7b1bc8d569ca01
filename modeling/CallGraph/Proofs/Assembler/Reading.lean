import CallGraph.Proofs.Assembler.File
import CallGraph.Proofs.JavaClass.OfFile

/-!
# Reading undoes assembling

What directives asked for is what is read from the class file that they leave.  The file is always
decoded, and every answer that a directive gave stands for what the directive asked for.  Whether
the file is accepted as a class depends only on the methods: their descriptors, and their code where
they need any.
-/

namespace CallGraph

namespace Assembler

open ClassFile

/-- The class that directives leave when they start from an empty class. -/
def finished (name : String) (directives : List Directive) : Builder :=
  (Builder.followAll directives (.start name)).2

/-- A name and directives can be assembled if all texts are short, all counts can be written, and
all constants get an index. -/
structure Assemblable (name : String) (directives : List Directive) : Prop where
  short : PoolBuilder.Short name
  fits : ∀ directive ∈ directives, directive.Fits
  methods : (methodRequests directives).length < 0x10000
  bootstraps : (bootstrapRequests directives).length < 0x10000
  indexed : (finished name directives).attributes.2.Fits

namespace MethodRequest

/-- Whether the method is asked for as an abstract one. -/
def isAbstract (request : MethodRequest) : Bool :=
  request.access &&& abstractFlag != 0

/-- Whether the method is asked for as a native one. -/
def isNative (request : MethodRequest) : Bool :=
  request.access &&& nativeFlag != 0

/-- The descriptor of a method is well-formed, and a method that is neither abstract nor native was
given code that can be walked. -/
def Acceptable (table : ConstantPool) (request : MethodRequest) : Prop :=
  (∃ argumentTypes, Descriptor.argumentTypes request.descriptor = .ok argumentTypes) ∧
    (request.isAbstract = false → request.isNative = false →
      ∃ code instructions, request.code = some code ∧ Bytecode.walk table code = .ok instructions)

/-- A method is the one that was asked for.  Its instructions are those of its code, unless it is
abstract or native. -/
structure Reads (table : ConstantPool) (request : MethodRequest) (method : Method) : Prop where
  name_eq : method.name = request.name
  parsed : Descriptor.argumentTypes request.descriptor = .ok method.argumentTypes
  isAbstract_eq : method.isAbstract = request.isAbstract
  isNative_eq : method.isNative = request.isNative
  body : if request.isAbstract || request.isNative then method.instructions = []
    else ∃ code, request.code = some code ∧ Bytecode.walk table code = .ok method.instructions

end MethodRequest

/-- The handles of a bootstrap method are those that its arguments lead to, in order.  Arguments
that lead to none are passed over. -/
def AssembledBootstrap.HandsOver (table : ConstantPool) (request : AssembledBootstrap)
    (bootstrap : BootstrapMethod) : Prop :=
  ∃ found : List (Option MethodHandle),
    List.Forall₂
      (fun index handle? => ∀ handle, handle? = some handle ↔ IsHandle table index handle)
      request.arguments found ∧
    bootstrap.handles = found.filterMap id

/-- A class file holds what directives asked for and have answered. -/
structure Holds (name : String) (directives : List Directive) (answers : List (Option UInt16))
    (file : ClassFile) : Prop where
  named : IsClass file.constantPool file.thisIndex name
  extends_ : IsClass file.constantPool file.superIndex "java/lang/Object"
  hollow : file.constantPool[0]? = some .empty
  denotes : List.Forall₂ (Denotes file.constantPool (bootstrapRequests directives)) directives
    answers
  methods : ∃ assembled, List.Forall₂ (Assembles file.constantPool) (methodRequests directives)
    assembled ∧ file.methods = assembled.map AssembledMethod.info
  bootstraps : (firstBootstrapMethods? file.attributes).getD [] =
    (bootstrapRequests directives).map AssembledBootstrap.record

/-- A class is what directives asked for, under the dotted name, over the given constants. -/
structure Spells (name : String) (directives : List Directive) (table : ConstantPool)
    (javaClass : JavaClass) : Prop where
  name_eq : javaClass.name = dotted name
  /-- Nothing stands in the first slot. -/
  hollow : javaClass.pool[0]? = some .empty
  /-- There is a slot for each constant. -/
  sized : javaClass.pool.length = table.size
  /-- The class references are those of the class constants. -/
  references : ∀ (index : UInt16) (className : String), index ≠ 0 →
    (javaClass.pool[index.toNat]? = some (.classRef className) ↔
      ∃ internal, IsClass table index internal ∧ dotted internal = className)
  methods : List.Forall₂ (MethodRequest.Reads table) (methodRequests directives) javaClass.methods
  bootstraps : List.Forall₂ (AssembledBootstrap.HandsOver table) (bootstrapRequests directives)
    javaClass.bootstrapMethods

/-! ## The finished class -/

theorem start_wellFormed {name : String} (short : PoolBuilder.Short name) :
    (Builder.start name).pool.WellFormed ∧
      ∀ table, (Builder.start name).pool.Within table →
        IsClass table (Builder.start name).thisClass name ∧
          IsClass table (Builder.start name).superClass "java/lang/Object" := by
  have shortSuper : PoolBuilder.Short "java/lang/Object" := by decide
  obtain ⟨afterName, -, named⟩ :=
    PoolBuilder.grows_classInfo short .empty PoolBuilder.wellFormed_empty
  obtain ⟨afterSuper, continues, superNamed⟩ :=
    PoolBuilder.grows_classInfo shortSuper _ afterName
  exact ⟨afterSuper, fun table within =>
    ⟨named table (continues.within within), superNamed table within⟩⟩

/-- The code that directives ask for is as short as the directives say. -/
theorem short_code {directives : List Directive}
    (fits : ∀ directive ∈ directives, directive.Fits) {request : MethodRequest}
    (member : request ∈ methodRequests directives) {bytes : Bytes}
    (given : request.code = some bytes) : bytes.length < 0x100000000 := by
  obtain ⟨directive, asked, request_eq⟩ := List.mem_filterMap.mp member
  have fits := fits directive asked
  cases directive with
  | method access name descriptor code =>
      cases request_eq
      exact fits.2.2 bytes given
  | _ => contradiction

theorem short_arguments {directives : List Directive}
    (fits : ∀ directive ∈ directives, directive.Fits) {request : AssembledBootstrap}
    (member : request ∈ bootstrapRequests directives) : request.arguments.length < 0x10000 := by
  obtain ⟨directive, asked, request_eq⟩ := List.mem_filterMap.mp member
  have fits := fits directive asked
  cases directive with
  | bootstrapMethod handleIndex arguments =>
      cases request_eq
      exact fits
  | _ => contradiction

theorem readable_of_assembles {table : ConstantPool} {requests : List MethodRequest}
    {methods : List AssembledMethod} (assembles : List.Forall₂ (Assembles table) requests methods)
    (short : ∀ request ∈ requests, ∀ bytes, request.code = some bytes →
      bytes.length < 0x100000000) :
    ∀ method ∈ methods, method.Readable table := by
  induction assembles with
  | nil => exact List.forall_mem_nil _
  | cons first rest ih =>
      obtain ⟨shortFirst, shortRest⟩ := List.forall_mem_cons.mp short
      refine List.forall_mem_cons.mpr ⟨?_, ih shortRest⟩
      intro code given
      have asked := first.code_eq
      rw [given] at asked
      exact ⟨first.labelled code given, shortFirst _ asked.symm⟩

namespace Assemblable

variable {name : String} {directives : List Directive}

theorem step (assemblable : Assemblable name directives) :
    Builder.Step (.start name) directives (assemble name directives).1
      (finished name directives) :=
  Builder.step_followAll (start_wellFormed assemblable.short).1 fun directive member =>
    (assemblable.fits directive member).isShort

theorem bootstraps_eq (assemblable : Assemblable name directives) :
    (finished name directives).bootstrapMethods = bootstrapRequests directives :=
  assemblable.step.bootstraps_eq

theorem arguments (assemblable : Assemblable name directives) :
    ∀ bootstrap ∈ (finished name directives).bootstrapMethods,
      bootstrap.arguments.length < 0x10000 := by
  rw [assemblable.bootstraps_eq]
  exact fun _ member => short_arguments assemblable.fits member

/-- The constants that are read back begin with those of the finished class. -/
theorem within (assemblable : Assemblable name directives) :
    (finished name directives).pool.Within (finished name directives).table := by
  have counted := assemblable.bootstraps
  rw [← assemblable.bootstraps_eq] at counted
  obtain ⟨-, continues, -⟩ :=
    Builder.attributes_step assemblable.step.wellFormed counted assemblable.arguments
  exact continues.within ⟨assemblable.indexed, List.prefix_rfl⟩

/-- The methods of the finished class are those that were asked for. -/
theorem assembles (assemblable : Assemblable name directives) :
    List.Forall₂ (Assembles (finished name directives).table) (methodRequests directives)
      (finished name directives).methods := by
  obtain ⟨assembled, methods_eq, assembles⟩ := assemblable.step.methods
  have methods_eq : (finished name directives).methods = assembled := methods_eq
  rw [methods_eq]
  exact assembles _ assemblable.within

theorem writable (assemblable : Assemblable name directives) :
    (finished name directives).Writable where
  wellFormed := assemblable.step.wellFormed
  fits := assemblable.indexed
  methods := by
    rw [← assemblable.assembles.length_eq]
    exact assemblable.methods
  readable := readable_of_assembles assemblable.assembles fun _ member _ =>
    short_code assemblable.fits member
  bootstraps := by
    rw [assemblable.bootstraps_eq]
    exact assemblable.bootstraps
  arguments := assemblable.arguments

end Assemblable

/-- The file of a finished class is decoded, and holds what was asked for. -/
theorem decode_assemble {name : String} {directives : List Directive}
    (assemblable : Assemblable name directives) :
    ∃ file, decode (assemble name directives).2 = .ok file ∧
      Holds name directives (assemble name directives).1 file := by
  have step := assemblable.step
  have startWithin := step.continues.within assemblable.within
  obtain ⟨named, superNamed⟩ := (start_wellFormed assemblable.short).2 _ startWithin
  rw [← step.thisClass_eq] at named
  rw [← step.superClass_eq] at superNamed
  have earlier : (finished name directives).bootstrapMethods <+: bootstrapRequests directives :=
    assemblable.bootstraps_eq ▸ List.prefix_rfl
  have denotes := step.answers _ _ assemblable.within earlier (Nat.le_of_lt assemblable.bootstraps)
  have bootstraps := Builder.firstBootstrapMethods?_keptAttributes (finished name directives)
  rw [assemblable.bootstraps_eq] at bootstraps
  exact ⟨(finished name directives).decoded, Builder.decode_toBytes assemblable.writable,
    named, superNamed, rfl, denotes, ⟨_, assemblable.assembles, rfl⟩, bootstraps⟩

/-- The code that was given is the first code of the method. -/
theorem Assembles.firstCode?_eq {table : ConstantPool} {request : MethodRequest}
    {method : AssembledMethod} (assembles : Assembles table request method) :
    firstCode? method.info.attributes = request.code := by
  rw [← assembles.code_eq]
  cases given : method.code with
  | none => simp [AssembledMethod.info, given, firstCode?]
  | some code => simp [AssembledMethod.info, given, firstCode?]

/-- An assembled method is accepted as the method that was asked for. -/
theorem Assembles.ofInfo_eq_ok_iff {table : ConstantPool} {request : MethodRequest}
    {assembled : AssembledMethod} (assembles : Assembles table request assembled)
    {method : Method} :
    Method.ofInfo table assembled.info = .ok method ↔ request.Reads table method := by
  have isAbstract_eq : assembled.info.isAbstract = request.isAbstract := by
    rw [MethodInfo.isAbstract, AssembledMethod.info, assembles.access_eq]
    rfl
  have isNative_eq : assembled.info.isNative = request.isNative := by
    rw [MethodInfo.isNative, AssembledMethod.info, assembles.access_eq]
    rfl
  rw [Method.ofInfo_eq_ok_iff, HasBody, assembles.firstCode?_eq, isAbstract_eq, isNative_eq]
  constructor
  · rintro ⟨named, ⟨descriptor, typed, parsed⟩, isAbstract, isNative, body⟩
    obtain rfl := typed.unique assembles.descriptor
    exact ⟨named.unique assembles.name, parsed, isAbstract, isNative, body⟩
  · rintro ⟨name_eq, parsed, isAbstract, isNative, body⟩
    rw [name_eq]
    exact ⟨assembles.name, ⟨_, assembles.descriptor, parsed⟩, isAbstract, isNative, body⟩

/-- Assembled methods are accepted as the methods that were asked for, one by one. -/
theorem map_ofInfo_eq_iff {table : ConstantPool} {requests : List MethodRequest}
    {assembled : List AssembledMethod}
    (assembles : List.Forall₂ (Assembles table) requests assembled) {methods : List Method} :
    (assembled.map AssembledMethod.info).map (Method.ofInfo table) = methods.map .ok ↔
      List.Forall₂ (MethodRequest.Reads table) requests methods := by
  induction assembles generalizing methods with
  | nil => simp [eq_comm]
  | cons first rest ih =>
      cases methods with
      | nil => simp
      | cons method methods =>
          simp only [List.map_cons, List.cons.injEq, List.forall₂_cons, first.ofInfo_eq_ok_iff, ih]

/-- A method can be read as asked for if and only if it is acceptable. -/
theorem MethodRequest.exists_reads_iff {table : ConstantPool} {request : MethodRequest} :
    (∃ method, request.Reads table method) ↔ request.Acceptable table := by
  constructor
  · rintro ⟨method, -, parsed, -, -, body⟩
    refine ⟨⟨_, parsed⟩, ?_⟩
    intro concrete bytecoded
    rw [concrete, bytecoded] at body
    obtain ⟨code, given, walked⟩ := body
    exact ⟨code, _, given, walked⟩
  · rintro ⟨⟨argumentTypes, parsed⟩, walkable⟩
    by_cases bodiless : (request.isAbstract || request.isNative) = true
    · refine ⟨⟨request.name, argumentTypes, request.isAbstract, request.isNative, []⟩,
        rfl, parsed, rfl, rfl, ?_⟩
      rw [if_pos bodiless]
    · have plain : request.isAbstract = false ∧ request.isNative = false := by
        simpa using bodiless
      obtain ⟨code, instructions, given, walked⟩ := walkable plain.1 plain.2
      refine ⟨⟨request.name, argumentTypes, request.isAbstract, request.isNative, instructions⟩,
        rfl, parsed, rfl, rfl, ?_⟩
      rw [if_neg bodiless]
      exact ⟨code, given, walked⟩

/-- Methods can be read as asked for if and only if each is acceptable. -/
theorem exists_forall₂_reads_iff {table : ConstantPool} {requests : List MethodRequest} :
    (∃ methods, List.Forall₂ (MethodRequest.Reads table) requests methods) ↔
      ∀ request ∈ requests, request.Acceptable table := by
  induction requests with
  | nil => simp
  | cons request requests ih =>
      rw [List.forall_mem_cons, ← ih, ← MethodRequest.exists_reads_iff]
      constructor
      · rintro ⟨_, _ | ⟨first, rest⟩⟩
        exact ⟨⟨_, first⟩, ⟨_, rest⟩⟩
      · rintro ⟨⟨method, first⟩, ⟨methods, rest⟩⟩
        exact ⟨method :: methods, .cons first rest⟩

/-! ## Reading undoes assembling -/

theorem handsOver_ofRecord (table : ConstantPool) (request : AssembledBootstrap) :
    request.HandsOver table (BootstrapMethod.ofRecord table request.record) := by
  refine ⟨request.arguments.map (MethodHandle.ofIndex? table), ?_, ?_⟩
  · rw [List.forall₂_map_right_iff, List.forall₂_same]
    exact fun _ _ _ => MethodHandle.ofIndex?_eq_some_iff
  · rw [List.filterMap_map]
    rfl

namespace Holds

variable {name : String} {directives : List Directive} {answers : List (Option UInt16)}
  {file : ClassFile}

/-- A file that holds what was asked for is accepted if and only if the methods are acceptable. -/
theorem exists_ofFile_iff (holds : Holds name directives answers file) :
    (∃ javaClass, JavaClass.ofFile file = .ok javaClass) ↔
      ∀ request ∈ methodRequests directives, request.Acceptable file.constantPool := by
  obtain ⟨assembled, assembles, methods_eq⟩ := holds.methods
  rw [← exists_forall₂_reads_iff]
  simp only [JavaClass.ofFile_eq_ok_iff, methods_eq, map_ofInfo_eq_iff assembles]
  constructor
  · rintro ⟨_, _, methods, _, reads, _⟩
    exact ⟨methods, reads⟩
  · rintro ⟨methods, reads⟩
    exact ⟨_, name, methods, holds.named, reads, rfl⟩

/-- A class that is read from a file which holds what was asked for is what was asked for. -/
theorem spells (holds : Holds name directives answers file) {javaClass : JavaClass}
    (accepted : JavaClass.ofFile file = .ok javaClass) :
    Spells name directives file.constantPool javaClass := by
  obtain ⟨assembled, assembles, methods_eq⟩ := holds.methods
  obtain ⟨found, methods, named, read, rfl⟩ := JavaClass.ofFile_eq_ok_iff.mp accepted
  rw [methods_eq, map_ofInfo_eq_iff assembles] at read
  obtain ⟨nameIndex, nameFound, text⟩ := named
  obtain ⟨nameIndex', nameFound', text'⟩ := holds.named
  rw [nameFound'] at nameFound
  obtain rfl : nameIndex' = nameIndex := by simpa using nameFound
  have hollow := holds.hollow
  rw [← Array.getElem?_toList] at hollow
  refine ⟨congrArg dotted (text.unique text'), ?_, ?_, ?_, read, ?_⟩
  · rw [PoolSlot.ofPool]
    cases slots : file.constantPool.toList with
    | nil => simp [slots] at hollow
    | cons first rest => rfl
  · rw [PoolSlot.ofPool, ← Array.length_toList]
    cases file.constantPool.toList with
    | nil => rfl
    | cons first rest => simp
  · exact fun _ _ behind => PoolSlot.classRef_iff behind
  · rw [holds.bootstraps, List.map_map, List.forall₂_map_right_iff, List.forall₂_same]
    exact fun request _ => handsOver_ofRecord file.constantPool request

end Holds

/-- The class file of directives is decoded, and every answer stands for what was asked for.  It is
accepted if and only if all methods are acceptable over the decoded constants, and then the class
is what was asked for. -/
theorem ofBytes_assemble {name : String} {directives : List Directive}
    (assemblable : Assemblable name directives) :
    ∃ file, decode (assemble name directives).2 = .ok file ∧
      Holds name directives (assemble name directives).1 file ∧
      (∀ cause, JavaClass.ofBytes (assemble name directives).2 ≠ .error (.file cause)) ∧
      ((∃ javaClass, JavaClass.ofBytes (assemble name directives).2 = .ok javaClass) ↔
        ∀ request ∈ methodRequests directives, request.Acceptable file.constantPool) ∧
      ∀ javaClass, JavaClass.ofBytes (assemble name directives).2 = .ok javaClass →
        Spells name directives file.constantPool javaClass := by
  obtain ⟨file, decoded, holds⟩ := decode_assemble assemblable
  have read : JavaClass.ofBytes (assemble name directives).2 = JavaClass.ofFile file := by
    rw [JavaClass.ofBytes, decoded]
    rfl
  refine ⟨file, decoded, holds, ?_⟩
  rw [read]
  exact ⟨JavaClass.ofFile_ne_file file, holds.exists_ofFile_iff, fun _ => holds.spells⟩

theorem assemblable_linkedCalls : Assemblable "pkg/A" linkedCalls where
  short := by decide
  fits := by
    intro directive member
    simp only [linkedCalls, List.mem_cons, List.not_mem_nil, or_false] at member
    rcases member with rfl | rfl | rfl | rfl | rfl | rfl | rfl
    · exact ⟨by decide, by decide, by decide⟩
    · trivial
    · change 1 < 0x10000
      decide
    · trivial
    · exact ⟨by decide, by decide⟩
    · change PoolBuilder.Short "pkg/B"
      decide
    · refine ⟨by decide, by decide, ?_⟩
      rintro bytes ⟨⟩
      decide
  methods := by decide
  bootstraps := by decide
  indexed := by
    unfold PoolBuilder.Fits
    decide +kernel

theorem ofBytes_assemble_linkedCalls :
    Assemblable "pkg/A" linkedCalls ∧
      ∃ file, decode (assemble "pkg/A" linkedCalls).2 = .ok file ∧
        Holds "pkg/A" linkedCalls (assemble "pkg/A" linkedCalls).1 file := by
  obtain ⟨file, decoded, holds, -⟩ := ofBytes_assemble assemblable_linkedCalls
  exact ⟨assemblable_linkedCalls, file, decoded, holds⟩

end Assembler

end CallGraph
