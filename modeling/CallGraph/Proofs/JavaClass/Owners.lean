import CallGraph.Proofs.Assembler.Reading
import CallGraph.Proofs.Bytecode.Walk
import CallGraph.Proofs.ClassFile.Decoding
import CallGraph.Proofs.JavaClass.Edges

/-!
# Classes of called methods

The class of a called method stands in the constant pool, since the way from a call to its method
leads through a class constant; this holds for calls that name their method and for handles that a
bootstrap method hands over.  Hence the class is also among the class references, under the same
name and with the same answer of a filter.  Only arrays are shown in two ways: as a class reference
by their descriptor, and as the class of a method in source form.
-/

namespace CallGraph

open ClassFile (ConstantPool IsText IsClass IsMethod IsCallSite)

/-- A method of a class file has this name, these argument types and this code. -/
def ClassFile.HasCode (file : ClassFile) (name : String) (argumentTypes : List String)
    (code : Bytes) : Prop :=
  ∃ info ∈ file.methods, info.isAbstract = false ∧ info.isNative = false ∧
    IsText file.constantPool info.nameIndex name ∧
    (∃ descriptor, IsText file.constantPool info.descriptorIndex descriptor ∧
      Descriptor.argumentTypes descriptor = .ok argumentTypes) ∧
    ClassFile.firstCode? info.attributes = some code

/-- An index leads to a method of a class with an internal name; this is how the method is shown. -/
def LeadsTo (pool : ConstantPool) (index : UInt16) (internal : String) (callee : MethodSignature) :
    Prop :=
  ∃ method, IsMethod pool index method ∧ method.owner = internal ∧
    Descriptor.classDisplayName internal = .ok callee.className ∧ method.name = callee.name ∧
      Descriptor.argumentTypes method.descriptor = .ok callee.argumentTypes

/-- A call comes from an instruction that calls a method of a class with an internal name. -/
def ClassFile.StaticOwner (file : ClassFile) (call : MethodCall) (internal : String) : Prop :=
  ∃ code offset index, file.HasCode call.caller.name call.caller.argumentTypes code ∧
    Bytecode.CallsAt code offset call.dispatch index ∧
      LeadsTo file.constantPool index internal call.callee

/-- A call comes from a dynamic instruction, to whose bootstrap method a handle of a method is
handed over; the class of that method has an internal name. -/
def ClassFile.LinkedOwner (file : ClassFile) (call : MethodCall) (internal : String) : Prop :=
  ∃ code offset index site records bootstrap argument kind reference,
    file.HasCode call.caller.name call.caller.argumentTypes code ∧
    Bytecode.CallsAt code offset .dynamic index ∧
    IsCallSite file.constantPool index site ∧
    ClassFile.firstBootstrapMethods? file.attributes = some records ∧
    records[site.bootstrapIndex.toNat]? = some bootstrap ∧ argument ∈ bootstrap.argumentIndices ∧
    file.constantPool[argument.toNat]? = some (.methodHandle kind reference) ∧
      LeadsTo file.constantPool reference internal call.callee

/-- A class that is no array is shown by its dotted name. -/
theorem Descriptor.classDisplayName_of_head?_ne {internal : String}
    (plain : internal.toList.head? ≠ some '[') :
    classDisplayName internal = .ok (dotted internal) := by
  unfold classDisplayName
  split
  · rename_i letters
    rw [letters] at plain
    exact absurd rfl plain
  · rfl

/-- An index that leads to a method leads through a class constant, which is the slot of a class
reference unless it is slot 0. -/
theorem LeadsTo.classRef_mem {pool : ConstantPool} {index : UInt16} {internal : String}
    {callee : MethodSignature} (leads : LeadsTo pool index internal callee)
    (hollow : ∀ constant, pool[0]? = some constant → constant = .empty)
    (plain : internal.toList.head? ≠ some '[') :
    PoolSlot.classRef callee.className ∈ PoolSlot.ofPool pool := by
  obtain ⟨method, ⟨classIndex, _, -, isClass, -⟩, rfl, shown, -⟩ := leads
  have behind : classIndex ≠ 0 := by
    rintro rfl
    obtain ⟨nameIndex, atZero, -⟩ := isClass
    exact absurd (hollow _ atZero) nofun
  rw [Descriptor.classDisplayName_of_head?_ne plain, Except.ok.injEq] at shown
  exact List.mem_of_getElem? ((PoolSlot.classRef_iff behind).mpr ⟨method.owner, isClass, shown⟩)

theorem JavaClass.mem_classReferences {javaClass : JavaClass} {filter : IdentifierFilter}
    {name : String} (listed : PoolSlot.classRef name ∈ javaClass.pool)
    (accepted : filter.accepts name = true) :
    ⟨javaClass.name, name⟩ ∈ javaClass.classReferences filter :=
  List.mem_filterMap.mpr ⟨_, listed, slotReference?_eq_some_iff.mpr ⟨name, rfl, accepted, rfl⟩⟩

theorem Method.mem_sites_iff {method : Method} {site : CallSite} :
    site ∈ method.sites ↔
      method.hasBody = true ∧ ∃ offset, ⟨offset, .invoke site⟩ ∈ method.instructions := by
  by_cases body : method.hasBody = true
  · rw [sites_of_hasBody body, List.mem_filterMap]
    simp only [Instruction.site?_eq_some_iff, body, true_and]
    constructor
    · rintro ⟨_, member, offset, rfl⟩
      exact ⟨offset, member⟩
    · rintro ⟨offset, member⟩
      exact ⟨_, member, offset, rfl⟩
  · simp [sites_of_not_hasBody body, body]

/-- A site of a method comes from the code of the method, from an instruction whose operand names
the site. -/
theorem Method.exists_callsAt_of_mem_sites {file : ClassFile} {info : ClassFile.MethodInfo}
    {method : Method} (declared : info ∈ file.methods)
    (read : Method.ofInfo file.constantPool info = .ok method) {site : CallSite}
    (member : site ∈ method.sites) :
    ∃ code offset index, file.HasCode method.name method.argumentTypes code ∧
      Bytecode.CallsAt code offset site.dispatch index ∧
        Bytecode.IsSite file.constantPool index site.dispatch site := by
  obtain ⟨body, offset, member⟩ := Method.mem_sites_iff.mp member
  obtain ⟨named, typed, isAbstract, isNative, hasBody⟩ := Method.ofInfo_eq_ok_iff.mp read
  rw [Method.hasBody, isAbstract, isNative] at body
  have concrete : info.isAbstract = false ∧ info.isNative = false := by simpa using body
  rw [HasBody, concrete.1, concrete.2] at hasBody
  obtain ⟨code, given, walked⟩ := hasBody
  obtain ⟨start, index, -, calls, names⟩ := Bytecode.exists_callsAt walked member
  exact ⟨code, start, index,
    ⟨info, declared, concrete.1, concrete.2, named, typed, given⟩, calls, names⟩

/-- A call site of a method leads to the method that it calls. -/
theorem Bytecode.IsSite.exists_leadsTo {pool : ConstantPool} {index : UInt16} {dispatch : Dispatch}
    {site : CallSite} (names : IsSite pool index dispatch site) (plain : dispatch ≠ .dynamic) :
    ∃ internal, LeadsTo pool index internal site.callee := by
  cases names with
  | dynamic => contradiction
  | named _ found shown typed =>
      exact ⟨_, _, found, rfl, shown, rfl, Fallible.map_eq_ok_iff.mpr ⟨_, typed, rfl⟩⟩

/-- A call site with a bootstrap method is that of a dynamic call. -/
theorem Bytecode.IsSite.exists_isCallSite {pool : ConstantPool} {index bootstrapIndex : UInt16}
    {dispatch : Dispatch} {site : CallSite} (names : IsSite pool index dispatch site)
    (indexed : site.bootstrapIndex = some bootstrapIndex) :
    dispatch = .dynamic ∧
      ∃ target, IsCallSite pool index target ∧ target.bootstrapIndex = bootstrapIndex := by
  cases names with
  | named => contradiction
  | dynamic found _ => exact ⟨rfl, _, found, Option.some.inj indexed⟩

theorem IsHandle.exists_leadsTo {pool : ConstantPool} {index : UInt16} {handle : MethodHandle}
    (isHandle : IsHandle pool index handle) :
    ∃ kind reference internal, pool[index.toNat]? = some (.methodHandle kind reference) ∧
      LeadsTo pool reference internal handle.callee := by
  obtain ⟨kind, reference, method, found, isMethod, shown, named, typed⟩ := isHandle
  exact ⟨kind, reference, method.owner, found, method, isMethod, rfl, shown, named, typed⟩

/-! ## Calls of a class that was read -/

namespace JavaClass

variable {file : ClassFile} {javaClass : JavaClass} {filter : IdentifierFilter} {method : Method}
  {call : MethodCall}

theorem exists_info (read : ofFile file = .ok javaClass) (member : method ∈ javaClass.methods) :
    ∃ info ∈ file.methods, Method.ofInfo file.constantPool info = .ok method := by
  obtain ⟨_, methods, -, accepted, rfl⟩ := ofFile_eq_ok_iff.mp read
  have listed : .ok method ∈ methods.map (.ok : Method → Except MethodFault Method) :=
    List.mem_map_of_mem member
  rw [← accepted] at listed
  exact List.mem_map.mp listed

/-- A bootstrap method of the class is that of the file at the same position. -/
theorem exists_record (read : ofFile file = .ok javaClass) {position : ℕ}
    {bootstrap : BootstrapMethod} (found : javaClass.bootstrapMethods[position]? = some bootstrap) :
    ∃ records bootstrapRecord, ClassFile.firstBootstrapMethods? file.attributes = some records ∧
      records[position]? = some bootstrapRecord ∧
        BootstrapMethod.ofRecord file.constantPool bootstrapRecord = bootstrap := by
  obtain ⟨_, _, -, -, rfl⟩ := ofFile_eq_ok_iff.mp read
  cases listed : ClassFile.firstBootstrapMethods? file.attributes with
  | none => simp [listed] at found
  | some records =>
      simp only [listed, Option.getD_some, List.getElem?_map, Option.map_eq_some_iff] at found
      obtain ⟨bootstrapRecord, atPosition, made⟩ := found
      exact ⟨records, bootstrapRecord, rfl, atPosition, made⟩

/-- A static call names its method and was accepted by the class of the method. -/
theorem staticOwner_of_mem_staticCalls (read : ofFile file = .ok javaClass)
    (declared : method ∈ javaClass.methods)
    (member : call ∈ method.staticCalls filter (javaClass.caller method))
    (plain : call.dispatch ≠ .dynamic) :
    filter.accepts call.callee.className = true ∧ ∃ internal, file.StaticOwner call internal := by
  obtain ⟨site, listed, kept⟩ := List.mem_filterMap.mp member
  obtain ⟨accepted, rfl⟩ := CallSite.staticCall?_eq_some_iff.mp kept
  obtain ⟨info, given, built⟩ := exists_info read declared
  obtain ⟨code, offset, index, hasCode, calls, names⟩ :=
    Method.exists_callsAt_of_mem_sites given built listed
  obtain ⟨internal, leads⟩ := names.exists_leadsTo plain
  exact ⟨accepted, internal, code, offset, index, hasCode, calls, leads⟩

/-- A linked call is handed over and was accepted by the class of the method. -/
theorem linkedOwner_of_mem_linkedCalls (read : ofFile file = .ok javaClass)
    (declared : method ∈ javaClass.methods) (member : call ∈ javaClass.linkedCalls filter method) :
    filter.accepts call.callee.className = true ∧ ∃ internal, file.LinkedOwner call internal := by
  obtain ⟨site, listed, linked⟩ := List.mem_flatMap.mp member
  obtain ⟨handle, handed, kept⟩ := List.mem_filterMap.mp linked
  obtain ⟨accepted, rfl⟩ := MethodHandle.linkedCall?_eq_some_iff.mp kept
  obtain ⟨place, atPlace⟩ := List.mem_iff_getElem?.mp handed
  obtain ⟨bootstrapIndex, bootstrap, indexed, found, atPlace⟩ :=
    CallSite.getElem?_handles_eq_some_iff.mp atPlace
  obtain ⟨info, given, built⟩ := exists_info read declared
  obtain ⟨code, offset, index, hasCode, calls, names⟩ :=
    Method.exists_callsAt_of_mem_sites given built listed
  obtain ⟨isDynamic, target, isCallSite, rfl⟩ := names.exists_isCallSite indexed
  rw [isDynamic] at calls
  obtain ⟨records, bootstrapRecord, listedIn, atIndex, rfl⟩ := exists_record read found
  obtain ⟨argument, mentioned, isHandle⟩ :=
    List.mem_filterMap.mp (List.mem_of_getElem? atPlace)
  obtain ⟨kind, reference, internal, handleAt, leads⟩ :=
    (MethodHandle.ofIndex?_eq_some_iff.mp isHandle).exists_leadsTo
  exact ⟨accepted, internal, code, offset, index, target, records, bootstrapRecord, argument, kind,
    reference, hasCode, calls, isCallSite, listedIn, atIndex, mentioned, handleAt, leads⟩

/-- A call that is not dynamic is a static call of one of the methods. -/
theorem exists_mem_staticCalls (member : call ∈ javaClass.methodCalls filter)
    (plain : call.dispatch ≠ .dynamic) :
    ∃ method ∈ javaClass.methods, call ∈ method.staticCalls filter (javaClass.caller method) := by
  obtain ⟨method, declared, emitted⟩ := List.mem_flatMap.mp member
  rcases List.mem_append.mp emitted with linked | static
  · obtain ⟨_, -, linked⟩ := List.mem_flatMap.mp linked
    obtain ⟨_, -, kept⟩ := List.mem_filterMap.mp linked
    obtain ⟨-, rfl⟩ := MethodHandle.linkedCall?_eq_some_iff.mp kept
    exact absurd rfl plain
  · exact ⟨method, declared, static⟩

/-- The class of a called method is referenced.

For every call, the constant pool holds the internal name of the class of the method that is
called.  If that is not the name of an array, there is a class reference to the class, whichever
filter is used. -/
theorem classReferences_of_calls {bytes : Bytes} {javaClass : JavaClass}
    (read : ofBytes bytes = .ok javaClass) (filter : IdentifierFilter) :
    ∃ file, ClassFile.decode bytes = .ok file ∧
      (∀ call ∈ javaClass.methodCalls filter, call.dispatch ≠ .dynamic →
        (∃ internal, file.StaticOwner call internal) ∧
        ∀ internal, file.StaticOwner call internal → internal.toList.head? ≠ some '[' →
          { owner := javaClass.name, referenced := call.callee.className } ∈
            javaClass.classReferences filter) ∧
      ∀ method ∈ javaClass.methods, ∀ call ∈ javaClass.linkedCalls filter method,
        (∃ internal, file.LinkedOwner call internal) ∧
        ∀ internal, file.LinkedOwner call internal → internal.toList.head? ≠ some '[' →
          { owner := javaClass.name, referenced := call.callee.className } ∈
            javaClass.classReferences filter := by
  obtain ⟨file, decoded, read⟩ := Fallible.of_bind_eq_ok read
  rw [Fallible.mapError_eq_ok_iff] at decoded
  have referenced : ∀ {index internal} {callee : MethodSignature},
      LeadsTo file.constantPool index internal callee → internal.toList.head? ≠ some '[' →
        filter.accepts callee.className = true →
          ⟨javaClass.name, callee.className⟩ ∈ javaClass.classReferences filter := by
    intro index internal callee leads plain accepted
    have listed := leads.classRef_mem (fun _ => ClassFile.decode_hollow decoded) plain
    rw [← pool_of_ofFile read] at listed
    exact mem_classReferences listed accepted
  refine ⟨file, decoded, ?_, ?_⟩
  · intro call member plain
    obtain ⟨method, declared, static⟩ := exists_mem_staticCalls member plain
    obtain ⟨accepted, owner⟩ := staticOwner_of_mem_staticCalls read declared static plain
    refine ⟨owner, ?_⟩
    rintro internal ⟨code, offset, index, -, -, leads⟩ notArray
    exact referenced leads notArray accepted
  · intro method declared call member
    obtain ⟨accepted, owner⟩ := linkedOwner_of_mem_linkedCalls read declared member
    refine ⟨owner, ?_⟩
    rintro internal ⟨code, offset, index, site, records, bootstrap, argument, kind, reference, -, -,
      -, -, -, -, -, leads⟩ notArray
    exact referenced leads notArray accepted

/-- The class file in which a method of `pkg/B` is called and handed over. -/
def linkedCallsFile : ClassFile where
  constantPool := #[.empty, .utf8 "pkg/A", .classInfo 1, .utf8 "java/lang/Object", .classInfo 3,
    .utf8 "pkg/B", .classInfo 5, .utf8 "n", .utf8 "()V", .nameAndType 7 8, .methodRef 6 9,
    .methodHandle 6 10, .long (-1), .empty, .utf8 "run", .nameAndType 14 8, .invokeDynamic 0 15,
    .classInfo 5, .utf8 "m", .utf8 "Code", .utf8 "BootstrapMethods"]
  thisIndex := 2
  superIndex := 4
  interfaceIndices := []
  methods := [⟨0x0009, 18, 8, [.code [0xb8, 0, 10, 0xba, 0, 16, 0, 0, 0xb1]]⟩]
  attributes := [.bootstrapMethods [⟨11, [11]⟩]]

theorem decode_linkedCalls :
    ClassFile.decode (Assembler.assemble "pkg/A" Assembler.linkedCalls).2 =
      .ok linkedCallsFile := by
  decide +kernel

theorem hasCode_linkedCallsFile :
    linkedCallsFile.HasCode "m" [] [0xb8, 0, 10, 0xba, 0, 16, 0, 0, 0xb1] :=
  ⟨_, .head _, by decide, by decide, rfl, ⟨"()V", rfl, by decide +kernel⟩, rfl⟩

theorem leadsTo_linkedCallsFile :
    LeadsTo linkedCallsFile.constantPool 10 "pkg/B" ⟨"pkg.B", "n", []⟩ :=
  ⟨⟨"pkg/B", "n", "()V"⟩, ⟨6, 9, .inl rfl, ⟨5, rfl, rfl⟩, 7, 8, rfl, rfl, rfl⟩, rfl,
    by decide +kernel, rfl, by decide +kernel⟩

theorem staticOwner_linkedCallsFile :
    linkedCallsFile.StaticOwner ⟨⟨"pkg.A", "m", []⟩, .static, ⟨"pkg.B", "n", []⟩⟩ "pkg/B" :=
  ⟨_, 0, 10, hasCode_linkedCallsFile, ⟨_, _, .start, rfl, rfl, rfl⟩, leadsTo_linkedCallsFile⟩

theorem linkedOwner_linkedCallsFile :
    linkedCallsFile.LinkedOwner ⟨⟨"pkg.A", "m", []⟩, .dynamic, ⟨"pkg.B", "n", []⟩⟩ "pkg/B" := by
  have measured : Bytecode.lengthAt? [0xb8, 0, 10, 0xba, 0, 16, 0, 0, 0xb1] 0 = some (.ok 3) := by
    decide +kernel
  have calls : Bytecode.CallsAt [0xb8, 0, 10, 0xba, 0, 16, 0, 0, 0xb1] 3 .dynamic 16 :=
    ⟨_, _, .next .start measured, rfl, rfl, rfl⟩
  exact ⟨_, 3, 16, ⟨0, "run", "()V"⟩, _, _, 11, 6, 10, hasCode_linkedCallsFile, calls,
    ⟨15, rfl, 14, 8, rfl, rfl, rfl⟩, rfl, rfl, .head _, rfl, leadsTo_linkedCallsFile⟩

/-- The static call and the linked call of the same method both refer to its class. -/
theorem classReferences_of_calls_linkedCalls :
    ∃ (javaClass : JavaClass) (method : Method),
      ofBytes (Assembler.assemble "pkg/A" Assembler.linkedCalls).2 = .ok javaClass ∧
      (⟨⟨"pkg.A", "m", []⟩, .static, ⟨"pkg.B", "n", []⟩⟩ : MethodCall) ∈
        javaClass.methodCalls .acceptAll ∧
      { owner := javaClass.name, referenced := "pkg.B" } ∈
        javaClass.classReferences .acceptAll ∧
      method ∈ javaClass.methods ∧
      (⟨⟨"pkg.A", "m", []⟩, .dynamic, ⟨"pkg.B", "n", []⟩⟩ : MethodCall) ∈
        javaClass.linkedCalls (.ofList "pkg.*") method ∧
      { owner := javaClass.name, referenced := "pkg.B" } ∈
        javaClass.classReferences (.ofList "pkg.*") := by
  have evaluated :
      (ofBytes (Assembler.assemble "pkg/A" Assembler.linkedCalls).2).toOption.map
          (fun javaClass => (javaClass.methodCalls .acceptAll,
            javaClass.methods.map (javaClass.linkedCalls (.ofList "pkg.*")))) =
        some ([⟨⟨"pkg.A", "m", []⟩, .dynamic, ⟨"pkg.B", "n", []⟩⟩,
          ⟨⟨"pkg.A", "m", []⟩, .static, ⟨"pkg.B", "n", []⟩⟩,
          ⟨⟨"pkg.A", "m", []⟩, .dynamic, ⟨"void", "run", []⟩⟩],
          [[⟨⟨"pkg.A", "m", []⟩, .dynamic, ⟨"pkg.B", "n", []⟩⟩]]) := by
    decide +kernel
  obtain ⟨javaClass, read, same⟩ := Option.map_eq_some_iff.mp evaluated
  rw [Fallible.toOption_eq_some_iff] at read
  obtain ⟨calls, linkedCalls⟩ := Prod.mk.inj same
  obtain ⟨method, declared, linked⟩ := List.map_eq_singleton_iff.mp linkedCalls
  have static : (⟨⟨"pkg.A", "m", []⟩, .static, ⟨"pkg.B", "n", []⟩⟩ : MethodCall) ∈
      javaClass.methodCalls .acceptAll := by
    rw [calls]
    exact .tail _ (.head _)
  have handed : (⟨⟨"pkg.A", "m", []⟩, .dynamic, ⟨"pkg.B", "n", []⟩⟩ : MethodCall) ∈
      javaClass.linkedCalls (.ofList "pkg.*") method := by
    rw [linked]
    exact .head _
  have listed : method ∈ javaClass.methods := by
    rw [declared]
    exact .head _
  obtain ⟨file, decoded, ofStatic, -⟩ := classReferences_of_calls read .acceptAll
  cases decode_linkedCalls.symm.trans decoded
  obtain ⟨file, decoded, -, ofLinked⟩ := classReferences_of_calls read (.ofList "pkg.*")
  cases decode_linkedCalls.symm.trans decoded
  exact ⟨javaClass, method, read, static,
    (ofStatic _ static nofun).2 "pkg/B" staticOwner_linkedCallsFile (by decide), listed, handed,
    (ofLinked method listed _ handed).2 "pkg/B" linkedOwner_linkedCallsFile (by decide)⟩

end JavaClass

end CallGraph
