import CallGraph.Proofs.JavaClass.Owners
import Mathlib.Algebra.GroupWithZero.Nat

/-!
# Classes that differ in their bootstrap methods

The bootstrap methods of a class file are read last and as far as they go.  Whatever their table
holds, the class file is accepted or refused on account of all else, and nothing of the class but
its bootstrap methods depends on them.  Of the edges, they decide about the linked calls alone,
which are dynamic and stand before the static calls of their method: one for each dynamic call site
with a bootstrap method and each of its handles that a filter accepts.
-/

namespace CallGraph

namespace ClassFile

/-- An attribute, or the table of bootstrap methods with other contents. -/
inductive Attribute.Relinked : Attribute → Attribute → Prop where
  | same (kept : Attribute) : Relinked kept kept
  | table (records others : List BootstrapRecord) :
      Relinked (.bootstrapMethods records) (.bootstrapMethods others)

/-- Two class files are the same but for the contents of their tables of bootstrap methods. -/
structure Relinked (one other : ClassFile) : Prop where
  constantPool : one.constantPool = other.constantPool
  thisIndex : one.thisIndex = other.thisIndex
  superIndex : one.superIndex = other.superIndex
  interfaceIndices : one.interfaceIndices = other.interfaceIndices
  methods : one.methods = other.methods
  attributes : List.Forall₂ Attribute.Relinked one.attributes other.attributes

end ClassFile

namespace JavaClass

/-- A class with other bootstrap methods. -/
def linkedTo (bootstrapMethods : List BootstrapMethod) (javaClass : JavaClass) : JavaClass :=
  { javaClass with bootstrapMethods }

/-- The bootstrap methods of a class file. -/
def bootstrapsOf (file : ClassFile) : List BootstrapMethod :=
  ((ClassFile.firstBootstrapMethods? file.attributes).getD []).map
    (BootstrapMethod.ofRecord file.constantPool)

/-- A class file is read as if it had no attributes, and then it is given its bootstrap methods. -/
theorem ofFile_eq_map (file : ClassFile) :
    ofFile file = (ofFile { file with attributes := [] }).map (linkedTo (bootstrapsOf file)) := by
  unfold ofFile
  dsimp only
  cases ClassFile.classNameAt file.constantPool file.thisIndex with
  | error fault => rfl
  | ok name =>
      cases file.methods.mapM (Method.ofInfo file.constantPool) with
      | error fault => rfl
      | ok methods => rfl

end JavaClass

theorem ClassFile.Relinked.withoutAttributes {one other : ClassFile}
    (relinked : one.Relinked other) :
    { one with attributes := [] } = { other with attributes := [] } := by
  rcases one with ⟨pool, thisIndex, superIndex, interfaceIndices, methods, attributes⟩
  rcases other with ⟨_, _, _, _, _, others⟩
  obtain ⟨rfl, rfl, rfl, rfl, rfl, -⟩ := relinked
  rfl

namespace JavaClass

/-! ## Calls of a class -/

variable {javaClass : JavaClass} {filter : IdentifierFilter} {method : Method}

theorem dispatch_of_mem_linkedCalls {call : MethodCall}
    (member : call ∈ javaClass.linkedCalls filter method) : call.dispatch = .dynamic := by
  obtain ⟨site, -, linked⟩ := List.mem_flatMap.mp member
  obtain ⟨handle, -, kept⟩ := List.mem_filterMap.mp linked
  obtain ⟨-, rfl⟩ := MethodHandle.linkedCall?_eq_some_iff.mp kept
  rfl

/-- The bootstrap method of a dynamic call site, if its index is in range. -/
def bootstrapOf? (javaClass : JavaClass) (site : CallSite) : Option BootstrapMethod :=
  site.bootstrapIndex.bind fun index => javaClass.bootstrapMethods[index.toNat]?

/-- How many handles of a bootstrap method belong to classes that a filter accepts. -/
def acceptedHandles (filter : IdentifierFilter) (bootstrap : BootstrapMethod) : ℕ :=
  bootstrap.handles.countP fun handle => filter.accepts handle.owner

/-- A site has a linked call for each accepted handle of its bootstrap method. -/
theorem length_linkedCalls_site (caller : MethodSignature) (site : CallSite) :
    ((site.handles javaClass.bootstrapMethods).filterMap
        (MethodHandle.linkedCall? filter caller)).length =
      ((javaClass.bootstrapOf? site).map (acceptedHandles filter)).getD 0 := by
  have counted : ∀ handles : List MethodHandle,
      (handles.filterMap (MethodHandle.linkedCall? filter caller)).length =
        handles.countP fun handle => filter.accepts handle.owner := by
    intro handles
    rw [List.length_filterMap_eq_countP]
    congr 1
    funext handle
    rw [MethodHandle.linkedCall?]
    cases filter.accepts handle.owner <;> rfl
  rw [counted, CallSite.handles, bootstrapOf?]
  cases site.bootstrapIndex.bind fun index => javaClass.bootstrapMethods[index.toNat]? <;> rfl

theorem sum_map_getD {α β : Type} (found? : α → Option β) (size : β → ℕ) (inputs : List α) :
    (inputs.map fun input => ((found? input).map size).getD 0).sum =
      ((inputs.filterMap found?).map size).sum := by
  induction inputs with
  | nil => rfl
  | cons input inputs ih =>
      rw [List.map_cons, List.sum_cons, ih, List.filterMap_cons]
      cases found? input with
      | none => exact Nat.zero_add _
      | some found => rfl

/-- The linked calls of a method are counted site by site, at the dynamic sites whose index is in
range. -/
theorem length_linkedCalls
    (indexed : ∀ site ∈ method.sites, site.dispatch ≠ .dynamic → site.bootstrapIndex = none) :
    (javaClass.linkedCalls filter method).length =
      (((method.sites.filter (·.dispatch = .dynamic)).filterMap javaClass.bootstrapOf?).map
        (acceptedHandles filter)).sum := by
  have dynamicOnly :
      (method.sites.filter (·.dispatch = .dynamic)).filterMap javaClass.bootstrapOf? =
        method.sites.filterMap javaClass.bootstrapOf? := by
    rw [List.filterMap_filter]
    apply List.filterMap_congr
    intro site member
    by_cases isDynamic : site.dispatch = .dynamic
    · rw [if_pos (decide_eq_true isDynamic)]
    · rw [if_neg (by simpa using isDynamic), bootstrapOf?, indexed site member isDynamic]
      rfl
  rw [dynamicOnly, linkedCalls, List.length_flatMap, ← sum_map_getD]
  simp only [length_linkedCalls_site]

/-- In a class that was read, only dynamic call sites have the index of a bootstrap method. -/
theorem bootstrapIndex_of_mem_sites {file : ClassFile} (read : ofFile file = .ok javaClass)
    (declared : method ∈ javaClass.methods) {site : CallSite} (member : site ∈ method.sites)
    (plain : site.dispatch ≠ .dynamic) : site.bootstrapIndex = none := by
  obtain ⟨info, given, built⟩ := exists_info read declared
  obtain ⟨_, _, _, -, -, names⟩ := Method.exists_callsAt_of_mem_sites given built member
  cases indexed : site.bootstrapIndex with
  | none => rfl
  | some index => exact absurd (names.exists_isCallSite indexed).1 plain

/-- The calls of a class are made of static calls, and of linked calls that stand before the static
calls of the same method. -/
structure CallsInOrder (javaClass : JavaClass) (filter : IdentifierFilter) : Prop where
  calls : javaClass.methodCalls filter =
    (javaClass.methods.filter fun method => !method.isAbstract && !method.isNative).flatMap
      fun method => javaClass.linkedCalls filter method ++
        method.staticCalls filter (javaClass.caller method)
  dynamic : ∀ method ∈ javaClass.methods, ∀ call ∈ javaClass.linkedCalls filter method,
    call.dispatch = .dynamic
  counted : ∀ method ∈ javaClass.methods,
    (javaClass.linkedCalls filter method).length =
      (((method.sites.filter (·.dispatch = .dynamic)).filterMap javaClass.bootstrapOf?).map
        (acceptedHandles filter)).sum

theorem callsInOrder_of_ofFile {file : ClassFile} (read : ofFile file = .ok javaClass)
    (filter : IdentifierFilter) : javaClass.CallsInOrder filter where
  calls := flatMap_eq_flatMap_filter (fun _ => callsOf_of_not_hasBody) javaClass.methods
  dynamic := fun _ _ _ => dispatch_of_mem_linkedCalls
  counted := fun _ declared => length_linkedCalls fun _ => bootstrapIndex_of_mem_sites read declared

/-- Bootstrap methods interfere with nothing but linked calls.  Class files that are the same but
for the contents of their tables of bootstrap methods are accepted alike, or refused for the same
reason, and their classes differ at most in the linked calls of their methods. -/
theorem ofBytes_of_relinked {bytes others : Bytes} {file other : ClassFile}
    (decoded : ClassFile.decode bytes = .ok file)
    (otherDecoded : ClassFile.decode others = .ok other) (relinked : file.Relinked other) :
    ((∃ javaClass, ofBytes bytes = .ok javaClass) ↔
      ∃ javaClass, ofBytes others = .ok javaClass) ∧
    (∀ fault, ofBytes bytes = .error fault ↔ ofBytes others = .error fault) ∧
    ∀ javaClass otherClass, ofBytes bytes = .ok javaClass → ofBytes others = .ok otherClass →
      javaClass.name = otherClass.name ∧ javaClass.pool = otherClass.pool ∧
      javaClass.methods = otherClass.methods ∧
      ∀ filter, javaClass.classReferences filter = otherClass.classReferences filter ∧
        (∀ method ∈ javaClass.methods,
          method.staticCalls filter (javaClass.caller method) =
            method.staticCalls filter (otherClass.caller method)) ∧
        javaClass.CallsInOrder filter ∧ otherClass.CallsInOrder filter := by
  have read : ofBytes bytes = ofFile file := by
    rw [ofBytes, decoded]
    rfl
  have otherRead : ofBytes others = ofFile other := by
    rw [ofBytes, otherDecoded]
    rfl
  rw [read, otherRead]
  have core := ofFile_eq_map file
  have otherCore := ofFile_eq_map other
  rw [relinked.withoutAttributes] at core
  cases common : ofFile { other with attributes := [] } with
  | error fault =>
      rw [common] at core otherCore
      simp [core, otherCore, Except.map]
  | ok bare =>
      rw [common] at core otherCore
      refine ⟨⟨fun _ => ⟨_, otherCore⟩, fun _ => ⟨_, core⟩⟩, ?_, ?_⟩
      · intro fault
        rw [core, otherCore]
        constructor
        · intro refused
          contradiction
        · intro refused
          contradiction
      · intro javaClass otherClass accepted otherAccepted
        have inOrder := callsInOrder_of_ofFile accepted
        have otherInOrder := callsInOrder_of_ofFile otherAccepted
        obtain rfl := Except.ok.inj (core.symm.trans accepted)
        obtain rfl := Except.ok.inj (otherCore.symm.trans otherAccepted)
        exact ⟨rfl, rfl, rfl, fun filter =>
          ⟨rfl, fun _ _ => rfl, inOrder filter, otherInOrder filter⟩⟩

/-- The class file of a method with a dynamic site, to which a bootstrap method hands over what is
found at the given indices. -/
def linkingClass (arguments : List UInt16) : Bytes :=
  (Assembler.assemble "pkg/A" <| Assembler.linkedCalls.map fun
    | .bootstrapMethod handleIndex _ => .bootstrapMethod handleIndex arguments
    | directive => directive).2

/-- Of the arguments of the second table one is dangling and one is no handle, and one handle is
handed over twice. -/
theorem ofBytes_of_relinked_linkingClass :
    ∃ file other javaClass otherClass,
      ClassFile.decode (linkingClass [11]) = .ok file ∧
      ClassFile.decode (linkingClass [11, 999, 7, 11]) = .ok other ∧ file.Relinked other ∧
      ofBytes (linkingClass [11]) = .ok javaClass ∧
      ofBytes (linkingClass [11, 999, 7, 11]) = .ok otherClass ∧
      (javaClass.methodCalls .acceptAll).length = 3 ∧
      (otherClass.methodCalls .acceptAll).length = 4 ∧
      javaClass.methods = otherClass.methods := by
  have attributes : (ClassFile.decode (linkingClass [11])).toOption.map (·.attributes) =
      some [.bootstrapMethods [⟨11, [11]⟩]] := by
    decide +kernel
  have otherAttributes :
      (ClassFile.decode (linkingClass [11, 999, 7, 11])).toOption.map (·.attributes) =
        some [.bootstrapMethods [⟨11, [11, 999, 7, 11]⟩]] := by
    decide +kernel
  have same :
      (ClassFile.decode (linkingClass [11])).toOption.map ({ · with attributes := [] }) =
        (ClassFile.decode (linkingClass [11, 999, 7, 11])).toOption.map
          ({ · with attributes := [] }) := by
    decide +kernel
  have calls : (ofBytes (linkingClass [11])).toOption.map
      (fun javaClass => (javaClass.methodCalls .acceptAll).length) = some 3 := by
    decide +kernel
  have otherCalls : (ofBytes (linkingClass [11, 999, 7, 11])).toOption.map
      (fun javaClass => (javaClass.methodCalls .acceptAll).length) = some 4 := by
    decide +kernel
  obtain ⟨file, decoded, attributes⟩ := Option.map_eq_some_iff.mp attributes
  obtain ⟨other, otherDecoded, otherAttributes⟩ := Option.map_eq_some_iff.mp otherAttributes
  obtain ⟨javaClass, read, calls⟩ := Option.map_eq_some_iff.mp calls
  obtain ⟨otherClass, otherRead, otherCalls⟩ := Option.map_eq_some_iff.mp otherCalls
  rw [Fallible.toOption_eq_some_iff] at read otherRead
  rw [decoded, otherDecoded, Option.map_some, Option.map_some, Option.some.injEq,
    ClassFile.mk.injEq] at same
  rw [Fallible.toOption_eq_some_iff] at decoded otherDecoded
  obtain ⟨pool, thisIndex, superIndex, interfaceIndices, methods, -⟩ := same
  have relinked : file.Relinked other := by
    refine ⟨pool, thisIndex, superIndex, interfaceIndices, methods, ?_⟩
    rw [attributes, otherAttributes]
    exact .cons (.table _ _) .nil
  obtain ⟨-, -, agree⟩ := ofBytes_of_relinked decoded otherDecoded relinked
  obtain ⟨-, -, sameMethods, -⟩ := agree javaClass otherClass read otherRead
  exact ⟨file, other, javaClass, otherClass, decoded, otherDecoded, relinked, read, otherRead,
    calls, otherCalls, sameMethods⟩

end JavaClass

end CallGraph
