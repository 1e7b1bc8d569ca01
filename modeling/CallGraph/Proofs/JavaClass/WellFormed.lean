import CallGraph.Proofs.Bytecode.Tiling
import CallGraph.Proofs.ClassFile.CodeSize
import CallGraph.Proofs.JavaClass.Linking
import CallGraph.Proofs.JavaType.SourceForm

/-!
# Classes that were read

A class that was read from bytes is fit to be searched for edges.  Its names are in the form in
which they are shown, whether they come from a class constant, from an array class or from a
descriptor; its instructions stand in order; and a call site has the index of a bootstrap method if
and only if the call is dynamic.  So the sites at which bootstrap methods are looked up are just
those that are shown as dynamic calls.
-/

namespace CallGraph

open ClassFile (ConstantPool)

/-- A name is in the form in which it is shown: no `/` separates its parts. -/
def IsSlashless (name : String) : Prop :=
  '/' ∉ name.toList

theorem isSlashless_dotted (name : String) : IsSlashless (dotted name) := by
  rw [IsSlashless, dotted, String.toList_map, List.mem_map]
  rintro ⟨letter, -, image⟩
  split at image
  · contradiction
  · next other => exact other image

theorem JavaType.isSlashless_sourceForm (type : JavaType) : IsSlashless type.sourceForm := by
  rw [IsSlashless, toList_sourceForm]
  induction type with
  | primitive type => exact type.not_mem_keyword.1
  | object internalName => exact isSlashless_dotted internalName
  | array element dimensions ih =>
      rw [sourceChars, List.mem_append]
      rintro (inElement | inBrackets)
      · exact ih inElement
      · rcases List.mem_flatten.mp inBrackets with ⟨pair, copied, inPair⟩
        rw [List.eq_of_mem_replicate copied] at inPair
        revert inPair
        decide

namespace Descriptor

variable {text : String}

/-- The name of a class is shown without slashes, be it an array or not. -/
theorem isSlashless_of_classDisplayName {name : String} (shown : classDisplayName text = .ok name) :
    IsSlashless name := by
  rw [classDisplayName] at shown
  split at shown
  · split at shown
    · contradiction
    · contradiction
    · next type _ _ =>
      cases shown
      exact type.isSlashless_sourceForm
  · cases shown
    exact isSlashless_dotted text

theorem isSlashless_of_argumentTypes {types : List String} (read : argumentTypes text = .ok types) :
    ∀ type ∈ types, IsSlashless type := by
  rcases Fallible.map_eq_ok_iff.mp read with ⟨methodType, -, rfl⟩
  intro type member
  rcases List.mem_map.mp member with ⟨parameter, -, rfl⟩
  exact parameter.isSlashless_sourceForm

end Descriptor

/-- A call site is well-formed. -/
structure CallSite.WellFormed (site : CallSite) : Prop where
  indexed : site.bootstrapIndex.isSome = true ↔ site.dispatch = .dynamic
  owner : IsSlashless site.owner
  argumentTypes : ∀ type ∈ site.argumentTypes, IsSlashless type

/-- A method that a bootstrap method hands over is well-formed. -/
structure MethodHandle.WellFormed (handle : MethodHandle) : Prop where
  owner : IsSlashless handle.owner
  argumentTypes : ∀ type ∈ handle.argumentTypes, IsSlashless type

/-- A method is well-formed: only a method with a body has instructions, which stand one behind the
other from the start of the code on. -/
structure Method.WellFormed (method : Method) : Prop where
  argumentTypes : ∀ type ∈ method.argumentTypes, IsSlashless type
  bodiless : method.isAbstract = true ∨ method.isNative = true → method.instructions = []
  starts : ∀ instruction ∈ method.instructions.head?, instruction.offset = 0
  increasing : (method.instructions.map Instruction.offset).Pairwise (· < ·)
  sites : ∀ instruction ∈ method.instructions, ∀ site, instruction.operation = .invoke site →
    site.WellFormed

/-- A class is well-formed. -/
structure JavaClass.WellFormed (javaClass : JavaClass) : Prop where
  name : IsSlashless javaClass.name
  slots : ∀ name, PoolSlot.classRef name ∈ javaClass.pool → IsSlashless name
  methods : ∀ method ∈ javaClass.methods, method.WellFormed
  handles : ∀ bootstrap ∈ javaClass.bootstrapMethods, ∀ handle ∈ bootstrap.handles,
    handle.WellFormed

variable {pool : ConstantPool}

theorem Bytecode.IsSite.wellFormed {index : UInt16} {dispatch : Dispatch} {site : CallSite}
    (names : IsSite pool index dispatch site) : site.WellFormed := by
  cases names with
  | named plain found shown typed =>
      exact ⟨iff_of_false nofun plain, Descriptor.isSlashless_of_classDisplayName shown,
        Descriptor.isSlashless_of_argumentTypes (Fallible.map_eq_ok_iff.mpr ⟨_, typed, rfl⟩)⟩
  | @dynamic target type found typed =>
      exact ⟨iff_of_true rfl rfl, type.result.isSlashless_sourceForm,
        Descriptor.isSlashless_of_argumentTypes (Fallible.map_eq_ok_iff.mpr ⟨_, typed, rfl⟩)⟩

theorem IsHandle.wellFormed {index : UInt16} {handle : MethodHandle}
    (isHandle : IsHandle pool index handle) : handle.WellFormed := by
  rcases isHandle with ⟨_, _, _, -, -, shown, -, typed⟩
  exact ⟨Descriptor.isSlashless_of_classDisplayName shown,
    Descriptor.isSlashless_of_argumentTypes typed⟩

/-- The first instruction of a walk stands at the start of the code. -/
theorem Bytecode.Tiles.offset_head? {code : Bytes} {offset : ℕ} {instructions : List Instruction}
    (tiles : Tiles code offset instructions) :
    ∀ instruction ∈ instructions.head?, instruction.offset = offset := by
  cases tiles with
  | done => exact nofun
  | next starts measured rest =>
      intro instruction first
      obtain rfl := Option.some.inj first
      exact starts

/-- A method is well-formed if its code is short enough for its offsets. -/
theorem Method.wellFormed_of_ofInfo {info : ClassFile.MethodInfo} {method : Method}
    (short : ∀ code, ClassFile.firstCode? info.attributes = some code →
      code.length < 0x100000000)
    (read : Method.ofInfo pool info = .ok method) : method.WellFormed := by
  rcases Method.ofInfo_eq_ok_iff.mp read with
    ⟨-, ⟨descriptor, -, typed⟩, isAbstract, isNative, hasBody⟩
  have argumentTypes := Descriptor.isSlashless_of_argumentTypes typed
  rw [HasBody] at hasBody
  split at hasBody
  · next bodiless =>
    refine ⟨argumentTypes, fun _ => hasBody, ?_, ?_, ?_⟩
    · simp [hasBody]
    · rw [hasBody]
      exact .nil
    · simp [hasBody]
  · next bodied =>
    rcases hasBody with ⟨code, first, walked⟩
    have tiles := Bytecode.tiles_of_walkFrom (short code first) (Nat.zero_le _) List.drop_zero
      walked
    refine ⟨argumentTypes, ?_, tiles.offset_head?, tiles.pairwise_lt, ?_⟩
    · intro bodiless
      rw [isAbstract, isNative, ← Bool.or_eq_true] at bodiless
      exact absurd bodiless bodied
    · rintro ⟨offset, _⟩ member site rfl
      rcases Bytecode.exists_callsAt walked member with ⟨_, _, -, -, names⟩
      exact names.wellFormed

theorem PoolSlot.isSlashless_of_mem_ofPool {name : String}
    (member : .classRef name ∈ PoolSlot.ofPool pool) : IsSlashless name := by
  rw [PoolSlot.ofPool] at member
  split at member
  · contradiction
  · rcases List.mem_cons.mp member with contra | member
    · contradiction
    · rcases List.mem_map.mp member with ⟨constant, -, made⟩
      rcases PoolSlot.ofConstant_eq_classRef_iff.mp made with ⟨_, internal, -, -, rfl⟩
      exact isSlashless_dotted internal

namespace JavaClass

variable {javaClass : JavaClass} {method : Method}

/-- A class is well-formed if the code of its methods is short enough for its offsets. -/
theorem wellFormed_of_ofFile {file : ClassFile}
    (short : ∀ info ∈ file.methods, ∀ code, ClassFile.firstCode? info.attributes = some code →
      code.length < 0x100000000)
    (read : ofFile file = .ok javaClass) : javaClass.WellFormed where
  name := by
    rcases ofFile_eq_ok_iff.mp read with ⟨name, _, -, -, rfl⟩
    exact isSlashless_dotted name
  slots := by
    intro name listed
    rw [pool_of_ofFile read] at listed
    exact PoolSlot.isSlashless_of_mem_ofPool listed
  methods := by
    intro method declared
    rcases exists_info read declared with ⟨info, given, built⟩
    exact Method.wellFormed_of_ofInfo (short info given) built
  handles := by
    intro bootstrap listed handle handed
    rcases List.mem_iff_getElem?.mp listed with ⟨position, found⟩
    rcases exists_record read found with ⟨_, bootstrapRecord, -, -, rfl⟩
    rcases List.mem_filterMap.mp handed with ⟨_, -, isHandle⟩
    exact (MethodHandle.ofIndex?_eq_some_iff.mp isHandle).wellFormed

/-! ## Sites at which bootstrap methods are looked up -/

/-- A bootstrap method is looked up for an instruction: either it is found, or it is reported that
there is none. -/
inductive LooksUp (javaClass : JavaClass) (method : Method) (instruction : Instruction) : Prop where
  | found {site : CallSite} {bootstrap : BootstrapMethod}
      (calls : instruction.operation = .invoke site)
      (links : javaClass.bootstrapOf? site = some bootstrap)
  | reported {event : Event} (missing : javaClass.linkEvent? method instruction = some event)

end JavaClass

/-- The sites of a method that are shown as dynamic calls. -/
def Method.taggedSites (method : Method) : List CallSite :=
  method.sites.filter (·.dispatch.tag = 'D')

/-- The linked calls of a method come from the sites that are shown as dynamic calls, and from all
of these. -/
structure JavaClass.LinksTagged (javaClass : JavaClass) (method : Method) : Prop where
  /-- Bootstrap methods are looked up where a dynamic call is shown. -/
  looksUp_iff : ∀ instruction ∈ method.instructions, javaClass.LooksUp method instruction ↔
    ∃ site, instruction.operation = .invoke site ∧ site.dispatch.tag = 'D'
  linked : ∀ filter, javaClass.linkedCalls filter method =
    method.taggedSites.flatMap fun site =>
      (site.handles javaClass.bootstrapMethods).filterMap
        (MethodHandle.linkedCall? filter (javaClass.caller method))
  tagged : ∀ filter,
    (method.staticCalls filter (javaClass.caller method)).filter (·.dispatch.tag = 'D') =
      method.taggedSites.filterMap (CallSite.staticCall? filter (javaClass.caller method))

theorem Dispatch.tag_eq_iff {dispatch : Dispatch} : dispatch.tag = 'D' ↔ dispatch = .dynamic := by
  cases dispatch <;> decide

/-- A site is shown as a dynamic call if and only if it has the index of a bootstrap method. -/
theorem CallSite.WellFormed.tag_eq_iff {site : CallSite} (wellFormed : site.WellFormed) :
    site.dispatch.tag = 'D' ↔ site.bootstrapIndex.isSome = true := by
  rw [Dispatch.tag_eq_iff, wellFormed.indexed]

namespace JavaClass

variable {javaClass : JavaClass} {method : Method}

/-- A bootstrap method is looked up for an instruction if and only if the instruction calls and its
site has the index of a bootstrap method. -/
theorem looksUp_iff {instruction : Instruction} :
    javaClass.LooksUp method instruction ↔
      ∃ site, instruction.operation = .invoke site ∧ site.bootstrapIndex.isSome = true := by
  constructor
  · intro looks
    cases looks with
    | @found site bootstrap calls links =>
        rcases Option.bind_eq_some_iff.mp links with ⟨index, indexed, -⟩
        exact ⟨site, calls, Option.isSome_of_eq_some indexed⟩
    | reported missing =>
        rcases linkEvent?_eq_some_iff.mp missing with ⟨_, site, _, rfl, indexed, -, -⟩
        exact ⟨site, rfl, Option.isSome_of_eq_some indexed⟩
  · rcases instruction with ⟨offset, _⟩
    rintro ⟨site, rfl, indexed⟩
    rcases Option.isSome_iff_exists.mp indexed with ⟨index, indexed⟩
    cases listed : javaClass.bootstrapMethods[index.toNat]? with
    | some bootstrap => exact .found rfl (Option.bind_eq_some_iff.mpr ⟨index, indexed, listed⟩)
    | none =>
        have outside := List.getElem?_eq_none_iff.mp listed
        exact .reported
          (linkEvent?_eq_some_iff.mpr ⟨offset, site, index, rfl, indexed, outside, rfl⟩)

/-- In a method that is well-formed, bootstrap methods are looked up for the dynamic calls. -/
theorem linksTagged_of_wellFormed (wellFormed : method.WellFormed) :
    javaClass.LinksTagged method where
  looksUp_iff := by
    intro instruction member
    rw [JavaClass.looksUp_iff]
    constructor
    · rintro ⟨site, calls, indexed⟩
      exact ⟨site, calls, (wellFormed.sites _ member site calls).tag_eq_iff.mpr indexed⟩
    · rintro ⟨site, calls, tagged⟩
      exact ⟨site, calls, (wellFormed.sites _ member site calls).tag_eq_iff.mp tagged⟩
  linked := by
    intro filter
    have indexedSites : method.taggedSites = method.sites.filter (·.bootstrapIndex.isSome) := by
      apply List.filter_congr
      intro site listed
      rcases Method.mem_sites_iff.mp listed with ⟨-, offset, member⟩
      have same := (wellFormed.sites _ member site rfl).tag_eq_iff
      exact Bool.eq_iff_iff.mpr (decide_eq_true_iff.trans same)
    rw [indexedSites, linkedCalls]
    apply flatMap_eq_flatMap_filter
    intro site unindexed
    rw [Option.not_isSome_iff_eq_none] at unindexed
    rw [CallSite.handles, unindexed]
    rfl
  tagged := by
    intro filter
    rw [Method.staticCalls, Method.taggedSites, List.filter_filterMap, List.filterMap_filter]
    apply List.filterMap_congr
    intro site listed
    rw [CallSite.staticCall?]
    by_cases accepted : filter.accepts site.owner = true
    · rw [if_pos accepted]
      rfl
    · rw [if_neg accepted]
      exact (ite_self none).symm

/-- What is read from bytes is well-formed: sites have bootstrap methods if and only if they are
dynamic, instructions stand at increasing offsets from 0 on, and no slash is left in a name.
Bootstrap methods are looked up for just those sites that are shown as dynamic calls. -/
theorem wellFormed_of_ofBytes (bytes : Bytes) (javaClass : JavaClass)
    (read : ofBytes bytes = .ok javaClass) :
    javaClass.WellFormed ∧ ∀ method ∈ javaClass.methods, javaClass.LinksTagged method := by
  rcases ofBytes_eq_ok_iff.mp read with ⟨file, decoded, accepted⟩
  have wellFormed : javaClass.WellFormed := by
    refine wellFormed_of_ofFile ?_ accepted
    intro info declared code first
    exact ClassFile.length_lt_of_decode decoded declared first
  refine ⟨wellFormed, fun method declared => ?_⟩
  exact linksTagged_of_wellFormed (wellFormed.methods method declared)

/-- Of a static and a dynamic call, the dynamic one is shown as such and has a bootstrap method. -/
theorem wellFormed_of_ofBytes_linkedCalls :
    ∃ javaClass, ofBytes (Assembler.assemble "pkg/A" Assembler.linkedCalls).2 = .ok javaClass ∧
      javaClass.WellFormed ∧
      ∃ method ∈ javaClass.methods, method.taggedSites.map (·.name) = ["run"] ∧
        javaClass.LinksTagged method := by
  have tagged : (ofBytes (Assembler.assemble "pkg/A" Assembler.linkedCalls).2).map
      (fun javaClass => javaClass.methods.map fun method => method.taggedSites.map (·.name)) =
        .ok [["run"]] := by
    decide +kernel
  rcases Fallible.map_eq_ok_iff.mp tagged with ⟨javaClass, read, tagged⟩
  rcases wellFormed_of_ofBytes _ javaClass read with ⟨wellFormed, links⟩
  have listed : ["run"] ∈ javaClass.methods.map fun method => method.taggedSites.map (·.name) := by
    rw [tagged]
    exact .head _
  rcases List.mem_map.mp listed with ⟨method, declared, names⟩
  exact ⟨javaClass, read, wellFormed, method, declared, names, links method declared⟩

end JavaClass

end CallGraph
