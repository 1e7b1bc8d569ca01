import CallGraph.Proofs.Bytecode.FirstFault
import CallGraph.Proofs.JavaClass.OfFile

/-!
# The references of a class file

Decoding a class file follows no index, so the indices of its header, of its methods and of the
calls in their code may lead anywhere.  A class file is accepted if and only if its own name, the
names and descriptors of its methods and the operands of their calls lead where they should, and
every method that has to have code has code without gaps.

The indices of the superclass and of the interfaces are left out: they are never followed, so that
they may dangle in a class that is accepted.
-/

namespace CallGraph

namespace Bytecode

open ClassFile (ConstantPool)

variable {pool : ConstantPool} {code : Bytes} {offset : Nat} {dispatch : Dispatch} {index : UInt16}

/-- Code has no gaps, and each of its calls names a site. -/
structure Resolves (pool : ConstantPool) (code : Bytes) : Prop where
  /-- Every instruction has a length and fits into the rest of the code. -/
  measured : ∀ offset < code.length, Reaches code offset →
    ∃ length, lengthAt? code offset = some (.ok length) ∧ offset + length ≤ code.length
  /-- The operand of every call leads to a site. -/
  calls : ∀ offset dispatch index, CallsAt code offset dispatch index →
    ∃ site, IsSite pool index dispatch site

theorem Refuses.not_isSite {fault : Fault} (refuses : Refuses pool offset index dispatch fault)
    (site : CallSite) : ¬IsSite pool index dispatch site := by
  intro names
  have failed := siteOf_eq_error_iff.mpr refuses
  rw [siteOf_eq_ok_iff.mpr names] at failed
  contradiction

theorem exists_isSite_or_refuses (pool : ConstantPool) (offset : Nat) (dispatch : Dispatch)
    (index : UInt16) :
    (∃ site, IsSite pool index dispatch site) ∨
      ∃ fault, Refuses pool offset index dispatch fault := by
  cases found : siteOf pool offset dispatch index with
  | ok site => exact .inl ⟨site, siteOf_eq_ok_iff.mp found⟩
  | error fault => exact .inr ⟨fault, siteOf_eq_error_iff.mp found⟩

theorem resolves_iff_not_faultAt :
    Resolves pool code ↔ ∀ offset fault, Reaches code offset → ¬FaultAt pool code offset fault := by
  constructor
  · intro resolves offset fault reached wrong
    obtain ⟨length, measured, fits⟩ := resolves.measured offset wrong.lt_length reached
    cases wrong with
    | length unmeasured =>
        rw [measured, Option.some.injEq] at unmeasured
        contradiction
    | overrun measured' past =>
        rw [measured, Option.some.injEq, Except.ok.injEq] at measured'
        omega
    | refused _ _ calls refuses =>
        obtain ⟨site, names⟩ := resolves.calls _ _ _ calls
        exact refuses.not_isSite site names
  · intro sound
    have measured : ∀ offset < code.length, Reaches code offset →
        ∃ length, lengthAt? code offset = some (.ok length) ∧ offset + length ≤ code.length := by
      intro offset inside reached
      have there := lengthAt?_of_drop (List.drop_eq_getElem_cons inside)
      cases measure : instructionLength offset code[offset] (code.drop (offset + 1)) with
      | error cause =>
          rw [measure] at there
          exact absurd (.length there) (sound offset _ reached)
      | ok length =>
          rw [measure] at there
          refine ⟨length, there, Nat.le_of_not_lt fun past => ?_⟩
          exact sound offset _ reached (.overrun there past)
    refine ⟨measured, fun offset dispatch index calls => ?_⟩
    rcases exists_isSite_or_refuses pool offset dispatch index with named | ⟨fault, refuses⟩
    · exact named
    · have ⟨_, _, reached, there, _⟩ := calls
      obtain ⟨length, there, fits⟩ := measured offset (lt_length_of_drop there) reached
      exact absurd (.refused there fits calls refuses) (sound offset fault reached)

/-- Code can be walked if and only if it has no gaps and each of its calls names a site. -/
theorem exists_walk_eq_ok_iff :
    (∃ instructions, walk pool code = .ok instructions) ↔ Resolves pool code := by
  rw [resolves_iff_not_faultAt]
  constructor
  · rintro ⟨instructions, walked⟩ offset fault reached wrong
    obtain ⟨other, failed⟩ := exists_walk_eq_error_iff.mpr ⟨offset, fault, reached, wrong⟩
    rw [walked] at failed
    contradiction
  · intro sound
    cases walked : walk pool code with
    | ok instructions => exact ⟨instructions, rfl⟩
    | error fault =>
        obtain ⟨offset, other, reached, wrong⟩ := exists_walk_eq_error_iff.mp ⟨fault, walked⟩
        exact absurd wrong (sound offset other reached)

end Bytecode

open ClassFile (ConstantPool IsText IsClass)

/-- The references of a method lead where they should. -/
structure ClassFile.MethodInfo.Resolves (pool : ConstantPool) (info : ClassFile.MethodInfo) :
    Prop where
  /-- The name is found. -/
  named : ∃ name, IsText pool info.nameIndex name
  /-- The descriptor is found and well-formed. -/
  typed : ∃ descriptor type, IsText pool info.descriptorIndex descriptor ∧
    Descriptor.methodType descriptor = .ok type
  /-- A method that is neither abstract nor native has code, whose references lead where they
  should. -/
  coded : info.isAbstract = false → info.isNative = false →
    ∃ code, ClassFile.firstCode? info.attributes = some code ∧ Bytecode.Resolves pool code

/-- The references of a class file that are followed lead where they should. -/
structure ClassFile.Resolves (file : ClassFile) : Prop where
  /-- The name of the class is found. -/
  named : ∃ name, IsClass file.constantPool file.thisIndex name
  /-- The references of every method lead where they should. -/
  methods : ∀ info ∈ file.methods, info.Resolves file.constantPool

/-- The superclass, if there is one, and the interfaces of a class file are found. -/
structure ClassFile.SupertypesResolve (file : ClassFile) : Prop where
  superclass : file.superIndex ≠ 0 → ∃ name, IsClass file.constantPool file.superIndex name
  interfaces : ∀ index ∈ file.interfaceIndices, ∃ name, IsClass file.constantPool index name

/-- If bytes are accepted as a class, then none of the references in them dangles. -/
def RefusesDangling (bytes : Bytes) : Prop :=
  ∀ file, ClassFile.decode bytes = .ok file →
    (∃ javaClass, JavaClass.ofBytes bytes = .ok javaClass) →
      file.Resolves ∧ file.SupertypesResolve

/-- A method is accepted if and only if its references lead where they should. -/
theorem Method.exists_ofInfo_eq_ok_iff {pool : ConstantPool} {info : ClassFile.MethodInfo} :
    (∃ method, Method.ofInfo pool info = .ok method) ↔ info.Resolves pool := by
  simp only [Method.ofInfo_eq_ok_iff, HasBody]
  constructor
  · rintro ⟨method, named, ⟨descriptor, found, typed⟩, -, -, body⟩
    obtain ⟨type, typed, -⟩ := Fallible.map_eq_ok_iff.mp typed
    refine ⟨⟨_, named⟩, ⟨descriptor, type, found, typed⟩, fun concrete managed => ?_⟩
    rw [concrete, managed] at body
    obtain ⟨code, first, walked⟩ := body
    exact ⟨code, first, Bytecode.exists_walk_eq_ok_iff.mp ⟨_, walked⟩⟩
  · rintro ⟨⟨name, named⟩, ⟨descriptor, type, found, typed⟩, coded⟩
    have arguments :=
      congrArg (Except.map fun type => type.parameters.map JavaType.sourceForm) typed
    by_cases bodiless : (info.isAbstract || info.isNative) = true
    · refine ⟨⟨name, _, info.isAbstract, info.isNative, []⟩, named, ⟨descriptor, found, arguments⟩,
        rfl, rfl, ?_⟩
      rw [if_pos bodiless]
    · have plain : info.isAbstract = false ∧ info.isNative = false := by
        simpa using bodiless
      obtain ⟨code, first, resolves⟩ := coded plain.1 plain.2
      obtain ⟨instructions, walked⟩ := Bytecode.exists_walk_eq_ok_iff.mpr resolves
      refine ⟨⟨name, _, info.isAbstract, info.isNative, instructions⟩, named,
        ⟨descriptor, found, arguments⟩, rfl, rfl, ?_⟩
      rw [if_neg bodiless]
      exact ⟨code, first, walked⟩

namespace JavaClass

/-- A class file is accepted if and only if the references that are followed lead where they
should. -/
theorem exists_ofFile_eq_ok_iff {file : ClassFile} :
    (∃ javaClass, ofFile file = .ok javaClass) ↔ file.Resolves := by
  constructor
  · rintro ⟨javaClass, accepted⟩
    obtain ⟨name, methods, named, accepted, -⟩ := ofFile_eq_ok_iff.mp accepted
    refine ⟨⟨name, named⟩, fun info member => Method.exists_ofInfo_eq_ok_iff.mp ?_⟩
    exact Fallible.exists_of_mapM_eq_ok (Fallible.mapM_eq_ok_iff.mpr accepted) member
  · rintro ⟨⟨name, named⟩, resolves⟩
    obtain ⟨methods, accepted⟩ := Fallible.exists_mapM_eq_ok fun info member =>
      Method.exists_ofInfo_eq_ok_iff.mpr (resolves info member)
    exact ⟨_, ofFile_eq_ok_iff.mpr ⟨name, methods, named, Fallible.mapM_eq_ok_iff.mp accepted, rfl⟩⟩

/-- Bytes are accepted as a class if and only if they spell a class file that is accepted. -/
theorem exists_ofBytes_eq_ok_iff {bytes : Bytes} :
    (∃ javaClass, ofBytes bytes = .ok javaClass) ↔
      ∃ file, ClassFile.decode bytes = .ok file ∧ file.Resolves := by
  simp only [← exists_ofFile_eq_ok_iff, ofBytes_eq_ok_iff]
  constructor
  · rintro ⟨javaClass, file, decoded, accepted⟩
    exact ⟨file, decoded, javaClass, accepted⟩
  · rintro ⟨file, decoded, javaClass, accepted⟩
    exact ⟨javaClass, file, decoded, accepted⟩

/-- Bytes are accepted as a class if and only if they spell a class file whose references lead
where they should, as far as they are followed.  Those of the supertypes are not followed and make
no difference. -/
theorem ofBytes_accepts_iff (bytes : Bytes) :
    ((∃ javaClass, ofBytes bytes = .ok javaClass) ↔
      ∃ file, ClassFile.decode bytes = .ok file ∧ file.Resolves) ∧
    (RefusesDangling bytes ↔
      ∀ file, ClassFile.decode bytes = .ok file → file.Resolves → file.SupertypesResolve) ∧
    ∀ (file : ClassFile) (superIndex : UInt16) (interfaceIndices : List UInt16),
      ofFile { file with superIndex, interfaceIndices } = ofFile file := by
  refine ⟨exists_ofBytes_eq_ok_iff, ⟨?_, ?_⟩, fun _ _ _ => rfl⟩
  · intro refuses file decoded resolves
    exact (refuses file decoded (exists_ofBytes_eq_ok_iff.mpr ⟨file, decoded, resolves⟩)).2
  · intro supertypes file decoded accepted
    obtain ⟨other, decoded', resolves⟩ := exists_ofBytes_eq_ok_iff.mp accepted
    obtain rfl : file = other := Except.ok.inj (decoded.symm.trans decoded')
    exact ⟨resolves, supertypes file decoded resolves⟩

/-- A class `A` without methods whose superclass lies outside its constant pool. -/
def danglingSuperclass : Bytes :=
  [0xca, 0xfe, 0xba, 0xbe, 0x00, 0x00, 0x00, 0x34,  -- magic and version
   0x00, 0x03, 0x01, 0x00, 0x01, 0x41,              -- the text A
   0x07, 0x00, 0x01,                                -- the class of that name
   0x00, 0x21, 0x00, 0x02, 0x7f, 0xff,              -- flags, class and superclass
   0x00, 0x00, 0x00, 0x00, 0x00, 0x00, 0x00, 0x00]  -- no members and no attributes

theorem not_refusesDangling_danglingSuperclass : ¬RefusesDangling danglingSuperclass := by
  intro refuses
  have decoded : ClassFile.decode danglingSuperclass =
      .ok ⟨#[.empty, .utf8 "A", .classInfo 1], 2, 0x7fff, [], [], []⟩ := rfl
  have accepted := exists_ofBytes_eq_ok_iff.mpr
    ⟨_, decoded, ⟨"A", 1, rfl, rfl⟩, List.forall_mem_nil _⟩
  obtain ⟨-, supertypes⟩ := refuses _ decoded accepted
  -- The superclass would have to stand in slot 0x7fff of a pool with three slots.
  obtain ⟨_, _, found, -⟩ := supertypes.superclass (by decide)
  contradiction

end JavaClass

end CallGraph
