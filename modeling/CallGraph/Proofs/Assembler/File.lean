import CallGraph.Proofs.Assembler.Following

/-!
# Reading assembled files

The file of a class under construction is read back part by part: the constants, the methods with
their code, and the bootstrap methods.  No part depends on what was written elsewhere, except that
the names of attributes are looked up in the constants.
-/

namespace CallGraph

namespace Assembler

open ClassFile
open ClassFile.Decoder

theorem takes_attributeName {table : ConstantPool} {index : UInt16} {name : String}
    (text : IsText table index name) : Takes (attributeName table index) [] name := by
  intro length rest
  rw [attributeName, text]
  rfl

/-- The stated length of an attribute is read, whatever it is. -/
theorem takes_doubleWord (number : Nat) :
    Takes u4 (doubleWord number) (UInt32.ofNat (Bytes.toNatBE (doubleWord number))) :=
  (takes_number (doubleWord number) (Bytes.length_ofNatBE 4 number)).map UInt32.ofNat

/-- An attribute is read whose body is read, whatever length is stated. -/
theorem takes_namedBlock {nested : Decoder (List Attribute)} {table : ConstantPool}
    {index : UInt16} {name : String} {body : Bytes} {kept : Attribute}
    (text : IsText table index name)
    (taken : ∀ length, Takes (attributeBody nested name length) body kept) :
    Takes (attributeWith nested table) (namedBlock index body) kept := by
  rw [namedBlock, List.append_assoc]
  refine (takes_u2 index).bind ?_
  rw [← List.nil_append (doubleWord body.length ++ body)]
  refine (takes_attributeName text).bind ?_
  exact (takes_doubleWord body.length).bind (taken _)

theorem takes_code {nested : Decoder (List Attribute)} {table : ConstantPool}
    {code : AssembledCode} (text : IsText table code.attributeName "Code")
    (short : code.code.length < 0x100000000) (inner : Takes nested (word 0) []) :
    Takes (attributeWith nested table) code.encode (.code code.code) := by
  refine takes_namedBlock text fun _ => ?_
  have frame : Takes (skip [2, 2]) (word frameLimit ++ word frameLimit) () := takes_skip rfl
  have size_eq : (UInt32.ofNat code.code.length).toNat = code.code.length :=
    UInt32.toNat_ofNat_of_lt' short
  have sized := takes_u4 (UInt32.ofNat code.code.length)
  rw [size_eq] at sized
  rw [List.append_assoc, List.append_assoc, List.append_assoc]
  refine frame.bind (sized.bind ?_)
  rw [size_eq]
  refine (takes_block code.code).bind ?_
  refine (takes_table_nil (skip [2, 2, 2, 2])).bind ?_
  exact inner.map fun _ => Attribute.code code.code

theorem takes_bootstrapRecord {bootstrap : AssembledBootstrap}
    (counted : bootstrap.arguments.length < 0x10000) :
    Takes bootstrapRecord bootstrap.encode bootstrap.record := by
  have arguments := takes_table (fun argument : UInt16 => word argument.toNat) id counted
    fun argument _ => takes_u2 argument
  have built := arguments.map (BootstrapRecord.mk bootstrap.handleIndex)
  rw [List.map_id] at built
  rw [AssembledBootstrap.encode, List.append_assoc]
  exact (takes_u2 bootstrap.handleIndex).bind built

/-- A table of attributes is read that is read at every depth but the lowest. -/
theorem takes_attributeTable {table : ConstantPool} {bytes : Bytes} {attributes : List Attribute}
    (occupied : bytes ≠ [])
    (taken : ∀ depth, Takes (attributesAt table (depth + 2)) bytes attributes) :
    Takes (attributeTable table) bytes attributes := by
  intro length rest
  -- A byte is left at least, and so the bound on the depth is two at least.
  obtain ⟨byte, bytes, rfl⟩ := List.exists_cons_of_ne_nil occupied
  exact taken (bytes ++ rest).length length rest

/-- A table without attributes is read at every depth. -/
theorem takes_attributesAt_nil (table : ConstantPool) (depth : Nat) :
    Takes (attributesAt table (depth + 1)) (word 0) [] :=
  takes_table_nil (attributeWith (attributesAt table depth) table)

theorem takes_attributesAt_one {table : ConstantPool} {depth : Nat} {bytes : Bytes}
    {kept : Attribute}
    (taken : Takes (attributeWith (attributesAt table depth) table) bytes kept) :
    Takes (attributesAt table (depth + 1)) (word 1 ++ bytes) [kept] := by
  have counted : [()].length < 0x10000 := by decide
  have both := takes_table (fun _ => bytes) (fun _ => kept) counted fun _ _ => taken
  rw [List.flatMap_singleton] at both
  exact both

/-- A method can be read back: its code is labelled as such, and is not too long. -/
def AssembledMethod.Readable (table : ConstantPool) (method : AssembledMethod) : Prop :=
  ∀ code, method.code = some code →
    IsText table code.attributeName "Code" ∧ code.code.length < 0x100000000

/-- The method as it is read back. -/
def AssembledMethod.info (method : AssembledMethod) : MethodInfo :=
  ⟨method.access, method.nameIndex, method.descriptorIndex,
    method.code.toList.map fun code => .code code.code⟩

theorem takes_member {table : ConstantPool} {method : AssembledMethod}
    (readable : method.Readable table) :
    Takes (member table) method.encode method.info := by
  rcases method with ⟨access, nameIndex, descriptorIndex, code⟩
  have behind : ∀ {bytes : Bytes} {attributes : List Attribute},
      Takes (attributeTable table) bytes attributes →
      Takes (member table)
        (word access.toNat ++ word nameIndex.toNat ++ word descriptorIndex.toNat ++ bytes)
        ⟨access, nameIndex, descriptorIndex, attributes⟩ := by
    intro bytes attributes taken
    rw [List.append_assoc, List.append_assoc]
    exact (takes_u2 access).bind ((takes_u2 nameIndex).bind ((takes_u2 descriptorIndex).bind
      (taken.map (MethodInfo.mk access nameIndex descriptorIndex))))
  cases code with
  | none =>
      apply behind
      apply takes_attributeTable (by simp [word, Bytes.ofNatBE])
      exact fun depth => takes_attributesAt_nil table (depth + 1)
  | some code =>
      obtain ⟨labelled, short⟩ := readable code rfl
      apply behind
      apply takes_attributeTable (by simp [word, Bytes.ofNatBE])
      exact fun depth =>
        takes_attributesAt_one (takes_code labelled short (takes_attributesAt_nil table depth))

/-! ## Classes -/

namespace Builder

/-- The constants as they are read back, with what the attributes of the class have added. -/
def table (builder : Builder) : ConstantPool :=
  builder.attributes.2.slots.toArray

/-- The attributes of the class as they are read back. -/
def keptAttributes (builder : Builder) : List Attribute :=
  if builder.bootstrapMethods.isEmpty then []
  else [.bootstrapMethods (builder.bootstrapMethods.map AssembledBootstrap.record)]

theorem firstBootstrapMethods?_keptAttributes (builder : Builder) :
    (firstBootstrapMethods? builder.keptAttributes).getD [] =
      builder.bootstrapMethods.map AssembledBootstrap.record := by
  unfold keptAttributes
  cases builder.bootstrapMethods with
  | nil => rfl
  | cons bootstrap bootstraps => rfl

/-- The class file as it is read back. -/
def decoded (builder : Builder) : ClassFile where
  constantPool := builder.table
  thisIndex := builder.thisClass
  superIndex := builder.superClass
  interfaceIndices := []
  methods := builder.methods.map AssembledMethod.info
  attributes := builder.keptAttributes

/-- All that a class under construction holds can be written. -/
structure Writable (builder : Builder) : Prop where
  wellFormed : builder.pool.WellFormed
  fits : builder.attributes.2.Fits
  methods : builder.methods.length < 0x10000
  readable : ∀ method ∈ builder.methods, method.Readable builder.table
  bootstraps : builder.bootstrapMethods.length < 0x10000
  arguments : ∀ bootstrap ∈ builder.bootstrapMethods, bootstrap.arguments.length < 0x10000

/-- The attributes of a class add to its pool, and are read back. -/
theorem attributes_step {builder : Builder} (wellFormed : builder.pool.WellFormed)
    (counted : builder.bootstrapMethods.length < 0x10000)
    (arguments : ∀ bootstrap ∈ builder.bootstrapMethods, bootstrap.arguments.length < 0x10000) :
    PoolBuilder.Step builder.pool
      (fun table bytes => Takes (attributeTable table) bytes builder.keptAttributes)
      builder.attributes.1 builder.attributes.2 := by
  by_cases none : builder.bootstrapMethods.isEmpty
  · have attributes_eq : builder.attributes = (word 0, builder.pool) := if_pos none
    have kept_eq : builder.keptAttributes = [] := if_pos none
    rw [attributes_eq, kept_eq]
    refine ⟨wellFormed, .refl builder.pool, fun table _ => ?_⟩
    apply takes_attributeTable (by simp [word, Bytes.ofNatBE])
    exact fun depth => takes_attributesAt_nil table (depth + 1)
  · have shortName : PoolBuilder.Short "BootstrapMethods" := by decide
    obtain ⟨after, continues, named⟩ :=
      PoolBuilder.grows_utf8 shortName builder.pool wellFormed
    have attributes_eq : builder.attributes =
        (word 1 ++ namedBlock (PoolBuilder.utf8 "BootstrapMethods" builder.pool).1
            (word builder.bootstrapMethods.length ++
              builder.bootstrapMethods.flatMap AssembledBootstrap.encode),
          (PoolBuilder.utf8 "BootstrapMethods" builder.pool).2) := if_neg none
    have kept_eq : builder.keptAttributes =
        [.bootstrapMethods (builder.bootstrapMethods.map AssembledBootstrap.record)] :=
      if_neg none
    rw [attributes_eq, kept_eq]
    refine ⟨after, continues, fun table within => ?_⟩
    apply takes_attributeTable (by simp [word, Bytes.ofNatBE])
    intro depth
    refine takes_attributesAt_one (takes_namedBlock (named table within) fun _ => ?_)
    have records := takes_table AssembledBootstrap.encode AssembledBootstrap.record counted
      fun bootstrap member => takes_bootstrapRecord (arguments bootstrap member)
    exact records.map Attribute.bootstrapMethods

/-- The class file of a class that can be written is read back as it is. -/
theorem decode_toBytes {builder : Builder} (writable : builder.Writable) :
    decode builder.toBytes = .ok builder.decoded := by
  obtain ⟨wellFormed, fits, methods, readable, bootstraps, arguments⟩ := writable
  obtain ⟨written, -, attributes⟩ := attributes_step wellFormed bootstraps arguments
  have pool := takes_poolTable written.writable fits
  have counted : builder.attributes.2.nextIndex.toNat =
      (slotsOf builder.attributes.2.constants.toList).length + 1 := written.toNat_nextIndex fits
  rw [← counted] at pool
  have members := takes_table AssembledMethod.encode AssembledMethod.info methods
    fun method member => takes_member (readable method member)
  apply Ends.run_eq
  -- What is written is regrouped on the way into the blocks that the decoders take.
  simp only [toBytes, List.append_assoc]
  have magic_fits : magic < Nat.pow 256 4 := by decide
  refine (takes_number_of_lt 4 magic_fits).bind_ends ?_
  rw [if_pos rfl, ← List.append_assoc]
  have versions : Takes (skip [2, 2]) (word 0 ++ word formatVersion) () := takes_skip rfl
  refine versions.bind_ends ?_
  rw [← List.append_assoc]
  refine pool.bind_ends ?_
  have access : Takes (skip [2]) (word classAccess) () := takes_skip rfl
  refine access.bind_ends ?_
  refine (takes_u2 builder.thisClass).bind_ends ?_
  refine (takes_u2 builder.superClass).bind_ends ?_
  refine (takes_table_nil u2).bind_ends ?_
  refine (takes_table_nil (member builder.table)).bind_ends ?_
  rw [← List.append_assoc]
  refine members.bind_ends ?_
  rw [← List.append_nil builder.attributes.1]
  refine (attributes builder.table ⟨fits, List.prefix_rfl⟩).bind_ends ?_
  exact ends_finish _

end Builder

end Assembler

end CallGraph
