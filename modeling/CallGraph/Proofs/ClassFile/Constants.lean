import CallGraph.ClassFile
import CallGraph.Proofs.ClassFile.Takes

/-!
# Reading constants back

A constant that was written is read back as it was, if its text is short enough for its length to be
written, and so is a pool of constants: each takes the slots that its width says.
-/

namespace CallGraph

theorem ModifiedUtf8.decode?_ofString (text : String) :
    ModifiedUtf8.decode? (Bytes.ofString text) = some text := by
  have bytes_eq : (Bytes.ofString text).toByteArray = text.toUTF8 :=
    ByteArray.ext (Array.ext' List.toList_data_toByteArray)
  have decoded : Utf8.decode? (Bytes.ofString text) = some text := by
    rw [Utf8.decode?, bytes_eq, String.fromUTF8?, String.toUTF8_eq_toByteArray,
      dif_pos text.isValidUTF8]
    rfl
  rw [ModifiedUtf8.decode?, decoded]

namespace ClassFile

open Decoder

/-- A constant that can be written: it is no empty slot, and its text is not too long. -/
def Constant.Writable : Constant → Prop
  | .empty => False
  | .utf8 value => (Bytes.ofString value).length < 0x10000
  | _ => True

theorem takes_index (index : UInt16) : Takes u2 (Constant.indexBytes index) index :=
  takes_u2 index

theorem takes_textConstant {value : String} (short : (Bytes.ofString value).length < 0x10000) :
    Takes textConstant
      (Bytes.ofNatBE 2 (Bytes.ofString value).length ++ Bytes.ofString value) (.utf8 value) := by
  have read : (UInt16.ofNat (Bytes.ofString value).length).toNat = (Bytes.ofString value).length :=
    UInt16.toNat_ofNat_of_lt' short
  have count := takes_u2 (UInt16.ofNat (Bytes.ofString value).length)
  rw [read] at count
  refine count.bind ?_
  rw [read]
  refine (takes_block (Bytes.ofString value)).bind_nil ?_
  rw [ModifiedUtf8.decode?_ofString]
  exact takes_pure _

theorem takes_constant {constant : Constant} (writable : constant.Writable) :
    Takes ClassFile.constant constant.encode constant := by
  cases constant with
  | empty => exact writable.elim
  | utf8 value => exact (takes_u1 1).bind (takes_textConstant writable)
  | integer value =>
      have read := (takes_number_of_lt 4 value.toUInt32.toNat_lt).map
        fun number => Constant.integer (UInt32.ofNat number).toInt32
      rw [UInt32.ofNat_toNat, Int32.toInt32_toUInt32] at read
      exact (takes_u1 3).bind read
  | float word =>
      have read := (takes_block (Bytes.ofNatBE 4 word.toNat)).map
        fun bytes => Constant.float (UInt32.ofNat (Bytes.toNatBE bytes))
      rw [Bytes.toNatBE_ofNatBE_of_lt word.toNat_lt, UInt32.ofNat_toNat,
        Bytes.length_ofNatBE] at read
      exact (takes_u1 4).bind read
  | long value =>
      have read := (takes_number_of_lt 8 value.toUInt64.toNat_lt).map
        fun number => Constant.long (UInt64.ofNat number).toInt64
      rw [UInt64.ofNat_toNat, Int64.toInt64_toUInt64] at read
      exact (takes_u1 5).bind read
  | double word =>
      have read := (takes_block (Bytes.ofNatBE 8 word.toNat)).map
        fun bytes => Constant.double (UInt64.ofNat (Bytes.toNatBE bytes))
      rw [Bytes.toNatBE_ofNatBE_of_lt word.toNat_lt, UInt64.ofNat_toNat,
        Bytes.length_ofNatBE] at read
      exact (takes_u1 6).bind read
  | classInfo nameIndex => exact (takes_u1 7).bind ((takes_index nameIndex).map Constant.classInfo)
  | string stringIndex => exact (takes_u1 8).bind ((takes_index stringIndex).map Constant.string)
  | fieldRef classIndex nameAndTypeIndex =>
      exact (takes_u1 9).bind ((takes_index classIndex).bind
        ((takes_index nameAndTypeIndex).map (Constant.fieldRef classIndex)))
  | methodRef classIndex nameAndTypeIndex =>
      exact (takes_u1 10).bind ((takes_index classIndex).bind
        ((takes_index nameAndTypeIndex).map (Constant.methodRef classIndex)))
  | interfaceMethodRef classIndex nameAndTypeIndex =>
      exact (takes_u1 11).bind ((takes_index classIndex).bind
        ((takes_index nameAndTypeIndex).map (Constant.interfaceMethodRef classIndex)))
  | nameAndType nameIndex descriptorIndex =>
      exact (takes_u1 12).bind ((takes_index nameIndex).bind
        ((takes_index descriptorIndex).map (Constant.nameAndType nameIndex)))
  | methodHandle kind referenceIndex =>
      exact (takes_u1 15).bind ((takes_u1 kind).bind
        ((takes_index referenceIndex).map (Constant.methodHandle kind)))
  | methodType descriptorIndex =>
      exact (takes_u1 16).bind ((takes_index descriptorIndex).map Constant.methodType)
  | dynamic bootstrapIndex nameAndTypeIndex =>
      exact (takes_u1 17).bind ((takes_index bootstrapIndex).bind
        ((takes_index nameAndTypeIndex).map (Constant.dynamic bootstrapIndex)))
  | invokeDynamic bootstrapIndex nameAndTypeIndex =>
      exact (takes_u1 18).bind ((takes_index bootstrapIndex).bind
        ((takes_index nameAndTypeIndex).map (Constant.invokeDynamic bootstrapIndex)))
  | moduleInfo nameIndex =>
      exact (takes_u1 19).bind ((takes_index nameIndex).map Constant.moduleInfo)
  | packageInfo nameIndex =>
      exact (takes_u1 20).bind ((takes_index nameIndex).map Constant.packageInfo)

/-- The slots that a constant takes: its own, and an empty one if it is wide. -/
def Constant.slots (constant : Constant) : List Constant :=
  constant :: List.replicate (constant.width - 1) .empty

/-- The slots that constants take, one behind the other. -/
def slotsOf (constants : List Constant) : List Constant :=
  constants.flatMap Constant.slots

theorem Constant.width_eq (constant : Constant) : constant.width = 1 ∨ constant.width = 2 := by
  cases constant <;> simp [width]

@[simp]
theorem Constant.length_slots (constant : Constant) : constant.slots.length = constant.width := by
  rcases constant.width_eq with narrow | wide
  · simp [slots, narrow]
  · simp [slots, wide]

@[simp]
theorem slotsOf_append (first second : List Constant) :
    slotsOf (first ++ second) = slotsOf first ++ slotsOf second :=
  List.flatMap_append

/-- Constants that were written are read back, each in the slots that it takes. -/
theorem takes_slots {constants : List Constant}
    (writable : ∀ constant ∈ constants, constant.Writable) :
    Takes (slots (slotsOf constants).length false) (constants.flatMap Constant.encode)
      (slotsOf constants) := by
  induction constants with
  | nil => exact takes_pure []
  | cons constant constants ih =>
      have first := takes_constant (writable constant List.mem_cons_self)
      have rest := ih fun other member => writable other (List.mem_cons_of_mem constant member)
      rcases constant.width_eq with narrow | wide
      · have split : slotsOf (constant :: constants) = constant :: slotsOf constants := by
          simp [slotsOf, Constant.slots, narrow]
        rw [split, List.length_cons]
        refine first.bind ((Takes.map ?_ (constant :: ·)))
        rw [narrow]
        exact rest
      · have split : slotsOf (constant :: constants) = constant :: .empty :: slotsOf constants := by
          simp [slotsOf, Constant.slots, wide]
        rw [split, List.length_cons, List.length_cons]
        refine first.bind ((Takes.map ?_ (constant :: ·)))
        rw [wide]
        exact rest.map (.empty :: ·)

/-- A pool that was written is read back, with an empty slot in front. -/
theorem takes_poolTable {constants : List Constant}
    (writable : ∀ constant ∈ constants, constant.Writable)
    (counted : (slotsOf constants).length + 1 < 0x10000) :
    Takes poolTable
      (Bytes.ofNatBE 2 ((slotsOf constants).length + 1) ++ constants.flatMap Constant.encode)
      (.empty :: slotsOf constants).toArray := by
  have read : (UInt16.ofNat ((slotsOf constants).length + 1)).toNat =
      (slotsOf constants).length + 1 := UInt16.toNat_ofNat_of_lt' counted
  have count := takes_u2 (UInt16.ofNat ((slotsOf constants).length + 1))
  rw [read] at count
  refine count.bind ?_
  rw [read]
  exact (takes_slots writable).map fun rest => (Constant.empty :: rest).toArray

end ClassFile

end CallGraph
