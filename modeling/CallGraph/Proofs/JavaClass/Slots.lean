import CallGraph.Proofs.ClassFile.Halves
import CallGraph.Proofs.JavaClass.OfFile

/-!
# The slots of a class

The slots of a class stand beside the constants of its class file, one for each.  Classes are told
from other constants, and classes with a name from those without one.  What is not told apart is a
slot that holds no constant: only slot 0 is empty, while the second half of a constant that takes
two slots has the slot of any other constant.
-/

namespace CallGraph

namespace ClassFile

/-- The constant at an index is a class, and this is its name with dots. -/
def NamesClass (pool : ConstantPool) (index : Nat) (name : String) : Prop :=
  ∃ nameIndex internal, pool[index]? = some (.classInfo nameIndex) ∧
    IsText pool nameIndex internal ∧ dotted internal = name

/-- The constant at an index is a class whose name is nowhere. -/
def IsUnnamedClass (pool : ConstantPool) (index : Nat) : Prop :=
  ∃ nameIndex, pool[index]? = some (.classInfo nameIndex) ∧ ∀ text, ¬IsText pool nameIndex text

end ClassFile

open ClassFile (ConstantPool IsText NamesClass IsUnnamedClass IsSecondHalf)

namespace PoolSlot

variable {pool : ConstantPool} {index : Nat} {slots : List PoolSlot}

/-- Slots stand beside the constants of a pool.  They are empty at hollow indices and beside classes
without a name, they refer to the classes that have a name, and are other slots everywhere else. -/
structure Mirrors (isHollow : Nat → Prop) (pool : ConstantPool) (slots : List PoolSlot) : Prop where
  length_eq : slots.length = pool.size
  classRef_iff : ∀ index name,
    slots[index]? = some (.classRef name) ↔ index ≠ 0 ∧ NamesClass pool index name
  empty_iff : ∀ index < pool.size,
    slots[index]? = some .empty ↔ isHollow index ∨ IsUnnamedClass pool index
  other_iff : ∀ index < pool.size,
    slots[index]? = some .other ↔
      ¬(isHollow index ∨ IsUnnamedClass pool index) ∧
        ∀ name, ¬(index ≠ 0 ∧ NamesClass pool index name)

theorem length_ofPool (pool : ConstantPool) : (ofPool pool).length = pool.size := by
  rw [ofPool, ← Array.length_toList]
  cases pool.toList with
  | nil => rfl
  | cons first constants => simp

theorem getElem?_ofPool_zero : (ofPool pool)[0]? = pool[0]?.map fun _ => .empty := by
  rw [← Array.getElem?_toList, ofPool]
  cases pool.toList with
  | nil => rfl
  | cons first constants => simp

theorem getElem?_ofPool_eq_classRef_iff {name : String} :
    (ofPool pool)[index]? = some (.classRef name) ↔ index ≠ 0 ∧ NamesClass pool index name := by
  by_cases first : index = 0
  · subst first
    simp [getElem?_ofPool_zero]
  · rw [getElem?_ofPool first, Option.map_eq_some_iff, NamesClass]
    simp only [ofConstant_eq_classRef_iff]
    constructor
    · rintro ⟨_, found, nameIndex, internal, rfl, named, shown⟩
      exact ⟨first, nameIndex, internal, found, named, shown⟩
    · rintro ⟨-, nameIndex, internal, found, named, shown⟩
      exact ⟨_, found, nameIndex, internal, rfl, named, shown⟩

theorem getElem?_ofPool_eq_empty_iff (inside : index < pool.size) :
    (ofPool pool)[index]? = some .empty ↔ index = 0 ∨ IsUnnamedClass pool index := by
  by_cases first : index = 0
  · subst first
    simp [getElem?_ofPool_zero, inside]
  · rw [getElem?_ofPool first, Option.map_eq_some_iff, IsUnnamedClass]
    simp only [ofConstant_eq_empty_iff, first, false_or]
    constructor
    · rintro ⟨_, found, nameIndex, rfl, unnamed⟩
      exact ⟨nameIndex, found, unnamed⟩
    · rintro ⟨nameIndex, found, unnamed⟩
      exact ⟨_, found, nameIndex, rfl, unnamed⟩

/-- Other slots are those that are neither empty nor refer to a class. -/
theorem getElem?_eq_other_iff (inside : index < slots.length) :
    slots[index]? = some .other ↔
      slots[index]? ≠ some .empty ∧ ∀ name, slots[index]? ≠ some (.classRef name) := by
  rw [List.getElem?_eq_getElem inside]
  cases slots[index] <;> simp

/-- The slots of a pool mirror its constants.  The only hollow slot is the first one, whatever the
pool holds. -/
theorem mirrors_ofPool (pool : ConstantPool) : Mirrors (· = 0) pool (ofPool pool) where
  length_eq := length_ofPool pool
  classRef_iff _ _ := getElem?_ofPool_eq_classRef_iff
  empty_iff _ inside := getElem?_ofPool_eq_empty_iff inside
  other_iff index inside := by
    rw [getElem?_eq_other_iff (by rwa [length_ofPool]), Ne, getElem?_ofPool_eq_empty_iff inside]
    simp only [Ne, getElem?_ofPool_eq_classRef_iff]

/-- A slot that holds no constant is an other slot, unless it is hollow. -/
theorem Mirrors.eq_other_of_empty {isHollow : Nat → Prop} (mirrors : Mirrors isHollow pool slots)
    (empty : pool[index]? = some .empty) (solid : ¬isHollow index) :
    slots[index]? = some .other := by
  obtain ⟨inside, -⟩ := Array.getElem?_eq_some_iff.mp empty
  rw [mirrors.other_iff index inside]
  simp [NamesClass, IsUnnamedClass, empty, solid]

end PoolSlot

open PoolSlot (Mirrors)

namespace JavaClass

/-- If bytes are accepted as a class, the slots of the class mirror the constants of the class file,
and the hollow ones are slot 0 and the second halves. -/
def HalvesAreEmpty (bytes : Bytes) : Prop :=
  ∀ file javaClass, ClassFile.decode bytes = .ok file → ofBytes bytes = .ok javaClass →
    Mirrors (fun index => index = 0 ∨ IsSecondHalf file.constantPool index)
      file.constantPool javaClass.pool

/-- The slots of an accepted class mirror the constants of its class file, and slot 0 is the only
hollow one.  So all slots that hold no constant are empty if and only if the class file has no
second halves. -/
theorem slots_of_ofBytes {bytes : Bytes} {javaClass : JavaClass}
    (accepted : ofBytes bytes = .ok javaClass) :
    ∃ file, ClassFile.decode bytes = .ok file ∧
      Mirrors (· = 0) file.constantPool javaClass.pool ∧
      (∀ index, IsSecondHalf file.constantPool index →
        file.constantPool[index]? = some .empty ∧ javaClass.pool[index]? = some .other) ∧
      (HalvesAreEmpty bytes ↔ ∀ index, ¬IsSecondHalf file.constantPool index) := by
  obtain ⟨file, decoded, read⟩ := ofBytes_eq_ok_iff.mp accepted
  have mirrors : Mirrors (· = 0) file.constantPool javaClass.pool := by
    rw [pool_of_ofFile read]
    exact PoolSlot.mirrors_ofPool file.constantPool
  have halves : ∀ index, IsSecondHalf file.constantPool index →
      file.constantPool[index]? = some .empty ∧ javaClass.pool[index]? = some .other := by
    intro index half
    have empty := (ClassFile.decode_empty_iff decoded half.1).mpr (.inr half)
    have behind : index ≠ 0 := by
      obtain ⟨-, front, -, rfl, -⟩ := half
      exact Nat.succ_ne_zero front
    exact ⟨empty, mirrors.eq_other_of_empty empty behind⟩
  refine ⟨file, decoded, mirrors, halves, ?_⟩
  constructor
  · intro hollow index half
    have empty := ((hollow file javaClass decoded accepted).empty_iff index half.1).mpr
      (.inl (.inr half))
    rw [(halves index half).2] at empty
    contradiction
  · intro whole other otherClass decoded' accepted'
    obtain rfl : file = other := Except.ok.inj (decoded.symm.trans decoded')
    obtain rfl : javaClass = otherClass := Except.ok.inj (accepted.symm.trans accepted')
    simpa only [whole, or_false] using mirrors

/-- A class `A` without methods whose constant pool ends in a constant that takes two slots. -/
def wideConstant : Bytes :=
  [0xca, 0xfe, 0xba, 0xbe, 0x00, 0x00, 0x00, 0x34,        -- magic and version
   0x00, 0x05, 0x01, 0x00, 0x01, 0x41,                    -- the text A
   0x07, 0x00, 0x01,                                      -- the class of that name
   0x05, 0x00, 0x00, 0x00, 0x00, 0x00, 0x00, 0x00, 0x2a,  -- a long number
   0x00, 0x21, 0x00, 0x02, 0x00, 0x00,                    -- flags, class and superclass
   0x00, 0x00, 0x00, 0x00, 0x00, 0x00, 0x00, 0x00]        -- no members and no attributes

theorem decode_wideConstant : ClassFile.decode wideConstant =
    .ok ⟨#[.empty, .utf8 "A", .classInfo 1, .long 42, .empty], 2, 0, [], [], []⟩ := rfl

theorem ofBytes_wideConstant : ofBytes wideConstant =
    .ok ⟨"A", [.empty, .other, .classRef "A", .other, .other], [], []⟩ := by decide +kernel

theorem slots_of_ofBytes_wideConstant :
    ∃ file, ClassFile.decode wideConstant = .ok file ∧
      Mirrors (· = 0) file.constantPool [.empty, .other, .classRef "A", .other, .other] ∧
      IsSecondHalf file.constantPool 4 := by
  obtain ⟨file, decoded, mirrors, -⟩ := slots_of_ofBytes ofBytes_wideConstant
  refine ⟨file, decoded, mirrors, ?_⟩
  obtain rfl := Except.ok.inj (decoded.symm.trans decode_wideConstant)
  exact ⟨by decide, 3, .long 42, rfl, rfl, rfl⟩

theorem not_halvesAreEmpty_wideConstant : ¬HalvesAreEmpty wideConstant := by
  intro hollow
  have mirrors := hollow _ _ decode_wideConstant ofBytes_wideConstant
  -- Slot 4 is the second half of the number in slot 3, so it would have to be empty.
  have empty := (mirrors.empty_iff 4 (by decide)).mpr
    (.inl (.inr ⟨by decide, 3, .long 42, rfl, rfl, rfl⟩))
  contradiction

end JavaClass

end CallGraph
