import CallGraph.Assembler.Pool
import CallGraph.Proofs.ClassFile.Constants
import CallGraph.Proofs.ClassFile.Resolution

/-!
# Pools under construction

A pool under construction counts its slots modulo 65536, and it remembers at which index a shared
constant stands.  Both are right as long as the slots have indices of two bytes.  Every action on a
pool keeps this, appends to the constants and changes none, and so what its answer stands for stays
true in every table that begins with the slots of the pool.
-/

namespace CallGraph

namespace Assembler

open ClassFile

namespace PoolBuilder

/-- The slots of a pool, as they are read back. -/
def slots (pool : PoolBuilder) : List Constant :=
  .empty :: slotsOf pool.constants.toList

/-- Every slot has an index of two bytes, and so has the end of the slots. -/
def Fits (pool : PoolBuilder) : Prop :=
  pool.slots.length < 0x10000

/-- A table begins with the slots of a pool. -/
def Within (pool : PoolBuilder) (table : ConstantPool) : Prop :=
  pool.Fits ∧ pool.slots <+: table.toList

/-- A pool is continued by another one. -/
def Continues (before after : PoolBuilder) : Prop :=
  before.constants.toList <+: after.constants.toList

theorem Continues.refl (pool : PoolBuilder) : pool.Continues pool :=
  List.prefix_rfl

theorem Continues.trans {first second third : PoolBuilder} (one : first.Continues second)
    (two : second.Continues third) : first.Continues third :=
  List.IsPrefix.trans one two

theorem Continues.slots_prefix {before after : PoolBuilder} (continues : before.Continues after) :
    before.slots <+: after.slots := by
  obtain ⟨later, constants_eq⟩ := continues
  refine ⟨slotsOf later, ?_⟩
  rw [slots, slots, ← constants_eq, slotsOf_append, List.cons_append]

theorem Continues.getElem?_eq {before after : PoolBuilder} (continues : before.Continues after)
    {index : Nat} {constant : Constant} (found : before.slots[index]? = some constant) :
    after.slots[index]? = some constant := by
  obtain ⟨inside, rfl⟩ := List.getElem?_eq_some_iff.mp found
  exact List.prefix_iff_getElem?.mp continues.slots_prefix index inside

theorem Continues.fits {before after : PoolBuilder} (continues : before.Continues after)
    (fits : after.Fits) : before.Fits :=
  Nat.lt_of_le_of_lt continues.slots_prefix.length_le fits

/-- A table that begins with the slots of a pool begins with those of every earlier pool. -/
theorem Continues.within {before after : PoolBuilder} (continues : before.Continues after)
    {table : ConstantPool} (within : after.Within table) : before.Within table :=
  ⟨continues.fits within.1, continues.slots_prefix.trans within.2⟩

/-- What stands in a slot of a pool stands there in every table that begins with the pool. -/
theorem Within.getElem?_eq {pool : PoolBuilder} {table : ConstantPool} (within : pool.Within table)
    {index : Nat} {constant : Constant} (found : pool.slots[index]? = some constant) :
    table[index]? = some constant := by
  obtain ⟨inside, rfl⟩ := List.getElem?_eq_some_iff.mp found
  rw [← Array.getElem?_toList]
  exact List.prefix_iff_getElem?.mp within.2 index inside

/-- The next index is the number of slots, modulo 65536. -/
def Counted (pool : PoolBuilder) : Prop :=
  pool.nextIndex = UInt16.ofNat pool.slots.length

theorem Counted.toNat_nextIndex {pool : PoolBuilder} (counted : pool.Counted) (fits : pool.Fits) :
    pool.nextIndex.toNat = pool.slots.length := by
  rw [counted]
  exact UInt16.toNat_ofNat_of_lt' fits

/-- What holds of a pool under construction. -/
structure WellFormed (pool : PoolBuilder) : Prop where
  /-- The constants can be written. -/
  writable : ∀ constant ∈ pool.constants.toList, constant.Writable
  /-- The next index is the number of slots. -/
  counted : pool.nextIndex = UInt16.ofNat pool.slots.length
  /-- A shared constant stands at its index. -/
  found : pool.Fits → ∀ entry ∈ pool.shared, pool.slots[entry.2.toNat]? = some entry.1

theorem wellFormed_empty : empty.WellFormed where
  writable := by simp [empty]
  counted := rfl
  found := by simp [empty]

/-- The next index of a pool is that of the first slot behind it. -/
theorem WellFormed.toNat_nextIndex {pool : PoolBuilder} (wellFormed : pool.WellFormed)
    (fits : pool.Fits) : pool.nextIndex.toNat = pool.slots.length :=
  Counted.toNat_nextIndex wellFormed.counted fits

/-! ## Actions -/

/-- A step from one pool to another keeps the pool well-formed, continues it, and gives an answer
that means something in every table that begins with the pool. -/
structure Step {α : Type} (before : PoolBuilder) (means : ConstantPool → α → Prop) (answer : α)
    (after : PoolBuilder) : Prop where
  wellFormed : after.WellFormed
  continues : before.Continues after
  means : ∀ table, after.Within table → means table answer

/-- Every run of an action is a step. -/
def Grows {α : Type} (action : StateM PoolBuilder α) (means : ConstantPool → α → Prop) : Prop :=
  ∀ pool : PoolBuilder, pool.WellFormed → Step pool means (action pool).1 (action pool).2

theorem Grows.mono {α : Type} {action : StateM PoolBuilder α}
    {means means' : ConstantPool → α → Prop} (grows : Grows action means)
    (implies : ∀ table answer, means table answer → means' table answer) :
    Grows action means' := by
  intro pool wellFormed
  obtain ⟨after, continues, holds⟩ := grows pool wellFormed
  exact ⟨after, continues, fun table within => implies table _ (holds table within)⟩

/-- The answer of a sequence of two actions means what both mean. -/
theorem Grows.bind {α β : Type} {first : StateM PoolBuilder α} {next : α → StateM PoolBuilder β}
    {means : ConstantPool → α → Prop} {meansNext : α → ConstantPool → β → Prop}
    (grows : Grows first means) (then_ : ∀ answer, Grows (next answer) (meansNext answer)) :
    Grows (first >>= next) fun table result =>
      ∃ answer, means table answer ∧ meansNext answer table result := by
  intro pool wellFormed
  obtain ⟨middle, continues, holds⟩ := grows pool wellFormed
  obtain ⟨after, continues', holds'⟩ := then_ (first pool).1 (first pool).2 middle
  exact ⟨after, continues.trans continues', fun table within =>
    ⟨(first pool).1, holds table (continues'.within within), holds' table within⟩⟩

theorem grows_pure {α : Type} (answer : α) :
    Grows (pure answer) fun _ result => result = answer :=
  fun pool wellFormed => ⟨wellFormed, .refl pool, fun _ _ => rfl⟩

theorem slots_push (constant : Constant) (pool : PoolBuilder) :
    (push constant pool).2.slots = pool.slots ++ constant.slots := by
  simp [push, slots, slotsOf]

theorem continues_push (constant : Constant) (pool : PoolBuilder) :
    pool.Continues (push constant pool).2 :=
  ⟨[constant], by simp [push]⟩

theorem Counted.push {pool : PoolBuilder} (counted : pool.Counted) (constant : Constant) :
    (push constant pool).2.Counted := by
  rw [Counted, slots_push, List.length_append, Constant.length_slots, UInt16.ofNat_add, ← counted]
  rfl

/-- A constant that is appended stands at the index that is given for it. -/
theorem grows_push (constant : Constant) (writable : constant.Writable) :
    Grows (push constant) fun table index => table[index.toNat]? = some constant := by
  intro pool wellFormed
  have continues := continues_push constant pool
  refine ⟨⟨?_, Counted.push wellFormed.counted constant, ?_⟩, continues, ?_⟩
  · intro other member
    simp only [push, Array.toList_push, List.mem_append, List.mem_singleton] at member
    rcases member with old | rfl
    · exact wellFormed.writable other old
    · exact writable
  · intro fits entry shared
    -- A pool that fits was continued from one that fits.
    have old := wellFormed.found (continues.fits fits) entry shared
    exact continues.getElem?_eq old
  · intro table within
    apply within.getElem?_eq
    rw [slots_push]
    change (pool.slots ++ constant.slots)[pool.nextIndex.toNat]? = some constant
    rw [wellFormed.toNat_nextIndex (continues.fits within.1),
      List.getElem?_append_right (Nat.le_refl _)]
    simp [Constant.slots]

/-- A constant that is shared stands at the index that is given for it, be it old or new. -/
theorem grows_intern (constant : Constant) (writable : constant.Writable) :
    Grows (intern constant) fun table index => table[index.toNat]? = some constant := by
  intro pool wellFormed
  cases known : pool.shared.lookup constant with
  | some index =>
      have run : intern constant pool = (index, pool) := by simp [intern, known]
      rw [run]
      refine ⟨wellFormed, .refl pool, ?_⟩
      intro table within
      obtain ⟨front, back, shared_eq, -⟩ := List.lookup_eq_some_iff.mp known
      have shared : (constant, index) ∈ pool.shared := by simp [shared_eq]
      exact within.getElem?_eq (wellFormed.found within.1 _ shared)
  | none =>
      obtain ⟨pushed, continues, holds⟩ := grows_push constant writable pool wellFormed
      have run : intern constant pool =
          ((push constant pool).1,
            { (push constant pool).2 with
              shared := (constant, (push constant pool).1) :: pool.shared }) := by
        rw [intern, known]
        rfl
      rw [run]
      refine ⟨⟨pushed.writable, pushed.counted, ?_⟩, continues, holds⟩
      intro fits entry shared
      rcases List.mem_cons.mp shared with rfl | old
      · have inTable := holds (push constant pool).2.slots.toArray ⟨fits, List.prefix_rfl⟩
        rwa [List.getElem?_toArray] at inTable
      · exact pushed.found fits entry old

/-- A text whose length fits into two bytes. -/
def Short (text : String) : Prop :=
  (Bytes.ofString text).length < 0x10000

instance (text : String) : Decidable (Short text) :=
  Nat.decLt _ _

theorem grows_utf8 {value : String} (short : Short value) :
    Grows (utf8 value) fun table index => IsText table index value :=
  grows_intern (.utf8 value) short

theorem grows_classInfo {name : String} (short : Short name) :
    Grows (classInfo name) fun table index => IsClass table index name :=
  ((grows_utf8 short).bind fun nameIndex =>
    grows_intern (.classInfo nameIndex) trivial).mono
      fun _ _ ⟨nameIndex, text, found⟩ => ⟨nameIndex, found, text⟩

theorem grows_duplicateClass {name : String} (short : Short name) :
    Grows (duplicateClass name) fun table index => IsClass table index name :=
  ((grows_utf8 short).bind fun nameIndex =>
    grows_push (.classInfo nameIndex) trivial).mono
      fun _ _ ⟨nameIndex, text, found⟩ => ⟨nameIndex, found, text⟩

theorem grows_nameAndType {name descriptor : String} (shortName : Short name)
    (shortDescriptor : Short descriptor) :
    Grows (nameAndType name descriptor) fun table index =>
      IsNameAndType table index name descriptor :=
  ((grows_utf8 shortName).bind fun nameIndex =>
    (grows_utf8 shortDescriptor).bind fun descriptorIndex =>
      grows_intern (.nameAndType nameIndex descriptorIndex) trivial).mono
        fun _ _ ⟨nameIndex, nameText, descriptorIndex, descriptorText, found⟩ =>
          ⟨nameIndex, descriptorIndex, found, nameText, descriptorText⟩

/-- A reference to a member stands in a pool with the class and the name that it refers to,
whichever kind of reference it is. -/
theorem grows_member (method : MethodReference) (kind : UInt16 → UInt16 → Constant)
    (writable : ∀ classIndex nameAndTypeIndex, (kind classIndex nameAndTypeIndex).Writable)
    (shortOwner : Short method.owner) (shortName : Short method.name)
    (shortDescriptor : Short method.descriptor) :
    Grows
      (do
        let classIndex ← classInfo method.owner
        let nameAndTypeIndex ← nameAndType method.name method.descriptor
        intern (kind classIndex nameAndTypeIndex))
      fun table index => ∃ classIndex nameAndTypeIndex,
        table[index.toNat]? = some (kind classIndex nameAndTypeIndex) ∧
          IsMember table classIndex nameAndTypeIndex method :=
  ((grows_classInfo shortOwner).bind fun classIndex =>
    (grows_nameAndType shortName shortDescriptor).bind fun nameAndTypeIndex =>
      grows_intern (kind classIndex nameAndTypeIndex) (writable classIndex nameAndTypeIndex)).mono
        fun _ _ ⟨classIndex, owner, nameAndTypeIndex, member, found⟩ =>
          ⟨classIndex, nameAndTypeIndex, found, owner, member⟩

theorem grows_invokeDynamic (site : DynamicSite) (shortName : Short site.name)
    (shortDescriptor : Short site.descriptor) :
    Grows (invokeDynamic site.bootstrapIndex site.name site.descriptor) fun table index =>
      IsCallSite table index site :=
  ((grows_nameAndType shortName shortDescriptor).bind fun nameAndTypeIndex =>
    grows_intern (.invokeDynamic site.bootstrapIndex nameAndTypeIndex) trivial).mono
      fun _ _ ⟨nameAndTypeIndex, member, found⟩ => ⟨nameAndTypeIndex, found, member⟩

end PoolBuilder

end Assembler

end CallGraph
