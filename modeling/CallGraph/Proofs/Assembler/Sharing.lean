import CallGraph.Assembler
import CallGraph.Proofs.Assembler.Pool

/-!
# Shared and private indices

What is asked of a pool under construction never changes what the pool has answered.  A constant
that is shared keeps its index, so that asking for it again at any later time gives the index again
and leaves the pool as it is.  A constant of its own has an index under which nothing is shared, and
nothing will be shared there later.
-/

namespace CallGraph

namespace Assembler

open ClassFile

namespace PoolBuilder

/-- An index of a slot under which no constant is shared. -/
structure IsPrivate (pool : PoolBuilder) (index : UInt16) : Prop where
  inside : index.toNat < pool.slots.length
  apart : ∀ entry ∈ pool.shared, entry.2 ≠ index

/-- What an action leaves as it was: the constants, the indices of those that are shared, and the
privacy of the others, as long as indices are not used up. -/
structure Keeps (before after : PoolBuilder) : Prop where
  continues : before.Continues after
  counted : before.Counted → after.Counted
  shared : ∀ constant index, before.shared.lookup constant = some index →
    after.shared.lookup constant = some index
  isPrivate : before.Counted → after.Fits → ∀ index, before.IsPrivate index →
    after.IsPrivate index

theorem Keeps.refl (pool : PoolBuilder) : pool.Keeps pool where
  continues := .refl pool
  counted := id
  shared := fun _ _ => id
  isPrivate := fun _ _ _ => id

theorem Keeps.trans {first second third : PoolBuilder} (one : first.Keeps second)
    (two : second.Keeps third) : first.Keeps third where
  continues := one.continues.trans two.continues
  counted := two.counted ∘ one.counted
  shared constant index found := two.shared constant index (one.shared constant index found)
  isPrivate counted fits index isPrivate :=
    two.isPrivate (one.counted counted) fits index
      (one.isPrivate counted (two.continues.fits fits) index isPrivate)

theorem keeps_push (constant : Constant) (pool : PoolBuilder) :
    pool.Keeps (push constant pool).2 where
  continues := continues_push constant pool
  counted counted := counted.push constant
  shared _ _ := id
  isPrivate _ _ _ isPrivate :=
    have continues := continues_push constant pool
    ⟨Nat.lt_of_lt_of_le isPrivate.inside continues.slots_prefix.length_le, isPrivate.apart⟩

theorem intern_of_known {constant : Constant} {pool : PoolBuilder} {index : UInt16}
    (known : pool.shared.lookup constant = some index) : intern constant pool = (index, pool) := by
  rw [intern, known]

theorem intern_of_unknown {constant : Constant} {pool : PoolBuilder}
    (unknown : pool.shared.lookup constant = none) :
    intern constant pool =
      (pool.nextIndex,
        { (push constant pool).2 with shared := (constant, pool.nextIndex) :: pool.shared }) := by
  rw [intern, unknown]
  rfl

theorem keeps_intern (constant : Constant) (pool : PoolBuilder) :
    pool.Keeps (intern constant pool).2 := by
  cases known : pool.shared.lookup constant with
  | some index =>
      rw [intern_of_known known]
      exact .refl pool
  | none =>
      obtain ⟨continues, counted, -, isPrivate⟩ := keeps_push constant pool
      rw [intern_of_unknown known]
      refine ⟨continues, counted, ?_, ?_⟩
      · intro other index found
        have differs : other ≠ constant := by
          rintro rfl
          rw [known] at found
          contradiction
        rw [List.lookup_cons, beq_eq_false_iff_ne.mpr differs]
        exact found
      · intro counted fits index old
        obtain ⟨inside, apart⟩ := isPrivate counted fits index old
        refine ⟨inside, List.forall_mem_cons.mpr ⟨?_, apart⟩⟩
        -- The new shared index is that of the first slot behind the old ones.
        rintro rfl
        have last := counted.toNat_nextIndex (continues.fits fits)
        exact absurd last (Nat.ne_of_lt old.inside)

theorem lookup_intern (constant : Constant) (pool : PoolBuilder) :
    (intern constant pool).2.shared.lookup constant = some (intern constant pool).1 := by
  cases known : pool.shared.lookup constant with
  | some index =>
      rw [intern_of_known known]
      exact known
  | none =>
      rw [intern_of_unknown known]
      exact List.lookup_cons_self

theorem WellFormed.lt_of_lookup {pool : PoolBuilder} (wellFormed : pool.WellFormed)
    (fits : pool.Fits) {entry : Constant × UInt16} (shared : entry ∈ pool.shared) :
    entry.2.toNat < pool.slots.length :=
  (List.getElem?_eq_some_iff.mp (wellFormed.found fits entry shared)).1

/-- A constant that is appended is private, and its index is that of the first slot behind the old
ones. -/
theorem isPrivate_push (constant : Constant) {pool : PoolBuilder} (wellFormed : pool.WellFormed)
    (fits : (push constant pool).2.Fits) :
    (push constant pool).2.IsPrivate (push constant pool).1 ∧
      (push constant pool).1.toNat = pool.slots.length := by
  have earlier := (continues_push constant pool).fits fits
  have index_eq : pool.nextIndex.toNat = pool.slots.length := wellFormed.toNat_nextIndex earlier
  refine ⟨⟨?_, ?_⟩, index_eq⟩
  · have width := constant.width_eq
    rw [slots_push, List.length_append, Constant.length_slots]
    change pool.nextIndex.toNat < _
    omega
  · intro entry shared same
    have inside := wellFormed.lt_of_lookup earlier shared
    rw [same] at inside
    exact absurd index_eq (Nat.ne_of_lt inside)

/-! ## Requests -/

/-- Every run of an action keeps the pool. -/
def Preserves {α : Type} (action : StateM PoolBuilder α) : Prop :=
  ∀ pool : PoolBuilder, pool.Keeps (action pool).2

theorem preserves_pure {α : Type} (answer : α) : Preserves (pure answer) :=
  Keeps.refl

theorem Preserves.bind {α β : Type} {first : StateM PoolBuilder α}
    {next : α → StateM PoolBuilder β} (preserves : Preserves first)
    (then_ : ∀ answer, Preserves (next answer)) : Preserves (first >>= next) :=
  fun pool => (preserves pool).trans (then_ (first pool).1 (first pool).2)

/-- An action asks for a shared constant: the answer is a shared index, and asking again at any
later time gives the answer again and leaves the pool as it is. -/
structure Shares (action : StateM PoolBuilder UInt16) : Prop where
  preserves : Preserves action
  shared : ∀ pool, ∃ constant, (action pool).2.shared.lookup constant = some (action pool).1
  recalls : ∀ pool later, (action pool).2.Keeps later → action later = ((action pool).1, later)

theorem shares_intern (constant : Constant) : Shares (intern constant) where
  preserves := keeps_intern constant
  shared pool := ⟨constant, lookup_intern constant pool⟩
  recalls pool _ keeps := intern_of_known (keeps.shared constant _ (lookup_intern constant pool))

theorem Shares.bind {first : StateM PoolBuilder UInt16} {next : UInt16 → StateM PoolBuilder UInt16}
    (shares : Shares first) (then_ : ∀ answer, Shares (next answer)) :
    Shares (first >>= next) where
  preserves := shares.preserves.bind fun answer => (then_ answer).preserves
  shared pool := (then_ (first pool).1).shared (first pool).2
  recalls pool later keeps := by
    have middle := ((then_ (first pool).1).preserves (first pool).2).trans keeps
    change next (first later).1 (first later).2 = _
    rw [shares.recalls pool later middle]
    exact (then_ (first pool).1).recalls (first pool).2 later keeps

theorem shares_utf8 (value : String) : Shares (utf8 value) :=
  shares_intern (.utf8 value)

theorem shares_classInfo (name : String) : Shares (classInfo name) :=
  (shares_utf8 name).bind fun nameIndex => shares_intern (.classInfo nameIndex)

theorem shares_nameAndType (name descriptor : String) : Shares (nameAndType name descriptor) :=
  (shares_utf8 name).bind fun nameIndex =>
    (shares_utf8 descriptor).bind fun descriptorIndex =>
      shares_intern (.nameAndType nameIndex descriptorIndex)

theorem shares_member (owner name descriptor : String) (kind : UInt16 → UInt16 → Constant) :
    Shares
      (do
        let classIndex ← classInfo owner
        let nameAndTypeIndex ← nameAndType name descriptor
        intern (kind classIndex nameAndTypeIndex)) :=
  (shares_classInfo owner).bind fun classIndex =>
    (shares_nameAndType name descriptor).bind fun nameAndTypeIndex =>
      shares_intern (kind classIndex nameAndTypeIndex)

theorem shares_invokeDynamic (bootstrapIndex : UInt16) (name descriptor : String) :
    Shares (invokeDynamic bootstrapIndex name descriptor) :=
  (shares_nameAndType name descriptor).bind fun nameAndTypeIndex =>
    shares_intern (.invokeDynamic bootstrapIndex nameAndTypeIndex)

theorem preserves_duplicateClass (name : String) : Preserves (duplicateClass name) :=
  (shares_utf8 name).preserves.bind fun nameIndex => keeps_push (.classInfo nameIndex)

/-- A class constant of its own is private, and has an index behind all slots that there were. -/
theorem isPrivate_duplicateClass {name : String} (short : Short name) {pool : PoolBuilder}
    (wellFormed : pool.WellFormed) (fits : (duplicateClass name pool).2.Fits) :
    (duplicateClass name pool).2.IsPrivate (duplicateClass name pool).1 ∧
      pool.slots.length ≤ (duplicateClass name pool).1.toNat := by
  obtain ⟨named, continues, -⟩ := grows_utf8 short pool wellFormed
  obtain ⟨isPrivate, index_eq⟩ := isPrivate_push (.classInfo (utf8 name pool).1) named fits
  exact ⟨isPrivate, index_eq ▸ continues.slots_prefix.length_le⟩

theorem preserves_methodOf (access : UInt16) (name descriptor : String) (code : Option Bytes) :
    Preserves (Builder.methodOf access name descriptor code) := by
  refine (shares_utf8 name).preserves.bind fun nameIndex =>
    (shares_utf8 descriptor).preserves.bind fun descriptorIndex => ?_
  cases code with
  | none => exact preserves_pure _
  | some code => exact (shares_utf8 "Code").preserves.bind fun _ => preserves_pure _

end PoolBuilder

end Assembler

end CallGraph
