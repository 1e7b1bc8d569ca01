import CallGraph.Proofs.ClassFile.Decoding
import Mathlib.Data.List.Chain

/-!
# Slots that hold no constant

A constant is never read as nothing.  So of a constant pool that was read, the slots that hold
nothing are slot 0 and the second halves of constants that take two slots, and there are no others.
-/

namespace CallGraph

namespace ClassFile

namespace Decoder

variable {α β : Type} {holds : β → Prop}

/-- Whatever a decoder takes has a property. -/
def Yields (decoder : Decoder β) (holds : β → Prop) : Prop :=
  ∀ ⦃length : Nat⦄ ⦃left rest : Bytes⦄ ⦃value : β⦄,
    decoder length left = .ok (value, rest) → holds value

theorem yields_pure {value : β} (held : holds value) : (pure value : Decoder β).Yields holds := by
  intro length left rest result taken
  obtain ⟨rfl, -⟩ := pure_eq_ok_iff.mp taken
  exact held

theorem yields_refuse {fault : Fault} : (refuse fault : Decoder β).Yields holds := by
  intro length left rest value taken
  exact absurd taken refuse_ne_ok

theorem yields_bind {first : Decoder α} {next : α → Decoder β}
    (each : ∀ value, (next value).Yields holds) : (first >>= next).Yields holds := by
  intro length left rest result taken
  obtain ⟨value, later, -, taken⟩ := bind_eq_ok_iff.mp taken
  exact each value taken

end Decoder

open Decoder

theorem yields_textConstant : textConstant.Yields (· ≠ .empty) := by
  refine yields_bind fun size => yields_bind fun bytes => ?_
  split
  · exact yields_pure Constant.noConfusion
  · exact yields_refuse

theorem yields_constant : constant.Yields (· ≠ .empty) := by
  refine yields_bind fun tag => ?_
  split
  · exact yields_textConstant
  all_goals first
    | exact yields_refuse
    | exact yields_bind fun _ => yields_pure Constant.noConfusion
    | exact yields_bind fun _ => yields_bind fun _ => yields_pure Constant.noConfusion

/-- Behind a constant there is nothing if and only if the constant takes two slots. -/
def Adjoins (constant next : Constant) : Prop :=
  next = .empty ↔ constant.width = 2

/-- Each of the slots that were read adjoins the one in front of it. -/
theorem isChain_of_slots {count length : Nat} {isSecondHalf : Bool} {left rest : Bytes}
    {constants : List Constant}
    (taken : slots count isSecondHalf length left = .ok (constants, rest)) {front : Constant}
    (half : isSecondHalf = true ↔ front.width = 2) : (front :: constants).IsChain Adjoins := by
  induction count generalizing isSecondHalf left rest constants front with
  | zero =>
      obtain ⟨rfl, -⟩ := pure_eq_ok_iff.mp taken
      exact List.isChain_singleton front
  | succ count ih =>
      cases isSecondHalf with
      | true =>
          obtain ⟨others, later, found, taken⟩ := bind_eq_ok_iff.mp taken
          obtain ⟨rfl, -⟩ := pure_eq_ok_iff.mp taken
          have behind : (Constant.empty :: others).IsChain Adjoins :=
            ih found (by simp [Constant.width])
          have adjoins : Adjoins front .empty := by simpa [Adjoins] using half
          exact List.isChain_cons_cons.mpr ⟨adjoins, behind⟩
      | false =>
          obtain ⟨first, later, read, taken⟩ := bind_eq_ok_iff.mp taken
          obtain ⟨others, later, found, taken⟩ := bind_eq_ok_iff.mp taken
          obtain ⟨rfl, -⟩ := pure_eq_ok_iff.mp taken
          have behind : (first :: others).IsChain Adjoins := ih found (by simp)
          have adjoins : Adjoins front first := by
            simpa [Adjoins, yields_constant read] using half
          exact List.isChain_cons_cons.mpr ⟨adjoins, behind⟩

/-- The slots of a constant pool that was read adjoin each other. -/
theorem isChain_of_poolTable {length : Nat} {left rest : Bytes} {pool : ConstantPool}
    (taken : poolTable length left = .ok (pool, rest)) : pool.toList.IsChain Adjoins := by
  obtain ⟨count, later, -, taken⟩ := bind_eq_ok_iff.mp taken
  cases counted : count.toNat with
  | zero =>
      rw [counted] at taken
      obtain ⟨rfl, -⟩ := pure_eq_ok_iff.mp taken
      exact List.isChain_nil
  | succ count =>
      rw [counted] at taken
      obtain ⟨constants, later, found, taken⟩ := bind_eq_ok_iff.mp taken
      obtain ⟨rfl, -⟩ := pure_eq_ok_iff.mp taken
      exact isChain_of_slots found (by simp [Constant.width])

/-- A slot of a pool is the second half of the constant in front of it. -/
def IsSecondHalf (pool : ConstantPool) (index : Nat) : Prop :=
  index < pool.size ∧
    ∃ front constant, index = front + 1 ∧ pool[front]? = some constant ∧ constant.width = 2

/-- Of a class file that was decoded, slot 0 and second halves hold nothing, and all other slots
hold something. -/
theorem decode_empty_iff {bytes : Bytes} {file : ClassFile} (decoded : decode bytes = .ok file)
    {index : Nat} (inside : index < file.constantPool.size) :
    file.constantPool[index]? = some .empty ↔
      index = 0 ∨ IsSecondHalf file.constantPool index := by
  obtain ⟨left, rest, read⟩ := exists_poolTable_of_decode decoded
  cases index with
  | zero =>
      have hollow := poolTable_hollow read (Array.getElem?_eq_getElem inside)
      simp [Array.getElem?_eq_getElem inside, hollow]
  | succ front =>
      have adjoins := List.isChain_iff_getElem.mp (isChain_of_poolTable read) front
        (by simpa using inside)
      have reached : front < file.constantPool.size := Nat.lt_of_succ_lt inside
      simp only [Adjoins, Array.getElem_toList] at adjoins
      rw [Array.getElem?_eq_getElem inside, Option.some.injEq, adjoins]
      constructor
      · intro wide
        exact .inr ⟨inside, front, _, rfl, Array.getElem?_eq_getElem reached, wide⟩
      · rintro (contra | ⟨-, _, constant, same, there, wide⟩)
        · contradiction
        · obtain rfl : front = _ := Nat.succ.inj same
          rw [Array.getElem?_eq_getElem reached, Option.some.injEq] at there
          rw [there, wide]

end ClassFile

end CallGraph
