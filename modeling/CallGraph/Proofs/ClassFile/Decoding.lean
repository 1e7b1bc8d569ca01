import CallGraph.ClassFile

/-!
# What was decoded

A decoder that succeeds does so part by part: there is a value and a rest for each decoder on the
way.  Of a file that was decoded, slot 0 of the constant pool holds nothing.
-/

namespace CallGraph

namespace ClassFile

namespace Decoder

variable {α β : Type} {length : Nat} {left rest : Bytes}

theorem pure_eq_ok_iff {value result : α} :
    (pure value : Decoder α) length left = .ok (result, rest) ↔ value = result ∧ left = rest := by
  change Decoder.pure value length left = _ ↔ _
  rw [Decoder.pure, Except.ok.injEq, Prod.mk.injEq]

/-- One decoder after the other succeeds if and only if both do, the second on what the first has
left. -/
theorem bind_eq_ok_iff {first : Decoder α} {next : α → Decoder β} {result : β} :
    (first >>= next) length left = .ok (result, rest) ↔
      ∃ value later, first length left = .ok (value, later) ∧
        next value length later = .ok (result, rest) := by
  change Decoder.bind first next length left = _ ↔ _
  rw [Decoder.bind]
  rcases first length left with fault | ⟨value, later⟩
  · simp
  · simp [and_assoc]

theorem refuse_ne_ok {fault : Fault} {result : α × Bytes} :
    (refuse fault : Decoder α) length left ≠ .ok result := by
  simp [refuse]

theorem run_eq_ok_iff {decoder : Decoder α} {file : Bytes} {value : α} :
    decoder.run file = .ok value ↔ ∃ rest, decoder file.length file = .ok (value, rest) := by
  rw [run]
  rcases decoder file.length file with fault | ⟨value, rest⟩
  · simp
  · simp

end Decoder

open Decoder

/-- Slot 0 of a constant pool that was read holds nothing. -/
theorem poolTable_hollow {length : Nat} {left rest : Bytes} {pool : ConstantPool}
    (taken : poolTable length left = .ok (pool, rest)) {constant : Constant}
    (first : pool[0]? = some constant) : constant = .empty := by
  obtain ⟨count, later, -, taken⟩ := Decoder.bind_eq_ok_iff.mp taken
  cases counted : count.toNat with
  | zero =>
      rw [counted] at taken
      obtain ⟨rfl, -⟩ := Decoder.pure_eq_ok_iff.mp taken
      simp at first
  | succ count =>
      rw [counted] at taken
      obtain ⟨slots, later, -, taken⟩ := Decoder.bind_eq_ok_iff.mp taken
      obtain ⟨rfl, -⟩ := Decoder.pure_eq_ok_iff.mp taken
      simpa [eq_comm] using first

/-- The constant pool of a file that was decoded was read as a constant pool. -/
theorem exists_poolTable_of_decode {bytes : Bytes} {file : ClassFile}
    (decoded : decode bytes = .ok file) :
    ∃ left rest, poolTable bytes.length left = .ok (file.constantPool, rest) := by
  obtain ⟨_, taken⟩ := Decoder.run_eq_ok_iff.mp decoded
  obtain ⟨number, left, -, taken⟩ := Decoder.bind_eq_ok_iff.mp taken
  by_cases marked : number = magic
  · -- Whatever is read behind the constants leaves them as they are.
    simp only [if_pos marked, Decoder.bind_eq_ok_iff, Decoder.pure_eq_ok_iff] at taken
    obtain ⟨_, left, -, pool, rest, read, _, _, -, _, _, -, _, _, -, _, _, -, _, _, -, _, _, -,
      _, _, -, _, _, -, rfl, -⟩ := taken
    exact ⟨left, rest, read⟩
  · rw [if_neg marked] at taken
    exact absurd taken Decoder.refuse_ne_ok

theorem decode_hollow {bytes : Bytes} {file : ClassFile} (decoded : decode bytes = .ok file)
    {constant : Constant} (first : file.constantPool[0]? = some constant) : constant = .empty := by
  obtain ⟨left, rest, read⟩ := exists_poolTable_of_decode decoded
  exact poolTable_hollow read first

end ClassFile

end CallGraph
