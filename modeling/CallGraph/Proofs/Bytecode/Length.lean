import CallGraph.Bytecode.Length

/-!
# How long instructions are

Every instruction takes at least one byte.  Only the switches can be long, and even their lengths
are bounded, since the number of their cases is a signed word of 32 bits.
-/

namespace CallGraph

namespace Bytecode

/-- A signed word of four bytes is less than half of what four bytes can count. -/
theorem word?_lt {operands : Bytes} {index : Nat} {number : Int}
    (found : word? operands index = some number) : number < 0x80000000 := by
  obtain ⟨block, cut, rfl⟩ := Option.map_eq_some_iff.mp found
  have size : block.length = 4 := by
    rw [Bytes.slice?] at cut
    split at cut
    · next full =>
      cases cut
      exact full
    · contradiction
  have bound := Int.bmod_lt (x := Bytes.toNatBE block) (m := 4294967296) (by decide)
  rw [Bytes.toIntBE, size]
  exact bound

private theorem lengthRuns_bounds :
    ∀ run ∈ lengthRuns, ∀ length ∈ run.2, 0 < length ∧ length ≤ 5 := by
  decide

theorem fixedLength?_bounds {opcode : UInt8} {length : Nat}
    (known : fixedLength? opcode = some length) : 0 < length ∧ length ≤ 5 := by
  obtain ⟨run, searched, known⟩ := Option.bind_eq_some_iff.mp known
  exact lengthRuns_bounds run (List.mem_of_find?_eq_some searched) length known

theorem tableswitchLength_bounds {offset length : Nat} {operands : Bytes}
    (measured : tableswitchLength offset operands = .ok length) :
    0 < length ∧ length < 0x800000000 := by
  have narrow : padding offset < 4 := Nat.mod_lt _ (by decide)
  rw [tableswitchLength] at measured
  split at measured
  · simp only at measured
    split at measured
    · next counted =>
      cases measured
      omega
    · contradiction
  · contradiction

theorem lookupswitchLength_bounds {offset length : Nat} {operands : Bytes}
    (measured : lookupswitchLength offset operands = .ok length) :
    0 < length ∧ length < 0x800000000 := by
  have narrow : padding offset < 4 := Nat.mod_lt _ (by decide)
  rw [lookupswitchLength] at measured
  split at measured
  · next found =>
    have few := word?_lt found
    split at measured
    · cases measured
      omega
    · contradiction
  · contradiction

/-- An instruction takes at least one byte, and a word can count all of them. -/
theorem instructionLength_bounds {offset length : Nat} {opcode : UInt8} {operands : Bytes}
    (measured : instructionLength offset opcode operands = .ok length) :
    0 < length ∧ length < 0x800000000 := by
  rw [instructionLength] at measured
  split at measured
  · exact tableswitchLength_bounds measured
  · split at measured
    · exact lookupswitchLength_bounds measured
    · split at measured
      · unfold wideLength at measured
        split at measured
        · contradiction
        · cases measured
          split <;> decide
      · split at measured
        · next known =>
          cases measured
          have bounds := fixedLength?_bounds known
          omega
        · contradiction

end Bytecode

end CallGraph
