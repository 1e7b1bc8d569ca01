import CallGraph.Proofs.Bytecode.FirstFault
import CallGraph.Proofs.Bytecode.Layout
import CallGraph.Proofs.Bytecode.Machine

/-!
# Walks that tile the code

The instructions of a walk lie one behind the other: the first at the start of the code, each where
the one before it ends, and the last ends where the code ends.  Together with what makes a walk
fail, and with the machine that takes the same walk without a trap, this says all that walking does.
-/

namespace CallGraph

namespace Bytecode

open ClassFile (ConstantPool)

/-- Instructions tile the code from an offset on: each stands where the one before it ends, is as
long as its opcode and operands say, and the last one ends where the code ends. -/
inductive Tiles (code : Bytes) : (offset : Nat) → List Instruction → Prop where
  | done : Tiles code code.length []
  | next {offset length : Nat} {instruction : Instruction} {later : List Instruction}
      (starts : instruction.offset = offset)
      (measured : lengthAt? code offset = some (.ok length))
      (rest : Tiles code (offset + length) later) : Tiles code offset (instruction :: later)

variable {pool : ConstantPool} {code operands : Bytes} {offset : Nat} {opcode : UInt8}

/-- A successful walk of what is left of the code tiles it. -/
theorem tiles_of_walkFrom {left : Bytes} {instructions : List Instruction}
    (short : code.length < 0x100000000) (inside : offset ≤ code.length)
    (left_eq : code.drop offset = left) (walked : walkFrom pool offset left = .ok instructions) :
    Tiles code offset instructions := by
  induction offset, left using walkFrom.induct generalizing instructions with
  | case1 offset =>
      rw [walkFrom, Except.ok.injEq] at walked
      subst walked
      obtain rfl : offset = code.length :=
        Nat.le_antisymm inside (List.drop_eq_nil_iff.mp left_eq)
      exact .done
  | case2 offset opcode operands fault unmeasured =>
      rw [walkFrom, unmeasured] at walked
      contradiction
  | case3 offset opcode operands length measured fits ih =>
      obtain ⟨length', result, later, measured', -, resolved, walked, rfl⟩ :=
        walkFrom_cons_eq_ok_iff.mp walked
      obtain rfl : length = length' := Except.ok.inj (measured.symm.trans measured')
      have size := length_of_drop left_eq
      refine .next (keptOffset_of_lt (by omega))
        ((lengthAt?_of_drop left_eq).trans (congrArg some measured)) ?_
      exact ih (by omega) (by rw [← List.drop_drop, left_eq]) walked
  | case4 offset opcode operands length measured overrun =>
      obtain ⟨length', _, _, measured', fits, -⟩ := walkFrom_cons_eq_ok_iff.mp walked
      obtain rfl : length = length' := Except.ok.inj (measured.symm.trans measured')
      exact absurd fits overrun

theorem Tiles.le_offset {instructions : List Instruction} (tiles : Tiles code offset instructions)
    {instruction : Instruction} (member : instruction ∈ instructions) :
    offset ≤ instruction.offset := by
  induction tiles with
  | done => contradiction
  | next starts measured rest ih =>
      rcases List.mem_cons.mp member with rfl | member
      · exact Nat.le_of_eq starts.symm
      · have later := ih member
        omega

theorem Tiles.pairwise_lt {instructions : List Instruction}
    (tiles : Tiles code offset instructions) :
    (instructions.map Instruction.offset).Pairwise (· < ·) := by
  induction tiles with
  | done => exact .nil
  | next starts measured rest ih =>
      rw [List.map_cons]
      refine .cons (fun place member => ?_) ih
      obtain ⟨instruction, behind, rfl⟩ := List.mem_map.mp member
      have later := rest.le_offset behind
      have positive := length_pos_of_lengthAt? measured
      omega

/-- A tiling is empty if and only if it starts where the code ends. -/
theorem Tiles.eq_nil_iff {instructions : List Instruction}
    (tiles : Tiles code offset instructions) : instructions = [] ↔ offset = code.length := by
  cases tiles with
  | done => simp
  | next starts measured rest => simp [Nat.ne_of_lt (lt_length_of_lengthAt? measured)]

/-- The instructions of a walk stand in the code at the offsets under which they are kept. -/
theorem standsAt_of_walk {instructions : List Instruction} (short : code.length < 0x100000000)
    (walked : walk pool code = .ok instructions) {instruction : Instruction}
    (member : instruction ∈ instructions) :
    StandsAt pool code instruction.offset instruction := by
  obtain ⟨offset, kept, stands⟩ := exists_standsAt walked member
  have ⟨_, _, _, there, _⟩ := stands
  have inside := lt_length_of_drop there
  rw [kept, keptOffset_of_lt (by omega)]
  exact stands

private theorem dispatch?_table :
    ∀ code < 256, dispatch? (UInt8.ofNat code) = none ↔
      ¬(Opcode.invokevirtual ≤ UInt8.ofNat code ∧ UInt8.ofNat code ≤ Opcode.invokedynamic) := by
  decide +kernel

/-- The opcodes of calls stand next to each other. -/
theorem dispatch?_eq_none_iff :
    dispatch? opcode = none ↔ ¬(Opcode.invokevirtual ≤ opcode ∧ opcode ≤ Opcode.invokedynamic) := by
  have entry := dispatch?_table opcode.toNat opcode.toNat_lt
  rwa [UInt8.ofNat_toNat] at entry

/-- An instruction does nothing that matters if and only if it does not call. -/
theorem eq_other_iff_of_operation {result : Operation}
    (resolved : operation pool offset opcode operands = .ok result) :
    result = .other ↔ dispatch? opcode = none := by
  cases calls : dispatch? opcode with
  | none =>
      rw [operation_of_dispatch?_eq_none calls, Except.ok.injEq] at resolved
      simp [← resolved]
  | some dispatch =>
      cases result with
      | other =>
          cases read : operandIndex operands with
          | error fault =>
              simp only [operation, calls, read] at resolved
              cases dispatch <;> cases resolved
          | ok index =>
              obtain ⟨_, _, contra⟩ := (operation_eq_ok_iff calls read).mp resolved
              cases contra
      | invoke site => simp

/-- Whether an instruction does anything that matters is up to its opcode alone. -/
theorem StandsAt.eq_other_iff {instruction : Instruction}
    (stands : StandsAt pool code offset instruction) :
    ∃ opcode, code[offset]? = some opcode ∧
      (instruction.operation = .other ↔
        ¬(Opcode.invokevirtual ≤ opcode ∧ opcode ≤ Opcode.invokedynamic)) := by
  obtain ⟨opcode, operands, -, there, resolved⟩ := stands
  refine ⟨opcode, ?_, ?_⟩
  · rw [← List.head?_drop, there, List.head?_cons]
  · rw [eq_other_iff_of_operation resolved, dispatch?_eq_none_iff]

/-- The walk of code that is short enough for offsets of 32 bits never traps.  If it succeeds, its
instructions tile the code and call where the opcode is that of a call; it fails if and only if
something is wrong on the way, with what is wrong first. -/
theorem walk_tiles (pool : ConstantPool) (code : Bytes) (short : code.length < 0x100000000) :
    Machine.walk pool code = (walk pool code).mapError .fault ∧
      (∀ instructions, walk pool code = .ok instructions →
        (instructions = [] ↔ code = []) ∧ Tiles code 0 instructions ∧
        (instructions.map Instruction.offset).Pairwise (· < ·) ∧
        ∀ instruction ∈ instructions, ∃ opcode, code[instruction.offset]? = some opcode ∧
          (instruction.operation = .other ↔
            ¬(Opcode.invokevirtual ≤ opcode ∧ opcode ≤ Opcode.invokedynamic))) ∧
      ((∃ fault, walk pool code = .error fault) ↔
        ∃ offset fault, Reaches code offset ∧ FaultAt pool code offset fault) ∧
      (∀ fault, walk pool code = .error fault ↔
        ∃ offset, IsFirstFault pool code offset fault) ∧
      walk pool code ≠ .error .operandPastEnd ∧
      ∀ offset, lengthAt? code offset ≠ some (.ok 0) := by
  refine ⟨Machine.walk_eq short, fun instructions walked => ?_, exists_walk_eq_error_iff,
    fun fault => walk_eq_error_iff, walk_ne_operandPastEnd, fun offset measured => ?_⟩
  · have tiles : Tiles code 0 instructions :=
      tiles_of_walkFrom short (Nat.zero_le _) List.drop_zero walked
    have empty : instructions = [] ↔ code = [] := by
      rw [tiles.eq_nil_iff, eq_comm, List.length_eq_zero_iff]
    exact ⟨empty, tiles, tiles.pairwise_lt,
      fun instruction member => (standsAt_of_walk short walked member).eq_other_iff⟩
  · exact absurd (length_pos_of_lengthAt? measured) (Nat.lt_irrefl 0)

/-- A call behind a constant, in front of a return. -/
def callCode : Bytes :=
  [0x03, Opcode.invokestatic, 0x00, 0x06, Opcode.return_]

theorem walk_tiles_callCode :
    callCode.length < 0x100000000 ∧
      (∃ instructions, walk sitePool callCode = .ok instructions ∧
        instructions.map Instruction.offset = [0, 1, 4] ∧ Tiles callCode 0 instructions) ∧
      ∃ offset, IsFirstFault #[] callCode offset (.method 1 (.missing .method)) := by
  have short : callCode.length < 0x100000000 := by decide
  obtain ⟨-, succeeding, -⟩ := walk_tiles sitePool callCode short
  obtain ⟨-, -, -, failing, -⟩ := walk_tiles #[] callCode short
  obtain ⟨instructions, walked, offsets⟩ : ∃ instructions,
      walk sitePool callCode = .ok instructions ∧
        instructions.map Instruction.offset = [0, 1, 4] :=
    Fallible.map_eq_ok_iff.mp (by decide +kernel)
  exact ⟨short, ⟨instructions, walked, offsets, (succeeding instructions walked).2.1⟩,
    (failing _).mp (by decide +kernel)⟩

end Bytecode

end CallGraph
