import CallGraph.Proofs.Bytecode.Length
import CallGraph.Proofs.Bytecode.Site

/-!
# Where a walk finds its instructions

A walk gets from one offset to the next by the length of the instruction between them.  Every
instruction of a walk stands at an offset that is reached so, and does what the opcode and the
operands there say.
-/

namespace CallGraph

namespace Bytecode

open ClassFile (ConstantPool)

/-- An offset of a method's code at which an instruction starts. -/
inductive Reaches (code : Bytes) : (offset : Nat) → Prop where
  /-- The first instruction starts at the front. -/
  | start : Reaches code 0
  /-- The next instruction starts behind the one before it. -/
  | next {offset length : Nat} (reached : Reaches code offset)
      (measured : lengthAt? code offset = some (.ok length)) : Reaches code (offset + length)

/-- The code consists of what stands before an instruction, its opcode and what stands behind it. -/
theorem length_of_drop {code operands : Bytes} {offset : Nat} {opcode : UInt8}
    (there : code.drop offset = opcode :: operands) :
    code.length = offset + (operands.length + 1) := by
  have rest := congrArg List.length there
  rw [List.length_drop, List.length_cons] at rest
  omega

theorem lt_length_of_drop {code operands : Bytes} {offset : Nat} {opcode : UInt8}
    (there : code.drop offset = opcode :: operands) : offset < code.length := by
  rw [length_of_drop there]
  omega

theorem drop_succ_of_drop {code operands : Bytes} {offset : Nat} {opcode : UInt8}
    (there : code.drop offset = opcode :: operands) : code.drop (offset + 1) = operands := by
  rw [← List.drop_drop, there, List.drop_one, List.tail_cons]

/-- The length at an offset is that of the instruction which starts there. -/
theorem lengthAt?_of_drop {code operands : Bytes} {offset : Nat} {opcode : UInt8}
    (there : code.drop offset = opcode :: operands) :
    lengthAt? code offset = some (instructionLength offset opcode operands) := by
  rw [lengthAt?, there]

variable {pool : ConstantPool} {operands : Bytes} {offset length : Nat} {opcode : UInt8}

/-- The length of the instruction in front and what it does, or what is wrong with it. -/
def firstInstruction (pool : ConstantPool) (offset : Nat) (opcode : UInt8) (operands : Bytes) :
    Except Fault (Nat × Operation) :=
  match instructionLength offset opcode operands with
  | .error cause => .error (.length cause)
  | .ok length =>
    if length ≤ operands.length + 1 then
      (operation pool offset opcode operands).map (length, ·)
    else
      .error (.overrun offset)

theorem firstInstruction_eq_ok_iff {result : Operation} :
    firstInstruction pool offset opcode operands = .ok (length, result) ↔
      instructionLength offset opcode operands = .ok length ∧ length ≤ operands.length + 1 ∧
        operation pool offset opcode operands = .ok result := by
  rw [firstInstruction]
  cases measured : instructionLength offset opcode operands with
  | error cause => simp
  | ok found =>
      by_cases fits : found ≤ operands.length + 1
      · simp only [fits, if_true, Fallible.map_eq_ok_iff, Prod.mk.injEq, Except.ok.injEq]
        constructor
        · rintro ⟨_, resolved, rfl, rfl⟩
          exact ⟨rfl, fits, resolved⟩
        · rintro ⟨rfl, -, resolved⟩
          exact ⟨result, resolved, rfl, rfl⟩
      · simp only [fits, if_false, reduceCtorEq, Except.ok.injEq, false_iff]
        rintro ⟨rfl, contra, -⟩
        exact fits contra

/-- A walk takes the instruction in front and goes on behind it. -/
theorem walkFrom_cons_eq :
    walkFrom pool offset (opcode :: operands) =
      (do
        let (length, result) ← firstInstruction pool offset opcode operands
        let later ← walkFrom pool (offset + length) ((opcode :: operands).drop length)
        return ⟨keptOffset offset, result⟩ :: later) := by
  rw [walkFrom, firstInstruction]
  cases measured : instructionLength offset opcode operands with
  | error cause => rfl
  | ok length =>
      have positive := (instructionLength_bounds measured).1
      by_cases fits : length ≤ operands.length + 1
      · simp only [positive, fits, and_self, dite_true, if_true]
        cases operation pool offset opcode operands <;> rfl
      · simp only [fits, and_false, dite_false, if_false]
        rfl

/-- A walk succeeds if and only if the first instruction fits and is resolved, and the walk behind
it succeeds. -/
theorem walkFrom_cons_eq_ok_iff {instructions : List Instruction} :
    walkFrom pool offset (opcode :: operands) = .ok instructions ↔
      ∃ length result later, instructionLength offset opcode operands = .ok length ∧
        (0 < length ∧ length ≤ operands.length + 1) ∧
        operation pool offset opcode operands = .ok result ∧
        walkFrom pool (offset + length) ((opcode :: operands).drop length) = .ok later ∧
        instructions = ⟨keptOffset offset, result⟩ :: later := by
  rw [walkFrom_cons_eq, Fallible.bind_eq_ok_iff]
  constructor
  · rintro ⟨⟨length, result⟩, taken, rest⟩
    obtain ⟨later, walked, made⟩ := Fallible.of_bind_eq_ok rest
    obtain rfl := Fallible.of_pure_eq_ok made
    obtain ⟨measured, fits, resolved⟩ := firstInstruction_eq_ok_iff.mp taken
    exact ⟨length, result, later, measured, ⟨(instructionLength_bounds measured).1, fits⟩, resolved,
      walked, rfl⟩
  · rintro ⟨length, result, later, measured, ⟨-, fits⟩, resolved, walked, rfl⟩
    exact ⟨(length, result), firstInstruction_eq_ok_iff.mpr ⟨measured, fits, resolved⟩,
      Fallible.bind_eq_ok_iff.mpr ⟨later, walked, rfl⟩⟩

/-- An instruction stands at an offset of a method's code: a walk reaches the offset, and the
instruction does what the opcode and the operands there say. -/
def StandsAt (pool : ConstantPool) (code : Bytes) (offset : Nat) (instruction : Instruction) :
    Prop :=
  ∃ opcode operands, Reaches code offset ∧ code.drop offset = opcode :: operands ∧
    operation pool offset opcode operands = .ok instruction.operation

/-- The instructions of a walk from an offset that was reached stand in the code.  The induction is
on what is left of the code. -/
theorem exists_standsAt_of_walkFrom {pool : ConstantPool} {code left : Bytes} {offset : Nat}
    {instructions : List Instruction} (reached : Reaches code offset)
    (left_eq : code.drop offset = left) (walked : walkFrom pool offset left = .ok instructions)
    {instruction : Instruction} (member : instruction ∈ instructions) :
    ∃ offset, instruction.offset = keptOffset offset ∧ StandsAt pool code offset instruction := by
  induction offset, left using walkFrom.induct generalizing instructions with
  | case1 offset =>
      rw [walkFrom, Except.ok.injEq] at walked
      rw [← walked] at member
      exact absurd member List.not_mem_nil
  | case2 offset opcode operands fault unmeasured =>
      obtain ⟨length, _, _, measured, -⟩ := walkFrom_cons_eq_ok_iff.mp walked
      rw [unmeasured] at measured
      contradiction
  | case3 offset opcode operands length measured fits ih =>
      obtain ⟨length', result, later, measured', -, resolved, walked, rfl⟩ :=
        walkFrom_cons_eq_ok_iff.mp walked
      obtain rfl : length = length' := Except.ok.inj (measured.symm.trans measured')
      rcases List.mem_cons.mp member with rfl | member
      · exact ⟨offset, rfl, opcode, operands, reached, left_eq, resolved⟩
      · have next := reached.next ((lengthAt?_of_drop left_eq).trans (congrArg some measured))
        refine ih next ?_ walked member
        rw [← List.drop_drop, left_eq]
  | case4 offset opcode operands length measured overrun =>
      obtain ⟨length', _, _, measured', fits, -⟩ := walkFrom_cons_eq_ok_iff.mp walked
      obtain rfl : length = length' := Except.ok.inj (measured.symm.trans measured')
      exact absurd fits overrun

theorem exists_standsAt {pool : ConstantPool} {code : Bytes} {instructions : List Instruction}
    (walked : walk pool code = .ok instructions) {instruction : Instruction}
    (member : instruction ∈ instructions) :
    ∃ offset, instruction.offset = keptOffset offset ∧ StandsAt pool code offset instruction :=
  exists_standsAt_of_walkFrom .start List.drop_zero walked member

/-- A call of a kind of dispatch stands at an offset of a method's code, with a pool index in its
operand. -/
def CallsAt (code : Bytes) (offset : Nat) (dispatch : Dispatch) (index : UInt16) : Prop :=
  ∃ opcode operands, Reaches code offset ∧ code.drop offset = opcode :: operands ∧
    dispatch? opcode = some dispatch ∧ operandIndex operands = .ok index

/-- Where a walk finds a call site, a call stands whose operand names the site. -/
theorem exists_callsAt {pool : ConstantPool} {code : Bytes} {instructions : List Instruction}
    (walked : walk pool code = .ok instructions) {offset : Nat} {site : CallSite}
    (member : ⟨offset, .invoke site⟩ ∈ instructions) :
    ∃ start index, offset = keptOffset start ∧ CallsAt code start site.dispatch index ∧
      IsSite pool index site.dispatch site := by
  obtain ⟨start, kept, opcode, operands, reached, there, resolved⟩ := exists_standsAt walked member
  obtain ⟨dispatch, index, calls, read, names⟩ := operation_eq_invoke_iff.mp resolved
  obtain rfl := names.dispatch_eq
  exact ⟨start, index, kept, ⟨opcode, operands, reached, there, calls, read⟩, names⟩

end Bytecode

end CallGraph
