import CallGraph.Proofs.Bytecode.Tiling

/-!
# Joining code

Code may be joined at a multiple of four, where a switch finds its table at the same distance as at
the front: what is walked behind other code is walked as if it stood alone, except that all its
offsets are larger by the length of the code in front.  That goes for the instructions of a walk
that succeeds and for the account of a walk that fails.
-/

namespace CallGraph

/-- The same instruction, farther behind. -/
def Instruction.moved (distance : Nat) (instruction : Instruction) : Instruction :=
  { instruction with offset := instruction.offset + distance }

namespace Bytecode

open ClassFile (ConstantPool)

/-- The same fault, farther behind. -/
def Fault.moved (distance : Nat) : Fault → Fault
  | length cause => .length cause
  | overrun offset => .overrun (offset + distance)
  | operandPastEnd => .operandPastEnd
  | method offset cause => .method (offset + distance) cause
  | callSite offset cause => .callSite (offset + distance) cause
  | descriptor cause => .descriptor cause

/-- The labels in front of the offsets in an account. -/
def offsetLabels : List String :=
  ["invalid bytecode length at offset ", "resolve method ref at offset ",
    "resolve invokedynamic at offset "]

/-- A line does not start with the label of an offset. -/
def IsPlaceless (line : String) : Prop :=
  ∀ label ∈ offsetLabels, ¬label.toList <+: line.toList

instance (line : String) : Decidable (IsPlaceless line) :=
  inferInstanceAs (Decidable (∀ label ∈ offsetLabels, _))

/-- A line of an account says the same of a place farther behind: the offset in it is larger by a
distance, and nothing else changes. -/
inductive MovedLine (distance : Nat) : String → String → Prop where
  | place {label : String} (known : label ∈ offsetLabels) (offset : Nat) :
      MovedLine distance (label ++ toString offset) (label ++ toString (offset + distance))
  | placeless {line : String} (plain : IsPlaceless line) : MovedLine distance line line

variable {distance : Nat}

/-- The labels of offsets all start with one of two letters. -/
theorem isPlaceless_append {front : String} (back : String) {letter : Char}
    (starts : front.toList.head? = some letter) (apart : letter ≠ 'i' ∧ letter ≠ 'r') :
    IsPlaceless (front ++ back) := by
  intro label known fits
  rcases fits with ⟨rest, split⟩
  have first := congrArg List.head? split
  rw [String.toList_append, List.head?_append, List.head?_append, starts] at first
  simp only [offsetLabels, List.mem_cons, List.not_mem_nil, or_false] at known
  rcases known with rfl | rfl | rfl
  · exact apart.1 (Option.some.inj first).symm
  · exact apart.2 (Option.some.inj first).symm
  · exact apart.2 (Option.some.inj first).symm

theorem isPlaceless_lengthFault (cause : LengthFault) : IsPlaceless cause.message := by
  cases cause with
  | unsupported opcode => exact isPlaceless_append _ rfl (by decide)
  | headerPastEnd | tableRange | pairCount | nothingToWiden => decide +kernel

theorem isPlaceless_of_mem_dangling {cause : ClassFile.Dangling} {line : String}
    (member : line ∈ cause.chain) : IsPlaceless line := by
  induction cause with
  | missing wanted =>
      rcases List.mem_singleton.mp member with rfl
      exact isPlaceless_append _ rfl (by decide)
  | unexpected wanted =>
      rcases List.mem_singleton.mp member with rfl
      exact isPlaceless_append _ rfl (by decide)
  | within part cause ih =>
      rcases List.mem_cons.mp member with rfl | member
      · cases part <;> decide +kernel
      · exact ih member

theorem isPlaceless_of_mem_rejection {rejection : Descriptor.Rejection} {line : String}
    (member : line ∈ rejection.chain) : IsPlaceless line := by
  rcases rejection with ⟨subject, text, cause⟩
  have worded : IsPlaceless cause.message := by
    cases cause <;> decide +kernel
  cases subject with
  | method | arrayClass =>
      rcases List.mem_pair.mp member with rfl | rfl
      · exact isPlaceless_append _ rfl (by decide)
      · exact worded

theorem forall₂_movedLine_of_placeless {lines : List String}
    (plain : ∀ line ∈ lines, IsPlaceless line) : List.Forall₂ (MovedLine distance) lines lines := by
  induction lines with
  | nil => exact .nil
  | cons line lines ih =>
      rcases List.forall_mem_cons.mp plain with ⟨here, behind⟩
      exact .cons (.placeless here) (ih behind)

/-- The account of a fault farther behind differs in the offsets alone. -/
theorem Fault.forall₂_chain_moved (fault : Fault) :
    List.Forall₂ (MovedLine distance) fault.chain (fault.moved distance).chain := by
  cases fault with
  | length cause => exact .cons (.placeless (isPlaceless_lengthFault cause)) .nil
  | overrun offset => exact .cons (.place (by decide) offset) .nil
  | operandPastEnd => exact .cons (.placeless (by decide +kernel)) .nil
  | method offset cause =>
      exact .cons (.place (by decide) offset)
        (forall₂_movedLine_of_placeless fun _ => isPlaceless_of_mem_dangling)
  | callSite offset cause =>
      exact .cons (.place (by decide) offset)
        (forall₂_movedLine_of_placeless fun _ => isPlaceless_of_mem_dangling)
  | descriptor rejection =>
      exact forall₂_movedLine_of_placeless fun _ => isPlaceless_of_mem_rejection

/-! ## More code behind -/

variable {pool : ConstantPool} {offset index length : Nat} {opcode : UInt8} {operands : Bytes}

theorem word?_append_of_eq_some {number : Int} (read : word? operands index = some number)
    (rest : Bytes) : word? (operands ++ rest) index = some number := by
  rw [word?, Option.map_eq_some_iff] at read ⊢
  rcases read with ⟨block, cut, value_eq⟩
  exact ⟨block, Bytes.slice?_append_of_eq_some (by decide) cut rest, value_eq⟩

/-- The length of a switch does not depend on what follows its header. -/
theorem tableswitchLength_append (measured : tableswitchLength offset operands = .ok length)
    (rest : Bytes) : tableswitchLength offset (operands ++ rest) = .ok length := by
  rw [tableswitchLength] at measured ⊢
  split at measured
  · next low high lowRead highRead =>
    rw [word?_append_of_eq_some lowRead, word?_append_of_eq_some highRead]
    exact measured
  · contradiction

theorem lookupswitchLength_append (measured : lookupswitchLength offset operands = .ok length)
    (rest : Bytes) : lookupswitchLength offset (operands ++ rest) = .ok length := by
  rw [lookupswitchLength] at measured ⊢
  split at measured
  · next pairs read =>
    rw [word?_append_of_eq_some read]
    exact measured
  · contradiction

theorem wideLength_append (measured : wideLength operands = .ok length) (rest : Bytes) :
    wideLength (operands ++ rest) = .ok length := by
  cases operands with
  | nil => contradiction
  | cons opcode operands => exact measured

/-- An instruction that has a length keeps it when more code is put behind. -/
theorem instructionLength_append
    (measured : instructionLength offset opcode operands = .ok length) (rest : Bytes) :
    instructionLength offset opcode (operands ++ rest) = .ok length := by
  rw [instructionLength] at measured ⊢
  split
  · next table =>
    rw [if_pos table] at measured
    exact tableswitchLength_append measured rest
  · next noTable =>
    rw [if_neg noTable] at measured
    split
    · next pairs =>
      rw [if_pos pairs] at measured
      exact lookupswitchLength_append measured rest
    · next noPairs =>
      rw [if_neg noPairs] at measured
      split
      · next widens =>
        rw [if_pos widens] at measured
        exact wideLength_append measured rest
      · next noWide =>
        rw [if_neg noWide] at measured
        exact measured

theorem operandIndex_append_of_eq_ok {index : UInt16} (read : operandIndex operands = .ok index)
    (rest : Bytes) : operandIndex (operands ++ rest) = .ok index := by
  match operands, read with
  | _ :: _ :: _, read => exact read

/-- An instruction that is resolved does the same when more code is put behind. -/
theorem operation_append {result : Operation}
    (resolved : operation pool offset opcode operands = .ok result) (rest : Bytes) :
    operation pool offset opcode (operands ++ rest) = .ok result := by
  cases result with
  | other =>
      rw [operation_of_dispatch?_eq_none ((eq_other_iff_of_operation resolved).mp rfl)]
  | invoke site =>
      rcases operation_eq_invoke_iff.mp resolved with ⟨dispatch, index, calls, read, names⟩
      exact operation_eq_invoke_iff.mpr
        ⟨dispatch, index, calls, operandIndex_append_of_eq_ok read rest, names⟩

/-- The instruction in front is taken alike when more code is put behind. -/
theorem firstInstruction_append {result : Operation}
    (taken : firstInstruction pool offset opcode operands = .ok (length, result)) (rest : Bytes) :
    firstInstruction pool offset opcode (operands ++ rest) = .ok (length, result) := by
  rcases firstInstruction_eq_ok_iff.mp taken with ⟨measured, fits, resolved⟩
  rw [firstInstruction_eq_ok_iff, List.length_append]
  exact ⟨instructionLength_append measured rest, by omega, operation_append resolved rest⟩

/-- A walk that gets through the code in front goes on behind it.  The induction is on what is left
of the code in front. -/
theorem walkFrom_append {front : Bytes} {first : List Instruction} (back : Bytes)
    (walked : walkFrom pool offset front = .ok first) :
    walkFrom pool offset (front ++ back) =
      (walkFrom pool (offset + front.length) back).map (first ++ ·) := by
  induction offset, front using walkFrom.induct generalizing first with
  | case1 offset =>
      rw [walkFrom, Except.ok.injEq] at walked
      subst walked
      rw [List.nil_append, List.length_nil, Nat.add_zero]
      cases walkFrom pool offset back <;> rfl
  | case2 offset opcode operands fault unmeasured =>
      rcases walkFrom_cons_eq_ok_iff.mp walked with ⟨_, _, _, measured, -⟩
      rw [unmeasured] at measured
      contradiction
  | case3 offset opcode operands length measured fits ih =>
      rcases walkFrom_cons_eq_ok_iff.mp walked with
        ⟨length', result, later, measured', -, resolved, rest, rfl⟩
      obtain rfl : length = length' := Except.ok.inj (measured.symm.trans measured')
      have taken := firstInstruction_append
        (firstInstruction_eq_ok_iff.mpr ⟨measured, fits.2, resolved⟩) back
      have inside : length ≤ (opcode :: operands).length := fits.2
      have size := Nat.add_sub_cancel' inside
      rw [← List.length_drop] at size
      rw [List.cons_append, walkFrom_cons_eq, taken, ← size, ← Nat.add_assoc]
      simp only [bind, Except.bind, ← List.cons_append, List.drop_append_of_le_length inside,
        ih rest]
      cases walkFrom pool (offset + length + ((opcode :: operands).drop length).length) back <;> rfl
  | case4 offset opcode operands length measured overrun =>
      rcases walkFrom_cons_eq_ok_iff.mp walked with ⟨length', _, _, measured', fits, -⟩
      obtain rfl : length = length' := Except.ok.inj (measured.symm.trans measured')
      exact absurd fits overrun

/-! ## Other code in front -/

theorem padding_add (aligned : 4 ∣ distance) : padding (offset + distance) = padding offset := by
  unfold padding
  omega

/-- At a multiple of four, every instruction is as long as at the front. -/
theorem instructionLength_add (aligned : 4 ∣ distance) :
    instructionLength (offset + distance) opcode operands =
      instructionLength offset opcode operands := by
  simp only [instructionLength, tableswitchLength, lookupswitchLength, padding_add aligned]

theorem siteOf_add {dispatch : Dispatch} {index : UInt16} :
    siteOf pool (offset + distance) dispatch index =
      (siteOf pool offset dispatch index).mapError (Fault.moved distance) := by
  cases dispatch with
  | dynamic =>
      simp only [siteOf, dynamicSite]
      cases ClassFile.callSiteAt pool index with
      | error cause => rfl
      | ok site =>
          simp only [Fallible.mapError_ok, bind, Except.bind]
          cases Descriptor.returnType site.descriptor with
          | error cause => rfl
          | ok owner => cases Descriptor.argumentTypes site.descriptor <;> rfl
  | virtual | interface | special | static =>
      simp only [siteOf, namedSite]
      cases ClassFile.methodAt pool index with
      | error cause => rfl
      | ok method =>
          simp only [Fallible.mapError_ok, bind, Except.bind]
          cases Descriptor.classDisplayName method.owner with
          | error cause => rfl
          | ok owner => cases Descriptor.argumentTypes method.descriptor <;> rfl

theorem eq_operandPastEnd_of_operandIndex {fault : Fault}
    (cutOff : operandIndex operands = .error fault) : fault = .operandPastEnd := by
  unfold operandIndex at cutOff
  split at cutOff
  · contradiction
  · cases cutOff
    rfl

/-- An instruction does the same farther behind, or fails with the same fault of another place. -/
theorem operation_add :
    operation pool (offset + distance) opcode operands =
      (operation pool offset opcode operands).mapError (Fault.moved distance) := by
  cases calls : dispatch? opcode with
  | none => simp only [operation_of_dispatch?_eq_none calls, Fallible.mapError_ok]
  | some dispatch =>
      cases read : operandIndex operands with
      | error fault =>
          obtain rfl := eq_operandPastEnd_of_operandIndex read
          cases dispatch <;> simp only [operation, calls, read] <;> rfl
      | ok index =>
          rw [operation_of_call calls read, operation_of_call calls read, siteOf_add]
          cases siteOf pool offset dispatch index <;> rfl

/-- The instruction in front is taken alike at a multiple of four. -/
theorem firstInstruction_add (aligned : 4 ∣ distance) :
    firstInstruction pool (offset + distance) opcode operands =
      (firstInstruction pool offset opcode operands).mapError (Fault.moved distance) := by
  rw [firstInstruction, firstInstruction, instructionLength_add aligned, operation_add]
  cases instructionLength offset opcode operands with
  | error cause => rfl
  | ok length =>
      by_cases fits : length ≤ operands.length + 1
      · simp only [fits, if_true]
        cases operation pool offset opcode operands <;> rfl
      · simp only [fits, if_false]
        rfl

/-- What is walked is the same farther behind, if it is walked from a multiple of four.  The
induction is on what is left of the code. -/
theorem walkFrom_add {code : Bytes} (aligned : 4 ∣ distance)
    (short : offset + distance + code.length < 0x100000000) :
    walkFrom pool (offset + distance) code =
      ((walkFrom pool offset code).map (List.map (Instruction.moved distance))).mapError
        (Fault.moved distance) := by
  induction offset, code using walkFrom.induct with
  | case1 offset =>
      rw [walkFrom, walkFrom]
      rfl
  | case2 offset opcode operands cause unmeasured =>
      rw [walkFrom_cons_eq, walkFrom_cons_eq, firstInstruction_add aligned, firstInstruction,
        unmeasured]
      rfl
  | case3 offset opcode operands length measured fits ih =>
      rw [walkFrom_cons_eq, walkFrom_cons_eq, firstInstruction_add aligned, firstInstruction,
        measured]
      simp only [fits.2, if_true]
      cases operation pool offset opcode operands with
      | error fault => rfl
      | ok result =>
          rw [List.length_cons] at short
          have rest := ih (by rw [List.length_drop, List.length_cons]; omega)
          have kept : keptOffset (offset + distance) = keptOffset offset + distance := by
            rw [keptOffset_of_lt (by omega), keptOffset_of_lt (by omega)]
          rw [Nat.add_right_comm] at rest
          simp only [Fallible.mapError_ok, Except.map, bind, Except.bind, rest, kept]
          cases walkFrom pool (offset + length) ((opcode :: operands).drop length) <;> rfl
  | case4 offset opcode operands length measured overrun =>
      have positive := (instructionLength_bounds measured).1
      have past : ¬length ≤ operands.length + 1 := fun fits => overrun ⟨positive, fits⟩
      rw [walkFrom_cons_eq, walkFrom_cons_eq, firstInstruction_add aligned, firstInstruction,
        measured]
      simp only [past, if_false]
      rfl

/-- Code that is walked may be joined with other code behind it, if it ends at a multiple of four.
The walk goes on as the walk of the code behind does, except that offsets are larger by the length
of the code in front, also in the account of a fault. -/
theorem walk_append (pool : ConstantPool) (front back : Bytes) (first : List Instruction)
    (short : (front ++ back).length < 0x100000000) (aligned : 4 ∣ front.length)
    (walked : walk pool front = .ok first) :
    ((∃ instructions, walk pool (front ++ back) = .ok instructions) ↔
      ∃ later, walk pool back = .ok later) ∧
    (∀ later, walk pool back = .ok later →
      walk pool (front ++ back) =
        .ok (first ++ later.map (Instruction.moved front.length))) ∧
    ∀ fault, walk pool back = .error fault →
      walk pool (front ++ back) = .error (fault.moved front.length) ∧
        List.Forall₂ (MovedLine front.length) fault.chain (fault.moved front.length).chain := by
  rw [List.length_append] at short
  have moved : walkFrom pool (0 + front.length) back =
      ((walk pool back).map (List.map (Instruction.moved front.length))).mapError
        (Fault.moved front.length) := walkFrom_add aligned (by omega)
  have joined := walkFrom_append back walked
  rw [moved] at joined
  cases behind : walk pool back with
  | ok later =>
      rw [behind] at joined
      refine ⟨iff_of_true ⟨_, joined⟩ ⟨later, rfl⟩, ?_, nofun⟩
      intro later' same
      rw [← Except.ok.inj same]
      exact joined
  | error fault =>
      rw [behind] at joined
      refine ⟨iff_of_false ?_ nofun, nofun, ?_⟩
      · rintro ⟨instructions, contra⟩
        cases joined.symm.trans contra
      · intro fault' same
        rw [← Except.error.inj same]
        exact ⟨joined, fault.forall₂_chain_moved⟩

/-- A call behind a constant, four bytes in all. -/
def alignedCode : Bytes :=
  [0x03, Opcode.invokestatic, 0x00, 0x06]

theorem walk_append_alignedCode :
    (alignedCode ++ layoutFrom 0 siteShapes).length < 0x100000000 ∧ 4 ∣ alignedCode.length ∧
      (∃ first later, walk sitePool alignedCode = .ok first ∧
        walk sitePool (layoutFrom 0 siteShapes) = .ok later ∧
        walk sitePool (alignedCode ++ layoutFrom 0 siteShapes) =
          .ok (first ++ later.map (Instruction.moved 4))) ∧
      walk sitePool [Opcode.invokestatic, 0x00, 0x05] = .error (.method 0 (.unexpected .method)) ∧
      walk sitePool (alignedCode ++ [Opcode.invokestatic, 0x00, 0x05]) =
        .error (.method 4 (.unexpected .method)) := by
  have aligned : 4 ∣ alignedCode.length := by decide
  have short : (alignedCode ++ layoutFrom 0 siteShapes).length < 0x100000000 := by decide +kernel
  have ⟨first, walked, _⟩ : ∃ first, walk sitePool alignedCode = .ok first ∧
      first.map Instruction.offset = [0, 1] :=
    Fallible.map_eq_ok_iff.mp (by decide +kernel)
  have ⟨later, behind, _⟩ : ∃ later, walk sitePool (layoutFrom 0 siteShapes) = .ok later ∧
      later.map Instruction.offset = offsetsFrom 0 siteShapes :=
    Fallible.map_eq_ok_iff.mp (by decide +kernel)
  have dangling : walk sitePool [Opcode.invokestatic, 0x00, 0x05] =
      .error (.method 0 (.unexpected .method)) := by decide +kernel
  have ⟨_, joined, _⟩ := walk_append sitePool alignedCode (layoutFrom 0 siteShapes) first short
    aligned walked
  have ⟨_, _, failing⟩ := walk_append sitePool alignedCode [Opcode.invokestatic, 0x00, 0x05] first
    (by decide) aligned walked
  exact ⟨short, aligned, ⟨first, later, walked, behind, joined later behind⟩, dangling,
    (failing _ dangling).1⟩

end Bytecode

end CallGraph
