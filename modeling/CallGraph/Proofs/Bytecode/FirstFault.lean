import CallGraph.Proofs.Bytecode.Walk

/-!
# What is wrong with code

A walk fails at the first offset on its way where something is wrong with the instruction: it has
no length, it does not fit into the rest of the code, or it is a call that is refused.  Nothing else
makes a walk fail; above all, no operand is ever cut off, because the call would not fit then.
-/

namespace CallGraph

namespace Bytecode

open ClassFile (ConstantPool MethodReference DynamicSite IsMethod IsCallSite)

/-- A call at an offset is refused for what the index in its operand leads to: an entry of the pool
is missing or of another kind, or a text at the end of the way is not well-formed. -/
inductive Refuses (pool : ConstantPool) (offset : Nat) (index : UInt16) :
    Dispatch → Fault → Prop where
  | method {dispatch : Dispatch} {cause : ClassFile.Dangling} (plain : dispatch ≠ .dynamic)
      (dangling : ClassFile.methodAt pool index = .error cause) :
      Refuses pool offset index dispatch (.method offset cause)
  | owner {dispatch : Dispatch} {method : MethodReference} {cause : Descriptor.Rejection}
      (plain : dispatch ≠ .dynamic) (found : IsMethod pool index method)
      (rejected : Descriptor.classDisplayName method.owner = .error cause) :
      Refuses pool offset index dispatch (.descriptor cause)
  | descriptor {dispatch : Dispatch} {method : MethodReference} {owner : String}
      {cause : Descriptor.Rejection} (plain : dispatch ≠ .dynamic)
      (found : IsMethod pool index method)
      (shown : Descriptor.classDisplayName method.owner = .ok owner)
      (rejected : Descriptor.methodType method.descriptor = .error cause) :
      Refuses pool offset index dispatch (.descriptor cause)
  | callSite {cause : ClassFile.Dangling}
      (dangling : ClassFile.callSiteAt pool index = .error cause) :
      Refuses pool offset index .dynamic (.callSite offset cause)
  | dynamicDescriptor {site : DynamicSite} {cause : Descriptor.Rejection}
      (found : IsCallSite pool index site)
      (rejected : Descriptor.methodType site.descriptor = .error cause) :
      Refuses pool offset index .dynamic (.descriptor cause)

/-- Something is wrong with the instruction at an offset. -/
inductive FaultAt (pool : ConstantPool) (code : Bytes) (offset : Nat) : Fault → Prop where
  /-- The instruction has no length. -/
  | length {cause : LengthFault} (unmeasured : lengthAt? code offset = some (.error cause)) :
      FaultAt pool code offset (.length cause)
  /-- The instruction does not fit into the rest of the code. -/
  | overrun {length : Nat} (measured : lengthAt? code offset = some (.ok length))
      (past : code.length < offset + length) : FaultAt pool code offset (.overrun offset)
  /-- The instruction is a call that is refused. -/
  | refused {length : Nat} {dispatch : Dispatch} {index : UInt16} {fault : Fault}
      (measured : lengthAt? code offset = some (.ok length))
      (fits : offset + length ≤ code.length) (calls : CallsAt code offset dispatch index)
      (refuses : Refuses pool offset index dispatch fault) : FaultAt pool code offset fault

/-- With the instructions in front of an offset nothing is wrong. -/
def SoundBefore (pool : ConstantPool) (code : Bytes) (offset : Nat) : Prop :=
  ∀ earlier < offset, Reaches code earlier → ∀ fault, ¬FaultAt pool code earlier fault

/-- Of all offsets that are reached, this is the first where something is wrong. -/
structure IsFirstFault (pool : ConstantPool) (code : Bytes) (offset : Nat) (fault : Fault) :
    Prop where
  reached : Reaches code offset
  wrong : FaultAt pool code offset fault
  first : SoundBefore pool code offset

variable {pool : ConstantPool} {code operands : Bytes} {offset length : Nat} {opcode : UInt8}
  {dispatch : Dispatch} {index : UInt16} {fault : Fault}

/-- A call that fits has room for the index in its operand. -/
theorem exists_operandIndex_eq_ok (calls : dispatch? opcode = some dispatch)
    (measured : instructionLength offset opcode operands = .ok length)
    (fits : length ≤ operands.length + 1) : ∃ index, operandIndex operands = .ok index := by
  have known : opcode = Opcode.invokevirtual ∨ opcode = Opcode.invokespecial ∨
      opcode = Opcode.invokestatic ∨ opcode = Opcode.invokeinterface ∨
      opcode = Opcode.invokedynamic := by
    unfold dispatch? at calls
    grind
  have room : 3 ≤ length := by
    rcases known with rfl | rfl | rfl | rfl | rfl <;> cases measured <;> decide
  match operands with
  | [] =>
      simp only [List.length_nil] at fits
      omega
  | [_] =>
      simp only [List.length_cons, List.length_nil] at fits
      omega
  | high :: low :: _ => exact ⟨_, rfl⟩

theorem namedSite_eq_error_iff (plain : dispatch ≠ .dynamic) :
    namedSite pool offset dispatch index = .error fault ↔
      Refuses pool offset index dispatch fault := by
  simp only [namedSite, Fallible.bind_eq_error_iff, Fallible.mapError_eq_error_iff,
    Fallible.mapError_eq_ok_iff, ClassFile.methodAt_eq_ok_iff, Descriptor.argumentTypes,
    Fallible.map_eq_error_iff]
  constructor
  · rintro (⟨_, dangling, rfl⟩ | ⟨method, found, ⟨_, rejected, rfl⟩ | ⟨owner, shown, rest⟩⟩)
    · exact .method plain dangling
    · exact .owner plain found rejected
    · rcases rest with ⟨_, rejected, rfl⟩ | ⟨_, _, contra⟩
      · exact .descriptor plain found shown rejected
      · cases contra
  · intro refuses
    cases refuses with
    | method _ dangling => exact .inl ⟨_, dangling, rfl⟩
    | owner _ found rejected => exact .inr ⟨_, found, .inl ⟨_, rejected, rfl⟩⟩
    | descriptor _ found shown rejected =>
        exact .inr ⟨_, found, .inr ⟨_, shown, .inl ⟨_, rejected, rfl⟩⟩⟩
    | callSite | dynamicDescriptor => exact absurd rfl plain

theorem dynamicSite_eq_error_iff :
    dynamicSite pool offset index = .error fault ↔
      Refuses pool offset index .dynamic fault := by
  simp only [dynamicSite, Fallible.bind_eq_error_iff, Fallible.mapError_eq_error_iff,
    Fallible.mapError_eq_ok_iff, ClassFile.callSiteAt_eq_ok_iff, Descriptor.returnType,
    Descriptor.argumentTypes, Fallible.map_eq_error_iff, Fallible.map_eq_ok_iff]
  constructor
  · rintro (⟨_, dangling, rfl⟩ | ⟨site, found, ⟨_, rejected, rfl⟩ | ⟨_, ⟨type, typed, _⟩, rest⟩⟩)
    · exact .callSite dangling
    · exact .dynamicDescriptor found rejected
    · -- The descriptor was read for the owner already, so it is not refused afterwards.
      rcases rest with ⟨_, contra, _⟩ | ⟨_, _, contra⟩
      · rw [typed] at contra
        cases contra
      · cases contra
  · intro refuses
    cases refuses with
    | callSite dangling => exact .inl ⟨_, dangling, rfl⟩
    | dynamicDescriptor found rejected => exact .inr ⟨_, found, .inl ⟨_, rejected, rfl⟩⟩
    | method plain | owner plain | descriptor plain => exact absurd rfl plain

theorem siteOf_eq_error_iff :
    siteOf pool offset dispatch index = .error fault ↔
      Refuses pool offset index dispatch fault := by
  by_cases plain : dispatch = .dynamic
  · subst plain
    exact dynamicSite_eq_error_iff
  · rw [siteOf_of_ne_dynamic plain, namedSite_eq_error_iff plain]

/-- A call is refused if and only if what its operand leads to is. -/
theorem operation_eq_error_iff (calls : dispatch? opcode = some dispatch)
    (read : operandIndex operands = .ok index) :
    operation pool offset opcode operands = .error fault ↔
      Refuses pool offset index dispatch fault := by
  rw [operation_of_call calls read, Fallible.functorMap_eq_error_iff, siteOf_eq_error_iff]

theorem exists_drop_of_lengthAt? {measure : Except LengthFault Nat}
    (there : lengthAt? code offset = some measure) :
    ∃ opcode operands, code.drop offset = opcode :: operands ∧
      instructionLength offset opcode operands = measure := by
  rw [lengthAt?] at there
  split at there
  · contradiction
  · next opcode operands split =>
    exact ⟨opcode, operands, split, Option.some.inj there⟩

theorem lt_length_of_lengthAt? {measure : Except LengthFault Nat}
    (there : lengthAt? code offset = some measure) : offset < code.length := by
  obtain ⟨_, _, split, -⟩ := exists_drop_of_lengthAt? there
  exact lt_length_of_drop split

/-- No instruction is empty. -/
theorem length_pos_of_lengthAt? (measured : lengthAt? code offset = some (.ok length)) :
    0 < length := by
  obtain ⟨_, _, -, measured⟩ := exists_drop_of_lengthAt? measured
  exact (instructionLength_bounds measured).1

theorem FaultAt.lt_length (wrong : FaultAt pool code offset fault) : offset < code.length := by
  cases wrong with
  | length there | overrun there | refused there => exact lt_length_of_lengthAt? there

/-- Something is wrong with an instruction if and only if it cannot be taken. -/
theorem faultAt_iff (reached : Reaches code offset)
    (there : code.drop offset = opcode :: operands) :
    FaultAt pool code offset fault ↔
      firstInstruction pool offset opcode operands = .error fault := by
  have size := length_of_drop there
  rw [firstInstruction]
  constructor
  · intro wrong
    cases wrong with
    | length unmeasured =>
        rw [lengthAt?_of_drop there, Option.some.injEq] at unmeasured
        rw [unmeasured]
    | overrun measured past =>
        rw [lengthAt?_of_drop there, Option.some.injEq] at measured
        simp only [measured]
        rw [if_neg (by omega)]
    | refused measured fits calls refuses =>
        obtain ⟨_, _, -, there', calls, read⟩ := calls
        obtain ⟨rfl, rfl⟩ := List.cons.inj (there.symm.trans there')
        rw [lengthAt?_of_drop there, Option.some.injEq] at measured
        simp only [measured]
        rw [if_pos (by omega), Fallible.map_eq_error_iff]
        exact (operation_eq_error_iff calls read).mpr refuses
  · intro failed
    have measured := lengthAt?_of_drop there
    cases measure : instructionLength offset opcode operands with
    | error cause =>
        rw [measure] at failed measured
        cases failed
        exact .length measured
    | ok length =>
        rw [measure] at measured
        simp only [measure] at failed
        by_cases fits : length ≤ operands.length + 1
        · rw [if_pos fits, Fallible.map_eq_error_iff] at failed
          cases calls : dispatch? opcode with
          | none =>
              rw [operation_of_dispatch?_eq_none calls] at failed
              contradiction
          | some dispatch =>
              obtain ⟨index, read⟩ := exists_operandIndex_eq_ok calls measure fits
              refine .refused measured (by omega) ⟨opcode, operands, reached, there, calls, read⟩ ?_
              exact (operation_eq_error_iff calls read).mp failed
        · rw [if_neg fits] at failed
          cases failed
          exact .overrun measured (by omega)

theorem FaultAt.unique {other : Fault} (reached : Reaches code offset)
    (one : FaultAt pool code offset fault) (two : FaultAt pool code offset other) :
    fault = other := by
  have inside := one.lt_length
  have there := List.drop_eq_getElem_cons inside
  have same := ((faultAt_iff reached there).mp one).symm.trans ((faultAt_iff reached there).mp two)
  exact Except.error.inj same

/-! ## The first fault -/

/-- Of two offsets that are reached, the later one does not lie inside the instruction at the
earlier one. -/
theorem Reaches.le_or_exists_le {other : Nat} (reached : Reaches code offset)
    (otherReached : Reaches code other) :
    other ≤ offset ∨
      ∃ length, lengthAt? code offset = some (.ok length) ∧ offset + length ≤ other := by
  induction offset using Nat.strongRecOn generalizing other with
  | ind offset ih =>
      induction otherReached with
      | start => exact .inl (Nat.zero_le offset)
      | @next before size beforeReached measured beforeIH =>
          rcases beforeIH with early | ⟨length, measured', late⟩
          · rcases Nat.eq_or_lt_of_le early with rfl | early
            · exact .inr ⟨size, measured, Nat.le_refl _⟩
            · rcases ih before early beforeReached reached with contra | ⟨size', measured', late⟩
              · omega
              · rw [measured, Option.some.injEq, Except.ok.injEq] at measured'
                subst measured'
                exact .inl late
          · exact .inr ⟨length, measured', by omega⟩

theorem soundBefore_zero : SoundBefore pool code 0 :=
  fun earlier contra => absurd contra (Nat.not_lt_zero earlier)

/-- When nothing is wrong in front of an instruction and with the instruction, then nothing is
wrong in front of the next one. -/
theorem SoundBefore.next (sound : SoundBefore pool code offset) (reached : Reaches code offset)
    (measured : lengthAt? code offset = some (.ok length))
    (taken : ∀ fault, ¬FaultAt pool code offset fault) :
    SoundBefore pool code (offset + length) := by
  intro earlier early earlierReached fault wrong
  rcases reached.le_or_exists_le earlierReached with before | ⟨length', measured', late⟩
  · rcases Nat.eq_or_lt_of_le before with rfl | before
    · exact taken fault wrong
    · exact sound earlier before earlierReached fault wrong
  · rw [measured, Option.some.injEq, Except.ok.injEq] at measured'
    omega

/-- A walk from an offset that was reached with nothing wrong in front of it finds out whether
anything is wrong behind it, and what is wrong first.  The induction is on what is left of the
code. -/
theorem walkFrom_sound {left : Bytes} (reached : Reaches code offset)
    (sound : SoundBefore pool code offset) (left_eq : code.drop offset = left) :
    match walkFrom pool offset left with
    | .ok _ => SoundBefore pool code code.length
    | .error fault => ∃ place, IsFirstFault pool code place fault := by
  induction offset, left using walkFrom.induct with
  | case1 offset =>
      rw [walkFrom]
      intro place inside
      exact sound place (Nat.lt_of_lt_of_le inside (List.drop_eq_nil_iff.mp left_eq))
  | case2 offset opcode operands cause unmeasured =>
      rw [walkFrom, unmeasured]
      have there := (lengthAt?_of_drop left_eq).trans (congrArg some unmeasured)
      exact ⟨offset, reached, .length there, sound⟩
  | case3 offset opcode operands length measured fits ih =>
      rw [walkFrom_cons_eq]
      cases taken : firstInstruction pool offset opcode operands with
      | error fault => exact ⟨offset, reached, (faultAt_iff reached left_eq).mpr taken, sound⟩
      | ok front =>
          obtain ⟨length', result⟩ := front
          obtain ⟨measured', -, -⟩ := firstInstruction_eq_ok_iff.mp taken
          obtain rfl : length = length' := Except.ok.inj (measured.symm.trans measured')
          have there := (lengthAt?_of_drop left_eq).trans (congrArg some measured)
          have clear : ∀ fault, ¬FaultAt pool code offset fault := by
            intro fault wrong
            rw [faultAt_iff reached left_eq, taken] at wrong
            contradiction
          have behind := ih (reached.next there) (sound.next reached there clear)
            (by rw [← List.drop_drop, left_eq])
          simp only [bind, Except.bind]
          cases walked : walkFrom pool (offset + length) ((opcode :: operands).drop length) with
          | error fault | ok later =>
              rw [walked] at behind
              exact behind
  | case4 offset opcode operands length measured overrun =>
      have positive := (instructionLength_bounds measured).1
      have taken : firstInstruction pool offset opcode operands = .error (.overrun offset) := by
        rw [firstInstruction, measured]
        exact if_neg fun fits => overrun ⟨positive, fits⟩
      rw [walkFrom_cons_eq, taken]
      exact ⟨offset, reached, (faultAt_iff reached left_eq).mpr taken, sound⟩

/-- A walk finds out whether anything is wrong, and what is wrong first. -/
theorem walk_sound (pool : ConstantPool) (code : Bytes) :
    match walk pool code with
    | .ok _ => SoundBefore pool code code.length
    | .error fault => ∃ place, IsFirstFault pool code place fault :=
  walkFrom_sound .start soundBefore_zero List.drop_zero

theorem soundBefore_of_walk {instructions : List Instruction}
    (walked : walk pool code = .ok instructions) : SoundBefore pool code code.length := by
  have sound := walk_sound pool code
  rwa [walked] at sound

/-- A walk fails if and only if something is wrong with an instruction on its way, and with what
is wrong first. -/
theorem walk_eq_error_iff :
    walk pool code = .error fault ↔ ∃ offset, IsFirstFault pool code offset fault := by
  have failing : ∀ other, walk pool code = .error other →
      ∃ offset, IsFirstFault pool code offset other := by
    intro other failed
    have sound := walk_sound pool code
    rwa [failed] at sound
  constructor
  · exact failing fault
  · rintro ⟨offset, reached, wrong, sound⟩
    cases walked : walk pool code with
    | ok instructions =>
        exact absurd wrong (soundBefore_of_walk walked offset wrong.lt_length reached fault)
    | error other =>
        obtain ⟨place, placeReached, placeWrong, placeSound⟩ := failing other walked
        rcases Nat.lt_trichotomy offset place with early | rfl | late
        · exact absurd wrong (placeSound offset early reached fault)
        · rw [placeWrong.unique reached wrong]
        · exact absurd placeWrong (sound place late placeReached other)

theorem exists_walk_eq_error_iff :
    (∃ fault, walk pool code = .error fault) ↔
      ∃ offset fault, Reaches code offset ∧ FaultAt pool code offset fault := by
  constructor
  · rintro ⟨fault, failed⟩
    obtain ⟨offset, reached, wrong, -⟩ := walk_eq_error_iff.mp failed
    exact ⟨offset, fault, reached, wrong⟩
  · rintro ⟨offset, fault, reached, wrong⟩
    cases walked : walk pool code with
    | ok instructions =>
        exact absurd wrong (soundBefore_of_walk walked offset wrong.lt_length reached fault)
    | error other => exact ⟨other, rfl⟩

/-- The operand of a call is never cut off, since the call would not fit then. -/
theorem walk_ne_operandPastEnd : walk pool code ≠ .error .operandPastEnd := by
  intro failed
  obtain ⟨_, _, wrong, -⟩ := walk_eq_error_iff.mp failed
  cases wrong with
  | refused _ _ _ refuses => cases refuses

end Bytecode

end CallGraph
