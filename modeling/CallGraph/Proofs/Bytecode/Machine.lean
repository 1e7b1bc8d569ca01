import CallGraph.Proofs.Bytecode.Walk

/-!
# Walking with machine words

A machine walks code by indices into it and counts in words of 64 bits.  It traps where an index
lies outside the code or a number does not fit into a word.  The walk is written here once more, as
a machine takes it, with every index and every number on the way.  For code that is short enough
for offsets of 32 bits the machine never traps, and it finds what the walk finds.
-/

namespace CallGraph

namespace Bytecode

open ClassFile (ConstantPool)

namespace Machine

/-- Why a machine stops before it has a result. -/
inductive Stop (ε : Type) where
  /-- An index lies outside the code, or a number does not fit into a word. -/
  | trap
  /-- There is a fault to report. -/
  | fault (cause : ε)

/-- What a machine arrives at. -/
abbrev Run (ε α : Type) : Type :=
  Except (Stop ε) α

variable {ε : Type}

/-- A number in a word of 64 bits. -/
def word (number : Nat) : Run ε Nat :=
  if number < 0x10000000000000000 then .ok number else .error .trap

def add (left right : Nat) : Run ε Nat :=
  word (left + right)

def mul (left right : Nat) : Run ε Nat :=
  word (left * right)

def sub (left right : Nat) : Run ε Nat :=
  if right ≤ left then .ok (left - right) else .error .trap

/-- A number in a signed word of 32 bits, if it fits. -/
def int32? (number : Int) : Option Int :=
  if -0x80000000 ≤ number ∧ number < 0x80000000 then some number else none

/-- The byte at an index that has to lie inside the code. -/
def byteAt (code : Bytes) (index : Nat) : Run ε UInt8 :=
  match code[index]? with
  | some byte => .ok byte
  | none => .error .trap

/-- The bytes of a range, if the range lies inside the code. -/
def block? (code : Bytes) (start size : Nat) : Run ε (Option Bytes) := do
  let _ ← add start size
  return Bytes.slice? start size code

/-- The signed word of four bytes at an index. -/
def readWord (code : Bytes) (start : Nat) : Run LengthFault Int := do
  match ← block? code start 4 with
  | some block => .ok (Bytes.toIntBE block)
  | none => .error (.fault .headerPastEnd)

/-- The pool index in two bytes at an index. -/
def readIndex (code : Bytes) (start : Nat) : Run Fault UInt16 := do
  match ← block? code start 2 with
  | some block => .ok (UInt16.ofNat (Bytes.toNatBE block))
  | none => .error (.fault .operandPastEnd)

/-- The number of bytes between the opcode of a switch and the next multiple of four. -/
def padding (offset : Nat) : Run ε Nat := do
  let back ← sub 4 ((← add offset 1) % 4)
  return back % 4

/-- The length of a `tableswitch`.  The number of its cases is counted in signed words of 32
bits. -/
def tableswitchLength (code : Bytes) (offset : Nat) : Run LengthFault Nat := do
  let padding ← padding offset
  let base ← add (← add offset 1) padding
  let low ← readWord code (← add base 4)
  let high ← readWord code (← add base 8)
  match (int32? (high - low)).bind fun span => int32? (span + 1) with
  | none => .error (.fault .tableRange)
  | some count =>
    if count < 0 then .error (.fault .tableRange)
    else do add (← add (← add 1 padding) 12) (← mul count.toNat 4)

/-- The length of a `lookupswitch`. -/
def lookupswitchLength (code : Bytes) (offset : Nat) : Run LengthFault Nat := do
  let padding ← padding offset
  let base ← add (← add offset 1) padding
  let pairs ← readWord code (← add base 4)
  if pairs < 0 then .error (.fault .pairCount)
  else do add (← add (← add 1 padding) 8) (← mul pairs.toNat 8)

/-- The length of a widened instruction. -/
def wideLength (code : Bytes) (offset : Nat) : Run LengthFault Nat := do
  match code[← add offset 1]? with
  | none => .error (.fault .nothingToWiden)
  | some opcode => .ok (if opcode = Opcode.iinc then 6 else 4)

/-- The length of the instruction at an offset. -/
def lengthAt (code : Bytes) (offset : Nat) : Run LengthFault Nat := do
  let opcode ← byteAt code offset
  if opcode = Opcode.tableswitch then tableswitchLength code offset
  else if opcode = Opcode.lookupswitch then lookupswitchLength code offset
  else if opcode = Opcode.wide then wideLength code offset
  else
    match fixedLength? opcode with
    | some length => .ok length
    | none => .error (.fault (.unsupported opcode))

/-- What the instruction at an offset does. -/
def operationAt (pool : ConstantPool) (code : Bytes) (offset : Nat) : Run Fault Operation := do
  match dispatch? (← byteAt code offset) with
  | none => .ok .other
  | some .dynamic => do
      let index ← readIndex code (← add offset 1)
      return .invoke (← (dynamicSite pool offset index).mapError .fault)
  | some dispatch => do
      let index ← readIndex code (← add offset 1)
      return .invoke (← (namedSite pool offset dispatch index).mapError .fault)

/-- A fault of a length is a fault of the walk. -/
def Stop.ofLength : Stop LengthFault → Stop Fault
  | .trap => .trap
  | .fault cause => .fault (.length cause)

/-- The instructions of the code from an offset on. -/
def walkFrom (pool : ConstantPool) (code : Bytes) (offset : Nat) :
    Run Fault (List Instruction) :=
  if offset < code.length then do
    let length ← (lengthAt code offset).mapError Stop.ofLength
    let _ ← add offset length
    if _fits : 0 < length ∧ offset + length ≤ code.length then do
      let operation ← operationAt pool code offset
      let later ← walkFrom pool code (offset + length)
      return ⟨keptOffset offset, operation⟩ :: later
    else .error (.fault (.overrun offset))
  else .ok []
termination_by code.length - offset
decreasing_by omega

/-- The instructions of a method's code. -/
def walk (pool : ConstantPool) (code : Bytes) : Run Fault (List Instruction) :=
  walkFrom pool code 0

/-! ## No traps -/

theorem add_of_lt {left right : Nat} (small : left + right < 0x10000000000000000) :
    add left right = (.ok (left + right) : Run ε Nat) :=
  if_pos small

theorem mul_of_lt {left right : Nat} (small : left * right < 0x10000000000000000) :
    mul left right = (.ok (left * right) : Run ε Nat) :=
  if_pos small

theorem padding_of_lt {offset : Nat} (small : offset + 1 < 0x10000000000000000) :
    padding offset = (.ok (Bytecode.padding offset) : Run ε Nat) := by
  have back : (offset + 1) % 4 ≤ 4 := by omega
  rw [padding, add_of_lt small]
  simp only [bind, Except.bind, sub, if_pos back]
  rfl

/-- A range of the code is a range of what stands behind a place in it. -/
theorem slice?_add (start index size : Nat) (code : Bytes) :
    Bytes.slice? (start + index) size code = Bytes.slice? index size (code.drop start) := by
  rw [Bytes.slice?, Bytes.slice?, List.drop_drop]

theorem readWord_of_lt {code : Bytes} {start index : Nat}
    (small : start + index + 4 < 0x10000000000000000) :
    readWord code (start + index) =
      match word? (code.drop start) index with
      | some number => .ok number
      | none => .error (.fault .headerPastEnd) := by
  rw [readWord, block?, add_of_lt small, slice?_add, word?]
  cases Bytes.slice? index 4 (code.drop start) <;> rfl

/-- A word behind an opcode and a gap is a word of the operands. -/
theorem readWord_behind {code operands : Bytes} {offset gap index : Nat}
    (behind : code.drop (offset + 1) = operands)
    (small : offset + 1 + (gap + index) + 4 < 0x10000000000000000) :
    readWord code (offset + 1 + gap + index) =
      match word? operands (gap + index) with
      | some number => .ok number
      | none => .error (.fault .headerPastEnd) := by
  rw [Nat.add_assoc (offset + 1), readWord_of_lt small, behind]

/-- Counting the cases of a table in signed words either gives their exact number or notices that
it does not fit. -/
theorem bind_int32? (low high : Int) :
    ((int32? (high - low)).bind fun span => int32? (span + 1)) =
      if -0x80000000 ≤ high - low ∧ high - low + 1 < 0x80000000 then some (high - low + 1)
      else none := by
  unfold int32?
  by_cases span : -0x80000000 ≤ high - low ∧ high - low < 0x80000000
  · have sum : (-0x80000000 ≤ high - low + 1 ∧ high - low + 1 < 0x80000000) ↔
        (-0x80000000 ≤ high - low ∧ high - low + 1 < 0x80000000) := by omega
    rw [if_pos span, Option.bind_some]
    simp only [sum]
  · rw [if_neg span, if_neg (by omega), Option.bind_none]

variable {pool : ConstantPool} {code operands : Bytes} {offset : Nat} {opcode : UInt8}

theorem byteAt_of_drop (there : code.drop offset = opcode :: operands) :
    byteAt code offset = (.ok opcode : Run ε UInt8) := by
  have found : code[offset]? = some opcode := by
    rw [← List.head?_drop, there, List.head?_cons]
  rw [byteAt, found]

theorem tableswitchLength_of_drop (there : code.drop offset = opcode :: operands)
    (short : code.length < 0x8000000000000000) :
    tableswitchLength code offset =
      (Bytecode.tableswitchLength offset operands).mapError .fault := by
  have inside := lt_length_of_drop there
  have behind := drop_succ_of_drop there
  have narrow : Bytecode.padding offset < 4 := Nat.mod_lt _ (by decide)
  simp (disch := omega) only [tableswitchLength, Bytecode.tableswitchLength, padding_of_lt,
    add_of_lt, bind, Except.bind, readWord_behind behind, bind_int32?]
  cases word? operands (Bytecode.padding offset + 4) with
  | none => rfl
  | some low =>
      cases word? operands (Bytecode.padding offset + 8) with
      | none => rfl
      | some high =>
          by_cases counted : 0 ≤ high - low + 1 ∧ high - low + 1 < 0x80000000
          · have spans : -0x80000000 ≤ high - low ∧ high - low + 1 < 0x80000000 := by omega
            have size : 1 + Bytecode.padding offset + 12 + (high - low + 1).toNat * 4 =
                13 + Bytecode.padding offset + 4 * (high - low + 1).toNat := by omega
            simp (disch := omega) only [if_pos spans, if_pos counted,
              if_neg (Int.not_lt.mpr counted.1), mul_of_lt, add_of_lt, size]
            rfl
          · by_cases spans : -0x80000000 ≤ high - low ∧ high - low + 1 < 0x80000000
            · have negative : high - low + 1 < 0 := by omega
              simp only [if_pos spans, if_neg counted, if_pos negative]
              rfl
            · simp only [if_neg spans, if_neg counted]
              rfl

theorem lookupswitchLength_of_drop (there : code.drop offset = opcode :: operands)
    (short : code.length < 0x8000000000000000) :
    lookupswitchLength code offset =
      (Bytecode.lookupswitchLength offset operands).mapError .fault := by
  have inside := lt_length_of_drop there
  have behind := drop_succ_of_drop there
  have narrow : Bytecode.padding offset < 4 := Nat.mod_lt _ (by decide)
  simp (disch := omega) only [lookupswitchLength, Bytecode.lookupswitchLength, padding_of_lt,
    add_of_lt, bind, Except.bind, readWord_behind behind]
  cases found : word? operands (Bytecode.padding offset + 4) with
  | none => rfl
  | some pairs =>
      by_cases counted : 0 ≤ pairs
      · have size : 1 + Bytecode.padding offset + 8 + pairs.toNat * 8 =
            9 + Bytecode.padding offset + 8 * pairs.toNat := by omega
        have few : pairs < 0x80000000 := word?_lt found
        simp (disch := omega) only [if_pos counted, if_neg (Int.not_lt.mpr counted), mul_of_lt,
          add_of_lt, size]
        rfl
      · simp only [if_neg counted, if_pos (Int.not_le.mp counted)]
        rfl

theorem wideLength_of_drop (there : code.drop offset = opcode :: operands)
    (short : code.length < 0x8000000000000000) :
    wideLength code offset = (Bytecode.wideLength operands).mapError .fault := by
  have inside := lt_length_of_drop there
  have widened : code[offset + 1]? = operands.head? := by
    rw [← List.head?_drop, drop_succ_of_drop there]
  rw [wideLength, add_of_lt (by omega)]
  simp only [bind, Except.bind, widened]
  cases operands <;> rfl

/-- The machine measures an instruction as it is measured by its opcode and operands. -/
theorem lengthAt_of_drop (there : code.drop offset = opcode :: operands)
    (short : code.length < 0x8000000000000000) :
    lengthAt code offset = (instructionLength offset opcode operands).mapError .fault := by
  rw [lengthAt, byteAt_of_drop there, instructionLength]
  simp only [bind, Except.bind, tableswitchLength_of_drop there short,
    lookupswitchLength_of_drop there short, wideLength_of_drop there short]
  split
  · rfl
  · split
    · rfl
    · split
      · rfl
      · cases fixedLength? opcode <;> rfl

theorem readIndex_of_drop (there : code.drop offset = opcode :: operands)
    (short : code.length < 0x8000000000000000) :
    readIndex code (offset + 1) = (operandIndex operands).mapError .fault := by
  have inside := lt_length_of_drop there
  have block : Bytes.slice? (offset + 1) 2 code = Bytes.slice? 0 2 operands := by
    rw [← drop_succ_of_drop there, ← slice?_add, Nat.add_zero]
  rw [readIndex, block?, add_of_lt (by omega), block]
  match operands with
  | [] => rfl
  | [_] => rfl
  | _ :: _ :: _ => rfl

/-- The machine does with an instruction what its opcode and operands say. -/
theorem operationAt_of_drop (there : code.drop offset = opcode :: operands)
    (short : code.length < 0x8000000000000000) :
    operationAt pool code offset = (operation pool offset opcode operands).mapError .fault := by
  have inside := lt_length_of_drop there
  have small : offset + 1 < 0x10000000000000000 := by omega
  rw [operationAt, byteAt_of_drop there, operation]
  simp only [bind, Except.bind, add_of_lt small, readIndex_of_drop there short]
  cases dispatch? opcode with
  | none => rfl
  | some dispatch =>
      cases operandIndex operands with
      | error fault => cases dispatch <;> rfl
      | ok index =>
          cases dispatch with
          | dynamic =>
              simp only [Fallible.mapError_ok]
              cases dynamicSite pool offset index <;> rfl
          | _ =>
              simp only [Fallible.mapError_ok]
              cases namedSite pool offset _ index <;> rfl

/-- The machine walks short code without a trap.  The induction is on what is left of the code. -/
theorem walkFrom_of_drop {left : Bytes} (left_eq : code.drop offset = left)
    (short : code.length < 0x8000000000000000) :
    walkFrom pool code offset = (Bytecode.walkFrom pool offset left).mapError .fault := by
  induction offset, left using Bytecode.walkFrom.induct with
  | case1 offset =>
      have past : ¬offset < code.length := Nat.not_lt_of_le (List.drop_eq_nil_iff.mp left_eq)
      rw [walkFrom, if_neg past, Bytecode.walkFrom]
      rfl
  | case2 offset opcode operands fault unmeasured =>
      rw [walkFrom, if_pos (lt_length_of_drop left_eq), lengthAt_of_drop left_eq short, unmeasured,
        Bytecode.walkFrom, unmeasured]
      rfl
  | case3 offset opcode operands length measured fits ih =>
      have inside := lt_length_of_drop left_eq
      have size := length_of_drop left_eq
      have bounds := instructionLength_bounds measured
      have fitsToo : 0 < length ∧ offset + length ≤ code.length := by omega
      have behind : code.drop (offset + length) = (opcode :: operands).drop length := by
        rw [← List.drop_drop, left_eq]
      rw [walkFrom, if_pos inside, lengthAt_of_drop left_eq short, measured, Bytecode.walkFrom,
        measured]
      simp only [Fallible.mapError_ok, bind, Except.bind, dif_pos fits, dif_pos fitsToo,
        operationAt_of_drop left_eq short, ih behind]
      rw [add_of_lt (by omega)]
      cases operation pool offset opcode operands with
      | error fault => rfl
      | ok result =>
          cases Bytecode.walkFrom pool (offset + length) ((opcode :: operands).drop length) <;> rfl
  | case4 offset opcode operands length measured overrun =>
      have inside := lt_length_of_drop left_eq
      have size := length_of_drop left_eq
      have bounds := instructionLength_bounds measured
      have overrunToo : ¬(0 < length ∧ offset + length ≤ code.length) := by omega
      rw [walkFrom, if_pos inside, lengthAt_of_drop left_eq short, measured, Bytecode.walkFrom,
        measured]
      simp only [Fallible.mapError_ok, bind, Except.bind, dif_neg overrun, dif_neg overrunToo]
      rw [add_of_lt (by omega)]
      rfl

/-- The machine never traps in short code, and finds what the walk finds. -/
theorem walk_eq (short : code.length < 0x100000000) :
    walk pool code = (Bytecode.walk pool code).mapError .fault :=
  walkFrom_of_drop List.drop_zero (Nat.lt_trans short (by decide))

end Machine

end Bytecode

end CallGraph
