import CallGraph.Proofs.Bytecode.Site
import Mathlib.Data.List.Forall2

/-!
# Laying out instructions

Code is a list of instructions, laid out one behind the other.  What stands behind an opcode
follows from its format, except for the switches, whose tables are aligned to a multiple of four and
have as many entries as they have, and for `wide`.  The formats are listed here by the fields that
stand behind an opcode; the lengths by which code is walked are not used.

The main result is that walking undoes laying out: the walk of laid-out code finds one instruction
for each that was laid out, at the offset where it was laid out, and what it calls.
-/

namespace CallGraph

namespace Bytecode

open ClassFile (ConstantPool)

/-- A field behind an opcode. -/
inductive Field where
  /-- A number of one byte: a constant, or the amount by which a variable is increased. -/
  | byte
  /-- A constant of two bytes. -/
  | short
  /-- The number of a local variable. -/
  | variable
  /-- An index into the constant pool, in one byte. -/
  | nearConstant
  /-- An index into the constant pool. -/
  | constant
  /-- The distance of a jump. -/
  | branch
  /-- The distance of a jump, in four bytes. -/
  | farBranch
  /-- The kind of the elements of an array. -/
  | elementKind
  /-- A number of arguments or of dimensions. -/
  | count
  /-- A byte that says nothing. -/
  | reserved
  deriving DecidableEq, Repr

/-- The number of bytes of a field. -/
def Field.width : Field → Nat
  | short | constant | branch => 2
  | farBranch => 4
  | _ => 1

/-- Consecutive opcodes with the same fields. -/
structure Family where
  first : UInt8
  last : UInt8
  fields : List Field
  deriving DecidableEq, Repr

/-- The families of instructions with fixed fields, which leave out the switches and `wide`. -/
def families : List Family :=
  [⟨0x00, 0x0f, []⟩,                            -- small constants
   ⟨0x10, 0x10, [.byte]⟩,                       -- bipush
   ⟨0x11, 0x11, [.short]⟩,                      -- sipush
   ⟨0x12, 0x12, [.nearConstant]⟩,               -- ldc
   ⟨0x13, 0x14, [.constant]⟩,                   -- ldc_w, ldc2_w
   ⟨0x15, 0x19, [.variable]⟩,                   -- loads of any variable
   ⟨0x1a, 0x35, []⟩,                            -- loads of the first variables and of elements
   ⟨0x36, 0x3a, [.variable]⟩,                   -- stores of any variable
   ⟨0x3b, 0x56, []⟩,                            -- stores of the first variables and of elements
   ⟨0x57, 0x5f, []⟩,                            -- the operand stack
   ⟨0x60, 0x83, []⟩,                            -- arithmetic
   ⟨0x84, 0x84, [.variable, .byte]⟩,            -- iinc
   ⟨0x85, 0x98, []⟩,                            -- conversions and comparisons
   ⟨0x99, 0xa8, [.branch]⟩,                     -- conditional jumps, goto, jsr
   ⟨0xa9, 0xa9, [.variable]⟩,                   -- ret
   ⟨0xac, 0xb1, []⟩,                            -- returns
   ⟨0xb2, 0xb5, [.constant]⟩,                   -- fields of classes and objects
   ⟨0xb6, 0xb8, [.constant]⟩,                   -- invokevirtual, invokespecial, invokestatic
   ⟨0xb9, 0xb9, [.constant, .count, .reserved]⟩,    -- invokeinterface
   ⟨0xba, 0xba, [.constant, .reserved, .reserved]⟩, -- invokedynamic
   ⟨0xbb, 0xbb, [.constant]⟩,                   -- new
   ⟨0xbc, 0xbc, [.elementKind]⟩,                -- newarray
   ⟨0xbd, 0xbd, [.constant]⟩,                   -- anewarray
   ⟨0xbe, 0xbf, []⟩,                            -- arraylength, athrow
   ⟨0xc0, 0xc1, [.constant]⟩,                   -- checkcast, instanceof
   ⟨0xc2, 0xc3, []⟩,                            -- monitorenter, monitorexit
   ⟨0xc5, 0xc5, [.constant, .count]⟩,           -- multianewarray
   ⟨0xc6, 0xc7, [.branch]⟩,                     -- ifnull, ifnonnull
   ⟨0xc8, 0xc9, [.farBranch]⟩]                  -- goto_w, jsr_w

/-- The number of bytes behind an opcode with fixed fields. -/
def operandWidth? (opcode : UInt8) : Option Nat :=
  (families.find? fun family => family.first ≤ opcode && opcode ≤ family.last).map fun family =>
    family.fields.foldr (fun field width => field.width + width) 0

/-- The opcode of a call. -/
def callOpcode : Dispatch → UInt8
  | .virtual => Opcode.invokevirtual
  | .special => Opcode.invokespecial
  | .static => Opcode.invokestatic
  | .interface => Opcode.invokeinterface
  | .dynamic => Opcode.invokedynamic

/-- An instruction that is not at an offset yet.  A switch carries three bytes to fill the gap in
front of its table with, of which as many are used as the gap is wide. -/
inductive Shape where
  /-- An instruction with fixed fields that calls nothing. -/
  | plain (opcode : UInt8) (operands : Bytes)
      (sized : operandWidth? opcode = some operands.length)
      (quiet : opcode < Opcode.invokevirtual ∨ Opcode.invokedynamic < opcode)
  /-- A call of what an index names. -/
  | call (dispatch : Dispatch) (index : UInt16) (extra : Bytes)
      (sized : operandWidth? (callOpcode dispatch) = some (2 + extra.length))
  /-- A switch with a target for each number from `low` to `high`. -/
  | tableswitch (fill : Vector UInt8 3) (fallback low high : Int32) (targets : List Int32)
      (ordered : low ≤ high) (sized : (targets.length : Int) = high.toInt - low.toInt + 1)
  /-- A switch with a target for each of some numbers. -/
  | lookupswitch (fill : Vector UInt8 3) (fallback : Int32) (pairs : List (Int32 × Int32))
  /-- An instruction on a local variable, with wider fields. -/
  | wide (opcode : UInt8) (operands : Bytes)
      (sized : operands.length = if opcode = Opcode.iinc then 4 else 2)

namespace Shape

/-- The opcode of an instruction. -/
def opcode : Shape → UInt8
  | plain opcode _ _ _ => opcode
  | call dispatch _ _ _ => callOpcode dispatch
  | tableswitch _ _ _ _ _ _ _ => Opcode.tableswitch
  | lookupswitch _ _ _ => Opcode.lookupswitch
  | wide _ _ _ => Opcode.wide

/-- The number of bytes between the opcode of a switch at an offset and its table. -/
def gap (offset : Nat) : Nat :=
  3 - offset % 4

/-- What stands behind the opcode of an instruction at an offset. -/
def operands (offset : Nat) : Shape → Bytes
  | plain _ operands _ _ => operands
  | call _ index extra _ => Bytes.ofNatBE 2 index.toNat ++ extra
  | tableswitch fill fallback low high targets _ _ =>
      fill.toList.take (gap offset) ++ Bytes.ofInt32 fallback ++ Bytes.ofInt32 low ++
        Bytes.ofInt32 high ++ targets.flatMap Bytes.ofInt32
  | lookupswitch fill fallback pairs =>
      fill.toList.take (gap offset) ++ Bytes.ofInt32 fallback ++ Bytes.ofNatBE 4 pairs.length ++
        pairs.flatMap fun pair => Bytes.ofInt32 pair.1 ++ Bytes.ofInt32 pair.2
  | wide opcode operands _ => opcode :: operands

/-- An instruction at an offset, as it stands in code. -/
def encode (offset : Nat) (shape : Shape) : Bytes :=
  shape.opcode :: shape.operands offset

/-- An instruction does what it was laid out for: a call invokes the site that its index names, and
no other instruction calls. -/
def Does (pool : ConstantPool) : Shape → Operation → Prop
  | call dispatch index _ _, operation =>
      ∃ site, IsSite pool index dispatch site ∧ Operation.invoke site = operation
  | _, operation => operation = .other

end Shape

/-- Instructions one behind the other, the first of them at an offset. -/
def layoutFrom (offset : Nat) : List Shape → Bytes
  | [] => []
  | shape :: shapes =>
      shape.encode offset ++ layoutFrom (offset + (shape.encode offset).length) shapes

/-- The offsets at which instructions are laid out, the first of them at the given one. -/
def offsetsFrom (offset : Nat) : List Shape → List Nat
  | [] => []
  | shape :: shapes => offset :: offsetsFrom (offset + (shape.encode offset).length) shapes

/-! ## Lengths -/

/-- The gap in front of a table ends at the next multiple of four. -/
theorem padding_eq_gap (offset : Nat) : padding offset = Shape.gap offset := by
  unfold padding Shape.gap
  omega

private theorem fixedLength?_table :
    ∀ code < 256, ∀ width ∈ operandWidth? (UInt8.ofNat code),
      fixedLength? (UInt8.ofNat code) = some (width + 1) ∧
        UInt8.ofNat code ∉ [Opcode.tableswitch, Opcode.lookupswitch, Opcode.wide] := by
  decide +kernel

/-- The length of an instruction with fixed fields is that of its fields and its opcode. -/
theorem instructionLength_of_operandWidth? {opcode : UInt8} {width : Nat}
    (sized : operandWidth? opcode = some width) (offset : Nat) (operands : Bytes) :
    instructionLength offset opcode operands = .ok (width + 1) := by
  have entry := fixedLength?_table opcode.toNat opcode.toNat_lt
  rw [UInt8.ofNat_toNat] at entry
  obtain ⟨length_eq, special⟩ := entry width sized
  simp only [List.mem_cons, List.not_mem_nil, or_false, not_or] at special
  rcases special with ⟨noTable, noPairs, noWide⟩
  simp [instructionLength, noTable, noPairs, noWide, length_eq]

/-- A signed word is read back from behind what stands in front of it. -/
theorem word?_append (front : Bytes) (value : Int32) (back : Bytes) {index : Nat}
    (index_eq : front.length = index) :
    word? (front ++ Bytes.ofInt32 value ++ back) index = some value.toInt := by
  rw [word?, Bytes.slice?_append _ _ back index_eq (Bytes.length_ofInt32 value)]
  simp

namespace Shape

theorem length_take_gap (fill : Vector UInt8 3) (offset : Nat) :
    (fill.toList.take (gap offset)).length = gap offset := by
  simp [gap]

theorem length_flatMap_ofInt32 (targets : List Int32) :
    (targets.flatMap Bytes.ofInt32).length = 4 * targets.length := by
  induction targets with
  | nil => rfl
  | cons target targets ih => simp [ih]; omega

theorem length_flatMap_pairs (pairs : List (Int32 × Int32)) :
    (pairs.flatMap fun pair => Bytes.ofInt32 pair.1 ++ Bytes.ofInt32 pair.2).length =
      8 * pairs.length := by
  induction pairs with
  | nil => rfl
  | cons pair pairs ih => simp [ih]; omega

/-- The bounds of a laid-out table are read back, so that its length is known. -/
theorem tableswitchLength_eq (fill : Vector UInt8 3) (fallback low high : Int32)
    (targets : List Int32) (sized : (targets.length : Int) = high.toInt - low.toInt + 1)
    (short : targets.length < 0x80000000) (offset : Nat) (rest : Bytes) :
    tableswitchLength offset
        (fill.toList.take (gap offset) ++ Bytes.ofInt32 fallback ++ Bytes.ofInt32 low ++
          Bytes.ofInt32 high ++ targets.flatMap Bytes.ofInt32 ++ rest) =
      .ok (13 + gap offset + 4 * targets.length) := by
  have lowPlace : (fill.toList.take (gap offset) ++ Bytes.ofInt32 fallback).length =
      gap offset + 4 := by simp [gap]
  have highPlace : (fill.toList.take (gap offset) ++ Bytes.ofInt32 fallback ++
      Bytes.ofInt32 low).length = gap offset + 8 := by simp [gap]
  have lowRead := word?_append _ low
    (Bytes.ofInt32 high ++ targets.flatMap Bytes.ofInt32 ++ rest) lowPlace
  have highRead := word?_append _ high (targets.flatMap Bytes.ofInt32 ++ rest) highPlace
  simp only [List.append_assoc] at lowRead highRead ⊢
  simp only [tableswitchLength, padding_eq_gap, lowRead, highRead, ← sized]
  have counted : (0 : Int) ≤ targets.length ∧ (targets.length : Int) < 0x80000000 := by omega
  rw [if_pos counted, Int.toNat_natCast]

/-- The number of pairs of a laid-out table is read back, so that its length is known. -/
theorem lookupswitchLength_eq (fill : Vector UInt8 3) (fallback : Int32)
    (pairs : List (Int32 × Int32)) (short : pairs.length < 0x80000000) (offset : Nat)
    (rest : Bytes) :
    lookupswitchLength offset
        (fill.toList.take (gap offset) ++ Bytes.ofInt32 fallback ++
          Bytes.ofNatBE 4 pairs.length ++ rest) =
      .ok (9 + gap offset + 8 * pairs.length) := by
  have countRead : word? (fill.toList.take (gap offset) ++ Bytes.ofInt32 fallback ++
      Bytes.ofNatBE 4 pairs.length ++ rest) (gap offset + 4) = some (pairs.length : Int) := by
    rw [word?, Bytes.slice?_append _ _ rest (by simp [gap]) (Bytes.length_ofNatBE 4 _),
      Option.map_some, Bytes.toIntBE_ofNatBE_of_lt short]
  rw [lookupswitchLength, padding_eq_gap, countRead]
  simp

/-- The length of an instruction is read off what was laid out, whatever stands behind it. -/
theorem instructionLength_eq (shape : Shape) (offset : Nat) (rest : Bytes)
    (short : (shape.encode offset).length < 0x100000000) :
    instructionLength offset shape.opcode (shape.operands offset ++ rest) =
      .ok (shape.encode offset).length := by
  cases shape with
  | plain opcode operands sized quiet => exact instructionLength_of_operandWidth? sized ..
  | call dispatch index extra sized =>
      rw [opcode, instructionLength_of_operandWidth? sized]
      simp [encode, operands]
  | tableswitch fill fallback low high targets ordered sized =>
      simp only [encode, operands, List.length_cons, List.length_append, length_take_gap,
        Bytes.length_ofInt32, length_flatMap_ofInt32] at short ⊢
      have table := tableswitchLength_eq fill fallback low high targets sized (by omega) offset rest
      change tableswitchLength offset _ = _
      rw [table]
      congr 1
      omega
  | lookupswitch fill fallback pairs =>
      simp only [encode, operands, List.length_cons, List.length_append, length_take_gap,
        Bytes.length_ofInt32, Bytes.length_ofNatBE, length_flatMap_pairs] at short ⊢
      have table := lookupswitchLength_eq fill fallback pairs (by omega) offset
        ((pairs.flatMap fun pair => Bytes.ofInt32 pair.1 ++ Bytes.ofInt32 pair.2) ++ rest)
      change lookupswitchLength offset _ = _
      rw [List.append_assoc, table]
      congr 1
      omega
  | wide opcode operands sized =>
      have widened : instructionLength offset Opcode.wide (opcode :: operands ++ rest) =
          wideLength (opcode :: operands ++ rest) := rfl
      change instructionLength offset Opcode.wide (opcode :: operands ++ rest) = _
      rw [widened]
      by_cases increases : opcode = Opcode.iinc <;>
        simp [wideLength, encode, Shape.operands, increases, sized]

theorem dispatch?_eq_none {opcode : UInt8}
    (quiet : opcode < Opcode.invokevirtual ∨ Opcode.invokedynamic < opcode) :
    dispatch? opcode = none := by
  have apart (call : UInt8) (first : Opcode.invokevirtual ≤ call)
      (last : call ≤ Opcode.invokedynamic) : opcode ≠ call := by
    rintro rfl
    rcases quiet with below | above
    · exact absurd below (UInt8.not_lt.mpr first)
    · exact absurd above (UInt8.not_lt.mpr last)
  rw [dispatch?, if_neg (apart _ (by decide) (by decide)), if_neg (apart _ (by decide) (by decide)),
    if_neg (apart _ (by decide) (by decide)), if_neg (apart _ (by decide) (by decide)),
    if_neg (apart _ (by decide) (by decide))]

theorem operandIndex_append (index : UInt16) (rest : Bytes) :
    operandIndex (Bytes.ofNatBE 2 index.toNat ++ rest) = .ok index := by
  have fits : index.toNat < Nat.pow 256 2 := index.toNat_lt
  have read := Bytes.toNatBE_ofNatBE_of_lt fits
  simp only [Bytes.ofNatBE, List.nil_append, List.cons_append, operandIndex] at read ⊢
  rw [read, UInt16.ofNat_toNat]

/-- An instruction that does something when it is resolved is resolved to that, whatever stands
behind it. -/
theorem operation_eq {pool : ConstantPool} {shape : Shape} {result : Operation}
    (does : shape.Does pool result) (offset : Nat) (rest : Bytes) :
    operation pool offset shape.opcode (shape.operands offset ++ rest) = .ok result := by
  cases shape with
  | call dispatch index extra sized =>
      have calls : dispatch? (callOpcode dispatch) = some dispatch := by cases dispatch <;> rfl
      have read : operandIndex (Bytes.ofNatBE 2 index.toNat ++ extra ++ rest) = .ok index :=
        operandIndex_append index (extra ++ rest)
      exact (operation_eq_ok_iff calls read).mpr does
  | plain opcode operands sized quiet =>
      obtain rfl : result = .other := does
      exact operation_of_dispatch?_eq_none (dispatch?_eq_none quiet)
  | _ =>
      obtain rfl : result = .other := does
      exact operation_of_dispatch?_eq_none rfl

end Shape

private theorem opcode_table :
    ∀ code < 0xca,
      (∃ dispatch ∈ [Dispatch.virtual, .interface, .special, .static, .dynamic],
        callOpcode dispatch = UInt8.ofNat code) ∨
      ((operandWidth? (UInt8.ofNat code)).isSome ∧
        (UInt8.ofNat code < Opcode.invokevirtual ∨ Opcode.invokedynamic < UInt8.ofNat code)) ∨
      UInt8.ofNat code ∈ [Opcode.tableswitch, Opcode.lookupswitch, Opcode.wide] := by
  decide +kernel

/-- Every opcode up to the last one, `jsr_w`, is that of an instruction that can be laid out. -/
theorem exists_opcode_eq {code : UInt8} (known : code ≤ 0xc9) :
    ∃ shape : Shape, shape.opcode = code := by
  have entry := opcode_table code.toNat (Nat.lt_succ_of_le known)
  rw [UInt8.ofNat_toNat] at entry
  rcases entry with ⟨dispatch, _, rfl⟩ | ⟨hasWidth, quiet⟩ | special
  · cases dispatch with
    | virtual => exact ⟨.call .virtual 0 [] rfl, rfl⟩
    | special => exact ⟨.call .special 0 [] rfl, rfl⟩
    | static => exact ⟨.call .static 0 [] rfl, rfl⟩
    | interface => exact ⟨.call .interface 0 [0, 0] rfl, rfl⟩
    | dynamic => exact ⟨.call .dynamic 0 [0, 0] rfl, rfl⟩
  · obtain ⟨width, sized⟩ := Option.isSome_iff_exists.mp hasWidth
    exact ⟨.plain code (List.replicate width 0) (by simpa using sized) quiet, rfl⟩
  · simp only [List.mem_cons, List.not_mem_nil, or_false] at special
    rcases special with rfl | rfl | rfl
    · exact ⟨.tableswitch (Vector.replicate 3 0) 0 0 0 [0] (by decide) (by decide), rfl⟩
    · exact ⟨.lookupswitch (Vector.replicate 3 0) 0 [], rfl⟩
    · exact ⟨.wide 0 [0, 0] rfl, rfl⟩

/-- An instruction does something that matters if and only if its opcode is that of a call. -/
theorem Shape.Does.other_iff {pool : ConstantPool} {shape : Shape} {result : Operation}
    (does : shape.Does pool result) :
    result = .other ↔
      shape.opcode < Opcode.invokevirtual ∨ Opcode.invokedynamic < shape.opcode := by
  cases shape with
  | plain opcode operands sized quiet => exact ⟨fun _ => quiet, fun _ => does⟩
  | call dispatch index extra sized =>
      obtain ⟨site, _, rfl⟩ := does
      have inside : ¬(callOpcode dispatch < Opcode.invokevirtual ∨
          Opcode.invokedynamic < callOpcode dispatch) := by cases dispatch <;> decide
      exact iff_of_false nofun inside
  | tableswitch =>
      exact iff_of_true does (.inl (show Opcode.tableswitch < Opcode.invokevirtual by decide))
  | lookupswitch =>
      exact iff_of_true does (.inl (show Opcode.lookupswitch < Opcode.invokevirtual by decide))
  | wide => exact iff_of_true does (.inr (show Opcode.invokedynamic < Opcode.wide by decide))

/-! ## Walking what was laid out -/

/-- A walk over an instruction that fits and can be resolved goes on behind the instruction. -/
theorem walkFrom_cons {pool : ConstantPool} {offset length : Nat} {opcode : UInt8}
    {operands : Bytes} {result : Operation}
    (measured : instructionLength offset opcode operands = .ok length)
    (fits : 0 < length ∧ length ≤ operands.length + 1)
    (resolved : operation pool offset opcode operands = .ok result) :
    walkFrom pool offset (opcode :: operands) =
      (walkFrom pool (offset + length) ((opcode :: operands).drop length)).map
        (⟨keptOffset offset, result⟩ :: ·) := by
  rw [walkFrom, measured]
  simp only [fits, and_self, dif_pos, resolved, bind, Except.bind]
  cases walkFrom pool (offset + length) ((opcode :: operands).drop length) <;> rfl

/-- A walk over laid-out code takes one instruction off its front. -/
theorem walkFrom_encode_append {pool : ConstantPool} {shape : Shape} {result : Operation}
    (does : shape.Does pool result) (offset : Nat) (rest : Bytes)
    (short : (shape.encode offset).length < 0x100000000) :
    walkFrom pool offset (shape.encode offset ++ rest) =
      (walkFrom pool (offset + (shape.encode offset).length) rest).map
        (⟨keptOffset offset, result⟩ :: ·) := by
  have fits : 0 < (shape.encode offset).length ∧
      (shape.encode offset).length ≤ (shape.operands offset ++ rest).length + 1 := by
    simp [Shape.encode]
  have behind : (shape.opcode :: (shape.operands offset ++ rest)).drop
      (shape.encode offset).length = rest := by
    rw [← List.cons_append]
    exact List.drop_left
  have step := walkFrom_cons (shape.instructionLength_eq offset rest short) fits
    (Shape.operation_eq does offset rest)
  rw [behind] at step
  exact step

/-- The walk of code laid out at an offset.  The induction is on the instructions, for every
offset. -/
theorem walkFrom_layoutFrom (pool : ConstantPool) (shapes : List Shape) (offset : Nat)
    (resolved : ∀ shape ∈ shapes, ∃ result, shape.Does pool result)
    (short : offset + (layoutFrom offset shapes).length < 0x100000000) :
    ∃ instructions, walkFrom pool offset (layoutFrom offset shapes) = .ok instructions ∧
      instructions.map Instruction.offset = offsetsFrom offset shapes ∧
      List.Forall₂ (fun shape (instruction : Instruction) => shape.Does pool instruction.operation)
        shapes instructions := by
  induction shapes generalizing offset with
  | nil => exact ⟨[], by rw [layoutFrom, walkFrom], rfl, .nil⟩
  | cons shape shapes ih =>
      rw [layoutFrom, List.length_append] at short
      obtain ⟨result, does⟩ := resolved shape List.mem_cons_self
      obtain ⟨later, walked, offsets, described⟩ := ih (offset + (shape.encode offset).length)
        (fun other member => resolved other (List.mem_cons_of_mem shape member)) (by omega)
      refine ⟨⟨keptOffset offset, result⟩ :: later, ?_, ?_, .cons does described⟩
      · rw [layoutFrom, walkFrom_encode_append does offset _ (by omega), walked]
        rfl
      · rw [List.map_cons, offsets, offsetsFrom, keptOffset_of_lt (by omega)]

/-- What a walk finds of an instruction that was laid out: what the instruction does, which is
something that matters if and only if its opcode is that of a call. -/
def Describes (pool : ConstantPool) (shape : Shape) (instruction : Instruction) : Prop :=
  shape.Does pool instruction.operation ∧
    (instruction.operation = .other ↔
      shape.opcode < Opcode.invokevirtual ∨ Opcode.invokedynamic < shape.opcode)

/-- Walking undoes laying out: when the operand of every call names a site, the walk finds one
instruction for each that was laid out, in order, each at its offset and with what it does. -/
theorem walk_layout (pool : ConstantPool) (shapes : List Shape)
    (resolved : ∀ shape ∈ shapes, ∃ result, shape.Does pool result)
    (short : (layoutFrom 0 shapes).length < 0x100000000) :
    ∃ instructions, walk pool (layoutFrom 0 shapes) = .ok instructions ∧
      instructions.map Instruction.offset = offsetsFrom 0 shapes ∧
      List.Forall₂ (Describes pool) shapes instructions := by
  obtain ⟨instructions, walked, offsets, described⟩ :=
    walkFrom_layoutFrom pool shapes 0 resolved (by omega)
  exact ⟨instructions, walked, offsets, described.imp fun _ _ does => ⟨does, does.other_iff⟩⟩

/-- A pool with the method `n` of `pkg/B` and a dynamic call site of the same name. -/
def sitePool : ConstantPool :=
  #[.empty, .utf8 "pkg/B", .classInfo 1, .utf8 "n", .utf8 "()V", .nameAndType 3 4,
    .methodRef 2 5, .invokeDynamic 0 5]

/-- Both switches at odd offsets, a widened `iinc`, and a call of either sort. -/
def siteShapes : List Shape :=
  [.plain 0x03 [] rfl (.inl (by decide)),
   .tableswitch #v[1, 2, 3] 0 (-1) 0 [7, -7] (by decide) (by decide),
   .lookupswitch #v[1, 2, 3] 0 [(5, 6)],
   .wide Opcode.iinc [0, 1, 0, 1] rfl,
   .call .static 6 [] rfl,
   .call .dynamic 7 [0, 0] rfl,
   .plain Opcode.return_ [] rfl (.inl (by decide))]

theorem walk_layout_siteShapes :
    (∀ shape ∈ siteShapes, ∃ result, shape.Does sitePool result) ∧
      (layoutFrom 0 siteShapes).length < 0x100000000 ∧
      ∃ instructions, walk sitePool (layoutFrom 0 siteShapes) = .ok instructions ∧
        instructions.map Instruction.offset = offsetsFrom 0 siteShapes ∧
        List.Forall₂ (Describes sitePool) siteShapes instructions := by
  have typed : Descriptor.methodType "()V" = .ok ⟨[], .primitive .void⟩ := by cbv
  have shown : Descriptor.classDisplayName "pkg/B" = .ok "pkg.B" := by cbv
  have method : ClassFile.IsMethod sitePool 6 ⟨"pkg/B", "n", "()V"⟩ :=
    ⟨2, 5, .inl rfl, ⟨1, rfl, rfl⟩, ⟨3, 4, rfl, rfl, rfl⟩⟩
  have site : ClassFile.IsCallSite sitePool 7 ⟨0, "n", "()V"⟩ :=
    ⟨5, rfl, ⟨3, 4, rfl, rfl, rfl⟩⟩
  have resolved : ∀ shape ∈ siteShapes, ∃ result, shape.Does sitePool result := by
    simp only [siteShapes, List.forall_mem_cons]
    exact ⟨⟨.other, rfl⟩, ⟨.other, rfl⟩, ⟨.other, rfl⟩, ⟨.other, rfl⟩,
      ⟨_, _, .named (by decide) method shown typed, rfl⟩, ⟨_, _, .dynamic site typed, rfl⟩,
      ⟨.other, rfl⟩, by simp⟩
  have short : (layoutFrom 0 siteShapes).length < 0x100000000 := by decide
  exact ⟨resolved, short, walk_layout sitePool siteShapes resolved short⟩

end Bytecode

end CallGraph
