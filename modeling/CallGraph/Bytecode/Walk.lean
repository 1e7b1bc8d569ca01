import CallGraph.Bytecode.Length
import CallGraph.ClassFile.Resolution
import CallGraph.JavaClass
import CallGraph.JavaType.Descriptor

/-!
# Walking bytecode

Code is walked instruction by instruction, each as long as its length says.  The operand of an
instruction that calls is followed through the constant pool, so that a walk yields the call
sites in place.  The walk stops at the first instruction that has no length, does not fit into the
rest of the code or whose operand leads nowhere.
-/

namespace CallGraph

namespace Bytecode

open ClassFile (ConstantPool Dangling)

/-- Why code cannot be walked. -/
inductive Fault where
  /-- An instruction has no length. -/
  | length (cause : LengthFault)
  /-- The instruction at an offset does not fit into the rest of the code. -/
  | overrun (offset : Nat)
  /-- The instruction at an offset calls, and its operand is cut off. -/
  | operandPastEnd
  /-- The operand of the call at an offset leads to no method. -/
  | method (offset : Nat) (cause : Dangling)
  /-- The operand of the dynamic call at an offset leads to no call site. -/
  | callSite (offset : Nat) (cause : Dangling)
  /-- A call has no well-formed descriptor or owner. -/
  | descriptor (cause : Descriptor.Rejection)
  deriving DecidableEq, Repr

/-- The account of a fault, from the outermost line to the cause. -/
def Fault.chain : Fault → List String
  | length cause => [cause.message]
  | overrun offset => ["invalid bytecode length at offset " ++ toString offset]
  | operandPastEnd => ["bytecode u16 out of bounds"]
  | method offset cause => ("resolve method ref at offset " ++ toString offset) :: cause.chain
  | callSite offset cause =>
      ("resolve invokedynamic at offset " ++ toString offset) :: cause.chain
  | descriptor cause => cause.chain

/-- The kind of dispatch of an opcode that calls. -/
def dispatch? (opcode : UInt8) : Option Dispatch :=
  if opcode = Opcode.invokevirtual then some .virtual
  else if opcode = Opcode.invokespecial then some .special
  else if opcode = Opcode.invokestatic then some .static
  else if opcode = Opcode.invokeinterface then some .interface
  else if opcode = Opcode.invokedynamic then some .dynamic
  else none

/-- The pool index in the first two bytes of the operands. -/
def operandIndex : Bytes → Except Fault UInt16
  | high :: low :: _ => .ok (UInt16.ofNat (Bytes.toNatBE [high, low]))
  | _ => .error .operandPastEnd

/-- The call site of a method that is named in the constant pool. -/
def namedSite (pool : ConstantPool) (offset : Nat) (dispatch : Dispatch) (index : UInt16) :
    Except Fault CallSite := do
  let method ← (ClassFile.methodAt pool index).mapError (.method offset)
  let owner ← (Descriptor.classDisplayName method.owner).mapError .descriptor
  let argumentTypes ← (Descriptor.argumentTypes method.descriptor).mapError .descriptor
  return ⟨owner, method.name, argumentTypes, dispatch, none⟩

/-- The call site of a dynamically linked method, which belongs to the type that it yields. -/
def dynamicSite (pool : ConstantPool) (offset : Nat) (index : UInt16) :
    Except Fault CallSite := do
  let site ← (ClassFile.callSiteAt pool index).mapError (.callSite offset)
  let owner ← (Descriptor.returnType site.descriptor).mapError .descriptor
  let argumentTypes ← (Descriptor.argumentTypes site.descriptor).mapError .descriptor
  return ⟨owner, site.name, argumentTypes, .dynamic, some site.bootstrapIndex⟩

/-- What the instruction at an offset does. -/
def operation (pool : ConstantPool) (offset : Nat) (opcode : UInt8) (operands : Bytes) :
    Except Fault Operation :=
  match dispatch? opcode with
  | none => .ok .other
  | some .dynamic => do
      return .invoke (← dynamicSite pool offset (← operandIndex operands))
  | some dispatch => do
      return .invoke (← namedSite pool offset dispatch (← operandIndex operands))

/-- The offset under which an instruction is kept, in 32 bits. -/
def keptOffset (offset : Nat) : Nat :=
  offset % 0x100000000

/-- An offset of 32 bits is kept as it is. -/
theorem keptOffset_of_lt {offset : Nat} (short : offset < 0x100000000) :
    keptOffset offset = offset :=
  Nat.mod_eq_of_lt short

/-- The instructions of the code that starts at an offset. -/
def walkFrom (pool : ConstantPool) (offset : Nat) (code : Bytes) :
    Except Fault (List Instruction) :=
  match code with
  | [] => .ok []
  | opcode :: operands =>
    match instructionLength offset opcode operands with
    | .error fault => .error (.length fault)
    | .ok length =>
      if _fits : 0 < length ∧ length ≤ operands.length + 1 then do
        let operation ← operation pool offset opcode operands
        let later ← walkFrom pool (offset + length) ((opcode :: operands).drop length)
        return ⟨keptOffset offset, operation⟩ :: later
      else
        .error (.overrun offset)
termination_by code.length
decreasing_by simp only [List.length_drop, List.length_cons]; omega

/-- The instructions of a method's code. -/
def walk (pool : ConstantPool) (code : Bytes) : Except Fault (List Instruction) :=
  walkFrom pool 0 code

end Bytecode

end CallGraph
