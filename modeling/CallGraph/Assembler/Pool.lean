import CallGraph.ClassFile.Constant

/-!
# Constant pools under construction

Constants are appended to a pool and are known by the index that they got.  Asking again for the
same constant gives its index again, unless a new one is asked for on purpose.
-/

namespace CallGraph

namespace Assembler

open ClassFile

/-- A constant pool under construction. -/
structure PoolBuilder where
  constants : Array Constant
  /-- The index that the next constant gets. -/
  nextIndex : UInt16
  /-- The constants that are shared, with their indices. -/
  shared : List (Constant × UInt16)
  deriving DecidableEq, Repr

namespace PoolBuilder

/-- A pool without constants.  Indices start at 1. -/
def empty : PoolBuilder :=
  ⟨#[], 1, []⟩

/-- Appends a constant. -/
def push (constant : Constant) : StateM PoolBuilder UInt16 := fun pool =>
  (pool.nextIndex,
    { pool with
      constants := pool.constants.push constant
      nextIndex := pool.nextIndex + UInt16.ofNat constant.width })

/-- The index of a constant, which is appended if nobody has asked for it yet. -/
def intern (constant : Constant) : StateM PoolBuilder UInt16 := fun pool =>
  match pool.shared.lookup constant with
  | some index => (index, pool)
  | none =>
    let (index, pool) := push constant pool
    (index, { pool with shared := (constant, index) :: pool.shared })

/-- The index of a text. -/
def utf8 (value : String) : StateM PoolBuilder UInt16 :=
  intern (.utf8 value)

/-- The index of a class. -/
def classInfo (name : String) : StateM PoolBuilder UInt16 := do
  intern (.classInfo (← utf8 name))

/-- The index of a new constant for a class. -/
def duplicateClass (name : String) : StateM PoolBuilder UInt16 := do
  push (.classInfo (← utf8 name))

/-- The index of a number. -/
def long (value : Int64) : StateM PoolBuilder UInt16 :=
  intern (.long value)

/-- The index of a name with a descriptor. -/
def nameAndType (name descriptor : String) : StateM PoolBuilder UInt16 := do
  let nameIndex ← utf8 name
  let descriptorIndex ← utf8 descriptor
  intern (.nameAndType nameIndex descriptorIndex)

/-- The index of a method of a class. -/
def methodRef (owner name descriptor : String) : StateM PoolBuilder UInt16 := do
  let classIndex ← classInfo owner
  let nameAndTypeIndex ← nameAndType name descriptor
  intern (.methodRef classIndex nameAndTypeIndex)

/-- The index of a method of an interface. -/
def interfaceMethodRef (owner name descriptor : String) : StateM PoolBuilder UInt16 := do
  let classIndex ← classInfo owner
  let nameAndTypeIndex ← nameAndType name descriptor
  intern (.interfaceMethodRef classIndex nameAndTypeIndex)

/-- The index of a method handle. -/
def methodHandle (kind : UInt8) (referenceIndex : UInt16) : StateM PoolBuilder UInt16 :=
  intern (.methodHandle kind referenceIndex)

/-- The index of a call that a bootstrap method links. -/
def invokeDynamic (bootstrapIndex : UInt16) (name descriptor : String) :
    StateM PoolBuilder UInt16 := do
  let nameAndTypeIndex ← nameAndType name descriptor
  intern (.invokeDynamic bootstrapIndex nameAndTypeIndex)

/-- The constants as they stand in a file. -/
def encode (pool : PoolBuilder) : Bytes :=
  pool.constants.toList.flatMap Constant.encode

end PoolBuilder

end Assembler

end CallGraph
