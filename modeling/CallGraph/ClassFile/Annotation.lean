import CallGraph.ClassFile.Decoder

/-!
# Annotations and stack maps

A call graph has no use for annotations and stack maps, but what follows them in a file can only
be found by passing over them field by field.  Values of annotations nest, and each level takes a
byte, so the number of bytes left bounds the depth.
-/

namespace CallGraph

namespace ClassFile

open Decoder

/-- Passes over an annotation, given how to pass over a value in it. -/
def annotationWith (value : Decoder Unit) : Decoder Unit := do
  skip [2]
  let _ ← table do
    skip [2]
    value

/-- Passes over a value of an annotation, given how to pass over a value in it. -/
def elementValueWith (value : Decoder Unit) : Decoder Unit := do
  let tag ← u1
  match Char.ofNat tag.toNat with
  | 'B' | 'C' | 'D' | 'F' | 'I' | 'J' | 'S' | 'Z' | 's' | 'c' => skip [2]
  | 'e' => skip [2, 2]
  | '@' => annotationWith value
  | '[' => do
      let _ ← table value
      return ()
  | _ => refuse (.elementTag tag)

/-- Passes over a value of an annotation with at most `depth` levels. -/
def elementValueAt : (depth : Nat) → Decoder Unit
  | 0 => refuse .nestedTooDeep
  | depth + 1 => elementValueWith (elementValueAt depth)

/-- Passes over a value of an annotation. -/
def elementValue : Decoder Unit := do
  elementValueAt ((← remaining) + 1)

/-- Passes over an annotation. -/
def annotation : Decoder Unit :=
  annotationWith elementValue

/-- Passes over the place of an annotated type. -/
def annotationTarget : Decoder Unit := do
  let tag ← u1
  match tag.toNat with
  | 0x00 | 0x01 | 0x16 => skip [1]
  | 0x10 | 0x17 | 0x42 | 0x43 | 0x44 | 0x45 | 0x46 => skip [2]
  | 0x11 | 0x12 => skip [1, 1]
  | 0x13 | 0x14 | 0x15 => return ()
  | 0x40 | 0x41 => do
      let _ ← table (skip [2, 2, 2])
      return ()
  | 0x47 | 0x48 | 0x49 | 0x4a | 0x4b => skip [2, 1]
  | _ => refuse (.targetTag tag)

/-- Passes over the annotation of a type. -/
def typeAnnotation : Decoder Unit := do
  annotationTarget
  let _ ← times (skip [1, 1]) (← u1).toNat
  annotation

/-- Passes over a verification type. -/
def verificationType : Decoder Unit := do
  let tag ← u1
  if tag ≤ 6 then return ()
  else if tag ≤ 8 then skip [2]
  else refuse (.verificationTag tag)

/-- Passes over a frame of a stack map. -/
def stackMapFrame : Decoder Unit := do
  let tag ← u1
  if tag < 64 then return ()
  else if tag < 128 then verificationType
  else if tag < 247 then refuse (.frameTag tag)
  else if tag = 247 then do
    skip [2]
    verificationType
  else if tag < 252 then skip [2]
  else if tag < 255 then do
    skip [2]
    let _ ← times verificationType (tag.toNat - 251)
  else do
    skip [2]
    let _ ← table verificationType
    let _ ← table verificationType

end ClassFile

end CallGraph
