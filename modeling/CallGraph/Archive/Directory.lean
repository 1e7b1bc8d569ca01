import CallGraph.Archive.Member
import CallGraph.Text.CodePage437
import CallGraph.Text.Utf8

/-!
# Directories of archives

An archive ends in a record that says where its directory is.  The directory has a header for
each member, which says where the member is.  Offsets count from the start of the archive, which
need not be the start of the file: whatever stands before the archive moves all of them alike.

A record that leads nowhere is passed over in favour of an earlier one.
-/

namespace CallGraph

namespace Archive

/-- The bytes of a file, by position. -/
abbrev File := Array UInt8

/-- The block of a given size at a position, if the file reaches that far. -/
def block? (file : File) (start size : Nat) : Option Bytes :=
  if start + size ≤ file.size then some (file.extract start (start + size)).toList else none

/-- The number that stands at a place in a block. -/
def field (block : Bytes) (start width : Nat) : Nat :=
  Bytes.toNatLE ((block.drop start).take width)

/-- A block of a given size that starts with a signature. -/
def signed? (signature : Bytes) (file : File) (start size : Nat) : Option Bytes := do
  let block ← block? file start size
  if block.take 4 = signature then some block else none

/-- What the header of a member starts with. -/
def localSignature : Bytes := [0x50, 0x4b, 3, 4]

/-- What a header of the directory starts with. -/
def directorySignature : Bytes := [0x50, 0x4b, 1, 2]

/-- What the record at the end starts with. -/
def endSignature : Bytes := [0x50, 0x4b, 5, 6]

/-- A field of 32 bits of this value stands for one that follows elsewhere. -/
def overflowMark : Nat := 0xffffffff

/-- The sizes and the offset of a member. -/
structure Extent where
  restoredSize : Nat
  size : Nat
  offset : Nat

/-- The fields of 64 bits that replace those that do not fit.  They stand in order, all of them if
there is room for all. -/
def Extent.widen (extent : Extent) (body : Bytes) : Option Extent := do
  let isFull := 24 ≤ body.length
  let (restoredSize, body) ← pick (isFull || extent.restoredSize == overflowMark)
    extent.restoredSize body
  let (size, body) ← pick (isFull || extent.size == overflowMark) extent.size body
  let (offset, _) ← pick (isFull || extent.offset == overflowMark) extent.offset body
  return ⟨restoredSize, size, offset⟩
where
  /-- The number in front if it is wanted, with what follows it. -/
  pick (isWanted : Bool) (value : Nat) (body : Bytes) : Option (Nat × Bytes) :=
    if isWanted then
      if 8 ≤ body.length then some (Bytes.toNatLE (body.take 8), body.drop 8) else none
    else some (value, body)

/-- The kind of the extra field that holds fields of 64 bits. -/
def wideKind : Nat := 1

/-- Goes through the extra fields of a header.  Each has a kind and a length; a single byte at the
end is let pass. -/
def Extent.applyExtra (extent : Extent) (extra : Bytes) : Option Extent :=
  if extra.length < 2 then some extent
  else if extra.length < 4 then none
  else
    let length := field extra 2 2
    let rest := extra.drop 4
    if rest.length < length then none
    else if field extra 0 2 = wideKind then do
      let extent ← extent.widen (rest.take length)
      extent.applyExtra (rest.drop length)
    else extent.applyExtra (rest.drop length)
termination_by extra.length
decreasing_by all_goals simp only [List.length_drop]; omega

/-- The name of a member: in UTF-8 if a flag says so, else in code page 437. -/
def memberName (flags : Nat) (bytes : Bytes) : String :=
  if flags.testBit 11 then Utf8.decodeReplacing bytes else CodePage437.decode bytes

/-- The data of a member: what follows its own header, cut off where the file ends. -/
def memberData (file : File) (start size : Nat) : Option Bytes := do
  let header ← signed? localSignature file start 30
  let start := start + 30 + field header 26 2 + field header 28 2
  return (file.extract start (start + size)).toList

/-- The member of a header of the directory, and where the header ends. -/
def readHeader (file : File) (origin position : Nat) : Option (Member × Nat) := do
  let header ← signed? directorySignature file position 46
  let flags := field header 8 2
  let name ← block? file (position + 46) (field header 28 2)
  let extra ← block? file (position + 46 + name.length) (field header 30 2)
  let comment ← block? file (position + 46 + name.length + extra.length) (field header 32 2)
  let extent : Extent := ⟨field header 24 4, field header 20 4, field header 42 4⟩
  let extent ← extent.applyExtra extra
  let member : Member :=
    { name := memberName flags name
      isEncrypted := flags.testBit 0
      method := field header 10 2
      checksum := UInt32.ofNat (field header 16 4)
      data := memberData file (origin + extent.offset) extent.size }
  return (member, position + 46 + name.length + extra.length + comment.length)

/-- The members of consecutive headers. -/
def readHeaders (file : File) (origin : Nat) : (count position : Nat) → Option (List Member)
  | 0, _ => some []
  | count + 1, position => do
    let (member, position) ← readHeader file origin position
    let members ← readHeaders file origin count position
    return member :: members

/-- The first position with a signature, from a position on and with at most so many positions to
look at. -/
def findSignature (signature : Bytes) (file : File) (start : Nat) : (count : Nat) → Option Nat
  | 0 => none
  | count + 1 =>
    if (signed? signature file start 4).isSome then some start
    else findSignature signature file (start + 1) count

/-- Where an archive starts in the file: the first header of the directory stands as far behind
its offset as the archive stands behind the start of the file. -/
def origin? (file : File) (record offset : Nat) : Option Nat := do
  if record ≤ offset then none
  else return (← findSignature directorySignature file offset (record - offset)) - offset

/-- The archive that a record at a position describes. -/
def readRecord (file : File) (position : Nat) : Option Archive := do
  let record ← signed? endSignature file position 22
  let _comment ← block? file (position + 22) (field record 20 2)
  let disk := field record 4 2
  let directoryDisk := field record 6 2
  let countHere := field record 8 2
  let count := field record 10 2
  let offset := field record 16 4
  let origin ← if count = 0 then some (position - offset) else origin? file position offset
  if count < countHere ∨ disk ≠ directoryDisk then none
  else return ofMembers (← readHeaders file origin countHere (origin + offset))

/-- The archive of the last of the given number of positions that holds a record of one. -/
def readLastRecord (file : File) : (count : Nat) → Option Archive
  | 0 => none
  | count + 1 =>
    match readRecord file count with
    | some archive => some archive
    | none => readLastRecord file count

/-- The archive in a file. -/
def ofBytes? (bytes : Bytes) : Option Archive :=
  readLastRecord bytes.toArray bytes.length

end Archive

end CallGraph
