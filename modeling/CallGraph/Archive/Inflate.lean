import CallGraph.Archive.Inflate.PrefixCode

/-!
# Restoring deflated data

Deflated data is a sequence of blocks.  A block holds bytes as they are, or symbols of a prefix
code; a symbol is a byte, the end of the block, or the length of a copy from what has been
restored so far.  The prefix codes of a block are fixed or stand in front of it.
-/

namespace CallGraph

namespace Inflate

/-- The least length and the number of further bits for each symbol from 257 on. -/
def lengthSteps : List (Nat × Nat) :=
  [(3, 0), (4, 0), (5, 0), (6, 0), (7, 0), (8, 0), (9, 0), (10, 0), (11, 1), (13, 1), (15, 1),
   (17, 1), (19, 2), (23, 2), (27, 2), (31, 2), (35, 3), (43, 3), (51, 3), (59, 3), (67, 4),
   (83, 4), (99, 4), (115, 4), (131, 5), (163, 5), (195, 5), (227, 5), (258, 0)]

/-- The least distance and the number of further bits for each symbol. -/
def distanceSteps : List (Nat × Nat) :=
  [(1, 0), (2, 0), (3, 0), (4, 0), (5, 1), (7, 1), (9, 2), (13, 2), (17, 3), (25, 3), (33, 4),
   (49, 4), (65, 5), (97, 5), (129, 6), (193, 6), (257, 7), (385, 7), (513, 8), (769, 8),
   (1025, 9), (1537, 9), (2049, 10), (3073, 10), (4097, 11), (6145, 11), (8193, 12),
   (12289, 12), (16385, 13), (24577, 13)]

/-- The number that a symbol starts, with its further bits. -/
def stepValue (steps : List (Nat × Nat)) (symbol : Nat) (stream : BitStream) :
    Except Fault (Nat × BitStream) :=
  match steps[symbol]? with
  | none => .error .corrupt
  | some (least, further) => do
    let (more, stream) ← stream.bits further
    return (least + more, stream)

/-- The length and the distance of a copy, given its symbol from 257 on. -/
def readCopy (distances : PrefixCode) (symbol : Nat) (stream : BitStream) :
    Except Fault ((Nat × Nat) × BitStream) := do
  let (length, stream) ← stepValue lengthSteps (symbol - 257) stream
  let (symbol, stream) ← distances.decode stream
  let (distance, stream) ← stepValue distanceSteps symbol stream
  return ((length, distance), stream)

/-- Appends bytes that stand `distance` before the end, one by one. -/
def copyBack (distance : Nat) : (length : Nat) → Array UInt8 → Array UInt8
  | 0, output => output
  | length + 1, output =>
    copyBack distance length (output.push (output.getD (output.size - distance) 0))

theorem size_of_stepValue {steps : List (Nat × Nat)} {symbol number : Nat}
    {stream rest : BitStream} (read : stepValue steps symbol stream = .ok (number, rest)) :
    rest.size ≤ stream.size := by
  unfold stepValue at read
  split at read
  · cases read
  · obtain ⟨⟨more, later⟩, bits, read⟩ := Fallible.of_bind_eq_ok read
    have := BitStream.size_of_bits bits
    have result := Fallible.of_pure_eq_ok read
    simp only [Prod.mk.injEq] at result
    rw [← result.2]
    omega

theorem size_of_readCopy {distances : PrefixCode} {symbol : Nat} {copy : Nat × Nat}
    {stream rest : BitStream} (read : readCopy distances symbol stream = .ok (copy, rest)) :
    rest.size ≤ stream.size := by
  obtain ⟨⟨length, later₁⟩, first, read⟩ := Fallible.of_bind_eq_ok read
  obtain ⟨⟨word, later₂⟩, second, read⟩ := Fallible.of_bind_eq_ok read
  obtain ⟨⟨distance, later₃⟩, third, read⟩ := Fallible.of_bind_eq_ok read
  have := size_of_stepValue first
  have := PrefixCode.size_of_decode second
  have := size_of_stepValue third
  have result := Fallible.of_pure_eq_ok read
  simp only [Prod.mk.injEq] at result
  rw [← result.2]
  omega

/-- What a symbol of a block stands for. -/
inductive Symbol where
  | byte (value : UInt8)
  | blockEnd
  | copy (length distance : Nat)

/-- The next symbol of a block. -/
def readSymbol (literals distances : PrefixCode) (stream : BitStream) :
    Except Fault (Symbol × BitStream) := do
  let (symbol, stream) ← literals.decode stream
  if symbol < 256 then return (.byte (UInt8.ofNat symbol), stream)
  else if symbol = 256 then return (.blockEnd, stream)
  else
    let ((length, distance), stream) ← readCopy distances symbol stream
    return (.copy length distance, stream)

theorem size_of_readSymbol {literals distances : PrefixCode} {symbol : Symbol}
    {stream rest : BitStream} (read : readSymbol literals distances stream = .ok (symbol, rest)) :
    rest.size < stream.size := by
  obtain ⟨⟨word, later⟩, first, read⟩ := Fallible.of_bind_eq_ok read
  have := PrefixCode.size_of_decode first
  simp only at read
  split at read
  · have result := Fallible.of_pure_eq_ok read
    simp only [Prod.mk.injEq] at result
    rw [← result.2]
    exact this
  split at read
  · have result := Fallible.of_pure_eq_ok read
    simp only [Prod.mk.injEq] at result
    rw [← result.2]
    exact this
  · obtain ⟨⟨⟨length, distance⟩, last⟩, second, read⟩ := Fallible.of_bind_eq_ok read
    have := size_of_readCopy second
    have result := Fallible.of_pure_eq_ok read
    simp only [Prod.mk.injEq] at result
    rw [← result.2]
    omega

/-- Restores symbols up to the end of the block. -/
def readSymbols (literals distances : PrefixCode) (stream : BitStream) (output : Array UInt8) :
    Except Fault (Array UInt8 × BitStream) :=
  match _read : readSymbol literals distances stream with
  | .error fault => .error fault
  | .ok (.byte value, rest) => readSymbols literals distances rest (output.push value)
  | .ok (.blockEnd, rest) => .ok (output, rest)
  | .ok (.copy length distance, rest) =>
    if output.size < distance then .error .corrupt
    else readSymbols literals distances rest (copyBack distance length output)
termination_by stream.size
decreasing_by all_goals exact size_of_readSymbol _read

theorem size_of_readSymbols {literals distances : PrefixCode} {stream rest : BitStream}
    {output result : Array UInt8}
    (read : readSymbols literals distances stream output = .ok (result, rest)) :
    rest.size < stream.size := by
  fun_induction readSymbols literals distances stream output with
  | case1 => cases read
  | case2 stream output value later symbol ih =>
      exact Nat.lt_trans (ih read) (size_of_readSymbol symbol)
  | case3 stream output later symbol =>
      simp only [Except.ok.injEq, Prod.mk.injEq] at read
      rw [← read.2]
      exact size_of_readSymbol symbol
  | case4 => cases read
  | case5 stream output length distance later symbol _ ih =>
      exact Nat.lt_trans (ih read) (size_of_readSymbol symbol)

/-- The fixed code of literals and lengths. -/
def fixedLiterals : PrefixCode :=
  .ofLengths (List.replicate 144 8 ++ List.replicate 112 9 ++ List.replicate 24 7 ++
    List.replicate 8 8)

/-- The fixed code of distances. -/
def fixedDistances : PrefixCode :=
  .ofLengths (List.replicate 32 5)

/-- The order in which the lengths of the code of code lengths stand. -/
def lengthOrder : List Nat :=
  [16, 17, 18, 0, 8, 7, 9, 6, 10, 5, 11, 4, 12, 3, 13, 2, 14, 1, 15]

/-- Code lengths of three bits each, in the order in which they stand. -/
def readShortLengths : (count : Nat) → BitStream → Except Fault (List Nat × BitStream)
  | 0, stream => .ok ([], stream)
  | count + 1, stream => do
    let (length, stream) ← stream.bits 3
    let (lengths, stream) ← readShortLengths count stream
    return (length :: lengths, stream)

/-- The lengths of the code of code lengths, by symbol. -/
def arrange (lengths : List Nat) : List Nat :=
  (List.range 19).map fun symbol => ((lengthOrder.zip lengths).lookup symbol).getD 0

/-- The length that a symbol repeats and how often, given the lengths so far in reverse. -/
def readRepeat (symbol : Nat) (before : List Nat) (stream : BitStream) :
    Except Fault ((Nat × Nat) × BitStream) :=
  if symbol < 16 then .ok ((symbol, 1), stream)
  else if symbol = 16 then do
    let (more, stream) ← stream.bits 2
    match before with
    | [] => .error .corrupt
    | last :: _ => return ((last, 3 + more), stream)
  else if symbol = 17 then do
    let (more, stream) ← stream.bits 3
    return ((0, 3 + more), stream)
  else do
    let (more, stream) ← stream.bits 7
    return ((0, 11 + more), stream)

theorem size_of_readRepeat {symbol : Nat} {before : List Nat} {run : Nat × Nat}
    {stream rest : BitStream} (read : readRepeat symbol before stream = .ok (run, rest)) :
    rest.size ≤ stream.size := by
  unfold readRepeat at read
  split at read
  · simp only [Except.ok.injEq, Prod.mk.injEq] at read
    exact Nat.le_of_eq (congrArg BitStream.size read.2.symm)
  split at read
  · obtain ⟨⟨more, later⟩, bits, read⟩ := Fallible.of_bind_eq_ok read
    have := BitStream.size_of_bits bits
    simp only at read
    split at read
    · cases read
    · have result := Fallible.of_pure_eq_ok read
      simp only [Prod.mk.injEq] at result
      rw [← result.2]
      omega
  split at read
  all_goals
    obtain ⟨⟨more, later⟩, bits, read⟩ := Fallible.of_bind_eq_ok read
    have := BitStream.size_of_bits bits
    have result := Fallible.of_pure_eq_ok read
    simp only [Prod.mk.injEq] at result
    rw [← result.2]
    omega

/-- Code lengths in a code of their own, up to a total number; `before` holds those so far in
reverse. -/
def readLengths (code : PrefixCode) (total : Nat) (before : List Nat) (stream : BitStream) :
    Except Fault (List Nat × BitStream) :=
  if total ≤ before.length then .ok (before.reverse, stream)
  else
    match _word : code.decode stream with
    | .error fault => .error fault
    | .ok (symbol, rest) =>
      match _run : readRepeat symbol before rest with
      | .error fault => .error fault
      | .ok ((length, count), rest) =>
        if total < before.length + count then .error .corrupt
        else readLengths code total (List.replicate count length ++ before) rest
termination_by stream.size
decreasing_by
  exact Nat.lt_of_le_of_lt (size_of_readRepeat _run) (PrefixCode.size_of_decode _word)

/-- The codes in front of a block. -/
def readCodes (stream : BitStream) : Except Fault ((PrefixCode × PrefixCode) × BitStream) := do
  let (header, stream) ← stream.bits 14
  let literalCount := header % 32 + 257
  let distanceCount := header / 32 % 32 + 1
  if 286 < literalCount ∨ 30 < distanceCount then .error .corrupt
  else
    let (short, stream) ← readShortLengths (header / 1024 + 4) stream
    let code ← PrefixCode.ofLengthLengths? (arrange short)
    let (lengths, stream) ← readLengths code (literalCount + distanceCount) [] stream
    if lengths.getD 256 0 = 0 then .error .corrupt
    else
      let literals ← PrefixCode.ofLengths? (lengths.take literalCount)
      let distances ← PrefixCode.ofLengths? (lengths.drop literalCount)
      return ((literals, distances), stream)

/-! ## Blocks -/

/-- Restores bytes that stand as they are. -/
def readStored (stream : BitStream) (output : Array UInt8) :
    Except Fault (Array UInt8 × BitStream) := do
  let (header, stream) ← stream.align.bytes 4
  let length := Bytes.toNatLE (header.take 2)
  if length + Bytes.toNatLE (header.drop 2) ≠ 0xffff then .error .corrupt
  else
    let (block, stream) ← stream.bytes length
    return (output ++ block.toArray, stream)

/-- Restores one block after its header of three bits. -/
def readBlock (kind : Nat) (stream : BitStream) (output : Array UInt8) :
    Except Fault (Array UInt8 × BitStream) :=
  match kind with
  | 0 => readStored stream output
  | 1 => readSymbols fixedLiterals fixedDistances stream output
  | 2 => do
    let ((literals, distances), stream) ← readCodes stream
    readSymbols literals distances stream output
  | _ => .error .corrupt

theorem size_of_readShortLengths {count : Nat} {lengths : List Nat} {stream rest : BitStream}
    (read : readShortLengths count stream = .ok (lengths, rest)) : rest.size ≤ stream.size := by
  induction count generalizing lengths stream with
  | zero =>
      simp only [readShortLengths, Except.ok.injEq, Prod.mk.injEq] at read
      exact Nat.le_of_eq (congrArg BitStream.size read.2.symm)
  | succ count ih =>
      obtain ⟨⟨length, later₁⟩, first, read⟩ := Fallible.of_bind_eq_ok read
      obtain ⟨⟨others, later₂⟩, second, read⟩ := Fallible.of_bind_eq_ok read
      have := BitStream.size_of_bits first
      have result := Fallible.of_pure_eq_ok read
      simp only [Prod.mk.injEq] at result
      rw [result.2] at second
      have := ih second
      omega

theorem size_of_readLengths {code : PrefixCode} {total : Nat} {before lengths : List Nat}
    {stream rest : BitStream} (read : readLengths code total before stream = .ok (lengths, rest)) :
    rest.size ≤ stream.size := by
  fun_induction readLengths code total before stream with
  | case1 =>
      simp only [Except.ok.injEq, Prod.mk.injEq] at read
      exact Nat.le_of_eq (congrArg BitStream.size read.2.symm)
  | case2 => cases read
  | case3 => cases read
  | case4 => cases read
  | case5 before stream _ symbol later word length count last run _ ih =>
      have := PrefixCode.size_of_decode word
      have := size_of_readRepeat run
      have := ih read
      omega

theorem size_of_readCodes {codes : PrefixCode × PrefixCode} {stream rest : BitStream}
    (read : readCodes stream = .ok (codes, rest)) : rest.size ≤ stream.size := by
  obtain ⟨⟨header, later₁⟩, first, read⟩ := Fallible.of_bind_eq_ok read
  have := BitStream.size_of_bits first
  simp only at read
  split at read
  · cases read
  · obtain ⟨⟨short, later₂⟩, second, read⟩ := Fallible.of_bind_eq_ok read
    have := size_of_readShortLengths second
    obtain ⟨code, _, read⟩ := Fallible.of_bind_eq_ok read
    obtain ⟨⟨lengths, later₃⟩, third, read⟩ := Fallible.of_bind_eq_ok read
    have := size_of_readLengths third
    simp only at this read
    split at read
    · cases read
    · obtain ⟨literals, _, read⟩ := Fallible.of_bind_eq_ok read
      obtain ⟨distances, _, read⟩ := Fallible.of_bind_eq_ok read
      have result := Fallible.of_pure_eq_ok read
      simp only [Prod.mk.injEq] at result
      rw [← result.2]
      omega

theorem size_of_readBlock {kind : Nat} {stream rest : BitStream} {output result : Array UInt8}
    (read : readBlock kind stream output = .ok (result, rest)) : rest.size ≤ stream.size := by
  unfold readBlock at read
  split at read
  · obtain ⟨⟨header, later₁⟩, first, read⟩ := Fallible.of_bind_eq_ok read
    have := BitStream.size_align_le stream
    have := BitStream.size_of_bytes first
    simp only at read
    split at read
    · cases read
    · obtain ⟨⟨block, later₂⟩, second, read⟩ := Fallible.of_bind_eq_ok read
      have := BitStream.size_of_bytes second
      have result := Fallible.of_pure_eq_ok read
      simp only [Prod.mk.injEq] at result
      rw [← result.2]
      omega
  · exact Nat.le_of_lt (size_of_readSymbols read)
  · obtain ⟨⟨codes, later⟩, first, read⟩ := Fallible.of_bind_eq_ok read
    have := size_of_readCodes first
    have := size_of_readSymbols read
    omega
  · cases read

/-- Restores blocks up to the last one, which its header marks. -/
def readBlocks (stream : BitStream) (output : Array UInt8) : Except Fault (Array UInt8) :=
  match _header : stream.bits 3 with
  | .error fault => .error fault
  | .ok (header, rest) =>
    match _block : readBlock (header / 2) rest output with
    | .error fault => .error fault
    | .ok (output, rest) =>
      if header % 2 = 1 then .ok output else readBlocks rest output
termination_by stream.size
decreasing_by
  have := BitStream.size_of_bits _header
  have := size_of_readBlock _block
  omega

end Inflate

/-- What deflated data is restored to.  What follows the last block is not looked at. -/
def inflate (data : Bytes) : Except Inflate.Fault Bytes :=
  (Inflate.readBlocks (.ofBytes data) #[]).map (·.toList)

end CallGraph
