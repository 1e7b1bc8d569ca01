import CallGraph.Proofs.Bytecode.FirstFault
import CallGraph.Proofs.Bytecode.Layout
import CallGraph.Proofs.Bytecode.Machine

/-!
# How long switches are

The header of a switch starts at the next multiple of four behind its opcode, and the words in it
are signed.  A `tableswitch` has a target for each number between two bounds, a `lookupswitch` has
as many pairs as it says.  The lengths below are exact, with bounds from the whole range of 32 bits,
and the machine that measures a switch never leaves its words.

A table whose upper bound is smaller than its lower bound has no length, with one exception: if it
is smaller by one, the table is taken to be empty.
-/

namespace CallGraph

namespace Bytecode

/-- So many bytes lie between the opcode at an offset and the next multiple of four. -/
def IsGap (offset gap : Nat) : Prop :=
  gap < 4 ∧ 4 ∣ offset + 1 + gap

/-- A signed word stands at an index of the code. -/
def WordAt (code : Bytes) (index : Nat) (value : Int32) : Prop :=
  ∃ front back, front.length = index ∧ code = front ++ Bytes.ofInt32 value ++ back

/-- The bounds of a table stand in the header of the `tableswitch` at an offset, behind the gap and
one other word. -/
structure TableHeader (code : Bytes) (offset gap : Nat) (low high : Int32) : Prop where
  aligned : IsGap offset gap
  low : WordAt code (offset + 1 + gap + 4) low
  high : WordAt code (offset + 1 + gap + 8) high

/-- The number of pairs stands in the header of the `lookupswitch` at an offset, behind the gap and
one other word. -/
structure PairHeader (code : Bytes) (offset gap : Nat) (pairs : Int32) : Prop where
  aligned : IsGap offset gap
  pairs : WordAt code (offset + 1 + gap + 4) pairs

variable {code : Bytes} {offset gap index : Nat} {low high pairs : Int32}

theorem isGap_iff : IsGap offset gap ↔ gap = padding offset := by
  unfold IsGap padding
  omega

theorem word?_eq_some_iff {start : Nat} {number : Int} :
    word? (code.drop start) index = some number ↔
      ∃ value, WordAt code (start + index) value ∧ value.toInt = number := by
  rw [word?, ← Machine.slice?_add, Option.map_eq_some_iff]
  constructor
  · rintro ⟨block, cut, rfl⟩
    rcases Bytes.exists_append_of_slice? (by decide) cut with ⟨size, front, back, place, split⟩
    rcases Bytes.exists_ofInt32_eq size with ⟨value, rfl⟩
    exact ⟨value, ⟨front, back, place, split⟩, (Bytes.toIntBE_ofInt32 value).symm⟩
  · rintro ⟨value, ⟨front, back, place, rfl⟩, rfl⟩
    exact ⟨_, Bytes.slice?_append front _ back place (Bytes.length_ofInt32 value),
      Bytes.toIntBE_ofInt32 value⟩

theorem exists_wordAt_iff : (∃ value, WordAt code index value) ↔ index + 4 ≤ code.length := by
  constructor
  · rintro ⟨value, front, back, rfl, rfl⟩
    simp only [List.length_append, Bytes.length_ofInt32]
    omega
  · intro room
    have size : ((code.drop index).take 4).length = 4 := by
      rw [List.length_take, List.length_drop]
      omega
    rcases Bytes.exists_ofInt32_eq size with ⟨value, block⟩
    refine ⟨value, code.take index, (code.drop index).drop 4, ?_, ?_⟩
    · rw [List.length_take]
      omega
    · rw [block, List.append_assoc, List.take_append_drop, List.take_append_drop]

theorem exists_tableHeader_iff :
    (∃ low high, TableHeader code offset gap low high) ↔
      IsGap offset gap ∧ offset + 1 + gap + 12 ≤ code.length := by
  constructor
  · rintro ⟨low, high, aligned, -, highAt⟩
    exact ⟨aligned, exists_wordAt_iff.mp ⟨high, highAt⟩⟩
  · rintro ⟨aligned, room⟩
    rcases exists_wordAt_iff.mpr (show offset + 1 + gap + 4 + 4 ≤ code.length by omega) with
      ⟨low, lowAt⟩
    rcases exists_wordAt_iff.mpr (show offset + 1 + gap + 8 + 4 ≤ code.length by omega) with
      ⟨high, highAt⟩
    exact ⟨low, high, aligned, lowAt, highAt⟩

theorem exists_pairHeader_iff :
    (∃ pairs, PairHeader code offset gap pairs) ↔
      IsGap offset gap ∧ offset + 1 + gap + 8 ≤ code.length := by
  constructor
  · rintro ⟨pairs, aligned, pairsAt⟩
    exact ⟨aligned, exists_wordAt_iff.mp ⟨pairs, pairsAt⟩⟩
  · rintro ⟨aligned, room⟩
    rcases exists_wordAt_iff.mpr (show offset + 1 + gap + 4 + 4 ≤ code.length by omega) with
      ⟨pairs, pairsAt⟩
    exact ⟨pairs, aligned, pairsAt⟩

/-! ## Lengths -/

/-- The length of a header and of as many entries behind it as are counted, if the count will do. -/
def countedLength (accepted : Prop) [Decidable accepted] (header entry : Nat) (count : Int)
    (refusal : LengthFault) : Except LengthFault Nat :=
  if accepted then .ok (header + entry * count.toNat) else .error refusal

theorem countedLength_eq_ok_iff {accepted : Prop} [Decidable accepted] {header entry length : Nat}
    {count : Int} {refusal : LengthFault} (nonnegative : accepted → 0 ≤ count) :
    countedLength accepted header entry count refusal = .ok length ↔
      accepted ∧ (length : Int) = header + entry * count := by
  by_cases counted : accepted
  · have counted_eq : ((header + entry * count.toNat : Nat) : Int) = header + entry * count := by
      rw [Int.natCast_add, Int.natCast_mul, Int.toNat_of_nonneg (nonnegative counted)]
    rw [countedLength, if_pos counted, Except.ok.injEq, ← counted_eq, Int.ofNat_inj, eq_comm]
    exact (and_iff_right counted).symm
  · rw [countedLength, if_neg counted]
    exact iff_of_false nofun fun both => counted both.1

theorem countedLength_eq_error_iff {accepted : Prop} [Decidable accepted] {header entry : Nat}
    {count : Int} {refusal fault : LengthFault} :
    countedLength accepted header entry count refusal = .error fault ↔
      fault = refusal ∧ ¬accepted := by
  by_cases counted : accepted
  · rw [countedLength, if_pos counted]
    exact iff_of_false nofun fun both => both.2 counted
  · rw [countedLength, if_neg counted, Except.error.injEq, eq_comm]
    exact (and_iff_left counted).symm

/-- What is found of a switch follows from its header, as long as the header is not cut off. -/
structure FollowsFrom {ι : Type} (stands : ι → Prop) (measure : ι → Except LengthFault Nat)
    (found : Option (Except LengthFault Nat)) : Prop where
  whole : ∀ header, stands header → found = some (measure header)
  cut : (∀ header, ¬stands header) → found = some (.error .headerPastEnd)

namespace FollowsFrom

variable {ι : Type} {stands : ι → Prop} {measure : ι → Except LengthFault Nat}
  {found : Option (Except LengthFault Nat)}

theorem eq_ok_iff (follows : FollowsFrom stands measure found) {length : Nat} :
    found = some (.ok length) ↔ ∃ header, stands header ∧ measure header = .ok length := by
  constructor
  · intro measured
    by_cases whole : ∃ header, stands header
    · rcases whole with ⟨header, there⟩
      rw [follows.whole header there] at measured
      exact ⟨header, there, Option.some.inj measured⟩
    · rw [follows.cut (not_exists.mp whole)] at measured
      cases measured
  · rintro ⟨header, there, measured⟩
    rw [follows.whole header there, measured]

theorem eq_error_iff (follows : FollowsFrom stands measure found) {fault : LengthFault} :
    found = some (.error fault) ↔
      (fault = .headerPastEnd ∧ ∀ header, ¬stands header) ∨
        ∃ header, stands header ∧ measure header = .error fault := by
  constructor
  · intro unmeasured
    by_cases whole : ∃ header, stands header
    · rcases whole with ⟨header, there⟩
      rw [follows.whole header there] at unmeasured
      exact .inr ⟨header, there, Option.some.inj unmeasured⟩
    · rw [follows.cut (not_exists.mp whole)] at unmeasured
      cases unmeasured
      exact .inl ⟨rfl, not_exists.mp whole⟩
  · rintro (⟨rfl, cut⟩ | ⟨header, there, unmeasured⟩)
    · exact follows.cut cut
    · rw [follows.whole header there, unmeasured]

end FollowsFrom

theorem drop_of_getElem? {opcode : UInt8} (there : code[offset]? = some opcode) :
    code.drop offset = opcode :: code.drop (offset + 1) := by
  rcases List.getElem?_eq_some_iff.mp there with ⟨inside, rfl⟩
  exact List.drop_eq_getElem_cons inside

/-- The number of targets that the bounds of a table call for can be counted in a signed word. -/
def IsTargetCount (low high : Int32) : Prop :=
  0 ≤ high.toInt - low.toInt + 1 ∧ high.toInt - low.toInt + 1 < 0x80000000

instance (low high : Int32) : Decidable (IsTargetCount low high) :=
  inferInstanceAs (Decidable (_ ∧ _))

theorem IsTargetCount.nonneg (counted : IsTargetCount low high) :
    0 ≤ high.toInt - low.toInt + 1 :=
  counted.1

theorem followsFrom_tableHeader (there : code[offset]? = some Opcode.tableswitch) :
    FollowsFrom (fun header : Nat × Int32 × Int32 =>
        TableHeader code offset header.1 header.2.1 header.2.2)
      (fun header => countedLength (IsTargetCount header.2.1 header.2.2) (13 + header.1) 4
        (header.2.2.toInt - header.2.1.toInt + 1) .tableRange)
      (lengthAt? code offset) := by
  have measured : lengthAt? code offset =
      some (tableswitchLength offset (code.drop (offset + 1))) :=
    lengthAt?_of_drop (drop_of_getElem? there)
  rw [measured, tableswitchLength]
  constructor
  · rintro ⟨gap, low, high⟩ ⟨aligned, lowAt, highAt⟩
    obtain rfl : gap = padding offset := isGap_iff.mp aligned
    rw [Nat.add_assoc] at lowAt highAt
    rw [word?_eq_some_iff.mpr ⟨low, lowAt, rfl⟩, word?_eq_some_iff.mpr ⟨high, highAt, rfl⟩]
    rfl
  · intro cut
    split
    · next low high lowRead highRead =>
      rcases word?_eq_some_iff.mp lowRead with ⟨lowWord, lowAt, -⟩
      rcases word?_eq_some_iff.mp highRead with ⟨highWord, highAt, -⟩
      rw [← Nat.add_assoc] at lowAt highAt
      exact absurd ⟨isGap_iff.mpr rfl, lowAt, highAt⟩ (cut (padding offset, lowWord, highWord))
    · rfl

theorem followsFrom_pairHeader (there : code[offset]? = some Opcode.lookupswitch) :
    FollowsFrom (fun header : Nat × Int32 => PairHeader code offset header.1 header.2)
      (fun header => countedLength (0 ≤ header.2.toInt) (9 + header.1) 8 header.2.toInt .pairCount)
      (lengthAt? code offset) := by
  have measured : lengthAt? code offset =
      some (lookupswitchLength offset (code.drop (offset + 1))) :=
    lengthAt?_of_drop (drop_of_getElem? there)
  rw [measured, lookupswitchLength]
  constructor
  · rintro ⟨gap, pairs⟩ ⟨aligned, pairsAt⟩
    obtain rfl : gap = padding offset := isGap_iff.mp aligned
    rw [Nat.add_assoc] at pairsAt
    rw [word?_eq_some_iff.mpr ⟨pairs, pairsAt, rfl⟩]
    rfl
  · intro cut
    split
    · next pairs pairsRead =>
      rcases word?_eq_some_iff.mp pairsRead with ⟨word, pairsAt, -⟩
      rw [← Nat.add_assoc] at pairsAt
      exact absurd ⟨isGap_iff.mpr rfl, pairsAt⟩ (cut (padding offset, word))
    · rfl

/-- A `tableswitch` has a length if and only if its bounds stand in the code and call for a number
of targets that can be counted. -/
theorem lengthAt?_tableswitch_eq_ok_iff (there : code[offset]? = some Opcode.tableswitch)
    {length : Nat} :
    lengthAt? code offset = some (.ok length) ↔
      ∃ gap low high, TableHeader code offset gap low high ∧ IsTargetCount low high ∧
        (length : Int) = 13 + gap + 4 * (high.toInt - low.toInt + 1) := by
  rw [(followsFrom_tableHeader there).eq_ok_iff]
  simp only [Prod.exists, countedLength_eq_ok_iff IsTargetCount.nonneg, Int.natCast_add,
    Int.cast_ofNat_Int]

/-- A `tableswitch` is refused if and only if its bounds are cut off or call for a number of targets
that cannot be counted. -/
theorem lengthAt?_tableswitch_eq_error_iff (there : code[offset]? = some Opcode.tableswitch)
    {fault : LengthFault} :
    lengthAt? code offset = some (.error fault) ↔
      (fault = .headerPastEnd ∧
        ∀ gap, IsGap offset gap → code.length < offset + 1 + gap + 12) ∨
      (fault = .tableRange ∧
        ∃ gap low high, TableHeader code offset gap low high ∧ ¬IsTargetCount low high) := by
  have cut : (∀ gap low high, ¬TableHeader code offset gap low high) ↔
      ∀ gap, IsGap offset gap → code.length < offset + 1 + gap + 12 := by
    refine forall_congr' fun gap => ?_
    rw [← Nat.not_le, ← not_and, ← exists_tableHeader_iff]
    simp only [not_exists]
  rw [(followsFrom_tableHeader there).eq_error_iff]
  simp only [Prod.forall, Prod.exists, countedLength_eq_error_iff, cut, exists_and_left,
    and_left_comm]

/-- A `lookupswitch` has a length if and only if its number of pairs stands in the code and is not
negative. -/
theorem lengthAt?_lookupswitch_eq_ok_iff (there : code[offset]? = some Opcode.lookupswitch)
    {length : Nat} :
    lengthAt? code offset = some (.ok length) ↔
      ∃ gap pairs, PairHeader code offset gap pairs ∧ 0 ≤ pairs.toInt ∧
        (length : Int) = 9 + gap + 8 * pairs.toInt := by
  rw [(followsFrom_pairHeader there).eq_ok_iff]
  simp only [Prod.exists, countedLength_eq_ok_iff id, Int.natCast_add,
    Int.cast_ofNat_Int]

/-- A `lookupswitch` is refused if and only if its number of pairs is cut off or negative. -/
theorem lengthAt?_lookupswitch_eq_error_iff (there : code[offset]? = some Opcode.lookupswitch)
    {fault : LengthFault} :
    lengthAt? code offset = some (.error fault) ↔
      (fault = .headerPastEnd ∧
        ∀ gap, IsGap offset gap → code.length < offset + 1 + gap + 8) ∨
      (fault = .pairCount ∧ ∃ gap pairs, PairHeader code offset gap pairs ∧ pairs.toInt < 0) := by
  have cut : (∀ gap pairs, ¬PairHeader code offset gap pairs) ↔
      ∀ gap, IsGap offset gap → code.length < offset + 1 + gap + 8 := by
    refine forall_congr' fun gap => ?_
    rw [← Nat.not_le, ← not_and, ← exists_pairHeader_iff]
    simp only [not_exists]
  rw [(followsFrom_pairHeader there).eq_error_iff]
  simp only [Prod.forall, Prod.exists, countedLength_eq_error_iff, cut, exists_and_left,
    and_left_comm, Int.not_le]

/-! ## Bounds in order -/

/-- The `tableswitch` at an offset is measured if and only if its bounds are in order and the
numbers between them can be counted in a signed word; its length is that of the header and of a
target for each number. -/
structure MeasuresOrdered (code : Bytes) (offset : Nat) : Prop where
  measured : ∀ length, lengthAt? code offset = some (.ok length) →
    ∃ gap low high, TableHeader code offset gap low high ∧ low.toInt ≤ high.toInt ∧
      (length : Int) = 13 + gap + 4 * (high.toInt - low.toInt + 1)
  reversed : ∀ gap low high, TableHeader code offset gap low high → high.toInt < low.toInt →
    ∃ fault, lengthAt? code offset = some (.error fault)
  uncountable : ∀ gap low high, TableHeader code offset gap low high →
    0x80000000 ≤ high.toInt - low.toInt + 1 →
      ∃ fault, lengthAt? code offset = some (.error fault)

/-- The only bounds out of order that are not refused are those of which the upper one is smaller by
one. -/
theorem measuresOrdered_iff (there : code[offset]? = some Opcode.tableswitch) :
    MeasuresOrdered code offset ↔
      ∀ gap low high, TableHeader code offset gap low high → high.toInt ≠ low.toInt - 1 := by
  constructor
  · intro ordered gap low high header besides
    rcases ordered.reversed gap low high header (by omega) with ⟨fault, refused⟩
    have counted : IsTargetCount low high := by
      rw [IsTargetCount]
      omega
    have measured := (followsFrom_tableHeader there).whole (gap, low, high) header
    rw [refused, countedLength, if_pos counted] at measured
    cases measured
  · intro apart
    refine ⟨?_, ?_, ?_⟩
    · intro length measured
      rcases (lengthAt?_tableswitch_eq_ok_iff there).mp measured with
        ⟨gap, low, high, header, counted, length_eq⟩
      have distance := apart gap low high header
      have nonnegative := counted.nonneg
      exact ⟨gap, low, high, header, by omega, length_eq⟩
    · intro gap low high header reversed
      have distance := apart gap low high header
      have uncounted : ¬IsTargetCount low high := by
        rw [IsTargetCount]
        omega
      exact ⟨.tableRange, (lengthAt?_tableswitch_eq_error_iff there).mpr
        (.inr ⟨rfl, gap, low, high, header, uncounted⟩)⟩
    · intro gap low high header many
      have uncounted : ¬IsTargetCount low high := by
        rw [IsTargetCount]
        omega
      exact ⟨.tableRange, (lengthAt?_tableswitch_eq_error_iff there).mpr
        (.inr ⟨rfl, gap, low, high, header, uncounted⟩)⟩

/-- No number that a machine forms when it measures an instruction is too large for its words. -/
theorem Machine.lengthAt_of_lengthAt? (short : code.length < 0x8000000000000000)
    {measure : Except LengthFault Nat} (measured : lengthAt? code offset = some measure) :
    Machine.lengthAt code offset = measure.mapError .fault := by
  rcases exists_drop_of_lengthAt? measured with ⟨opcode, operands, there, rfl⟩
  exact Machine.lengthAt_of_drop there short

/-- Switches are measured exactly, whatever words stand in their headers, and by a machine without
leaving its words.  Bounds that are out of order are refused throughout if and only if the upper
one is not just below the lower one, in which case the table is empty. -/
theorem switch_lengths (code : Bytes) (offset : Nat) :
    (code[offset]? = some Opcode.tableswitch →
      (∀ length, lengthAt? code offset = some (.ok length) ↔
        ∃ gap low high, TableHeader code offset gap low high ∧
          0 ≤ high.toInt - low.toInt + 1 ∧ high.toInt - low.toInt + 1 < 0x80000000 ∧
          (length : Int) = 13 + gap + 4 * (high.toInt - low.toInt + 1)) ∧
      (∀ fault, lengthAt? code offset = some (.error fault) ↔
        (fault = .headerPastEnd ∧
          ∀ gap, IsGap offset gap → code.length < offset + 1 + gap + 12) ∨
        (fault = .tableRange ∧
          ∃ gap low high, TableHeader code offset gap low high ∧
            ¬(0 ≤ high.toInt - low.toInt + 1 ∧ high.toInt - low.toInt + 1 < 0x80000000))) ∧
      (MeasuresOrdered code offset ↔
        ∀ gap low high, TableHeader code offset gap low high → high.toInt ≠ low.toInt - 1)) ∧
    (code[offset]? = some Opcode.lookupswitch →
      (∀ length, lengthAt? code offset = some (.ok length) ↔
        ∃ gap pairs, PairHeader code offset gap pairs ∧ 0 ≤ pairs.toInt ∧
          (length : Int) = 9 + gap + 8 * pairs.toInt) ∧
      ∀ fault, lengthAt? code offset = some (.error fault) ↔
        (fault = .headerPastEnd ∧
          ∀ gap, IsGap offset gap → code.length < offset + 1 + gap + 8) ∨
        (fault = .pairCount ∧
          ∃ gap pairs, PairHeader code offset gap pairs ∧ pairs.toInt < 0)) ∧
    (code.length < 0x8000000000000000 →
      ∀ measure, lengthAt? code offset = some measure →
        Machine.lengthAt code offset = measure.mapError .fault) := by
  refine ⟨fun there => ⟨fun length => ?_, fun fault => ?_, measuresOrdered_iff there⟩,
    fun there => ⟨fun length => ?_, fun fault => ?_⟩,
    fun short measure => Machine.lengthAt_of_lengthAt? short⟩
  · simp only [lengthAt?_tableswitch_eq_ok_iff there, IsTargetCount, and_assoc]
  · exact lengthAt?_tableswitch_eq_error_iff there
  · exact lengthAt?_lookupswitch_eq_ok_iff there
  · exact lengthAt?_lookupswitch_eq_error_iff there

theorem switch_lengths_siteShapes :
    (∃ gap low high, TableHeader (layoutFrom 0 siteShapes) 1 gap low high ∧
      (23 : Int) = 13 + gap + 4 * (high.toInt - low.toInt + 1)) ∧
    (∃ gap pairs, PairHeader (layoutFrom 0 siteShapes) 24 gap pairs ∧
      (20 : Int) = 9 + gap + 8 * pairs.toInt) ∧
    Machine.lengthAt (layoutFrom 0 siteShapes) 1 = .ok 23 := by
  obtain ⟨table, -, machine⟩ := switch_lengths (layoutFrom 0 siteShapes) 1
  obtain ⟨-, lookup, -⟩ := switch_lengths (layoutFrom 0 siteShapes) 24
  have tableMeasured : lengthAt? (layoutFrom 0 siteShapes) 1 = some (.ok 23) := by decide +kernel
  have lookupMeasured : lengthAt? (layoutFrom 0 siteShapes) 24 = some (.ok 20) := by decide +kernel
  obtain ⟨gap, low, high, header, -, -, length_eq⟩ :=
    ((table (by decide +kernel)).1 23).mp tableMeasured
  obtain ⟨lookupGap, pairs, pairHeader, -, pairLength⟩ :=
    ((lookup (by decide +kernel)).1 20).mp lookupMeasured
  exact ⟨⟨gap, low, high, header, length_eq⟩, ⟨lookupGap, pairs, pairHeader, pairLength⟩,
    machine (by decide +kernel) _ tableMeasured⟩

/-- A `tableswitch` whose bounds are 1 and 0. -/
def emptyTable : Bytes :=
  [Opcode.tableswitch, 0x00, 0x00, 0x00,  -- the gap
   0x00, 0x00, 0x00, 0x00,                -- the other target
   0x00, 0x00, 0x00, 0x01,                -- the lower bound
   0x00, 0x00, 0x00, 0x00]                -- the upper bound

theorem not_measuresOrdered_emptyTable : ¬MeasuresOrdered emptyTable 0 := by
  intro ordered
  have low : WordAt emptyTable 8 1 :=
    ⟨emptyTable.take 8, emptyTable.drop 12, by decide, by decide⟩
  have high : WordAt emptyTable 12 0 :=
    ⟨emptyTable.take 12, [], by decide, by decide⟩
  have header : TableHeader emptyTable 0 3 1 0 := ⟨⟨by decide, by decide⟩, low, high⟩
  obtain ⟨fault, refused⟩ := ordered.reversed 3 1 0 header (by decide)
  -- The table counts no targets, so that the switch is as long as its header.
  have measured : lengthAt? emptyTable 0 = some (.ok 16) := by decide +kernel
  rw [measured] at refused
  cases refused

end Bytecode

end CallGraph
