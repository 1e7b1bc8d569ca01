import CallGraph.Bytes

/-!
# Reading what was written

A number that was written in a fixed width is read back from the place where it stands, whatever
stands in front of it and behind it.  Numbers with a sign are written as two's complement.
-/

namespace CallGraph

namespace Bytes

theorem slice?_append (front block back : Bytes) {start size : Nat}
    (start_eq : front.length = start) (size_eq : block.length = size) :
    slice? start size (front ++ block ++ back) = some block := by
  subst start_eq size_eq
  simp [slice?]

theorem slice?_zero_append (block back : Bytes) :
    slice? 0 block.length (block ++ back) = some block := by
  simpa using slice?_append [] block back rfl rfl

/-- A block inside a string stands behind some bytes and in front of others. -/
theorem exists_append_of_slice? {start size : Nat} {bytes block : Bytes} (positive : 0 < size)
    (cut : slice? start size bytes = some block) :
    block.length = size ∧ ∃ front back, front.length = start ∧ bytes = front ++ block ++ back := by
  rw [slice?] at cut
  split at cut
  · next full =>
    cases cut
    have inside : start ≤ bytes.length := by
      rw [List.length_take, List.length_drop] at full
      omega
    refine ⟨full, bytes.take start, (bytes.drop start).drop size, ?_, ?_⟩
    · rw [List.length_take, Nat.min_eq_left inside]
    · rw [List.append_assoc, List.take_append_drop, List.take_append_drop]
  · contradiction

/-- A block stays where it is when bytes are put behind the string. -/
theorem slice?_append_of_eq_some {start size : Nat} {bytes block : Bytes} (positive : 0 < size)
    (cut : slice? start size bytes = some block) (rest : Bytes) :
    slice? start size (bytes ++ rest) = some block := by
  rcases exists_append_of_slice? positive cut with ⟨size_eq, front, back, start_eq, rfl⟩
  rw [List.append_assoc]
  exact slice?_append front block (back ++ rest) start_eq size_eq

/-- A number that fits into its width is read back as it was written. -/
theorem toNatBE_ofNatBE_of_lt {width number : Nat} (fits : number < Nat.pow 256 width) :
    toNatBE (ofNatBE width number) = number := by
  rw [toNatBE_ofNatBE, Nat.mod_eq_of_lt fits]

theorem toNatLE_ofNatLE_of_lt (width : Nat) {number : Nat} (fits : number < Nat.pow 256 width) :
    toNatLE (ofNatLE width number) = number := by
  rw [toNatLE_ofNatLE, Nat.mod_eq_of_lt fits]

theorem ofNatBE_toNatBE (bytes : Bytes) : ofNatBE bytes.length (toNatBE bytes) = bytes := by
  induction width : bytes.length generalizing bytes with
  | zero => exact (List.length_eq_zero_iff.mp width).symm
  | succ width ih =>
      rcases bytes.eq_nil_or_concat with rfl | ⟨front, last, rfl⟩
      · contradiction
      · rw [List.concat_eq_append] at width ⊢
        rw [List.length_append, List.length_singleton, Nat.succ_inj] at width
        have small := last.toNat_lt
        have digits : (256 * toNatBE front + last.toNat) / 256 = toNatBE front := by omega
        have digit : UInt8.ofNat (256 * toNatBE front + last.toNat) = last := by
          apply UInt8.toNat_inj.mp
          rw [UInt8.toNat_ofNat']
          omega
        rw [toNatBE_append_singleton, ofNatBE, digits, digit, ih front width]

theorem toNatBE_lt (bytes : Bytes) : toNatBE bytes < Nat.pow 256 bytes.length := by
  have same := toNatBE_ofNatBE bytes.length (toNatBE bytes)
  rw [ofNatBE_toNatBE] at same
  rw [same]
  exact Nat.mod_lt _ (Nat.pow_pos (by decide))

/-- A signed number in four bytes. -/
def ofInt32 (value : Int32) : Bytes :=
  ofNatBE 4 value.toUInt32.toNat

@[simp]
theorem length_ofInt32 (value : Int32) : (ofInt32 value).length = 4 :=
  length_ofNatBE 4 _

/-- Two's complement of four bytes is read back with its sign. -/
@[simp]
theorem toIntBE_ofInt32 (value : Int32) : toIntBE (ofInt32 value) = value.toInt := by
  have fits : value.toUInt32.toNat < Nat.pow 256 4 := value.toUInt32.toNat_lt
  rw [toIntBE, length_ofInt32, ofInt32, toNatBE_ofNatBE_of_lt fits]
  have power : Nat.pow 256 4 = 2 ^ 32 := by decide
  rw [power]
  exact (BitVec.toInt_eq_toNat_bmod value.toBitVec).symm

theorem exists_ofInt32_eq {bytes : Bytes} (size : bytes.length = 4) :
    ∃ value, ofInt32 value = bytes := by
  have fits : toNatBE bytes < UInt32.size := by
    rw [← show Nat.pow 256 4 = UInt32.size by decide, ← size]
    exact toNatBE_lt bytes
  refine ⟨(UInt32.ofNat (toNatBE bytes)).toInt32, ?_⟩
  rw [ofInt32, UInt32.toUInt32_toInt32, UInt32.toNat_ofNat_of_lt' fits, ← size, ofNatBE_toNatBE]

/-- A number below the sign bit is read back as it was written. -/
theorem toIntBE_ofNatBE_of_lt {number : Nat} (fits : number < 0x80000000) :
    toIntBE (ofNatBE 4 number) = number := by
  have wide : number < Nat.pow 256 4 := Nat.lt_trans fits (by decide)
  rw [toIntBE, length_ofNatBE, toNatBE_ofNatBE_of_lt wide]
  have power : Nat.pow 256 4 = 4294967296 := by decide
  rw [power]
  apply Int.bmod_eq_of_le <;> omega

end Bytes

end CallGraph
