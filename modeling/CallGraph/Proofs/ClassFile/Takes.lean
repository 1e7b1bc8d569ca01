import CallGraph.ClassFile.Decoder
import CallGraph.Proofs.Bytes

/-!
# What decoders take

A decoder takes a value from a block of bytes when it does so whatever stands behind the block.
Blocks follow each other as decoders do, so that a decoder of a whole file is followed part by part
through the bytes that were written for it.
-/

namespace CallGraph

namespace ClassFile

namespace Decoder

variable {α β : Type}

/-- A decoder takes a value from a block and leaves what stands behind the block. -/
def Takes (decoder : Decoder α) (bytes : Bytes) (value : α) : Prop :=
  ∀ length rest, decoder length (bytes ++ rest) = .ok (value, rest)

/-- A decoder takes a value from the last bytes of a file. -/
def Ends (decoder : Decoder α) (bytes : Bytes) (value : α) : Prop :=
  ∀ length, decoder length bytes = .ok (value, [])

/-- What follows a decoder starts from what the decoder has left. -/
theorem bind_eq_of_ok {first : Decoder α} {next : α → Decoder β} {length : Nat} {left later : Bytes}
    {value : α} (taken : first length left = .ok (value, later)) :
    (first >>= next) length left = next value length later := by
  change Decoder.bind first next length left = _
  rw [Decoder.bind, taken]

theorem takes_pure (value : α) : Takes (pure value) [] value :=
  fun _ _ => rfl

theorem Takes.bind {first : Decoder α} {next : α → Decoder β} {bytes more : Bytes} {value : α}
    {result : β} (taken : Takes first bytes value) (then_ : Takes (next value) more result) :
    Takes (first >>= next) (bytes ++ more) result := by
  intro length rest
  rw [List.append_assoc, bind_eq_of_ok (taken length (more ++ rest))]
  exact then_ length rest

/-- A decoder that takes nothing may follow without a block of its own. -/
theorem Takes.bind_nil {first : Decoder α} {next : α → Decoder β} {bytes : Bytes} {value : α}
    {result : β} (taken : Takes first bytes value) (then_ : Takes (next value) [] result) :
    Takes (first >>= next) bytes result := by
  have both := taken.bind then_
  rwa [List.append_nil] at both

/-- A value that is made of what was taken takes no bytes of its own. -/
theorem Takes.map {decoder : Decoder α} {bytes : Bytes} {value : α}
    (taken : Takes decoder bytes value) (function : α → β) :
    Takes (decoder >>= fun value => pure (function value)) bytes (function value) :=
  taken.bind_nil (takes_pure (function value))

theorem Takes.bind_ends {first : Decoder α} {next : α → Decoder β} {bytes more : Bytes} {value : α}
    {result : β} (taken : Takes first bytes value) (ends : Ends (next value) more result) :
    Ends (first >>= next) (bytes ++ more) result := by
  intro length
  rw [bind_eq_of_ok (taken length more)]
  exact ends length

theorem ends_finish (value : α) : Ends (finish >>= fun _ => pure value) [] value :=
  fun _ => rfl

/-- The value of a decoder that ends with the file is that of the file. -/
theorem Ends.run_eq {decoder : Decoder α} {file : Bytes} {value : α}
    (ends : Ends decoder file value) : decoder.run file = .ok value := by
  rw [run, ends]

theorem takes_number (bytes : Bytes) {width : Nat} (sized : bytes.length = width) :
    Takes (number width) bytes (Bytes.toNatBE bytes) := by
  intro length rest
  subst sized
  rw [number, Bytes.slice?_zero_append, List.drop_left]

theorem takes_number_of_lt (width : Nat) {value : Nat} (fits : value < Nat.pow 256 width) :
    Takes (number width) (Bytes.ofNatBE width value) value := by
  have taken := takes_number _ (Bytes.length_ofNatBE width value)
  rwa [Bytes.toNatBE_ofNatBE_of_lt fits] at taken

theorem takes_u1 (value : UInt8) : Takes u1 [value] value := by
  have taken := (takes_number [value] rfl).map UInt8.ofNat
  have read : UInt8.ofNat (Bytes.toNatBE [value]) = value := by simp [Bytes.toNatBE]
  rwa [read] at taken

theorem takes_u2 (value : UInt16) : Takes u2 (Bytes.ofNatBE 2 value.toNat) value := by
  have taken := (takes_number_of_lt 2 value.toNat_lt).map UInt16.ofNat
  rwa [UInt16.ofNat_toNat] at taken

theorem takes_u4 (value : UInt32) : Takes u4 (Bytes.ofNatBE 4 value.toNat) value := by
  have taken := (takes_number_of_lt 4 value.toNat_lt).map UInt32.ofNat
  rwa [UInt32.ofNat_toNat] at taken

theorem takes_skip {widths : List Nat} {bytes : Bytes}
    (sized : bytes.length = widths.foldr (· + ·) 0) : Takes (skip widths) bytes () := by
  induction widths generalizing bytes with
  | nil =>
      obtain rfl := List.length_eq_zero_iff.mp sized
      exact takes_pure ()
  | cons width widths ih =>
      rw [List.foldr_cons] at sized
      have first : Takes (number width) (bytes.take width) (Bytes.toNatBE (bytes.take width)) :=
        takes_number _ (by simp; omega)
      have rest : Takes (skip widths) (bytes.drop width) () := ih (by simp; omega)
      have both : Takes (skip (width :: widths)) (bytes.take width ++ bytes.drop width) () :=
        first.bind rest
      rwa [List.take_append_drop] at both

theorem takes_block (bytes : Bytes) : Takes (block bytes.length) bytes bytes := by
  intro length rest
  have required : require bytes.length length (bytes ++ rest) = .ok ((), bytes ++ rest) := by
    rw [require, Bytes.slice?_zero_append]
  refine (bind_eq_of_ok required).trans ?_
  change Except.ok ((bytes ++ rest).take bytes.length, (bytes ++ rest).drop bytes.length) = _
  rw [List.take_left, List.drop_left]

theorem takes_times {item : Decoder β} {values : List α} (encode : α → Bytes) (decoded : α → β)
    (takes : ∀ value ∈ values, Takes item (encode value) (decoded value)) :
    Takes (item.times values.length) (values.flatMap encode) (values.map decoded) := by
  induction values with
  | nil => exact takes_pure []
  | cons value values ih =>
      have first := takes value List.mem_cons_self
      have rest := ih fun other member => takes other (List.mem_cons_of_mem value member)
      exact first.bind (rest.map (decoded value :: ·))

/-- A table is taken whose entries are taken one by one, if their count fits into two bytes. -/
theorem takes_table {item : Decoder β} {values : List α} (encode : α → Bytes) (decoded : α → β)
    (counted : values.length < 0x10000)
    (takes : ∀ value ∈ values, Takes item (encode value) (decoded value)) :
    Takes (table item) (Bytes.ofNatBE 2 values.length ++ values.flatMap encode)
      (values.map decoded) := by
  have count := takes_u2 (UInt16.ofNat values.length)
  have read : (UInt16.ofNat values.length).toNat = values.length :=
    UInt16.toNat_ofNat_of_lt' counted
  rw [read] at count
  refine count.bind ?_
  rw [read]
  exact takes_times encode decoded takes

theorem takes_table_nil (item : Decoder α) : Takes (table item) (Bytes.ofNatBE 2 0) [] := by
  have counted : ([] : List α).length < 0x10000 := Nat.zero_lt_succ _
  exact @takes_table α α item [] (fun _ => []) id counted (List.forall_mem_nil _)

end Decoder

end ClassFile

end CallGraph
