import CallGraph.Proofs.ClassFile.Halves

/-!
# How long the code of a method can be

The length of code stands in a class file as a number of four bytes.  So code that was decoded,
however deep the attribute lies that holds it, is shorter than what four bytes can count, and any
offset into it is a number of four bytes.
-/

namespace CallGraph

namespace ClassFile

namespace Decoder

variable {α β : Type} {found : α → Prop} {holds : β → Prop}

/-- What follows a decoder may rely on what the decoder yields. -/
theorem Yields.bind {first : Decoder α} {next : α → Decoder β} (yields : first.Yields found)
    (each : ∀ value, found value → (next value).Yields holds) :
    (first >>= next).Yields holds := by
  intro length left rest result taken
  rcases bind_eq_ok_iff.mp taken with ⟨value, later, read, taken⟩
  exact each value (yields read) taken

theorem yields_block (size : Nat) : (block size).Yields (·.length = size) := by
  intro length left rest bytes taken
  rcases bind_eq_ok_iff.mp taken with ⟨_, later, required, taken⟩
  cases taken
  rw [require] at required
  split at required
  · next block cut =>
    cases required
    rw [Bytes.slice?, List.drop_zero] at cut
    split at cut
    · next full => exact full
    · contradiction
  · contradiction

theorem yields_times {item : Decoder α} (each : item.Yields found) (count : Nat) :
    (item.times count).Yields fun values => ∀ value ∈ values, found value := by
  induction count with
  | zero => exact yields_pure (List.forall_mem_nil _)
  | succ count ih =>
      refine each.bind fun first held => ih.bind fun rest others => yields_pure ?_
      exact List.forall_mem_cons.mpr ⟨held, others⟩

theorem yields_table {item : Decoder α} (each : item.Yields found) :
    (table item).Yields fun values => ∀ value ∈ values, found value :=
  yields_bind fun count => yields_times each count.toNat

end Decoder

open Decoder

/-- If an attribute is code, its length is a number of four bytes. -/
def Attribute.IsShort : Attribute → Prop
  | code bytes => bytes.length < 0x100000000
  | bootstrapMethods _ => True
  | other => True

/-- All code among attributes is short. -/
def AllShort (attributes : List Attribute) : Prop :=
  ∀ kept ∈ attributes, kept.IsShort

variable {nested : Decoder (List Attribute)} {pool : ConstantPool}

theorem yields_attributeBody (name : String) (length : Nat) :
    (attributeBody nested name length).Yields Attribute.IsShort := by
  unfold attributeBody
  split
  · refine yields_bind fun _ => yields_bind fun size => ?_
    refine (yields_block size.toNat).bind fun code length_eq => ?_
    refine yields_bind fun _ => yields_bind fun _ => yields_pure ?_
    rw [Attribute.IsShort, length_eq]
    exact size.toNat_lt
  -- Nothing else is read as code.
  all_goals first
    | exact yields_refuse
    | exact yields_pure trivial
    | exact yields_bind fun _ => yields_pure trivial
    | exact yields_bind fun _ => yields_bind fun _ => yields_pure trivial

theorem yields_attributeWith : (attributeWith nested pool).Yields Attribute.IsShort :=
  yields_bind fun _ => yields_bind fun name => yields_bind fun length =>
    yields_attributeBody name length.toNat

/-- All code in a table of attributes is short, however many levels the table may have. -/
theorem yields_attributesAt (depth : Nat) : (attributesAt pool depth).Yields AllShort := by
  cases depth with
  | zero => exact yields_refuse
  | succ depth => exact yields_table yields_attributeWith

theorem yields_attributeTable : (attributeTable pool).Yields AllShort :=
  yields_bind fun left => yields_attributesAt (left + 1)

theorem yields_member : (member pool).Yields fun info => AllShort info.attributes :=
  yields_bind fun _ => yields_bind fun _ => yields_bind fun _ =>
    yields_attributeTable.bind fun _ short => yields_pure short

theorem yields_decoder : decoder.Yields fun file => ∀ info ∈ file.methods,
    AllShort info.attributes := by
  refine yields_bind fun number => ?_
  split
  · refine yields_bind fun _ => yields_bind fun pool => yields_bind fun _ => yields_bind fun _ =>
      yields_bind fun _ => yields_bind fun _ => yields_bind fun _ => ?_
    refine (yields_table yields_member).bind fun methods short => ?_
    exact yields_bind fun _ => yields_bind fun _ => yields_pure short
  · exact yields_refuse

/-- The length of the code of a method is a number of four bytes. -/
theorem length_lt_of_decode {bytes : Bytes} {file : ClassFile} (decoded : decode bytes = .ok file)
    {info : MethodInfo} (declared : info ∈ file.methods) {code : Bytes}
    (first : firstCode? info.attributes = some code) : code.length < 0x100000000 := by
  rcases run_eq_ok_iff.mp decoded with ⟨_, taken⟩
  rcases List.exists_of_findSome?_eq_some first with ⟨kept, member, isCode⟩
  have short := yields_decoder taken info declared kept member
  cases kept with
  | code found =>
      cases isCode
      exact short
  | bootstrapMethods | other => contradiction

end ClassFile

end CallGraph
