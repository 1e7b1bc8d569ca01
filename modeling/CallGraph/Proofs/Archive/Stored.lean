import CallGraph.Archive.Sample
import CallGraph.Proofs.Bytes

/-!
# Reading a stored member back

The file of an archive with one member is read as the archive of this member.  Each block of the
file is found by the length of what stands in front of it, so that no checksum has to be known.
-/

namespace CallGraph

namespace Archive

theorem block?_eq_some {bytes block : Bytes} {start size : Nat} (front back : Bytes)
    (split : bytes = front ++ block ++ back) (start_eq : start = front.length)
    (size_eq : size = block.length) : block? bytes.toArray start size = some block := by
  subst split start_eq size_eq
  have inside : front.length + block.length ≤ (front ++ block ++ back).toArray.size := by
    simp
  rw [block?, if_pos inside]
  simp [List.extract_eq_take_drop, List.append_assoc]

theorem signed?_eq_some {signature bytes block : Bytes} {start size : Nat} (front back : Bytes)
    (split : bytes = front ++ block ++ back) (start_eq : start = front.length)
    (size_eq : size = block.length) (begins : block.take 4 = signature) :
    signed? signature bytes.toArray start size = some block := by
  rw [signed?, block?_eq_some front back split start_eq size_eq]
  exact if_pos begins

/-- No block reaches behind the end of a file. -/
theorem signed?_eq_none {signature : Bytes} {file : File} {start size : Nat}
    (short : file.size < start + size) : signed? signature file start size = none := by
  rw [signed?, block?, if_neg (Nat.not_le_of_lt short)]
  rfl

theorem readLastRecord_add {file : File} {start : Nat} (last : file.size ≤ start + 21)
    (count : Nat) : readLastRecord file (start + count) = readLastRecord file start := by
  induction count with
  | zero => rfl
  | succ count ih =>
      have short : file.size < start + count + 22 := by omega
      have nothing : readRecord file (start + count) = none := by
        rw [readRecord, signed?_eq_none short]
        rfl
      rw [← Nat.add_assoc, readLastRecord, nothing]
      exact ih

/-- A record that ends where the file ends is the last one. -/
theorem ofBytes?_of_readRecord {bytes : Bytes} {archive : Archive} {start : Nat}
    (read : readRecord bytes.toArray start = some archive) (ends : bytes.length = start + 22) :
    ofBytes? bytes = some archive := by
  have last : bytes.toArray.size ≤ start + 1 + 21 := Nat.le_of_eq ends
  have found : readLastRecord bytes.toArray (start + 1) = some archive := by
    rw [readLastRecord, read]
  rw [ofBytes?, ends, ← found]
  exact readLastRecord_add last 21

/-! ## The file of one member -/

/-- What both headers of a stored member say. -/
def storedFields (label contents : Bytes) : Bytes :=
  Bytes.ofNatLE 2 20 ++ List.replicate 6 0 ++ Bytes.ofNatLE 2 0x21 ++
    Bytes.ofNatLE 4 (Checksum.ofBytes contents).toNat ++ Bytes.ofNatLE 4 contents.length ++
    Bytes.ofNatLE 4 contents.length ++ Bytes.ofNatLE 2 label.length ++ Bytes.ofNatLE 2 0

/-- The header in front of a stored member, without its name. -/
def localHeader (label contents : Bytes) : Bytes :=
  localSignature ++ storedFields label contents

/-- The header of a stored member in the directory, without its name. -/
def directoryHeader (label contents : Bytes) : Bytes :=
  directorySignature ++ Bytes.ofNatLE 2 20 ++ storedFields label contents ++ List.replicate 14 0

/-- The record of an archive with one member, whose directory has a size and an offset. -/
def endRecord (size offset : Nat) : Bytes :=
  endSignature ++ List.replicate 4 0 ++ Bytes.ofNatLE 2 1 ++ Bytes.ofNatLE 2 1 ++
    Bytes.ofNatLE 4 size ++ Bytes.ofNatLE 4 offset ++ Bytes.ofNatLE 2 0

theorem length_localHeader (label contents : Bytes) : (localHeader label contents).length = 30 :=
  rfl

theorem length_directoryHeader (label contents : Bytes) :
    (directoryHeader label contents).length = 46 :=
  rfl

theorem length_endRecord (size offset : Nat) : (endRecord size offset).length = 22 :=
  rfl

theorem storedFile_eq (name : String) (contents : Bytes) :
    storedFile name contents =
      localHeader (Bytes.ofString name) contents ++ Bytes.ofString name ++ contents ++
        (directoryHeader (Bytes.ofString name) contents ++ Bytes.ofString name) ++
        endRecord (directoryHeader (Bytes.ofString name) contents ++ Bytes.ofString name).length
          (localHeader (Bytes.ofString name) contents ++ Bytes.ofString name ++
            contents).length := by
  simp only [storedFile, localHeader, directoryHeader, endRecord, storedFields, List.append_assoc]

theorem memberData_append {label : Bytes} (short : label.length < 0x10000)
    (contents back : Bytes) :
    memberData (localHeader label contents ++ label ++ contents ++ back).toArray 0
      contents.length = some contents := by
  have header : signed? localSignature
      (localHeader label contents ++ label ++ contents ++ back).toArray 0 30 =
        some (localHeader label contents) :=
    signed?_eq_some [] (label ++ contents ++ back)
      (by simp only [List.nil_append, List.append_assoc]) rfl rfl rfl
  have name : field (localHeader label contents) 26 2 = label.length :=
    Bytes.toNatLE_ofNatLE_of_lt 2 short
  have extra : field (localHeader label contents) 28 2 = 0 := rfl
  have start : 0 + 30 + label.length + 0 = (localHeader label contents ++ label).length := by
    rw [List.length_append, length_localHeader, Nat.zero_add, Nat.add_zero]
  rw [memberData, header]
  simp only [Option.bind_eq_bind, Option.bind_some, name, extra, start]
  simp [List.extract_eq_take_drop]

theorem applyExtra_nil (extent : Extent) : extent.applyExtra [] = some extent := by
  rw [Extent.applyExtra, if_pos (by decide)]

/-- The header of a stored member leads to its data. -/
theorem readHeader_append {label contents front back : Bytes} (shortLabel : label.length < 0x10000)
    (short : contents.length < 0x100000000)
    (data : memberData (front ++ (directoryHeader label contents ++ label) ++ back).toArray 0
      contents.length = some contents) :
    readHeader (front ++ (directoryHeader label contents ++ label) ++ back).toArray 0
        front.length =
      some (⟨memberName 0 label, false, Member.storedMethod, Checksum.ofBytes contents,
        some contents⟩, front.length + 46 + label.length) := by
  have header : signed? directorySignature
      (front ++ (directoryHeader label contents ++ label) ++ back).toArray front.length 46 =
        some (directoryHeader label contents) :=
    signed?_eq_some front (label ++ back) (by simp only [List.append_assoc]) rfl rfl rfl
  have named : block? (front ++ (directoryHeader label contents ++ label) ++ back).toArray
      (front.length + 46) label.length = some label :=
    block?_eq_some (front ++ directoryHeader label contents) back
      (by simp only [List.append_assoc]) (by rw [List.length_append, length_directoryHeader]) rfl
  have nothing : block? (front ++ (directoryHeader label contents ++ label) ++ back).toArray
      (front.length + 46 + label.length) 0 = some [] :=
    block?_eq_some (front ++ (directoryHeader label contents ++ label)) back
      (by rw [List.append_nil])
      (by rw [List.length_append, List.length_append, length_directoryHeader, Nat.add_assoc]) rfl
  have flags : field (directoryHeader label contents) 8 2 = 0 := rfl
  have method : field (directoryHeader label contents) 10 2 = Member.storedMethod := rfl
  have checksum : field (directoryHeader label contents) 16 4 =
      (Checksum.ofBytes contents).toNat :=
    Bytes.toNatLE_ofNatLE_of_lt 4 (Checksum.ofBytes contents).toNat_lt
  have size : field (directoryHeader label contents) 20 4 = contents.length :=
    Bytes.toNatLE_ofNatLE_of_lt 4 short
  have restoredSize : field (directoryHeader label contents) 24 4 = contents.length :=
    Bytes.toNatLE_ofNatLE_of_lt 4 short
  have name : field (directoryHeader label contents) 28 2 = label.length :=
    Bytes.toNatLE_ofNatLE_of_lt 2 shortLabel
  have extra : field (directoryHeader label contents) 30 2 = 0 := rfl
  have comment : field (directoryHeader label contents) 32 2 = 0 := rfl
  have offset : field (directoryHeader label contents) 42 4 = 0 := rfl
  rw [readHeader, header]
  simp only [Option.bind_eq_bind, Option.bind_some, name, named, extra, comment, nothing,
    List.length_nil, Nat.add_zero, applyExtra_nil, size, restoredSize, offset, data, checksum,
    UInt32.ofNat_toNat, flags, method]
  rfl

/-- An archive starts where its file does if its first header stands where the record says. -/
theorem origin?_append (front header back : Bytes) :
    origin? (front ++ (directorySignature ++ header) ++ back).toArray
      (front ++ (directorySignature ++ header)).length front.length = some 0 := by
  have found : signed? directorySignature
      (front ++ (directorySignature ++ header) ++ back).toArray front.length 4 =
        some directorySignature :=
    signed?_eq_some front (header ++ back) (by simp only [List.append_assoc]) rfl rfl rfl
  have length : (front ++ (directorySignature ++ header)).length =
      front.length + (header.length + 3 + 1) := by
    rw [List.length_append, List.length_append, Nat.add_comm directorySignature.length]
    rfl
  rw [origin?, length, if_neg (by omega), Nat.add_sub_cancel_left, findSignature, found]
  simp

/-- The record of one header leads to its member. -/
theorem readRecord_append {front header : Bytes} {member : Member} {position : Nat}
    (begins : ∃ rest, header = directorySignature ++ rest) (short : front.length < 0x100000000)
    (read : readHeader (front ++ header ++ endRecord header.length front.length).toArray 0
      front.length = some (member, position)) :
    readRecord (front ++ header ++ endRecord header.length front.length).toArray
      (front ++ header).length = some ⟨[member]⟩ := by
  have record : signed? endSignature
      (front ++ header ++ endRecord header.length front.length).toArray (front ++ header).length
      22 = some (endRecord header.length front.length) :=
    signed?_eq_some (front ++ header) [] (List.append_nil _).symm rfl rfl rfl
  have nothing : block? (front ++ header ++ endRecord header.length front.length).toArray
      ((front ++ header).length + 22) 0 = some [] :=
    block?_eq_some (front ++ header ++ endRecord header.length front.length) []
      (by rw [List.append_nil, List.append_nil])
      (by rw [@List.length_append _ (front ++ header), length_endRecord]) rfl
  have disk : field (endRecord header.length front.length) 4 2 = 0 := rfl
  have directoryDisk : field (endRecord header.length front.length) 6 2 = 0 := rfl
  have countHere : field (endRecord header.length front.length) 8 2 = 1 := rfl
  have count : field (endRecord header.length front.length) 10 2 = 1 := rfl
  have offset : field (endRecord header.length front.length) 16 4 = front.length :=
    Bytes.toNatLE_ofNatLE_of_lt 4 short
  have comment : field (endRecord header.length front.length) 20 2 = 0 := rfl
  have origin : origin? (front ++ header ++ endRecord header.length front.length).toArray
      (front ++ header).length front.length = some 0 := by
    obtain ⟨rest, rfl⟩ := begins
    exact origin?_append front rest _
  rw [readRecord, record]
  simp only [Option.bind_eq_bind, Option.bind_some, comment, nothing, disk, directoryDisk,
    countHere, count, offset, origin, Nat.one_ne_zero, if_false, Nat.lt_irrefl, ne_eq, not_true,
    or_self, Nat.zero_add, readHeaders, read]
  rfl

/-- The file of an archive with one stored member is read as this archive, if its sizes have room in
their fields and its name is written in characters that the code page has as well. -/
theorem ofBytes?_storedFile {name : String} {contents : Bytes}
    (plain : CodePage437.decode (Bytes.ofString name) = name)
    (shortName : (Bytes.ofString name).length < 0x10000)
    (short : 30 + (Bytes.ofString name).length + contents.length < 0x100000000) :
    ofBytes? (storedFile name contents) = some ⟨[.stored name contents]⟩ := by
  have named : memberName 0 (Bytes.ofString name) = name := by
    rw [memberName, Nat.zero_testBit, if_neg Bool.false_ne_true, plain]
  rw [storedFile_eq]
  generalize Bytes.ofString name = label at shortName short named
  have length : (localHeader label contents ++ label ++ contents).length =
      30 + label.length + contents.length := by
    rw [List.length_append, List.length_append, length_localHeader]
  have begins : ∃ rest, directoryHeader label contents ++ label = directorySignature ++ rest :=
    ⟨Bytes.ofNatLE 2 20 ++ storedFields label contents ++ List.replicate 14 0 ++ label, by
      simp only [directoryHeader, List.append_assoc]⟩
  have data := memberData_append shortName contents
    (directoryHeader label contents ++ label ++
      endRecord (directoryHeader label contents ++ label).length
        (localHeader label contents ++ label ++ contents).length)
  rw [← List.append_assoc] at data
  have member := readHeader_append shortName (by omega) data
  rw [named] at member
  have record := readRecord_append begins (by omega) member
  exact ofBytes?_of_readRecord record (by rw [List.length_append, length_endRecord])

end Archive

end CallGraph
