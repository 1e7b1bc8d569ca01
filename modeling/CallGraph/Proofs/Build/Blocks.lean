import CallGraph.FileTree
import CallGraph.Proofs.Build.Runs
import Mathlib.Data.List.Forall2

/-!
# Whole blocks

The graph of a list of archives is the blocks of its archives, one after the other, and each block
is written as a whole or not at all.  An archive has no block if one of its selected members cannot
be read, or else if one of them spells no class.  Members are read in order, and the first one that
cannot be read is reported; of those that spell no class it is the one that workers come to first.
-/

namespace CallGraph

/-- A class of an archive, with the name of the member that spells it. -/
structure ArchiveClass where
  entryName : String
  javaClass : JavaClass

/-- Whether a filter selects the member of a class. -/
def ArchiveClass.isSelected (filter : IdentifierFilter) (found : ArchiveClass) : Bool :=
  Archive.isClassName found.entryName && filter.accepts (dotted found.entryName)

/-- The class that a class file spells. -/
def Archive.ClassEntry.decode (entry : Archive.ClassEntry) : Except VisitFault ArchiveClass :=
  entry.javaClass.map (ArchiveClass.mk entry.name)

/-- The classes of the members that a filter selects.  All members are read before the first one is
decoded. -/
def Archive.classes (archive : Archive) (filter : IdentifierFilter) :
    Except VisitFault (List ArchiveClass) := do
  let entries ← (archive.classEntries filter).mapError .unreadable
  entries.mapM Archive.ClassEntry.decode

/-- The block of classes: all their references, then all their calls. -/
def Block.ofClasses (filter : IdentifierFilter) (classes : List ArchiveClass) : Block where
  classes := classes.length
  references := classes.flatMap fun found => found.javaClass.classReferences filter
  calls := classes.flatMap fun found => found.javaClass.methodCalls filter

theorem foldr_cons_eq_ofClasses (filter : IdentifierFilter) (classes : List ArchiveClass) :
    (classes.map ArchiveClass.javaClass).foldr (Block.cons filter) .empty =
      .ofClasses filter classes := by
  induction classes with
  | nil => rfl
  | cons found classes ih =>
      rw [List.map_cons, List.foldr_cons, ih]
      rfl

theorem mapM_javaClass_eq (entries : List Archive.ClassEntry) :
    entries.mapM Archive.ClassEntry.javaClass =
      (entries.mapM Archive.ClassEntry.decode).map (List.map ArchiveClass.javaClass) := by
  induction entries with
  | nil => rfl
  | cons entry entries ih =>
      rw [List.mapM_cons, List.mapM_cons, ih, Archive.ClassEntry.decode]
      cases entry.javaClass with
      | error fault => rfl
      | ok javaClass => cases entries.mapM Archive.ClassEntry.decode <;> rfl

/-- An archive has a block if and only if its classes are found, whatever turns are taken. -/
theorem visit_archive_eq_ok_iff {filter : IdentifierFilter} {turns : Turns} {path : String}
    {archive : Archive} {block? : Option Block} :
    (visit filter turns path (.archive archive)).result = .ok block? ↔
      ∃ classes, archive.classes filter = .ok classes ∧
        some (Block.ofClasses filter classes) = block? := by
  rw [visit, visitArchive, Archive.classes]
  cases archive.classEntries filter with
  | error fault =>
      constructor
      · intro visited
        contradiction
      · rintro ⟨classes, found, -⟩
        contradiction
  | ok entries =>
      simp only [Fallible.map_eq_ok_iff, visitClasses_eq_ok_iff, mapM_javaClass_eq]
      constructor
      · rintro ⟨_, ⟨_, ⟨classes, decoded, rfl⟩, rfl⟩, rfl⟩
        exact ⟨classes, decoded, by rw [foldr_cons_eq_ofClasses]⟩
      · rintro ⟨classes, decoded, rfl⟩
        exact ⟨_, ⟨_, ⟨classes, decoded, rfl⟩, foldr_cons_eq_ofClasses filter classes⟩, rfl⟩

/-! ## Members of an archive -/

namespace Archive

/-- A member can be read and spells a class. -/
def Member.Spells (member : Member) (found : ArchiveClass) : Prop :=
  found.entryName = member.name ∧
    ∃ data, member.contents = .ok data ∧ JavaClass.ofBytes data = .ok found.javaClass

theorem Member.classEntry_eq_ok_iff {member : Member} {entry : ClassEntry} :
    member.classEntry = .ok entry ↔
      entry.name = member.name ∧ member.contents = .ok entry.data := by
  rcases entry with ⟨name, data⟩
  unfold Member.classEntry
  cases member.contents with
  | error cause => simp
  | ok contents => simp [eq_comm]

theorem Member.classEntry_eq_error_iff {member : Member} {fault : EntryFault} :
    member.classEntry = .error fault ↔
      fault.name = member.name ∧ member.contents = .error fault.cause := by
  rcases fault with ⟨name, cause⟩
  unfold Member.classEntry
  cases member.contents with
  | error cause => simp [eq_comm]
  | ok contents => simp

theorem ClassEntry.decode_eq_ok_iff {entry : ClassEntry} {found : ArchiveClass} :
    entry.decode = .ok found ↔
      found.entryName = entry.name ∧ JavaClass.ofBytes entry.data = .ok found.javaClass := by
  rcases found with ⟨name, javaClass⟩
  simp only [ClassEntry.decode, ClassEntry.javaClass, Fallible.map_eq_ok_iff,
    Fallible.mapError_eq_ok_iff, ArchiveClass.mk.injEq]
  constructor
  · rintro ⟨_, decoded, rfl, rfl⟩
    exact ⟨rfl, decoded⟩
  · rintro ⟨rfl, decoded⟩
    exact ⟨_, decoded, rfl, rfl⟩

/-- The class that a member spells. -/
def Member.decode (member : Member) : Except VisitFault ArchiveClass := do
  let entry ← member.classEntry.mapError .unreadable
  entry.decode

theorem Member.decode_eq_ok_iff {member : Member} {found : ArchiveClass} :
    member.decode = .ok found ↔ member.Spells found := by
  simp only [Member.decode, Fallible.bind_eq_ok_iff, Fallible.mapError_eq_ok_iff,
    Member.classEntry_eq_ok_iff, ClassEntry.decode_eq_ok_iff]
  constructor
  · rintro ⟨entry, ⟨name_eq, contents⟩, found_eq, decoded⟩
    exact ⟨found_eq.trans name_eq, entry.data, contents, decoded⟩
  · rintro ⟨found_eq, data, contents, decoded⟩
    exact ⟨⟨member.name, data⟩, ⟨rfl, contents⟩, found_eq, decoded⟩

theorem mapM_decode_eq_ok_iff {members : List Member} {classes : List ArchiveClass} :
    members.mapM Member.decode = .ok classes ↔ List.Forall₂ Member.Spells members classes := by
  rw [Fallible.mapM_eq_ok_iff, ← List.forall₂_eq_eq_eq, List.forall₂_map_left_iff,
    List.forall₂_map_right_iff]
  simp only [Member.decode_eq_ok_iff]

theorem exists_classEntries {archive : Archive} {filter : IdentifierFilter}
    (readable : ∀ member ∈ archive.selected filter, ∃ data, member.contents = .ok data) :
    ∃ entries, archive.classEntries filter = .ok entries := by
  apply Fallible.exists_mapM_eq_ok
  intro member inside
  obtain ⟨data, contents⟩ := readable member inside
  exact ⟨⟨member.name, data⟩, Member.classEntry_eq_ok_iff.mpr ⟨rfl, contents⟩⟩

/-- If all selected members can be read, each may as well be decoded when it is read. -/
theorem classes_eq_mapM {archive : Archive} {filter : IdentifierFilter}
    (readable : ∀ member ∈ archive.selected filter, ∃ data, member.contents = .ok data) :
    archive.classes filter = (archive.selected filter).mapM Member.decode := by
  obtain ⟨entries, read⟩ := exists_classEntries readable
  have reworded := Fallible.mapM_mapError_of_ok VisitFault.unreadable read
  have decoded := Fallible.mapM_bind_of_ok reworded ClassEntry.decode
  rw [Archive.classes, read]
  exact decoded.symm

/-- The classes of an archive are those that the selected members spell, in order. -/
theorem classes_eq_ok_iff {archive : Archive} {filter : IdentifierFilter}
    {classes : List ArchiveClass} :
    archive.classes filter = .ok classes ↔
      List.Forall₂ Member.Spells (archive.selected filter) classes := by
  rw [← mapM_decode_eq_ok_iff]
  constructor
  · intro accepted
    -- All members were read before the first was decoded, so that the two orders agree.
    obtain ⟨entries, read, -⟩ := Fallible.of_bind_eq_ok accepted
    rw [classes_eq_mapM] at accepted
    · exact accepted
    · intro member inside
      obtain ⟨entry, found⟩ :=
        Fallible.exists_of_mapM_eq_ok (Fallible.mapError_eq_ok_iff.mp read) inside
      exact ⟨entry.data, (Member.classEntry_eq_ok_iff.mp found).2⟩
  · intro accepted
    rw [classes_eq_mapM]
    · exact accepted
    · intro member inside
      obtain ⟨found, decoded⟩ := Fallible.exists_of_mapM_eq_ok accepted inside
      obtain ⟨-, data, contents, -⟩ := Member.decode_eq_ok_iff.mp decoded
      exact ⟨data, contents⟩

/-- If members spell classes, an archive has those whose members a filter selects. -/
theorem classes_eq_filter {archive : Archive} {classes : List ArchiveClass}
    (spell : List.Forall₂ Member.Spells archive.members classes) (filter : IdentifierFilter) :
    archive.classes filter = .ok (classes.filter (·.isSelected filter)) := by
  rw [classes_eq_ok_iff, ← mapM_decode_eq_ok_iff]
  rw [← mapM_decode_eq_ok_iff] at spell
  refine Fallible.mapM_filter_eq_ok ?_ spell
  intro member result decoded
  rw [selects, ArchiveClass.isSelected, (Member.decode_eq_ok_iff.mp decoded).1]

/-- If the classes of an archive are found, all their events are reported, those of each class in
order. -/
theorem exists_reports {archive : Archive} {filter : IdentifierFilter}
    {classes : List ArchiveClass} (classes_eq : archive.classes filter = .ok classes)
    (turns : Turns) (path : String) :
    ∃ reports, (visit filter turns path (.archive archive)).events =
        .archiveVisited path classes.length :: reports ∧
      reports.Perm (classes.flatMap fun found => found.javaClass.events) ∧
      ∀ found ∈ classes, found.javaClass.events.Sublist reports := by
  obtain ⟨entries, read, decoded⟩ := Fallible.of_bind_eq_ok classes_eq
  have plain : entries.mapM ClassEntry.javaClass = .ok (classes.map ArchiveClass.javaClass) := by
    rw [mapM_javaClass_eq, decoded]
    rfl
  have count : entries.length = classes.length :=
    (by simpa using congrArg List.length (Fallible.mapM_eq_ok_iff.mp decoded))
  obtain ⟨all, inOrder⟩ : (visitClasses filter turns entries).events.Perm _ ∧ _ :=
    events_visitClasses plain
  rw [List.flatMap_map] at all
  refine ⟨(visitClasses filter turns entries).events, ?_, all, ?_⟩
  · rw [visit, visitArchive, Fallible.mapError_eq_ok_iff.mp read, ← count]
  · exact fun found member => inOrder _ (List.mem_map_of_mem member)

end Archive

/-! ## The graph of a tree -/

/-- The build of the archives at paths of a tree, with all its output. -/
def graph (tree : FileTree) (filter : IdentifierFilter) (paths : List String)
    (schedule : Schedule) : Report Bytes :=
  build (.collecting tree.lookup) filter paths [] schedule

/-- Lines as they are written, each ended by a line feed. -/
def written (lines : List String) : Bytes :=
  lines.flatMap fun line => Bytes.ofString (line ++ "\n")

end CallGraph
