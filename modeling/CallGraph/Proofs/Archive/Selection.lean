import CallGraph.Archive.ClassEntry
import CallGraph.Assembler
import CallGraph.Fallible
import Mathlib.Data.List.DropRight

/-!
# Class files of an archive that was written

An archive of entries with different names is read back entry by entry: what is returned are the
entries that are named like class files and accepted by the filter, in order, with their contents.

The description of a module is meant to be left out by its file name, which is what stands behind
the last slash.  The end of the whole name is looked at instead.  So a class whose file name merely
ends like that of a description is left out as well; that is the only difference.
-/

namespace CallGraph

namespace Archive

/-- The last component of a path: what stands behind its last slash. -/
def fileName (path : String) : String :=
  String.ofList (path.toList.rtakeWhile (· != '/'))

/-- What ends in a text without slashes has a file name that ends in it, and the other way round. -/
theorem endsIn_fileName {path ending : String} (whole : '/' ∉ ending.toList) :
    endsIn (fileName path) ending = endsIn path ending := by
  have inside : ∀ letter ∈ ending.toList.reverse, (letter != '/') = true := by
    intro letter member
    rw [bne_iff_ne]
    rintro rfl
    exact whole (List.mem_reverse.mp member)
  rw [Bool.eq_iff_iff, endsIn, endsIn, fileName, String.toList_ofList,
    List.isSuffixOf_iff_suffix, List.isSuffixOf_iff_suffix]
  constructor
  · intro ends
    exact ends.trans (List.rtakeWhile_suffix _ _)
  · rintro ⟨front, path_eq⟩
    rw [← path_eq, List.rtakeWhile, List.reverse_append, List.takeWhile_append_of_pos inside,
      List.reverse_append, List.reverse_reverse]
    exact List.suffix_append _ _

theorem endsIn_trans {text middle ending : String} (first : endsIn text middle = true)
    (second : endsIn middle ending = true) : endsIn text ending = true := by
  rw [endsIn, List.isSuffixOf_iff_suffix] at first second ⊢
  exact second.trans first

/-- Whether a path names a class: no directory, with the ending of class files, and not by its file
name the description of a module. -/
def namesClass (path : String) : Bool :=
  !isDirectoryName path && endsIn path classSuffix && fileName path != moduleSuffix

/-- Whether the file name of a path ends like that of the description of a module without being
it. -/
def resemblesModule (path : String) : Bool :=
  endsIn (fileName path) moduleSuffix && fileName path != moduleSuffix

theorem isDirectoryName_eq_false {path : String} (ends : endsIn path classSuffix = true) :
    isDirectoryName path = false := by
  rw [endsIn, List.isSuffixOf_iff_suffix] at ends
  obtain ⟨front, path_eq⟩ := ends
  rw [isDirectoryName, ← path_eq]
  simp [classSuffix]

/-- What resembles the description of a module names a class. -/
theorem namesClass_of_resemblesModule {path : String} (resembles : resemblesModule path = true) :
    namesClass path = true := by
  rw [resemblesModule, Bool.and_eq_true, endsIn_fileName (by decide)] at resembles
  have ends : endsIn path classSuffix = true := endsIn_trans resembles.1 (by decide)
  rw [namesClass, isDirectoryName_eq_false ends, ends, resembles.2]
  rfl

/-- Class files are selected by name unless they resemble the description of a module. -/
theorem isClassName_eq (path : String) :
    isClassName path = (namesClass path && !resemblesModule path) := by
  rw [isClassName, namesClass, resemblesModule, endsIn_fileName (by decide)]
  cases ends : endsIn path classSuffix with
  | false => simp
  | true =>
      rw [isDirectoryName_eq_false ends]
      by_cases same : fileName path = moduleSuffix
      · have described : endsIn path moduleSuffix = true := by
          rw [← endsIn_fileName (by decide), same]
          decide
        simp [same, described]
      · have other : (fileName path != moduleSuffix) = true := bne_iff_ne.mpr same
        rw [other]
        simp

/-- Entries to be written, each with its name and its contents. -/
abbrev Entries := List (String × Bytes)

/-- The class files of the entries that are wanted by name, in order. -/
def Entries.classFiles (entries : Entries) (isWanted : String → Bool) : List ClassEntry :=
  (entries.filter fun entry => isWanted entry.1).map fun entry => ⟨entry.1, entry.2⟩

/-- The member that an entry is written as. -/
def memberOf (entry : String × Bytes) : Member :=
  .stored entry.1 (if isDirectoryName entry.1 then [] else entry.2)

theorem classEntry_memberOf {entry : String × Bytes} (isClass : isClassName entry.1 = true) :
    (memberOf entry).classEntry = .ok ⟨entry.1, entry.2⟩ := by
  rw [isClassName, Bool.and_eq_true] at isClass
  rw [memberOf, isDirectoryName_eq_false isClass.1, Member.classEntry, Member.contents_stored]
  rfl

/-- Of written entries, those are returned that are selected by name and accepted by the filter. -/
theorem classEntries_memberOf (entries : Entries) (filter : IdentifierFilter) :
    classEntries ⟨entries.map memberOf⟩ filter =
      .ok (entries.classFiles fun path => isClassName path && filter.accepts (dotted path)) := by
  rw [classEntries, selected, List.filter_map, Fallible.mapM_eq_ok_iff, Entries.classFiles,
    List.map_map, List.map_map]
  apply List.map_congr_left
  intro entry member
  have selected : (isClassName entry.1 && filter.accepts (dotted entry.1)) = true :=
    (List.mem_filter.mp member).2
  exact classEntry_memberOf (Bool.and_eq_true_iff.mp selected).1

theorem ofEntries?_eq_some {entries : Entries} (distinct : (entries.map (·.1)).Nodup) :
    ofEntries? entries = some ⟨entries.map memberOf⟩ :=
  if_pos distinct

/-- A stricter choice of entries returns the same class files if and only if it wants all that the
other choice wants. -/
theorem classFiles_and_eq_iff (entries : Entries) (first second : String → Bool) :
    entries.classFiles (fun path => first path && second path) = entries.classFiles first ↔
      ∀ entry ∈ entries, first entry.1 = true → second entry.1 = true := by
  have apart : ∀ one other : String × Bytes,
      (⟨one.1, one.2⟩ : ClassEntry) = ⟨other.1, other.2⟩ → one = other := by
    intro one other same
    rw [ClassEntry.mk.injEq] at same
    exact Prod.ext same.1 same.2
  have nested : entries.filter (fun entry => first entry.1 && second entry.1) =
      (entries.filter fun entry => first entry.1).filter fun entry => second entry.1 := by
    simp only [List.filter_filter, Bool.and_comm]
  rw [Entries.classFiles, Entries.classFiles, List.map_inj_right apart, nested,
    List.filter_eq_self]
  simp only [List.mem_filter, and_imp]

/-! ## Classes whose names resemble the description of a module -/

/-- Entries are written, and what is returned of them are the classes that the filter accepts. -/
def ReturnsClasses (entries : Entries) (filter : IdentifierFilter) : Prop :=
  ∃ archive, ofEntries? entries = some archive ∧
    archive.classEntries filter =
      .ok (entries.classFiles fun path => namesClass path && filter.accepts (dotted path))

/-- What is returned of entries with different names are the classes that the filter accepts, in
order, apart from those that resemble the description of a module. -/
theorem classEntries_of_distinct (entries : Entries) (filter : IdentifierFilter)
    (distinct : (entries.map (·.1)).Nodup) :
    (∃ archive, ofEntries? entries = some archive ∧
      archive.members.map Member.name = entries.map (·.1) ∧
      archive.classEntries filter =
        .ok (entries.classFiles fun path =>
          namesClass path && filter.accepts (dotted path) && !resemblesModule path)) ∧
    (ReturnsClasses entries filter ↔
      ∀ entry ∈ entries, resemblesModule entry.1 = true →
        filter.accepts (dotted entry.1) = false) := by
  have read : classEntries ⟨entries.map memberOf⟩ filter =
      .ok (entries.classFiles fun path =>
        namesClass path && filter.accepts (dotted path) && !resemblesModule path) := by
    rw [classEntries_memberOf]
    simp only [isClassName_eq, Bool.and_right_comm]
  refine ⟨⟨_, ofEntries?_eq_some distinct, ?_, read⟩, ?_⟩
  · rw [List.map_map]
    rfl
  · have returns : ReturnsClasses entries filter ↔
        classEntries ⟨entries.map memberOf⟩ filter =
          .ok (entries.classFiles fun path => namesClass path && filter.accepts (dotted path)) := by
      rw [ReturnsClasses, ofEntries?_eq_some distinct]
      simp
    rw [returns, read, Except.ok.injEq, classFiles_and_eq_iff entries
      (fun path => namesClass path && filter.accepts (dotted path)) fun path =>
        !resemblesModule path]
    constructor
    · intro kept entry member resembles
      have named := namesClass_of_resemblesModule resembles
      have lost := kept entry member
      rw [named, resembles] at lost
      simpa using lost
    · intro refused entry member wanted
      rw [Bool.and_eq_true] at wanted
      rw [Bool.not_eq_true', Bool.eq_false_iff]
      intro resembles
      rw [refused entry member resembles] at wanted
      exact absurd wanted.2 Bool.false_ne_true

/-- A directory, two classes, the description of a module and a text. -/
def mixedEntries : Entries :=
  [("pkg.class/", [1]), ("pkg/Z.class", [2]), ("META-INF/versions/9/module-info.class", [3]),
    ("pkg/notes.txt", [4]), ("pkg/A.class", [5])]

theorem classEntries_of_distinct_mixedEntries :
    ReturnsClasses mixedEntries .acceptAll ∧
      mixedEntries.classFiles (fun path =>
          namesClass path && IdentifierFilter.acceptAll.accepts (dotted path)) =
        [⟨"pkg/Z.class", [2]⟩, ⟨"pkg/A.class", [5]⟩] :=
  ⟨(classEntries_of_distinct mixedEntries .acceptAll (by decide)).2.mpr (by decide),
    by decide⟩

/-- A class whose file name ends like that of the description of a module. -/
def resemblingEntries : Entries :=
  [("pkg/xmodule-info.class", (Assembler.assemble "pkg/xmodule-info" []).2)]

theorem not_returnsClasses_resemblingEntries :
    (resemblingEntries.map (·.1)).Nodup ∧ ¬ReturnsClasses resemblingEntries .acceptAll := by
  have distinct : (resemblingEntries.map (·.1)).Nodup := by decide
  refine ⟨distinct, ?_⟩
  rintro ⟨archive, written, read⟩
  rw [ofEntries?_eq_some distinct, Option.some.injEq] at written
  rw [← written, classEntries_memberOf, Except.ok.injEq] at read
  -- One class is wanted and none is returned.
  have lengths := congrArg List.length read
  revert lengths
  decide

end Archive

end CallGraph
