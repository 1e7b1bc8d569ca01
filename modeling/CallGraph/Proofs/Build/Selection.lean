import CallGraph.Proofs.Build.Lines

/-!
# What a filter does not select

A build looks at the members of an archive that are class files by their names and whose dotted
names the filter accepts, and at no others.  Trees whose archives agree in these members, in their
order, in their names and in what is read from them, have the same build, whatever other members
there are and wherever these stand.  An archive is read unless a selected member cannot be read, and
then the first such member is reported.
-/

namespace CallGraph

namespace Archive

variable {filter : IdentifierFilter} {archive : Archive}

/-- What is read of an archive under a filter: the names of the selected members, each with its
contents or with the reason why it cannot be read. -/
def readings (archive : Archive) (filter : IdentifierFilter) :
    List (String × Except MemberFault Bytes) :=
  (archive.selected filter).map fun member => (member.name, member.contents)

/-- The class file that is read under a name. -/
def readingEntry (reading : String × Except MemberFault Bytes) : Except EntryFault ClassEntry :=
  match reading.2 with
  | .ok data => .ok ⟨reading.1, data⟩
  | .error cause => .error ⟨reading.1, cause⟩

theorem classEntries_eq_mapM (archive : Archive) (filter : IdentifierFilter) :
    archive.classEntries filter = (archive.readings filter).mapM readingEntry := by
  rw [classEntries, readings, List.mapM_map]
  rfl

theorem selects_iff {member : Member} :
    selects filter member = true ↔
      isClassName member.name = true ∧ filter.accepts (dotted member.name) = true := by
  rw [selects, Bool.and_eq_true]

/-- An archive is not read if and only if a selected member cannot be read. -/
theorem exists_classEntries_eq_error_iff :
    (∃ fault, archive.classEntries filter = .error fault) ↔
      ∃ member ∈ archive.members, isClassName member.name = true ∧
        filter.accepts (dotted member.name) = true ∧
          ∃ cause, member.contents = .error cause := by
  constructor
  · rintro ⟨fault, failed⟩
    obtain ⟨front, member, back, split, -, failed⟩ := Fallible.mapM_eq_error_iff.mp failed
    have inside : member ∈ archive.selected filter := by simp [split]
    obtain ⟨listed, selects⟩ := List.mem_filter.mp inside
    obtain ⟨isClass, accepted⟩ := selects_iff.mp selects
    exact ⟨member, listed, isClass, accepted, fault.cause,
      (Member.classEntry_eq_error_iff.mp failed).2⟩
  · rintro ⟨member, listed, isClass, accepted, cause, failed⟩
    have inside : member ∈ archive.selected filter :=
      List.mem_filter.mpr ⟨listed, selects_iff.mpr ⟨isClass, accepted⟩⟩
    cases read : archive.classEntries filter with
    | error fault => exact ⟨fault, rfl⟩
    | ok entries =>
        obtain ⟨entry, found⟩ := Fallible.exists_of_mapM_eq_ok read inside
        have contents := (Member.classEntry_eq_ok_iff.mp found).2
        rw [failed] at contents
        contradiction

/-- The fault of an archive that is not read is that of the first selected member that cannot be
read. -/
theorem classEntries_eq_error_iff {fault : EntryFault} :
    archive.classEntries filter = .error fault ↔
      ∃ front member back, archive.members = front ++ member :: back ∧
        (∀ earlier ∈ front, isClassName earlier.name = true →
          filter.accepts (dotted earlier.name) = true → ∃ data, earlier.contents = .ok data) ∧
        isClassName member.name = true ∧ filter.accepts (dotted member.name) = true ∧
          fault.name = member.name ∧ member.contents = .error fault.cause := by
  rw [classEntries, Fallible.mapM_eq_error_iff]
  constructor
  · rintro ⟨chosen, member, later, split, succeeded, failed⟩
    obtain ⟨front, rest, members_eq, rfl, selectedRest⟩ := List.filter_eq_append_iff.mp split
    obtain ⟨passed, back, rfl, unselected, selects, rfl⟩ :=
      List.filter_eq_cons_iff.mp selectedRest
    obtain ⟨isClass, accepted⟩ := selects_iff.mp selects
    obtain ⟨name_eq, contents⟩ := Member.classEntry_eq_error_iff.mp failed
    refine ⟨front ++ passed, member, back, ?_, ?_, isClass, accepted, name_eq, contents⟩
    · rw [members_eq, List.append_assoc]
    · intro earlier inFront isClassEarlier acceptedEarlier
      have selectsEarlier := selects_iff.mpr ⟨isClassEarlier, acceptedEarlier⟩
      rcases List.mem_append.mp inFront with inChosen | inPassed
      · obtain ⟨entry, found⟩ :=
          succeeded earlier (List.mem_filter.mpr ⟨inChosen, selectsEarlier⟩)
        exact ⟨entry.data, (Member.classEntry_eq_ok_iff.mp found).2⟩
      · exact absurd selectsEarlier (unselected earlier inPassed)
  · rintro ⟨front, member, back, members_eq, readable, isClass, accepted, name_eq, contents⟩
    refine ⟨front.filter (Archive.selects filter), member, back.filter (Archive.selects filter),
      ?_, ?_, Member.classEntry_eq_error_iff.mpr ⟨name_eq, contents⟩⟩
    · rw [selected, members_eq, List.filter_append,
        List.filter_cons_of_pos (selects_iff.mpr ⟨isClass, accepted⟩)]
    · intro earlier inFront
      obtain ⟨listed, selects⟩ := List.mem_filter.mp inFront
      obtain ⟨isClassEarlier, acceptedEarlier⟩ := selects_iff.mp selects
      obtain ⟨data, contents⟩ := readable earlier listed isClassEarlier acceptedEarlier
      exact ⟨⟨earlier.name, data⟩, Member.classEntry_eq_ok_iff.mpr ⟨rfl, contents⟩⟩

end Archive

/-! ## Trees that agree in what is selected -/

/-- What is found in two places is the same as far as a filter is concerned: nothing, something that
cannot be opened, or archives in which the same is read. -/
inductive Lookup.Agrees (filter : IdentifierFilter) : Lookup → Lookup → Prop where
  | missing : Agrees filter .missing .missing
  | unreadable : Agrees filter .unreadable .unreadable
  | archive {one other : Archive} :
      one.readings filter = other.readings filter →
        Agrees filter (.archive one) (.archive other)

theorem Lookup.Agrees.visit_eq {filter : IdentifierFilter} {one other : Lookup}
    (agrees : one.Agrees filter other) (turns : Turns) (path : String) :
    visit filter turns path one = visit filter turns path other := by
  cases agrees with
  | missing => rfl
  | unreadable => rfl
  | archive same =>
      rw [visit, visit, visitArchive, visitArchive, Archive.classEntries_eq_mapM,
        Archive.classEntries_eq_mapM, same]

/-- What a filter does not select has no influence.

If the archives of two trees agree in the members that are selected, then the same is reported,
written and counted, or the same fault ends both builds, as long as the workers take the same
turns.  In other turns the reports are still alike.  Reading an archive fails if and only if a
selected member cannot be read, with the fault of the first one. -/
theorem build_of_agrees (filter : IdentifierFilter) (paths : List String) (one other : FileTree)
    (agree : ∀ path ∈ paths, (one.lookup path).Agrees filter (other.lookup path)) :
    (∀ schedule, graph one filter paths schedule = graph other filter paths schedule) ∧
    (∀ (σ : Type) (write : σ → Bytes → σ × Option OutletFault) (flush : σ → Option OutletFault)
      (state : σ) (schedule otherSchedule : Schedule),
      build ⟨fun _ => one.lookup, write, flush⟩ filter paths state schedule =
        build ⟨fun _ => other.lookup, write, flush⟩ filter paths state schedule ∧
      (build ⟨fun _ => one.lookup, write, flush⟩ filter paths state schedule).Alike
        (build ⟨fun _ => other.lookup, write, flush⟩ filter paths state otherSchedule)) ∧
    ∀ archive : Archive,
      ((∃ fault, archive.classEntries filter = .error fault) ↔
        ∃ member ∈ archive.members, Archive.isClassName member.name = true ∧
          filter.accepts (dotted member.name) = true ∧
            ∃ cause, member.contents = .error cause) ∧
      ∀ fault, archive.classEntries filter = .error fault ↔
        ∃ front member back, archive.members = front ++ member :: back ∧
          (∀ earlier ∈ front, Archive.isClassName earlier.name = true →
            filter.accepts (dotted earlier.name) = true →
              ∃ data, earlier.contents = .ok data) ∧
          Archive.isClassName member.name = true ∧
            filter.accepts (dotted member.name) = true ∧
              fault.name = member.name ∧ member.contents = .error fault.cause := by
  have same : ∀ (σ : Type) (write : σ → Bytes → σ × Option OutletFault)
      (flush : σ → Option OutletFault) (state : σ) (schedule : Schedule),
      build ⟨fun _ => one.lookup, write, flush⟩ filter paths state schedule =
        build ⟨fun _ => other.lookup, write, flush⟩ filter paths state schedule := by
    intro σ write flush state schedule
    apply build_inside id
    · intro turns _ path member
      exact (agree path member).visit_eq turns path
    · intro _ _
      rfl
    · intro _
      rfl
  refine ⟨same _ _ _ _, ?_, ?_⟩
  · intro σ write flush state schedule otherSchedule
    refine ⟨same σ write flush state schedule, ?_⟩
    rw [same]
    exact build_alike _ filter paths state schedule otherSchedule
  · intro archive
    exact ⟨Archive.exists_classEntries_eq_error_iff, fun _ => Archive.classEntries_eq_error_iff⟩

/-- A tree of an archive with one member, beside an archive with one class. -/
def besideClassTree (name : String) (contents : Bytes) : FileTree :=
  (classTree "pkg/A").put ["b.jar"] (.file (Archive.storedFile name contents))

/-- What is no class file may be replaced by the description of a module, which is malformed
here. -/
theorem build_of_agrees_besideClassTree :
    (∀ path ∈ ["b.jar", "a.jar", "c.jar"],
      ((besideClassTree "notes.txt" [1]).lookup path).Agrees .acceptAll
        ((besideClassTree "module-info.class" [2]).lookup path)) ∧
      (besideClassTree "notes.txt" [1]).lookup "b.jar" ≠
        (besideClassTree "module-info.class" [2]).lookup "b.jar" ∧
      ∀ schedule,
        graph (besideClassTree "notes.txt" [1]) .acceptAll ["b.jar", "a.jar", "c.jar"] schedule =
          graph (besideClassTree "module-info.class" [2]) .acceptAll ["b.jar", "a.jar", "c.jar"]
            schedule := by
  have notes : (besideClassTree "notes.txt" [1]).lookup "b.jar" =
      .archive ⟨[.stored "notes.txt" [1]]⟩ := by
    decide +kernel
  have description : (besideClassTree "module-info.class" [2]).lookup "b.jar" =
      .archive ⟨[.stored "module-info.class" [2]]⟩ := by
    decide +kernel
  have first : (besideClassTree "notes.txt" [1]).lookup "a.jar" =
      .archive ⟨[.stored "A.class" (Assembler.assemble "pkg/A" []).2]⟩ := by
    decide +kernel
  have second : (besideClassTree "module-info.class" [2]).lookup "a.jar" =
      .archive ⟨[.stored "A.class" (Assembler.assemble "pkg/A" []).2]⟩ := by
    decide +kernel
  have absent : (besideClassTree "notes.txt" [1]).lookup "c.jar" = .missing ∧
      (besideClassTree "module-info.class" [2]).lookup "c.jar" = .missing := by
    decide +kernel
  have agree : ∀ path ∈ ["b.jar", "a.jar", "c.jar"],
      ((besideClassTree "notes.txt" [1]).lookup path).Agrees .acceptAll
        ((besideClassTree "module-info.class" [2]).lookup path) := by
    intro path member
    simp only [List.mem_cons, List.not_mem_nil, or_false] at member
    rcases member with rfl | rfl | rfl
    · rw [notes, description]
      exact .archive (by decide +kernel)
    · rw [first, second]
      exact .archive rfl
    · rw [absent.1, absent.2]
      exact .missing
  refine ⟨agree, ?_, (build_of_agrees .acceptAll _ _ _ agree).1⟩
  rw [notes, description]
  decide +kernel

end CallGraph
