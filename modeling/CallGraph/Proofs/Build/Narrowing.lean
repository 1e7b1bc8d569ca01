import CallGraph.Proofs.Archive.Stored
import CallGraph.Proofs.Build.Blocks
import CallGraph.Proofs.FileTree

/-!
# Narrower filters

A filter is asked at four places: about the name of a member, about the class that a constant names,
about the class whose method is called, and about the class of a method that is handed over.  A
filter that accepts less selects fewer members and keeps fewer edges of each, and it changes nothing
else: the edges that it keeps are those of the wider filter that come from a member it accepts and
lead to a class it accepts, in the same order.
-/

namespace CallGraph

namespace IdentifierFilter

/-- All that a filter accepts is accepted by a wider one. -/
def Refines (narrow wide : IdentifierFilter) : Prop :=
  ∀ identifier, narrow.accepts identifier = true → wide.accepts identifier = true

theorem refines_acceptAll (filter : IdentifierFilter) : filter.Refines acceptAll :=
  fun _ _ => rfl

theorem refines_of_subset {narrow wide : IdentifierFilter} (filled : narrow.patterns ≠ [])
    (subset : narrow.patterns ⊆ wide.patterns) : narrow.Refines wide := by
  intro identifier accepted
  rw [accepts, List.isEmpty_eq_false_iff.mpr filled, Bool.false_or, List.any_eq_true] at accepted
  rcases accepted with ⟨pattern, member, isMatch⟩
  rw [accepts, List.any_eq_true.mpr ⟨pattern, subset member, isMatch⟩, Bool.or_true]

/-- Both filters together accept what the narrower one accepts. -/
theorem Refines.and_eq {narrow wide : IdentifierFilter} (refines : narrow.Refines wide)
    (identifier : String) :
    (wide.accepts identifier && narrow.accepts identifier) = narrow.accepts identifier := by
  cases accepted : narrow.accepts identifier with
  | false => rw [Bool.and_false]
  | true => rw [refines identifier accepted, Bool.and_true]

/-- An edge is kept by the narrower filter if the wider one keeps it and the narrower one accepts
its far end. -/
theorem Refines.ite_eq_filter {ε : Type} {narrow wide : IdentifierFilter}
    (refines : narrow.Refines wide) (farEnd : ε → String) (edge : ε) :
    (if narrow.accepts (farEnd edge) then some edge else none) =
      (if wide.accepts (farEnd edge) then some edge else none).filter fun other =>
        narrow.accepts (farEnd other) := by
  by_cases accepted : wide.accepts (farEnd edge) = true
  · rw [if_pos accepted, Option.filter_some]
  · have refused : ¬ narrow.accepts (farEnd edge) = true := fun kept => accepted (refines _ kept)
    rw [if_neg accepted, if_neg refused, Option.filter_none]

end IdentifierFilter

variable {narrow wide : IdentifierFilter}

theorem CallSite.staticCall?_eq_filter (refines : narrow.Refines wide) (caller : MethodSignature)
    (site : CallSite) :
    site.staticCall? narrow caller =
      (site.staticCall? wide caller).filter fun call => narrow.accepts call.callee.className :=
  refines.ite_eq_filter (fun call : MethodCall => call.callee.className)
    ⟨caller, site.dispatch, site.callee⟩

theorem MethodHandle.linkedCall?_eq_filter (refines : narrow.Refines wide)
    (caller : MethodSignature) (handle : MethodHandle) :
    handle.linkedCall? narrow caller =
      (handle.linkedCall? wide caller).filter fun call =>
        narrow.accepts call.callee.className :=
  refines.ite_eq_filter (fun call : MethodCall => call.callee.className)
    ⟨caller, .dynamic, handle.callee⟩

namespace JavaClass

theorem slotReference?_eq_filter (refines : narrow.Refines wide) (javaClass : JavaClass)
    (slot : PoolSlot) :
    javaClass.slotReference? narrow slot =
      (javaClass.slotReference? wide slot).filter fun edge => narrow.accepts edge.referenced := by
  cases slot with
  | empty => rfl
  | other => rfl
  | classRef name =>
      exact refines.ite_eq_filter ClassReference.referenced ⟨javaClass.name, name⟩

/-- A narrower filter keeps the references to the classes that it accepts. -/
theorem classReferences_eq_filter (refines : narrow.Refines wide) (javaClass : JavaClass) :
    javaClass.classReferences narrow =
      (javaClass.classReferences wide).filter fun edge => narrow.accepts edge.referenced := by
  rw [classReferences, classReferences, List.filter_filterMap]
  exact congrArg (List.filterMap · javaClass.pool)
    (funext (slotReference?_eq_filter refines javaClass))

theorem callsOf_eq_filter (refines : narrow.Refines wide) (javaClass : JavaClass)
    (method : Method) :
    javaClass.callsOf narrow method =
      (javaClass.callsOf wide method).filter fun call =>
        narrow.accepts call.callee.className := by
  have linked : javaClass.linkedCalls narrow method =
      (javaClass.linkedCalls wide method).filter fun call =>
        narrow.accepts call.callee.className := by
    rw [linkedCalls, linkedCalls, List.filter_flatMap]
    congr 1
    funext site
    rw [List.filter_filterMap]
    exact congrArg (List.filterMap · _)
      (funext (MethodHandle.linkedCall?_eq_filter refines (javaClass.caller method)))
  have static : method.staticCalls narrow (javaClass.caller method) =
      (method.staticCalls wide (javaClass.caller method)).filter fun call =>
        narrow.accepts call.callee.className := by
    rw [Method.staticCalls, Method.staticCalls, List.filter_filterMap]
    exact congrArg (List.filterMap · method.sites)
      (funext (CallSite.staticCall?_eq_filter refines (javaClass.caller method)))
  rw [callsOf, callsOf, List.filter_append, linked, static]

/-- A narrower filter keeps the calls of methods of the classes that it accepts. -/
theorem methodCalls_eq_filter (refines : narrow.Refines wide) (javaClass : JavaClass) :
    javaClass.methodCalls narrow =
      (javaClass.methodCalls wide).filter fun call => narrow.accepts call.callee.className := by
  rw [methodCalls, methodCalls, List.filter_flatMap]
  exact congrArg (List.flatMap · javaClass.methods) (funext (callsOf_eq_filter refines javaClass))

end JavaClass

namespace Archive

/-- A narrower filter selects, of the members that the wider one selects, those whose dotted names
it accepts. -/
theorem selected_eq_filter (refines : narrow.Refines wide) (archive : Archive) :
    archive.selected narrow =
      (archive.selected wide).filter fun member => narrow.accepts (dotted member.name) := by
  rw [selected, selected, List.filter_filter]
  congr 1
  funext member
  rw [selects, selects, Bool.and_left_comm, Bool.and_comm (narrow.accepts _), refines.and_eq]

/-- A narrower filter finds, of the classes that the wider one finds, those whose members have names
that it accepts. -/
theorem classes_of_refines (refines : narrow.Refines wide) {archive : Archive}
    {classes : List ArchiveClass} (found : archive.classes wide = .ok classes) :
    archive.classes narrow =
      .ok (classes.filter fun found => narrow.accepts (dotted found.entryName)) := by
  rw [classes_eq_ok_iff, ← mapM_decode_eq_ok_iff] at found ⊢
  rw [selected_eq_filter refines]
  refine Fallible.mapM_filter_eq_ok ?_ found
  intro member result decoded
  rw [(Member.decode_eq_ok_iff.mp decoded).1]

end Archive

/-- Edges of classes, each with the name of the member that it comes from. -/
def tagged {ε : Type} (edges : JavaClass → List ε) (classes : List ArchiveClass) :
    List (String × ε) :=
  classes.flatMap fun found => (edges found.javaClass).map (found.entryName, ·)

/-- Those edges that come from a member which a filter accepts by its dotted name, and whose far end
it accepts. -/
def kept {ε : Type} (filter : IdentifierFilter) (farEnd : ε → String)
    (edges : List (String × ε)) : List ε :=
  (edges.filter fun edge =>
    filter.accepts (dotted edge.1) && filter.accepts (farEnd edge.2)).map Prod.snd

theorem map_snd_tagged {ε : Type} (edges : JavaClass → List ε) (classes : List ArchiveClass) :
    (tagged edges classes).map Prod.snd = classes.flatMap fun found => edges found.javaClass := by
  simp [tagged, List.map_flatMap, Function.comp_def]

/-- The edges of the classes that a filter finds are those that it keeps, if it keeps the edges of
each class by their far ends. -/
theorem flatMap_filter_eq_kept {ε : Type} {edges keptEdges : JavaClass → List ε}
    {farEnd : ε → String} {filter : IdentifierFilter}
    (keeps : ∀ javaClass, keptEdges javaClass =
      (edges javaClass).filter fun edge => filter.accepts (farEnd edge))
    (classes : List ArchiveClass) :
    ((classes.filter fun found => filter.accepts (dotted found.entryName)).flatMap fun found =>
        keptEdges found.javaClass) =
      kept filter farEnd (tagged edges classes) := by
  induction classes with
  | nil => rfl
  | cons found classes ih =>
      have split : kept filter farEnd (tagged edges (found :: classes)) =
          kept filter farEnd ((edges found.javaClass).map (found.entryName, ·)) ++
            kept filter farEnd (tagged edges classes) := by
        rw [kept, tagged, List.flatMap_cons, List.filter_append, List.map_append]
        rfl
      rw [split, ← ih]
      by_cases accepted : filter.accepts (dotted found.entryName) = true
      · rw [List.filter_cons, if_pos accepted, List.flatMap_cons, keeps]
        congr 1
        simp [kept, List.filter_map, Function.comp_def, accepted]
      · rw [List.filter_cons, if_neg accepted]
        simp [kept, List.filter_map, Function.comp_def, accepted]

theorem kept_sublist {ε : Type} (filter : IdentifierFilter) (farEnd : ε → String)
    (edges : List (String × ε)) : (kept filter farEnd edges).Sublist (edges.map Prod.snd) :=
  List.filter_sublist.map Prod.snd

/-- As many archives are skipped in two builds, and the first counts no more than the second. -/
structure Tally.AtMost (narrow wide : Tally) : Prop where
  skipped_eq : narrow.skipped = wide.skipped
  archives_le : narrow.archives ≤ wide.archives
  classes_le : narrow.classes ≤ wide.classes
  references_le : narrow.references ≤ wide.references
  calls_le : narrow.calls ≤ wide.calls

theorem Tally.AtMost.refl (tally : Tally) : tally.AtMost tally :=
  ⟨rfl, Nat.le_refl _, Nat.le_refl _, Nat.le_refl _, Nat.le_refl _⟩

theorem Tally.AtMost.add {narrow wide narrowRest wideRest : Tally} (first : narrow.AtMost wide)
    (rest : narrowRest.AtMost wideRest) : (narrow + narrowRest).AtMost (wide + wideRest) where
  skipped_eq := congrArg₂ Nat.add first.skipped_eq rest.skipped_eq
  archives_le := Nat.add_le_add first.archives_le rest.archives_le
  classes_le := Nat.add_le_add first.classes_le rest.classes_le
  references_le := Nat.add_le_add first.references_le rest.references_le
  calls_le := Nat.add_le_add first.calls_le rest.calls_le

/-! ## Two builds -/

/-- What an archive yields under a filter and under a narrower one.  Both skip it, or the narrower
one writes those edges of the wider one that come from a member it accepts and lead to a class it
accepts. -/
inductive Narrowed (tree : FileTree) (narrow wide : IdentifierFilter) (path : String) :
    Option Block → Option Block → Prop where
  | skipped (absent : tree.lookup path = .missing ∨ tree.lookup path = .unreadable) :
      Narrowed tree narrow wide path none none
  | visited {archive : Archive} {classes : List ArchiveClass} {wideBlock narrowBlock : Block}
      (found : tree.lookup path = .archive archive)
      (spells : List.Forall₂ Archive.Member.Spells (archive.selected wide) classes)
      (wideClasses : wideBlock.classes = classes.length)
      (wideReferences : wideBlock.references =
        (tagged (·.classReferences wide) classes).map Prod.snd)
      (wideCalls : wideBlock.calls = (tagged (·.methodCalls wide) classes).map Prod.snd)
      (narrowClasses : narrowBlock.classes =
        (classes.filter fun found => narrow.accepts (dotted found.entryName)).length)
      (narrowReferences : narrowBlock.references =
        kept narrow ClassReference.referenced (tagged (·.classReferences wide) classes))
      (narrowCalls : narrowBlock.calls =
        kept narrow (fun call => call.callee.className)
          (tagged (·.methodCalls wide) classes)) :
      Narrowed tree narrow wide path (some wideBlock) (some narrowBlock)

/-- An archive that yields something under a filter does so under a narrower one. -/
theorem exists_narrowed (refines : narrow.Refines wide) {tree : FileTree} {path : String}
    {turns : Turns} {wideBlock? : Option Block}
    (visited : (visit wide turns path (tree.lookup path)).result = .ok wideBlock?) :
    ∃ narrowBlock?,
      (∀ turns, (visit narrow turns path (tree.lookup path)).result = .ok narrowBlock?) ∧
        Narrowed tree narrow wide path wideBlock? narrowBlock? := by
  cases found : tree.lookup path with
  | missing =>
      rw [found] at visited
      cases visited
      exact ⟨none, fun _ => rfl, .skipped (.inl found)⟩
  | unreadable =>
      rw [found] at visited
      cases visited
      exact ⟨none, fun _ => rfl, .skipped (.inr found)⟩
  | archive archive =>
      rw [found] at visited
      obtain ⟨classes, decoded, rfl⟩ := visit_archive_eq_ok_iff.mp visited
      have narrowed := Archive.classes_of_refines refines decoded
      refine ⟨_, fun _ => visit_archive_eq_ok_iff.mpr ⟨_, narrowed, rfl⟩, ?_⟩
      exact .visited found (Archive.classes_eq_ok_iff.mp decoded) rfl
        (map_snd_tagged (·.classReferences wide) classes).symm
        (map_snd_tagged (·.methodCalls wide) classes).symm rfl
        (flatMap_filter_eq_kept (JavaClass.classReferences_eq_filter refines) classes)
        (flatMap_filter_eq_kept (JavaClass.methodCalls_eq_filter refines) classes)

/-- The lines of a narrower filter are some of the lines of the wider one. -/
theorem Narrowed.lines_sublist {tree : FileTree} {path : String}
    {wideBlock? narrowBlock? : Option Block}
    (narrowed : Narrowed tree narrow wide path wideBlock? narrowBlock?) :
    (narrowBlock?.elim [] Block.lines).Sublist (wideBlock?.elim [] Block.lines) := by
  cases narrowed with
  | skipped => exact List.Sublist.refl []
  | visited _ _ _ wideReferences wideCalls _ narrowReferences narrowCalls =>
      change (Block.lines _).Sublist (Block.lines _)
      rw [Block.lines, Block.lines, wideReferences, wideCalls, narrowReferences, narrowCalls]
      exact ((kept_sublist _ _ _).map _).append ((kept_sublist _ _ _).map _)

theorem Narrowed.atMost {tree : FileTree} {path : String} {wideBlock? narrowBlock? : Option Block}
    (narrowed : Narrowed tree narrow wide path wideBlock? narrowBlock?) :
    (Tally.ofVisit narrowBlock?).AtMost (Tally.ofVisit wideBlock?) := by
  cases narrowed with
  | skipped => exact .refl _
  | @visited _ classes wideBlock narrowBlock _ _ wideClasses wideReferences wideCalls narrowClasses
      narrowReferences narrowCalls =>
      refine ⟨rfl, Nat.le_refl 1, ?_, ?_, ?_⟩
      · change narrowBlock.classes ≤ wideBlock.classes
        rw [wideClasses, narrowClasses]
        exact List.length_filter_le _ _
      · change narrowBlock.references.length ≤ wideBlock.references.length
        rw [wideReferences, narrowReferences]
        exact (kept_sublist _ _ _).length_le
      · change narrowBlock.calls.length ≤ wideBlock.calls.length
        rw [wideCalls, narrowCalls]
        exact (kept_sublist _ _ _).length_le

/-- The build of archives writes these blocks and counts them, whatever turns the workers take. -/
def Writes (tree : FileTree) (filter : IdentifierFilter) (paths : List String)
    (blocks : List (Option Block)) : Prop :=
  ∀ schedule,
    (graph tree filter paths schedule).state = written (blocks.flatMap (·.elim [] Block.lines)) ∧
      (graph tree filter paths schedule).result = .ok (.ofVisits blocks)

theorem writes_of_yields {tree : FileTree} {filter : IdentifierFilter} {paths : List String}
    {blocks : List (Option Block)} (yields : Yields tree.lookup filter paths blocks) :
    Writes tree filter paths blocks := by
  intro schedule
  obtain ⟨state_eq, result_eq⟩ := build_of_yields yields [] schedule
  refine ⟨state_eq.trans ?_, result_eq⟩
  rw [List.nil_append, written, List.flatMap_assoc]
  congr 1
  funext block?
  cases block? with
  | none => rfl
  | some block => rfl

/-- Archives that yield something under a filter do so under a narrower one, each as it is
narrowed. -/
theorem exists_yields_narrowed (refines : narrow.Refines wide) {tree : FileTree}
    {paths : List String} {wideBlocks : List (Option Block)}
    (yields : Yields tree.lookup wide paths wideBlocks) :
    ∃ visits : List (Option Block × Option Block),
      List.Forall₂ (fun path visit => Narrowed tree narrow wide path visit.1 visit.2) paths visits ∧
        visits.map Prod.fst = wideBlocks ∧
          Yields tree.lookup narrow paths (visits.map Prod.snd) := by
  induction yields with
  | nil => exact ⟨[], .nil, rfl, .nil⟩
  | @cons path wideBlock? paths wideBlocks visited rest ih =>
      obtain ⟨narrowBlock?, narrowVisited, narrowed⟩ := exists_narrowed refines (visited [])
      obtain ⟨visits, others, rfl, narrowYields⟩ := ih
      exact ⟨(wideBlock?, narrowBlock?) :: visits, .cons narrowed others, rfl,
        .cons narrowVisited narrowYields⟩

/-- Archive by archive, the lines of a narrower filter are some of the lines of the wider one. -/
theorem flatMap_lines_sublist {tree : FileTree} {paths : List String}
    {visits : List (Option Block × Option Block)}
    (narrowed : List.Forall₂ (fun path visit => Narrowed tree narrow wide path visit.1 visit.2)
      paths visits) :
    ((visits.map Prod.snd).flatMap (·.elim [] Block.lines)).Sublist
      ((visits.map Prod.fst).flatMap (·.elim [] Block.lines)) := by
  induction narrowed with
  | nil => exact List.Sublist.refl []
  | cons first _ ih =>
      simp only [List.map_cons, List.flatMap_cons]
      exact first.lines_sublist.append ih

theorem ofVisits_atMost {tree : FileTree} {paths : List String}
    {visits : List (Option Block × Option Block)}
    (narrowed : List.Forall₂ (fun path visit => Narrowed tree narrow wide path visit.1 visit.2)
      paths visits) :
    (Tally.ofVisits (visits.map Prod.snd)).AtMost (Tally.ofVisits (visits.map Prod.fst)) := by
  induction narrowed with
  | nil => exact .refl .zero
  | cons first _ ih => exact first.atMost.add ih

/-- How the build under a filter follows from the build under a wider one, whatever turns the
workers take in either of them. -/
structure Narrows (tree : FileTree) (narrow wide : IdentifierFilter) (paths : List String) :
    Prop where
  /-- Archive by archive, the blocks are narrowed. -/
  archives : ∃ visits : List (Option Block × Option Block),
    List.Forall₂ (fun path visit => Narrowed tree narrow wide path visit.1 visit.2) paths visits ∧
      Writes tree wide paths (visits.map Prod.fst) ∧ Writes tree narrow paths (visits.map Prod.snd)
  /-- The lines are some of the lines of the wider filter. -/
  output : ∃ narrowLines wideLines,
    (∀ schedule, (graph tree narrow paths schedule).state = written narrowLines) ∧
      (∀ schedule, (graph tree wide paths schedule).state = written wideLines) ∧
        narrowLines.Sublist wideLines
  /-- No more is counted. -/
  counts : ∃ narrowTally wideTally,
    (∀ schedule, (graph tree narrow paths schedule).result = .ok narrowTally) ∧
      (∀ schedule, (graph tree wide paths schedule).result = .ok wideTally) ∧
        narrowTally.AtMost wideTally

/-- A build that succeeds under a filter does so under a narrower one. -/
theorem narrows_of_ok (refines : narrow.Refines wide) {tree : FileTree} {paths : List String}
    {schedule : Schedule} {tally : Tally}
    (succeeded : (graph tree wide paths schedule).result = .ok tally) :
    Narrows tree narrow wide paths := by
  obtain ⟨wideBlocks, yields⟩ := exists_yields_of_ok succeeded
  obtain ⟨visits, narrowed, rfl, narrowYields⟩ := exists_yields_narrowed refines yields
  have wideWrites := writes_of_yields yields
  have narrowWrites := writes_of_yields narrowYields
  exact ⟨⟨visits, narrowed, wideWrites, narrowWrites⟩,
    ⟨_, _, (narrowWrites · |>.1), (wideWrites · |>.1), flatMap_lines_sublist narrowed⟩,
    ⟨_, _, (narrowWrites · |>.2), (wideWrites · |>.2), ofVisits_atMost narrowed⟩⟩

/-- If the build that keeps everything succeeds, so does the build under every filter, narrowed to
what the filter accepts.  Of two filters, the one that accepts less writes less. -/
theorem graph_filter {tree : FileTree} {paths : List String} {schedule : Schedule} {tally : Tally}
    (succeeded : (graph tree .acceptAll paths schedule).result = .ok tally) :
    (∀ filter, Narrows tree filter .acceptAll paths) ∧
      ∀ narrow wide : IdentifierFilter, narrow.Refines wide → Narrows tree narrow wide paths := by
  have all : ∀ filter, Narrows tree filter .acceptAll paths := fun filter =>
    narrows_of_ok filter.refines_acceptAll succeeded
  refine ⟨all, ?_⟩
  intro narrow wide refines
  -- The wider of the two builds succeeds because the one that keeps everything does.
  obtain ⟨_, _, wideSucceeded, -, -⟩ := (all wide).counts
  exact narrows_of_ok refines (wideSucceeded [])

/-- A class file that is stored in an archive of its own yields the edges of its class, if a filter
selects it. -/
theorem visit_of_storedFile {tree : FileTree} {path name : String} {contents : Bytes}
    {javaClass : JavaClass} (held : tree.read? path = some (Archive.storedFile name contents))
    (plain : CodePage437.decode (Bytes.ofString name) = name)
    (shortName : (Bytes.ofString name).length < 0x10000)
    (short : 30 + (Bytes.ofString name).length + contents.length < 0x100000000)
    (spells : JavaClass.ofBytes contents = .ok javaClass) (filter : IdentifierFilter)
    (turns : Turns) :
    (visit filter turns path (tree.lookup path)).result =
      .ok (some (.ofClasses filter ([⟨name, javaClass⟩].filter (·.isSelected filter)))) := by
  rw [FileTree.lookup_eq_archive held (Archive.ofBytes?_storedFile plain shortName short)]
  have member : (Archive.Member.stored name contents).Spells ⟨name, javaClass⟩ :=
    ⟨rfl, contents, Archive.Member.contents_stored name contents, spells⟩
  exact visit_archive_eq_ok_iff.mpr
    ⟨_, Archive.classes_eq_filter (.cons member .nil) filter, rfl⟩

/-- The class that `Assembler.linkedCalls` asks for. -/
def linkedCallsClass : JavaClass where
  name := "pkg.A"
  pool :=
    [.empty, .other, .classRef "pkg.A", .other, .classRef "java.lang.Object", .other,
     .classRef "pkg.B"] ++ List.replicate 10 .other ++ [.classRef "pkg.B", .other, .other, .other]
  methods :=
    [⟨"m", [], false, false,
      [⟨0, .invoke ⟨"pkg.B", "n", [], .static, none⟩⟩,
       ⟨3, .invoke ⟨"void", "run", [], .dynamic, some 0⟩⟩, ⟨8, .other⟩]⟩]
  bootstrapMethods := [⟨[⟨"pkg.B", "n", []⟩]⟩]

/-- The class `pkg/B` without methods. -/
def emptyClass : JavaClass :=
  ⟨"pkg.B", [.empty, .other, .classRef "pkg.B", .other, .classRef "java.lang.Object"], [], []⟩

/-- A tree of two archives: one of a class that calls a method of another class, and one of the
other class. -/
def twoArchivesTree : FileTree :=
  (FileTree.empty.put ["a.jar"] (.file (Archive.storedFile "pkg/A.class"
    (Assembler.assemble "pkg/A" Assembler.linkedCalls).2))).put ["b.jar"]
      (.file (Archive.storedFile "pkg/B.class" (Assembler.assemble "pkg/B" []).2))

theorem yields_twoArchivesTree (filter : IdentifierFilter) :
    Yields twoArchivesTree.lookup filter ["a.jar", "b.jar", "c.jar"]
      [some (.ofClasses filter
        ([⟨"pkg/A.class", linkedCallsClass⟩].filter (·.isSelected filter))),
       some (.ofClasses filter ([⟨"pkg/B.class", emptyClass⟩].filter (·.isSelected filter))),
       none] := by
  have first : twoArchivesTree.read? "a.jar" = some (Archive.storedFile "pkg/A.class"
      (Assembler.assemble "pkg/A" Assembler.linkedCalls).2) := by
    rw [twoArchivesTree, FileTree.read?_put (by decide) (by decide +kernel)]
    exact FileTree.read?_put_self (by decide +kernel) _
  have second : twoArchivesTree.read? "b.jar" =
      some (Archive.storedFile "pkg/B.class" (Assembler.assemble "pkg/B" []).2) :=
    FileTree.read?_put_self (by decide +kernel) _
  have third : twoArchivesTree.lookup "c.jar" = .missing := by
    decide +kernel
  refine .cons ?_ (.cons ?_ (.cons ?_ .nil))
  · exact visit_of_storedFile first (by decide +kernel) (by decide +kernel) (by decide +kernel)
      (by decide +kernel) filter
  · exact visit_of_storedFile second (by decide +kernel) (by decide +kernel) (by decide +kernel)
      (by decide +kernel) filter
  · intro turns
    rw [third]
    rfl

/-- A filter on both classes keeps the edges between them, and one on the first class keeps what
leads to itself. -/
theorem graph_filter_twoArchivesTree :
    (graph twoArchivesTree .acceptAll ["a.jar", "b.jar", "c.jar"] []).result =
        .ok ⟨2, 1, 2, 6, 3⟩ ∧
      Narrows twoArchivesTree (.ofList "pkg.A.*,pkg.B.*") .acceptAll
        ["a.jar", "b.jar", "c.jar"] ∧
      Narrows twoArchivesTree (.ofList "pkg.A.*") (.ofList "pkg.A.*,pkg.B.*")
        ["a.jar", "b.jar", "c.jar"] ∧
      (graph twoArchivesTree .acceptAll ["a.jar", "b.jar", "c.jar"] []).state = written
        ["C:pkg.A pkg.A", "C:pkg.A java.lang.Object", "C:pkg.A pkg.B", "C:pkg.A pkg.B",
         "M:pkg.A:m() (D)pkg.B:n()", "M:pkg.A:m() (S)pkg.B:n()", "M:pkg.A:m() (D)void:run()",
         "C:pkg.B pkg.B", "C:pkg.B java.lang.Object"] ∧
      (graph twoArchivesTree (.ofList "pkg.A.*,pkg.B.*") ["a.jar", "b.jar", "c.jar"] []).state =
        written
          ["C:pkg.A pkg.A", "C:pkg.A pkg.B", "C:pkg.A pkg.B", "M:pkg.A:m() (D)pkg.B:n()",
           "M:pkg.A:m() (S)pkg.B:n()", "C:pkg.B pkg.B"] ∧
      (graph twoArchivesTree (.ofList "pkg.A.*") ["a.jar", "b.jar", "c.jar"] []).state =
        written ["C:pkg.A pkg.A"] := by
  have writes := fun filter => writes_of_yields (yields_twoArchivesTree filter) []
  have succeeded : (graph twoArchivesTree .acceptAll ["a.jar", "b.jar", "c.jar"] []).result =
      .ok ⟨2, 1, 2, 6, 3⟩ := by
    rw [(writes .acceptAll).2]
    decide +kernel
  have refines : (IdentifierFilter.ofList "pkg.A.*").Refines (.ofList "pkg.A.*,pkg.B.*") :=
    IdentifierFilter.refines_of_subset (by decide +kernel) (by decide +kernel)
  obtain ⟨narrows, narrowsMore⟩ := graph_filter succeeded
  refine ⟨succeeded, narrows _, narrowsMore _ _ refines, ?_, ?_, ?_⟩
  · rw [(writes .acceptAll).1]
    decide +kernel
  · rw [(writes (.ofList "pkg.A.*,pkg.B.*")).1]
    decide +kernel
  · rw [(writes (.ofList "pkg.A.*")).1]
    decide +kernel

end CallGraph
