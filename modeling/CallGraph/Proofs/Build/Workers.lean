import CallGraph.Build.Visit
import CallGraph.Fallible
import CallGraph.Proofs.JavaClass.Edges
import Mathlib.Data.List.Forall2
import Mathlib.Data.List.Perm.Basic

/-!
# What does not depend on turns

Workers come to tasks in the order of their turns, and then to all tasks in order.  The task that is
refused first in this sense decides the fault, so that whether there is a fault at all does not
depend on the turns.  If there is none, everything is done, the actions of each task in order.
-/

namespace CallGraph

namespace Task

variable {φ : Type} {task : Task φ} {tasks : List (Task φ)} {turns : Turns}

/-- All that a refused task does is to be refused. -/
def Decided (task : Task φ) : Prop :=
  ∀ fault, task.fault? = some fault → task.actions = [.refuse fault]

theorem fault?_report {begun : Bool} {event : Event} {actions : List (Action φ)}
    (decided : Decided ⟨begun, .report event :: actions⟩) :
    fault? ⟨true, actions⟩ = none := by
  by_contra refused
  rcases Option.ne_none_iff_exists'.mp refused with ⟨fault, later⟩
  cases decided fault later

theorem findSome?_inOrder (tasks : List (Task φ)) :
    (inOrder false tasks).findSome? Action.fault? = tasks.findSome? fault? := by
  induction tasks with
  | nil => rfl
  | cons task tasks ih =>
      rw [inOrder, List.findSome?_cons, if_neg (by simp), List.findSome?_append]
      change (task.fault?.or _) = _
      cases refused : task.fault? with
      | some fault => rfl
      | none => simpa using ih

/-- The first one in a list is the first one by position. -/
theorem findSome?_range {α β : Type} (choose : α → Option β) (list : List α) :
    (List.range list.length).findSome? (fun position => list[position]?.bind choose) =
      list.findSome? choose := by
  induction list with
  | nil => rfl
  | cons first rest ih =>
      rw [List.length_cons, List.range_succ_eq_map, List.findSome?_cons, List.findSome?_cons,
        List.findSome?_map]
      simp only [List.getElem?_cons_zero, Option.bind_some]
      cases choose first with
      | some chosen => rfl
      | none => simpa [Function.comp_def] using ih

/-- A report changes no task but the one that it belongs to, and that one is not refused. -/
theorem bind_set_report {begun : Bool} {event : Event} {actions : List (Action φ)} {position : ℕ}
    (found : tasks[position]? = some ⟨begun, .report event :: actions⟩)
    (decided : Decided ⟨begun, .report event :: actions⟩) (other : ℕ) :
    (tasks.set position ⟨true, actions⟩)[other]?.bind fault? = tasks[other]?.bind fault? := by
  have rest := fault?_report decided
  rw [List.getElem?_set]
  split
  · next same =>
    subst same
    rw [found, if_pos (List.getElem?_eq_some_iff.mp found).1, Option.bind_some, Option.bind_some,
      rest]
    exact rest.symm
  · rfl

theorem decided_set (position : ℕ) (decided : ∀ task ∈ tasks, task.Decided)
    (unrefused : task.fault? = none) : ∀ other ∈ tasks.set position task, other.Decided := by
  intro other member
  rcases List.mem_or_eq_of_mem_set member with member | rfl
  · exact decided other member
  · intro fault refused
    rw [unrefused] at refused
    contradiction

/-- The fault is that of the task that is refused first, if the workers come to the tasks in the
order of their turns and then to all tasks in order. -/
theorem findSome?_inTurns (decided : ∀ task ∈ tasks, task.Decided) :
    (inTurns false tasks turns).findSome? Action.fault? =
      (turns ++ List.range tasks.length).findSome? fun position =>
        tasks[position]?.bind fault? := by
  induction turns generalizing tasks with
  | nil => rw [inTurns, findSome?_inOrder, List.nil_append, findSome?_range]
  | cons position turns ih =>
      rw [List.cons_append, List.findSome?_cons, inTurns]
      split
      · next begun action actions found =>
        have here := decided _ (List.mem_of_getElem? found)
        rw [List.findSome?_cons, found, Option.bind_some]
        cases action with
        | refuse fault => rfl
        | report event =>
            have unrefused := fault?_report here
            have same := bind_set_report found here
            have later := ih (decided_set position decided unrefused)
            rw [List.length_set] at later
            have passed : fault? ⟨begun, .report event :: actions⟩ = none := unrefused
            rw [passed]
            change (inTurns false (tasks.set position ⟨true, actions⟩) turns).findSome? _ = _
            rw [later]
            simp only [same]
      · next lost =>
        have unrefused : tasks[position]?.bind fault? = none := by
          rcases found : tasks[position]? with _ | ⟨begun, _ | ⟨action, actions⟩⟩
          · rfl
          · rfl
          · exact absurd found (lost begun action actions)
        rw [unrefused]
        exact ih decided

theorem exists_of_mem_inTurns {refused : Bool} {action : Action φ}
    (done : action ∈ inTurns refused tasks turns) : ∃ task ∈ tasks, action ∈ task.actions := by
  induction turns generalizing refused tasks with
  | nil =>
      rw [inTurns] at done
      induction tasks generalizing refused with
      | nil => contradiction
      | cons task tasks ih =>
          rw [inOrder] at done
          split at done
          · rcases ih done with ⟨other, member, inside⟩
            exact ⟨other, .tail _ member, inside⟩
          · rcases List.mem_append.mp done with inside | done
            · exact ⟨task, .head _, inside⟩
            · rcases ih done with ⟨other, member, inside⟩
              exact ⟨other, .tail _ member, inside⟩
  | cons position turns ih =>
      rw [inTurns] at done
      split at done
      · next begun first actions found =>
        have member := List.mem_of_getElem? found
        rcases List.mem_cons.mp done with rfl | done
        · exact ⟨_, member, .head _⟩
        · rcases ih done with ⟨task, inside, left⟩
          rcases List.mem_or_eq_of_mem_set inside with inside | rfl
          · exact ⟨task, inside, left⟩
          · exact ⟨_, member, .tail _ left⟩
      · exact ih done

theorem inOrder_eq_flatMap (unrefused : ∀ task ∈ tasks, task.fault? = none) :
    inOrder false tasks = tasks.flatMap Task.actions := by
  induction tasks with
  | nil => rfl
  | cons task tasks ih =>
      rcases List.forall_mem_cons.mp unrefused with ⟨first, rest⟩
      rw [inOrder, if_neg (by simp), first, List.flatMap_cons]
      exact congrArg _ (ih rest)

/-- What is taken from a task that is not refused is a report. -/
theorem fault?_cons_eq_none {begun : Bool} {action : Action φ} {actions : List (Action φ)}
    (unrefused : fault? ⟨begun, action :: actions⟩ = none) :
    action.fault? = none ∧ fault? ⟨true, actions⟩ = none := by
  rw [fault?, List.findSome?_cons] at unrefused
  cases action with
  | refuse fault => contradiction
  | report event => exact ⟨rfl, unrefused⟩

theorem unrefused_set (position : ℕ) (unrefused : ∀ task ∈ tasks, task.fault? = none)
    (here : task.fault? = none) : ∀ other ∈ tasks.set position task, other.fault? = none := by
  intro other member
  rcases List.mem_or_eq_of_mem_set member with member | rfl
  · exact unrefused other member
  · exact here

/-- If no task is refused, all is done that there is to do. -/
theorem perm_inTurns (unrefused : ∀ task ∈ tasks, task.fault? = none) :
    (inTurns false tasks turns).Perm (tasks.flatMap Task.actions) := by
  induction turns generalizing tasks with
  | nil =>
      rw [inTurns, inOrder_eq_flatMap unrefused]
  | cons position turns ih =>
      rw [inTurns]
      split
      · next begun action actions found =>
        rcases List.getElem?_eq_some_iff.mp found with ⟨within, found⟩
        rcases @List.exists_of_set _ _ ⟨true, actions⟩ _ within with
          ⟨front, back, split, -, replaced⟩
        rcases fault?_cons_eq_none (unrefused _ (found ▸ List.getElem_mem within)) with
          ⟨reports, here⟩
        have later := ih (unrefused_set position unrefused here)
        have whole : tasks.flatMap Task.actions =
            front.flatMap Task.actions ++ action :: (actions ++ back.flatMap Task.actions) := by
          conv_lhs => rw [split, found, List.flatMap_append, List.flatMap_cons]
          rfl
        rw [reports, whole]
        rw [replaced, List.flatMap_append, List.flatMap_cons] at later
        rw [← replaced] at later
        exact (later.cons action).trans List.perm_middle.symm
      · exact ih unrefused

/-- If no task is refused, the actions of each task are done in order. -/
theorem sublist_inTurns (unrefused : ∀ task ∈ tasks, task.fault? = none) {other : ℕ}
    (listed : tasks[other]? = some task) : task.actions.Sublist (inTurns false tasks turns) := by
  induction turns generalizing tasks task with
  | nil =>
      rw [inTurns, inOrder_eq_flatMap unrefused, List.flatMap_def]
      exact List.sublist_flatten_of_mem (List.mem_map_of_mem (List.mem_of_getElem? listed))
  | cons position turns ih =>
      rw [inTurns]
      split
      · next begun action actions found =>
        rcases fault?_cons_eq_none (unrefused _ (List.mem_of_getElem? found)) with
          ⟨reports, here⟩
        have kept := unrefused_set position unrefused here
        have within := (List.getElem?_eq_some_iff.mp found).1
        rw [reports]
        by_cases same : position = other
        · subst same
          rw [found] at listed
          cases listed
          exact (ih kept (List.getElem?_set_self within)).cons_cons action
        · exact (ih kept ((List.getElem?_set_ne same).trans listed)).cons action
      · exact ih unrefused listed

theorem fault?_ofClass_eq_some_iff {found : Except VisitFault JavaClass} {fault : VisitFault} :
    (ofClass found).fault? = some fault ↔ found = .error fault := by
  cases found with
  | error cause => simp [ofClass, fault?, Action.fault?]
  | ok javaClass =>
      have passed : (ofClass (.ok javaClass)).fault? = none := by
        rw [fault?, ofClass, List.findSome?_map, List.findSome?_eq_none_iff]
        exact fun _ _ => rfl
      rw [passed]
      exact iff_of_false (Option.some_ne_none fault).symm nofun

theorem decided_ofClass (found : Except VisitFault JavaClass) : (ofClass found).Decided := by
  intro fault refused
  rw [fault?_ofClass_eq_some_iff.mp refused]
  rfl

end Task

/-- Of the members of a list that have a property, this is the one that workers come to first: in
their turns, or else in order. -/
def ComesFirst {α : Type} (turns : Turns) (list : List α) (property : α → Prop) (chosen : α) :
    Prop :=
  ∃ before position after, turns ++ List.range list.length = before ++ position :: after ∧
    (∀ earlier ∈ before, ∀ other, list[earlier]? = some other → ¬ property other) ∧
      list[position]? = some chosen ∧ property chosen

theorem ComesFirst.mem {α : Type} {turns : Turns} {list : List α} {property : α → Prop}
    {chosen : α} (first : ComesFirst turns list property chosen) :
    chosen ∈ list ∧ property chosen := by
  rcases first with ⟨_, _, _, -, -, found, holds⟩
  exact ⟨List.mem_of_getElem? found, holds⟩

section Classes

variable {filter : IdentifierFilter} {turns : Turns} {entries : List Archive.ClassEntry}

theorem Archive.ClassEntry.javaClass_eq_error_iff {entry : Archive.ClassEntry}
    {fault : VisitFault} :
    entry.javaClass = .error fault ↔
      ∃ cause, JavaClass.ofBytes entry.data = .error cause ∧
        fault = .undecodable entry.name cause := by
  simp only [javaClass, Fallible.mapError_eq_error_iff, eq_comm (a := fault)]

/-- The tasks of class files. -/
def tasksOf (entries : List Archive.ClassEntry) : List (Task VisitFault) :=
  (entries.map Archive.ClassEntry.javaClass).map Task.ofClass

theorem decided_tasksOf : ∀ task ∈ tasksOf entries, task.Decided := by
  intro task member
  rcases List.mem_map.mp member with ⟨found, -, rfl⟩
  exact Task.decided_ofClass found

theorem getElem?_tasksOf_eq_some_iff {position : ℕ} {fault : VisitFault} :
    (tasksOf entries)[position]?.bind Task.fault? = some fault ↔
      ∃ entry, entries[position]? = some entry ∧ entry.javaClass = .error fault := by
  rw [tasksOf, List.getElem?_map, List.getElem?_map]
  cases entries[position]? with
  | none => simp
  | some entry => simp [Task.fault?_ofClass_eq_some_iff]

/-- The fault that counts is that of the class file which workers come to first. -/
theorem findSome?_tasksOf_eq_some_iff {fault : VisitFault} :
    (Task.inTurns false (tasksOf entries) turns).findSome? Action.fault? = some fault ↔
      ∃ entry, ComesFirst turns entries (fun other => ∃ cause, other.javaClass = .error cause)
        entry ∧ entry.javaClass = .error fault := by
  have count : (tasksOf entries).length = entries.length := by
    rw [tasksOf, List.length_map, List.length_map]
  rw [Task.findSome?_inTurns decided_tasksOf, List.findSome?_eq_some_iff, count]
  constructor
  · rintro ⟨before, position, after, order, refused, none⟩
    rcases getElem?_tasksOf_eq_some_iff.mp refused with ⟨entry, found, failed⟩
    refine ⟨entry, ⟨before, position, after, order, ?_, found, fault, failed⟩, failed⟩
    rintro earlier listed other foundOther ⟨cause, failedOther⟩
    have contra := getElem?_tasksOf_eq_some_iff.mpr ⟨other, foundOther, failedOther⟩
    rw [none earlier listed] at contra
    contradiction
  · rintro ⟨entry, ⟨before, position, after, order, none, found, -⟩, failed⟩
    refine ⟨before, position, after, order,
      getElem?_tasksOf_eq_some_iff.mpr ⟨entry, found, failed⟩, ?_⟩
    intro earlier listed
    by_contra refused
    rcases Option.ne_none_iff_exists'.mp refused with ⟨cause, refused⟩
    rcases getElem?_tasksOf_eq_some_iff.mp refused with ⟨other, foundOther, failedOther⟩
    exact none earlier listed other foundOther ⟨cause, failedOther⟩

theorem visitClasses_eq_error_iff {fault : VisitFault} :
    (visitClasses filter turns entries).result = .error fault ↔
      ∃ entry, ComesFirst turns entries (fun other => ∃ cause, other.javaClass = .error cause)
        entry ∧ entry.javaClass = .error fault := by
  rw [← findSome?_tasksOf_eq_some_iff, visitClasses, ← tasksOf]
  simp only
  cases (Task.inTurns false (tasksOf entries) turns).findSome? Action.fault? with
  | none => exact iff_of_false nofun nofun
  | some cause => simp

/-- A class file that is none is a fault, whatever turns are taken. -/
theorem findSome?_tasksOf_ne_none {entry : Archive.ClassEntry} {fault : VisitFault}
    (member : entry ∈ entries) (failed : entry.javaClass = .error fault) (turns : Turns) :
    (Task.inTurns false (tasksOf entries) turns).findSome? Action.fault? ≠ none := by
  rw [Task.findSome?_inTurns decided_tasksOf, Ne, List.findSome?_eq_none_iff]
  intro none
  rcases List.mem_iff_getElem?.mp member with ⟨position, found⟩
  have refused := getElem?_tasksOf_eq_some_iff.mpr ⟨entry, found, failed⟩
  have within : position < (tasksOf entries).length := by
    rw [tasksOf, List.length_map, List.length_map]
    exact (List.getElem?_eq_some_iff.mp found).1
  rw [none position (List.mem_append_right _ (List.mem_range.mpr within))] at refused
  contradiction

theorem visitClasses_eq_ok_iff {block : Block} :
    (visitClasses filter turns entries).result = .ok block ↔
      ∃ classes, entries.mapM Archive.ClassEntry.javaClass = .ok classes ∧
        classes.foldr (Block.cons filter) .empty = block := by
  rw [visitClasses, ← tasksOf]
  cases decoded : entries.mapM Archive.ClassEntry.javaClass with
  | error fault =>
      rcases Fallible.mapM_eq_error_iff.mp decoded with ⟨front, entry, back, split, -, failed⟩
      have member : entry ∈ entries := by simp [split]
      rcases Option.ne_none_iff_exists'.mp (findSome?_tasksOf_ne_none member failed turns) with
        ⟨cause, refused⟩
      simp [refused]
  | ok classes =>
      have unrefused : (Task.inTurns false (tasksOf entries) turns).findSome? Action.fault? =
          none := by
        by_contra refused
        rcases Option.ne_none_iff_exists'.mp refused with ⟨cause, refused⟩
        rcases findSome?_tasksOf_eq_some_iff.mp refused with ⟨entry, first, failed⟩
        rcases Fallible.exists_of_mapM_eq_ok decoded first.mem.1 with ⟨javaClass, found⟩
        rw [failed] at found
        contradiction
      have kept : (entries.map Archive.ClassEntry.javaClass).filterMap Except.toOption =
          classes := by
        rw [Fallible.mapM_eq_ok_iff.mp decoded, List.filterMap_map]
        exact List.filterMap_some
      simp [unrefused, kept]

theorem exists_of_mem_events_visitClasses {event : Event}
    (reported : event ∈ (visitClasses filter turns entries).events) :
    ∃ entry ∈ entries, ∃ javaClass, entry.javaClass = .ok javaClass ∧ event ∈ javaClass.events := by
  rcases List.mem_filterMap.mp reported with ⟨action, done, reports⟩
  rcases Task.exists_of_mem_inTurns done with ⟨task, listed, inside⟩
  rw [List.map_map] at listed
  rcases List.mem_map.mp listed with ⟨entry, member, rfl⟩
  rw [Function.comp_apply] at inside
  refine ⟨entry, member, ?_⟩
  cases found : entry.javaClass with
  | error fault =>
      rw [found, Task.ofClass, List.mem_singleton] at inside
      subst inside
      contradiction
  | ok javaClass =>
      rw [found] at inside
      rcases List.mem_map.mp inside with ⟨other, member, rfl⟩
      cases reports
      exact ⟨javaClass, rfl, member⟩

/-- If all class files are classes, all their events are reported, those of each class in order. -/
theorem events_visitClasses {classes : List JavaClass}
    (decoded : entries.mapM Archive.ClassEntry.javaClass = .ok classes) :
    (visitClasses filter turns entries).events.Perm (classes.flatMap JavaClass.events) ∧
      ∀ javaClass ∈ classes,
        javaClass.events.Sublist (visitClasses filter turns entries).events := by
  have reports : ∀ javaClass : JavaClass,
      (Task.ofClass (.ok javaClass)).actions.filterMap Action.event? = javaClass.events := by
    intro javaClass
    rw [Task.ofClass, List.filterMap_map]
    exact List.filterMap_some
  have unrefused : ∀ task ∈ (classes.map .ok).map Task.ofClass, task.fault? = none := by
    intro task listed
    rw [List.map_map] at listed
    rcases List.mem_map.mp listed with ⟨javaClass, -, rfl⟩
    by_contra refused
    rcases Option.ne_none_iff_exists'.mp refused with ⟨cause, refused⟩
    cases Task.fault?_ofClass_eq_some_iff.mp refused
  rw [visitClasses, Fallible.mapM_eq_ok_iff.mp decoded]
  constructor
  · have all : (((classes.map .ok).map Task.ofClass).flatMap Task.actions).filterMap
        Action.event? = classes.flatMap JavaClass.events := by
      rw [List.map_map, List.flatMap_map, List.filterMap_flatMap]
      exact congrArg (List.flatMap · classes) (funext reports)
    rw [← all]
    exact (Task.perm_inTurns unrefused).filterMap _
  · intro javaClass member
    rw [← reports]
    apply List.Sublist.filterMap
    rcases List.mem_iff_getElem?.mp member with ⟨position, found⟩
    have listed : ((classes.map .ok).map Task.ofClass)[position]? =
        some (Task.ofClass (.ok javaClass)) := by
      rw [List.getElem?_map, List.getElem?_map, found]
      rfl
    exact Task.sublist_inTurns unrefused listed

/-- What a visit yields does not depend on the turns. -/
theorem visit_eq_ok_of_eq_ok {path : String} {lookup : Lookup} {block? : Option Block}
    (visited : (visit filter turns path lookup).result = .ok block?) (other : Turns) :
    (visit filter other path lookup).result = .ok block? := by
  cases lookup with
  | missing => exact visited
  | unreadable => exact visited
  | archive archive =>
      rw [visit, visitArchive] at visited ⊢
      cases read : archive.classEntries filter with
      | error fault =>
          rw [read] at visited
          exact visited
      | ok entries =>
          rw [read] at visited
          rcases Fallible.map_eq_ok_iff.mp visited with ⟨block, found, rfl⟩
          have same : (visitClasses filter other entries).result = .ok block :=
            visitClasses_eq_ok_iff.mpr (visitClasses_eq_ok_iff.mp found)
          exact Fallible.map_eq_ok_iff.mpr ⟨block, same, rfl⟩

/-- Whatever turns are taken, a visit has the same result, but for the class file that is named if
some of them are none. -/
theorem visit_result_alike (filter : IdentifierFilter) (one other : Turns) (path : String)
    (lookup : Lookup) :
    (visit filter one path lookup).result = (visit filter other path lookup).result ∨
      ∃ name cause otherName otherCause,
        (visit filter one path lookup).result = .error (.undecodable name cause) ∧
          (visit filter other path lookup).result =
            .error (.undecodable otherName otherCause) := by
  have named : ∀ {turns} {entries : List Archive.ClassEntry} {fault : VisitFault},
      (visitClasses filter turns entries).result = .error fault →
        ∃ name cause, fault = .undecodable name cause := by
    intro turns entries fault failed
    rcases visitClasses_eq_error_iff.mp failed with ⟨entry, -, failed⟩
    rcases Archive.ClassEntry.javaClass_eq_error_iff.mp failed with ⟨cause, -, rfl⟩
    exact ⟨_, _, rfl⟩
  cases visited : (visit filter one path lookup).result with
  | ok block? => exact .inl (visit_eq_ok_of_eq_ok visited other).symm
  | error fault =>
      cases visitedOther : (visit filter other path lookup).result with
      | ok block? =>
          rw [visit_eq_ok_of_eq_ok visitedOther one] at visited
          contradiction
      | error otherFault =>
          cases lookup with
          | missing => contradiction
          | unreadable => contradiction
          | archive archive =>
              rw [visit, visitArchive] at visited visitedOther
              cases read : archive.classEntries filter with
              | error cause =>
                  rw [read] at visited visitedOther
                  exact .inl (visited.symm.trans visitedOther)
              | ok entries =>
                  rw [read] at visited visitedOther
                  rcases named (Fallible.map_eq_error_iff.mp visited) with ⟨name, cause, rfl⟩
                  rcases named (Fallible.map_eq_error_iff.mp visitedOther) with
                    ⟨otherName, otherCause, rfl⟩
                  exact .inr ⟨name, cause, otherName, otherCause, rfl, rfl⟩

/-- Turns decide about nothing that is reported but traces. -/
theorem filter_events_visit (filter : IdentifierFilter) (one other : Turns) (path : String)
    (lookup : Lookup) :
    (visit filter one path lookup).events.filter (·.level ≠ .trace) =
      (visit filter other path lookup).events.filter (·.level ≠ .trace) := by
  have traces : ∀ turns entries,
      (visitClasses filter turns entries).events.filter (·.level ≠ .trace) = [] := by
    intro turns entries
    rw [List.filter_eq_nil_iff]
    intro event reported
    rcases exists_of_mem_events_visitClasses reported with ⟨_, -, javaClass, -, member⟩
    rcases JavaClass.exists_eq_bootstrapMissing member with ⟨methodName, offset, index, rfl⟩
    simp [Event.level]
  cases lookup with
  | missing => rfl
  | unreadable => rfl
  | archive archive =>
      rw [visit, visit, visitArchive, visitArchive]
      cases archive.classEntries filter with
      | error cause => rfl
      | ok entries =>
          simp only
          rw [List.filter_cons, List.filter_cons, traces one entries, traces other entries]

/-- If nothing is refused, the same is reported in another order. -/
theorem perm_events_visit {path : String} {lookup : Lookup} {block? : Option Block}
    (visited : (visit filter turns path lookup).result = .ok block?) (other : Turns) :
    (visit filter turns path lookup).events.Perm (visit filter other path lookup).events := by
  cases lookup with
  | missing => exact .refl _
  | unreadable => exact .refl _
  | archive archive =>
      rw [visit, visitArchive] at visited
      rw [visit, visit, visitArchive, visitArchive]
      cases read : archive.classEntries filter with
      | error cause => exact .refl _
      | ok entries =>
          rw [read] at visited
          rcases Fallible.map_eq_ok_iff.mp visited with ⟨block, found, -⟩
          rcases visitClasses_eq_ok_iff.mp found with ⟨classes, decoded, -⟩
          exact ((events_visitClasses decoded).1.trans (events_visitClasses decoded).1.symm).cons _

end Classes

end CallGraph
