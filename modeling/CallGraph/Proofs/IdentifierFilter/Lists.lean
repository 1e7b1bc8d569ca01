import CallGraph.Proofs.IdentifierFilter.Fragments
import CallGraph.Proofs.Text.Split

/-!
# Lists of patterns

A list with a comma between two fragments is split into these fragments.  Each of them is kept or
reported by itself, in the order of the list, and what is reported makes no difference to what the
filter accepts.  So a list keeps exactly what is a pattern if and only if all its fragments are
ordinary.
-/

namespace CallGraph

namespace IdentifierFilter

open Pattern

variable {fragment : String}

theorem isKept_of_ok {regex : Regex} (compiled : compileFragment fragment = .ok regex) :
    isKept fragment = true := by
  rw [isKept, compiled]
  rfl

theorem isKept_of_error {fault : Fault} (compiled : compileFragment fragment = .error fault) :
    isKept fragment = false := by
  rw [isKept, compiled]
  rfl

/-- The patterns of a filter are those of the fragments that are kept, in order. -/
theorem patterns_ofList (list : String) :
    (ofList list).patterns.map .ok = ((fragments list).filter isKept).map compileFragment := by
  rw [ofList]
  induction fragments list with
  | nil => rfl
  | cons fragment fragments ih =>
      simp only at ih ⊢
      cases compiled : compileFragment fragment with
      | error fault =>
          rw [List.filterMap_cons_none (by rw [compiled]; rfl),
            List.filter_cons_of_neg (by simp [isKept_of_error compiled]), ih]
      | ok regex =>
          rw [List.filterMap_cons_some (by rw [compiled]; rfl),
            List.filter_cons_of_pos (isKept_of_ok compiled), List.map_cons, List.map_cons, ih,
            compiled]

theorem eventsOfList_eq (list : String) :
    eventsOfList list = ((fragments list).filter (!isKept ·)).map .patternIgnored := by
  rw [eventsOfList]
  induction fragments list with
  | nil => rfl
  | cons fragment fragments ih =>
      cases compiled : compileFragment fragment with
      | error fault =>
          rw [List.filterMap_cons_some (by rw [compiled]),
            List.filter_cons_of_pos (by simp [isKept_of_error compiled]), List.map_cons, ih]
      | ok regex =>
          rw [List.filterMap_cons_none (by rw [compiled]),
            List.filter_cons_of_neg (by simp [isKept_of_ok compiled]), ih]

/-- What is left out makes no difference to what the filter accepts. -/
theorem patterns_ofList_kept (list : String) :
    (ofList (",".intercalate ((fragments list).filter isKept))).patterns =
      (ofList list).patterns := by
  have whole : ∀ fragment ∈ (fragments list).filter isKept,
      fragment ≠ "" ∧ ',' ∉ fragment.toList :=
    fun _ member => Split.of_mem_fragments (List.mem_filter.mp member).1
  have split : fragments (",".intercalate ((fragments list).filter isKept)) =
      (fragments list).filter isKept := Split.fragments_intercalate whole
  have same := patterns_ofList (",".intercalate ((fragments list).filter isKept))
  simp only [split, List.filter_filter, Bool.and_self] at same
  rw [← patterns_ofList] at same
  exact List.map_injective_iff.mpr (fun _ _ => Except.ok.inj) same

/-- The filter keeps exactly what is a pattern, in order, reports each other fragment once, and
accepts what it would accept without them. -/
structure KeepsPatterns (list : String) : Prop where
  patterns : (ofList list).patterns.map .ok =
    ((fragments list).filter isPattern).map compileFragment
  events : eventsOfList list = ((fragments list).filter (!isPattern ·)).map .patternIgnored
  accepts : ∀ identifier, (ofList list).accepts identifier =
    (ofList (",".intercalate ((fragments list).filter isPattern))).accepts identifier

theorem keepsPatterns_of_forall {list : String}
    (same : ∀ fragment ∈ fragments list, isKept fragment = isPattern fragment) :
    KeepsPatterns list where
  patterns := by rw [patterns_ofList, List.filter_congr same]
  events := by
    rw [eventsOfList_eq]
    congr 1
    exact List.filter_congr fun fragment member => by rw [same fragment member]
  accepts identifier := by
    rw [accepts, accepts, ← List.filter_congr same, patterns_ofList_kept]

theorem forall_of_keepsPatterns {list : String} (keeps : KeepsPatterns list) :
    ∀ fragment ∈ fragments list, isKept fragment = isPattern fragment := by
  have reported := keeps.events
  rw [eventsOfList_eq] at reported
  have dropped := List.map_injective_iff.mpr (fun _ _ => Event.patternIgnored.inj) reported
  intro fragment member
  have both : fragment ∈ (fragments list).filter (!isKept ·) ↔
      fragment ∈ (fragments list).filter (!isPattern ·) := by rw [dropped]
  rw [List.mem_filter, List.mem_filter, and_iff_right member, and_iff_right member,
    ← Bool.eq_iff_iff] at both
  exact Bool.not_inj both

/-- Whatever is reported about a list is a warning, and exactly the lists of ordinary fragments keep
what is a pattern and nothing else. -/
theorem keepsPatterns_iff (list : String) :
    (∀ event ∈ eventsOfList list, event.level = .warn) ∧
      (KeepsPatterns list ↔ ∀ fragment ∈ fragments list, IsOrdinary fragment) := by
  constructor
  · rw [eventsOfList_eq, List.forall_mem_map]
    exact fun _ _ => rfl
  · simp only [← isKept_eq_isPattern_iff]
    exact ⟨forall_of_keepsPatterns, keepsPatterns_of_forall⟩

/-- The list of a package, nothing, a bracket that is not closed and a class keeps two patterns. -/
theorem keepsPatterns_packageAndClass :
    KeepsPatterns "java\\.util\\..*,,[,Main" ∧
      (fragments "java\\.util\\..*,,[,Main").filter isPattern = ["java\\.util\\..*", "Main"] := by
  have same : ∀ fragment ∈ fragments "java\\.util\\..*,,[,Main",
      isKept fragment = isPattern fragment := by decide +kernel
  refine ⟨(keepsPatterns_iff _).2.mpr fun fragment member => ?_, by decide +kernel⟩
  exact (isKept_eq_isPattern_iff fragment).mp (same fragment member)

/-- The dollar sign completes the escape that a backslash at the end begins, and a comment takes in
the parenthesis behind it: what is no pattern is kept, and what is one is left out. -/
theorem not_keepsPatterns_of_backslash :
    ¬KeepsPatterns "a\\" ∧ isPattern "a\\" = false ∧ eventsOfList "a\\" = [] ∧
      (ofList "a\\").patterns.length = 1 ∧ (ofList "a\\").accepts "a$" = true ∧
      (ofList "a\\").accepts "b" = false ∧
      isPattern "(?x)a#b" = true ∧ (ofList "(?x)a#b").patterns = [] ∧
      eventsOfList "(?x)a#b" = [.patternIgnored "(?x)a#b"] := by
  refine ⟨fun keeps => ?_, by decide +kernel⟩
  exact absurd (forall_of_keepsPatterns keeps "a\\" (by decide +kernel)) (by decide +kernel)

end IdentifierFilter

end CallGraph
