import CallGraph.Proofs.IdentifierFilter.Whole
import Mathlib.Logic.Relation

/-!
# Unions of lists of patterns

Two lists with a comma between them keep the patterns of both and report what both report.  They
accept what one of them accepts, unless one has no pattern: a filter without patterns accepts
everything, but beside patterns it counts for nothing.  So what a list accepts depends only on the
fragments that it keeps, not on their order, not on how often each of them stands in the list, and
not on what is empty or no pattern.
-/

namespace CallGraph

namespace IdentifierFilter

theorem fragments_append (first second : String) :
    fragments (first ++ "," ++ second) = fragments first ++ fragments second :=
  Split.fragments_append ',' first second

theorem patterns_append (first second : String) :
    (ofList (first ++ "," ++ second)).patterns =
      (ofList first).patterns ++ (ofList second).patterns := by
  simp only [ofList, fragments_append, List.filterMap_append]

theorem eventsOfList_append (first second : String) :
    eventsOfList (first ++ "," ++ second) = eventsOfList first ++ eventsOfList second := by
  simp only [eventsOfList, fragments_append, List.filterMap_append]

/-- A list stands for two lists together: it keeps the patterns of both and reports what both
report.  A list without patterns would accept everything, so it only counts if it stands alone. -/
structure Unites (first second list : String) : Prop where
  patterns_eq : (ofList list).patterns = (ofList first).patterns ++ (ofList second).patterns
  length_eq : (ofList list).patterns.length =
    (ofList first).patterns.length + (ofList second).patterns.length
  events_eq : eventsOfList list = eventsOfList first ++ eventsOfList second
  /-- Both lists keep a pattern. -/
  accepts_eq_or : (ofList first).patterns ≠ [] → (ofList second).patterns ≠ [] → ∀ identifier,
    (ofList list).accepts identifier =
      ((ofList first).accepts identifier || (ofList second).accepts identifier)
  /-- The first list keeps none. -/
  accepts_eq_second : (ofList first).patterns = [] → ∀ identifier,
    (ofList list).accepts identifier = (ofList second).accepts identifier
  /-- The second list keeps none. -/
  accepts_eq_first : (ofList second).patterns = [] → ∀ identifier,
    (ofList list).accepts identifier = (ofList first).accepts identifier

/-- Two lists are united by a comma between them. -/
theorem unites_append (first second : String) : Unites first second (first ++ "," ++ second) where
  patterns_eq := patterns_append first second
  length_eq := by rw [patterns_append, List.length_append]
  events_eq := eventsOfList_append first second
  accepts_eq_or some others identifier := by
    have alone := List.isEmpty_eq_false_iff.mpr some
    have other := List.isEmpty_eq_false_iff.mpr others
    have together : ((ofList first).patterns ++ (ofList second).patterns).isEmpty = false :=
      List.isEmpty_eq_false_iff.mpr (List.append_ne_nil_of_left_ne_nil some _)
    simp only [accepts, patterns_append, alone, other, together, Bool.false_or, List.any_append]
  accepts_eq_second none identifier := by
    rw [accepts, accepts, patterns_append, none, List.nil_append]
  accepts_eq_first none identifier := by
    rw [accepts, accepts, patterns_append, none, List.append_nil]

theorem patterns_ne_nil_iff {list : String} :
    (ofList list).patterns ≠ [] ↔ ∃ fragment ∈ fragments list, isKept fragment = true := by
  constructor
  · intro some
    obtain ⟨regex, member⟩ := List.exists_mem_of_ne_nil _ some
    obtain ⟨fragment, member, compiled⟩ := mem_patterns_iff.mp member
    exact ⟨fragment, member, isKept_of_ok compiled⟩
  · rintro ⟨fragment, member, kept⟩
    obtain ⟨regex, compiled⟩ := exists_of_isKept kept
    exact List.ne_nil_of_mem (mem_patterns_iff.mpr ⟨fragment, member, compiled⟩)

variable {before after : String}

theorem patterns_ne_nil_congr
    (same : ∀ fragment, isKept fragment = true →
      (fragment ∈ fragments before ↔ fragment ∈ fragments after)) :
    (ofList before).patterns ≠ [] ↔ (ofList after).patterns ≠ [] := by
  rw [patterns_ne_nil_iff, patterns_ne_nil_iff]
  exact exists_congr fun fragment => and_congr_left (same fragment)

/-- Lists that keep the same fragments accept the same identifiers. -/
theorem accepts_congr
    (same : ∀ fragment, isKept fragment = true →
      (fragment ∈ fragments before ↔ fragment ∈ fragments after)) (identifier : String) :
    (ofList before).accepts identifier = (ofList after).accepts identifier := by
  have together := patterns_ne_nil_congr same
  by_cases none : (ofList before).patterns = []
  · have noOther := not_ne_iff.mp (mt together.mpr (not_ne_iff.mpr none))
    rw [accepts, accepts, none, noOther]
  · have some := patterns_ne_nil_iff.mp none
    have others := patterns_ne_nil_iff.mp (together.mp none)
    rw [Bool.eq_iff_iff, accepts_iff_of_kept some, accepts_iff_of_kept others]
    exact exists_congr fun fragment => and_congr_left fun found => same fragment found.1

/-! ## Edits -/

/-- The parts of a list between its commas, empty ones included. -/
def parts (list : String) : List String :=
  (Split.splitAt ',' list.toList).map String.ofList

theorem mem_fragments_iff {list fragment : String} :
    fragment ∈ fragments list ↔ fragment ≠ "" ∧ fragment ∈ parts list := by
  simp only [fragments, Split.fragments, parts, List.mem_map, List.mem_filter]
  constructor
  · rintro ⟨part, ⟨member, filled⟩, rfl⟩
    refine ⟨?_, part, member, rfl⟩
    simpa [String.ofList_eq_empty_iff] using filled
  · rintro ⟨filled, part, member, rfl⟩
    refine ⟨part, ⟨member, ?_⟩, rfl⟩
    simpa [String.ofList_eq_empty_iff] using filled

/-- A change of the parts of a list that changes no fragment which is kept. -/
inductive Edit : List String → List String → Prop where
  /-- The parts are put into another order. -/
  | reorder {before after : List String} (same : before.Perm after) : Edit before after
  /-- A part is written once more, anywhere. -/
  | duplicate {front back : List String} {part : String} (member : part ∈ front ++ back) :
      Edit (front ++ back) (front ++ part :: back)
  /-- A part that is empty or that would be left out is put in, anywhere. -/
  | insert {front back : List String} {part : String} (idle : part = "" ∨ isKept part = false) :
      Edit (front ++ back) (front ++ part :: back)

/-- An edit brings in no fragment that is kept, and takes none away. -/
theorem Edit.mem_iff {before after : List String} (edit : Edit before after) {fragment : String}
    (filled : fragment ≠ "") (kept : isKept fragment = true) :
    fragment ∈ before ↔ fragment ∈ after := by
  cases edit with
  | reorder same => exact same.mem_iff
  | duplicate member =>
      rw [List.perm_middle.mem_iff, List.mem_cons]
      constructor
      · exact .inr
      · rintro (rfl | member)
        · exact member
        · exact member
  | insert idle =>
      rw [List.perm_middle.mem_iff, List.mem_cons]
      constructor
      · exact .inr
      · rintro (rfl | member)
        · rcases idle with rfl | dropped
          · contradiction
          · rw [dropped] at kept
            contradiction
        · exact member

/-- Neither do edits one after the other, be they made or taken back. -/
theorem mem_iff_of_edits {before after : List String} (edits : Relation.EqvGen Edit before after)
    {fragment : String} (filled : fragment ≠ "") (kept : isKept fragment = true) :
    fragment ∈ before ↔ fragment ∈ after := by
  induction edits with
  | rel before after edit => exact edit.mem_iff filled kept
  | refl list => rfl
  | symm before after _ ih => exact ih.symm
  | trans before middle after _ _ first second => exact first.trans second

theorem mem_fragments_iff_of_edits (edits : Relation.EqvGen Edit (parts before) (parts after))
    (fragment : String) (kept : isKept fragment = true) :
    fragment ∈ fragments before ↔ fragment ∈ fragments after := by
  rw [mem_fragments_iff, mem_fragments_iff]
  exact and_congr_right fun filled => mem_iff_of_edits edits filled kept

/-- Two lists with a comma between them are united.  Reordering the parts of a list, repeating
them, and putting in parts that are empty or left out changes nothing that the list accepts. -/
theorem ofList_unions :
    (∀ first second : String, Unites first second (first ++ "," ++ second)) ∧
      ∀ before after : String, Relation.EqvGen Edit (parts before) (parts after) →
        ((ofList before).patterns ≠ [] ↔ (ofList after).patterns ≠ []) ∧
        ∀ identifier, (ofList before).accepts identifier = (ofList after).accepts identifier := by
  refine ⟨unites_append, fun before after edits => ?_⟩
  have same := mem_fragments_iff_of_edits edits
  exact ⟨patterns_ne_nil_congr same, accepts_congr same⟩

/-- A class in front of a package instead of behind it, and once more behind nothing and a bracket
that is not closed. -/
theorem ofList_unions_reordered :
    Relation.EqvGen Edit (parts "java\\..*,Main") (parts "Main,java\\..*,,[,Main") ∧
      ∀ identifier, (ofList "java\\..*,Main").accepts identifier =
        (ofList "Main,java\\..*,,[,Main").accepts identifier := by
  have edits : Relation.EqvGen Edit (parts "java\\..*,Main")
      (parts "Main,java\\..*,,[,Main") := by
    have dropped : isKept "[" = false := by decide +kernel
    have repeated : Edit ([] ++ ["java\\..*", "Main"]) ["Main", "java\\..*", "Main"] :=
      .duplicate (by decide)
    have filled : Edit (["Main", "java\\..*"] ++ ["Main"]) ["Main", "java\\..*", "", "Main"] :=
      .insert (.inl rfl)
    have opened : Edit (["Main", "java\\..*", ""] ++ ["Main"])
        ["Main", "java\\..*", "", "[", "Main"] := .insert (.inr dropped)
    exact .trans _ _ _ (.rel _ _ repeated) (.trans _ _ _ (.rel _ _ filled) (.rel _ _ opened))
  exact ⟨edits, (ofList_unions.2 _ _ edits).2⟩

end IdentifierFilter

end CallGraph
