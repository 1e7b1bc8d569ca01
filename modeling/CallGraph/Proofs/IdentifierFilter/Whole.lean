import CallGraph.Proofs.IdentifierFilter.Lists
import CallGraph.Proofs.Pattern.Bounds

/-!
# Whole identifiers

A fragment that is kept matches whole identifiers only: what it becomes by the anchors around it
matches an identifier if and only if the fragment matches from its start to its end.  Alternatives,
anchors, groups and flags of the fragment stay inside the group that is put around it, so they make
no exception, and neither do line breaks in an identifier.
-/

namespace CallGraph

namespace Pattern

namespace Regex

variable {text : Text} {inner : Regex} {start stop : Nat}

/-- Between anchors a regular expression matches from the start of the text to its end. -/
theorem matches_anchored_iff :
    Matches text inner.anchored start stop ↔
      start = 0 ∧ stop = text.size ∧ Matches text inner 0 text.size := by
  constructor
  · intro matched
    cases matched with
    | cat front rest =>
        cases front with
        | look atStart =>
            cases rest with
            | cat matched back =>
                cases back with
                | look atEnd =>
                    obtain rfl : start = 0 := beq_iff_eq.mp atStart
                    obtain rfl : stop = text.size := beq_iff_eq.mp atEnd
                    exact ⟨rfl, rfl, matched⟩
  · rintro ⟨rfl, rfl, matched⟩
    exact .cat (.look (beq_iff_eq.mpr rfl)) (.cat matched (.look (beq_iff_eq.mpr rfl)))

theorem isMatch_anchored_iff (ordered : inner.Ordered) (identifier : String) :
    inner.anchored.isMatch identifier = true ↔
      Matches identifier.toList.toArray inner 0 identifier.length := by
  have anchoredOrdered : inner.anchored.Ordered := ⟨trivial, ordered, trivial⟩
  have size : identifier.toList.toArray.size = identifier.length := by
    rw [List.size_toArray, String.length_toList]
  rw [isMatch_iff anchoredOrdered, ← size]
  simp only [matches_anchored_iff]
  constructor
  · rintro ⟨_, _, -, -, -, matched⟩
    exact matched
  · intro matched
    exact ⟨0, _, Nat.zero_le _, rfl, rfl, matched⟩

end Regex

end Pattern

namespace IdentifierFilter

open Pattern

variable {fragment : String} {regex : Regex}

/-- A pattern matches an identifier from start to end. -/
def MatchesWhole (pattern identifier : String) : Prop :=
  ∃ regex, compile pattern = .ok regex ∧
    Regex.Matches identifier.toList.toArray regex 0 identifier.length

theorem compileFragment_eq_ok_iff :
    compileFragment fragment = .ok regex ↔
      (∃ inner, compile (fragment ++ "$") = .ok inner) ∧
        compile (anchoredText fragment) = .ok regex := by
  rw [compileFragment, Fallible.bind_eq_ok_iff]
  constructor
  · rintro ⟨_, found, kept⟩
    obtain ⟨inner, found, -⟩ := Fallible.map_eq_ok_iff.mp found
    exact ⟨⟨inner, found⟩, kept⟩
  · rintro ⟨⟨inner, found⟩, kept⟩
    exact ⟨_, Fallible.map_eq_ok_iff.mpr ⟨inner, found, rfl⟩, kept⟩

/-- The pattern of a fragment is the anchored regular expression of the fragment with a dollar sign
behind it: nothing in the fragment reaches beyond the group around it. -/
theorem eq_anchored_of_compileFragment (kept : compileFragment fragment = .ok regex) :
    ∃ inner, compile (fragment ++ "$") = .ok inner ∧ regex = inner.anchored := by
  obtain ⟨⟨whole, found⟩, kept⟩ := compileFragment_eq_ok_iff.mp kept
  have wrapped : ∀ ended, readTree (fragment.toList ++ ['$']) = .ok ended →
      readTree (wrapped fragment.toList) = .ok ended.anchored →
        ∃ inner, compile (fragment ++ "$") = .ok inner ∧ regex = inner.anchored := by
    intro ended dollar wrap
    rw [← toList_anchoredText] at wrap
    rw [← toList_append_dollar] at dollar
    rw [compile_of_readTree wrap] at kept
    rw [compile_of_readTree dollar]
    exact Tree.exists_limited_of_anchored kept
  cases anchoring fragment.toList with
  | pattern tree ended grows alone dollar wrap closing => exact wrapped ended dollar wrap
  | escape ended backslash alone dollar wrap => exact wrapped ended dollar wrap
  | comment hash swallows wrap =>
      rw [← toList_anchoredText] at wrap
      obtain ⟨fault, failed⟩ := compile_of_error wrap
      rw [failed] at kept
      contradiction
  | none alone dollar =>
      rw [← toList_append_dollar] at dollar
      obtain ⟨fault, failed⟩ := compile_of_error dollar
      rw [failed] at found
      contradiction

theorem exists_of_isKept (kept : isKept fragment = true) :
    ∃ regex, compileFragment fragment = .ok regex := by
  rw [isKept] at kept
  cases compiled : compileFragment fragment with
  | ok regex => exact ⟨regex, rfl⟩
  | error fault =>
      rw [compiled] at kept
      contradiction

theorem isMatch_iff_matchesWhole (kept : compileFragment fragment = .ok regex)
    (identifier : String) :
    regex.isMatch identifier = true ↔ MatchesWhole (fragment ++ "$") identifier := by
  obtain ⟨inner, found, rfl⟩ := eq_anchored_of_compileFragment kept
  rw [Regex.isMatch_anchored_iff (compile_ordered found), MatchesWhole]
  simp [found]

/-! ## Lists -/

/-- The patterns of a filter are those of the fragments that are kept. -/
theorem mem_patterns_iff {list : String} :
    regex ∈ (ofList list).patterns ↔
      ∃ fragment ∈ fragments list, compileFragment fragment = .ok regex := by
  rw [ofList, List.mem_filterMap]
  simp only [Fallible.toOption_eq_some_iff]

/-- A list of which a fragment is kept accepts what one of the kept fragments matches from start to
end. -/
theorem accepts_iff_of_kept {list : String}
    (some : ∃ fragment ∈ fragments list, isKept fragment = true) (identifier : String) :
    (ofList list).accepts identifier = true ↔
      ∃ fragment ∈ fragments list, isKept fragment = true ∧
        MatchesWhole (fragment ++ "$") identifier := by
  obtain ⟨fragment, member, kept⟩ := some
  obtain ⟨regex, compiled⟩ := exists_of_isKept kept
  have nonempty : (ofList list).patterns ≠ [] :=
    List.ne_nil_of_mem (mem_patterns_iff.mpr ⟨fragment, member, compiled⟩)
  rw [accepts, List.isEmpty_eq_false_iff.mpr nonempty, Bool.false_or, List.any_eq_true]
  constructor
  · rintro ⟨regex, member, matched⟩
    obtain ⟨fragment, member, compiled⟩ := mem_patterns_iff.mp member
    exact ⟨fragment, member, isKept_of_ok compiled,
      (isMatch_iff_matchesWhole compiled identifier).mp matched⟩
  · rintro ⟨fragment, member, kept, whole⟩
    obtain ⟨regex, compiled⟩ := exists_of_isKept kept
    exact ⟨regex, mem_patterns_iff.mpr ⟨fragment, member, compiled⟩,
      (isMatch_iff_matchesWhole compiled identifier).mpr whole⟩

theorem accepts_of_none_kept {list : String}
    (none : ∀ fragment ∈ fragments list, isKept fragment = false) (identifier : String) :
    (ofList list).accepts identifier = true := by
  have empty : (ofList list).patterns = [] := by
    rw [List.eq_nil_iff_forall_not_mem]
    intro regex member
    obtain ⟨fragment, member, compiled⟩ := mem_patterns_iff.mp member
    have kept := isKept_of_ok compiled
    rw [none fragment member] at kept
    contradiction
  rw [accepts, empty]
  rfl

/-- The pattern of a kept fragment matches an identifier if and only if the fragment with a dollar
sign matches from its start to its end.  A filter accepts what one of its patterns matches so;
without any, it accepts every identifier. -/
theorem accepts_ofList :
    (∀ fragment regex, compileFragment fragment = .ok regex →
      ∃ inner, compile (fragment ++ "$") = .ok inner ∧
        compile ("^(?:" ++ (fragment ++ "$") ++ ")$") = .ok regex ∧
        ∀ identifier : String, regex.isMatch identifier = true ↔
          Regex.Matches identifier.toList.toArray inner 0 identifier.length) ∧
    ∀ list identifier,
      ((∃ fragment ∈ fragments list, isKept fragment = true) →
        ((ofList list).accepts identifier = true ↔
          ∃ fragment ∈ fragments list, isKept fragment = true ∧
            MatchesWhole (fragment ++ "$") identifier)) ∧
      ((∀ fragment ∈ fragments list, isKept fragment = false) →
        (ofList list).accepts identifier = true) := by
  refine ⟨fun fragment regex kept => ?_, fun list identifier =>
    ⟨fun some => accepts_iff_of_kept some identifier,
      fun none => accepts_of_none_kept none identifier⟩⟩
  obtain ⟨inner, found, rfl⟩ := eq_anchored_of_compileFragment kept
  exact ⟨inner, found, (compileFragment_eq_ok_iff.mp kept).2,
    Regex.isMatch_anchored_iff (compile_ordered found)⟩

/-- Each of two alternatives has to match the whole identifier, and so has a fragment whose dollar
sign stands for the end of a line. -/
theorem accepts_ofList_alternatives :
    MatchesWhole ("a|bc" ++ "$") "bc" ∧ ¬MatchesWhole ("a|bc" ++ "$") "abc" ∧
      ¬MatchesWhole ("(?m)a" ++ "$") "a\nb" := by
  obtain ⟨-, accepts⟩ := accepts_ofList
  have alone : ∀ fragment ∈ ["a|bc", "(?m)a"], ∀ identifier,
      ((ofList fragment).accepts identifier = true ↔
        MatchesWhole (fragment ++ "$") identifier) := by
    have kept : ∀ fragment ∈ ["a|bc", "(?m)a"],
        fragments fragment = [fragment] ∧ isKept fragment = true := by decide +kernel
    intro fragment member identifier
    obtain ⟨single, kept⟩ := kept fragment member
    have found := (accepts fragment identifier).1
    simpa [single, kept] using found
  refine ⟨(alone "a|bc" (by simp) "bc").mp (by decide +kernel), fun whole => ?_, fun whole => ?_⟩
  · exact absurd ((alone "a|bc" (by simp) "abc").mpr whole) (by decide +kernel)
  · exact absurd ((alone "(?m)a" (by simp) "a\nb").mpr whole) (by decide +kernel)

end IdentifierFilter

end CallGraph
