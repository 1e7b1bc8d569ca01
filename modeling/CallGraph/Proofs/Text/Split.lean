import CallGraph.Text.Split
import Mathlib.Data.List.Basic

/-!
# Parts of a text

Texts that are each ended by a separator are split one by one, and so are texts with a separator
between them; they are found again as the parts if none of them holds the separator.  There are as
many parts as texts only if that is so.
-/

namespace CallGraph

namespace Split

variable {separator : Char}

theorem length_splitAt (separator : Char) (text : List Char) :
    (splitAt separator text).length = text.count separator + 1 := by
  induction text with
  | nil => rfl
  | cons letter text ih =>
      by_cases same : letter = separator
      · rw [splitAt, if_pos same, List.length_cons, ih, same, List.count_cons_self]
      · rw [splitAt, if_neg same, List.count_cons_of_ne same, ← ih]
        cases parts : splitAt separator text with
        | nil => exact absurd parts (splitAt_ne_nil separator text)
        | cons part parts => rfl

theorem splitAt_of_not_mem {text : List Char} (absent : separator ∉ text) :
    splitAt separator text = [text] := by
  induction text with
  | nil => rfl
  | cons letter text ih =>
      rw [List.mem_cons, not_or] at absent
      rw [splitAt, if_neg (Ne.symm absent.1), ih absent.2]

theorem not_mem_of_mem_splitAt {text part : List Char} (member : part ∈ splitAt separator text) :
    separator ∉ part := by
  induction text generalizing part with
  | nil =>
      rw [splitAt, List.mem_singleton] at member
      simp [member]
  | cons letter text ih =>
      by_cases same : letter = separator
      · rw [splitAt, if_pos same, List.mem_cons] at member
        rcases member with rfl | member
        · exact List.not_mem_nil
        · exact ih member
      · rw [splitAt, if_neg same] at member
        cases parts : splitAt separator text with
        | nil => exact absurd parts (splitAt_ne_nil separator text)
        | cons first parts =>
            rw [parts] at member ih
            rcases List.mem_cons.mp member with rfl | member
            · rw [List.mem_cons, not_or]
              exact ⟨Ne.symm same, ih List.mem_cons_self⟩
            · exact ih (List.mem_cons_of_mem _ member)

/-- A text has a part that is not empty if it has more than separators. -/
theorem exists_mem_splitAt {char : Char} {text : List Char} (member : char ∈ text)
    (other : char ≠ separator) : ∃ part ∈ splitAt separator text, part ≠ [] := by
  induction text with
  | nil => contradiction
  | cons first rest ih =>
      rw [splitAt]
      by_cases same : first = separator
      · rw [if_pos same]
        rcases List.mem_cons.mp member with rfl | later
        · exact absurd same other
        · obtain ⟨part, inside, filled⟩ := ih later
          exact ⟨part, .tail _ inside, filled⟩
      · rw [if_neg same]
        cases splitAt separator rest with
        | nil => exact ⟨[first], .head _, List.cons_ne_nil _ _⟩
        | cons part parts => exact ⟨first :: part, .head _, List.cons_ne_nil _ _⟩

/-- Texts that are each ended by a separator are split one by one, and nothing is left behind the
last separator. -/
theorem splitAt_flatMap_ended (separator : Char) (texts : List (List Char)) :
    splitAt separator (texts.flatMap (· ++ [separator])) =
      texts.flatMap (splitAt separator) ++ [[]] := by
  induction texts with
  | nil => rfl
  | cons text texts ih =>
      rw [List.flatMap_cons, List.append_assoc, List.singleton_append, splitAt_append_cons, ih,
        List.flatMap_cons, List.append_assoc]

theorem flatMap_splitAt_of_not_mem {texts : List (List Char)}
    (absent : ∀ text ∈ texts, separator ∉ text) : texts.flatMap (splitAt separator) = texts := by
  induction texts with
  | nil => rfl
  | cons text texts ih =>
      obtain ⟨first, rest⟩ := List.forall_mem_cons.mp absent
      rw [List.flatMap_cons, splitAt_of_not_mem first, ih rest, List.singleton_append]

/-- There is one part more than there are texts for each separator in a text. -/
theorem length_flatMap_splitAt (separator : Char) (texts : List (List Char)) :
    (texts.flatMap (splitAt separator)).length = texts.length + texts.flatten.count separator := by
  induction texts with
  | nil => rfl
  | cons text texts ih =>
      rw [List.flatMap_cons, List.length_append, length_splitAt, ih, List.flatten_cons,
        List.count_append, List.length_cons]
      omega

/-- There are as many parts as texts only if no text holds the separator. -/
theorem not_mem_of_length_flatMap_splitAt {texts : List (List Char)}
    (same : (texts.flatMap (splitAt separator)).length = texts.length) :
    ∀ text ∈ texts, separator ∉ text := by
  rw [length_flatMap_splitAt, Nat.add_eq_left, List.count_eq_zero, List.mem_flatten] at same
  exact fun text member inside => same ⟨text, member, inside⟩

theorem splitAt_intercalate (separator : Char) {texts : List (List Char)} (filled : texts ≠ []) :
    splitAt separator ([separator].intercalate texts) = texts.flatMap (splitAt separator) := by
  induction texts with
  | nil => contradiction
  | cons text texts ih =>
      cases texts with
      | nil => rw [List.intercalate_singleton, List.flatMap_singleton]
      | cons next texts =>
          rw [List.intercalate_cons_cons, List.append_assoc, List.singleton_append,
            splitAt_append_cons, ih (List.cons_ne_nil next texts)]
          exact List.flatMap_cons.symm

/-- The fragments of two lists with a separator between them are those of both, in order. -/
theorem fragments_append (separator : Char) (first second : String) :
    fragments separator (first ++ String.singleton separator ++ second) =
      fragments separator first ++ fragments separator second := by
  simp only [fragments, String.toList_append, String.toList_singleton, List.append_assoc,
    List.singleton_append, splitAt_append_cons, List.filter_append, List.map_append]

theorem of_mem_fragments {list fragment : String} (member : fragment ∈ fragments separator list) :
    fragment ≠ "" ∧ separator ∉ fragment.toList := by
  rw [fragments, List.mem_map] at member
  obtain ⟨part, member, rfl⟩ := member
  obtain ⟨member, filled⟩ := List.mem_filter.mp member
  rw [String.toList_ofList]
  refine ⟨fun empty => ?_, not_mem_of_mem_splitAt member⟩
  rw [String.ofList_eq_empty_iff] at empty
  simp [empty] at filled

/-- Fragments are what a list with a separator between them is split into. -/
theorem fragments_intercalate {parts : List String}
    (whole : ∀ part ∈ parts, part ≠ "" ∧ separator ∉ part.toList) :
    fragments separator ((String.singleton separator).intercalate parts) = parts := by
  have filled : (parts.map String.toList).filter (!·.isEmpty) = parts.map String.toList := by
    rw [List.filter_eq_self, List.forall_mem_map]
    intro part member
    simpa using (whole part member).1
  have absent : ∀ part ∈ parts.map String.toList, separator ∉ part := by
    rw [List.forall_mem_map]
    exact fun part member => (whole part member).2
  rw [fragments, String.toList_intercalate, String.toList_singleton]
  cases parts with
  | nil => rfl
  | cons part parts =>
      rw [splitAt_intercalate separator (by simp), flatMap_splitAt_of_not_mem absent, filled,
        List.map_map]
      simp [Function.comp_def]

end Split

end CallGraph
