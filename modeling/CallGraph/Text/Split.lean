/-!
# Splitting a text

A text is split at every occurrence of a separator.  There is one part more than there are
separators, and parts may be empty.
-/

namespace CallGraph

namespace Split

/-- The parts of a text between its separators. -/
def splitAt (separator : Char) : List Char → List (List Char)
  | [] => [[]]
  | char :: rest =>
    if char = separator then [] :: splitAt separator rest
    else
      match splitAt separator rest with
      | [] => [[char]]
      | part :: parts => (char :: part) :: parts

/-- The parts of a text that are not empty. -/
def fragments (separator : Char) (text : String) : List String :=
  ((splitAt separator text.toList).filter (!·.isEmpty)).map String.ofList

theorem splitAt_ne_nil (separator : Char) (chars : List Char) : splitAt separator chars ≠ [] := by
  cases chars with
  | nil => simp [splitAt]
  | cons char rest =>
      unfold splitAt
      split
      · simp
      · split <;> simp

/-- Splitting at a separator between two texts splits both. -/
theorem splitAt_append_cons (separator : Char) (first second : List Char) :
    splitAt separator (first ++ separator :: second) =
      splitAt separator first ++ splitAt separator second := by
  induction first with
  | nil => simp [splitAt]
  | cons char rest ih =>
      by_cases same : char = separator
      · simp [splitAt, same, ih]
      · simp only [List.cons_append, splitAt, if_neg same, ih]
        cases parts : splitAt separator rest with
        | nil => exact absurd parts (splitAt_ne_nil separator rest)
        | cons part parts => simp

end Split

end CallGraph
