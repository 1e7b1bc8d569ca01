import CallGraph.Unicode.Property

/-!
# Blanks in verbose patterns

A verbose pattern may hold white space, and comments from `#` to the end of a line, between any
two of its tokens and inside some of them.
-/

namespace CallGraph

namespace Pattern

/-- What follows the leading white space and comments.  `inComment` says that the text starts
inside a comment. -/
def skipBlank : (inComment : Bool) → List Char → List Char
  | _, [] => []
  | true, char :: rest => skipBlank (char != '\n') rest
  | false, char :: rest =>
    if Unicode.isBlank char then skipBlank false rest
    else if char = '#' then skipBlank true rest
    else char :: rest

/-- What follows the leading blanks, if the pattern is verbose; all of the text, if it is not. -/
def skip (verbose : Bool) (chars : List Char) : List Char :=
  if verbose then skipBlank false chars else chars

theorem length_skipBlank_le (inComment : Bool) (chars : List Char) :
    (skipBlank inComment chars).length ≤ chars.length := by
  induction chars generalizing inComment with
  | nil => cases inComment <;> simp [skipBlank]
  | cons char rest ih =>
      cases inComment with
      | true =>
          simp only [skipBlank, List.length_cons]
          exact Nat.le_succ_of_le (ih _)
      | false =>
          simp only [skipBlank, List.length_cons]
          split
          · exact Nat.le_succ_of_le (ih _)
          · split
            · exact Nat.le_succ_of_le (ih _)
            · simp

theorem length_skip_le (verbose : Bool) (chars : List Char) :
    (skip verbose chars).length ≤ chars.length := by
  unfold skip
  split
  · exact length_skipBlank_le _ _
  · exact Nat.le_refl _

@[simp]
theorem skip_false (chars : List Char) : skip false chars = chars :=
  rfl

end Pattern

end CallGraph
