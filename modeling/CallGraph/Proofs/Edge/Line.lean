import CallGraph.Edge
import CallGraph.Proofs.Text.Split

/-!
# The line of an edge

The names of an edge stand in its line as they are, and the rest of the line holds no line feed; so
it depends on the names alone whether the line of an edge is one line.
-/

namespace CallGraph

/-- The names in a signature. -/
def MethodSignature.names (signature : MethodSignature) : List String :=
  signature.className :: signature.name :: signature.argumentTypes

/-- The names in the line of an edge. -/
def Edge.names : Edge → List String
  | classReference edge => [edge.owner, edge.referenced]
  | methodCall edge => edge.caller.names ++ edge.callee.names

/-- Whether an edge is a class reference. -/
def Edge.isReference : Edge → Bool
  | classReference _ => true
  | methodCall _ => false

/-- A letter that is no separator stands in a list of texts if and only if it stands in a text. -/
theorem mem_intercalate_iff {letter : Char} {separator : List Char} (other : letter ∉ separator)
    (texts : List (List Char)) :
    letter ∈ separator.intercalate texts ↔ ∃ text ∈ texts, letter ∈ text := by
  induction texts with
  | nil => simp
  | cons text texts ih =>
      cases texts with
      | nil => simp
      | cons next texts =>
          rw [List.intercalate_cons_cons, List.mem_append, List.mem_append, ih]
          simp [other]

theorem MethodSignature.lineFeed_mem_text_iff {signature : MethodSignature} :
    '\n' ∈ signature.text.toList ↔ ∃ name ∈ signature.names, '\n' ∈ name.toList := by
  have types := mem_intercalate_iff (by decide : '\n' ∉ [','])
    (signature.argumentTypes.map String.toList)
  simp [text, names, types]

/-- A line feed stands in the line of an edge if and only if it stands in one of the names. -/
theorem Edge.lineFeed_mem_line_iff {edge : Edge} :
    '\n' ∈ edge.line.toList ↔ ∃ name ∈ edge.names, '\n' ∈ name.toList := by
  cases edge with
  | classReference edge => simp [line, ClassReference.line, names]
  | methodCall edge =>
      have plain : '\n' ≠ edge.dispatch.tag := by cases edge.dispatch <;> decide
      simp [line, MethodCall.line, names, MethodSignature.lineFeed_mem_text_iff, plain,
        or_and_right, exists_or]

end CallGraph
