import CallGraph.Event
import CallGraph.Pattern
import CallGraph.Text.Split

/-!
# Filters of identifiers

A filter is given as a list of patterns with commas between them.  It accepts an identifier that
one of its patterns matches from start to end, and every identifier if it has no pattern.
-/

namespace CallGraph

/-- A filter of identifiers. -/
structure IdentifierFilter where
  patterns : List Pattern.Regex
  deriving DecidableEq, Repr

namespace IdentifierFilter

/-- The filter that accepts every identifier. -/
def acceptAll : IdentifierFilter :=
  ⟨[]⟩

/-- Whether a filter accepts an identifier. -/
def accepts (filter : IdentifierFilter) (identifier : String) : Bool :=
  filter.patterns.isEmpty || filter.patterns.any (·.isMatch identifier)

/-- The pattern of a fragment matches what the fragment matches from start to end.  The fragment
has to be a pattern by itself, so that it cannot close the group that is put around it. -/
def compileFragment (fragment : String) : Except Pattern.Fault Pattern.Regex := do
  let anchored := fragment ++ "$"
  discard <| Pattern.compile anchored
  Pattern.compile ("^(?:" ++ anchored ++ ")$")

/-- The parts of a list that are not empty. -/
def fragments (list : String) : List String :=
  Split.fragments ',' list

/-- The filter of a list of patterns.  What is no pattern is left out. -/
def ofList (list : String) : IdentifierFilter :=
  ⟨(fragments list).filterMap fun fragment => (compileFragment fragment).toOption⟩

/-- What is reported about a list of patterns. -/
def eventsOfList (list : String) : List Event :=
  (fragments list).filterMap fun fragment =>
    match compileFragment fragment with
    | .ok _ => none
    | .error _ => some (.patternIgnored fragment)

/-- The filter of a list that may be missing. -/
def ofOption (list : Option String) : IdentifierFilter :=
  list.elim acceptAll ofList

/-- What is reported about a list that may be missing. -/
def eventsOfOption (list : Option String) : List Event :=
  list.elim [] eventsOfList

end IdentifierFilter

end CallGraph
