import CallGraph.Pattern.Meaning
import CallGraph.Pattern.Nesting

/-!
# Patterns

A pattern is a text in the notation of regular expressions.  It has a meaning if it can be read,
is not nested too deep and does not take too large an automaton.
-/

namespace CallGraph

namespace Pattern

/-- The most levels that a pattern may have. -/
def depthLimit : Nat := 250

/-- The most bytes that the automaton of a pattern may take. -/
def sizeLimit : Nat := 10485760

/-- The regular expression of a pattern. -/
def compile (text : String) : Except Fault Regex := do
  let tree ← readTree text.toList
  if depthLimit < tree.depth .other then
    .error .nestedTooDeep
  else
    let (regex, _) ← tree.meaning .initial
    if sizeLimit < regex.size then .error .tooLarge else .ok regex

end Pattern

end CallGraph
