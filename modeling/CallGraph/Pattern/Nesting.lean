import CallGraph.Pattern.Token

/-!
# Nesting of groups

The tokens of a pattern build its tree.  What has been read is kept as a stack of open groups; a
closing parenthesis turns the innermost one into a piece of the group around it.  A group name
may occur once in a pattern.
-/

namespace CallGraph

namespace Pattern

/-- Pieces in a row, of which the last one stands first in the list. -/
def Tree.ofPieces : List Tree → Tree
  | [] => .empty
  | last :: before => before.foldl (fun rest piece => .cat piece rest) last

/-- Alternatives, of which the last one stands first in the list. -/
def Tree.ofAlternatives (last : Tree) (before : List Tree) : Tree :=
  before.foldl (fun rest alternative => .alt alternative rest) last

/-- A group that is not closed yet. -/
structure OpenGroup where
  /-- The flags that the group changes. -/
  change : FlagChange
  /-- Whether the pattern is verbose around the group. -/
  outerVerbose : Bool
  /-- The alternatives that are complete, the last one first. -/
  alternatives : List Tree
  /-- The pieces of the current alternative, the last one first. -/
  pieces : List Tree

namespace OpenGroup

/-- A group that has just been opened. -/
def start (change : FlagChange) (outerVerbose : Bool) : OpenGroup :=
  ⟨change, outerVerbose, [], []⟩

/-- Adds a piece. -/
def push (group : OpenGroup) (piece : Tree) : OpenGroup :=
  { group with pieces := piece :: group.pieces }

/-- Begins another alternative. -/
def split (group : OpenGroup) : OpenGroup :=
  { group with alternatives := .ofPieces group.pieces :: group.alternatives, pieces := [] }

/-- Repeats the last piece, unless there is none or it only changes flags. -/
def repeatLast (group : OpenGroup) (least : Nat) (most : Option Nat) : Except Fault OpenGroup :=
  match group.pieces with
  | [] => .error .nothingToRepeat
  | .empty :: _ => .error .nothingToRepeat
  | .flags _ :: _ => .error .nothingToRepeat
  | piece :: pieces => .ok { group with pieces := .repetition piece least most :: pieces }

/-- All that the group holds. -/
def content (group : OpenGroup) : Tree :=
  .ofAlternatives (.ofPieces group.pieces) group.alternatives

end OpenGroup

/-- What has been read of a pattern. -/
structure Nesting where
  /-- The innermost open group; without parentheses it is the whole pattern. -/
  inner : OpenGroup
  /-- The open groups around it, from the inside out. -/
  outer : List OpenGroup
  /-- The names of groups so far. -/
  names : List (List Char)
  /-- Whether blanks are skipped here. -/
  verbose : Bool

namespace Nesting

/-- What is read of a pattern at its start. -/
def start : Nesting :=
  ⟨.start [] false, [], [], false⟩

/-- Adds a token. -/
def push (nesting : Nesting) : Token → Except Fault Nesting
  | .piece piece => .ok { nesting with inner := nesting.inner.push piece }
  | .bar => .ok { nesting with inner := nesting.inner.split }
  | .flags change =>
      .ok { nesting with
        inner := nesting.inner.push (.flags change)
        verbose := change.apply .verbose nesting.verbose }
  | .repetition least most => do
      return { nesting with inner := ← nesting.inner.repeatLast least most }
  | .opening change name =>
      if name.any nesting.names.contains then .error .repeatedName
      else
        .ok
          { inner := .start change nesting.verbose
            outer := nesting.inner :: nesting.outer
            names := name.toList ++ nesting.names
            verbose := change.apply .verbose nesting.verbose }
  | .closing =>
      match nesting.outer with
      | [] => .error .unopenedGroup
      | parent :: outer =>
        .ok
          { inner := parent.push (.group nesting.inner.change nesting.inner.content)
            outer := outer
            names := nesting.names
            verbose := nesting.inner.outerVerbose }

/-- The pattern that was read, if all groups are closed. -/
def finish (nesting : Nesting) : Except Fault Tree :=
  match nesting.outer with
  | [] => .ok nesting.inner.content
  | _ :: _ => .error .unclosedGroup

/-- Reads the rest of a pattern. -/
def read (nesting : Nesting) (chars : List Char) : Except Fault Tree :=
  match _token : readToken nesting.verbose chars with
  | .error fault => .error fault
  | .ok none => nesting.finish
  | .ok (some (token, rest)) =>
    match nesting.push token with
    | .error fault => .error fault
    | .ok nesting => nesting.read rest
termination_by chars.length
decreasing_by exact readToken_length _token

end Nesting

/-- The tree of a pattern. -/
def readTree (chars : List Char) : Except Fault Tree :=
  Nesting.start.read chars

end Pattern

end CallGraph
