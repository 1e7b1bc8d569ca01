import CallGraph.Pattern.CharSet

/-!
# Patterns as trees

A pattern is a tree of single characters, classes, conditions, repetitions and groups.  Flags
stand where they are set and hold from there to the end of their group, so the tree keeps them in
place.
-/

namespace CallGraph

namespace Pattern

/-- Why a text is no pattern. -/
inductive Fault where
  | unopenedGroup
  | unclosedGroup
  /-- A condition on what stands before or after. -/
  | lookAround
  /-- A group name that is empty, malformed or not ended. -/
  | groupName
  | repeatedName
  /-- A flag that does not exist, is repeated or is missing. -/
  | flag
  | nothingToRepeat
  /-- Bounds of a repetition that are missing, malformed or in the wrong order. -/
  | bounds
  /-- A backslash before something it does not go with. -/
  | escape
  | property
  | unclosedClass
  /-- Bounds of a range that are no characters or in the wrong order. -/
  | range
  /-- Something in a class that stands for no characters. -/
  | classMember
  /-- Something that could match a part of a character. -/
  | partialCharacter
  /-- A pattern of more than 250 levels. -/
  | nestedTooDeep
  /-- A pattern whose automaton would be too large. -/
  | tooLarge
  deriving DecidableEq, Repr

/-- What a flag governs. -/
inductive Flag where
  | caseless
  | multiLine
  | dotAll
  | swapGreed
  | unicode
  | crlf
  | verbose
  deriving DecidableEq, Repr

/-- The flags that are set or cleared at one place. -/
abbrev FlagChange := List (Flag × Bool)

namespace FlagChange

/-- What a change makes of a flag. -/
def apply (change : FlagChange) (flag : Flag) (value : Bool) : Bool :=
  (change.find? (·.1 == flag)).elim value (·.2)

end FlagChange

/-- The classes with a letter of their own. -/
inductive Shorthand where
  | digit
  | space
  | word
  deriving DecidableEq, Repr

/-- The conditions on a position that patterns can state. -/
inductive Anchor where
  /-- The start of the text, or of a line. -/
  | caret
  /-- The end of the text, or of a line. -/
  | dollar
  | textStart
  | textEnd
  | wordBoundary
  | noWordBoundary
  | wordStart
  | wordEnd
  | noWordBefore
  | noWordAfter
  deriving DecidableEq, Repr

/-- What a pattern is made of at its leaves. -/
inductive Atom where
  /-- A character; `isByte` when it was written as a byte. -/
  | literal (char : Char) (isByte : Bool)
  | dot
  | anchor (condition : Anchor)
  | shorthand (kind : Shorthand) (negated : Bool)
  | property (kind : Unicode.Property) (negated : Bool)
  deriving DecidableEq, Repr

/-- The operations on classes. -/
inductive SetOperator where
  | intersection
  | difference
  | symmetricDifference
  deriving DecidableEq, Repr

/-- A class in brackets. -/
inductive ClassTree where
  | empty
  | literal (char : Char) (isByte : Bool)
  | range (first last : Char) (isByte : Bool)
  | named (set : CharSet) (negated : Bool)
  | shorthand (kind : Shorthand) (negated : Bool)
  | property (kind : Unicode.Property) (negated : Bool)
  /-- One member after the other. -/
  | union (members : ClassTree) (member : ClassTree)
  | operation (operator : SetOperator) (left right : ClassTree)
  | bracket (content : ClassTree) (negated : Bool)
  deriving DecidableEq, Repr

/-- A pattern. -/
inductive Tree where
  | empty
  | flags (change : FlagChange)
  | atom (atom : Atom)
  | bracket (content : ClassTree) (negated : Bool)
  | repetition (body : Tree) (least : Nat) (most : Option Nat)
  | group (change : FlagChange) (body : Tree)
  | cat (first second : Tree)
  | alt (left right : Tree)
  deriving DecidableEq, Repr

/-- The levels of a class below its brackets.  The members of one bracket are one level when there
are at least two of them; `amongMembers` says that this level is counted already. -/
def ClassTree.depth (amongMembers : Bool) : ClassTree → Nat
  | union members member =>
      let inner := max (members.depth true) (member.depth false)
      if amongMembers then inner else inner + 1
  | operation _ left right => max (left.depth false) (right.depth false) + 1
  | bracket content _ => content.depth false + 1
  | _ => 0

/-- What a tree is a part of, as far as levels are concerned. -/
inductive Tree.Parent where
  | cat
  | alt
  | other
  deriving DecidableEq

/-- The levels of a pattern.  Neighbours are one level together, and so are alternatives. -/
def Tree.depth (parent : Tree.Parent) : Tree → Nat
  | bracket content _ => content.depth false + 1
  | repetition body _ _ => body.depth .other + 1
  | group _ body => body.depth .other + 1
  | cat first second =>
      let inner := max (first.depth .other) (second.depth .cat)
      if parent = .cat then inner else inner + 1
  | alt left right =>
      let inner := max (left.depth .other) (right.depth .alt)
      if parent = .alt then inner else inner + 1
  | _ => 0

end Pattern

end CallGraph
