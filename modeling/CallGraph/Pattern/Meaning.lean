import CallGraph.Pattern.Regex
import CallGraph.Pattern.Tree

/-!
# Meaning of a pattern

A tree means a regular expression, given the flags that hold where it stands.  Flags change from
left to right and are forgotten at the end of a group.  Without the flag `unicode` classes know
ASCII alone; whatever could then match a part of a character has no meaning.
-/

namespace CallGraph

namespace Pattern

/-- The flags that decide what a tree means. -/
structure Flags where
  caseless : Bool
  /-- The caret and the dollar sign stand for the ends of lines. -/
  multiLine : Bool
  dotAll : Bool
  /-- Classes know all characters. -/
  unicode : Bool
  /-- A carriage return ends a line too. -/
  crlf : Bool
  deriving DecidableEq, Repr

namespace Flags

/-- The flags that hold at the start of a pattern. -/
def initial : Flags :=
  ⟨false, false, false, true, false⟩

/-- The flags after a change. -/
def change (flags : Flags) (change : FlagChange) : Flags where
  caseless := change.apply .caseless flags.caseless
  multiLine := change.apply .multiLine flags.multiLine
  dotAll := change.apply .dotAll flags.dotAll
  unicode := change.apply .unicode flags.unicode
  crlf := change.apply .crlf flags.crlf

/-- A set as it is meant: with the other cases of its members, if case makes no difference. -/
def foldCase (flags : Flags) (set : CharSet) : CharSet :=
  if flags.caseless then
    if flags.unicode then .caseless set else .asciiCaseless set
  else set

/-- A set or its complement.  The complement of a set of ASCII characters could match a part of a
character. -/
def negate (flags : Flags) (negated : Bool) (set : CharSet) : Except Fault CharSet :=
  if negated then
    if flags.unicode then .ok (.complement set) else .error .partialCharacter
  else .ok set

end Flags

/-- The ASCII characters of a shorthand. -/
def Shorthand.asciiSet : Shorthand → CharSet
  | digit => .range '0' '9'
  | space => .ofRanges [('\t', '\r'), (' ', ' ')]
  | word => .ofRanges [('0', '9'), ('A', 'Z'), ('_', '_'), ('a', 'z')]

/-- The characters of a shorthand. -/
def Shorthand.set (flags : Flags) (kind : Shorthand) : CharSet :=
  if flags.unicode then
    match kind with
    | digit => .having .decimal
    | space => .having .blank
    | word => .having .word
  else kind.asciiSet

/-- The characters with a property or without it. -/
def propertySet (flags : Flags) (kind : Unicode.Property) (negated : Bool) :
    Except Fault CharSet :=
  if flags.unicode then flags.negate negated (flags.foldCase (.having kind))
  else .error .partialCharacter

/-- A character that stands for itself.  Where classes know ASCII alone, a number of two digits is a
byte, and beyond ASCII a byte is only a part of a character. -/
def literalSet (flags : Flags) (char : Char) (isByte : Bool) : Except Fault CharSet :=
  if !flags.unicode && isByte && 128 ≤ char.toNat then .error .partialCharacter
  else .ok (flags.foldCase (.single char))

/-- The characters that a dot matches. -/
def dotSet (flags : Flags) : Except Fault CharSet :=
  if !flags.unicode then .error .partialCharacter
  else if flags.dotAll then .ok (.having .any)
  else if flags.crlf then .ok (.complement (.ofRanges [('\n', '\n'), ('\r', '\r')]))
  else .ok (.complement (.single '\n'))

/-- The result of an operation. -/
def SetOperator.apply : SetOperator → CharSet → CharSet → CharSet
  | intersection => .inter
  | difference => CharSet.diff
  | symmetricDifference => CharSet.symmDiff

/-- The characters of a class.  Case is made irrelevant before a complement is taken and before
an operator is applied. -/
def ClassTree.meaning (flags : Flags) : ClassTree → Except Fault CharSet
  | empty => .ok .empty
  | literal char _ =>
      if !flags.unicode && 128 ≤ char.toNat then .error .partialCharacter
      else .ok (.single char)
  | range first last _ =>
      if !flags.unicode && 128 ≤ last.toNat then .error .partialCharacter
      else .ok (.range first last)
  | named set negated => flags.negate negated (flags.foldCase set)
  | shorthand kind negated => flags.negate negated (kind.set flags)
  | property kind negated => propertySet flags kind negated
  | union members member => do
      return .union (← members.meaning flags) (← member.meaning flags)
  | operation operator left right => do
      return operator.apply (flags.foldCase (← left.meaning flags))
        (flags.foldCase (← right.meaning flags))
  | bracket content negated => do
      flags.negate negated (flags.foldCase (← content.meaning flags))

/-- The condition that an anchor states. -/
def Anchor.meaning (flags : Flags) : Anchor → Look
  | caret =>
      if flags.multiLine then if flags.crlf then .lineStartCrlf else .lineStart else .textStart
  | dollar =>
      if flags.multiLine then if flags.crlf then .lineEndCrlf else .lineEnd else .textEnd
  | textStart => .textStart
  | textEnd => .textEnd
  | wordBoundary => .wordBoundary (Shorthand.word.set flags)
  | noWordBoundary => .noWordBoundary (Shorthand.word.set flags)
  | wordStart => .wordStart (Shorthand.word.set flags)
  | wordEnd => .wordEnd (Shorthand.word.set flags)
  | noWordBefore => .noWordBefore (Shorthand.word.set flags)
  | noWordAfter => .noWordAfter (Shorthand.word.set flags)

/-- The regular expression of a leaf. -/
def Atom.meaning (flags : Flags) : Atom → Except Fault Regex
  | literal char isByte => return .set (← literalSet flags char isByte)
  | dot => return .set (← dotSet flags)
  | anchor condition => .ok (.look (condition.meaning flags))
  | shorthand kind negated => return .set (← flags.negate negated (kind.set flags))
  | property kind negated => return .set (← propertySet flags kind negated)

/-- The regular expression of a tree, and the flags that hold after it. -/
def Tree.meaning (flags : Flags) : Tree → Except Fault (Regex × Flags)
  | empty => .ok (.empty, flags)
  | Tree.flags change => .ok (.empty, flags.change change)
  | Tree.atom leaf => return (← leaf.meaning flags, flags)
  | bracket content negated =>
      return (.set (← (ClassTree.bracket content negated).meaning flags), flags)
  | repetition body least most => do
      let (body, after) ← body.meaning flags
      return (.repetition body least most, after)
  | group change body => do
      let (body, _) ← body.meaning (flags.change change)
      return (body, flags)
  | cat first second => do
      let (first, between) ← first.meaning flags
      let (second, after) ← second.meaning between
      return (.cat first second, after)
  | alt left right => do
      let (left, between) ← left.meaning flags
      let (right, after) ← right.meaning between
      return (.alt left right, after)

end Pattern

end CallGraph
