import CallGraph.Pattern.CharSet

/-!
# Regular expressions over characters

A regular expression relates positions of a text: it matches from one position to another.  The
matcher computes, for all starts at once, the positions where a match may end.  Sets of positions
are numbers whose bits say which positions belong to them, so that every operation on sets is one
operation on numbers.
-/

namespace CallGraph

namespace Pattern

/-- A text with its characters by position. -/
abbrev Text := Array Char

/-- A condition on a position that takes no character. -/
inductive Look where
  | textStart
  | textEnd
  /-- A line starts here; lines end in a line feed. -/
  | lineStart
  /-- A line ends here; lines end in a line feed. -/
  | lineEnd
  /-- A line starts here; lines end in a carriage return, a line feed or both. -/
  | lineStartCrlf
  /-- A line ends here; lines end in a carriage return, a line feed or both. -/
  | lineEndCrlf
  | wordBoundary (word : CharSet)
  | noWordBoundary (word : CharSet)
  | wordStart (word : CharSet)
  | wordEnd (word : CharSet)
  /-- What is before this position is not of a word. -/
  | noWordBefore (word : CharSet)
  /-- What is after this position is not of a word. -/
  | noWordAfter (word : CharSet)
  deriving DecidableEq, Repr

namespace Look

/-- The character before a position. -/
def before? (text : Text) (position : Nat) : Option Char :=
  if position = 0 then none else text[position - 1]?

/-- Whether the character before a position belongs to a set. -/
def isBefore (text : Text) (set : CharSet) (position : Nat) : Bool :=
  (before? text position).any set.mem

/-- Whether the character after a position belongs to a set. -/
def isAfter (text : Text) (set : CharSet) (position : Nat) : Bool :=
  text[position]?.any set.mem

/-- Whether a condition holds at a position. -/
def holds (text : Text) : Look → Nat → Bool
  | textStart, position => position == 0
  | textEnd, position => position == text.size
  | lineStart, position => position == 0 || before? text position == some '\n'
  | lineEnd, position => position == text.size || text[position]? == some '\n'
  | lineStartCrlf, position =>
      position == 0 || before? text position == some '\n' ||
        (before? text position == some '\r' && text[position]? != some '\n')
  | lineEndCrlf, position =>
      position == text.size || text[position]? == some '\r' ||
        (text[position]? == some '\n' && before? text position != some '\r')
  | wordBoundary word, position => isBefore text word position != isAfter text word position
  | noWordBoundary word, position => isBefore text word position == isAfter text word position
  | wordStart word, position => !isBefore text word position && isAfter text word position
  | wordEnd word, position => isBefore text word position && !isAfter text word position
  | noWordBefore word, position => !isBefore text word position
  | noWordAfter word, position => !isAfter text word position

end Look

/-- A regular expression. -/
inductive Regex where
  /-- Matches in place. -/
  | empty
  | set (members : CharSet)
  /-- Matches in place where a condition holds. -/
  | look (condition : Look)
  | cat (first second : Regex)
  | alt (left right : Regex)
  /-- Matches at least so many times in a row, and at most so many times if there is a limit. -/
  | repetition (body : Regex) (least : Nat) (most : Option Nat)
  deriving DecidableEq, Repr

namespace Regex

/-- The regular expression matches from one position of the text to another. -/
inductive Matches (text : Text) : Regex → Nat → Nat → Prop where
  | empty (position : Nat) : Matches text .empty position position
  | set {members : CharSet} {position : Nat} {char : Char} :
      text[position]? = some char → members.mem char = true →
        Matches text (.set members) position (position + 1)
  | look {condition : Look} {position : Nat} :
      condition.holds text position = true → Matches text (.look condition) position position
  | cat {first second : Regex} {start middle stop : Nat} :
      Matches text first start middle → Matches text second middle stop →
        Matches text (.cat first second) start stop
  | altLeft {left right : Regex} {start stop : Nat} :
      Matches text left start stop → Matches text (.alt left right) start stop
  | altRight {left right : Regex} {start stop : Nat} :
      Matches text right start stop → Matches text (.alt left right) start stop
  | done {body : Regex} {most : Option Nat} {position : Nat} :
      Matches text (.repetition body 0 most) position position
  | again {body : Regex} {least : Nat} {most : Option Nat} {start middle stop : Nat} :
      most ≠ some 0 → Matches text body start middle →
        Matches text (.repetition body (least - 1) (most.map (· - 1))) middle stop →
          Matches text (.repetition body least most) start stop

/-! ## Matching and size -/

/-- The set of the positions below `count` with a property. -/
def positions (holds : Nat → Bool) : (count : Nat) → Nat
  | 0 => 0
  | count + 1 => positions holds count ||| if holds count then 1 <<< count else 0

/-- A step taken `count` times, which may stop early when it changes nothing any more. -/
def stepTimes (step : Nat → Nat) : (count : Nat) → Nat → Nat
  | 0, current => current
  | count + 1, current =>
    let next := step current
    if next = current then current else stepTimes step count next

/-- What at most `count` steps add to the positions that were seen, starting from the newest of
them. -/
def stepUpTo (step : Nat → Nat) : (count : Nat) → (seen newest : Nat) → Nat
  | 0, seen, _ => seen
  | count + 1, seen, newest =>
    let reached := seen ||| step newest
    if reached = seen then seen else stepUpTo step count reached (reached ^^^ seen)

/-- The positions where a match may end that starts in one of the given positions. -/
def ends (text : Text) : Regex → Nat → Nat
  | empty, starts => starts
  | set members, starts =>
      positions (fun position => starts.testBit position && text[position]?.any members.mem)
        text.size <<< 1
  | look condition, starts =>
      positions (fun position => starts.testBit position && condition.holds text position)
        (text.size + 1)
  | cat first second, starts => second.ends text (first.ends text starts)
  | alt left right, starts => left.ends text starts ||| right.ends text starts
  | repetition body least most, starts =>
      let required := stepTimes (body.ends text) least starts
      stepUpTo (body.ends text) ((most.map (· - least)).getD (text.size + 1)) required required

/-- Whether a regular expression matches somewhere in a text. -/
def isMatch (regex : Regex) (text : String) : Bool :=
  let text := text.toList.toArray
  regex.ends text (positions (fun _ => true) (text.size + 1)) != 0

/-- Whether a regular expression takes no characters. -/
def takesNothing : Regex → Bool
  | empty => true
  | set _ => false
  | look _ => true
  | cat first second => first.takesNothing && second.takesNothing
  | alt left right => left.takesNothing && right.takesNothing
  | repetition body _ most => body.takesNothing || most == some 0

/-- About as many bytes as an automaton for a regular expression takes, one state after the
other; repetitions are written out. -/
def size : Regex → Nat
  | empty => 32
  | set members => members.size
  | look _ => 32
  | cat first second => first.size + second.size
  | alt left right => left.size + right.size + 80
  | repetition body least most =>
      if body.takesNothing then body.size + 80
      else
        match most with
        | none => (least + 1) * body.size + 80
        | some most => least * body.size + (most - least) * (body.size + 48) + 32

end Regex

end Pattern

end CallGraph
