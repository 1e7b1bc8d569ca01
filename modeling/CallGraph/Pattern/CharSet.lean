import CallGraph.Unicode.Folding
import CallGraph.Unicode.Property

/-!
# Sets of characters

A set is built from ranges and properties by the operations of sets and by closing it under
changes of case.  Membership is decided by following the construction.
-/

namespace CallGraph

namespace Pattern

/-- A set of characters. -/
inductive CharSet where
  | empty
  | range (first last : Char)
  | having (property : Unicode.Property)
  | union (left right : CharSet)
  | inter (left right : CharSet)
  | complement (set : CharSet)
  /-- The characters that differ from a member at most in case. -/
  | caseless (set : CharSet)
  /-- The characters that differ from a member at most in the case of an ASCII letter. -/
  | asciiCaseless (set : CharSet)
  deriving DecidableEq, Repr

namespace CharSet

/-- The ASCII letter of the other case; any other character as it is. -/
def otherCase (char : Char) : Char :=
  if char.isUpper then char.toLower else char.toUpper

/-- Whether a character belongs to a set. -/
def mem : CharSet → Char → Bool
  | empty, _ => false
  | range first last, char => first ≤ char && char ≤ last
  | having property, char => property.holds char
  | union left right, char => left.mem char || right.mem char
  | inter left right, char => left.mem char && right.mem char
  | complement set, char => !set.mem char
  | caseless set, char => (Unicode.caseVariants char).any fun variant => set.mem variant
  | asciiCaseless set, char => set.mem char || set.mem (otherCase char)

/-- The set of one character. -/
def single (char : Char) : CharSet :=
  range char char

/-- The members of one of two sets that do not belong to the other one. -/
def diff (left right : CharSet) : CharSet :=
  inter left (complement right)

/-- The members of exactly one of two sets. -/
def symmDiff (left right : CharSet) : CharSet :=
  union (diff left right) (diff right left)

/-- The union of a list of ranges. -/
def ofRanges (ranges : List (Char × Char)) : CharSet :=
  ranges.foldr (fun range rest => union (.range range.1 range.2) rest) empty

/-- About as many bytes as an automaton takes that reads the members of a property byte by
byte. -/
def propertySize : Unicode.Property → Nat
  | .word => 47100
  | .inCategories [.decimalNumber] => 4504
  | .blank => 680
  | .any => 1000
  | .ascii => 72
  | _ => 37000

/-- About as many bytes as an automaton takes that reads a member byte by byte. -/
def size : CharSet → Nat
  | empty => 32
  | range first last =>
      if first = last then 32 * first.utf8Size else if last.toNat < 128 then 72 else 200
  | having property => propertySize property
  | union left right => left.size + right.size
  | inter left right => left.size + right.size
  | complement (having (.inCategories [.decimalNumber])) => 11312
  | complement set => set.size + 950
  | caseless set => 2 * set.size
  | asciiCaseless set => 2 * set.size

@[simp]
theorem mem_single (char member : Char) : (single char).mem member = (member == char) := by
  simp only [single, mem]
  rw [Bool.eq_iff_iff]
  simp only [Bool.and_eq_true, decide_eq_true_eq, beq_iff_eq]
  constructor
  · intro bounds
    exact Char.le_antisymm bounds.2 bounds.1
  · rintro rfl
    exact ⟨Char.le_refl _, Char.le_refl _⟩

end CharSet

end Pattern

end CallGraph
