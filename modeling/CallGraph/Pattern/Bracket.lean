import CallGraph.Fallible
import CallGraph.Pattern.Escape

/-!
# Classes in brackets

A class in brackets is a list of members: characters, ranges, escapes, named classes and further
brackets, between which operators of sets may stand.  Operators take what stands before them as
one operand and bind alike, from left to right.  Nesting is kept on a stack of open brackets.
-/

namespace CallGraph

namespace Pattern

/-- The classes that have names in brackets. -/
def namedClass? (name : List Char) : Option CharSet :=
  match String.ofList name with
  | "alnum" => some (.ofRanges [('0', '9'), ('A', 'Z'), ('a', 'z')])
  | "alpha" => some (.ofRanges [('A', 'Z'), ('a', 'z')])
  | "ascii" => some (.range '\x00' '\x7f')
  | "blank" => some (.ofRanges [('\t', '\t'), (' ', ' ')])
  | "cntrl" => some (.ofRanges [('\x00', '\x1f'), ('\x7f', '\x7f')])
  | "digit" => some (.range '0' '9')
  | "graph" => some (.range '!' '~')
  | "lower" => some (.range 'a' 'z')
  | "print" => some (.range ' ' '~')
  | "punct" => some (.ofRanges [('!', '/'), (':', '@'), ('[', '\x60'), ('\x7b', '~')])
  | "space" => some (.ofRanges [('\t', '\r'), (' ', ' ')])
  | "upper" => some (.range 'A' 'Z')
  | "word" => some (.ofRanges [('0', '9'), ('A', 'Z'), ('_', '_'), ('a', 'z')])
  | "xdigit" => some (.ofRanges [('0', '9'), ('A', 'F'), ('a', 'f')])
  | _ => none

/-- A named class, given what follows its opening bracket; `none` when the bracket opens
something else. -/
def readNamed? (chars : List Char) : Option (ClassTree × List Char) :=
  match chars with
  | ':' :: rest =>
    let negated := rest.head? == some '^'
    let start := if negated then rest.drop 1 else rest
    match start.dropWhile (· != ':') with
    | ':' :: ']' :: rest =>
      (namedClass? (start.takeWhile (· != ':'))).map fun set => (.named set negated, rest)
    | _ => none
  | _ => none

/-- A character or an escape. -/
def readMember (verbose : Bool) : List Char → Except Fault (Atom × List Char)
  | [] => .error .unclosedClass
  | '\\' :: rest => readEscape verbose rest
  | char :: rest => .ok (.literal char false, rest)

/-- The member of a class that an escape stands for. -/
def Atom.asMember : Atom → Except Fault ClassTree
  | .literal char isByte => .ok (.literal char isByte)
  | .shorthand kind negated => .ok (.shorthand kind negated)
  | .property kind negated => .ok (.property kind negated)
  | .dot => .error .classMember
  | .anchor _ => .error .classMember

/-- The range between two characters. -/
def Atom.rangeTo : Atom → Atom → Except Fault ClassTree
  | .literal first firstIsByte, .literal last lastIsByte =>
    if first ≤ last then .ok (.range first last (firstIsByte || lastIsByte))
    else .error .range
  | _, _ => .error .range

/-- A character, an escape or a range.  A hyphen makes no range in front of a closing bracket or
of another hyphen. -/
def readRange (verbose : Bool) (chars : List Char) : Except Fault (ClassTree × List Char) := do
  let (first, rest) ← readMember verbose chars
  match skip verbose rest with
  | [] => .error .unclosedClass
  | '-' :: rest =>
    match skip verbose rest with
    | [] => .error .unclosedClass
    | ']' :: _ => return (← first.asMember, '-' :: rest)
    | '-' :: _ => return (← first.asMember, '-' :: rest)
    | chars => do
      let (last, rest) ← readMember verbose chars
      return (← first.rangeTo last, rest)
  | rest => return (← first.asMember, rest)

/-- A bracket that is open. -/
structure OpenBracket where
  /-- Whether the class is the complement of its content. -/
  negated : Bool
  /-- The last operator, with all that stands before it. -/
  pending : Option (SetOperator × ClassTree)
  /-- The members since the last operator. -/
  members : Option ClassTree

namespace OpenBracket

/-- Adds a member. -/
def push (bracket : OpenBracket) (member : ClassTree) : OpenBracket :=
  { bracket with members := some (match bracket.members with
    | none => member
    | some members => .union members member) }

/-- What stands in the bracket so far, as one operand. -/
def content (bracket : OpenBracket) : ClassTree :=
  let operand := bracket.members.getD .empty
  match bracket.pending with
  | none => operand
  | some (operator, left) => .operation operator left operand

/-- Adds an operator. -/
def operate (bracket : OpenBracket) (operator : SetOperator) : OpenBracket :=
  ⟨bracket.negated, some (operator, bracket.content), none⟩

/-- The class that is complete when the bracket is closed. -/
def close (bracket : OpenBracket) : ClassTree :=
  .bracket bracket.content bracket.negated

end OpenBracket

/-- Hyphens at the start of a class are members. -/
def readHyphens (verbose : Bool) (bracket : OpenBracket) (chars : List Char) :
    OpenBracket × List Char :=
  match chars with
  | [] => (bracket, [])
  | char :: rest =>
    if char = '-' then readHyphens verbose (bracket.push (.literal '-' false)) (skip verbose rest)
    else (bracket, char :: rest)
termination_by chars.length
decreasing_by exact Nat.lt_succ_of_le (length_skip_le _ _)

/-- The start of a class, given what follows its opening bracket: a caret for the complement,
hyphens, and a closing bracket that is a member because nothing stands before it. -/
def readOpen (verbose : Bool) (chars : List Char) : Except Fault (OpenBracket × List Char) :=
  let chars := skip verbose chars
  let negated := chars.head? == some '^'
  let chars := if negated then skip verbose (chars.drop 1) else chars
  match readHyphens verbose ⟨negated, none, none⟩ chars with
  | (_, []) => .error .unclosedClass
  | (bracket, ']' :: rest) =>
    if bracket.members.isNone then
      match skip verbose rest with
      | [] => .error .unclosedClass
      | rest => .ok (bracket.push (.literal ']' false), rest)
    else .ok (bracket, ']' :: rest)
  | (bracket, rest) => .ok (bracket, rest)

/-- What the next characters of a class are. -/
inductive BracketToken where
  | member (member : ClassTree)
  | opening (bracket : OpenBracket)
  | operator (operator : SetOperator)
  | closing

/-- The next token of a class. -/
def readBracketToken (verbose : Bool) (chars : List Char) :
    Except Fault (BracketToken × List Char) :=
  match skip verbose chars with
  | [] => .error .unclosedClass
  | '[' :: rest =>
    match readNamed? rest with
    | some (member, rest) => .ok (.member member, rest)
    | none => do
      let (bracket, rest) ← readOpen verbose rest
      return (.opening bracket, rest)
  | ']' :: rest => .ok (.closing, rest)
  | '&' :: '&' :: rest => .ok (.operator .intersection, rest)
  | '-' :: '-' :: rest => .ok (.operator .difference, rest)
  | '~' :: '~' :: rest => .ok (.operator .symmetricDifference, rest)
  | chars => do
    let (member, rest) ← readRange verbose chars
    return (.member member, rest)

/-! ## Every token takes characters -/

theorem readMember_length {verbose : Bool} {chars rest : List Char} {atom : Atom}
    (read : readMember verbose chars = .ok (atom, rest)) : rest.length < chars.length := by
  unfold readMember at read
  split at read
  · cases read
  · exact Nat.lt_succ_of_lt (readEscape_length read)
  · simp only [Except.ok.injEq, Prod.mk.injEq] at read
    simp [← read.2]

theorem readRange_length {verbose : Bool} {chars rest : List Char} {tree : ClassTree}
    (read : readRange verbose chars = .ok (tree, rest)) : rest.length < chars.length := by
  unfold readRange at read
  obtain ⟨⟨first, later⟩, member, read⟩ := Fallible.of_bind_eq_ok read
  have taken := readMember_length member
  have bound := length_skip_le verbose later
  simp only at read
  split at read
  · cases read
  · rename_i tail found
    rw [found] at bound
    have inner := length_skip_le verbose tail
    simp only [List.length_cons] at bound
    split at read
    · cases read
    · obtain ⟨tree', _, read⟩ := Fallible.of_bind_eq_ok read
      have := Fallible.of_pure_eq_ok read
      simp only [Prod.mk.injEq] at this
      simp only [← this.2, List.length_cons]
      omega
    · obtain ⟨tree', _, read⟩ := Fallible.of_bind_eq_ok read
      have := Fallible.of_pure_eq_ok read
      simp only [Prod.mk.injEq] at this
      simp only [← this.2, List.length_cons]
      omega
    · obtain ⟨⟨last, later'⟩, second, read⟩ := Fallible.of_bind_eq_ok read
      have := readMember_length second
      obtain ⟨tree', _, read⟩ := Fallible.of_bind_eq_ok read
      have := Fallible.of_pure_eq_ok read
      simp only [Prod.mk.injEq] at this
      rw [← this.2]
      omega
  · obtain ⟨tree', _, read⟩ := Fallible.of_bind_eq_ok read
    have := Fallible.of_pure_eq_ok read
    simp only [Prod.mk.injEq] at this
    rw [← this.2]
    omega

theorem readNamed?_length {chars rest : List Char} {tree : ClassTree}
    (read : readNamed? chars = some (tree, rest)) : rest.length < chars.length := by
  unfold readNamed? at read
  split at read
  · rename_i tail
    simp only at read
    generalize startEq : (if tail.head? == some '^' then tail.drop 1 else tail) = start at read
    have startBound : start.length ≤ tail.length := by
      rw [← startEq]
      split <;> simp
    split at read
    · rename_i later found
      obtain ⟨set, _, pair⟩ := Option.map_eq_some_iff.1 read
      simp only [Prod.mk.injEq] at pair
      have := (List.dropWhile_suffix (· != ':') (l := start)).length_le
      rw [found] at this
      simp only [List.length_cons] at this ⊢
      rw [← pair.2]
      omega
    · cases read
  · cases read

theorem readHyphens_length (verbose : Bool) (bracket : OpenBracket) (chars : List Char) :
    (readHyphens verbose bracket chars).2.length ≤ chars.length := by
  fun_induction readHyphens verbose bracket chars with
  | case1 => simp
  | case2 bracket tail ih =>
      have := length_skip_le verbose tail
      simp only [List.length_cons]
      omega
  | case3 => simp

theorem readOpen_length {verbose : Bool} {chars rest : List Char} {bracket : OpenBracket}
    (read : readOpen verbose chars = .ok (bracket, rest)) : rest.length ≤ chars.length := by
  unfold readOpen at read
  simp only at read
  have bound := length_skip_le verbose chars
  generalize startEq : (if (skip verbose chars).head? == some '^' then
    skip verbose ((skip verbose chars).drop 1) else skip verbose chars) = start at read
  have startBound : start.length ≤ chars.length := by
    rw [← startEq]
    split
    · have := length_skip_le verbose ((skip verbose chars).drop 1)
      simp only [List.length_drop] at this
      omega
    · exact bound
  have hyphens := readHyphens_length verbose
    ⟨(skip verbose chars).head? == some '^', none, none⟩ start
  split at read
  · cases read
  · rename_i opened tail found
    rw [found] at hyphens
    have inner := length_skip_le verbose tail
    simp only [List.length_cons] at hyphens
    split at read
    · split at read
      · cases read
      · simp only [Except.ok.injEq, Prod.mk.injEq] at read
        rw [← read.2]
        omega
    · simp only [Except.ok.injEq, Prod.mk.injEq] at read
      rw [← read.2]
      simp only [List.length_cons]
      omega
  · rename_i opened tail _ _ found
    rw [found] at hyphens
    simp only [Except.ok.injEq, Prod.mk.injEq] at read
    rw [← read.2]
    exact Nat.le_trans hyphens startBound

theorem readBracketToken_length {verbose : Bool} {chars rest : List Char}
    {token : BracketToken} (read : readBracketToken verbose chars = .ok (token, rest)) :
    rest.length < chars.length := by
  unfold readBracketToken at read
  have bound := length_skip_le verbose chars
  split at read
  · cases read
  · rename_i tail found
    rw [found] at bound
    simp only [List.length_cons] at bound
    split at read
    · rename_i member later named
      have := readNamed?_length named
      simp only [Except.ok.injEq, Prod.mk.injEq] at read
      rw [← read.2]
      omega
    · obtain ⟨⟨bracket, later⟩, opened, read⟩ := Fallible.of_bind_eq_ok read
      have := readOpen_length opened
      have := Fallible.of_pure_eq_ok read
      simp only [Prod.mk.injEq] at this
      rw [← this.2]
      omega
  all_goals try
    rename_i tail found
    rw [found] at bound
    simp only [List.length_cons] at bound
    simp only [Except.ok.injEq, Prod.mk.injEq] at read
    rw [← read.2]
    omega
  obtain ⟨⟨member, later⟩, range, read⟩ := Fallible.of_bind_eq_ok read
  have := readRange_length range
  have := Fallible.of_pure_eq_ok read
  simp only [Prod.mk.injEq] at this
  rw [← this.2]
  omega

/-- The rest of a class, given the brackets that are open around the innermost one. -/
def readClass (verbose : Bool) (outer : List OpenBracket) (bracket : OpenBracket)
    (chars : List Char) : Except Fault (ClassTree × List Char) :=
  match _read : readBracketToken verbose chars with
  | .error fault => .error fault
  | .ok (.member member, rest) => readClass verbose outer (bracket.push member) rest
  | .ok (.operator operator, rest) => readClass verbose outer (bracket.operate operator) rest
  | .ok (.opening inner, rest) => readClass verbose (bracket :: outer) inner rest
  | .ok (.closing, rest) =>
    match outer with
    | [] => .ok (bracket.close, rest)
    | parent :: outer => readClass verbose outer (parent.push bracket.close) rest
termination_by chars.length
decreasing_by all_goals exact readBracketToken_length _read

theorem readClass_length {verbose : Bool} {outer : List OpenBracket} {bracket : OpenBracket}
    {chars rest : List Char} {tree : ClassTree}
    (read : readClass verbose outer bracket chars = .ok (tree, rest)) :
    rest.length < chars.length := by
  fun_induction readClass verbose outer bracket chars with
  | case1 => cases read
  | case2 outer bracket chars member tail token ih =>
      exact Nat.lt_trans (ih read) (readBracketToken_length token)
  | case3 outer bracket chars operator tail token ih =>
      exact Nat.lt_trans (ih read) (readBracketToken_length token)
  | case4 outer bracket chars inner tail token ih =>
      exact Nat.lt_trans (ih read) (readBracketToken_length token)
  | case5 bracket chars tail token =>
      simp only [Except.ok.injEq, Prod.mk.injEq] at read
      rw [← read.2]
      exact readBracketToken_length token
  | case6 =>
      rename_i token _ _ ih
      exact Nat.lt_trans (ih read) (readBracketToken_length token)

end Pattern

end CallGraph
