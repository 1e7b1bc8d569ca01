import CallGraph.Pattern.Bracket

/-!
# Tokens of a pattern

A pattern is a sequence of tokens: parentheses, bars, flags, repetitions and single pieces.  A
class in brackets is one piece.  In a verbose pattern, blanks before a token belong to no token.
-/

namespace CallGraph

namespace Pattern

/-- A token of a pattern. -/
inductive Token where
  /-- Opens a group with changed flags, which may have a name. -/
  | opening (change : FlagChange) (name : Option (List Char))
  | closing
  | bar
  /-- Changes flags for the rest of the group. -/
  | flags (change : FlagChange)
  /-- Repeats the piece before it. -/
  | repetition (least : Nat) (most : Option Nat)
  | piece (tree : Tree)

/-- The decimal digits in front, in reverse order on top of those before; in a verbose pattern
blanks may follow each. -/
def readDigits (verbose : Bool) (before : List Char) (chars : List Char) :
    List Char × List Char :=
  match chars with
  | [] => (before.reverse, [])
  | char :: rest =>
    if char.isDigit then readDigits verbose (char :: before) (skip verbose rest)
    else (before.reverse, char :: rest)
termination_by chars.length
decreasing_by exact Nat.lt_succ_of_le (length_skip_le _ _)

/-- The number that decimal digits denote. -/
def decimalValue (digits : List Char) : Nat :=
  digits.foldl (fun value digit => 10 * value + (digit.toNat - '0'.toNat)) 0

/-- White space in any pattern. -/
def dropBlanks (chars : List Char) : List Char :=
  chars.dropWhile Unicode.isBlank

/-- A bound: digits for a number of 32 bits, with white space around them. -/
def readBound (verbose : Bool) (chars : List Char) : Except Fault (Nat × List Char) :=
  match readDigits verbose [] (dropBlanks chars) with
  | ([], _) => .error .bounds
  | (digits, rest) =>
    if decimalValue digits < 0x100000000 then
      .ok (decimalValue digits, skip verbose (dropBlanks rest))
    else .error .bounds

/-- What follows a mark of reluctance, which makes no difference to what is matched. -/
def dropReluctance (chars : List Char) : List Char :=
  match chars with
  | '?' :: rest => rest
  | _ => chars

/-- The end of the bounds of a repetition. -/
def closeBounds (verbose : Bool) (least : Nat) (most : Option Nat) (chars : List Char) :
    Except Fault (Token × List Char) :=
  match chars with
  | '}' :: rest =>
    if most.all (least ≤ ·) then
      .ok (.repetition least most, dropReluctance (skip verbose rest))
    else .error .bounds
  | _ => .error .bounds

/-- The bounds of a repetition, given what follows their opening brace. -/
def readBounds (verbose : Bool) (chars : List Char) : Except Fault (Token × List Char) := do
  let (least, rest) ← readBound verbose (skip verbose chars)
  match rest with
  | ',' :: rest =>
    match skip verbose rest with
    | '}' :: rest => closeBounds verbose least none ('}' :: rest)
    | rest => do
      let (most, rest) ← readBound verbose rest
      closeBounds verbose least (some most) rest
  | rest => closeBounds verbose least (some least) rest

/-- Whether a character may start the name of a group. -/
def isNameStart (char : Char) : Bool :=
  char == '_' || Unicode.isAlphabetic char

/-- Whether a character may stand in the name of a group. -/
def isNameChar (char : Char) : Bool :=
  char == '_' || char == '.' || char == '[' || char == ']' || Unicode.isAlphanumeric char

/-- A group with a name, given what follows the angle bracket before the name. -/
def readGroupName (chars : List Char) : Except Fault (Token × List Char) :=
  match chars.takeWhile (· != '>'), chars.dropWhile (· != '>') with
  | first :: others, _ :: rest =>
    if isNameStart first && others.all isNameChar then
      .ok (.opening [] (some (first :: others)), rest)
    else .error .groupName
  | _, _ => .error .groupName

/-- The flag of a letter. -/
def flagOf? : Char → Option Flag
  | 'i' => some .caseless
  | 'm' => some .multiLine
  | 's' => some .dotAll
  | 'U' => some .swapGreed
  | 'u' => some .unicode
  | 'R' => some .crlf
  | 'x' => some .verbose
  | _ => none

/-- Flags up to a colon, which opens a group, or a closing parenthesis, which does not.  After a
hyphen flags are cleared; `afterHyphen` says that nothing has followed the hyphen yet. -/
def readFlags (change : FlagChange) (clearing afterHyphen : Bool) :
    List Char → Except Fault (Token × List Char)
  | [] => .error .flag
  | ':' :: rest => if afterHyphen then .error .flag else .ok (.opening change none, rest)
  | ')' :: rest =>
    if afterHyphen then .error .flag
    else if change.isEmpty then .error .nothingToRepeat
    else .ok (.flags change, rest)
  | '-' :: rest => if clearing then .error .flag else readFlags change true true rest
  | char :: rest =>
    match flagOf? char with
    | none => .error .flag
    | some flag =>
      if change.any (·.1 == flag) then .error .flag
      else readFlags (change ++ [(flag, !clearing)]) clearing false rest

/-- A group or flags, given what follows the opening parenthesis. -/
def readOpening (verbose : Bool) (chars : List Char) : Except Fault (Token × List Char) :=
  match skip verbose chars with
  | '?' :: '=' :: _ => .error .lookAround
  | '?' :: '!' :: _ => .error .lookAround
  | '?' :: '<' :: '=' :: _ => .error .lookAround
  | '?' :: '<' :: '!' :: _ => .error .lookAround
  | '?' :: 'P' :: '<' :: rest => readGroupName rest
  | '?' :: '<' :: rest => readGroupName rest
  | '?' :: [] => .error .unclosedGroup
  | '?' :: rest => readFlags [] false false rest
  | rest => .ok (.opening [] none, rest)

/-- The token of a character and what follows it. -/
def readTokenFrom (verbose : Bool) (char : Char) (rest : List Char) :
    Except Fault (Token × List Char) :=
  match char with
  | '(' => readOpening verbose rest
  | ')' => .ok (.closing, rest)
  | '|' => .ok (.bar, rest)
  | '[' => do
      let (bracket, rest) ← readOpen verbose rest
      let (tree, rest) ← readClass verbose [] bracket rest
      match tree with
      | .bracket content negated => return (.piece (.bracket content negated), rest)
      | _ => .error .unclosedClass
  | '?' => .ok (.repetition 0 (some 1), dropReluctance rest)
  | '*' => .ok (.repetition 0 none, dropReluctance rest)
  | '+' => .ok (.repetition 1 none, dropReluctance rest)
  | '{' => readBounds verbose rest
  | '\\' => do
      let (atom, rest) ← readEscape verbose rest
      return (.piece (.atom atom), rest)
  | '.' => .ok (.piece (.atom .dot), rest)
  | '^' => .ok (.piece (.atom (.anchor .caret)), rest)
  | '$' => .ok (.piece (.atom (.anchor .dollar)), rest)
  | char => .ok (.piece (.atom (.literal char false)), rest)

/-- The next token of a pattern, or nothing where the pattern ends. -/
def readToken (verbose : Bool) (chars : List Char) :
    Except Fault (Option (Token × List Char)) :=
  match skip verbose chars with
  | [] => .ok none
  | char :: rest =>
    match readTokenFrom verbose char rest with
    | .error fault => .error fault
    | .ok token => .ok (some token)

/-! ## Every token takes characters -/

theorem readDigits_length (verbose : Bool) (before chars : List Char) :
    (readDigits verbose before chars).2.length ≤ chars.length := by
  fun_induction readDigits verbose before chars with
  | case1 => simp
  | case2 before char tail _ ih =>
      have := length_skip_le verbose tail
      simp only [List.length_cons]
      omega
  | case3 => simp

theorem dropBlanks_length (chars : List Char) : (dropBlanks chars).length ≤ chars.length :=
  (List.dropWhile_suffix _).length_le

theorem dropReluctance_length (chars : List Char) :
    (dropReluctance chars).length ≤ chars.length := by
  unfold dropReluctance
  split <;> simp

theorem readBound_length {verbose : Bool} {bound : Nat} {chars rest : List Char}
    (read : readBound verbose chars = .ok (bound, rest)) : rest.length ≤ chars.length := by
  unfold readBound at read
  have digits := readDigits_length verbose [] (dropBlanks chars)
  have blanks := dropBlanks_length chars
  split at read
  · cases read
  · rename_i found later _ split
    rw [split] at digits
    simp only at digits
    have := dropBlanks_length later
    have := length_skip_le verbose (dropBlanks later)
    split at read
    · simp only [Except.ok.injEq, Prod.mk.injEq] at read
      rw [← read.2]
      omega
    · cases read

theorem closeBounds_length {verbose : Bool} {least : Nat} {most : Option Nat} {token : Token}
    {chars rest : List Char} (read : closeBounds verbose least most chars = .ok (token, rest)) :
    rest.length < chars.length := by
  unfold closeBounds at read
  split at read
  · rename_i tail
    have := length_skip_le verbose tail
    have := dropReluctance_length (skip verbose tail)
    split at read
    · simp only [Except.ok.injEq, Prod.mk.injEq] at read
      rw [← read.2]
      simp only [List.length_cons]
      omega
    · cases read
  · cases read

theorem readBounds_length {verbose : Bool} {token : Token} {chars rest : List Char}
    (read : readBounds verbose chars = .ok (token, rest)) : rest.length < chars.length := by
  unfold readBounds at read
  obtain ⟨⟨least, later⟩, bound, read⟩ := Fallible.of_bind_eq_ok read
  have := readBound_length bound
  have := length_skip_le verbose chars
  simp only at read
  split at read
  · rename_i tail
    have inner := length_skip_le verbose tail
    simp only [List.length_cons] at this
    split at read
    · rename_i more found
      have := closeBounds_length read
      rw [found] at inner
      simp only [List.length_cons] at *
      omega
    · obtain ⟨⟨most, later'⟩, second, read⟩ := Fallible.of_bind_eq_ok read
      have := readBound_length second
      have := closeBounds_length read
      simp only at this
      omega
  · have := closeBounds_length read
    omega

theorem readGroupName_length {token : Token} {chars rest : List Char}
    (read : readGroupName chars = .ok (token, rest)) : rest.length < chars.length := by
  unfold readGroupName at read
  split at read
  · rename_i tail _ found
    have := (List.dropWhile_suffix (· != '>') (l := chars)).length_le
    rw [found] at this
    split at read
    · simp only [Except.ok.injEq, Prod.mk.injEq] at read
      rw [← read.2]
      simp only [List.length_cons] at this
      omega
    · cases read
  · cases read

theorem readFlags_length {change : FlagChange} {clearing afterHyphen : Bool} {token : Token}
    {chars rest : List Char}
    (read : readFlags change clearing afterHyphen chars = .ok (token, rest)) :
    rest.length < chars.length := by
  fun_induction readFlags change clearing afterHyphen chars with
  | case1 => cases read
  | case2 => cases read
  | case3 =>
      simp only [Except.ok.injEq, Prod.mk.injEq] at read
      simp [← read.2]
  | case4 => cases read
  | case5 => cases read
  | case6 =>
      simp only [Except.ok.injEq, Prod.mk.injEq] at read
      simp [← read.2]
  | case7 => cases read
  | case8 =>
      rename_i ih
      exact Nat.lt_succ_of_lt (ih read)
  | case9 => cases read
  | case10 => cases read
  | case11 =>
      rename_i ih
      exact Nat.lt_succ_of_lt (ih read)

theorem readOpening_length {verbose : Bool} {token : Token} {chars rest : List Char}
    (read : readOpening verbose chars = .ok (token, rest)) : rest.length ≤ chars.length := by
  have bound := length_skip_le verbose chars
  unfold readOpening at read
  split at read
  any_goals cases read
  · rename_i found
    have := readGroupName_length read
    simp only [found, List.length_cons] at bound
    omega
  · rename_i found
    have := readGroupName_length read
    simp only [found, List.length_cons] at bound
    omega
  · rename_i found
    have := readFlags_length read
    simp only [found, List.length_cons] at bound
    omega
  · exact bound

theorem readTokenFrom_length {verbose : Bool} {char : Char} {token : Token}
    {rest later : List Char} (read : readTokenFrom verbose char rest = .ok (token, later)) :
    later.length ≤ rest.length := by
  unfold readTokenFrom at read
  split at read
  · exact readOpening_length read
  · simp only [Except.ok.injEq, Prod.mk.injEq] at read
    simp [← read.2]
  · simp only [Except.ok.injEq, Prod.mk.injEq] at read
    simp [← read.2]
  · obtain ⟨⟨bracket, after⟩, opened, read⟩ := Fallible.of_bind_eq_ok read
    have := readOpen_length opened
    obtain ⟨⟨tree, after'⟩, closed, read⟩ := Fallible.of_bind_eq_ok read
    have := readClass_length closed
    simp only at read
    split at read
    · have := Fallible.of_pure_eq_ok read
      simp only [Prod.mk.injEq] at this
      rw [← this.2]
      omega
    · cases read
  · simp only [Except.ok.injEq, Prod.mk.injEq] at read
    rw [← read.2]
    exact dropReluctance_length rest
  · simp only [Except.ok.injEq, Prod.mk.injEq] at read
    rw [← read.2]
    exact dropReluctance_length rest
  · simp only [Except.ok.injEq, Prod.mk.injEq] at read
    rw [← read.2]
    exact dropReluctance_length rest
  · exact Nat.le_of_lt (readBounds_length read)
  · obtain ⟨⟨atom, after⟩, escape, read⟩ := Fallible.of_bind_eq_ok read
    have := readEscape_length escape
    have := Fallible.of_pure_eq_ok read
    simp only [Prod.mk.injEq] at this
    rw [← this.2]
    omega
  all_goals
    simp only [Except.ok.injEq, Prod.mk.injEq] at read
    simp [← read.2]

theorem readToken_length {verbose : Bool} {token : Token} {chars rest : List Char}
    (read : readToken verbose chars = .ok (some (token, rest))) :
    rest.length < chars.length := by
  have bound := length_skip_le verbose chars
  unfold readToken at read
  split at read
  · cases read
  · rename_i found
    rw [found] at bound
    split at read
    · cases read
    · rename_i taken
      simp only [Except.ok.injEq, Option.some.injEq] at read
      rw [read] at taken
      exact Nat.lt_of_le_of_lt (readTokenFrom_length taken) bound

end Pattern

end CallGraph
