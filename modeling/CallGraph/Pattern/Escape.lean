import CallGraph.Pattern.Blank
import CallGraph.Pattern.Tree

/-!
# Escapes

A backslash makes an ordinary character of a special one, and something special of a letter.  A
reader takes what follows the backslash and leaves a shorter text.
-/

namespace CallGraph

namespace Pattern

/-- The value of a hexadecimal digit. -/
def hexValue? (char : Char) : Option Nat :=
  if '0' ≤ char ∧ char ≤ '9' then some (char.toNat - '0'.toNat)
  else if 'a' ≤ char ∧ char ≤ 'f' then some (char.toNat - 'a'.toNat + 10)
  else if 'A' ≤ char ∧ char ≤ 'F' then some (char.toNat - 'A'.toNat + 10)
  else none

/-- A number of hexadecimal digits, appended to those of `value`. -/
def readHexDigits (verbose : Bool) :
    (count value : Nat) → List Char → Except Fault (Nat × List Char)
  | 0, value, chars => .ok (value, chars)
  | _ + 1, _, [] => .error .escape
  | count + 1, value, char :: rest =>
    match hexValue? char with
    | some digit => readHexDigits verbose count (16 * value + digit) (skip verbose rest)
    | none => .error .escape

/-- Hexadecimal digits up to a closing brace, appended to those of `value`; at least one of them
unless there were some before. -/
def readHexBraced (verbose : Bool) (value : Nat) (isEmpty : Bool) (chars : List Char) :
    Except Fault (Nat × List Char) :=
  match chars with
  | [] => .error .escape
  | char :: rest =>
    if char = '}' then
      if isEmpty then .error .escape else .ok (value, skip verbose rest)
    else
      match hexValue? char with
      | some digit => readHexBraced verbose (16 * value + digit) false (skip verbose rest)
      | none => .error .escape
termination_by chars.length
decreasing_by exact Nat.lt_succ_of_le (length_skip_le _ _)

/-- The character with a number. -/
def charOf (number : Nat) : Except Fault Char :=
  if number.isValidChar then .ok (Char.ofNat number) else .error .escape

/-- A character by its number, in as many digits as given or in braces. -/
def readNumbered (verbose : Bool) (digits : Nat) (chars : List Char) :
    Except Fault (Atom × List Char) :=
  match skip verbose chars with
  | [] => .error .escape
  | '{' :: rest => do
    let (number, rest) ← readHexBraced verbose 0 true (skip verbose rest)
    return (.literal (← charOf number) false, rest)
  | chars => do
    let (number, rest) ← readHexDigits verbose digits 0 chars
    return (.literal (← charOf number) (digits == 2), rest)

/-- The characters up to a closing brace, in reverse order on top of those before. -/
def readBraced (verbose : Bool) (before : List Char) (chars : List Char) :
    Except Fault (List Char × List Char) :=
  match chars with
  | [] => .error .escape
  | char :: rest =>
    if char = '}' then .ok (before.reverse, rest)
    else readBraced verbose (char :: before) (skip verbose rest)
termination_by chars.length
decreasing_by exact Nat.lt_succ_of_le (length_skip_le _ _)

/-- Splits a text at the first place where a separator stands. -/
def splitAt? (separator : List Char) : List Char → Option (List Char × List Char)
  | [] => none
  | char :: rest =>
    if separator.isPrefixOf (char :: rest) then
      some ([], (char :: rest).drop separator.length)
    else
      (splitAt? separator rest).map fun parts => (char :: parts.1, parts.2)

/-- The property that a name stands for, or a name of a property of values and a value; and
whether it is denied. -/
def propertyOf? (name : List Char) : Option (Unicode.Property × Bool) :=
  match splitAt? ['!', '='] name with
  | some (property, value) => (ofValue? property value).map (·, true)
  | none =>
    match (splitAt? [':'] name).or (splitAt? ['='] name) with
    | some (property, value) => (ofValue? property value).map (·, false)
    | none => (Unicode.Property.ofName? (String.ofList name)).map (·, false)
where
  /-- The property of having a value. -/
  ofValue? (property value : List Char) : Option Unicode.Property :=
    if ["gc", "generalcategory"].contains (Unicode.looseName (String.ofList property)) then
      Unicode.Property.ofCategoryName? (String.ofList value)
    else none

/-- A property by its name. -/
def readProperty (verbose negated : Bool) (chars : List Char) :
    Except Fault (Atom × List Char) := do
  let (name, rest) ←
    match skip verbose chars with
    | [] => .error .escape
    | '{' :: rest => readBraced verbose [] (skip verbose rest)
    | '\\' :: _ => .error .escape
    | char :: rest => .ok ([char], skip verbose rest)
  match propertyOf? name with
  | some (property, denied) => .ok (.property property (negated != denied), rest)
  | none => .error .property

/-- Whether a character may stand in the name of a word boundary. -/
def isBoundaryChar (char : Char) : Bool :=
  char.isAlpha || char == '-'

/-- The characters of the name of a word boundary, in reverse order on top of those before. -/
def readBoundaryName (verbose : Bool) (before : List Char) (chars : List Char) :
    List Char × List Char :=
  match chars with
  | [] => (before.reverse, [])
  | char :: rest =>
    if isBoundaryChar char then readBoundaryName verbose (char :: before) (skip verbose rest)
    else (before.reverse, char :: rest)
termination_by chars.length
decreasing_by exact Nat.lt_succ_of_le (length_skip_le _ _)

/-- The word boundary with a name. -/
def boundaryOf? : List Char → Option Anchor
  | ['s', 't', 'a', 'r', 't'] => some .wordStart
  | ['e', 'n', 'd'] => some .wordEnd
  | ['s', 't', 'a', 'r', 't', '-', 'h', 'a', 'l', 'f'] => some .noWordBefore
  | ['e', 'n', 'd', '-', 'h', 'a', 'l', 'f'] => some .noWordAfter
  | _ => none

/-- A word boundary, with or without a name in braces.  Braces that hold no name are left alone:
they are the bounds of a repetition. -/
def readBoundary (verbose : Bool) (chars : List Char) : Except Fault (Atom × List Char) :=
  match chars with
  | '{' :: rest =>
    match skip verbose rest with
    | [] => .error .escape
    | char :: more =>
      if isBoundaryChar char then
        match readBoundaryName verbose [] (char :: more) with
        | (name, '}' :: rest) =>
          match boundaryOf? name with
          | some anchor => .ok (.anchor anchor, rest)
          | none => .error .escape
        | _ => .error .escape
      else .ok (.anchor .wordBoundary, chars)
  | _ => .ok (.anchor .wordBoundary, chars)

/-- Whether a character stands for itself behind a backslash: an ASCII character that is no
letter, no digit and no angle bracket. -/
def isEscapable (char : Char) : Bool :=
  char.toNat < 128 && !char.isAlphanum && char != '<' && char != '>'

/-- What a backslash makes of the characters that follow it. -/
def readEscape (verbose : Bool) : List Char → Except Fault (Atom × List Char)
  | [] => .error .escape
  | char :: rest =>
    if isEscapable char then .ok (.literal char false, rest)
    else
      match char with
      | 'x' => readNumbered verbose 2 rest
      | 'u' => readNumbered verbose 4 rest
      | 'U' => readNumbered verbose 8 rest
      | 'p' => readProperty verbose false rest
      | 'P' => readProperty verbose true rest
      | 'd' => .ok (.shorthand .digit false, rest)
      | 'D' => .ok (.shorthand .digit true, rest)
      | 's' => .ok (.shorthand .space false, rest)
      | 'S' => .ok (.shorthand .space true, rest)
      | 'w' => .ok (.shorthand .word false, rest)
      | 'W' => .ok (.shorthand .word true, rest)
      | 'a' => .ok (.literal '\x07' false, rest)
      | 'f' => .ok (.literal '\x0c' false, rest)
      | 't' => .ok (.literal '\t' false, rest)
      | 'n' => .ok (.literal '\n' false, rest)
      | 'r' => .ok (.literal '\r' false, rest)
      | 'v' => .ok (.literal '\x0b' false, rest)
      | 'A' => .ok (.anchor .textStart, rest)
      | 'z' => .ok (.anchor .textEnd, rest)
      | 'b' => readBoundary verbose rest
      | 'B' => .ok (.anchor .noWordBoundary, rest)
      | '<' => .ok (.anchor .wordStart, rest)
      | '>' => .ok (.anchor .wordEnd, rest)
      | _ => .error .escape

/-! ## Every escape takes characters -/

theorem readHexDigits_length {verbose : Bool} {count value number : Nat}
    {chars rest : List Char}
    (read : readHexDigits verbose count value chars = .ok (number, rest)) :
    rest.length ≤ chars.length := by
  induction count generalizing value chars with
  | zero =>
      simp only [readHexDigits, Except.ok.injEq, Prod.mk.injEq] at read
      simp [read.2]
  | succ count ih =>
      cases chars with
      | nil => simp [readHexDigits] at read
      | cons char tail =>
          simp only [readHexDigits] at read
          split at read
          · have := ih read
            have := length_skip_le verbose tail
            simp only [List.length_cons]
            omega
          · cases read

theorem readHexBraced_length {verbose : Bool} {value number : Nat} {isEmpty : Bool}
    {chars rest : List Char}
    (read : readHexBraced verbose value isEmpty chars = .ok (number, rest)) :
    rest.length ≤ chars.length := by
  fun_induction readHexBraced verbose value isEmpty chars with
  | case1 => cases read
  | case2 => cases read
  | case3 value isEmpty tail =>
      simp only [Except.ok.injEq, Prod.mk.injEq] at read
      have := length_skip_le verbose tail
      simp only [← read.2, List.length_cons]
      omega
  | case4 value isEmpty char tail _ digit _ ih =>
      have := ih read
      have := length_skip_le verbose tail
      simp only [List.length_cons]
      omega
  | case5 => cases read

theorem readBraced_length {verbose : Bool} {before name chars rest : List Char}
    (read : readBraced verbose before chars = .ok (name, rest)) :
    rest.length ≤ chars.length := by
  fun_induction readBraced verbose before chars with
  | case1 => cases read
  | case2 before tail =>
      simp only [Except.ok.injEq, Prod.mk.injEq] at read
      simp [← read.2]
  | case3 before char tail _ ih =>
      have := ih read
      have := length_skip_le verbose tail
      simp only [List.length_cons]
      omega

theorem readBoundaryName_length (verbose : Bool) (before chars : List Char) :
    (readBoundaryName verbose before chars).2.length ≤ chars.length := by
  fun_induction readBoundaryName verbose before chars with
  | case1 => simp
  | case2 before char tail _ ih =>
      have := length_skip_le verbose tail
      simp only [List.length_cons]
      omega
  | case3 => simp

theorem readNumbered_length {verbose : Bool} {digits : Nat} {atom : Atom}
    {chars rest : List Char} (read : readNumbered verbose digits chars = .ok (atom, rest)) :
    rest.length ≤ chars.length := by
  have bound := length_skip_le verbose chars
  unfold readNumbered at read
  split at read
  · cases read
  · rename_i tail found
    rw [found] at bound
    cases braced : readHexBraced verbose 0 true (skip verbose tail) with
    | error fault => simp [braced, bind, Except.bind] at read
    | ok pair =>
        obtain ⟨number, later⟩ := pair
        have := readHexBraced_length braced
        have := length_skip_le verbose tail
        cases char : charOf number <;>
          simp [braced, char, bind, Except.bind, pure, Except.pure] at read
        simp only [List.length_cons] at bound
        rw [← read.2]
        omega
  · rename_i found
    cases fixed : readHexDigits verbose digits 0 (skip verbose chars) with
    | error fault => simp [fixed, bind, Except.bind] at read
    | ok pair =>
        obtain ⟨number, later⟩ := pair
        have := readHexDigits_length fixed
        cases char : charOf number <;>
          simp [fixed, char, bind, Except.bind, pure, Except.pure] at read
        rw [← read.2]
        omega

theorem readProperty_length {verbose negated : Bool} {atom : Atom} {chars rest : List Char}
    (read : readProperty verbose negated chars = .ok (atom, rest)) :
    rest.length ≤ chars.length := by
  have bound := length_skip_le verbose chars
  unfold readProperty at read
  split at read
  · simp [bind, Except.bind] at read
  · rename_i tail found
    rw [found] at bound
    cases braced : readBraced verbose [] (skip verbose tail) with
    | error fault => simp [braced, bind, Except.bind] at read
    | ok pair =>
        have := readBraced_length braced
        have := length_skip_le verbose tail
        simp only [braced, bind, Except.bind] at read
        split at read
        · simp only [Except.ok.injEq, Prod.mk.injEq] at read
          simp only [List.length_cons] at bound
          rw [← read.2]
          omega
        · cases read
  · simp [bind, Except.bind] at read
  · rename_i char tail _ _ found
    rw [found] at bound
    have := length_skip_le verbose tail
    simp only [bind, Except.bind] at read
    split at read
    · simp only [Except.ok.injEq, Prod.mk.injEq] at read
      simp only [List.length_cons] at bound
      rw [← read.2]
      omega
    · cases read

theorem readBoundary_length {verbose : Bool} {atom : Atom} {chars rest : List Char}
    (read : readBoundary verbose chars = .ok (atom, rest)) : rest.length ≤ chars.length := by
  unfold readBoundary at read
  split at read
  · rename_i tail
    have bound := length_skip_le verbose tail
    split at read
    · cases read
    · rename_i char more found
      rw [found] at bound
      split at read
      · have named := readBoundaryName_length verbose [] (char :: more)
        split at read
        · rename_i name later split
          rw [split] at named
          split at read
          · simp only [Except.ok.injEq, Prod.mk.injEq] at read
            simp only [List.length_cons] at bound named ⊢
            rw [← read.2]
            omega
          · cases read
        · cases read
      · simp only [Except.ok.injEq, Prod.mk.injEq] at read
        simp [← read.2]
  · simp only [Except.ok.injEq, Prod.mk.injEq] at read
    simp [← read.2]

theorem readEscape_length {verbose : Bool} {atom : Atom} {chars rest : List Char}
    (read : readEscape verbose chars = .ok (atom, rest)) : rest.length < chars.length := by
  unfold readEscape at read
  split at read
  · cases read
  · rename_i char tail
    apply Nat.lt_succ_of_le
    split at read
    · simp only [Except.ok.injEq, Prod.mk.injEq] at read
      simp [← read.2]
    · split at read
      · exact readNumbered_length read
      · exact readNumbered_length read
      · exact readNumbered_length read
      · exact readProperty_length read
      · exact readProperty_length read
      all_goals first
        | exact readBoundary_length read
        | (simp only [Except.ok.injEq, Prod.mk.injEq] at read; simp [← read.2])
        | cases read

end Pattern

end CallGraph
