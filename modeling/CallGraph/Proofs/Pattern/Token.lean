import CallGraph.Pattern.Token
import CallGraph.Proofs.Pattern.Bracket

/-!
# Tokens and what is put behind a text

A token is settled by the text that begins with it, unless the text ends in a backslash that nothing
follows, or in a word boundary and an opening brace; the latter is not a pattern whatever is put
behind it.  So there are few ways to go on at the end of a text.
-/

namespace CallGraph

namespace Pattern

variable (verbose : Bool) {chars : List Char}

theorem readDigits_of_isEnding {ending : List Char} (before : List Char) (ends : IsEnding ending) :
    readDigits verbose before ending = (before.reverse, ending) := by
  rcases ends.eq_nil_or_cons with rfl | ⟨rest, rfl, -⟩
  · rw [readDigits]
  · rw [readDigits, if_neg (by decide)]

theorem settled_readDigits (before chars : List Char) :
    Settled (fun later => .ok (readDigits verbose before later)) chars := by
  induction before, chars using readDigits.induct verbose with
  | case1 before =>
      apply Settled.leaves before.reverse [] List.suffix_rfl
      intro ending ends
      rw [List.nil_append, readDigits_of_isEnding verbose before ends]
  | case2 before char rest digit ih =>
      have bare : IsBare fun later => .ok (readDigits verbose (char :: before) later) :=
        isBare_of_snd (by rw [readDigits])
      apply (ih.after_skip bare).cons
      intro later
      rw [readDigits, if_pos digit]
  | case3 before char rest other =>
      apply (settled_ok before.reverse (char :: rest)).congr
      intro later _
      rw [List.cons_append, readDigits, if_neg other]

theorem dropBlanks_append {ending : List Char} (plain : IsPlain ending) (chars : List Char) :
    dropBlanks (chars ++ ending) = dropBlanks chars ++ ending := by
  induction chars with
  | nil =>
      cases ending with
      | nil => rfl
      | cons char rest =>
          obtain ⟨solid, -⟩ := isBlank_of_isPlain (isPlain_cons.mp plain).1
          rw [List.nil_append, dropBlanks, List.dropWhile_cons_of_neg (by simp [solid])]
          rfl
  | cons char rest ih =>
      rw [List.cons_append, dropBlanks, dropBlanks, List.dropWhile_cons, List.dropWhile_cons]
      split
      · exact ih
      · rfl

theorem Settled.after_dropBlanks {α : Type} {reader : Reader α}
    (settled : Settled reader (dropBlanks chars)) :
    Settled (fun later => reader (dropBlanks later)) chars :=
  settled.step (List.dropWhile_suffix _)
    fun _ ends => congrArg reader (dropBlanks_append ends.isPlain chars)

/-- What is made of the digits of a bound. -/
def boundOf (digits : List Char) : Reader Nat :=
  fun rest =>
    if digits = [] then .error .bounds
    else if decimalValue digits < 0x100000000 then
      .ok (decimalValue digits, skip verbose (dropBlanks rest))
    else .error .bounds

theorem readBound_eq (chars : List Char) :
    readBound verbose chars =
      Reader.andThen (fun later => .ok (readDigits verbose [] later)) (boundOf verbose)
        (dropBlanks chars) := by
  rw [readBound, Reader.andThen_of_ok rfl]
  rcases readDigits verbose [] (dropBlanks chars) with ⟨digits, rest⟩
  cases digits <;> rfl

theorem settled_boundOf (digits chars : List Char) : Settled (boundOf verbose digits) chars := by
  by_cases missing : digits = []
  · exact (settled_error .bounds chars).congr fun _ _ => if_pos missing
  · by_cases fits : decimalValue digits < 0x100000000
    · have value := settled_ok (decimalValue digits) (skip verbose (dropBlanks chars))
      have settled := value.after_skip (isBare_ok _)
      apply settled.after_dropBlanks.congr
      intro later _
      exact (if_neg missing).trans (if_pos fits)
    · exact (settled_error .bounds chars).congr fun _ _ => (if_neg missing).trans (if_neg fits)

theorem isBare_boundOf (digits : List Char) : IsBare (boundOf verbose digits) := by
  intro value rest read
  unfold boundOf at read
  split at read
  · contradiction
  · split at read
    · cases read
      cases verbose <;> rfl
    · contradiction

theorem settled_readBound (chars : List Char) : Settled (readBound verbose) chars := by
  rw [funext (readBound_eq verbose)]
  apply Settled.after_dropBlanks
  exact (settled_readDigits verbose [] _).andThen
    (fun digits rest _ => settled_boundOf verbose digits rest) (isBare_boundOf verbose)

theorem isBare_readBound : IsBare (readBound verbose) :=
  isBare_of_length_le readBound_length

theorem settled_dropReluctance (token : Token) (chars : List Char) :
    Settled (fun later => .ok (token, dropReluctance later)) chars := by
  cases chars with
  | nil =>
      apply Settled.leaves token [] List.suffix_rfl
      intro ending ends
      rcases ends.eq_nil_or_cons with rfl | ⟨rest, rfl, -⟩ <;> rfl
  | cons char rest =>
      by_cases reluctant : char = '?'
      · subst reluctant
        exact (settled_ok token rest).cons fun _ => rfl
      · apply (settled_ok token (char :: rest)).congr
        intro later _
        rw [List.cons_append, dropReluctance]
        simpa using reluctant

/-- The rest of a repetition behind the closing brace of its bounds. -/
def closedBounds (least : Nat) (most : Option Nat) : Reader Token :=
  fun rest => closeBounds verbose least most ('}' :: rest)

theorem settled_closedBounds (least : Nat) (most : Option Nat) (chars : List Char) :
    Settled (closedBounds verbose least most) chars := by
  by_cases ordered : most.all (least ≤ ·) = true
  · have bare : IsBare fun later => .ok (Token.repetition least most, dropReluctance later) :=
      isBare_of_snd rfl
    apply ((settled_dropReluctance (.repetition least most) _).after_skip bare).congr
    intro later _
    exact if_pos ordered
  · apply (settled_error .bounds chars).congr
    intro later _
    exact if_neg ordered

theorem settled_closeBounds (least : Nat) (most : Option Nat) (chars : List Char) :
    Settled (closeBounds verbose least most) chars := by
  apply settled_of_first '}' (by decide) (fun _ => rfl)
  · intro text other
    rw [closeBounds]
    exact other
  · exact fun rest _ => settled_closedBounds verbose least most rest
  · exact fun _ => settled_error .bounds chars

/-- What may follow the comma between two bounds, behind blanks. -/
def secondBound (least : Nat) : Reader Token
  | '}' :: rest => closeBounds verbose least none ('}' :: rest)
  | rest =>
    Reader.andThen (readBound verbose) (fun most => closeBounds verbose least (some most)) rest

/-- What may follow the first bound. -/
def afterBound (least : Nat) : Reader Token
  | ',' :: rest => secondBound verbose least (skip verbose rest)
  | rest => closeBounds verbose least (some least) rest

theorem readBounds_eq (chars : List Char) :
    readBounds verbose chars =
      Reader.andThen (readBound verbose) (afterBound verbose) (skip verbose chars) := by
  rfl

theorem settled_secondBound (least : Nat) (chars : List Char) :
    Settled (secondBound verbose least) chars := by
  apply settled_of_first '}' (by decide) (fun _ => rfl)
  · intro text other
    rw [secondBound]
    exact other
  · exact fun rest _ => settled_closedBounds verbose least none rest
  · intro _
    exact (settled_readBound verbose chars).andThen
      (fun most rest _ => settled_closeBounds verbose least (some most) rest) (fun _ => nofun)

theorem settled_afterBound (least : Nat) (chars : List Char) :
    Settled (afterBound verbose least) chars := by
  apply settled_of_first ',' (by decide) (fun _ => rfl)
  · intro text other
    rw [afterBound]
    exact other
  · intro rest _
    have bare : IsBare (Reader.andThen (readBound verbose) fun most =>
        closeBounds verbose least (some most)) :=
      (isBare_readBound verbose).andThen fun _ => nofun
    exact (settled_secondBound verbose least _).after_skip bare
  · exact fun _ => settled_closeBounds verbose least (some least) chars

theorem settled_readBounds (chars : List Char) : Settled (readBounds verbose) chars := by
  rw [funext (readBounds_eq verbose)]
  have settled := (settled_readBound verbose (skip verbose chars)).andThen
    (fun least rest _ => settled_afterBound verbose least rest) (fun _ => nofun)
  exact settled.after_skip ((isBare_readBound verbose).andThen fun _ => nofun)

/-! ## Opening groups -/

/-- What is made of the name of a group. -/
def groupNamed : List Char → Reader Token
  | [] => fun _ => .error .groupName
  | first :: others => fun rest =>
    if isNameStart first && others.all isNameChar then
      .ok (.opening [] (some (first :: others)), rest)
    else .error .groupName

theorem settled_groupNamed (name chars : List Char) : Settled (groupNamed name) chars := by
  cases name with
  | nil => exact settled_error .groupName chars
  | cons first others =>
      by_cases named : (isNameStart first && others.all isNameChar) = true
      · exact (settled_ok _ chars).congr fun _ _ => if_pos named
      · exact (settled_error _ chars).congr fun _ _ => if_neg named

theorem readGroupName_eq (chars : List Char) :
    readGroupName chars =
      match chars.dropWhile (· != '>') with
      | [] => .error .groupName
      | _ :: rest => groupNamed (chars.takeWhile (· != '>')) rest := by
  unfold readGroupName
  generalize chars.takeWhile (· != '>') = name
  generalize chars.dropWhile (· != '>') = found
  cases found <;> cases name <;> rfl

theorem settled_readGroupName (chars : List Char) : Settled readGroupName chars := by
  cases found : chars.dropWhile (· != '>') with
  | nil =>
      apply Settled.fails
      intro ending ends
      rcases span_append '>' (by decide) ends.isPlain chars with ⟨-, missing⟩ | ⟨rest, same, -⟩
      · exact ⟨.groupName, by rw [readGroupName_eq, missing]⟩
      · rw [found] at same
        contradiction
  | cons stop rest =>
      have suffix := (List.suffix_cons stop rest).trans
        (found ▸ List.dropWhile_suffix (l := chars) (· != '>'))
      apply (settled_groupNamed (chars.takeWhile (· != '>')) rest).step suffix
      intro ending ends
      rcases span_append '>' (by decide) ends.isPlain chars with
        ⟨missing, -⟩ | ⟨left, same, foundToo, name⟩
      · rw [found] at missing
        contradiction
      · obtain ⟨rfl, rfl⟩ := List.cons.inj (found.symm.trans same)
        rw [readGroupName_eq, foundToo, name]

theorem settled_readFlags (change : FlagChange) (clearing afterHyphen : Bool) (chars : List Char) :
    Settled (readFlags change clearing afterHyphen) chars := by
  induction chars generalizing change clearing afterHyphen with
  | nil => exact settled_nil rfl fun _ _ => ⟨.flag, rfl⟩
  | cons char rest ih =>
      by_cases colon : char = ':'
      · subst colon
        cases afterHyphen with
        | true => exact (settled_error .flag rest).cons fun _ => rfl
        | false => exact (settled_ok (.opening change none) rest).cons fun _ => rfl
      · by_cases closing : char = ')'
        · subst closing
          cases afterHyphen with
          | true => exact (settled_error .flag rest).cons fun _ => rfl
          | false =>
              cases change with
              | nil => exact (settled_error .nothingToRepeat rest).cons fun _ => rfl
              | cons first others =>
                  exact (settled_ok (.flags (first :: others)) rest).cons fun _ => rfl
        · by_cases hyphen : char = '-'
          · subst hyphen
            cases clearing with
            | true => exact (settled_error .flag rest).cons fun _ => rfl
            | false => exact (ih change true true).cons fun _ => rfl
          · cases letter : flagOf? char with
            | none =>
                apply (settled_error .flag rest).cons
                intro later
                simp [readFlags, letter]
            | some flag =>
                by_cases repeated : change.any (·.1 == flag) = true
                · apply (settled_error .flag rest).cons
                  intro later
                  simp only [readFlags, letter, repeated, if_true]
                · apply (ih (change ++ [(flag, !clearing)]) clearing false).cons
                  intro later
                  simp only [readFlags, letter, repeated, Bool.false_eq_true, if_false]

/-- What may follow an opening parenthesis and a question mark. -/
def markedGroup : Reader Token
  | '=' :: _ => .error .lookAround
  | '!' :: _ => .error .lookAround
  | '<' :: '=' :: _ => .error .lookAround
  | '<' :: '!' :: _ => .error .lookAround
  | 'P' :: '<' :: rest => readGroupName rest
  | '<' :: rest => readGroupName rest
  | [] => .error .unclosedGroup
  | rest => readFlags [] false false rest

/-- What may follow an opening parenthesis, behind blanks. -/
def groupStart : Reader Token
  | '?' :: rest => markedGroup rest
  | rest => .ok (.opening [] none, rest)

theorem readOpening_eq (chars : List Char) :
    readOpening verbose chars = groupStart (skip verbose chars) := by
  unfold readOpening groupStart markedGroup
  generalize skip verbose chars = text
  grind

theorem settled_markedGroup (chars : List Char) : Settled markedGroup chars := by
  cases chars with
  | nil => exact settled_nil rfl fun _ _ => ⟨.flag, rfl⟩
  | cons char rest =>
      by_cases ahead : char = '=' ∨ char = '!'
      · rcases ahead with rfl | rfl
        · exact (settled_error .lookAround rest).cons fun _ => rfl
        · exact (settled_error .lookAround rest).cons fun _ => rfl
      · by_cases angled : char = '<'
        · subst angled
          by_cases behind : ∃ more, rest = '=' :: more ∨ rest = '!' :: more
          · obtain ⟨more, rfl | rfl⟩ := behind
            · exact ((settled_error .lookAround more).cons fun _ => rfl).cons fun _ => rfl
            · exact ((settled_error .lookAround more).cons fun _ => rfl).cons fun _ => rfl
          · apply (settled_readGroupName rest).step (List.suffix_cons '<' rest)
            intro ending ends
            have other : ∀ more, rest ++ ending ≠ '=' :: more ∧ rest ++ ending ≠ '!' :: more := by
              intro more
              constructor
              · intro same
                obtain ⟨more, found, -⟩ := ends.eq_cons_of_append_eq_cons (by decide) same
                exact behind ⟨more, .inl found⟩
              · intro same
                obtain ⟨more, found, -⟩ := ends.eq_cons_of_append_eq_cons (by decide) same
                exact behind ⟨more, .inr found⟩
            rw [List.cons_append]
            unfold markedGroup
            grind
        · by_cases named : ∃ more, char = 'P' ∧ rest = '<' :: more
          · obtain ⟨more, rfl, rfl⟩ := named
            exact ((settled_readGroupName more).cons fun _ => rfl).cons fun _ => rfl
          · apply (settled_readFlags [] false false (char :: rest)).congr
            intro ending ends
            have other : ∀ more, char = 'P' → rest ++ ending ≠ '<' :: more := by
              rintro more rfl same
              obtain ⟨more, rfl, -⟩ := ends.eq_cons_of_append_eq_cons (by decide) same
              exact named ⟨more, rfl, rfl⟩
            rw [List.cons_append]
            unfold markedGroup
            grind

theorem settled_groupStart (chars : List Char) : Settled groupStart chars := by
  apply settled_of_first '?' (by decide) (fun _ => rfl)
  · intro text other
    rw [groupStart]
    exact other
  · exact fun rest _ => settled_markedGroup rest
  · exact fun _ => settled_ok (Token.opening [] none) chars

theorem settled_readOpening (chars : List Char) : Settled (readOpening verbose) chars := by
  rw [funext (readOpening_eq verbose)]
  exact (settled_groupStart _).after_skip (isBare_ok _)

/-! ## Tokens -/

/-- A class as a piece of a pattern. -/
def classPiece (tree : ClassTree) : Reader Token :=
  fun rest =>
    match tree with
    | .bracket content negated => .ok (.piece (.bracket content negated), rest)
    | _ => .error .unclosedClass

theorem settled_classPiece (tree : ClassTree) (chars : List Char) :
    Settled (classPiece tree) chars := by
  cases tree with
  | bracket content negated => exact settled_ok _ chars
  | _ => exact settled_error .unclosedClass chars

theorem isBare_classPiece (tree : ClassTree) : IsBare (classPiece tree) := by
  cases tree with
  | bracket content negated => exact isBare_ok _
  | _ => exact nofun

/-- A class behind its opening bracket. -/
def classFrom : Reader Token :=
  Reader.andThen (readOpen verbose) fun bracket =>
    Reader.andThen (readClass verbose [] bracket) classPiece

theorem settled_classFrom (chars : List Char) : Settled (classFrom verbose) chars := by
  apply (enclosed_readOpen verbose chars).settled_andThen
  · intro bracket rest _
    exact (settled_readClass verbose [] bracket rest).andThen
      (fun tree rest _ => settled_classPiece tree rest) isBare_classPiece
  · intro bracket text plain
    obtain ⟨fault, failed⟩ : ∃ fault, readClass verbose [] bracket text = .error fault :=
      exists_readClass_eq_error verbose plain
    exact ⟨fault, by rw [Reader.andThen, failed]; rfl⟩

/-- The characters behind which a token goes on. -/
def tokenGoesOn (char : Char) : Bool :=
  ['(', '[', '?', '*', '+', '{', '\\'].contains char

/-- Other tokens are one character. -/
theorem readTokenFrom_eq {char : Char} (single : tokenGoesOn char = false) (later : List Char) :
    readTokenFrom verbose char later =
      giving ((readTokenFrom verbose char []).map Prod.fst) later := by
  unfold readTokenFrom giving
  split
  all_goals first
    | rfl
    | contradiction

theorem readTokenFrom_backslash (chars : List Char) :
    readTokenFrom verbose '\\' chars =
      (readEscape verbose chars).map fun read => (.piece (.atom read.1), read.2) := by
  change (readEscape verbose chars >>= _) = _
  cases readEscape verbose chars <;> rfl

/-- The token that begins with a character is settled, unless the character is a backslash that ends
a text or stands in front of an open word boundary. -/
theorem settled_readTokenFrom (char : Char) (rest : List Char) :
    Settled (readTokenFrom verbose char) rest ∨
      char = '\\' ∧ (rest = [] ∨ ∃ blanks, rest = 'b' :: '{' :: blanks ∧
        ∀ ending, IsEnding ending → skip verbose (blanks ++ ending) = ending) := by
  cases longer : tokenGoesOn char with
  | false =>
      exact .inl ((settled_giving _ rest).congr fun _ _ => readTokenFrom_eq verbose longer _)
  | true =>
      have signs : char ∈ ['(', '[', '?', '*', '+', '{', '\\'] := List.contains_iff_mem.mp longer
      simp only [List.mem_cons, List.not_mem_nil, or_false] at signs
      rcases signs with rfl | rfl | rfl | rfl | rfl | rfl | rfl
      · exact .inl (settled_readOpening verbose rest)
      · exact .inl ((settled_classFrom verbose rest).congr fun _ _ => rfl)
      · exact .inl (settled_dropReluctance _ rest)
      · exact .inl (settled_dropReluctance _ rest)
      · exact .inl (settled_dropReluctance _ rest)
      · exact .inl (settled_readBounds verbose rest)
      · cases rest with
        | nil => exact .inr ⟨rfl, .inl rfl⟩
        | cons char rest =>
            rcases settled_readEscape verbose char rest with settled | ⟨blanks, same, clean⟩
            · have piece : Settled (Reader.andThen (readEscape verbose) fun atom rest =>
                  .ok (Token.piece (.atom atom), rest)) (char :: rest) :=
                settled.andThen (fun _ rest _ => settled_ok _ rest) (fun _ => isBare_ok _)
              exact .inl piece
            · exact .inr ⟨rfl, .inr ⟨blanks, same, clean⟩⟩

/-- What is read next does not depend on blanks. -/
theorem readToken_eq_of_skip_eq {one other : List Char}
    (same : skip verbose one = skip verbose other) :
    readToken verbose one = readToken verbose other := by
  rw [readToken, readToken, same]

theorem readToken_of_skip_eq_cons {text rest : List Char} {char : Char}
    (found : skip verbose text = char :: rest) :
    readToken verbose text = (readTokenFrom verbose char rest).map some := by
  rw [readToken, found]
  simp only
  cases readTokenFrom verbose char rest <;> rfl

/-- What is read next of a text that something may be put behind. -/
inductive NextToken (chars : List Char) : Prop where
  | token (token : Token) (rest : List Char) (suffix : rest <:+ chars)
      (read : ∀ ending, IsEnding ending →
        readToken verbose (chars ++ ending) = .ok (some (token, rest ++ ending)))
  /-- A comment follows the token, up to the end. -/
  | last (token : Token) (comment : '#' ∈ chars)
      (read : ∀ ending, IsEnding ending →
        readToken verbose (chars ++ ending) = .ok (some (token, [])))
  /-- There is nothing but a comment up to the end. -/
  | comment (comment : '#' ∈ chars)
      (read : ∀ ending, IsEnding ending → readToken verbose (chars ++ ending) = .ok none)
  /-- There is nothing but blanks and possibly a backslash. -/
  | atEnd (tail : List Char) (open_ : tail = [] ∨ tail = ['\\']) (suffix : tail <:+ chars)
      (read : ∀ ending, IsEnding ending →
        readToken verbose (chars ++ ending) = readToken verbose (tail ++ ending))
  /-- There is no next token, or a piece that no token follows. -/
  | fails (read : ∀ ending, IsEnding ending →
      (∃ fault, readToken verbose (chars ++ ending) = .error fault) ∨
        ∃ tree rest, readToken verbose (chars ++ ending) = .ok (some (.piece tree, rest)) ∧
          ∃ fault, readToken verbose rest = .error fault)

/-- There are no bounds behind an open brace at the end of a text. -/
theorem exists_readToken_openBrace_eq_error {blanks ending : List Char} (ends : IsEnding ending)
    (clean : skip verbose (blanks ++ ending) = ending) :
    ∃ fault, readToken verbose ('{' :: (blanks ++ ending)) = .error fault := by
  have found : skip verbose ('{' :: (blanks ++ ending)) = '{' :: (blanks ++ ending) := by
    cases verbose <;> rfl
  have solid : dropBlanks ending = ending := dropBlanks_append ends.isPlain []
  have bound : readBound verbose ending = .error .bounds := by
    rw [readBound, solid, readDigits_of_isEnding verbose [] ends]
    rfl
  refine ⟨.bounds, ?_⟩
  rw [readToken_of_skip_eq_cons verbose found]
  change (readBounds verbose (blanks ++ ending)).map some = _
  rw [readBounds_eq, clean, Reader.andThen, bound]
  rfl

theorem nextToken (chars : List Char) : NextToken verbose chars := by
  have suffix := skip_suffix verbose chars
  rcases skip_append verbose chars with clean | ⟨hash, comment⟩
  · cases found : skip verbose chars with
    | nil =>
        apply NextToken.atEnd [] (.inl rfl) (List.nil_suffix)
        intro ending ends
        apply readToken_eq_of_skip_eq
        rw [clean ending ends, found, List.nil_append, skip_of_isPlain verbose ends.isPlain]
    | cons char rest =>
        rw [found] at suffix
        have inner : rest <:+ chars := (List.suffix_cons char rest).trans suffix
        have begins : ∀ ending, IsEnding ending → readToken verbose (chars ++ ending) =
            (readTokenFrom verbose char (rest ++ ending)).map some := by
          intro ending ends
          apply readToken_of_skip_eq_cons
          rw [clean ending ends, found]
          rfl
        rcases settled_readTokenFrom verbose char rest with
          settled | ⟨rfl, rfl | ⟨blanks, rfl, blank⟩⟩
        · cases settled with
          | leaves token left taken read =>
              apply NextToken.token token left (taken.trans inner)
              intro ending ends
              rw [begins ending ends, read ending ends]
              rfl
          | swallows token hash read =>
              apply NextToken.last token (inner.subset hash)
              intro ending ends
              rw [begins ending ends, read ending ends]
              rfl
          | fails read =>
              apply NextToken.fails
              intro ending ends
              obtain ⟨fault, failed⟩ := read ending ends
              exact .inl ⟨fault, by rw [begins ending ends, failed]; rfl⟩
        · apply NextToken.atEnd ['\\'] (.inr rfl) suffix
          intro ending ends
          apply readToken_eq_of_skip_eq
          rw [clean ending ends, found]
          cases verbose <;> rfl
        · apply NextToken.fails
          intro ending ends
          have begins := begins ending ends
          rw [List.cons_append, List.cons_append, readTokenFrom_backslash,
            readEscape_openBrace verbose ends (blank ending ends)] at begins
          split at begins
          · exact .inl ⟨.escape, begins⟩
          · exact .inr ⟨_, _, begins,
              exists_readToken_openBrace_eq_error verbose ends (blank ending ends)⟩
  · apply NextToken.comment hash
    intro ending ends
    rw [readToken, comment ending ends]

end Pattern

end CallGraph
