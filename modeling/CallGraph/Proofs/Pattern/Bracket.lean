import CallGraph.Pattern.Bracket
import CallGraph.Proofs.Pattern.Escape

/-!
# Classes and what is put behind a text

Dollar signs and parentheses do not close a class.  A part of a class is enclosed in a text if its
reader leaves alone what is put behind the text; otherwise it leaves nothing but dollar signs and
parentheses, and the class is never closed.  Therefore a class is settled by every text.
-/

namespace CallGraph

namespace Pattern

variable {α β : Type} {reader : Reader α} {chars rest : List Char}

/-- A reader leaves the ending behind a text alone, or nothing but a part of it is left. -/
inductive Enclosed (reader : Reader α) (chars : List Char) : Prop where
  | leaves (value : α) (rest : List Char) (suffix : rest <:+ chars)
      (read : ∀ ending, IsEnding ending → reader (chars ++ ending) = .ok (value, rest ++ ending))
  | exposed (left : ∀ ending, IsEnding ending → ∀ value rest,
      reader (chars ++ ending) = .ok (value, rest) → IsPlain rest)

/-- A reader leaves nothing but dollar signs and parentheses of them. -/
def IsTame (reader : Reader α) : Prop :=
  ∀ text, IsPlain text → ∀ value rest, reader text = .ok (value, rest) → IsPlain rest

theorem Settled.enclosed (settled : Settled reader chars) : Enclosed reader chars := by
  cases settled with
  | leaves value left suffix read => exact .leaves value left suffix read
  | swallows value comment read =>
      apply Enclosed.exposed
      intro ending ends _ _ found
      rw [read ending ends] at found
      cases found
      exact isPlain_nil
  | fails read =>
      apply Enclosed.exposed
      intro ending ends _ _ found
      obtain ⟨fault, failed⟩ := read ending ends
      rw [failed] at found
      contradiction

theorem IsTame.enclosed_nil (tame : IsTame reader) : Enclosed reader [] :=
  .exposed fun ending ends => tame ending ends.isPlain

theorem enclosed_of_error (failed : ∀ ending, IsEnding ending →
    ∃ fault, reader (chars ++ ending) = .error fault) : Enclosed reader chars :=
  (Settled.fails failed).enclosed

theorem Enclosed.step {next : Reader α} (enclosed : Enclosed next rest) (suffix : rest <:+ chars)
    (taken : ∀ ending, IsEnding ending → reader (chars ++ ending) = next (rest ++ ending)) :
    Enclosed reader chars := by
  cases enclosed with
  | leaves value left inner read =>
      exact .leaves value left (inner.trans suffix)
        fun ending ends => (taken ending ends).trans (read ending ends)
  | exposed left =>
      exact .exposed fun ending ends value rest found =>
        left ending ends value rest ((taken ending ends).symm.trans found)

theorem Enclosed.congr {other : Reader α} (enclosed : Enclosed other chars)
    (same : ∀ ending, IsEnding ending → reader (chars ++ ending) = other (chars ++ ending)) :
    Enclosed reader chars :=
  enclosed.step List.suffix_rfl same

theorem Enclosed.cons {next : Reader α} {char : Char} (enclosed : Enclosed next rest)
    (taken : ∀ later, reader (char :: later) = next later) : Enclosed reader (char :: rest) :=
  enclosed.step (List.suffix_cons char rest) fun ending _ => taken (rest ++ ending)

theorem Enclosed.after_skip {verbose : Bool} (enclosed : Enclosed reader (skip verbose chars))
    (tame : IsTame reader) : Enclosed (fun later => reader (skip verbose later)) chars := by
  rcases skip_append verbose chars with clean | ⟨-, comment⟩
  · exact enclosed.step (skip_suffix verbose chars)
      fun ending ends => congrArg reader (clean ending ends)
  · apply Enclosed.exposed
    intro ending ends value rest found
    rw [comment ending ends] at found
    exact tame [] isPlain_nil value rest found

theorem Enclosed.andThen {next : α → Reader β} (enclosed : Enclosed reader chars)
    (later : ∀ value rest, rest <:+ chars → Enclosed (next value) rest)
    (tame : ∀ value, IsTame (next value)) : Enclosed (reader.andThen next) chars := by
  cases enclosed with
  | leaves value left suffix read =>
      exact (later value left suffix).step suffix
        fun ending ends => Reader.andThen_of_ok (read ending ends)
  | exposed left =>
      apply Enclosed.exposed
      intro ending ends result rest found
      obtain ⟨⟨value, middle⟩, first, second⟩ := Fallible.of_bind_eq_ok found
      exact tame value middle (left ending ends value middle first) result rest second

/-- A reader behind one that encloses a text is settled if it fails outside of the text. -/
theorem Enclosed.settled_andThen {next : α → Reader β} (enclosed : Enclosed reader chars)
    (later : ∀ value rest, rest <:+ chars → Settled (next value) rest)
    (outside : ∀ value text, IsPlain text → ∃ fault, next value text = .error fault) :
    Settled (reader.andThen next) chars := by
  cases enclosed with
  | leaves value left suffix read =>
      exact (later value left suffix).step suffix
        fun ending ends => Reader.andThen_of_ok (read ending ends)
  | exposed left =>
      apply Settled.fails
      intro ending ends
      cases first : reader (chars ++ ending) with
      | error fault => exact ⟨fault, by rw [Reader.andThen, first]; rfl⟩
      | ok read =>
          obtain ⟨value, rest⟩ := read
          rw [Reader.andThen_of_ok first]
          exact outside value rest (left ending ends value rest first)

theorem IsTame.andThen {next : α → Reader β} (first : IsTame reader)
    (later : ∀ value, IsTame (next value)) : IsTame (reader.andThen next) := by
  intro text plain result rest found
  obtain ⟨⟨value, middle⟩, readFirst, readNext⟩ := Fallible.of_bind_eq_ok found
  exact later value middle (first text plain value middle readFirst) result rest readNext

theorem IsTame.after_skip {verbose : Bool} (tame : IsTame reader) :
    IsTame fun later => reader (skip verbose later) := by
  intro text plain
  simp only [skip_of_isPlain verbose plain]
  exact tame text plain

/-! ## Members -/

variable (verbose : Bool)

theorem isTame_readMember : IsTame (readMember verbose) := by
  intro text plain atom rest read
  cases text with
  | nil => contradiction
  | cons char text =>
      obtain ⟨first, later⟩ := isPlain_cons.mp plain
      rcases first with rfl | rfl
      · cases read
        exact later
      · cases read
        exact later

/-- A member of a class is enclosed, unless it is a word boundary, which is no member. -/
theorem enclosed_readMember (chars : List Char) :
    Enclosed (readMember verbose) chars ∨
      ∀ ending, IsEnding ending → ∀ atom rest,
        readMember verbose (chars ++ ending) = .ok (atom, rest) →
          atom = .anchor .wordBoundary := by
  cases chars with
  | nil => exact .inl (isTame_readMember verbose).enclosed_nil
  | cons char rest =>
      by_cases escaped : char = '\\'
      · subst escaped
        cases rest with
        | nil =>
            apply Or.inl
            apply Enclosed.exposed
            intro ending ends atom left read
            rcases ends.eq_nil_or_cons with rfl | ⟨later, rfl, plain⟩
            · contradiction
            · cases read
              exact plain
        | cons char rest =>
            rcases settled_readEscape verbose char rest with settled | ⟨blanks, same, clean⟩
            · exact .inl (settled.enclosed.cons fun _ => rfl)
            · apply Or.inr
              intro ending ends atom left read
              rw [same] at read
              change readEscape verbose ('b' :: '{' :: (blanks ++ ending)) = _ at read
              rw [readEscape_openBrace verbose ends (clean ending ends)] at read
              split at read
              · contradiction
              · cases read
                rfl
      · apply Or.inl
        apply (settled_ok (Atom.literal char false) rest).enclosed.cons
        intro later
        rw [readMember]
        exact escaped

theorem isTame_giving (result : Except Fault α) : IsTame (giving result) := by
  intro text plain value rest read
  cases result with
  | error fault => contradiction
  | ok value =>
      cases read
      exact plain

/-- What may follow the first member of a range, behind blanks. -/
def rangeFrom (first : Atom) : Reader ClassTree
  | [] => .error .unclosedClass
  | '-' :: rest =>
    match skip verbose rest with
    | [] => .error .unclosedClass
    | ']' :: _ => giving first.asMember ('-' :: rest)
    | '-' :: _ => giving first.asMember ('-' :: rest)
    | chars =>
      Reader.andThen (readMember verbose) (fun last => giving (first.rangeTo last)) chars
  | rest => giving first.asMember rest

theorem readRange_eq (chars : List Char) :
    readRange verbose chars =
      Reader.andThen (readMember verbose)
        (fun first rest => rangeFrom verbose first (skip verbose rest)) chars := by
  rfl

theorem isTame_rangeFrom (first : Atom) : IsTame (rangeFrom verbose first) := by
  intro text plain value rest read
  cases text with
  | nil => contradiction
  | cons char text =>
      rcases (isPlain_cons.mp plain).1 with rfl | rfl
      · exact isTame_giving _ _ plain _ _ read
      · exact isTame_giving _ _ plain _ _ read

/-- A word boundary is neither a member nor the start of a range. -/
theorem rangeFrom_wordBoundary (chars : List Char) :
    ∃ fault, rangeFrom verbose (.anchor .wordBoundary) chars = .error fault := by
  unfold rangeFrom
  split
  · exact ⟨_, rfl⟩
  · split
    · exact ⟨_, rfl⟩
    · exact ⟨_, rfl⟩
    · exact ⟨_, rfl⟩
    · rw [Reader.andThen]
      generalize readMember verbose _ = read
      cases read with
      | error fault => exact ⟨fault, rfl⟩
      | ok read => exact ⟨.range, rfl⟩
  · exact ⟨_, rfl⟩

theorem enclosed_rangeEnd (first : Atom) (chars : List Char) :
    Enclosed (Reader.andThen (readMember verbose) fun last => giving (first.rangeTo last))
      chars := by
  rcases enclosed_readMember verbose chars with enclosed | boundary
  · exact enclosed.andThen (fun last rest _ => (settled_giving _ rest).enclosed)
      (fun last => isTame_giving _)
  · apply enclosed_of_error
    intro ending ends
    rw [Reader.andThen]
    cases read : readMember verbose (chars ++ ending) with
    | error fault => exact ⟨fault, rfl⟩
    | ok found =>
        obtain ⟨last, left⟩ := found
        obtain rfl := boundary ending ends last left read
        cases first <;> exact ⟨.range, rfl⟩

theorem enclosed_rangeFrom (first : Atom) (chars : List Char) :
    Enclosed (rangeFrom verbose first) chars := by
  cases chars with
  | nil => exact (isTame_rangeFrom verbose first).enclosed_nil
  | cons char rest =>
      by_cases hyphen : char = '-'
      · subst hyphen
        rcases skip_append verbose rest with clean | ⟨-, comment⟩
        · cases found : skip verbose rest with
          | nil =>
              apply Enclosed.exposed
              intro ending ends value left read
              rw [List.cons_append, rangeFrom, clean ending ends, found, List.nil_append] at read
              rcases ends.eq_nil_or_cons with rfl | ⟨later, rfl, plain⟩
              · contradiction
              · exact isTame_giving _ later plain value left read
          | cons next more =>
              by_cases closing : next = ']' ∨ next = '-'
              · apply (settled_giving first.asMember ('-' :: rest)).enclosed.congr
                intro ending ends
                rw [List.cons_append, rangeFrom, clean ending ends, found]
                rcases closing with rfl | rfl <;> rfl
              · have suffix := (skip_suffix verbose rest).trans (List.suffix_cons '-' rest)
                rw [found] at suffix
                apply (enclosed_rangeEnd verbose first (next :: more)).step suffix
                intro ending ends
                rw [List.cons_append, rangeFrom, clean ending ends, found]
                grind
        · apply enclosed_of_error
          intro ending ends
          refine ⟨.unclosedClass, ?_⟩
          rw [List.cons_append, rangeFrom, comment ending ends]
      · apply (settled_giving first.asMember (char :: rest)).enclosed.congr
        intro ending ends
        rw [List.cons_append, rangeFrom]
        · exact nofun
        · simpa using hyphen

theorem enclosed_readRange (chars : List Char) : Enclosed (readRange verbose) chars := by
  have same : ∀ ending, IsEnding ending → readRange verbose (chars ++ ending) =
      Reader.andThen (readMember verbose)
        (fun first rest => rangeFrom verbose first (skip verbose rest)) (chars ++ ending) :=
    fun ending _ => readRange_eq verbose (chars ++ ending)
  rcases enclosed_readMember verbose chars with enclosed | boundary
  · apply Enclosed.congr _ same
    exact enclosed.andThen
      (fun first rest _ => (enclosed_rangeFrom verbose first _).after_skip
        (isTame_rangeFrom verbose first))
      (fun first => (isTame_rangeFrom verbose first).after_skip)
  · apply enclosed_of_error
    intro ending ends
    rw [same ending ends, Reader.andThen]
    cases read : readMember verbose (chars ++ ending) with
    | error fault => exact ⟨fault, rfl⟩
    | ok found =>
        obtain ⟨first, left⟩ := found
        obtain rfl := boundary ending ends first left read
        exact rangeFrom_wordBoundary verbose (skip verbose left)

theorem isTame_readRange : IsTame (readRange verbose) := by
  rw [funext (readRange_eq verbose)]
  exact (isTame_readMember verbose).andThen fun first => (isTame_rangeFrom verbose first).after_skip

/-- The class with a name that ends in a colon and a bracket. -/
def namedFrom? (negated : Bool) (chars : List Char) : Option (ClassTree × List Char) :=
  match chars.dropWhile (· != ':') with
  | ':' :: ']' :: rest =>
    (namedClass? (chars.takeWhile (· != ':'))).map fun set => (.named set negated, rest)
  | _ => none

variable {ending : List Char}

theorem namedFrom?_append (ends : IsEnding ending) (negated : Bool) (chars : List Char) :
    namedFrom? negated (chars ++ ending) =
      (namedFrom? negated chars).map fun read => (read.1, read.2 ++ ending) := by
  rw [namedFrom?, namedFrom?]
  rcases span_append ':' (by decide) ends.isPlain chars with
    ⟨missing, missingToo⟩ | ⟨rest, found, foundToo, same⟩
  · rw [missing, missingToo]
    rfl
  · rw [found, foundToo, same]
    cases rest with
    | nil => rcases ends.eq_nil_or_cons with rfl | ⟨later, rfl, -⟩ <;> rfl
    | cons char rest =>
        by_cases closed : char = ']'
        · subst closed
          cases namedClass? (chars.takeWhile (· != ':')) <;> rfl
        · grind

/-- Nothing that is put behind a text makes the name of a class of it. -/
theorem readNamed?_append (ends : IsEnding ending) (chars : List Char) :
    readNamed? (chars ++ ending) =
      (readNamed? chars).map fun read => (read.1, read.2 ++ ending) := by
  cases chars with
  | nil => rcases ends.eq_nil_or_cons with rfl | ⟨later, rfl, -⟩ <;> rfl
  | cons char rest =>
      by_cases colon : char = ':'
      · subst colon
        cases rest with
        | nil =>
            rcases ends.eq_nil_or_cons with rfl | ⟨later, rfl, plain⟩
            · rfl
            · exact namedFrom?_append ends false []
        | cons first rest =>
            by_cases caret : first = '^'
            · subst caret
              exact namedFrom?_append ends true rest
            · have named : ∀ later, readNamed? (':' :: first :: later) =
                  namedFrom? false (first :: later) := by
                intro later
                simp only [readNamed?, namedFrom?, List.head?_cons]
                grind
              exact (named (rest ++ ending)).trans
                ((namedFrom?_append ends false (first :: rest)).trans (by rw [named]))
      · rw [List.cons_append]
        unfold readNamed?
        grind

theorem readNamed?_suffix {tree : ClassTree} (read : readNamed? chars = some (tree, rest)) :
    rest <:+ chars := by
  unfold readNamed? at read
  split at read
  · next tail =>
    have start : ∀ negated : Bool, (if negated then tail.drop 1 else tail) <:+ ':' :: tail := by
      intro negated
      have whole := List.suffix_cons ':' tail
      cases negated with
      | false => exact whole
      | true => exact (List.drop_suffix 1 tail).trans whole
    simp only at read
    split at read
    · next later found =>
      obtain ⟨set, -, same⟩ := Option.map_eq_some_iff.mp read
      obtain ⟨-, rfl⟩ := Prod.mk.inj same
      have inner := List.dropWhile_suffix (· != ':')
        (l := if tail.head? == some '^' then tail.drop 1 else tail)
      rw [found] at inner
      exact ((List.suffix_cons ']' later).trans (List.suffix_cons ':' _)).trans
        (inner.trans (start _))
    · contradiction
  · contradiction

/-! ## Opening brackets -/

theorem settled_readHyphens (bracket : OpenBracket) (chars : List Char) :
    Settled (fun later => .ok (readHyphens verbose bracket later)) chars := by
  induction bracket, chars using readHyphens.induct verbose with
  | case1 bracket =>
      apply Settled.leaves bracket [] List.suffix_rfl
      intro ending ends
      rcases ends.eq_nil_or_cons with rfl | ⟨rest, rfl, -⟩
      · rw [List.append_nil, readHyphens]
      · rw [List.nil_append, readHyphens, if_neg (by decide)]
  | case2 bracket rest ih =>
      have bare : IsBare fun later =>
          .ok (readHyphens verbose (bracket.push (.literal '-' false)) later) :=
        isBare_of_snd (by rw [readHyphens])
      apply (ih.after_skip bare).cons
      intro later
      rw [readHyphens, if_pos rfl]
  | case3 bracket char rest other =>
      apply (settled_ok bracket (char :: rest)).congr
      intro later _
      rw [List.cons_append, readHyphens, if_neg other]

theorem isTame_readHyphens (bracket : OpenBracket) :
    IsTame fun later => .ok (readHyphens verbose bracket later) := by
  intro text plain value rest read
  cases text with
  | nil =>
      simp only [readHyphens] at read
      cases read
      exact plain
  | cons char text =>
      have other : char ≠ '-' := by
        rcases (isPlain_cons.mp plain).1 with rfl | rfl <;> decide
      simp only [readHyphens, if_neg other] at read
      cases read
      exact plain

/-- Something has to be left. -/
def ifLeft (bracket : OpenBracket) : Reader OpenBracket
  | [] => .error .unclosedClass
  | rest => .ok (bracket, rest)

theorem isTame_ifLeft (bracket : OpenBracket) : IsTame (ifLeft bracket) := by
  intro text plain value rest read
  cases text with
  | nil => contradiction
  | cons char text =>
      cases read
      exact plain

theorem enclosed_ifLeft (bracket : OpenBracket) (chars : List Char) :
    Enclosed (ifLeft bracket) chars := by
  cases chars with
  | nil => exact (isTame_ifLeft bracket).enclosed_nil
  | cons char rest => exact (settled_ok bracket (char :: rest)).enclosed.congr fun _ _ => rfl

/-- What may follow the hyphens at the start of a class. -/
def afterHyphens (bracket : OpenBracket) : Reader OpenBracket
  | ']' :: rest =>
    if bracket.members.isNone then
      ifLeft (bracket.push (.literal ']' false)) (skip verbose rest)
    else .ok (bracket, ']' :: rest)
  | rest => ifLeft bracket rest

theorem isTame_afterHyphens (bracket : OpenBracket) : IsTame (afterHyphens verbose bracket) := by
  intro text plain value rest read
  rw [afterHyphens] at read
  · exact isTame_ifLeft bracket text plain value rest read
  · rintro later rfl
    exact absurd (isPlain_cons.mp plain).1 (by decide)

theorem enclosed_afterHyphens (bracket : OpenBracket) (chars : List Char) :
    Enclosed (afterHyphens verbose bracket) chars := by
  by_cases closing : ∃ rest, chars = ']' :: rest ∧ bracket.members.isNone = true
  · obtain ⟨rest, rfl, first⟩ := closing
    have enclosed := enclosed_ifLeft (bracket.push (.literal ']' false)) (skip verbose rest)
    apply (enclosed.after_skip (isTame_ifLeft _)).cons
    intro later
    rw [afterHyphens, if_pos first]
  · apply (enclosed_ifLeft bracket chars).congr
    intro ending ends
    unfold afterHyphens
    split
    · next later same =>
      obtain ⟨rest, rfl, rfl⟩ := ends.eq_cons_of_append_eq_cons (by decide) same
      have filled : ¬bracket.members.isNone = true := fun first => closing ⟨rest, rfl, first⟩
      exact if_neg filled
    · rfl

/-- The start of a class, with or without a caret. -/
def openFrom (negated : Bool) : Reader OpenBracket :=
  Reader.andThen (fun later => .ok (readHyphens verbose ⟨negated, none, none⟩ later))
    (afterHyphens verbose)

theorem isTame_openFrom (negated : Bool) : IsTame (openFrom verbose negated) :=
  (isTame_readHyphens verbose _).andThen (isTame_afterHyphens verbose)

theorem enclosed_openFrom (negated : Bool) (chars : List Char) :
    Enclosed (openFrom verbose negated) chars :=
  (settled_readHyphens verbose _ chars).enclosed.andThen
    (fun bracket rest _ => enclosed_afterHyphens verbose bracket rest)
    (isTame_afterHyphens verbose)

/-- The start of a class behind blanks. -/
def openAny : Reader OpenBracket
  | '^' :: rest => openFrom verbose true (skip verbose rest)
  | rest => openFrom verbose false rest

theorem openFrom_eq (negated : Bool) (text : List Char) :
    openFrom verbose negated text = afterHyphens verbose
      (readHyphens verbose ⟨negated, none, none⟩ text).1
      (readHyphens verbose ⟨negated, none, none⟩ text).2 :=
  rfl

theorem readOpen_eq (chars : List Char) :
    readOpen verbose chars = openAny verbose (skip verbose chars) := by
  unfold readOpen
  generalize skip verbose chars = text
  by_cases caret : ∃ rest, text = '^' :: rest
  · obtain ⟨rest, rfl⟩ := caret
    simp only [List.head?_cons, List.drop_one, List.tail_cons, BEq.rfl, if_true, openAny,
      openFrom_eq]
    unfold afterHyphens ifLeft
    grind
  · have plain : (text.head? == some '^') = false := by
      cases text with
      | nil => rfl
      | cons char rest => simpa using fun same => caret ⟨rest, by rw [same]⟩
    rw [openAny]
    · simp only [plain, Bool.false_eq_true, if_false, openFrom_eq]
      unfold afterHyphens ifLeft
      grind
    · exact fun rest same => caret ⟨rest, same⟩

theorem isTame_openAny : IsTame (openAny verbose) := by
  intro text plain value rest read
  rw [openAny] at read
  · exact isTame_openFrom verbose false text plain value rest read
  · rintro later rfl
    exact absurd (isPlain_cons.mp plain).1 (by decide)

theorem enclosed_openAny (chars : List Char) : Enclosed (openAny verbose) chars := by
  by_cases caret : ∃ rest, chars = '^' :: rest
  · obtain ⟨rest, rfl⟩ := caret
    exact ((enclosed_openFrom verbose true _).after_skip (isTame_openFrom verbose true)).cons
      fun _ => rfl
  · apply (enclosed_openFrom verbose false chars).congr
    intro ending ends
    rw [openAny]
    intro later same
    obtain ⟨rest, rfl, -⟩ := ends.eq_cons_of_append_eq_cons (by decide) same
    exact caret ⟨rest, rfl⟩

theorem enclosed_readOpen (chars : List Char) : Enclosed (readOpen verbose) chars := by
  rw [funext (readOpen_eq verbose)]
  exact (enclosed_openAny verbose _).after_skip (isTame_openAny verbose)

/-! ## Tokens of a class -/

/-- The operator that a character means when it stands twice. -/
def operatorOf? : Char → Option SetOperator
  | '&' => some .intersection
  | '-' => some .difference
  | '~' => some .symmetricDifference
  | _ => none

/-- A range as a member. -/
def memberFrom : Reader BracketToken :=
  Reader.andThen (readRange verbose) fun member rest => .ok (.member member, rest)

/-- A bracket that opens a class within the class. -/
def openingFrom : Reader BracketToken :=
  Reader.andThen (readOpen verbose) fun bracket rest => .ok (.opening bracket, rest)

/-- The next token of a class behind blanks. -/
def bracketTokenFrom : Reader BracketToken
  | [] => .error .unclosedClass
  | '[' :: rest =>
    match readNamed? rest with
    | some (member, rest) => .ok (.member member, rest)
    | none => openingFrom verbose rest
  | ']' :: rest => .ok (.closing, rest)
  | '&' :: '&' :: rest => .ok (.operator .intersection, rest)
  | '-' :: '-' :: rest => .ok (.operator .difference, rest)
  | '~' :: '~' :: rest => .ok (.operator .symmetricDifference, rest)
  | chars => memberFrom verbose chars

theorem readBracketToken_eq (chars : List Char) :
    readBracketToken verbose chars = bracketTokenFrom verbose (skip verbose chars) :=
  rfl

theorem isTame_ok (value : α) : IsTame fun later => .ok (value, later) := by
  intro text plain _ _ read
  cases read
  exact plain

theorem isTame_memberFrom : IsTame (memberFrom verbose) :=
  (isTame_readRange verbose).andThen fun member => isTame_ok (BracketToken.member member)

theorem enclosed_memberFrom (chars : List Char) : Enclosed (memberFrom verbose) chars :=
  (enclosed_readRange verbose chars).andThen
    (fun member rest _ => (settled_ok (BracketToken.member member) rest).enclosed)
    (fun member => isTame_ok (BracketToken.member member))

theorem enclosed_openingFrom (chars : List Char) : Enclosed (openingFrom verbose) chars :=
  (enclosed_readOpen verbose chars).andThen
    (fun bracket rest _ => (settled_ok (BracketToken.opening bracket) rest).enclosed)
    (fun bracket => isTame_ok (BracketToken.opening bracket))

/-- In front of dollar signs and parentheses, the next token is a member. -/
theorem bracketTokenFrom_of_isPlain {text : List Char} (plain : IsPlain text) :
    bracketTokenFrom verbose text = memberFrom verbose text := by
  cases text with
  | nil => rfl
  | cons char text => rcases (isPlain_cons.mp plain).1 with rfl | rfl <;> rfl

theorem enclosed_bracketTokenFrom (chars : List Char) :
    Enclosed (bracketTokenFrom verbose) chars := by
  by_cases opening : ∃ rest, chars = '[' :: rest
  · obtain ⟨rest, rfl⟩ := opening
    cases named : readNamed? rest with
    | some read =>
        obtain ⟨member, left⟩ := read
        apply Enclosed.leaves (.member member) left
          ((readNamed?_suffix named).trans (List.suffix_cons '[' rest))
        intro ending ends
        rw [List.cons_append, bracketTokenFrom, readNamed?_append ends, named]
        rfl
    | none =>
        apply (enclosed_openingFrom verbose rest).step (List.suffix_cons '[' rest)
        intro ending ends
        rw [List.cons_append, bracketTokenFrom, readNamed?_append ends, named]
        rfl
  · by_cases closing : ∃ rest, chars = ']' :: rest
    · obtain ⟨rest, rfl⟩ := closing
      exact (settled_ok .closing rest).enclosed.cons fun _ => rfl
    · by_cases twice : ∃ char rest, (operatorOf? char).isSome = true ∧ chars = char :: char :: rest
      · obtain ⟨char, rest, operates, rfl⟩ := twice
        obtain ⟨operator, found⟩ := Option.isSome_iff_exists.mp operates
        have suffix := (List.suffix_cons char rest).trans (List.suffix_cons char _)
        apply (settled_ok (.operator operator) rest).enclosed.step suffix
        intro ending _
        unfold operatorOf? at found
        split at found
        · cases found
          rfl
        · cases found
          rfl
        · cases found
          rfl
        · contradiction
      · apply (enclosed_memberFrom verbose chars).congr
        intro ending ends
        -- Neither of the two signs of an operator can be a part of what is put behind the text.
        have once : ∀ char later, (operatorOf? char).isSome = true → char ≠ '$' →
            chars ++ ending ≠ char :: char :: later := by
          intro char later operates other same
          obtain ⟨rest, rfl, second⟩ := ends.eq_cons_of_append_eq_cons other same
          obtain ⟨rest, rfl, -⟩ := ends.eq_cons_of_append_eq_cons other second.symm
          exact twice ⟨char, rest, operates, rfl⟩
        unfold bracketTokenFrom
        split
        · next same => rw [same]; rfl
        · next later same =>
          obtain ⟨rest, rfl, -⟩ := ends.eq_cons_of_append_eq_cons (by decide) same
          exact absurd ⟨rest, rfl⟩ opening
        · next later same =>
          obtain ⟨rest, rfl, -⟩ := ends.eq_cons_of_append_eq_cons (by decide) same
          exact absurd ⟨rest, rfl⟩ closing
        · next later same => exact absurd same (once _ _ rfl (by decide))
        · next later same => exact absurd same (once _ _ rfl (by decide))
        · next later same => exact absurd same (once _ _ rfl (by decide))
        · rfl

theorem enclosed_readBracketToken (chars : List Char) :
    Enclosed (readBracketToken verbose) chars := by
  rw [funext (readBracketToken_eq verbose)]
  apply (enclosed_bracketTokenFrom verbose _).after_skip
  intro text plain
  rw [bracketTokenFrom_of_isPlain verbose plain]
  exact isTame_memberFrom verbose text plain

/-- A class is closed by a bracket only. -/
theorem eq_cons_of_bracketTokenFrom_eq_closing {text left : List Char}
    (read : bracketTokenFrom verbose text = .ok (.closing, left)) : text = ']' :: left := by
  have member : memberFrom verbose text ≠ .ok (.closing, left) := by
    intro read
    obtain ⟨⟨tree, middle⟩, -, made⟩ := Fallible.of_bind_eq_ok read
    cases made
  unfold bracketTokenFrom at read
  split at read
  · contradiction
  · split at read
    · cases read
    · obtain ⟨⟨bracket, middle⟩, -, made⟩ := Fallible.of_bind_eq_ok read
      cases made
  · cases read
    rfl
  · cases read
  · cases read
  · cases read
  · exact absurd read member

variable {outer : List OpenBracket} {bracket : OpenBracket}

/-- What a class becomes with one more token, or what it is if it ends with the token. -/
def afterToken (outer : List OpenBracket) (bracket : OpenBracket) : BracketToken → Reader ClassTree
  | .member member => readClass verbose outer (bracket.push member)
  | .operator operator => readClass verbose outer (bracket.operate operator)
  | .opening inner => readClass verbose (bracket :: outer) inner
  | .closing =>
    match outer with
    | [] => fun rest => .ok (bracket.close, rest)
    | parent :: outer => readClass verbose outer (parent.push bracket.close)

theorem readClass_eq (chars : List Char) :
    readClass verbose outer bracket chars =
      Reader.andThen (readBracketToken verbose) (afterToken verbose outer bracket) chars := by
  rw [Reader.andThen]
  unfold readClass
  split
  · next read =>
    rw [read]
    rfl
  · next read =>
    rw [read]
    rfl
  · next read =>
    rw [read]
    rfl
  · next read =>
    rw [read]
    rfl
  · next read =>
    rw [read]
    split <;> rfl

/-- Dollar signs and parentheses do not close a class. -/
theorem exists_readClass_eq_error (plain : IsPlain chars) :
    ∃ fault, readClass verbose outer bracket chars = .error fault := by
  induction length : chars.length using Nat.strong_induction_on generalizing chars bracket with
  | h _ ih =>
    subst length
    have same : readBracketToken verbose chars = memberFrom verbose chars := by
      rw [readBracketToken_eq, skip_of_isPlain verbose plain,
        bracketTokenFrom_of_isPlain verbose plain]
    rw [readClass_eq, Reader.andThen]
    cases read : readBracketToken verbose chars with
    | error fault => exact ⟨fault, rfl⟩
    | ok found =>
        obtain ⟨token, rest⟩ := found
        have shorter := readBracketToken_length read
        rw [same] at read
        have left := isTame_memberFrom verbose chars plain token rest read
        obtain ⟨⟨member, middle⟩, -, made⟩ := Fallible.of_bind_eq_ok read
        cases made
        exact ih middle.length shorter left rfl

/-- The next token of a class is within a text, or it does not close the class and leaves a part of
what is put behind the text. -/
theorem readBracketToken_append (chars : List Char) :
    (∃ token rest, rest <:+ chars ∧ ∀ ending, IsEnding ending →
        readBracketToken verbose (chars ++ ending) = .ok (token, rest ++ ending)) ∨
      ∀ ending, IsEnding ending → ∀ token rest,
        readBracketToken verbose (chars ++ ending) = .ok (token, rest) →
          token ≠ .closing ∧ IsPlain rest := by
  by_cases closes : ∃ rest, skip verbose chars = ']' :: rest
  · obtain ⟨rest, found⟩ := closes
    have suffix := skip_suffix verbose chars
    rw [found] at suffix
    refine .inl ⟨.closing, rest, (List.suffix_cons ']' rest).trans suffix, ?_⟩
    intro ending ends
    rcases skip_append verbose chars with clean | ⟨-, comment⟩
    · rw [readBracketToken_eq, clean ending ends, found]
      rfl
    · have nothing := comment [] isEnding_nil
      rw [List.append_nil, found] at nothing
      contradiction
  · cases enclosed_readBracketToken verbose chars with
    | leaves token rest suffix read => exact .inl ⟨token, rest, suffix, read⟩
    | exposed left =>
        refine .inr fun ending ends token rest read => ⟨?_, left ending ends token rest read⟩
        rintro rfl
        rw [readBracketToken_eq] at read
        have closing := eq_cons_of_bracketTokenFrom_eq_closing verbose read
        rcases skip_append verbose chars with clean | ⟨-, comment⟩
        · rw [clean ending ends] at closing
          obtain ⟨rest, found, -⟩ := ends.eq_cons_of_append_eq_cons (by decide) closing
          exact closes ⟨rest, found⟩
        · rw [comment ending ends] at closing
          contradiction

theorem settled_readClass (outer : List OpenBracket) (bracket : OpenBracket) (chars : List Char) :
    Settled (readClass verbose outer bracket) chars := by
  induction length : chars.length using Nat.strong_induction_on
    generalizing chars outer bracket with
  | h _ ih =>
    subst length
    rcases readBracketToken_append verbose chars with ⟨token, rest, suffix, read⟩ | exposed
    · have shorter : rest.length < chars.length := by
        have taken := readBracketToken_length (read [] isEnding_nil)
        simpa using taken
      have continued : ∀ ending, IsEnding ending →
          readClass verbose outer bracket (chars ++ ending) =
            afterToken verbose outer bracket token (rest ++ ending) := by
        intro ending ends
        rw [readClass_eq, Reader.andThen_of_ok (read ending ends)]
      apply Settled.step _ suffix continued
      cases token with
      | member member => exact ih _ shorter _ _ _ rfl
      | opening inner => exact ih _ shorter _ _ _ rfl
      | operator operator => exact ih _ shorter _ _ _ rfl
      | closing =>
          cases outer with
          | nil => exact settled_ok bracket.close rest
          | cons parent outer => exact ih _ shorter _ _ _ rfl
    · -- The token has taken the end of the text, and what is left of the ending closes no class.
      apply Settled.fails
      intro ending ends
      rw [readClass_eq, Reader.andThen]
      cases read : readBracketToken verbose (chars ++ ending) with
      | error fault => exact ⟨fault, rfl⟩
      | ok found =>
          obtain ⟨token, rest⟩ := found
          obtain ⟨open_, plain⟩ := exposed ending ends token rest read
          cases token with
          | member member => exact exists_readClass_eq_error verbose plain
          | opening inner => exact exists_readClass_eq_error verbose plain
          | operator operator => exact exists_readClass_eq_error verbose plain
          | closing => contradiction

end Pattern

end CallGraph
