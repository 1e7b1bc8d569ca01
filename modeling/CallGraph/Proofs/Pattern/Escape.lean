import CallGraph.Pattern.Escape
import CallGraph.Proofs.Pattern.Settled

/-!
# Escapes and what is put behind a text

An escape is settled by the text behind its backslash, with two exceptions.  If there is nothing
behind the backslash, it escapes whatever is put there.  If there is a word boundary and an opening
brace, the brace may still begin the bounds of a repetition.
-/

namespace CallGraph

namespace Pattern

variable (verbose : Bool)

theorem hexValue?_dollar : hexValue? '$' = none := by
  decide

theorem settled_readHexDigits (count value : Nat) (chars : List Char) :
    Settled (readHexDigits verbose count value) chars := by
  induction count generalizing value chars with
  | zero => exact settled_ok value chars
  | succ count ih =>
      cases chars with
      | nil =>
          apply settled_nil rfl
          intro rest _
          exact ⟨.escape, by rw [readHexDigits, hexValue?_dollar]⟩
      | cons char rest =>
          cases found : hexValue? char with
          | none =>
              apply (settled_error .escape rest).cons
              intro later
              rw [readHexDigits, found]
          | some digit =>
              apply ((ih (16 * value + digit) _).after_skip
                (isBare_of_length_le readHexDigits_length)).cons
              intro later
              rw [readHexDigits, found]

theorem settled_readHexBraced (value : Nat) (isEmpty : Bool) (chars : List Char) :
    Settled (readHexBraced verbose value isEmpty) chars := by
  induction value, isEmpty, chars using readHexBraced.induct verbose with
  | case1 value isEmpty =>
      apply settled_nil (by rw [readHexBraced])
      intro rest _
      exact ⟨.escape, by rw [readHexBraced, if_neg (by decide), hexValue?_dollar]⟩
  | case2 value rest =>
      apply (settled_error .escape rest).cons
      intro later
      rw [readHexBraced, if_pos rfl, if_pos rfl]
  | case3 value isEmpty rest filled =>
      apply ((settled_ok value (skip verbose rest)).after_skip (isBare_ok value)).cons
      intro later
      rw [readHexBraced, if_pos rfl, if_neg filled]
  | case4 value isEmpty char rest other digit found ih =>
      apply (ih.after_skip (isBare_of_length_le readHexBraced_length)).cons
      intro later
      rw [readHexBraced, if_neg other, found]
  | case5 value isEmpty char rest other none =>
      apply (settled_error .escape rest).cons
      intro later
      rw [readHexBraced, if_neg other, none]

/-- What `readNumbered` makes of what follows the blanks. -/
def numberedFrom (verbose : Bool) (digits : Nat) : Reader Atom
  | [] => .error .escape
  | '{' :: rest => do
    let (number, rest) ← readHexBraced verbose 0 true (skip verbose rest)
    return (.literal (← charOf number) false, rest)
  | chars => do
    let (number, rest) ← readHexDigits verbose digits 0 chars
    return (.literal (← charOf number) (digits == 2), rest)

/-- What is made of a number that was read. -/
def literalOf (isByte : Bool) (number : Nat) : Reader Atom :=
  fun rest => do return (.literal (← charOf number) isByte, rest)

theorem literalOf_eq (isByte : Bool) (number : Nat) :
    literalOf isByte number = giving ((charOf number).map (.literal · isByte)) := by
  funext rest
  rw [literalOf, giving]
  cases charOf number <;> rfl

theorem settled_literalOf (isByte : Bool) (number : Nat) (chars : List Char) :
    Settled (literalOf isByte number) chars := by
  rw [literalOf_eq]
  exact settled_giving _ chars

theorem isBare_literalOf (isByte : Bool) (number : Nat) : IsBare (literalOf isByte number) := by
  rw [literalOf_eq]
  exact isBare_giving _

theorem settled_numberedFrom (digits : Nat) (chars : List Char) :
    Settled (numberedFrom verbose (digits + 1)) chars := by
  cases chars with
  | nil =>
      apply settled_nil rfl
      intro rest _
      exact ⟨.escape, rfl⟩
  | cons char rest =>
      by_cases braced : char = '{'
      · subst braced
        have bare : IsBare (readHexBraced verbose 0 true) :=
          isBare_of_length_le readHexBraced_length
        have settled := (settled_readHexBraced verbose 0 true (skip verbose rest)).andThen
          (fun number later _ => settled_literalOf false number later) (isBare_literalOf false)
        exact (settled.after_skip (bare.andThen (isBare_literalOf false))).cons fun _ => rfl
      · have settled := (settled_readHexDigits verbose (digits + 1) 0 (char :: rest)).andThen
          (fun number later _ => settled_literalOf (digits + 1 == 2) number later)
          (isBare_literalOf (digits + 1 == 2))
        apply settled.congr
        intro later _
        rw [List.cons_append, numberedFrom]
        · rfl
        · exact nofun
        · simpa using braced

theorem settled_readNumbered (digits : Nat) (chars : List Char) :
    Settled (readNumbered verbose (digits + 1)) chars :=
  (settled_numberedFrom verbose digits (skip verbose chars)).after_skip nofun

theorem readBraced_of_isPlain {chars : List Char} (before : List Char) (plain : IsPlain chars) :
    readBraced verbose before chars = .error .escape := by
  induction chars generalizing before with
  | nil => rw [readBraced]
  | cons char rest ih =>
      obtain ⟨first, later⟩ := isPlain_cons.mp plain
      have other : char ≠ '}' := by rintro rfl; revert first; decide
      rw [readBraced, if_neg other, skip_of_isPlain verbose later, ih _ later]

theorem settled_readBraced (before chars : List Char) :
    Settled (readBraced verbose before) chars := by
  induction before, chars using readBraced.induct verbose with
  | case1 before =>
      exact .fails fun ending ends => ⟨.escape, readBraced_of_isPlain verbose before ends.isPlain⟩
  | case2 before rest =>
      apply (settled_ok before.reverse rest).cons
      intro later
      rw [readBraced, if_pos rfl]
  | case3 before char rest other ih =>
      apply (ih.after_skip (isBare_of_length_le readBraced_length)).cons
      intro later
      rw [readBraced, if_neg other]

/-- The name of a property. -/
def propertyName : Reader (List Char)
  | [] => .error .escape
  | '{' :: rest => readBraced verbose [] (skip verbose rest)
  | '\\' :: _ => .error .escape
  | char :: rest => .ok ([char], skip verbose rest)

/-- What is made of the name of a property. -/
def propertyAtom (negated : Bool) (name : List Char) : Reader Atom :=
  fun rest =>
    match propertyOf? name with
    | some (property, denied) => .ok (.property property (negated != denied), rest)
    | none => .error .property

theorem exists_propertyAtom_eq (negated : Bool) (name : List Char) :
    ∃ result, propertyAtom negated name = giving result := by
  unfold propertyAtom
  cases propertyOf? name with
  | none => exact ⟨.error .property, rfl⟩
  | some found => exact ⟨.ok _, rfl⟩

theorem readProperty_eq (negated : Bool) (chars : List Char) :
    readProperty verbose negated chars =
      (propertyName verbose).andThen (propertyAtom negated) (skip verbose chars) := by
  rw [readProperty, Reader.andThen]
  generalize skip verbose chars = text
  split
  · rfl
  · rfl
  · rfl
  · next noBrace noBackslash =>
    rw [propertyName]
    · rfl
    · exact noBrace
    · exact noBackslash

theorem propertyOf?_dollar : propertyOf? ['$'] = none := by
  decide +kernel

theorem settled_propertyAtom (negated : Bool) (name chars : List Char) :
    Settled (propertyAtom negated name) chars := by
  obtain ⟨result, same⟩ := exists_propertyAtom_eq negated name
  rw [same]
  exact settled_giving result chars

theorem isBare_propertyAtom (negated : Bool) (name : List Char) :
    IsBare (propertyAtom negated name) := by
  obtain ⟨result, same⟩ := exists_propertyAtom_eq negated name
  rw [same]
  exact isBare_giving result

theorem settled_propertyName_cons (char : Char) (rest : List Char) :
    Settled (propertyName verbose) (char :: rest) := by
  by_cases braced : char = '{'
  · subst braced
    exact ((settled_readBraced verbose [] _).after_skip
      (isBare_of_length_le readBraced_length)).cons fun _ => rfl
  · by_cases escaped : char = '\\'
    · subst escaped
      exact (settled_error .escape rest).cons fun _ => rfl
    · apply ((settled_ok [char] (skip verbose rest)).after_skip (isBare_ok [char])).cons
      intro later
      rw [propertyName]
      · exact braced
      · exact escaped

theorem settled_readProperty (negated : Bool) (chars : List Char) :
    Settled (readProperty verbose negated) chars := by
  have settled : ∀ chars,
      Settled ((propertyName verbose).andThen (propertyAtom negated)) chars := by
    intro chars
    cases chars with
    | nil =>
        apply settled_nil rfl
        intro rest _
        have named : propertyName verbose ('$' :: rest) = .ok (['$'], skip verbose rest) := rfl
        exact ⟨.property, by rw [Reader.andThen_of_ok named, propertyAtom, propertyOf?_dollar]⟩
    | cons char rest =>
        exact (settled_propertyName_cons verbose char rest).andThen
          (fun name later _ => settled_propertyAtom negated name later)
          (isBare_propertyAtom negated)
  apply ((settled (skip verbose chars)).after_skip nofun).congr
  intro later _
  exact readProperty_eq verbose negated (chars ++ later)

/-! ## Word boundaries and escapes -/

theorem isBare_readBoundaryName (before : List Char) :
    IsBare fun later => .ok (readBoundaryName verbose before later) :=
  isBare_of_snd (by rw [readBoundaryName])

theorem settled_readBoundaryName (before chars : List Char) :
    Settled (fun later => .ok (readBoundaryName verbose before later)) chars := by
  induction before, chars using readBoundaryName.induct verbose with
  | case1 before =>
      apply Settled.leaves before.reverse [] List.suffix_rfl
      intro ending ends
      rcases ends.eq_nil_or_cons with rfl | ⟨rest, rfl, -⟩
      · rw [List.append_nil, readBoundaryName]
      · rw [List.nil_append, readBoundaryName, if_neg (by decide)]
  | case2 before char rest named ih =>
      apply (ih.after_skip (isBare_readBoundaryName verbose (char :: before))).cons
      intro later
      rw [readBoundaryName, if_pos named]
  | case3 before char rest other =>
      apply (settled_ok before.reverse (char :: rest)).congr
      intro later _
      rw [List.cons_append, readBoundaryName, if_neg other]

/-- What is made of the name of a word boundary. -/
def boundaryEnd (name : List Char) : Reader Atom
  | '}' :: rest =>
    match boundaryOf? name with
    | some anchor => .ok (.anchor anchor, rest)
    | none => .error .escape
  | _ => .error .escape

theorem settled_boundaryEnd (name chars : List Char) : Settled (boundaryEnd name) chars := by
  apply settled_of_first '}' (by decide) (fun _ => rfl)
  · intro text other
    rw [boundaryEnd]
    exact other
  · intro rest _
    cases found : boundaryOf? name with
    | none =>
        apply (settled_error .escape rest).congr
        intro later _
        rw [boundaryEnd, found]
    | some anchor =>
        apply (settled_ok (.anchor anchor) rest).congr
        intro later _
        rw [boundaryEnd, found]
  · exact fun _ => settled_error .escape chars

/-- A word boundary is settled, unless a brace is open that may begin the bounds of a repetition. -/
theorem settled_readBoundary (chars : List Char) :
    Settled (readBoundary verbose) chars ∨
      ∃ blanks, chars = '{' :: blanks ∧
        ∀ ending, IsEnding ending → skip verbose (blanks ++ ending) = ending := by
  cases chars with
  | nil =>
      apply Or.inl
      apply Settled.leaves (.anchor .wordBoundary) [] List.suffix_rfl
      intro ending ends
      rcases ends.eq_nil_or_cons with rfl | ⟨rest, rfl, -⟩ <;> rfl
  | cons char rest =>
      by_cases braced : char = '{'
      · subst braced
        rcases skip_append verbose rest with clean | ⟨hash, comment⟩
        · cases found : skip verbose rest with
          | nil => exact .inr ⟨rest, rfl, fun ending ends => by rw [clean ending ends, found]; rfl⟩
          | cons first more =>
              apply Or.inl
              by_cases named : isBoundaryChar first = true
              · have settled := (settled_readBoundaryName verbose [] (skip verbose rest)).andThen
                  (fun name later _ => settled_boundaryEnd name later) (fun _ => nofun)
                have inside : Settled (fun later => Reader.andThen
                    (fun later => .ok (readBoundaryName verbose [] later)) boundaryEnd
                    (skip verbose later.tail)) ('{' :: rest) :=
                  (settled.after_skip ((isBare_readBoundaryName verbose []).andThen
                    fun _ => nofun)).cons fun _ => rfl
                apply inside.congr
                intro ending ends
                rw [List.cons_append, readBoundary, List.tail_cons, clean ending ends, found]
                simp only [List.cons_append, if_pos named]
                rw [Reader.andThen_of_ok rfl]
                rcases readBoundaryName verbose [] (first :: (more ++ ending)) with ⟨name, left⟩
                unfold boundaryEnd
                grind
              · apply Settled.leaves (.anchor .wordBoundary) ('{' :: rest) List.suffix_rfl
                intro ending ends
                rw [List.cons_append, readBoundary, clean ending ends, found]
                exact if_neg named
        · apply Or.inl
          apply Settled.fails
          intro ending ends
          refine ⟨.escape, ?_⟩
          rw [List.cons_append, readBoundary, comment ending ends]
      · apply Or.inl
        apply (settled_ok (.anchor .wordBoundary) (char :: rest)).congr
        intro later _
        rw [List.cons_append, readBoundary]
        simpa using braced

/-- The letters behind which an escape goes on. -/
def goesOn (char : Char) : Bool :=
  ['x', 'u', 'U', 'p', 'P', 'b'].contains char

theorem readEscape_cons {char : Char} (single : goesOn char = false) (later : List Char) :
    readEscape verbose (char :: later) =
      giving ((readEscape verbose [char]).map Prod.fst) later := by
  unfold readEscape giving
  by_cases escapable : isEscapable char = true
  · simp only [if_pos escapable]
    rfl
  · simp only [if_neg escapable]
    split
    all_goals first
      | rfl
      | contradiction

/-- Behind a backslash that something follows, an escape is settled, unless it is a word boundary
with an open brace. -/
theorem settled_readEscape (char : Char) (rest : List Char) :
    Settled (readEscape verbose) (char :: rest) ∨
      ∃ blanks, char :: rest = 'b' :: '{' :: blanks ∧
        ∀ ending, IsEnding ending → skip verbose (blanks ++ ending) = ending := by
  cases longer : goesOn char with
  | false => exact .inl ((settled_giving _ rest).cons (readEscape_cons verbose longer))
  | true =>
      have letters : char ∈ ['x', 'u', 'U', 'p', 'P', 'b'] := List.contains_iff_mem.mp longer
      simp only [List.mem_cons, List.not_mem_nil, or_false] at letters
      rcases letters with rfl | rfl | rfl | rfl | rfl | rfl
      · exact .inl ((settled_readNumbered verbose 1 rest).cons fun _ => rfl)
      · exact .inl ((settled_readNumbered verbose 3 rest).cons fun _ => rfl)
      · exact .inl ((settled_readNumbered verbose 7 rest).cons fun _ => rfl)
      · exact .inl ((settled_readProperty verbose false rest).cons fun _ => rfl)
      · exact .inl ((settled_readProperty verbose true rest).cons fun _ => rfl)
      · rcases settled_readBoundary verbose rest with settled | ⟨blanks, rfl, clean⟩
        · exact .inl (settled.cons fun _ => rfl)
        · exact .inr ⟨blanks, rfl, clean⟩

/-- What becomes of a word boundary with an open brace: it fails if nothing follows, and leaves the
brace in front of a dollar sign. -/
theorem readEscape_openBrace {blanks ending : List Char} (ends : IsEnding ending)
    (clean : skip verbose (blanks ++ ending) = ending) :
    readEscape verbose ('b' :: '{' :: (blanks ++ ending)) =
      if ending = [] then .error .escape
      else .ok (.anchor .wordBoundary, '{' :: (blanks ++ ending)) := by
  change readBoundary verbose ('{' :: (blanks ++ ending)) = _
  rw [readBoundary, clean]
  rcases ends.eq_nil_or_cons with rfl | ⟨rest, rfl, -⟩ <;> rfl

end Pattern

end CallGraph
