import CallGraph.Fallible
import CallGraph.Pattern.Blank
import CallGraph.Pattern.Tree
import Mathlib.Data.List.TakeWhile

/-!
# Readers and what is put behind a text

Dollar signs and closing parentheses may be put behind a pattern.  A reader is settled by a text if
it reads the same whatever of this kind follows: it leaves what follows alone, it takes all of it
for the rest of a comment, or it fails in any case.  Readers that are settled may follow each other.
-/

namespace CallGraph

namespace Pattern

/-- Dollar signs and closing parentheses. -/
def IsPlain (chars : List Char) : Prop :=
  ∀ char ∈ chars, char = '$' ∨ char = ')'

/-- What may be put behind a pattern: nothing, or dollar signs and closing parentheses of which the
first is a dollar sign. -/
def IsEnding : List Char → Prop
  | [] => True
  | char :: rest => char = '$' ∧ IsPlain rest

variable {chars rest ending : List Char} {char : Char}

theorem isEnding_nil : IsEnding [] :=
  trivial

theorem isPlain_nil : IsPlain [] :=
  List.forall_mem_nil _

theorem isPlain_cons : IsPlain (char :: rest) ↔ (char = '$' ∨ char = ')') ∧ IsPlain rest :=
  List.forall_mem_cons

theorem IsEnding.isPlain (ends : IsEnding ending) : IsPlain ending := by
  cases ending with
  | nil => exact isPlain_nil
  | cons char rest => exact isPlain_cons.mpr ⟨.inl ends.1, ends.2⟩

theorem IsEnding.eq_nil_or_cons (ends : IsEnding ending) :
    ending = [] ∨ ∃ rest, ending = '$' :: rest ∧ IsPlain rest := by
  cases ending with
  | nil => exact .inl rfl
  | cons char rest => exact .inr ⟨rest, by rw [ends.1], ends.2⟩

/-- A text that begins with something else than a dollar sign does so without what is put behind
it. -/
theorem IsEnding.eq_cons_of_append_eq_cons (ends : IsEnding ending) {later : List Char}
    (other : char ≠ '$') (same : chars ++ ending = char :: later) :
    ∃ rest, chars = char :: rest ∧ later = rest ++ ending := by
  cases chars with
  | nil =>
      rcases ends.eq_nil_or_cons with rfl | ⟨rest, rfl, -⟩
      · contradiction
      · exact absurd (List.cons.inj same).1.symm other
  | cons first rest =>
      obtain ⟨rfl, rfl⟩ := List.cons.inj same
      exact ⟨rest, rfl, rfl⟩

/-- A part of a text up to a character is found in the text, or it is not found at all. -/
theorem span_append (stop : Char) (other : stop ≠ '$' ∧ stop ≠ ')') (plain : IsPlain ending)
    (chars : List Char) :
    chars.dropWhile (· != stop) = [] ∧ (chars ++ ending).dropWhile (· != stop) = [] ∨
      ∃ rest, chars.dropWhile (· != stop) = stop :: rest ∧
        (chars ++ ending).dropWhile (· != stop) = stop :: (rest ++ ending) ∧
          (chars ++ ending).takeWhile (· != stop) = chars.takeWhile (· != stop) := by
  induction chars with
  | nil =>
      refine .inl ⟨rfl, List.dropWhile_eq_nil_iff.mpr fun char member => ?_⟩
      rcases plain char member with rfl | rfl
      · simpa using other.1.symm
      · simpa using other.2.symm
  | cons char rest ih =>
      by_cases same : char = stop
      · subst same
        exact .inr ⟨rest, by simp, by simp, by simp⟩
      · have passed : (char != stop) = true := by simpa using same
        simp only [List.cons_append, List.dropWhile_cons, List.takeWhile_cons, passed, if_true,
          List.cons.injEq, true_and]
        exact ih

theorem isBlank_of_isPlain (plain : char = '$' ∨ char = ')') :
    Unicode.isBlank char = false ∧ char ≠ '#' ∧ char ≠ '\n' := by
  rcases plain with rfl | rfl <;> decide

/-- No blanks are skipped in front of dollar signs and parentheses. -/
theorem skip_of_isPlain (verbose : Bool) (plain : IsPlain chars) : skip verbose chars = chars := by
  cases verbose with
  | false => rfl
  | true =>
      cases chars with
      | nil => rfl
      | cons char rest =>
          obtain ⟨solid, noComment, -⟩ := isBlank_of_isPlain (isPlain_cons.mp plain).1
          rw [skip, if_pos rfl, skipBlank, if_neg (by simp [solid]), if_neg noComment]

/-- A comment goes on over dollar signs and parentheses. -/
theorem skipBlank_true_of_isPlain (plain : IsPlain chars) : skipBlank true chars = [] := by
  induction chars with
  | nil => rfl
  | cons char rest ih =>
      obtain ⟨first, later⟩ := isPlain_cons.mp plain
      obtain ⟨-, -, noFeed⟩ := isBlank_of_isPlain first
      have going : (char != '\n') = true := by simpa using noFeed
      rw [skipBlank, going, ih later]

/-- Blanks in front of an ending leave the ending alone, unless they end in a comment. -/
theorem skipBlank_append (inComment : Bool) (chars : List Char) :
    (∀ ending, IsEnding ending →
        skipBlank inComment (chars ++ ending) = skipBlank inComment chars ++ ending) ∨
      (inComment = true ∨ '#' ∈ chars) ∧
        ∀ ending, IsEnding ending → skipBlank inComment (chars ++ ending) = [] := by
  induction chars generalizing inComment with
  | nil =>
      cases inComment with
      | true => exact .inr ⟨.inl rfl, fun _ ends => skipBlank_true_of_isPlain ends.isPlain⟩
      | false => exact .inl fun _ ends => skip_of_isPlain true ends.isPlain
  | cons char rest ih =>
      cases inComment with
      | true =>
          simp only [List.cons_append, skipBlank]
          exact (ih (char != '\n')).imp_right fun found => ⟨.inl trivial, found.2⟩
      | false =>
          by_cases blank : Unicode.isBlank char = true
          · simp only [List.cons_append, skipBlank, if_pos blank, List.mem_cons]
            exact (ih false).imp_right fun found => ⟨found.1.imp_right .inr, found.2⟩
          · by_cases hash : char = '#'
            · simp only [List.cons_append, skipBlank, if_neg blank, if_pos hash, List.mem_cons]
              exact (ih true).imp_right fun found => ⟨.inr (.inl hash.symm), found.2⟩
            · simp only [List.cons_append, skipBlank, if_neg blank, if_neg hash]
              exact .inl fun _ _ => trivial

theorem skipBlank_suffix (inComment : Bool) (chars : List Char) :
    skipBlank inComment chars <:+ chars := by
  induction chars generalizing inComment with
  | nil => cases inComment <;> exact List.suffix_rfl
  | cons char rest ih =>
      cases inComment with
      | true => exact (ih _).trans (List.suffix_cons char rest)
      | false =>
          rw [skipBlank]
          split
          · exact (ih _).trans (List.suffix_cons char rest)
          · split
            · exact (ih _).trans (List.suffix_cons char rest)
            · exact List.suffix_rfl

theorem skip_suffix (verbose : Bool) (chars : List Char) : skip verbose chars <:+ chars := by
  cases verbose with
  | false => exact List.suffix_rfl
  | true => exact skipBlank_suffix false chars

/-- Blanks are skipped in front of an ending, or the ending belongs to a comment. -/
theorem skip_append (verbose : Bool) (chars : List Char) :
    (∀ ending, IsEnding ending → skip verbose (chars ++ ending) = skip verbose chars ++ ending) ∨
      '#' ∈ chars ∧ ∀ ending, IsEnding ending → skip verbose (chars ++ ending) = [] := by
  cases verbose with
  | false => exact .inl fun _ _ => rfl
  | true =>
      rcases skipBlank_append false chars with clean | ⟨hash, comment⟩
      · exact .inl clean
      · exact .inr ⟨hash.resolve_left Bool.false_ne_true, comment⟩

/-! ## Settled readers -/

/-- What reads something in front of a text and leaves the rest. -/
abbrev Reader (α : Type) : Type :=
  List Char → Except Fault (α × List Char)

variable {α β : Type} {reader : Reader α}

/-- What a reader makes of a text does not depend on the ending behind it. -/
inductive Settled (reader : Reader α) (chars : List Char) : Prop where
  /-- The reader leaves the ending alone. -/
  | leaves (value : α) (rest : List Char) (suffix : rest <:+ chars)
      (read : ∀ ending, IsEnding ending → reader (chars ++ ending) = .ok (value, rest ++ ending))
  /-- The reader takes the ending for the rest of a comment. -/
  | swallows (value : α) (comment : '#' ∈ chars)
      (read : ∀ ending, IsEnding ending → reader (chars ++ ending) = .ok (value, []))
  | fails (read : ∀ ending, IsEnding ending → ∃ fault, reader (chars ++ ending) = .error fault)

theorem settled_ok (value : α) (chars : List Char) :
    Settled (fun later => .ok (value, later)) chars :=
  .leaves value chars List.suffix_rfl fun _ _ => rfl

theorem settled_error (fault : Fault) (chars : List Char) :
    Settled (fun _ => (.error fault : Except Fault (α × List Char))) chars :=
  .fails fun _ _ => ⟨fault, rfl⟩

/-- A reader that goes on as another one does with what is left is settled if the other one is. -/
theorem Settled.step {next : Reader α} (settled : Settled next rest) (suffix : rest <:+ chars)
    (taken : ∀ ending, IsEnding ending → reader (chars ++ ending) = next (rest ++ ending)) :
    Settled reader chars := by
  cases settled with
  | leaves value left inner read =>
      apply Settled.leaves value left (inner.trans suffix)
      intro ending ends
      rw [taken ending ends, read ending ends]
  | swallows value comment read =>
      apply Settled.swallows value (suffix.subset comment)
      intro ending ends
      rw [taken ending ends, read ending ends]
  | fails read =>
      apply Settled.fails
      intro ending ends
      rw [taken ending ends]
      exact read ending ends

/-- Readers that do the same with a text are both settled by it. -/
theorem Settled.congr {other : Reader α} (settled : Settled other chars)
    (same : ∀ ending, IsEnding ending → reader (chars ++ ending) = other (chars ++ ending)) :
    Settled reader chars :=
  settled.step List.suffix_rfl same

/-- A reader that has taken a character is settled by what follows the character. -/
theorem Settled.cons {next : Reader α} (settled : Settled next rest)
    (taken : ∀ later, reader (char :: later) = next later) : Settled reader (char :: rest) :=
  settled.step (List.suffix_cons char rest) fun ending _ => taken (rest ++ ending)

/-- A reader that does one thing behind a character and another thing else is settled by a text if
both are. -/
theorem settled_of_first {other next : Reader α} (first : Char) (noDollar : first ≠ '$')
    (behind : ∀ rest, reader (first :: rest) = next rest)
    (default : ∀ text, (∀ rest, text ≠ first :: rest) → reader text = other text)
    (settledNext : ∀ rest, chars = first :: rest → Settled next rest)
    (settledOther : (∀ rest, chars ≠ first :: rest) → Settled other chars) :
    Settled reader chars := by
  by_cases begins : ∃ rest, chars = first :: rest
  · obtain ⟨rest, rfl⟩ := begins
    exact (settledNext rest rfl).cons behind
  · have begins : ∀ rest, chars ≠ first :: rest := fun rest same => begins ⟨rest, same⟩
    apply (settledOther begins).congr
    intro ending ends
    apply default
    intro later same
    obtain ⟨rest, found, -⟩ := ends.eq_cons_of_append_eq_cons noDollar same
    exact begins rest found

theorem settled_nil {fault : Fault} (nothing : reader [] = .error fault)
    (dollar : ∀ rest, IsPlain rest → ∃ fault, reader ('$' :: rest) = .error fault) :
    Settled reader [] := by
  apply Settled.fails
  intro ending ends
  rcases ends.eq_nil_or_cons with rfl | ⟨rest, rfl, plain⟩
  · exact ⟨fault, nothing⟩
  · exact dollar rest plain

/-- A reader leaves nothing of nothing. -/
def IsBare (reader : Reader α) : Prop :=
  ∀ value rest, reader [] = .ok (value, rest) → rest = []

theorem isBare_ok (value : α) : IsBare fun later => .ok (value, later) := by
  intro _ _ read
  cases read
  rfl

theorem isBare_of_snd {scan : List Char → α × List Char} (nothing : (scan []).2 = []) :
    IsBare fun later => .ok (scan later) :=
  fun _ _ read => (congrArg Prod.snd (Except.ok.inj read)).symm.trans nothing

theorem isBare_of_length_le (taken : ∀ {chars value rest}, reader chars = .ok (value, rest) →
    rest.length ≤ chars.length) : IsBare reader :=
  fun _ _ read => List.length_eq_zero_iff.mp (Nat.le_zero.mp (taken read))

/-- A reader that takes nothing: it gives a value, or it fails in any case. -/
def giving (result : Except Fault α) : Reader α :=
  fun rest => do return (← result, rest)

theorem settled_giving (result : Except Fault α) (chars : List Char) :
    Settled (giving result) chars := by
  cases result with
  | error fault => exact settled_error fault chars
  | ok value => exact settled_ok value chars

theorem isBare_giving (result : Except Fault α) : IsBare (giving result) := by
  cases result with
  | error fault => exact nofun
  | ok value => exact isBare_ok value

theorem Settled.after_skip {verbose : Bool} (settled : Settled reader (skip verbose chars))
    (bare : IsBare reader) : Settled (fun later => reader (skip verbose later)) chars := by
  rcases skip_append verbose chars with clean | ⟨hash, comment⟩
  · exact settled.step (skip_suffix verbose chars)
      fun ending ends => congrArg reader (clean ending ends)
  · cases nothing : reader [] with
    | error fault =>
        apply Settled.fails
        intro ending ends
        rw [comment ending ends]
        exact ⟨fault, nothing⟩
    | ok result =>
        obtain ⟨value, left⟩ := result
        obtain rfl := bare value left nothing
        apply Settled.swallows value hash
        intro ending ends
        rw [comment ending ends, nothing]

/-- A reader goes on with what another one has left. -/
def Reader.andThen (first : Reader α) (next : α → Reader β) : Reader β :=
  fun chars => first chars >>= fun read => next read.1 read.2

theorem Reader.andThen_of_ok {next : α → Reader β} {value : α}
    (read : reader chars = .ok (value, rest)) : reader.andThen next chars = next value rest := by
  rw [Reader.andThen, read]
  rfl

theorem IsBare.andThen {next : α → Reader β} (first : IsBare reader)
    (later : ∀ value, IsBare (next value)) : IsBare (reader.andThen next) := by
  intro result rest read
  obtain ⟨⟨value, left⟩, readFirst, readNext⟩ := Fallible.of_bind_eq_ok read
  obtain rfl := first value left readFirst
  exact later value result rest readNext

theorem Settled.andThen {next : α → Reader β} (settled : Settled reader chars)
    (later : ∀ value rest, rest <:+ chars → Settled (next value) rest)
    (bare : ∀ value, IsBare (next value)) : Settled (reader.andThen next) chars := by
  cases settled with
  | leaves value left suffix read =>
      exact (later value left suffix).step suffix
        fun ending ends => Reader.andThen_of_ok (read ending ends)
  | swallows value comment read =>
      have continued : ∀ ending, IsEnding ending →
          reader.andThen next (chars ++ ending) = next value [] :=
        fun ending ends => Reader.andThen_of_ok (read ending ends)
      cases nothing : next value [] with
      | error fault =>
          apply Settled.fails
          intro ending ends
          exact ⟨fault, (continued ending ends).trans nothing⟩
      | ok result =>
          obtain ⟨result, left⟩ := result
          obtain rfl := bare value result left nothing
          apply Settled.swallows result comment
          intro ending ends
          rw [continued ending ends, nothing]
  | fails read =>
      apply Settled.fails
      intro ending ends
      obtain ⟨fault, failed⟩ := read ending ends
      exact ⟨fault, by rw [Reader.andThen, failed]; rfl⟩

end Pattern

end CallGraph
