import CallGraph.Pattern.Nesting
import CallGraph.Proofs.Pattern.Token

/-!
# Nesting and what is put behind a text

What is read of a text on its own is read of it inside other groups as well.  At the end of the text
there is nothing open but groups, or a backslash, or a comment; what is put behind the text meets
that and nothing else.
-/

namespace CallGraph

namespace Pattern

variable {chars rest : List Char}

namespace Nesting

variable {nesting next : Nesting} {token : Token} {fault : Fault}

/-- What has been read, with more open groups around it. -/
def within (nesting : Nesting) (frame : List OpenGroup) : Nesting :=
  { nesting with outer := nesting.outer ++ frame }

/-- The outermost group that is open. -/
def root (nesting : Nesting) : OpenGroup :=
  nesting.outer.getLastD nesting.inner

@[simp]
theorem within_nil (nesting : Nesting) : nesting.within [] = nesting := by
  rw [within, List.append_nil]

@[simp]
theorem verbose_within (nesting : Nesting) (frame : List OpenGroup) :
    (nesting.within frame).verbose = nesting.verbose :=
  rfl

/-- A token does the same inside other groups. -/
theorem push_within (frame : List OpenGroup) (pushed : nesting.push token = .ok next) :
    (nesting.within frame).push token = .ok (next.within frame) := by
  cases token with
  | piece piece =>
      cases pushed
      rfl
  | bar =>
      cases pushed
      rfl
  | flags change =>
      cases pushed
      rfl
  | repetition least most =>
      obtain ⟨inner, repeated, made⟩ := Fallible.of_bind_eq_ok pushed
      cases made
      simp only [push, within, repeated]
      rfl
  | opening change name =>
      rw [push] at pushed ⊢
      split at pushed
      · contradiction
      · next fresh =>
        cases pushed
        exact if_neg fresh
  | closing =>
      rw [push] at pushed ⊢
      cases outer : nesting.outer with
      | nil =>
          rw [outer] at pushed
          contradiction
      | cons parent others =>
          rw [outer] at pushed
          cases pushed
          simp only [within, outer, List.cons_append]

theorem repeatLast_change {group repeated : OpenGroup} {least : Nat} {most : Option Nat}
    (done : group.repeatLast least most = .ok repeated) : repeated.change = group.change := by
  unfold OpenGroup.repeatLast at done
  split at done
  · contradiction
  · contradiction
  · contradiction
  · cases done
    rfl

/-- A group that has been opened changes the same flags until it is closed. -/
theorem root_change_of_push (pushed : nesting.push token = .ok next) :
    next.root.change = nesting.root.change := by
  rcases nesting with ⟨inner, outer, names, verbose⟩
  have same : ∀ other : OpenGroup, other.change = inner.change →
      (outer.getLastD other).change = (outer.getLastD inner).change := by
    intro other same
    cases outer with
    | nil => exact same
    | cons parent others => rfl
  cases token with
  | piece piece =>
      cases pushed
      exact same _ rfl
  | bar =>
      cases pushed
      exact same _ rfl
  | flags change =>
      cases pushed
      exact same _ rfl
  | repetition least most =>
      obtain ⟨repeated, done, made⟩ := Fallible.of_bind_eq_ok pushed
      cases made
      exact same repeated (repeatLast_change done)
  | opening change name =>
      rw [push] at pushed
      split at pushed
      · contradiction
      · cases pushed
        cases outer <;> rfl
  | closing =>
      cases outer with
      | nil => contradiction
      | cons parent others =>
          cases pushed
          cases others <;> rfl

/-! ## Reading on -/

theorem read_eq (nesting : Nesting) (chars : List Char) :
    nesting.read chars =
      match readToken nesting.verbose chars with
      | .error fault => .error fault
      | .ok none => nesting.finish
      | .ok (some (token, rest)) => nesting.push token >>= fun next => next.read rest := by
  rw [read]
  split
  · next found => rw [found]
  · next found => rw [found]
  · next found =>
    rw [found]
    simp only
    cases nesting.push _ <;> rfl

theorem read_nil (nesting : Nesting) : nesting.read [] = nesting.finish := by
  have nothing : readToken nesting.verbose [] = .ok none := by
    cases nesting.verbose <;> rfl
  rw [read_eq, nothing]

theorem read_of_no_token (failed : readToken nesting.verbose chars = .error fault) :
    nesting.read chars = .error fault := by
  rw [read_eq, failed]

theorem read_of_token (found : readToken nesting.verbose chars = .ok (some (token, rest)))
    (pushed : nesting.push token = .ok next) : nesting.read chars = next.read rest := by
  rw [read_eq, found]
  simp only [pushed]
  rfl

theorem read_of_fault (found : readToken nesting.verbose chars = .ok (some (token, rest)))
    (refused : nesting.push token = .error fault) : nesting.read chars = .error fault := by
  rw [read_eq, found]
  simp only [refused]
  rfl

/-- What a text is up to its end, for a reader that has read something before. -/
inductive Reads (nesting : Nesting) (chars : List Char) : Prop where
  /-- Nothing is open but groups, and possibly an escape. -/
  | atEnd (last : Nesting) (tail : List Char) (open_ : tail = [] ∨ tail = ['\\'])
      (suffix : tail <:+ chars) (same : last.root.change = nesting.root.change)
      (read : ∀ frame ending, IsEnding ending →
        (nesting.within frame).read (chars ++ ending) = (last.within frame).read (tail ++ ending))
  /-- A comment is open. -/
  | comment (last : Nesting) (hash : '#' ∈ chars)
      (read : ∀ frame ending, IsEnding ending →
        (nesting.within frame).read (chars ++ ending) = (last.within frame).finish)
  | fails (read : ∀ ending, IsEnding ending →
      ∃ fault, nesting.read (chars ++ ending) = .error fault)

/-- A text is read up to its end, whatever was read before. -/
theorem reads (nesting : Nesting) (chars : List Char) : nesting.Reads chars := by
  -- A token may take several characters, so the induction is on the length of what is left.
  induction length : chars.length using Nat.strong_induction_on generalizing chars nesting with
  | h _ ih =>
    subst length
    cases nextToken nesting.verbose chars with
    | token token rest suffix found =>
        cases pushed : nesting.push token with
        | error fault =>
            exact .fails fun ending ends => ⟨fault, read_of_fault (found ending ends) pushed⟩
        | ok next =>
            have taken : rest.length < chars.length := by
              have shorter := readToken_length (found [] isEnding_nil)
              simpa using shorter
            have continued : ∀ frame ending, IsEnding ending →
                (nesting.within frame).read (chars ++ ending) =
                  (next.within frame).read (rest ++ ending) := by
              intro frame ending ends
              rw [← verbose_within nesting frame] at found
              exact read_of_token (found ending ends) (push_within frame pushed)
            cases ih rest.length taken next rest rfl with
            | atEnd last tail open_ inner same read =>
                apply Reads.atEnd last tail open_ (inner.trans suffix)
                  (same.trans (root_change_of_push pushed))
                intro frame ending ends
                rw [continued frame ending ends, read frame ending ends]
            | comment last hash read =>
                apply Reads.comment last (suffix.subset hash)
                intro frame ending ends
                rw [continued frame ending ends, read frame ending ends]
            | fails read =>
                apply Reads.fails
                intro ending ends
                have first := continued [] ending ends
                rw [within_nil, within_nil] at first
                rw [first]
                exact read ending ends
    | last token hash found =>
        cases pushed : nesting.push token with
        | error fault =>
            exact .fails fun ending ends => ⟨fault, read_of_fault (found ending ends) pushed⟩
        | ok next =>
            apply Reads.comment next hash
            intro frame ending ends
            rw [← verbose_within nesting frame] at found
            rw [read_of_token (found ending ends) (push_within frame pushed), read_nil]
    | comment hash found =>
        apply Reads.comment nesting hash
        intro frame ending ends
        rw [read_eq, verbose_within, found ending ends]
    | atEnd tail open_ suffix found =>
        apply Reads.atEnd nesting tail open_ suffix rfl
        intro frame ending ends
        rw [read_eq, verbose_within, found ending ends, read_eq, verbose_within]
    | fails found =>
        apply Reads.fails
        intro ending ends
        rcases found ending ends with ⟨fault, failed⟩ | ⟨tree, rest, first, fault, failed⟩
        · exact ⟨fault, read_of_no_token failed⟩
        · have second : ∀ inner : OpenGroup,
              ({ nesting with inner := inner } : Nesting).read rest = .error fault :=
            fun inner => read_of_no_token failed
          exact ⟨fault, (read_of_token first rfl).trans (second _)⟩

end Nesting

end Pattern

end CallGraph
