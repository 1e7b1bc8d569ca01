import CallGraph.Pattern
import CallGraph.Proofs.Pattern.Matcher
import CallGraph.Proofs.Pattern.Nesting

/-!
# The bounds of repetitions are in order

A repetition is read only if its bounds are in order, so all repetitions of a pattern that was read
have bounds in order, and so has every repetition of the regular expression that it means.  The
bounds are carried from the tokens through the open groups to the tree, and from the tree to its
meaning.
-/

namespace CallGraph

namespace Pattern

/-- The bounds of every repetition are in order. -/
def Tree.Ordered : Tree → Prop
  | empty | flags _ | atom _ | bracket _ _ => True
  | repetition body least most => body.Ordered ∧ ∀ bound ∈ most, least ≤ bound
  | group _ body => body.Ordered
  | cat first second => first.Ordered ∧ second.Ordered
  | alt left right => left.Ordered ∧ right.Ordered

theorem Tree.Ordered.meaning {tree : Tree} (ordered : tree.Ordered) {flags after : Flags}
    {regex : Regex} (meant : tree.meaning flags = .ok (regex, after)) : regex.Ordered := by
  induction tree generalizing flags after regex with
  | empty | flags change =>
      cases meant
      trivial
  | atom leaf =>
      obtain ⟨found, leafMeant, made⟩ := Fallible.of_bind_eq_ok meant
      cases made
      cases leaf with
      | anchor condition =>
          cases leafMeant
          trivial
      | literal | dot | shorthand | property =>
          obtain ⟨set, -, made⟩ := Fallible.of_bind_eq_ok leafMeant
          cases made
          trivial
  | bracket content negated =>
      obtain ⟨set, -, made⟩ := Fallible.of_bind_eq_ok meant
      cases made
      trivial
  | repetition body least most ih =>
      obtain ⟨⟨inner, last⟩, bodyMeant, made⟩ := Fallible.of_bind_eq_ok meant
      cases made
      exact ⟨ih ordered.1 bodyMeant, ordered.2⟩
  | group change body ih =>
      obtain ⟨⟨inner, last⟩, bodyMeant, made⟩ := Fallible.of_bind_eq_ok meant
      cases made
      exact ih ordered bodyMeant
  | cat first second ihFirst ihSecond | alt first second ihFirst ihSecond =>
      obtain ⟨⟨one, between⟩, firstMeant, rest⟩ := Fallible.of_bind_eq_ok meant
      obtain ⟨⟨two, last⟩, secondMeant, made⟩ := Fallible.of_bind_eq_ok rest
      cases made
      exact ⟨ihFirst ordered.1 firstMeant, ihSecond ordered.2 secondMeant⟩

theorem Tree.ordered_ofPieces {pieces : List Tree} (ordered : ∀ piece ∈ pieces, piece.Ordered) :
    (Tree.ofPieces pieces).Ordered := by
  cases pieces with
  | nil => trivial
  | cons last before =>
      rw [List.forall_mem_cons] at ordered
      obtain ⟨lastOrdered, ordered⟩ := ordered
      rw [ofPieces]
      induction before generalizing last with
      | nil => exact lastOrdered
      | cons piece before ih =>
          rw [List.forall_mem_cons] at ordered
          exact ih _ ⟨ordered.1, lastOrdered⟩ ordered.2

theorem Tree.ordered_ofAlternatives {last : Tree} {before : List Tree} (ordered : last.Ordered)
    (others : ∀ alternative ∈ before, alternative.Ordered) :
    (Tree.ofAlternatives last before).Ordered := by
  induction before generalizing last with
  | nil => exact ordered
  | cons alternative before ih =>
      rw [List.forall_mem_cons] at others
      exact ih ⟨others.1, ordered⟩ others.2

/-- A token brings no bounds that are out of order. -/
def Token.Ordered : Token → Prop
  | repetition least most => ∀ bound ∈ most, least ≤ bound
  | piece tree => tree.Ordered
  | _ => True

variable {verbose : Bool} {token : Token} {chars rest : List Char}

theorem closeBounds_ordered {least : Nat} {most : Option Nat}
    (read : closeBounds verbose least most chars = .ok (token, rest)) : token.Ordered := by
  unfold closeBounds at read
  split at read
  · split at read
    · next ordered =>
      cases read
      simpa [Token.Ordered, Option.all_eq_true] using ordered
    · contradiction
  · contradiction

theorem readBounds_ordered (read : readBounds verbose chars = .ok (token, rest)) :
    token.Ordered := by
  obtain ⟨⟨least, later⟩, -, read⟩ := Fallible.of_bind_eq_ok read
  simp only at read
  split at read
  · split at read
    · exact closeBounds_ordered read
    · obtain ⟨⟨most, last⟩, -, read⟩ := Fallible.of_bind_eq_ok read
      exact closeBounds_ordered read
  · exact closeBounds_ordered read

theorem readGroupName_ordered (read : readGroupName chars = .ok (token, rest)) :
    token.Ordered := by
  unfold readGroupName at read
  split at read
  · split at read
    · cases read
      trivial
    · contradiction
  · contradiction

theorem readFlags_ordered {change : FlagChange} {clearing afterHyphen : Bool}
    (read : readFlags change clearing afterHyphen chars = .ok (token, rest)) : token.Ordered := by
  fun_induction readFlags change clearing afterHyphen chars with
  | case3 | case6 =>
      cases read
      trivial
  | case8 | case11 =>
      rename_i ih
      exact ih read
  | _ => contradiction

theorem readOpening_ordered (read : readOpening verbose chars = .ok (token, rest)) :
    token.Ordered := by
  unfold readOpening at read
  split at read
  any_goals contradiction
  · exact readGroupName_ordered read
  · exact readGroupName_ordered read
  · exact readFlags_ordered read
  · cases read
    trivial

theorem readTokenFrom_ordered {char : Char}
    (read : readTokenFrom verbose char chars = .ok (token, rest)) : token.Ordered := by
  unfold readTokenFrom at read
  split at read
  · exact readOpening_ordered read
  · cases read
    trivial
  · cases read
    trivial
  · obtain ⟨⟨bracket, later⟩, -, read⟩ := Fallible.of_bind_eq_ok read
    obtain ⟨⟨tree, last⟩, -, read⟩ := Fallible.of_bind_eq_ok read
    simp only at read
    split at read
    · cases read
      trivial
    · contradiction
  · cases read
    simp [Token.Ordered]
  · cases read
    simp [Token.Ordered]
  · cases read
    simp [Token.Ordered]
  · exact readBounds_ordered read
  · obtain ⟨⟨atom, later⟩, -, made⟩ := Fallible.of_bind_eq_ok read
    cases made
    trivial
  all_goals
    cases read
    trivial

theorem readToken_ordered (read : readToken verbose chars = .ok (some (token, rest))) :
    token.Ordered := by
  unfold readToken at read
  split at read
  · cases read
  · split at read
    · contradiction
    · next found =>
      cases read
      exact readTokenFrom_ordered found

/-! ## Ordered nestings -/

/-- All that a group holds is ordered. -/
structure OpenGroup.Ordered (group : OpenGroup) : Prop where
  alternatives : ∀ tree ∈ group.alternatives, tree.Ordered
  pieces : ∀ tree ∈ group.pieces, tree.Ordered

namespace OpenGroup.Ordered

variable {group : OpenGroup}

theorem start (change : FlagChange) (outerVerbose : Bool) :
    (OpenGroup.start change outerVerbose).Ordered :=
  ⟨List.forall_mem_nil _, List.forall_mem_nil _⟩

theorem push (ordered : group.Ordered) {piece : Tree} (pieceOrdered : piece.Ordered) :
    (group.push piece).Ordered :=
  ⟨ordered.alternatives, List.forall_mem_cons.mpr ⟨pieceOrdered, ordered.pieces⟩⟩

theorem split (ordered : group.Ordered) : group.split.Ordered :=
  ⟨List.forall_mem_cons.mpr ⟨Tree.ordered_ofPieces ordered.pieces, ordered.alternatives⟩,
    List.forall_mem_nil _⟩

theorem repeatLast (ordered : group.Ordered) {repeated : OpenGroup} {least : Nat}
    {most : Option Nat} (bounds : ∀ bound ∈ most, least ≤ bound)
    (done : group.repeatLast least most = .ok repeated) : repeated.Ordered := by
  have pieces := ordered.pieces
  unfold OpenGroup.repeatLast at done
  split at done
  any_goals contradiction
  next held =>
  cases done
  rw [held, List.forall_mem_cons] at pieces
  exact ⟨ordered.alternatives, List.forall_mem_cons.mpr ⟨⟨pieces.1, bounds⟩, pieces.2⟩⟩

theorem content (ordered : group.Ordered) : group.content.Ordered :=
  Tree.ordered_ofAlternatives (Tree.ordered_ofPieces ordered.pieces) ordered.alternatives

end OpenGroup.Ordered

/-- All that the open groups hold is ordered. -/
structure Nesting.Ordered (nesting : Nesting) : Prop where
  inner : nesting.inner.Ordered
  outer : ∀ group ∈ nesting.outer, group.Ordered

namespace Nesting.Ordered

variable {nesting : Nesting}

theorem push (ordered : nesting.Ordered) {next : Nesting} (tokenOrdered : token.Ordered)
    (pushed : nesting.push token = .ok next) : next.Ordered := by
  cases token with
  | piece piece =>
      cases pushed
      exact ⟨ordered.inner.push tokenOrdered, ordered.outer⟩
  | bar =>
      cases pushed
      exact ⟨ordered.inner.split, ordered.outer⟩
  | flags change =>
      cases pushed
      exact ⟨ordered.inner.push trivial, ordered.outer⟩
  | repetition least most =>
      obtain ⟨inner, repeated, made⟩ := Fallible.of_bind_eq_ok pushed
      cases made
      exact ⟨ordered.inner.repeatLast tokenOrdered repeated, ordered.outer⟩
  | opening change name =>
      rw [Nesting.push] at pushed
      split at pushed
      · contradiction
      · cases pushed
        exact ⟨.start _ _, List.forall_mem_cons.mpr ⟨ordered.inner, ordered.outer⟩⟩
  | closing =>
      have outer := ordered.outer
      rw [Nesting.push] at pushed
      split at pushed
      · contradiction
      · next parent others held =>
        cases pushed
        rw [held, List.forall_mem_cons] at outer
        exact ⟨outer.1.push ordered.inner.content, outer.2⟩

/-- What is read behind an ordered nesting is ordered.  The induction is on what is left of the
text. -/
theorem read (ordered : nesting.Ordered) {tree : Tree} (done : nesting.read chars = .ok tree) :
    tree.Ordered := by
  induction nesting, chars using Nesting.read.induct with
  | case1 nesting chars fault failed =>
      rw [Nesting.read_of_no_token failed] at done
      contradiction
  | case2 nesting chars ended =>
      rw [Nesting.read_eq, ended] at done
      simp only [Nesting.finish] at done
      split at done
      · cases done
        exact ordered.inner.content
      · contradiction
  | case3 nesting chars token rest taken fault refused =>
      rw [Nesting.read_of_fault taken refused] at done
      contradiction
  | case4 nesting chars token rest taken next pushed ih =>
      rw [Nesting.read_of_token taken pushed] at done
      exact ih (ordered.push (readToken_ordered taken) pushed) done

end Nesting.Ordered

theorem readTree_ordered {tree : Tree} (read : readTree chars = .ok tree) : tree.Ordered :=
  Nesting.Ordered.read ⟨.start _ _, List.forall_mem_nil _⟩ read

theorem compile_ordered {text : String} {regex : Regex} (compiled : compile text = .ok regex) :
    regex.Ordered := by
  obtain ⟨tree, read, compiled⟩ := Fallible.of_bind_eq_ok compiled
  simp only at compiled
  split at compiled
  · contradiction
  · obtain ⟨⟨found, after⟩, meant, compiled⟩ := Fallible.of_bind_eq_ok compiled
    simp only at compiled
    split at compiled
    · contradiction
    · cases compiled
      exact (readTree_ordered read).meaning meant

end Pattern

end CallGraph
