import CallGraph.IdentifierFilter
import CallGraph.Proofs.Pattern.Anchoring

/-!
# Fragments of a list of patterns

A fragment is kept if it is a pattern, and left out with a report if it is none.  Exceptions are
fragments to which the dollar sign, the parentheses or the limits make a difference: a comment may
take in what is put behind it, the dollar sign may complete an escape, and the anchored pattern may
be too large or nested too deep where the fragment is not.
-/

namespace CallGraph

namespace Pattern

/-- The regular expression of a tree that keeps to the limits. -/
def Tree.limited (tree : Tree) : Except Fault Regex :=
  if depthLimit < tree.depth .other then .error .nestedTooDeep
  else do
    let (regex, _) ← tree.meaning .initial
    if sizeLimit < regex.size then .error .tooLarge else .ok regex

theorem compile_eq (text : String) : compile text = readTree text.toList >>= Tree.limited :=
  rfl

theorem compile_of_readTree {text : String} {tree : Tree}
    (read : readTree text.toList = .ok tree) : compile text = tree.limited := by
  rw [compile_eq, read]
  rfl

theorem compile_of_error {text : String} (failed : ∃ fault, readTree text.toList = .error fault) :
    ∃ fault, compile text = .error fault := by
  obtain ⟨fault, failed⟩ := failed
  exact ⟨fault, by rw [compile_eq, failed]; rfl⟩

namespace Tree

variable {tree ended : Tree} {regex : Regex}

theorem limited_eq_ok_iff :
    tree.limited = .ok regex ↔ tree.depth .other ≤ depthLimit ∧ regex.size ≤ sizeLimit ∧
      ∃ after, tree.meaning .initial = .ok (regex, after) := by
  rw [limited]
  constructor
  · intro found
    split at found
    · contradiction
    · next shallow =>
      obtain ⟨⟨whole, after⟩, meant, found⟩ := Fallible.of_bind_eq_ok found
      simp only at found
      split at found
      · contradiction
      · next small =>
        cases found
        exact ⟨Nat.le_of_not_lt shallow, Nat.le_of_not_lt small, after, meant⟩
  · rintro ⟨shallow, small, after, meant⟩
    rw [if_neg (Nat.not_lt_of_le shallow), meant]
    exact if_neg (Nat.not_lt_of_le small)

/-- A tree keeps to the limits if a larger one does. -/
theorem Grows.exists_limited (grows : tree.Grows ended) (kept : ended.limited = .ok regex) :
    ∃ smaller, tree.limited = .ok smaller := by
  obtain ⟨shallow, small, after, meant⟩ := limited_eq_ok_iff.mp kept
  cases found : tree.meaning .initial with
  | error fault =>
      rw [grows.meaningless _ _ found] at meant
      contradiction
  | ok result =>
      obtain ⟨smaller, last⟩ := result
      obtain ⟨larger, meantToo, bound⟩ := grows.meaning _ _ _ found
      rw [meant] at meantToo
      cases meantToo
      exact ⟨smaller, limited_eq_ok_iff.mpr
        ⟨(grows.depth .other).trans shallow, bound.trans small, _, found⟩⟩

end Tree

/-- A regular expression with an anchor on either side. -/
def Regex.anchored (regex : Regex) : Regex :=
  .cat (.look .textStart) (.cat regex (.look .textEnd))

namespace Tree

variable {tree : Tree} {regex : Regex}

theorem depth_anchored (tree : Tree) : tree.anchored.depth .other = tree.depth .other + 2 := by
  simp [anchored, depth]

theorem meaning_anchored (tree : Tree) :
    tree.anchored.meaning .initial =
      (tree.meaning .initial).map fun meant => (meant.1.anchored, .initial) := by
  have group : (Tree.group [] tree).meaning .initial =
      (tree.meaning .initial).map fun meant => (meant.1, .initial) := by
    change (tree.meaning .initial >>= _) = _
    cases tree.meaning .initial <;> rfl
  change (((Tree.group [] tree).meaning .initial >>= _) >>= _) = _
  rw [group]
  cases tree.meaning .initial <;> rfl

theorem size_anchored (regex : Regex) : regex.anchored.size = regex.size + 64 := by
  simp only [Regex.anchored, Regex.size]
  omega

/-- An anchored tree that keeps to the limits means the anchored regular expression. -/
theorem limited_anchored_eq_ok_iff :
    tree.anchored.limited = .ok regex ↔ tree.depth .other + 2 ≤ depthLimit ∧
      ∃ inner after, tree.meaning .initial = .ok (inner, after) ∧ inner.size + 64 ≤ sizeLimit ∧
        regex = inner.anchored := by
  rw [limited_eq_ok_iff, depth_anchored, meaning_anchored]
  constructor
  · rintro ⟨shallow, small, after, found⟩
    obtain ⟨⟨inner, last⟩, meant, made⟩ := Fallible.map_eq_ok_iff.mp found
    obtain ⟨rfl, -⟩ := Prod.mk.inj made
    rw [size_anchored] at small
    exact ⟨shallow, inner, last, meant, small, rfl⟩
  · rintro ⟨shallow, inner, last, meant, small, rfl⟩
    rw [size_anchored, meant]
    exact ⟨shallow, small, .initial, rfl⟩

theorem exists_limited_of_anchored (kept : tree.anchored.limited = .ok regex) :
    ∃ inner, tree.limited = .ok inner ∧ regex = inner.anchored := by
  obtain ⟨shallow, inner, after, meant, small, rfl⟩ := limited_anchored_eq_ok_iff.mp kept
  exact ⟨inner, limited_eq_ok_iff.mpr ⟨by omega, by omega, after, meant⟩, rfl⟩

/-- Nothing but the limits stands against the anchored tree of a tree that means something. -/
theorem limited_anchored_cases {after : Flags}
    (meant : tree.meaning .initial = .ok (regex, after)) :
    tree.anchored.limited = .ok regex.anchored ∨
      tree.anchored.limited = .error .nestedTooDeep ∨ tree.anchored.limited = .error .tooLarge := by
  rw [limited, meaning_anchored, meant]
  split
  · exact .inr (.inl rfl)
  · by_cases large : sizeLimit < regex.anchored.size
    · exact .inr (.inr (if_pos large))
    · exact .inl (if_neg large)

end Tree

end Pattern

namespace IdentifierFilter

open Pattern

/-! ## Single fragments -/

/-- Whether a text is a pattern. -/
def isPattern (text : String) : Bool :=
  (compile text).isOk

/-- Whether a fragment is kept. -/
def isKept (fragment : String) : Bool :=
  (compileFragment fragment).isOk

/-- The pattern that a fragment becomes. -/
def anchoredText (fragment : String) : String :=
  "^(?:" ++ (fragment ++ "$") ++ ")$"

/-- What is put behind the fragment is taken for a part of it. -/
def Swallows (fragment : String) : Prop :=
  isPattern fragment = true ∧ isPattern (fragment ++ "$)") = true

/-- The fragment becomes a pattern by the dollar sign behind it. -/
def Completed (fragment : String) : Prop :=
  isPattern fragment = false ∧ isPattern (fragment ++ "$") = true

/-- The anchored fragment does not keep to the limits. -/
def Exceeds (fragment : String) : Prop :=
  compile (anchoredText fragment) = .error .nestedTooDeep ∨
    compile (anchoredText fragment) = .error .tooLarge

/-- Anchors and limits make no difference to a fragment. -/
def IsOrdinary (fragment : String) : Prop :=
  ¬Swallows fragment ∧ (isPattern fragment = true → ¬Exceeds fragment) ∧
    (Completed fragment → Exceeds fragment)

theorem isPattern_eq_true_iff {text : String} :
    isPattern text = true ↔ ∃ regex, compile text = .ok regex := by
  rw [isPattern]
  cases compile text <;> simp [Except.isOk, Except.toBool]

theorem isPattern_eq_false {text : String} (failed : ∃ fault, compile text = .error fault) :
    isPattern text = false := by
  obtain ⟨fault, failed⟩ := failed
  rw [isPattern, failed]
  rfl

theorem isKept_eq_true_iff {fragment : String} :
    isKept fragment = true ↔
      isPattern (fragment ++ "$") = true ∧
        ∃ regex, compile (anchoredText fragment) = .ok regex := by
  rw [isKept, compileFragment, isPattern]
  cases compile (fragment ++ "$") with
  | error fault =>
      simp [Except.isOk, Except.toBool, bind, Except.bind, discard, Functor.discard,
        Functor.mapConst, Except.map]
  | ok inner =>
      change Except.isOk (compile (anchoredText fragment)) = true ↔ _
      cases compile (anchoredText fragment) <;> simp [Except.isOk, Except.toBool]

theorem toList_anchoredText (fragment : String) :
    (anchoredText fragment).toList = wrapped fragment.toList := by
  simp [anchoredText, wrapped, String.toList_append]

variable {fragment : String}

theorem isPattern_of_readTree {text : String} {tree : Tree}
    (read : readTree text.toList = .ok tree) :
    isPattern text = true ↔ ∃ regex, tree.limited = .ok regex := by
  rw [isPattern_eq_true_iff, compile_of_readTree read]

theorem not_exceeds_of_compile {regex : Regex}
    (kept : compile (anchoredText fragment) = .ok regex) : ¬Exceeds fragment := by
  rw [Exceeds, kept]
  rintro (failed | failed) <;> contradiction

/-- The anchored text of a tree that means something keeps to the limits or exceeds them. -/
theorem exists_compile_or_exceeds {ended : Tree} {regex : Regex} {after : Flags}
    (wrap : readTree (wrapped fragment.toList) = .ok ended.anchored)
    (meant : ended.meaning .initial = .ok (regex, after)) :
    (∃ anchored, compile (anchoredText fragment) = .ok anchored) ∨ Exceeds fragment := by
  rw [← toList_anchoredText] at wrap
  rw [Exceeds, compile_of_readTree wrap]
  exact (Tree.limited_anchored_cases meant).imp_left fun found => ⟨_, found⟩

theorem isPattern_dollar_of_compile {ended : Tree} {regex : Regex}
    (dollar : readTree (fragment ++ "$").toList = .ok ended)
    (wrap : readTree (wrapped fragment.toList) = .ok ended.anchored)
    (kept : compile (anchoredText fragment) = .ok regex) : isPattern (fragment ++ "$") = true := by
  rw [← toList_anchoredText] at wrap
  rw [compile_of_readTree wrap] at kept
  obtain ⟨inner, found, -⟩ := Tree.exists_limited_of_anchored kept
  exact (isPattern_of_readTree dollar).mpr ⟨inner, found⟩

theorem isPattern_of_grows {tree ended : Tree} (grows : tree.Grows ended)
    (alone : readTree fragment.toList = .ok tree)
    (dollar : readTree (fragment ++ "$").toList = .ok ended)
    (found : isPattern (fragment ++ "$") = true) : isPattern fragment = true := by
  obtain ⟨regex, kept⟩ := (isPattern_of_readTree dollar).mp found
  exact (isPattern_of_readTree alone).mpr (grows.exists_limited kept)

theorem isPattern_append {text : String} (ends : IsEnding text.toList)
    (swallows : ∀ ending, IsEnding ending →
      readTree (fragment.toList ++ ending) = readTree fragment.toList) :
    isPattern (fragment ++ text) = isPattern fragment := by
  rw [isPattern, isPattern, compile_eq, compile_eq, String.toList_append, swallows _ ends]

theorem isEnding_toList : IsEnding "$".toList ∧ IsEnding "$)".toList := by
  simp [IsEnding, IsPlain]

theorem toList_append_dollar (fragment : String) :
    (fragment ++ "$").toList = fragment.toList ++ ['$'] := by
  simp [String.toList_append]

theorem toList_append_closing (fragment : String) :
    (fragment ++ "$)").toList = fragment.toList ++ ['$', ')'] := by
  simp [String.toList_append]

theorem not_swallows_of_error
    (closing : ∃ fault, readTree (fragment.toList ++ ['$', ')']) = .error fault) :
    ¬Swallows fragment := by
  rintro ⟨-, found⟩
  rw [← toList_append_closing] at closing
  rw [isPattern_eq_false (compile_of_error closing)] at found
  contradiction

/-- A fragment is kept if the dollar sign leaves or makes it a pattern, nothing that is put behind
it is lost, and the anchored pattern keeps to the limits. -/
theorem isKept_iff (fragment : String) :
    isKept fragment = true ↔
      ¬Exceeds fragment ∧
        (isPattern fragment = true ∧ ¬Swallows fragment ∨ Completed fragment) := by
  rw [isKept_eq_true_iff]
  cases anchoring fragment.toList with
  | pattern tree ended grows alone dollar wrap closing =>
      rw [← toList_append_dollar] at dollar
      have valid_of_dollar := isPattern_of_grows grows alone dollar
      constructor
      · rintro ⟨found, regex, kept⟩
        exact ⟨not_exceeds_of_compile kept,
          .inl ⟨valid_of_dollar found, not_swallows_of_error closing⟩⟩
      · rintro ⟨fits, ⟨valid, -⟩ | ⟨invalid, found⟩⟩
        · obtain ⟨regex, kept⟩ := (isPattern_of_readTree alone).mp valid
          obtain ⟨-, -, after, meant⟩ := Tree.limited_eq_ok_iff.mp kept
          obtain ⟨larger, meant, -⟩ := grows.meaning _ _ _ meant
          obtain ⟨anchored, kept⟩ := (exists_compile_or_exceeds wrap meant).resolve_right fits
          exact ⟨isPattern_dollar_of_compile dollar wrap kept, anchored, kept⟩
        · rw [valid_of_dollar found] at invalid
          contradiction
  | comment hash swallows wrap =>
      have dollar := isPattern_append isEnding_toList.1 swallows
      have closing := isPattern_append isEnding_toList.2 swallows
      rw [← toList_anchoredText] at wrap
      obtain ⟨fault, failed⟩ := compile_of_error wrap
      constructor
      · rintro ⟨-, regex, kept⟩
        rw [failed] at kept
        contradiction
      · rintro ⟨-, ⟨valid, noSwallow⟩ | ⟨invalid, found⟩⟩
        · exact absurd ⟨valid, closing.trans valid⟩ noSwallow
        · rw [dollar, invalid] at found
          contradiction
  | escape ended backslash alone dollar wrap =>
      rw [← toList_append_dollar] at dollar
      have invalid := isPattern_eq_false (compile_of_error alone)
      constructor
      · rintro ⟨found, regex, kept⟩
        exact ⟨not_exceeds_of_compile kept, .inr ⟨invalid, found⟩⟩
      · rintro ⟨fits, ⟨valid, -⟩ | ⟨-, found⟩⟩
        · rw [invalid] at valid
          contradiction
        · obtain ⟨regex, kept⟩ := (isPattern_of_readTree dollar).mp found
          obtain ⟨-, -, after, meant⟩ := Tree.limited_eq_ok_iff.mp kept
          exact ⟨found, (exists_compile_or_exceeds wrap meant).resolve_right fits⟩
  | none alone dollar =>
      rw [← toList_append_dollar] at dollar
      have invalid := isPattern_eq_false (compile_of_error alone)
      have noDollar := isPattern_eq_false (compile_of_error dollar)
      simp [Completed, invalid, noDollar]

/-- The dollar sign completes nothing but an escape. -/
theorem Completed.backslash_suffix (completed : Completed fragment) :
    ['\\'] <:+ fragment.toList := by
  obtain ⟨invalid, found⟩ := completed
  cases anchoring fragment.toList with
  | pattern tree ended grows alone dollar wrap closing =>
      rw [← toList_append_dollar] at dollar
      rw [isPattern_of_grows grows alone dollar found] at invalid
      contradiction
  | comment hash swallows wrap =>
      rw [isPattern_append isEnding_toList.1 swallows, invalid] at found
      contradiction
  | escape ended backslash alone dollar wrap => exact backslash
  | none alone dollar =>
      rw [← toList_append_dollar] at dollar
      rw [isPattern_eq_false (compile_of_error dollar)] at found
      contradiction

/-- Nothing but a comment takes in what is put behind it. -/
theorem Swallows.hash_mem (swallows : Swallows fragment) : '#' ∈ fragment.toList := by
  have valid := swallows.1
  cases anchoring fragment.toList with
  | pattern tree ended grows alone dollar wrap closing =>
      exact absurd swallows (not_swallows_of_error closing)
  | comment hash takes wrap => exact hash
  | escape ended backslash alone dollar wrap =>
      rw [isPattern_eq_false (compile_of_error alone)] at valid
      contradiction
  | none alone dollar =>
      rw [isPattern_eq_false (compile_of_error alone)] at valid
      contradiction

/-- Without comments and without a backslash at its end, a fragment is ordinary unless the anchored
fragment is too large or nested too deep. -/
theorem isOrdinary_of_not_exceeds (noComment : '#' ∉ fragment.toList)
    (noEscape : ¬['\\'] <:+ fragment.toList) (fits : ¬Exceeds fragment) : IsOrdinary fragment :=
  ⟨fun swallows => noComment swallows.hash_mem, fun _ => fits,
    fun completed => absurd completed.backslash_suffix noEscape⟩

/-- Exactly the ordinary fragments are kept if they are patterns and left out if they are none. -/
theorem isKept_eq_isPattern_iff (fragment : String) :
    isKept fragment = isPattern fragment ↔ IsOrdinary fragment := by
  have kept := isKept_iff fragment
  cases valid : isPattern fragment with
  | true =>
      have incomplete : ¬Completed fragment := by
        rintro ⟨invalid, -⟩
        rw [valid] at invalid
        contradiction
      rw [kept]
      constructor
      · rintro ⟨fits, ⟨-, keeps⟩ | completed⟩
        · exact ⟨keeps, fun _ => fits, fun completed => absurd completed incomplete⟩
        · exact absurd completed incomplete
      · rintro ⟨keeps, fits, -⟩
        exact ⟨fits valid, .inl ⟨valid, keeps⟩⟩
  | false =>
      have invalid : ¬isPattern fragment = true := by simp [valid]
      rw [← Bool.not_eq_true, kept]
      constructor
      · intro dropped
        refine ⟨fun swallows => invalid swallows.1, fun found => absurd found invalid, ?_⟩
        intro completed
        by_contra fits
        exact dropped ⟨fits, .inr completed⟩
      · rintro ⟨-, -, exceeds⟩ ⟨fits, ⟨found, -⟩ | completed⟩
        · exact invalid found
        · exact fits (exceeds completed)

end IdentifierFilter

end CallGraph
