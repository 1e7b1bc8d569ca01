import CallGraph.Pattern
import CallGraph.Proofs.Pattern.Nesting

/-!
# Patterns that are anchored

A pattern is anchored by a dollar sign behind it, and wrapped by a group with an anchor on either
side.  Whatever the pattern is, the text that is wrapped is read as the group of the text that is
anchored, unless a comment of the pattern takes in the end of the group.
-/

namespace CallGraph

namespace Pattern

variable {chars text : List Char}

namespace Nesting

variable {nesting : Nesting}

/-- What has been read with a piece in addition. -/
def pushPiece (nesting : Nesting) (piece : Tree) : Nesting :=
  { nesting with inner := nesting.inner.push piece }

/-- The piece that a dollar sign becomes behind nothing or behind a backslash. -/
def dollarPiece (tail : List Char) : Tree :=
  if tail = [] then .atom (.anchor .dollar) else .atom (.literal '$' false)

theorem read_append_dollar {tail : List Char} (open_ : tail = [] ∨ tail = ['\\'])
    (text : List Char) :
    nesting.read (tail ++ '$' :: text) = (nesting.pushPiece (dollarPiece tail)).read text := by
  rcases open_ with rfl | rfl
  · have token : readToken nesting.verbose ('$' :: text) =
        .ok (some (.piece (.atom (.anchor .dollar)), text)) := by
      cases nesting.verbose <;> rfl
    exact read_of_token token rfl
  · have token : readToken nesting.verbose ('\\' :: '$' :: text) =
        .ok (some (.piece (.atom (.literal '$' false)), text)) := by
      cases nesting.verbose <;> rfl
    exact read_of_token token rfl

theorem readToken_closing (verbose : Bool) (text : List Char) :
    readToken verbose (')' :: text) = .ok (some (.closing, text)) := by
  cases verbose <;> rfl

/-- The group around a text, behind its opening parenthesis. -/
def anchoredGroup : OpenGroup :=
  (OpenGroup.start [] false).push (.atom (.anchor .caret))

theorem read_opening (text : List Char) :
    start.read ('^' :: '(' :: '?' :: ':' :: text) = (start.within [anchoredGroup]).read text := by
  have caret : readToken start.verbose ('^' :: '(' :: '?' :: ':' :: text) =
      .ok (some (.piece (.atom (.anchor .caret)), '(' :: '?' :: ':' :: text)) :=
    rfl
  rw [read_of_token caret rfl]
  exact read_of_token rfl rfl

end Nesting

/-- A group with an anchor on either side. -/
def Tree.anchored (tree : Tree) : Tree :=
  .cat (.atom (.anchor .caret)) (.cat (.group [] tree) (.atom (.anchor .dollar)))

/-- A text with an anchored group around it. -/
def wrapped (chars : List Char) : List Char :=
  '^' :: '(' :: '?' :: ':' :: (chars ++ ['$', ')', '$'])

/-- A tree becomes another one by pieces that mean something everywhere. -/
structure Tree.Grows (tree other : Tree) : Prop where
  depth : ∀ parent, tree.depth parent ≤ other.depth parent
  meaning : ∀ flags regex after, tree.meaning flags = .ok (regex, after) →
    ∃ larger, other.meaning flags = .ok (larger, after) ∧ regex.size ≤ larger.size
  meaningless : ∀ flags fault, tree.meaning flags = .error fault →
    other.meaning flags = .error fault

/-- What an anchor, a text and a dollar sign are read as. -/
inductive Anchoring (chars : List Char) : Prop where
  /-- The text is a pattern, at least by its form. -/
  | pattern (tree ended : Tree) (grows : tree.Grows ended)
      (alone : readTree chars = .ok tree) (dollar : readTree (chars ++ ['$']) = .ok ended)
      (wrap : readTree (wrapped chars) = .ok ended.anchored)
      (closing : ∃ fault, readTree (chars ++ ['$', ')']) = .error fault)
  /-- The text ends in a comment. -/
  | comment (hash : '#' ∈ chars)
      (swallows : ∀ ending, IsEnding ending → readTree (chars ++ ending) = readTree chars)
      (wrap : ∃ fault, readTree (wrapped chars) = .error fault)
  /-- The text ends in a backslash. -/
  | escape (ended : Tree) (backslash : ['\\'] <:+ chars)
      (alone : ∃ fault, readTree chars = .error fault)
      (dollar : readTree (chars ++ ['$']) = .ok ended)
      (wrap : readTree (wrapped chars) = .ok ended.anchored)
  /-- The text is no pattern. -/
  | none (alone : ∃ fault, readTree chars = .error fault)
      (dollar : ∃ fault, readTree (chars ++ ['$']) = .error fault)

namespace Tree

variable {tree other : Tree}

theorem depth_le_depth_other (tree : Tree) (parent : Parent) :
    tree.depth parent ≤ tree.depth .other := by
  cases tree <;> simp only [depth, le_refl]
  · split <;> simp
  · split <;> simp

theorem grows_dollar (tree : Tree) : tree.Grows (.cat tree (.atom (.anchor .dollar))) where
  depth parent := by
    have same : (cat tree (.atom (.anchor .dollar))).depth parent =
        if parent = .cat then tree.depth .other else tree.depth .other + 1 := by
      simp [depth]
    have bound := depth_le_depth_other tree parent
    rw [same]
    split
    · exact bound
    · exact Nat.le_succ_of_le bound
  meaning flags regex after found := by
    refine ⟨.cat regex (.look (Anchor.dollar.meaning after)), ?_, Nat.le_add_right _ _⟩
    rw [Tree.meaning, found]
    rfl
  meaningless flags fault failed := by
    rw [Tree.meaning, failed]
    rfl

theorem empty_grows : empty.Grows (.atom (.anchor .dollar)) where
  depth _ := Nat.le_refl _
  meaning flags regex after found := by
    cases found
    exact ⟨.look (Anchor.dollar.meaning flags), rfl, Nat.le_refl _⟩
  meaningless _ _ failed := by
    contradiction

/-- What stands in front of a tree that grows does not matter. -/
theorem Grows.behind {combine : Tree → Tree → Tree} {join : Regex → Regex → Regex}
    (grows : tree.Grows other) (left : Tree)
    (means : ∀ right flags, (combine left right).meaning flags = do
      let (first, between) ← left.meaning flags
      let (second, after) ← right.meaning between
      return (join first second, after))
    (sizes : ∀ first {one two : Regex}, one.size ≤ two.size →
      (join first one).size ≤ (join first two).size)
    (depths : ∀ parent, (combine left tree).depth parent ≤ (combine left other).depth parent) :
    (combine left tree).Grows (combine left other) where
  depth := depths
  meaning flags regex after found := by
    rw [means] at found ⊢
    obtain ⟨⟨first, between⟩, meant, found⟩ := Fallible.of_bind_eq_ok found
    obtain ⟨⟨second, later⟩, meantToo, made⟩ := Fallible.of_bind_eq_ok found
    cases made
    obtain ⟨larger, larger_eq, bound⟩ := grows.meaning _ _ _ meantToo
    refine ⟨join first larger, ?_, sizes first bound⟩
    rw [meant]
    change other.meaning between >>= _ = _
    rw [larger_eq]
    rfl
  meaningless flags fault failed := by
    rw [means] at failed ⊢
    rcases Fallible.bind_eq_error_iff.mp failed with failed | ⟨⟨first, between⟩, meant, failed⟩
    · rw [failed]
      rfl
    · rw [meant]
      rcases Fallible.bind_eq_error_iff.mp failed with failed | ⟨_, _, made⟩
      · change other.meaning between >>= _ = _
        rw [grows.meaningless _ _ failed]
        rfl
      · contradiction

theorem Grows.cat (grows : tree.Grows other) (piece : Tree) :
    (Tree.cat piece tree).Grows (.cat piece other) := by
  apply grows.behind piece (fun _ _ => rfl)
  · exact fun first _ _ bound => Nat.add_le_add_left bound first.size
  · intro parent
    have inner := grows.depth .cat
    simp only [Tree.depth]
    split <;> omega

theorem Grows.alt (grows : tree.Grows other) (left : Tree) :
    (Tree.alt left tree).Grows (.alt left other) := by
  apply grows.behind left (fun _ _ => rfl)
  · exact fun first _ _ bound => Nat.add_le_add_right (Nat.add_le_add_left bound first.size) 80
  · intro parent
    have inner := grows.depth .alt
    simp only [Tree.depth]
    split <;> omega

theorem Grows.foldl_cat (grows : tree.Grows other) (before : List Tree) :
    (before.foldl (fun rest piece => Tree.cat piece rest) tree).Grows
      (before.foldl (fun rest piece => Tree.cat piece rest) other) := by
  induction before generalizing tree other with
  | nil => exact grows
  | cons piece before ih => exact ih (grows.cat piece)

theorem Grows.ofAlternatives (grows : tree.Grows other) (before : List Tree) :
    (Tree.ofAlternatives tree before).Grows (.ofAlternatives other before) := by
  induction before generalizing tree other with
  | nil => exact grows
  | cons left before ih => exact ih (grows.alt left)

theorem ofPieces_grows (pieces : List Tree) :
    (ofPieces pieces).Grows (ofPieces (.atom (.anchor .dollar) :: pieces)) := by
  cases pieces with
  | nil => exact empty_grows
  | cons last before => exact (grows_dollar last).foldl_cat before

end Tree

theorem OpenGroup.grows_push (group : OpenGroup) :
    group.content.Grows (group.push (.atom (.anchor .dollar))).content :=
  (Tree.ofPieces_grows group.pieces).ofAlternatives group.alternatives

/-! ## Anchored texts -/

theorem isEnding_dollar : IsEnding ['$'] :=
  ⟨rfl, isPlain_nil⟩

theorem isEnding_dollar_closing : IsEnding ['$', ')'] :=
  ⟨rfl, isPlain_cons.mpr ⟨.inr rfl, isPlain_nil⟩⟩

theorem isEnding_dollar_closing_dollar : IsEnding ['$', ')', '$'] :=
  ⟨rfl, isPlain_cons.mpr ⟨.inr rfl, isPlain_cons.mpr ⟨.inl rfl, isPlain_nil⟩⟩⟩

theorem anchoring (chars : List Char) : Anchoring chars := by
  cases Nesting.start.reads chars with
  | atEnd last tail open_ suffix same read =>
      have plain : ∀ ending, IsEnding ending → readTree (chars ++ ending) =
          last.read (tail ++ ending) := by
        intro ending ends
        simpa [readTree] using read [] ending ends
      have alone : readTree chars = last.read tail := by
        simpa using plain [] isEnding_nil
      have dollar : readTree (chars ++ ['$']) =
          (last.pushPiece (Nesting.dollarPiece tail)).finish := by
        rw [plain _ isEnding_dollar, Nesting.read_append_dollar open_, Nesting.read_nil]
      have wrap : readTree (wrapped chars) =
          ((last.within [Nesting.anchoredGroup]).pushPiece (Nesting.dollarPiece tail)).read
            [')', '$'] := by
        rw [readTree, wrapped, Nesting.read_opening,
          read [Nesting.anchoredGroup] _ isEnding_dollar_closing_dollar,
          Nesting.read_append_dollar open_]
      have backslash : last.read ['\\'] = .error .escape := by
        apply Nesting.read_of_no_token
        cases last.verbose <;> rfl
      rcases last with ⟨inner, outer, names, verbose⟩
      cases outer with
      | cons parent others =>
          -- A group of the text is open, and a dollar sign does not close it.
          refine .none ?_ ⟨.unclosedGroup, dollar⟩
          rcases open_ with rfl | rfl
          · exact ⟨.unclosedGroup, by rw [alone, Nesting.read_nil]; rfl⟩
          · exact ⟨.escape, alone.trans backslash⟩
      | nil =>
          -- No group of the text is open, so the parenthesis closes the group around the text.
          have unchanged : inner.change = [] := same
          have wrap : readTree (wrapped chars) =
              .ok (inner.push (Nesting.dollarPiece tail)).content.anchored := by
            rw [wrap, Nesting.read_of_token (Nesting.readToken_closing _ _) rfl,
              ← List.nil_append ['$'], Nesting.read_append_dollar (.inl rfl), Nesting.read_nil]
            change Except.ok (Tree.cat _ (.cat (.group inner.change _) _)) = _
            rw [unchanged]
            rfl
          rcases open_ with rfl | rfl
          · refine .pattern inner.content _ inner.grows_push ?_ dollar wrap ?_
            · rw [alone, Nesting.read_nil]
              rfl
            · refine ⟨.unopenedGroup, ?_⟩
              rw [plain _ isEnding_dollar_closing, Nesting.read_append_dollar (.inl rfl)]
              exact Nesting.read_of_fault (Nesting.readToken_closing _ _) rfl
          · exact .escape _ suffix ⟨.escape, alone.trans backslash⟩ dollar wrap
  | comment last hash read =>
      have plain : ∀ ending, IsEnding ending → readTree (chars ++ ending) = last.finish := by
        intro ending ends
        simpa [readTree] using read [] ending ends
      have alone : readTree chars = last.finish := by
        simpa using plain [] isEnding_nil
      refine .comment hash (fun ending ends => (plain ending ends).trans alone.symm) ?_
      refine ⟨.unclosedGroup, ?_⟩
      rw [readTree, wrapped, Nesting.read_opening,
        read [Nesting.anchoredGroup] _ isEnding_dollar_closing_dollar]
      unfold Nesting.finish Nesting.within
      cases last.outer <;> rfl
  | fails read =>
      refine .none ?_ (read _ isEnding_dollar)
      simpa [readTree] using read [] isEnding_nil

end Pattern

end CallGraph
