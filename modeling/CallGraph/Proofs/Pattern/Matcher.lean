import CallGraph.Pattern.Regex
import Mathlib.Logic.Function.Iterate

/-!
# The matcher computes what is matched

The matcher works on sets of positions and stops repeating as soon as nothing new is found.  It
finds exactly the positions where a match ends that starts in one of the given positions, provided that
the bounds of every repetition are in order.  An unlimited repetition is cut off after as many steps
as the text has positions: a match takes no characters back, so that steps which get nowhere can be
left out of it.
-/

namespace CallGraph

namespace Pattern

namespace Regex

/-- A number of steps in a row lead from one position to another. -/
inductive Repeats (step : Nat → Nat → Prop) : (count start stop : Nat) → Prop where
  | none (position : Nat) : Repeats step 0 position position
  | more {count start middle stop : Nat} (first : step start middle)
      (rest : Repeats step count middle stop) : Repeats step (count + 1) start stop

namespace Repeats

variable {step : Nat → Nat → Prop} {count start stop : Nat}

theorem zero_iff : Repeats step 0 start stop ↔ start = stop := by
  constructor
  · intro repeats
    cases repeats
    rfl
  · rintro rfl
    exact .none start

theorem succ_iff :
    Repeats step (count + 1) start stop ↔
      ∃ middle, step start middle ∧ Repeats step count middle stop := by
  constructor
  · intro repeats
    cases repeats with
    | more first rest => exact ⟨_, first, rest⟩
  · rintro ⟨middle, first, rest⟩
    exact .more first rest

theorem add_iff {more : Nat} :
    Repeats step (count + more) start stop ↔
      ∃ middle, Repeats step count start middle ∧ Repeats step more middle stop := by
  induction count generalizing start with
  | zero => simp [zero_iff]
  | succ count ih =>
      rw [Nat.succ_add]
      simp only [succ_iff, ih]
      constructor
      · rintro ⟨first, stepped, middle, front, back⟩
        exact ⟨middle, ⟨first, stepped, front⟩, back⟩
      · rintro ⟨middle, ⟨first, stepped, front⟩, back⟩
        exact ⟨first, stepped, middle, front, back⟩

/-- What holds of a position and is passed on by every step holds in the end. -/
theorem preserves {holds : Nat → Prop} (repeats : Repeats step count start stop)
    (passes : ∀ one other, step one other → holds one → holds other) (initially : holds start) :
    holds stop := by
  induction repeats with
  | none position => exact initially
  | more first rest ih => exact ih (passes _ _ first initially)

/-- Steps that never go back need not be taken more often than there are positions between start
and stop. -/
theorem exists_le (repeats : Repeats step count start stop)
    (forward : ∀ one other, step one other → one ≤ other) :
    start ≤ stop ∧ ∃ fewer, fewer ≤ stop - start ∧ Repeats step fewer start stop := by
  induction repeats with
  | none position => exact ⟨Nat.le_refl _, 0, Nat.zero_le _, .none position⟩
  | @more count start middle stop first rest ih =>
      obtain ⟨later, fewer, few, rest⟩ := ih
      have early := forward _ _ first
      refine ⟨Nat.le_trans early later, ?_⟩
      rcases Nat.eq_or_lt_of_le early with rfl | early
      · exact ⟨fewer, few, rest⟩
      · exact ⟨fewer + 1, by omega, .more first rest⟩

end Repeats

variable {text : Text}

/-- A match takes no characters back and does not leave the text. -/
theorem Matches.bounds {regex : Regex} {start stop : Nat}
    (matched : Matches text regex start stop) :
    start ≤ stop ∧ (start ≤ text.size → stop ≤ text.size) := by
  induction matched with
  | empty | look | done => exact ⟨Nat.le_refl _, id⟩
  | @set members position char there member =>
      refine ⟨Nat.le_succ position, fun _ => ?_⟩
      exact (Array.getElem?_eq_some_iff.mp there).1
  | cat _ _ ihFirst ihSecond =>
      exact ⟨Nat.le_trans ihFirst.1 ihSecond.1, fun inside => ihSecond.2 (ihFirst.2 inside)⟩
  | altLeft _ ih | altRight _ ih => exact ih
  | again _ _ _ ihFirst ihRest =>
      exact ⟨Nat.le_trans ihFirst.1 ihRest.1, fun inside => ihRest.2 (ihFirst.2 inside)⟩

/-- A repetition matches if and only if its body does so in a row, as often as the bounds say. -/
theorem matches_repetition_iff {body : Regex} {least : Nat} {most : Option Nat} {start stop : Nat} :
    Matches text (.repetition body least most) start stop ↔
      ∃ count, least ≤ count ∧ (∀ bound ∈ most, count ≤ bound) ∧
        Repeats (Matches text body) count start stop := by
  constructor
  · intro matched
    -- The bounds change from step to step, so they are general in the induction.
    generalize repeated : Regex.repetition body least most = regex at matched
    induction matched generalizing least most with
    | empty | set | look | cat | altLeft | altRight => contradiction
    | done =>
        cases repeated
        exact ⟨0, Nat.le_refl _, fun _ _ => Nat.zero_le _, .none _⟩
    | again positive first _ _ ihRest =>
        cases repeated
        obtain ⟨count, atLeast, atMost, rest⟩ := ihRest rfl
        refine ⟨count + 1, by omega, fun bound limit => ?_, .more first rest⟩
        subst limit
        have fewer : count ≤ bound - 1 := atMost (bound - 1) rfl
        have some : bound ≠ 0 := fun zero => positive (congrArg some zero)
        omega
  · rintro ⟨count, atLeast, atMost, repeats⟩
    induction repeats generalizing least most with
    | none position =>
        obtain rfl : least = 0 := Nat.le_zero.mp atLeast
        exact .done
    | @more count start middle stop first rest ih =>
        have positive : most ≠ some 0 := by
          rintro rfl
          exact absurd (atMost 0 rfl) (Nat.not_succ_le_zero count)
        refine .again positive first (ih (by omega) ?_)
        intro bound limit
        obtain ⟨larger, rfl, rfl⟩ := Option.map_eq_some_iff.mp limit
        exact Nat.le_sub_one_of_lt (atMost larger rfl)

/-! ## Sets of positions -/

theorem testBit_positions (holds : Nat → Bool) (count position : Nat) :
    (positions holds count).testBit position = (decide (position < count) && holds position) := by
  induction count with
  | zero => simp [positions]
  | succ count ih =>
      have added : (if holds count then 1 <<< count else 0).testBit position =
          (decide (position = count) && holds position) := by
        by_cases last : position = count
        · subst last
          cases held : holds position <;> simp
        · split <;> simp [Nat.one_shiftLeft, last, Ne.symm last]
      rw [positions, Nat.testBit_or, ih, added, ← Bool.and_or_distrib_right, ← Bool.decide_or]
      simp only [Nat.lt_succ_iff_lt_or_eq]

/-- A set holds no positions behind the end of the text. -/
def Within (text : Text) (set : Nat) : Prop :=
  ∀ position, set.testBit position = true → position ≤ text.size

/-- A step takes a set of positions to the positions where a match ends that starts in the set. -/
def Computes (text : Text) (step : Nat → Nat) (regex : Regex) : Prop :=
  ∀ starts, Within text starts → ∀ stop, (step starts).testBit stop = true ↔
    ∃ start, starts.testBit start = true ∧ Matches text regex start stop

variable {step : Nat → Nat} {regex : Regex} {starts : Nat}

theorem Computes.within (computes : Computes text step regex) (within : Within text starts) :
    Within text (step starts) := by
  intro stop member
  obtain ⟨start, started, matched⟩ := (computes starts within stop).mp member
  exact matched.bounds.2 (within start started)

/-- Stopping early makes no difference, since the step changes nothing from then on. -/
theorem stepTimes_eq_iterate (step : Nat → Nat) (count current : Nat) :
    stepTimes step count current = step^[count] current := by
  induction count generalizing current with
  | zero => rfl
  | succ count ih =>
      rw [stepTimes, Function.iterate_succ_apply]
      split
      · next fixed => rw [fixed, Function.iterate_fixed fixed]
      · exact ih (step current)

theorem Computes.testBit_stepTimes (computes : Computes text step regex)
    (within : Within text starts) (count stop : Nat) :
    (stepTimes step count starts).testBit stop = true ↔
      ∃ start, starts.testBit start = true ∧ Repeats (Matches text regex) count start stop := by
  rw [stepTimes_eq_iterate]
  induction count generalizing starts with
  | zero => simp [Repeats.zero_iff]
  | succ count ih =>
      rw [Function.iterate_succ_apply, ih (computes.within within)]
      simp only [computes starts within, Repeats.succ_iff]
      constructor
      · rintro ⟨middle, ⟨start, started, first⟩, rest⟩
        exact ⟨start, started, middle, first, rest⟩
      · rintro ⟨start, started, middle, first, rest⟩
        exact ⟨middle, ⟨start, started, first⟩, rest⟩

/-- Searching on from the newest positions finds what is reached from all that were seen.  A step
from any other of them was taken before and led to positions that were seen. -/
theorem Computes.testBit_stepUpTo (computes : Computes text step regex) (count : Nat)
    {seen newest : Nat} (within : Within text seen)
    (fresh : ∀ position, newest.testBit position = true → seen.testBit position = true)
    (explored : ∀ start stop, seen.testBit start = true → newest.testBit start = false →
      Matches text regex start stop → seen.testBit stop = true) (stop : Nat) :
    (stepUpTo step count seen newest).testBit stop = true ↔
      ∃ start, seen.testBit start = true ∧
        ∃ few ≤ count, Repeats (Matches text regex) few start stop := by
  induction count generalizing seen newest with
  | zero => simp [Regex.stepUpTo, Repeats.zero_iff]
  | succ count ih =>
      have stepped := computes newest fun position member => within position (fresh position member)
      -- A step from a seen position leads to one that is seen or newly reached.
      have reaches : ∀ start stop, seen.testBit start = true → Matches text regex start stop →
          (seen ||| step newest).testBit stop = true := by
        intro start stop started matched
        rw [Nat.testBit_or, Bool.or_eq_true]
        cases new : newest.testBit start with
        | true => exact .inr ((stepped stop).mpr ⟨start, new, matched⟩)
        | false => exact .inl (explored start stop started new matched)
      simp only [Regex.stepUpTo]
      split
      · next closed =>
        rw [closed] at reaches
        constructor
        · intro member
          exact ⟨stop, member, 0, Nat.zero_le _, .none stop⟩
        · rintro ⟨start, started, few, -, repeats⟩
          exact repeats.preserves (fun one other matched member => reaches one other member matched)
            started
      · have inside : Within text (seen ||| step newest) := by
          intro position member
          rw [Nat.testBit_or, Bool.or_eq_true] at member
          rcases member with member | member
          · exact within position member
          · obtain ⟨start, started, matched⟩ := (stepped position).mp member
            exact matched.bounds.2 (within start (fresh start started))
        rw [ih inside]
        · constructor
          · rintro ⟨middle, member, few, fewer, rest⟩
            rw [Nat.testBit_or, Bool.or_eq_true] at member
            rcases member with member | member
            · exact ⟨middle, member, few, Nat.le_succ_of_le fewer, rest⟩
            · obtain ⟨start, started, first⟩ := (stepped middle).mp member
              exact ⟨start, fresh start started, few + 1, Nat.succ_le_succ fewer, .more first rest⟩
          · rintro ⟨start, started, few, fewer, repeats⟩
            cases repeats with
            | none =>
                refine ⟨stop, ?_, 0, Nat.zero_le _, .none stop⟩
                rw [Nat.testBit_or, started, Bool.true_or]
            | more first rest =>
                exact ⟨_, reaches _ _ started first, _, Nat.le_of_succ_le_succ fewer, rest⟩
        · intro position member
          rw [Nat.testBit_xor] at member
          cases old : seen.testBit position with
          | true => rw [Nat.testBit_or, old, Bool.true_or]
          | false => simpa [old] using member
        · intro start stop member old matched
          have seenBefore : seen.testBit start = true := by
            rw [Nat.testBit_xor, member] at old
            simpa using old
          exact reaches start stop seenBefore matched

/-! ## The matcher -/

/-- The bounds of every repetition are in order. -/
def Ordered : Regex → Prop
  | empty | set _ | look _ => True
  | cat first second => first.Ordered ∧ second.Ordered
  | alt left right => left.Ordered ∧ right.Ordered
  | repetition body least most => body.Ordered ∧ ∀ bound ∈ most, least ≤ bound

theorem computes_set (members : CharSet) :
    Computes text (ends text (.set members)) (.set members) := by
  intro starts within stop
  rw [ends, Nat.testBit_shiftLeft, testBit_positions]
  cases stop with
  | zero =>
      have behind : ¬0 ≥ 1 := by decide
      simp only [behind, decide_false, Bool.false_and, Bool.false_eq_true, false_iff]
      rintro ⟨start, -, matched⟩
      cases matched
  | succ position =>
      simp only [ge_iff_le, Nat.le_add_left, decide_true, Nat.add_sub_cancel, Bool.true_and,
        Bool.and_eq_true, decide_eq_true_eq, Option.any_eq_true]
      constructor
      · rintro ⟨-, started, char, there, member⟩
        exact ⟨position, started, .set there member⟩
      · rintro ⟨start, started, matched⟩
        cases matched with
        | set there member =>
            exact ⟨(Array.getElem?_eq_some_iff.mp there).1, started, _, there, member⟩

theorem computes_look (condition : Look) :
    Computes text (ends text (.look condition)) (.look condition) := by
  intro starts within stop
  rw [ends, testBit_positions]
  simp only [Bool.and_eq_true, decide_eq_true_eq]
  constructor
  · rintro ⟨-, started, held⟩
    exact ⟨stop, started, .look held⟩
  · rintro ⟨start, started, matched⟩
    cases matched with
    | look held => exact ⟨Nat.lt_succ_of_le (within stop started), started, held⟩

theorem Computes.repetition {body : Regex} (computes : Computes text (body.ends text) body)
    {least : Nat} {most : Option Nat} (ordered : ∀ bound ∈ most, least ≤ bound) :
    Computes text (ends text (.repetition body least most)) (.repetition body least most) := by
  intro starts within stop
  have required := computes.testBit_stepTimes within least
  have inside : Within text (stepTimes (body.ends text) least starts) := by
    intro position member
    obtain ⟨start, started, repeats⟩ := (required position).mp member
    exact repeats.preserves (fun _ _ matched => matched.bounds.2) (within start started)
  have found := computes.testBit_stepUpTo ((most.map (· - least)).getD (text.size + 1)) inside
    (fun _ member => member) (fun start _ member old => by rw [member] at old; contradiction) stop
  rw [ends, found]
  simp only [matches_repetition_iff, required]
  constructor
  · rintro ⟨middle, ⟨start, started, front⟩, few, fewer, back⟩
    refine ⟨start, started, least + few, Nat.le_add_right _ _, ?_, ?_⟩
    · rintro bound rfl
      have room := ordered bound rfl
      simp only [Option.map_some, Option.getD_some] at fewer
      omega
    · exact Repeats.add_iff.mpr ⟨middle, front, back⟩
  · rintro ⟨start, started, count, atLeast, atMost, repeats⟩
    obtain ⟨extra, rfl⟩ := Nat.exists_eq_add_of_le atLeast
    obtain ⟨middle, front, back⟩ := Repeats.add_iff.mp repeats
    have reached := (required middle).mpr ⟨start, started, front⟩
    cases most with
    | some bound =>
        refine ⟨middle, ⟨start, started, front⟩, extra, ?_, back⟩
        have room := atMost bound rfl
        simp only [Option.map_some, Option.getD_some]
        omega
    | none =>
        -- Without a limit, the steps that get nowhere are left out.
        obtain ⟨-, fewer, few, shortened⟩ := back.exists_le fun _ _ matched => matched.bounds.1
        have last : stop ≤ text.size :=
          back.preserves (fun _ _ matched => matched.bounds.2) (inside middle reached)
        refine ⟨middle, ⟨start, started, front⟩, fewer, ?_, shortened⟩
        simp only [Option.map_none, Option.getD_none]
        omega

/-- The matcher finds exactly the positions where a match ends that starts in one of the given
positions. -/
theorem computes_ends {regex : Regex} (ordered : regex.Ordered) :
    Computes text (regex.ends text) regex := by
  induction regex with
  | empty =>
      intro starts within stop
      rw [ends]
      constructor
      · intro started
        exact ⟨stop, started, .empty stop⟩
      · rintro ⟨start, started, matched⟩
        cases matched
        exact started
  | set members => exact computes_set members
  | look condition => exact computes_look condition
  | cat first second ihFirst ihSecond =>
      have front := ihFirst ordered.1
      have back := ihSecond ordered.2
      intro starts within stop
      rw [ends, back _ (front.within within)]
      simp only [front starts within]
      constructor
      · rintro ⟨middle, ⟨start, started, matched⟩, matchedToo⟩
        exact ⟨start, started, .cat matched matchedToo⟩
      · rintro ⟨start, started, matched⟩
        cases matched with
        | cat matched matchedToo => exact ⟨_, ⟨start, started, matched⟩, matchedToo⟩
  | alt left right ihLeft ihRight =>
      have one := ihLeft ordered.1
      have other := ihRight ordered.2
      intro starts within stop
      rw [ends, Nat.testBit_or, Bool.or_eq_true, one starts within, other starts within]
      constructor
      · rintro (⟨start, started, matched⟩ | ⟨start, started, matched⟩)
        · exact ⟨start, started, .altLeft matched⟩
        · exact ⟨start, started, .altRight matched⟩
      · rintro ⟨start, started, matched⟩
        cases matched with
        | altLeft matched => exact .inl ⟨start, started, matched⟩
        | altRight matched => exact .inr ⟨start, started, matched⟩
  | repetition body least most ih => exact (ih ordered.1).repetition ordered.2

/-- A regular expression matches somewhere in a text if and only if a match starts inside the
text. -/
theorem isMatch_iff {regex : Regex} (ordered : regex.Ordered) (text : String) :
    regex.isMatch text = true ↔
      ∃ start stop, start ≤ text.toList.toArray.size ∧
        Matches text.toList.toArray regex start stop := by
  have all : ∀ position,
      (positions (fun _ => true) (text.toList.toArray.size + 1)).testBit position = true ↔
        position ≤ text.toList.toArray.size := by
    intro position
    rw [testBit_positions, Bool.and_true, decide_eq_true_eq, Nat.lt_succ_iff]
  have computes : Computes text.toList.toArray (regex.ends text.toList.toArray) regex :=
    computes_ends ordered
  have found := computes _ fun position member => (all position).mp member
  rw [isMatch, bne_iff_ne]
  constructor
  · intro nonempty
    obtain ⟨stop, member⟩ := Nat.exists_testBit_of_ne_zero nonempty
    obtain ⟨start, started, matched⟩ := (found stop).mp member
    exact ⟨start, stop, (all start).mp started, matched⟩
  · rintro ⟨start, stop, inside, matched⟩ empty
    have member := (found stop).mpr ⟨start, (all start).mpr inside, matched⟩
    rw [empty, Nat.zero_testBit] at member
    contradiction

end Regex

end Pattern

end CallGraph
