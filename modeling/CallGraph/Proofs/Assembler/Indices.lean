import CallGraph.Proofs.Assembler.Reading
import CallGraph.Proofs.Assembler.Sharing
import CallGraph.Proofs.ClassFile.Halves
import Mathlib.Algebra.GroupWithZero.Nat

/-!
# Indices of the constants of a class

Each constant that is asked for is given an index.  Indices are stable: whatever is asked for later,
and whatever is added when the class is written, an index stands for the constant that was asked
for.  And they are unique: shared constants have the same index exactly if they are the same
constant, and the index of a constant of its own is given only once.
-/

namespace CallGraph

namespace Assembler

open ClassFile
open PoolBuilder (Short Preserves Shares shares_intern shares_utf8 shares_classInfo
  shares_nameAndType shares_member shares_invokeDynamic preserves_duplicateClass
  preserves_methodOf isPrivate_duplicateClass)

namespace Directive

variable {directive : Directive} {action : StateM PoolBuilder UInt16}

/-- Whether a directive asks for a constant.  Bootstrap methods stand in a table of their own, and
their indices are apart from those of constants. -/
def asksConstant (directive : Directive) : Bool :=
  directive.request?.isSome

/-- Whether a directive asks for a constant that is shared. -/
def isShared : Directive → Bool
  | duplicateClass _ => false
  | bootstrapMethod _ _ => false
  | method _ _ _ _ => false
  | _ => true

theorem exists_request_of_isShared (shared : directive.isShared = true) :
    ∃ action, directive.request? = some action := by
  cases directive with
  | duplicateClass name => contradiction
  | bootstrapMethod handleIndex arguments => contradiction
  | method access name descriptor code => contradiction
  | _ => exact ⟨_, rfl⟩

theorem exists_eq_duplicateClass (asked : directive.request? = some action)
    (own : directive.isShared = false) : ∃ name, directive = duplicateClass name := by
  cases directive with
  | duplicateClass name => exact ⟨name, rfl⟩
  | _ => contradiction

theorem shares_request (asked : directive.request? = some action)
    (shared : directive.isShared = true) : Shares action := by
  cases directive with
  | utf8 value =>
      cases asked
      exact shares_utf8 value
  | classInfo name =>
      cases asked
      exact shares_classInfo name
  | long value =>
      cases asked
      exact shares_intern (.long value)
  | nameAndType name descriptor =>
      cases asked
      exact shares_nameAndType name descriptor
  | methodRef owner name descriptor =>
      cases asked
      exact shares_member owner name descriptor .methodRef
  | interfaceMethodRef owner name descriptor =>
      cases asked
      exact shares_member owner name descriptor .interfaceMethodRef
  | methodHandle kind referenceIndex =>
      cases asked
      exact shares_intern (.methodHandle kind referenceIndex)
  | invokeDynamic bootstrapIndex name descriptor =>
      cases asked
      exact shares_invokeDynamic bootstrapIndex name descriptor
  | duplicateClass name | bootstrapMethod handleIndex arguments => contradiction
  | method access name descriptor code => contradiction

theorem preserves_request (asked : directive.request? = some action) : Preserves action := by
  cases shared : directive.isShared with
  | true => exact (shares_request asked shared).preserves
  | false =>
      obtain ⟨name, rfl⟩ := exists_eq_duplicateClass asked shared
      cases asked
      exact preserves_duplicateClass name

end Directive

/-- The request for a shared constant to which an index is the answer. -/
def requestAt? (table : ConstantPool) (index : UInt16) : Option Directive :=
  match table[index.toNat]? with
  | some (.utf8 value) => some (.utf8 value)
  | some (.long value) => some (.long value)
  | some (.methodHandle kind referenceIndex) => some (.methodHandle kind referenceIndex)
  | some (.classInfo _) => (classNameAt table index).toOption.map .classInfo
  | some (.nameAndType _ _) =>
      (nameAndTypeAt table index).toOption.map fun (name, descriptor) =>
        .nameAndType name descriptor
  | some (.methodRef classIndex nameAndTypeIndex) =>
      (memberAt table classIndex nameAndTypeIndex).toOption.map fun method =>
        .methodRef method.owner method.name method.descriptor
  | some (.interfaceMethodRef classIndex nameAndTypeIndex) =>
      (memberAt table classIndex nameAndTypeIndex).toOption.map fun method =>
        .interfaceMethodRef method.owner method.name method.descriptor
  | some (.invokeDynamic _ _) =>
      (callSiteAt table index).toOption.map fun site =>
        .invokeDynamic site.bootstrapIndex site.name site.descriptor
  | _ => none

namespace Denotes

variable {table : ConstantPool} {bootstraps : List AssembledBootstrap} {directive : Directive}
  {index : UInt16}

/-- A request for a shared constant is read back from its answer. -/
theorem requestAt?_eq (denotes : Denotes table bootstraps directive (some index))
    (shared : directive.isShared = true) : requestAt? table index = some directive := by
  unfold requestAt?
  cases denotes with
  | utf8 text => rw [text]
  | classInfo named =>
      obtain ⟨nameIndex, found, text⟩ := id named
      rw [found, classNameAt_eq_ok_iff.mpr named]
      rfl
  | duplicateClass named => contradiction
  | long found => rw [found]
  | nameAndType member =>
      obtain ⟨nameIndex, descriptorIndex, found, -, -⟩ := id member
      rw [found, nameAndTypeAt_eq_ok_iff.mpr member]
      rfl
  | methodRef found member =>
      simp only [found, memberAt_eq_ok_iff.mpr member]
      rfl
  | interfaceMethodRef found member =>
      simp only [found, memberAt_eq_ok_iff.mpr member]
      rfl
  | methodHandle found => rw [found]
  | invokeDynamic site =>
      obtain ⟨nameAndTypeIndex, found, -⟩ := id site
      rw [found, callSiteAt_eq_ok_iff.mpr site]
      rfl
  | bootstrapMethod found => contradiction

/-- What is denoted in a class without bootstrap methods is a constant, not an empty slot. -/
theorem exists_constant (denotes : Denotes table [] directive (some index)) :
    ∃ constant, table[index.toNat]? = some constant ∧ constant ≠ .empty := by
  cases denotes with
  | utf8 text => exact ⟨_, text, Constant.noConfusion⟩
  | classInfo named =>
      obtain ⟨nameIndex, found, -⟩ := named
      exact ⟨_, found, Constant.noConfusion⟩
  | duplicateClass named =>
      obtain ⟨nameIndex, found, -⟩ := named
      exact ⟨_, found, Constant.noConfusion⟩
  | long found => exact ⟨_, found, Constant.noConfusion⟩
  | nameAndType member =>
      obtain ⟨nameIndex, descriptorIndex, found, -, -⟩ := member
      exact ⟨_, found, Constant.noConfusion⟩
  | methodRef found member => exact ⟨_, found, Constant.noConfusion⟩
  | interfaceMethodRef found member => exact ⟨_, found, Constant.noConfusion⟩
  | methodHandle found => exact ⟨_, found, Constant.noConfusion⟩
  | invokeDynamic site =>
      obtain ⟨nameAndTypeIndex, found, -⟩ := site
      exact ⟨_, found, Constant.noConfusion⟩
  | bootstrapMethod found => simp at found

end Denotes

/-- A constant that was asked for, and the index that was given for it. -/
structure Grant where
  directive : Directive
  index : UInt16
  deriving DecidableEq, Repr

/-- What a directive was given by its answer, if it asks for a constant. -/
def Directive.grant? (directive : Directive) (answer : Option UInt16) : Option Grant :=
  if directive.asksConstant then answer.map (Grant.mk directive) else none

/-- What directives were given by their answers, in order. -/
def grantsOf (directives : List Directive) (answers : List (Option UInt16)) : List Grant :=
  (List.zipWith Directive.grant? directives answers).filterMap id

/-- What every class asks for at first. -/
def opening (name : String) : List Directive :=
  [.classInfo name, .classInfo "java/lang/Object"]

/-- What a class was given at first, and then by the answers of directives. -/
def grants (name : String) (directives : List Directive) : List Grant :=
  ⟨.classInfo name, (Builder.start name).thisClass⟩ ::
    ⟨.classInfo "java/lang/Object", (Builder.start name).superClass⟩ ::
      grantsOf directives (assemble name directives).1

/-- What a class is given when it is written. -/
def Builder.closingGrants (builder : Builder) : List Grant :=
  if builder.bootstrapMethods.isEmpty then []
  else [⟨.utf8 "BootstrapMethods", (PoolBuilder.utf8 "BootstrapMethods" builder.pool).1⟩]

/-- The bytes of a pool are read as constants, one by one, the slots are those that these take
behind an empty one, and the next index is the number of the slots. -/
def PoolBuilder.CountsEntries (pool : PoolBuilder) : Prop :=
  ∃ entries : List Constant,
    Decoder.Takes (ClassFile.constant.times entries.length) pool.encode entries ∧
      pool.slots = .empty :: slotsOf entries ∧
      pool.nextIndex.toNat = 1 + (entries.map Constant.width).sum

/-- An index that was given out is one of the pool, is not the second half of a constant, and stands
for what was asked for. -/
structure PoolBuilder.Holds (pool : PoolBuilder) (grant : Grant) : Prop where
  one_le : 1 ≤ grant.index.toNat
  lt_next : grant.index.toNat < pool.nextIndex.toNat
  not_second : ¬IsSecondHalf pool.slots.toArray grant.index.toNat
  denotes : ∀ bootstraps,
    Denotes pool.slots.toArray bootstraps grant.directive (some grant.index)

/-- The indices that were given out stand for what was asked for, and for nothing else. -/
structure Settled (pool : PoolBuilder) (grants : List Grant) : Prop where
  counted : pool.CountsEntries
  holds : ∀ grant ∈ grants, pool.Holds grant
  /-- Shared constants have the same index exactly if the same constant was asked for. -/
  unique : ∀ first ∈ grants, ∀ second ∈ grants, first.directive.isShared = true →
    second.directive.isShared = true →
      (first.index = second.index ↔ first.directive = second.directive)
  /-- A constant of its own shares its index neither with an earlier nor with a later one. -/
  apart : grants.Pairwise fun earlier later =>
    (earlier.directive.isShared && later.directive.isShared) = false →
      earlier.index ≠ later.index

/-! ## What a pool honours -/

namespace PoolBuilder

variable {pool before after : PoolBuilder} {given : List Grant}

/-- A pool recalls what it has given for a shared constant: it is a shared index, and asking again
at any later time gives it again. -/
def Recalls (pool : PoolBuilder) (grant : Grant) : Prop :=
  (∃ constant, pool.shared.lookup constant = some grant.index) ∧
    ∀ action, grant.directive.request? = some action → ∀ later, pool.Keeps later →
      action later = (grant.index, later)

theorem Recalls.keep {grant : Grant} (recalls : before.Recalls grant) (keeps : before.Keeps after) :
    after.Recalls grant := by
  obtain ⟨⟨constant, known⟩, again⟩ := recalls
  exact ⟨⟨constant, keeps.shared constant _ known⟩,
    fun action asked later keepsLater => again action asked later (keeps.trans keepsLater)⟩

/-- What holds of a pool and of all that it was asked for, in order. -/
structure Honours (pool : PoolBuilder) (given : List Grant) : Prop where
  wellFormed : pool.WellFormed
  denotes : ∀ grant ∈ given, ∀ table, pool.Within table → ∀ bootstraps,
    Denotes table bootstraps grant.directive (some grant.index)
  recalls : ∀ grant ∈ given, grant.directive.isShared = true → pool.Recalls grant
  isPrivate : pool.Fits → ∀ grant ∈ given, grant.directive.isShared = false →
    pool.IsPrivate grant.index
  /-- A constant of its own gets an index that was not given before. -/
  fresh : pool.Fits → given.Pairwise fun earlier later =>
    later.directive.isShared = false → earlier.index ≠ later.index

theorem honours_empty : empty.Honours [] where
  wellFormed := wellFormed_empty
  denotes := List.forall_mem_nil _
  recalls := List.forall_mem_nil _
  isPrivate _ := List.forall_mem_nil _
  fresh _ := .nil

/-- A pool that is kept goes on to honour what it has given. -/
theorem Honours.keep (honours : before.Honours given) (wellFormed : after.WellFormed)
    (keeps : before.Keeps after) : after.Honours given where
  wellFormed := wellFormed
  denotes grant member table within := honours.denotes grant member table
    (keeps.continues.within within)
  recalls grant member shared := (honours.recalls grant member shared).keep keeps
  isPrivate fits grant member own := keeps.isPrivate honours.wellFormed.counted fits grant.index
    (honours.isPrivate (keeps.continues.fits fits) grant member own)
  fresh fits := honours.fresh (keeps.continues.fits fits)

theorem Honours.exists_constant (honours : pool.Honours given) (fits : pool.Fits) {grant : Grant}
    (member : grant ∈ given) :
    ∃ constant, pool.slots[grant.index.toNat]? = some constant ∧ constant ≠ .empty := by
  have denotes := honours.denotes grant member pool.slots.toArray ⟨fits, List.prefix_rfl⟩ []
  obtain ⟨constant, found, filled⟩ := denotes.exists_constant
  rw [List.getElem?_toArray] at found
  exact ⟨constant, found, filled⟩

theorem Honours.lt_length (honours : pool.Honours given) (fits : pool.Fits) {grant : Grant}
    (member : grant ∈ given) : grant.index.toNat < pool.slots.length := by
  obtain ⟨constant, found, -⟩ := honours.exists_constant fits member
  exact (List.getElem?_eq_some_iff.mp found).1

/-- A pool that is asked for a constant honours what it gives for it, too. -/
theorem Honours.ask {directive : Directive} {action : StateM PoolBuilder UInt16}
    (honours : pool.Honours given) (short : directive.IsShort)
    (asked : directive.request? = some action) :
    (action pool).2.Honours (given ++ [⟨directive, (action pool).1⟩]) := by
  obtain ⟨wellFormed, continues, denotes⟩ := grows_request short asked pool honours.wellFormed
  have keeps := Directive.preserves_request asked pool
  have old := honours.keep wellFormed keeps
  have behind : directive.isShared = false → (action pool).2.Fits →
      (action pool).2.IsPrivate (action pool).1 ∧ pool.slots.length ≤ (action pool).1.toNat := by
    intro own fits
    obtain ⟨name, rfl⟩ := Directive.exists_eq_duplicateClass asked own
    cases asked
    exact isPrivate_duplicateClass (List.forall_mem_singleton.mp short) honours.wellFormed fits
  refine ⟨wellFormed, ?_, ?_, ?_, ?_⟩
  · rw [List.forall_mem_append, List.forall_mem_singleton]
    exact ⟨old.denotes, denotes⟩
  · rw [List.forall_mem_append, List.forall_mem_singleton]
    refine ⟨old.recalls, fun shared => ?_⟩
    have shares := Directive.shares_request asked shared
    refine ⟨shares.shared pool, fun again asked' later keepsLater => ?_⟩
    rw [asked] at asked'
    cases asked'
    exact shares.recalls pool later keepsLater
  · intro fits
    rw [List.forall_mem_append, List.forall_mem_singleton]
    exact ⟨old.isPrivate fits, fun own => (behind own fits).1⟩
  · intro fits
    refine List.pairwise_append.mpr ⟨old.fresh fits, List.pairwise_singleton _ _, ?_⟩
    intro earlier member later last own same
    obtain rfl := List.mem_singleton.mp last
    -- All that was given before lies in front of the slot that is new.
    have inside := honours.lt_length (continues.fits fits) member
    rw [same] at inside
    exact absurd (behind own fits).2 (Nat.not_le_of_lt inside)

/-- The slots of a pool adjoin each other as those of a pool that was read. -/
theorem WellFormed.isChain_slots (wellFormed : pool.WellFormed) : pool.slots.IsChain Adjoins := by
  have taken := takes_slots wellFormed.writable 0 []
  exact isChain_of_slots taken (by simp [Constant.width])

theorem WellFormed.not_isSecondHalf (wellFormed : pool.WellFormed) {index : Nat}
    {constant : Constant} (found : pool.slots[index]? = some constant)
    (filled : constant ≠ .empty) : ¬IsSecondHalf pool.slots.toArray index := by
  rintro ⟨inside, front, wide, rfl, there, width⟩
  rw [List.getElem?_toArray] at there
  obtain ⟨_, rfl⟩ := List.getElem?_eq_some_iff.mp there
  obtain ⟨_, rfl⟩ := List.getElem?_eq_some_iff.mp found
  have adjoins := List.isChain_iff_getElem.mp wellFormed.isChain_slots front inside
  exact filled (adjoins.mpr width)

theorem WellFormed.countsEntries (wellFormed : pool.WellFormed) (fits : pool.Fits) :
    pool.CountsEntries := by
  have taken := Decoder.takes_times Constant.encode id
    fun constant member => takes_constant (wellFormed.writable constant member)
  rw [List.map_id] at taken
  refine ⟨pool.constants.toList, taken, rfl, ?_⟩
  rw [wellFormed.toNat_nextIndex fits, slots, List.length_cons, slotsOf, List.length_flatMap,
    Nat.add_comm]
  simp only [Constant.length_slots]

theorem Honours.holds (honours : pool.Honours given) (fits : pool.Fits) {grant : Grant}
    (member : grant ∈ given) : pool.Holds grant := by
  obtain ⟨constant, found, filled⟩ := honours.exists_constant fits member
  refine ⟨?_, ?_, honours.wellFormed.not_isSecondHalf found filled,
    honours.denotes grant member _ ⟨fits, List.prefix_rfl⟩⟩
  · by_contra first
    obtain hollow : grant.index.toNat = 0 := by omega
    rw [hollow] at found
    cases found
    exact filled rfl
  · rw [honours.wellFormed.toNat_nextIndex fits]
    exact honours.lt_length fits member

/-- Of two requests for shared constants, the answers are the same exactly if the requests are. -/
theorem Honours.index_eq_iff (honours : pool.Honours given) (fits : pool.Fits)
    {first second : Grant} (member : first ∈ given) (member' : second ∈ given)
    (shared : first.directive.isShared = true) (shared' : second.directive.isShared = true) :
    first.index = second.index ↔ first.directive = second.directive := by
  constructor
  · intro same
    have read := ((honours.holds fits member).denotes []).requestAt?_eq shared
    have read' := ((honours.holds fits member').denotes []).requestAt?_eq shared'
    rw [same, read'] at read
    exact (Option.some.inj read).symm
  · intro same
    obtain ⟨action, asked⟩ := Directive.exists_request_of_isShared shared
    have again := (honours.recalls first member shared).2 action asked pool (.refl pool)
    rw [same] at asked
    have again' := (honours.recalls second member' shared').2 action asked pool (.refl pool)
    rw [again] at again'
    exact congrArg Prod.fst again'

theorem Honours.index_ne_of_isPrivate (honours : pool.Honours given) (fits : pool.Fits)
    {first second : Grant} (member : first ∈ given) (member' : second ∈ given)
    (own : first.directive.isShared = false) (shared : second.directive.isShared = true) :
    first.index ≠ second.index := by
  obtain ⟨⟨constant, known⟩, -⟩ := honours.recalls second member' shared
  obtain ⟨front, back, shared_eq, -⟩ := List.lookup_eq_some_iff.mp known
  have entry : (constant, second.index) ∈ pool.shared := by simp [shared_eq]
  exact ((honours.isPrivate fits first member own).apart _ entry).symm

theorem Honours.settled (honours : pool.Honours given) (fits : pool.Fits) :
    Settled pool given where
  counted := honours.wellFormed.countsEntries fits
  holds _ := honours.holds fits
  unique _ member _ member' := honours.index_eq_iff fits member member'
  apart := by
    refine (honours.fresh fits).imp_of_mem fun {earlier later} member member' fresh different => ?_
    cases shared : later.directive.isShared with
    | false => exact fresh shared
    | true =>
        rw [shared, Bool.and_true] at different
        exact honours.index_ne_of_isPrivate fits member member' different shared

end PoolBuilder

/-! ## Following directives -/

theorem grantsOf_cons (directive : Directive) (directives : List Directive) (answer : Option UInt16)
    (answers : List (Option UInt16)) :
    grantsOf (directive :: directives) (answer :: answers) =
      (directive.grant? answer).toList ++ grantsOf directives answers := by
  rw [grantsOf, List.zipWith_cons_cons]
  cases directive.grant? answer with
  | none => rfl
  | some grant => rfl

namespace Builder

variable {builder : Builder} {directive : Directive} {given : List Grant}

theorem grant?_of_request {action : StateM PoolBuilder UInt16}
    (asked : directive.request? = some action) :
    directive.grant? (follow directive builder).1 =
      some ⟨directive, (action builder.pool).1⟩ := by
  rw [follow_of_request asked, Directive.grant?, Directive.asksConstant, asked]
  rfl

theorem grant?_of_no_request (silent : directive.request? = none) (answer : Option UInt16) :
    directive.grant? answer = none := by
  rw [Directive.grant?, Directive.asksConstant, silent]
  rfl

/-- A directive makes the pool honour what it gives, if it asks for a constant. -/
theorem honours_follow (honours : builder.pool.Honours given) (short : directive.IsShort) :
    (follow directive builder).2.pool.Honours
      (given ++ (directive.grant? (follow directive builder).1).toList) := by
  cases asked : directive.request? with
  | some action =>
      rw [grant?_of_request asked, follow_of_request asked]
      exact honours.ask short asked
  | none =>
      have wellFormed := (step_follow honours.wellFormed short).wellFormed
      rw [grant?_of_no_request asked, Option.toList_none, List.append_nil]
      refine honours.keep wellFormed ?_
      cases directive with
      | bootstrapMethod handleIndex arguments => exact .refl builder.pool
      | method access name descriptor code =>
          exact preserves_methodOf access name descriptor code builder.pool
      | _ => contradiction

theorem honours_followAll {directives : List Directive} (honours : builder.pool.Honours given)
    (short : ∀ directive ∈ directives, directive.IsShort) :
    (followAll directives builder).2.pool.Honours
      (given ++ grantsOf directives (followAll directives builder).1) := by
  induction directives generalizing builder given with
  | nil =>
      rw [grantsOf, List.zipWith_nil_left, List.filterMap_nil, List.append_nil]
      exact honours
  | cons directive directives ih =>
      obtain ⟨first, rest⟩ := List.forall_mem_cons.mp short
      rw [followAll_cons, grantsOf_cons, ← List.append_assoc]
      exact ih (honours_follow honours first) rest

/-- A class that is written asks for the name of the attribute that holds its bootstrap methods. -/
theorem honours_attributes (honours : builder.pool.Honours given) :
    builder.attributes.2.Honours (given ++ builder.closingGrants) := by
  by_cases none : builder.bootstrapMethods.isEmpty
  · have attributes_eq : builder.attributes = (word 0, builder.pool) := if_pos none
    rw [attributes_eq, closingGrants, if_pos none, List.append_nil]
    exact honours
  · have short : (Directive.utf8 "BootstrapMethods").IsShort :=
      List.forall_mem_singleton.mpr (by decide)
    have pool_eq : builder.attributes.2 =
        (PoolBuilder.utf8 "BootstrapMethods" builder.pool).2 := by
      rw [attributes, if_neg none]
      rfl
    rw [pool_eq, closingGrants, if_neg none]
    exact honours.ask short rfl

theorem map_directive_grantsOf (directives : List Directive) (builder : Builder) :
    (grantsOf directives (followAll directives builder).1).map Grant.directive =
      directives.filter Directive.asksConstant := by
  induction directives generalizing builder with
  | nil => rfl
  | cons directive directives ih =>
      rw [followAll_cons, grantsOf_cons, List.map_append, ih]
      cases asked : directive.request? with
      | none =>
          rw [grant?_of_no_request asked, List.filter_cons_of_neg (by
            simp [Directive.asksConstant, asked])]
          rfl
      | some action =>
          rw [grant?_of_request asked, List.filter_cons_of_pos (by
            simp [Directive.asksConstant, asked])]
          rfl

/-- What was given stays given when more directives follow. -/
theorem grantsOf_prefix (directives later : List Directive) (builder : Builder) :
    grantsOf directives (followAll directives builder).1 <+:
      grantsOf (directives ++ later) (followAll (directives ++ later) builder).1 := by
  induction directives generalizing builder with
  | nil => exact List.nil_prefix
  | cons directive directives ih =>
      rw [List.cons_append, followAll_cons, followAll_cons, grantsOf_cons, grantsOf_cons]
      exact (List.prefix_append_right_inj _).mpr (ih _)

end Builder

variable {name : String} {directives : List Directive}

theorem honours_start (short : Short name) :
    (Builder.start name).pool.Honours
      [⟨.classInfo name, (Builder.start name).thisClass⟩,
        ⟨.classInfo "java/lang/Object", (Builder.start name).superClass⟩] :=
  have shortName : (Directive.classInfo name).IsShort := List.forall_mem_singleton.mpr short
  have shortSuper : (Directive.classInfo "java/lang/Object").IsShort :=
    List.forall_mem_singleton.mpr (by decide)
  (PoolBuilder.honours_empty.ask shortName rfl).ask shortSuper rfl

theorem honours_finished (short : Short name)
    (shortTexts : ∀ directive ∈ directives, directive.IsShort) :
    (finished name directives).pool.Honours (grants name directives) :=
  Builder.honours_followAll (honours_start short) shortTexts

/-- The indices of a class are stable and unique, as long as they are not used up. -/
structure IndicesSettled (name : String) (directives : List Directive) : Prop where
  /-- Every request for a constant is given an index. -/
  answered : (grants name directives).map Grant.directive =
    (opening name ++ directives).filter Directive.asksConstant
  /-- The indices are settled as long as directives may follow. -/
  followed : (finished name directives).pool.Fits →
    Settled (finished name directives).pool (grants name directives)
  /-- They are settled in the class that is written. -/
  written : (finished name directives).attributes.2.Fits →
    Settled (finished name directives).attributes.2
      (grants name directives ++ (finished name directives).closingGrants)
  /-- Whatever follows, what was given stays given and stands for what was asked for. -/
  stable : ∀ later : List Directive, (∀ directive ∈ later, directive.IsShort) →
    grants name directives <+: grants name (directives ++ later) ∧
      ∀ pool ∈ [(finished name (directives ++ later)).pool,
          (finished name (directives ++ later)).attributes.2],
        pool.Fits → ∀ grant ∈ grants name directives, pool.Holds grant

/-- Directives whose texts are short are given stable and unique indices for the constants that
they ask for. -/
theorem indicesSettled_of_isShort (short : Short name)
    (shortTexts : ∀ directive ∈ directives, directive.IsShort) :
    IndicesSettled name directives where
  answered := by
    rw [List.filter_append, ← Builder.map_directive_grantsOf directives (.start name)]
    rfl
  followed := (honours_finished short shortTexts).settled
  written := (Builder.honours_attributes (honours_finished short shortTexts)).settled
  stable later shortLater := by
    have kept : grants name directives <+: grants name (directives ++ later) :=
      (List.prefix_append_right_inj [_, _]).mpr
        (Builder.grantsOf_prefix directives later (.start name))
    have honours : (finished name (directives ++ later)).pool.Honours
        (grants name (directives ++ later)) :=
      honours_finished short (List.forall_mem_append.mpr ⟨shortTexts, shortLater⟩)
    refine ⟨kept, ?_⟩
    rw [List.forall_mem_cons, List.forall_mem_singleton]
    refine ⟨fun fits grant member => honours.holds fits (kept.subset member), ?_⟩
    exact fun fits grant member => (Builder.honours_attributes honours).holds fits
      (List.mem_append_left _ (kept.subset member))

theorem indicesSettled_linkedCalls :
    (finished "pkg/A" linkedCalls).attributes.2.Fits ∧
      (grants "pkg/A" linkedCalls).map Grant.index = [2, 4, 10, 11, 12, 16, 17] ∧
      Settled (finished "pkg/A" linkedCalls).attributes.2
        (grants "pkg/A" linkedCalls ++ (finished "pkg/A" linkedCalls).closingGrants) := by
  have settled := indicesSettled_of_isShort assemblable_linkedCalls.short fun directive member =>
    (assemblable_linkedCalls.fits directive member).isShort
  have fits := assemblable_linkedCalls.indexed
  exact ⟨fits, by decide +kernel, settled.written fits⟩

end Assembler

end CallGraph
