import CallGraph.Fallible
import CallGraph.JavaType.Descriptor
import Mathlib.Data.List.TakeWhile

/-!
# Descriptors that were spelled

A type is spelled by its dimensions and by what it is an array of, which is no array itself.  Every
spelling ends itself: it is read back whatever stands behind it, and no part of it is taken for the
whole.  A method is read back as the types that it was spelled with, and what is shown of it is the
source forms of these types.  Only the number of dimensions is limited; one array that has too many
of them refuses the whole method.
-/

namespace CallGraph

/-- A type that is no array.  The name of a class is any text that holds no semicolon. -/
inductive ElementType where
  | primitive (type : Primitive)
  | object (internalName : String) (whole : ';' ∉ internalName.toList)

namespace ElementType

/-- A letter, or a name between its marks. -/
def descriptor : ElementType → List Char
  | primitive type => [type.letter]
  | object internalName _ => 'L' :: internalName.toList ++ [';']

/-- The keyword, or the dotted name. -/
def sourceForm : ElementType → String
  | primitive type => type.keyword
  | object internalName _ => dotted internalName

/-- The type itself. -/
def toJavaType : ElementType → JavaType
  | primitive type => .primitive type
  | object internalName _ => .object internalName

end ElementType

/-- A type with any number of dimensions; without dimensions it is no array. -/
structure DimensionedType where
  element : ElementType
  dimensions : Nat

namespace DimensionedType

/-- One bracket per dimension, and the element type. -/
def descriptor (type : DimensionedType) : List Char :=
  List.replicate type.dimensions '[' ++ type.element.descriptor

/-- The element type, and one pair of brackets per dimension. -/
def sourceForm (type : DimensionedType) : String :=
  type.element.sourceForm ++ String.join (List.replicate type.dimensions "[]")

/-- The type, which is an array if it has dimensions. -/
def toJavaType (type : DimensionedType) : JavaType :=
  if type.dimensions = 0 then type.element.toJavaType
  else .array type.element.toJavaType (UInt8.ofNat type.dimensions)

end DimensionedType

/-- The letters of the descriptor of a method with these parameters and this result. -/
def methodSpelling (parameters : List DimensionedType) (result : DimensionedType) : List Char :=
  '(' :: parameters.flatMap DimensionedType.descriptor ++ ')' :: result.descriptor

/-- The descriptor of a method with these parameters and this result. -/
def methodDescriptor (parameters : List DimensionedType) (result : DimensionedType) : String :=
  String.ofList (methodSpelling parameters result)

theorem toList_join_replicate (count : Nat) :
    (String.join (List.replicate count "[]")).toList = JavaType.brackets count := by
  induction count with
  | zero => rfl
  | succ count ih =>
      rw [List.replicate_succ, String.join_cons, String.toList_append, ih]
      rfl

theorem DimensionedType.sourceForm_toJavaType (type : DimensionedType)
    (short : type.dimensions ≤ 255) : type.toJavaType.sourceForm = type.sourceForm := by
  have element : type.element.toJavaType.sourceChars = type.element.sourceForm.toList := by
    cases type.element <;> rfl
  apply String.toList_injective
  rw [JavaType.toList_sourceForm, sourceForm, String.toList_append, toList_join_replicate,
    toJavaType]
  by_cases none : type.dimensions = 0
  · rw [if_pos none, none, element]
    exact (List.append_nil _).symm
  · have kept : (UInt8.ofNat type.dimensions).toNat = type.dimensions :=
      UInt8.toNat_ofNat_of_lt' (Nat.lt_succ_of_le short)
    rw [if_neg none, JavaType.sourceChars, element, kept]

namespace Descriptor

variable {chars rest : List Char}

theorem readName_append {name : String} (whole : ';' ∉ name.toList) (rest : List Char) :
    readName (name.toList ++ ';' :: rest) = .ok (name, rest) := by
  have inside : ∀ letter ∈ name.toList, (letter != ';') = true := by
    intro letter member
    rw [bne_iff_ne]
    rintro rfl
    exact whole member
  rw [readName, List.dropWhile_append_of_pos inside, List.takeWhile_append_of_pos inside]
  simp

theorem readScalar_descriptor (element : ElementType) (rest : List Char) :
    readScalar (element.descriptor ++ rest) = .ok (some element.toJavaType, rest) := by
  cases element with
  | primitive type => cases type <;> rfl
  | object internalName whole =>
      have named := readName_append whole rest
      rw [ElementType.descriptor, List.append_assoc, List.singleton_append, List.cons_append,
        readScalar, named]
      rfl

/-- An element type begins with a letter that is no bracket. -/
theorem exists_descriptor_eq_cons (element : ElementType) :
    ∃ letter letters, element.descriptor = letter :: letters ∧ letter ≠ '[' := by
  cases element with
  | primitive type => exact ⟨type.letter, [], rfl, by cases type <;> decide⟩
  | object internalName whole => exact ⟨'L', internalName.toList ++ [';'], rfl, by decide⟩

/-- The brackets in front of an element type are all there are. -/
theorem span_brackets (count : Nat) (element : ElementType) (rest : List Char) :
    (List.replicate count '[' ++ (element.descriptor ++ rest)).takeWhile (· == '[') =
        List.replicate count '[' ∧
      (List.replicate count '[' ++ (element.descriptor ++ rest)).dropWhile (· == '[') =
        element.descriptor ++ rest := by
  have brackets : ∀ letter ∈ List.replicate count '[', (letter == '[') = true := by
    intro letter member
    rw [List.eq_of_mem_replicate member]
    rfl
  obtain ⟨letter, letters, descriptor_eq, other⟩ := exists_descriptor_eq_cons element
  rw [List.takeWhile_append_of_pos brackets, List.dropWhile_append_of_pos brackets, descriptor_eq,
    List.cons_append, List.takeWhile_cons_of_neg (by simpa using other),
    List.dropWhile_cons_of_neg (by simpa using other), List.append_nil]
  exact ⟨rfl, rfl⟩

theorem readType_descriptor {type : DimensionedType} (short : type.dimensions ≤ 255)
    (rest : List Char) :
    readType (type.descriptor ++ rest) = .ok (some type.toJavaType, rest) := by
  obtain ⟨brackets, element⟩ := span_brackets type.dimensions type.element rest
  rw [readType, DimensionedType.descriptor, List.append_assoc, brackets, element,
    List.length_replicate, DimensionedType.toJavaType]
  by_cases none : type.dimensions = 0
  · rw [if_pos none, if_pos none, none]
    exact readScalar_descriptor type.element rest
  · simp only [if_neg none, if_neg (Nat.not_lt_of_le short), readScalar_descriptor]

/-- An array of too many dimensions is refused, whatever it is an array of. -/
theorem readType_of_many_dimensions {type : DimensionedType} (long : 255 < type.dimensions)
    (rest : List Char) :
    readType (type.descriptor ++ rest) = .error .tooManyDimensions := by
  obtain ⟨brackets, -⟩ := span_brackets type.dimensions type.element rest
  have some : type.dimensions ≠ 0 := Nat.ne_of_gt (Nat.lt_trans (by decide) long)
  simp only [readType, DimensionedType.descriptor, List.append_assoc, brackets,
    List.length_replicate, if_neg some, if_pos long]

theorem readType_closing (rest : List Char) : readType (')' :: rest) = .ok (none, rest) :=
  rfl

theorem readParameters_of_none (read : readType chars = .ok (none, rest)) :
    readParameters chars = .ok ([], rest) := by
  rw [readParameters]
  split
  all_goals grind

theorem readParameters_of_some {type : JavaType} (read : readType chars = .ok (some type, rest)) :
    readParameters chars =
      (readParameters rest).map fun later => (type :: later.1, later.2) := by
  rw [readParameters]
  split
  · grind
  · grind
  · next found =>
    rw [read] at found
    cases found
    cases readParameters rest <;> rfl

theorem readParameters_of_error {fault : Fault} (failed : readType chars = .error fault) :
    readParameters chars = .error fault := by
  rw [readParameters]
  split
  all_goals grind

theorem readParameters_descriptors {parameters : List DimensionedType}
    (short : ∀ type ∈ parameters, type.dimensions ≤ 255) (rest : List Char) :
    readParameters (parameters.flatMap DimensionedType.descriptor ++ ')' :: rest) =
      .ok (parameters.map DimensionedType.toJavaType, rest) := by
  induction parameters with
  | nil => exact readParameters_of_none (readType_closing rest)
  | cons type parameters ih =>
      obtain ⟨first, later⟩ := List.forall_mem_cons.mp short
      rw [List.flatMap_cons, List.append_assoc,
        readParameters_of_some (readType_descriptor first _), ih later]
      rfl

/-- One parameter with too many dimensions refuses all of them. -/
theorem readParameters_of_many_dimensions {parameters : List DimensionedType}
    (long : ∃ type ∈ parameters, 255 < type.dimensions) (rest : List Char) :
    readParameters (parameters.flatMap DimensionedType.descriptor ++ ')' :: rest) =
      .error .tooManyDimensions := by
  induction parameters with
  | nil => simp at long
  | cons type parameters ih =>
      rw [List.flatMap_cons, List.append_assoc]
      by_cases first : 255 < type.dimensions
      · exact readParameters_of_error (readType_of_many_dimensions first _)
      · have later : ∃ type ∈ parameters, 255 < type.dimensions := by
          obtain ⟨other, member, long⟩ := long
          rcases List.mem_cons.mp member with rfl | member
          · exact absurd long first
          · exact ⟨other, member, long⟩
        rw [readParameters_of_some (readType_descriptor (Nat.le_of_not_lt first) _), ih later]
        rfl

/-- A method is read back, and what follows it is not looked at. -/
theorem readMethod_append {parameters : List DimensionedType} {result : DimensionedType}
    (short : ∀ type ∈ result :: parameters, type.dimensions ≤ 255) (rest : List Char) :
    readMethod (methodSpelling parameters result ++ rest) =
      .ok ⟨parameters.map DimensionedType.toJavaType, result.toJavaType⟩ := by
  obtain ⟨shortResult, shortParameters⟩ := List.forall_mem_cons.mp short
  simp only [methodSpelling, List.cons_append, List.append_assoc, readMethod,
    readParameters_descriptors shortParameters, readType_descriptor shortResult]

theorem readMethod_of_many_dimensions {parameters : List DimensionedType}
    {result : DimensionedType} (long : ∃ type ∈ result :: parameters, 255 < type.dimensions) :
    readMethod (methodSpelling parameters result) = .error .tooManyDimensions := by
  by_cases inParameters : ∃ type ∈ parameters, 255 < type.dimensions
  · simp only [methodSpelling, List.cons_append, readMethod,
      readParameters_of_many_dimensions inParameters]
  · have short : ∀ type ∈ parameters, type.dimensions ≤ 255 := fun type member =>
      Nat.le_of_not_lt fun long => inParameters ⟨type, member, long⟩
    have inResult : 255 < result.dimensions := by
      obtain ⟨type, member, long⟩ := long
      rcases List.mem_cons.mp member with rfl | member
      · exact long
      · exact absurd ⟨type, member, long⟩ inParameters
    have refused := readType_of_many_dimensions inResult []
    rw [List.append_nil] at refused
    simp only [methodSpelling, List.cons_append, readMethod, readParameters_descriptors short,
      refused]

/-! ## What was read had been spelled -/

theorem eq_append_of_readName {name : String} (read : readName chars = .ok (name, rest)) :
    ';' ∉ name.toList ∧ chars = name.toList ++ ';' :: rest := by
  have whole : chars.takeWhile (· != ';') ++ chars.dropWhile (· != ';') = chars :=
    List.takeWhile_append_dropWhile
  have stops := List.head?_dropWhile_not (· != ';') chars
  rw [readName] at read
  cases found : chars.dropWhile (· != ';') with
  | nil =>
      rw [found] at read
      contradiction
  | cons semicolon later =>
      rw [found] at read stops whole
      cases read
      obtain rfl : semicolon = ';' := by simpa using stops
      rw [String.toList_ofList]
      refine ⟨fun member => ?_, whole.symm⟩
      simpa using List.mem_takeWhile_imp member

theorem eq_letter_of_ofLetter? {letter : Char} {type : Primitive}
    (known : Primitive.ofLetter? letter = some type) : letter = type.letter := by
  unfold Primitive.ofLetter? at known
  split at known <;> cases known <;> rfl

/-- What is read as a type that is no array is the descriptor of such a type. -/
theorem exists_elementType_of_readScalar {type : JavaType}
    (read : readScalar chars = .ok (some type, rest)) :
    ∃ element : ElementType, element.toJavaType = type ∧ chars = element.descriptor ++ rest := by
  unfold readScalar at read
  split at read
  · contradiction
  · split at read
    · contradiction
    · next name later named =>
      cases read
      obtain ⟨whole, rfl⟩ := eq_append_of_readName named
      refine ⟨.object name whole, rfl, ?_⟩
      simp [ElementType.descriptor]
  · cases read
  · split at read
    · next letter later _ _ primitive known =>
      cases read
      exact ⟨.primitive primitive, rfl, by rw [eq_letter_of_ofLetter? known]; rfl⟩
    · contradiction

theorem eq_cons_of_readScalar (read : readScalar chars = .ok (none, rest)) :
    chars = ')' :: rest := by
  unfold readScalar at read
  split at read
  · contradiction
  · split at read <;> cases read
  · cases read
    rfl
  · split at read <;> cases read

theorem replicate_append_dropWhile (chars : List Char) :
    List.replicate (chars.takeWhile (· == '[')).length '[' ++ chars.dropWhile (· == '[') =
      chars := by
  have brackets : chars.takeWhile (· == '[') =
      List.replicate (chars.takeWhile (· == '[')).length '[' := by
    apply List.eq_replicate_of_mem
    intro letter member
    simpa using List.mem_takeWhile_imp member
  rw [← brackets]
  exact List.takeWhile_append_dropWhile

theorem exists_dimensionedType_of_readType {type : JavaType}
    (read : readType chars = .ok (some type, rest)) :
    ∃ spelled : DimensionedType, spelled.dimensions ≤ 255 ∧ spelled.toJavaType = type ∧
      chars = spelled.descriptor ++ rest := by
  have split_eq := replicate_append_dropWhile chars
  rw [readType] at read
  split at read
  · next none =>
    obtain ⟨element, rfl, rfl⟩ := exists_elementType_of_readScalar read
    exact ⟨⟨element, 0⟩, Nat.zero_le _, rfl, rfl⟩
  · next some =>
    split at read
    · contradiction
    · next short =>
      split at read
      · contradiction
      · contradiction
      · next inner later scalar =>
        cases read
        obtain ⟨element, rfl, behind⟩ := exists_elementType_of_readScalar scalar
        refine ⟨⟨element, _⟩, Nat.le_of_not_lt short, if_neg some, ?_⟩
        rw [DimensionedType.descriptor, List.append_assoc, ← behind, split_eq]

theorem eq_cons_of_readType (read : readType chars = .ok (none, rest)) : chars = ')' :: rest := by
  rw [readType] at read
  split at read
  · exact eq_cons_of_readScalar read
  · split at read
    · contradiction
    · split at read <;> cases read

/-- What is read as parameters is their descriptors and a closing parenthesis. -/
theorem exists_dimensionedTypes_of_readParameters {parameters : List JavaType}
    (read : readParameters chars = .ok (parameters, rest)) :
    ∃ spelled : List DimensionedType, (∀ type ∈ spelled, type.dimensions ≤ 255) ∧
      spelled.map DimensionedType.toJavaType = parameters ∧
        chars = spelled.flatMap DimensionedType.descriptor ++ ')' :: rest := by
  induction chars using readParameters.induct generalizing parameters with
  | case1 chars fault failed =>
      rw [readParameters_of_error failed] at read
      contradiction
  | case2 chars later closed =>
      rw [readParameters_of_none closed] at read
      cases read
      exact ⟨[], List.forall_mem_nil _, rfl, eq_cons_of_readType closed⟩
  | case3 chars type later first fault failed _ =>
      rw [readParameters_of_some first, failed] at read
      contradiction
  | case4 chars type later first types left _ ih =>
      rw [readParameters_of_some first] at read
      obtain ⟨⟨others, left⟩, found, made⟩ := Fallible.map_eq_ok_iff.mp read
      cases made
      obtain ⟨spelled, short, rfl, rfl⟩ := ih found
      obtain ⟨one, oneShort, rfl, rfl⟩ := exists_dimensionedType_of_readType first
      refine ⟨one :: spelled, List.forall_mem_cons.mpr ⟨oneShort, short⟩, rfl, ?_⟩
      rw [List.flatMap_cons, List.append_assoc]

/-- A text is read as a method if and only if it begins with the descriptor of one. -/
theorem readMethod_eq_ok_iff {type : MethodType} :
    readMethod chars = .ok type ↔
      ∃ parameters result rest, (∀ type ∈ result :: parameters, type.dimensions ≤ 255) ∧
        type = ⟨parameters.map DimensionedType.toJavaType, result.toJavaType⟩ ∧
          chars = methodSpelling parameters result ++ rest := by
  constructor
  · intro read
    unfold readMethod at read
    split at read
    · split at read
      · contradiction
      · next parameters later first =>
        split at read
        · contradiction
        · contradiction
        · next result rest second =>
          cases read
          obtain ⟨spelled, short, rfl, rfl⟩ := exists_dimensionedTypes_of_readParameters first
          obtain ⟨one, oneShort, rfl, rfl⟩ := exists_dimensionedType_of_readType second
          refine ⟨spelled, one, rest, List.forall_mem_cons.mpr ⟨oneShort, short⟩, rfl, ?_⟩
          simp [methodSpelling]
    · contradiction
  · rintro ⟨parameters, result, rest, short, rfl, rfl⟩
    exact readMethod_append short rest

/-- Nothing stands between a descriptor and the end of a longer one. -/
theorem eq_nil_of_methodSpelling_append {parameters others : List DimensionedType}
    {result other : DimensionedType}
    (short : ∀ type ∈ result :: parameters, type.dimensions ≤ 255)
    (shortToo : ∀ type ∈ other :: others, type.dimensions ≤ 255)
    (same : methodSpelling parameters result ++ rest = methodSpelling others other) :
    rest = [] := by
  obtain ⟨shortResult, shortParameters⟩ := List.forall_mem_cons.mp short
  obtain ⟨shortOther, shortOthers⟩ := List.forall_mem_cons.mp shortToo
  simp only [methodSpelling, List.cons_append, List.append_assoc, List.cons.injEq, true_and]
    at same
  have first := readParameters_descriptors shortParameters (result.descriptor ++ rest)
  rw [same, readParameters_descriptors shortOthers, Except.ok.injEq, Prod.mk.injEq] at first
  have second := readType_descriptor shortResult rest
  rw [← first.2, ← List.append_nil other.descriptor, readType_descriptor shortOther,
    Except.ok.injEq, Prod.mk.injEq] at second
  exact second.2.symm

/-! ## What is shown of a descriptor -/

variable {parameters : List DimensionedType} {result : DimensionedType}

theorem methodType_methodDescriptor
    (short : ∀ type ∈ result :: parameters, type.dimensions ≤ 255) :
    methodType (methodDescriptor parameters result) =
      .ok ⟨parameters.map DimensionedType.toJavaType, result.toJavaType⟩ := by
  have read := readMethod_append short []
  rw [List.append_nil] at read
  rw [methodType, methodDescriptor, String.toList_ofList, read]
  rfl

theorem methodType_of_many_dimensions
    (long : ∃ type ∈ result :: parameters, 255 < type.dimensions) :
    methodType (methodDescriptor parameters result) =
      .error ⟨.method, methodDescriptor parameters result, .tooManyDimensions⟩ := by
  rw [methodType, methodDescriptor, String.toList_ofList, readMethod_of_many_dimensions long]
  rfl

/-- No part of a descriptor that lacks something at its end is a descriptor. -/
theorem exists_methodType_eq_error {front more : String}
    (short : ∀ type ∈ result :: parameters, type.dimensions ≤ 255)
    (split_eq : front ++ more = methodDescriptor parameters result) (lacking : more ≠ "") :
    ∃ cause, methodType front = .error ⟨.method, front, cause⟩ := by
  rw [methodType]
  cases read : readMethod front.toList with
  | error cause => exact ⟨cause, rfl⟩
  | ok type =>
      obtain ⟨others, other, rest, shortToo, -, front_eq⟩ := readMethod_eq_ok_iff.mp read
      have letters := congrArg String.toList split_eq
      rw [String.toList_append, front_eq, methodDescriptor, String.toList_ofList,
        List.append_assoc] at letters
      have nothing := eq_nil_of_methodSpelling_append shortToo short letters
      exact absurd (String.toList_eq_nil_iff.mp (List.append_eq_nil_iff.mp nothing).2) lacking

theorem classDisplayName_of_array {text : String} {type : JavaType}
    (array : text.toList.head? = some '[') (read : readType text.toList = .ok (some type, rest)) :
    classDisplayName text = .ok type.sourceForm := by
  obtain ⟨letters, text_eq⟩ := List.head?_eq_some_iff.mp array
  simp only [classDisplayName, text_eq] at read ⊢
  rw [read]

theorem classDisplayName_of_refused {text : String} {fault : Fault}
    (array : text.toList.head? = some '[') (refused : readType text.toList = .error fault) :
    classDisplayName text = .error ⟨.arrayClass, text, fault⟩ := by
  obtain ⟨letters, text_eq⟩ := List.head?_eq_some_iff.mp array
  simp only [classDisplayName, text_eq] at refused ⊢
  rw [refused]

/-- An array class is shown like a parameter of its type, unless it has too many dimensions. -/
theorem classDisplayName_descriptor (type : DimensionedType) (isArray : 0 < type.dimensions) :
    classDisplayName (String.ofList type.descriptor) =
      if type.dimensions ≤ 255 then .ok type.sourceForm
      else .error ⟨.arrayClass, String.ofList type.descriptor, .tooManyDimensions⟩ := by
  have array : (String.ofList type.descriptor).toList.head? = some '[' := by
    obtain ⟨count, count_eq⟩ := Nat.exists_eq_succ_of_ne_zero (Nat.ne_of_gt isArray)
    rw [String.toList_ofList, DimensionedType.descriptor, count_eq, List.replicate_succ]
    rfl
  have letters : (String.ofList type.descriptor).toList = type.descriptor ++ [] := by
    rw [String.toList_ofList, List.append_nil]
  by_cases short : type.dimensions ≤ 255
  · have read := readType_descriptor short []
    rw [← letters] at read
    rw [if_pos short, classDisplayName_of_array array read, type.sourceForm_toJavaType short]
  · have refused := readType_of_many_dimensions (Nat.lt_of_not_le short) []
    rw [← letters] at refused
    rw [if_neg short, classDisplayName_of_refused array refused]

/-- What is shown of a descriptor are the source forms of the types that it was spelled with.
Where a type has more than 255 dimensions, and where the descriptor is cut off, the refusal names
the text and its cause. -/
theorem sourceForms_methodDescriptor (parameters : List DimensionedType)
    (result : DimensionedType) :
    ((∀ type ∈ result :: parameters, type.dimensions ≤ 255) →
      argumentTypes (methodDescriptor parameters result) =
          .ok (parameters.map DimensionedType.sourceForm) ∧
        returnType (methodDescriptor parameters result) = .ok result.sourceForm ∧
        ∀ front more : String, front ++ more = methodDescriptor parameters result → more ≠ "" →
          ∃ cause, argumentTypes front = .error ⟨.method, front, cause⟩ ∧
            returnType front = .error ⟨.method, front, cause⟩) ∧
    ((∃ type ∈ result :: parameters, 255 < type.dimensions) →
      argumentTypes (methodDescriptor parameters result) =
          .error ⟨.method, methodDescriptor parameters result, .tooManyDimensions⟩ ∧
        returnType (methodDescriptor parameters result) =
          .error ⟨.method, methodDescriptor parameters result, .tooManyDimensions⟩) ∧
    ∀ type : DimensionedType, 0 < type.dimensions →
      classDisplayName (String.ofList type.descriptor) =
        if type.dimensions ≤ 255 then .ok type.sourceForm
        else .error ⟨.arrayClass, String.ofList type.descriptor, .tooManyDimensions⟩ := by
  refine ⟨fun short => ?_, fun long => ?_, classDisplayName_descriptor⟩
  · have sourceForms : (parameters.map DimensionedType.toJavaType).map JavaType.sourceForm =
        parameters.map DimensionedType.sourceForm := by
      rw [List.map_map]
      exact List.map_congr_left fun type member =>
        type.sourceForm_toJavaType (short type (List.mem_cons_of_mem result member))
    refine ⟨?_, ?_, ?_⟩
    · rw [argumentTypes, methodType_methodDescriptor short, Except.map, sourceForms]
    · rw [returnType, methodType_methodDescriptor short, Except.map,
        result.sourceForm_toJavaType (short result List.mem_cons_self)]
    · intro front more split_eq lacking
      obtain ⟨cause, refused⟩ := exists_methodType_eq_error short split_eq lacking
      exact ⟨cause, by rw [argumentTypes, refused]; rfl, by rw [returnType, refused]; rfl⟩
  · have refused := methodType_of_many_dimensions long
    exact ⟨by rw [argumentTypes, refused]; rfl, by rw [returnType, refused]; rfl⟩

/-- A number, an array of numbers, and a matrix of a class whose name holds the other marks of
descriptors. -/
def markedParameters : List DimensionedType :=
  [⟨.primitive .int, 0⟩, ⟨.primitive .long, 1⟩, ⟨.object "a/(V)[" (by decide), 2⟩]

theorem sourceForms_methodDescriptor_marked :
    methodDescriptor markedParameters ⟨.primitive .void, 0⟩ = "(I[J[[La/(V)[;)V" ∧
      argumentTypes "(I[J[[La/(V)[;)V" = .ok ["int", "long[]", "a.(V)[[][]"] ∧
      returnType "(I[J[[La/(V)[;)V" = .ok "void" ∧
      (∃ cause, argumentTypes "(I[J[[La/(V)" = .error ⟨.method, "(I[J[[La/(V)", cause⟩) ∧
      classDisplayName "[J" = .ok "long[]" ∧
      ∃ text, argumentTypes text = .error ⟨.method, text, .tooManyDimensions⟩ := by
  have spelled : methodDescriptor markedParameters ⟨.primitive .void, 0⟩ =
      "(I[J[[La/(V)[;)V" := by decide
  have short : ∀ type ∈ ⟨.primitive .void, 0⟩ :: markedParameters, type.dimensions ≤ 255 := by
    simp [markedParameters]
  have sourceForms : markedParameters.map DimensionedType.sourceForm =
      ["int", "long[]", "a.(V)[[][]"] := by decide +kernel
  obtain ⟨shown, -, array⟩ := sourceForms_methodDescriptor markedParameters ⟨.primitive .void, 0⟩
  obtain ⟨arguments, result, cut⟩ := shown short
  obtain ⟨-, long, -⟩ := sourceForms_methodDescriptor [⟨.primitive .int, 256⟩] ⟨.primitive .int, 0⟩
  rw [spelled] at arguments result cut
  rw [sourceForms] at arguments
  obtain ⟨cause, refused, -⟩ := cut "(I[J[[La/(V)" "[;)V" (by decide) (by decide)
  have longs := array ⟨.primitive .long, 1⟩ (by decide)
  refine ⟨spelled, arguments, result, ⟨cause, refused⟩, longs, _, (long ?_).1⟩
  exact ⟨_, List.mem_cons_of_mem _ List.mem_cons_self, by decide⟩

end Descriptor

end CallGraph
