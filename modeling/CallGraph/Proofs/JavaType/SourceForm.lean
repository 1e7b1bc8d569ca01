import CallGraph.Proofs.JavaType.Descriptor

/-!
# Types that are known by their source forms

A source form gives its type away as long as the name of the class is no keyword and holds neither
a dot nor a bracket: the brackets count the dimensions, and what stands in front of them is either a
keyword or a name in which every dot was a slash.  So methods whose parameters have different types
are shown with different argument types, and overloads of a method stay apart.
-/

namespace CallGraph

/-- A name of a class that is no keyword and holds none of the marks of source forms. -/
structure IsPlainName (name : String) : Prop where
  noDot : '.' ∉ name.toList
  noBracket : '[' ∉ name.toList
  noKeyword : ∀ type : Primitive, name ≠ type.keyword

theorem dotted_eq_self {name : String} (noSlash : '/' ∉ name.toList) : dotted name = name := by
  have kept : ∀ letter ∈ name.toList, (if letter = '/' then '.' else letter) = id letter := by
    intro letter member
    have other : letter ≠ '/' := fun same => noSlash (same ▸ member)
    exact if_neg other
  apply String.toList_injective
  rw [dotted, String.toList_map, List.map_congr_left kept, List.map_id]

/-- Turning dots back into slashes restores a name that held no dots. -/
theorem map_toList_dotted {name : String} (noDot : '.' ∉ name.toList) :
    (dotted name).toList.map (fun letter => if letter = '.' then '/' else letter) =
      name.toList := by
  have restored : ∀ letter ∈ name.toList,
      (if (if letter = '/' then '.' else letter) = '.' then '/'
        else if letter = '/' then '.' else letter) = id letter := by
    intro letter member
    have other : letter ≠ '.' := fun same => noDot (same ▸ member)
    by_cases slash : letter = '/'
    · simp [slash]
    · simp [slash, other]
  rw [dotted, String.toList_map, List.map_map]
  exact (List.map_congr_left restored).trans (List.map_id _)

theorem eq_of_dotted_eq {one other : String} (noDot : '.' ∉ one.toList)
    (noDotToo : '.' ∉ other.toList) (same : dotted one = dotted other) : one = other := by
  apply String.toList_injective
  rw [← map_toList_dotted noDot, same, map_toList_dotted noDotToo]

theorem bracket_not_mem_dotted {name : String} (noBracket : '[' ∉ name.toList) :
    '[' ∉ (dotted name).toList := by
  rw [dotted, String.toList_map, List.mem_map]
  rintro ⟨letter, member, image⟩
  split at image
  · contradiction
  · exact noBracket (image ▸ member)

namespace Primitive

theorem eq_of_keyword_eq {one other : Primitive} (same : one.keyword = other.keyword) :
    one = other := by
  revert same
  cases one <;> cases other <;> decide

theorem not_mem_keyword (type : Primitive) :
    '/' ∉ type.keyword.toList ∧ '.' ∉ type.keyword.toList ∧ '[' ∉ type.keyword.toList := by
  cases type <;> decide

end Primitive

namespace ElementType

/-- A class has a plain name. -/
def IsPlain : ElementType → Prop
  | primitive _ => True
  | object internalName _ => IsPlainName internalName

theorem bracket_not_mem_sourceForm {element : ElementType} (plain : element.IsPlain) :
    '[' ∉ element.sourceForm.toList := by
  cases element with
  | primitive type => exact type.not_mem_keyword.2.2
  | object internalName whole => exact bracket_not_mem_dotted plain.noBracket

/-- The dotted form of a plain name is no keyword. -/
theorem dotted_ne_keyword {name : String} (plain : IsPlainName name) (type : Primitive) :
    dotted name ≠ type.keyword := by
  obtain ⟨noSlash, noDot, -⟩ := type.not_mem_keyword
  intro same
  rw [← dotted_eq_self noSlash] at same
  exact plain.noKeyword type (eq_of_dotted_eq plain.noDot noDot same)

theorem eq_of_sourceForm_eq {one other : ElementType} (plain : one.IsPlain)
    (plainToo : other.IsPlain) (same : one.sourceForm = other.sourceForm) : one = other := by
  cases one with
  | primitive type =>
      cases other with
      | primitive type' => rw [Primitive.eq_of_keyword_eq same]
      | object name whole => exact absurd same.symm (dotted_ne_keyword plainToo type)
  | object name whole =>
      cases other with
      | primitive type => exact absurd same (dotted_ne_keyword plain type)
      | object name' whole' =>
          obtain rfl := eq_of_dotted_eq plain.noDot plainToo.noDot same
          rfl

end ElementType

namespace DimensionedType

theorem toList_sourceForm (type : DimensionedType) :
    type.sourceForm.toList =
      type.element.sourceForm.toList ++ JavaType.brackets type.dimensions := by
  rw [sourceForm, String.toList_append, toList_join_replicate]

/-- The brackets in a source form count the dimensions. -/
theorem count_sourceForm {type : DimensionedType} (plain : type.element.IsPlain) :
    type.sourceForm.toList.count '[' = type.dimensions := by
  have brackets : (JavaType.brackets type.dimensions).count '[' = type.dimensions := by
    simp [JavaType.brackets, List.count_flatten]
  rw [toList_sourceForm, List.count_append, brackets,
    List.count_eq_zero.mpr (ElementType.bracket_not_mem_sourceForm plain), Nat.zero_add]

theorem eq_of_sourceForm_eq {one other : DimensionedType} (plain : one.element.IsPlain)
    (plainToo : other.element.IsPlain) (same : one.sourceForm = other.sourceForm) :
    one = other := by
  have dimensions : one.dimensions = other.dimensions := by
    rw [← count_sourceForm plain, same, count_sourceForm plainToo]
  have letters := congrArg String.toList same
  rw [toList_sourceForm, toList_sourceForm, dimensions, List.append_left_inj] at letters
  have element := ElementType.eq_of_sourceForm_eq plain plainToo (String.toList_injective letters)
  rcases one with ⟨_, _⟩
  rcases other with ⟨_, _⟩
  rw [DimensionedType.mk.injEq]
  exact ⟨element, dimensions⟩

/-- Rows of types are known by their source forms, type by type. -/
theorem eq_of_map_sourceForm_eq {types others : List DimensionedType}
    (plain : ∀ type ∈ types, type.element.IsPlain)
    (plainToo : ∀ type ∈ others, type.element.IsPlain)
    (same : types.map sourceForm = others.map sourceForm) : types = others := by
  induction types generalizing others with
  | nil => exact (List.map_eq_nil_iff.mp same.symm).symm
  | cons type types ih =>
      cases others with
      | nil => contradiction
      | cons other others =>
          rw [List.map_cons, List.map_cons, List.cons.injEq] at same
          obtain ⟨plainFirst, plainRest⟩ := List.forall_mem_cons.mp plain
          obtain ⟨plainFirstToo, plainRestToo⟩ := List.forall_mem_cons.mp plainToo
          rw [eq_of_sourceForm_eq plainFirst plainFirstToo same.1,
            ih plainRest plainRestToo same.2]

end DimensionedType

/-! ## Overloads -/

namespace Descriptor

variable {parameters others : List DimensionedType} {result other : DimensionedType}

theorem argumentTypes_methodDescriptor
    (short : ∀ type ∈ result :: parameters, type.dimensions ≤ 255) :
    argumentTypes (methodDescriptor parameters result) =
      .ok (parameters.map DimensionedType.sourceForm) := by
  rw [argumentTypes, methodType_methodDescriptor short, Except.map, List.map_map]
  congr 1
  exact List.map_congr_left fun type member =>
    type.sourceForm_toJavaType (short type (List.mem_cons_of_mem result member))

/-- Methods are shown with the same argument types if and only if their parameters have the same
types, provided that the names of classes in them are plain. -/
theorem argumentTypes_eq_iff
    (short : ∀ type ∈ result :: parameters, type.dimensions ≤ 255)
    (shortToo : ∀ type ∈ other :: others, type.dimensions ≤ 255)
    (plain : ∀ type ∈ parameters ++ others, type.element.IsPlain) :
    (∃ shown, argumentTypes (methodDescriptor parameters result) = .ok shown) ∧
      (argumentTypes (methodDescriptor parameters result) =
          argumentTypes (methodDescriptor others other) ↔ parameters = others) := by
  rw [argumentTypes_methodDescriptor short, argumentTypes_methodDescriptor shortToo,
    Except.ok.injEq]
  refine ⟨⟨_, rfl⟩, ?_⟩
  constructor
  · intro same
    obtain ⟨plainParameters, plainOthers⟩ := List.forall_mem_append.mp plain
    exact DimensionedType.eq_of_map_sourceForm_eq plainParameters plainOthers same
  · rintro rfl
    rfl

/-- It makes a difference which of two parameters has how many dimensions, and none what the result
is. -/
theorem argumentTypes_eq_iff_overloads :
    argumentTypes "(I[[La/B;)V" ≠ argumentTypes "([I[La/B;)V" ∧
      argumentTypes "(I[[La/B;)V" = argumentTypes "(I[[La/B;)I" := by
  have named : IsPlainName "a/B" :=
    ⟨by decide, by decide, fun type => by cases type <;> decide⟩
  have one : methodDescriptor [⟨.primitive .int, 0⟩, ⟨.object "a/B" (by decide), 2⟩]
      ⟨.primitive .void, 0⟩ = "(I[[La/B;)V" := by decide
  have other : methodDescriptor [⟨.primitive .int, 1⟩, ⟨.object "a/B" (by decide), 1⟩]
      ⟨.primitive .void, 0⟩ = "([I[La/B;)V" := by decide
  have third : methodDescriptor [⟨.primitive .int, 0⟩, ⟨.object "a/B" (by decide), 2⟩]
      ⟨.primitive .int, 0⟩ = "(I[[La/B;)I" := by decide
  rw [← one, ← other, ← third]
  constructor
  · rw [ne_eq, (argumentTypes_eq_iff (by simp) (by simp) (by simp [ElementType.IsPlain, named])).2]
    simp
  · exact (argumentTypes_eq_iff (by simp) (by simp)
      (by simp [ElementType.IsPlain, named])).2.mpr rfl

end Descriptor

end CallGraph
