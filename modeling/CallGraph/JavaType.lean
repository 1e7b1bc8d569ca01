/-!
# Java types and their two spellings

A type is a primitive type, a class or an array of another type.  The virtual machine spells
it as a descriptor (`[Ljava/lang/String;`), Java source spells it the way a programmer would
(`java.lang.String[]`).  Both spellings are total functions here; reading descriptors back is
the task of `CallGraph.JavaType.Descriptor`.
-/

namespace CallGraph

/-- An internal name with every `/` turned into a dot. -/
def dotted (name : String) : String :=
  name.map fun letter => if letter = '/' then '.' else letter

/-- The types that have a keyword, with `void` among them. -/
inductive Primitive where
  | byte
  | char
  | double
  | float
  | int
  | long
  | short
  | boolean
  | void
  deriving DecidableEq, Repr

namespace Primitive

/-- The letter of a primitive type in descriptors. -/
def letter : Primitive → Char
  | byte => 'B'
  | char => 'C'
  | double => 'D'
  | float => 'F'
  | int => 'I'
  | long => 'J'
  | short => 'S'
  | boolean => 'Z'
  | void => 'V'

/-- The keyword of a primitive type in Java source. -/
def keyword : Primitive → String
  | byte => "byte"
  | char => "char"
  | double => "double"
  | float => "float"
  | int => "int"
  | long => "long"
  | short => "short"
  | boolean => "boolean"
  | void => "void"

/-- The primitive type that a descriptor letter stands for. -/
def ofLetter? : Char → Option Primitive
  | 'B' => some byte
  | 'C' => some char
  | 'D' => some double
  | 'F' => some float
  | 'I' => some int
  | 'J' => some long
  | 'S' => some short
  | 'Z' => some boolean
  | 'V' => some void
  | _ => none

@[simp]
theorem ofLetter?_letter (type : Primitive) : ofLetter? type.letter = some type := by
  cases type <;> rfl

end Primitive

/-- A type as class files know it.  Classes are kept under their internal names, in which
`/` separates the packages; an array carries its number of dimensions, at most 255. -/
inductive JavaType where
  | primitive (type : Primitive)
  | object (internalName : String)
  | array (element : JavaType) (dimensions : UInt8)
  deriving DecidableEq, Repr

namespace JavaType

/-- The descriptor of a type. -/
def descriptor : JavaType → List Char
  | primitive type => [type.letter]
  | object internalName => 'L' :: internalName.toList ++ [';']
  | array element dimensions => List.replicate dimensions.toNat '[' ++ element.descriptor

/-- One pair of brackets per dimension. -/
def brackets (dimensions : Nat) : List Char :=
  (List.replicate dimensions ['[', ']']).flatten

/-- The letters of a type's spelling in Java source. -/
def sourceChars : JavaType → List Char
  | primitive type => type.keyword.toList
  | object internalName => (dotted internalName).toList
  | array element dimensions => element.sourceChars ++ brackets dimensions.toNat

/-- The spelling of a type in Java source. -/
def sourceForm (type : JavaType) : String :=
  String.ofList type.sourceChars

@[simp]
theorem toList_sourceForm (type : JavaType) : type.sourceForm.toList = type.sourceChars := by
  simp [sourceForm]

end JavaType

/-- The parameter types and the result type of a method. -/
structure MethodType where
  parameters : List JavaType
  result : JavaType
  deriving DecidableEq, Repr

/-- The descriptor of a method. -/
def MethodType.descriptor (type : MethodType) : List Char :=
  '(' :: type.parameters.flatMap JavaType.descriptor ++ ')' :: type.result.descriptor

end CallGraph
