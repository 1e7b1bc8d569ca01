import CallGraph.JavaType

/-!
# Reading descriptors

A descriptor is read letter by letter.  A closing parenthesis stands for the absence of a
type, which is how the parameters of a method end; whatever follows the result type is not
looked at.  Every refusal is a cause of its own, and carries the text it was found in when a
caller asks for source forms.
-/

namespace CallGraph

namespace Descriptor

/-- Why a text is no descriptor. -/
inductive Fault where
  /-- A type was expected and the text is over. -/
  | endOfText
  /-- No type starts with this letter. -/
  | unrecognized
  | unterminatedName
  /-- More than 255 dimensions. -/
  | tooManyDimensions
  /-- An array of no type. -/
  | noElement
  /-- A method descriptor that does not open its parameters. -/
  | noParameters
  | noResult
  deriving DecidableEq, Repr

/-- The wording of a refusal. -/
def Fault.message : Fault → String
  | endOfText => "Unexpected end of input."
  | tooManyDimensions => "Array has too many dimensions."
  | unrecognized => "Invalid descriptor: Unrecognized type descriptor."
  | unterminatedName => "Invalid descriptor: Missing semicolon in class name descriptor."
  | noElement => "Invalid descriptor: Invalid descriptor."
  | noParameters => "Invalid descriptor: Method descriptor must start with '('."
  | noResult => "Invalid descriptor: Missing return type."

/-- The class name in front of the next semicolon, and what follows the semicolon. -/
def readName (chars : List Char) : Except Fault (String × List Char) :=
  match chars.dropWhile (· != ';') with
  | [] => .error .unterminatedName
  | _ :: rest => .ok (String.ofList (chars.takeWhile (· != ';')), rest)

/-- A type that is no array, or the closing parenthesis in its place. -/
def readScalar : List Char → Except Fault (Option JavaType × List Char)
  | [] => .error .endOfText
  | 'L' :: rest =>
    match readName rest with
    | .error fault => .error fault
    | .ok (name, rest) => .ok (some (.object name), rest)
  | ')' :: rest => .ok (none, rest)
  | letter :: rest =>
    match Primitive.ofLetter? letter with
    | some type => .ok (some (.primitive type), rest)
    | none => .error .unrecognized

/-- A type, or the closing parenthesis in its place. -/
def readType (chars : List Char) : Except Fault (Option JavaType × List Char) :=
  let dimensions := (chars.takeWhile (· == '[')).length
  if dimensions = 0 then
    readScalar chars
  else if 255 < dimensions then
    .error .tooManyDimensions
  else
    match readScalar (chars.dropWhile (· == '[')) with
    | .error fault => .error fault
    | .ok (none, _) => .error .noElement
    | .ok (some type, rest) => .ok (some (.array type (UInt8.ofNat dimensions)), rest)

private theorem length_dropWhile_le (p : Char → Bool) (chars : List Char) :
    (chars.dropWhile p).length ≤ chars.length :=
  (List.dropWhile_suffix p).length_le

theorem readName_length {chars rest : List Char} {name : String}
    (read : readName chars = .ok (name, rest)) : rest.length < chars.length := by
  unfold readName at read
  have bound := length_dropWhile_le (· != ';') chars
  split at read
  · cases read
  · rename_i tail found
    simp only [Except.ok.injEq, Prod.mk.injEq] at read
    rw [found] at bound
    simp only [List.length_cons, read.2] at bound
    omega

theorem readScalar_length {chars rest : List Char} {type : Option JavaType}
    (read : readScalar chars = .ok (type, rest)) : rest.length < chars.length := by
  unfold readScalar at read
  split at read
  · cases read
  · rename_i tail
    split at read
    · cases read
    · rename_i name later named
      simp only [Except.ok.injEq, Prod.mk.injEq] at read
      have := readName_length named
      simp only [List.length_cons, ← read.2]
      omega
  · simp only [Except.ok.injEq, Prod.mk.injEq] at read
    simp [← read.2]
  · split at read
    · simp only [Except.ok.injEq, Prod.mk.injEq] at read
      simp [← read.2]
    · cases read

theorem readType_length {chars rest : List Char} {type : Option JavaType}
    (read : readType chars = .ok (type, rest)) : rest.length < chars.length := by
  unfold readType at read
  simp only at read
  split at read
  · exact readScalar_length read
  · split at read
    · cases read
    · have bound := length_dropWhile_le (· == '[') chars
      split at read
      · cases read
      · cases read
      · rename_i scalar
        simp only [Except.ok.injEq, Prod.mk.injEq] at read
        have := readScalar_length scalar
        rw [← read.2]
        omega

/-! ## Methods and source forms -/

/-- The parameter types up to the closing parenthesis, and what follows it. -/
def readParameters (chars : List Char) : Except Fault (List JavaType × List Char) :=
  match _read : readType chars with
  | .error fault => .error fault
  | .ok (none, rest) => .ok ([], rest)
  | .ok (some type, rest) =>
    match readParameters rest with
    | .error fault => .error fault
    | .ok (types, rest) => .ok (type :: types, rest)
termination_by chars.length
decreasing_by exact readType_length _read

/-- A method descriptor. -/
def readMethod : List Char → Except Fault MethodType
  | '(' :: rest =>
    match readParameters rest with
    | .error fault => .error fault
    | .ok (parameters, rest) =>
      match readType rest with
      | .error fault => .error fault
      | .ok (none, _) => .error .noResult
      | .ok (some result, _) => .ok ⟨parameters, result⟩
  | _ => .error .noParameters

/-- What a refused text was meant to be. -/
inductive Subject where
  | method
  | arrayClass
  deriving DecidableEq, Repr

/-- A text that was refused as a descriptor. -/
structure Rejection where
  /-- What the text was meant to be. -/
  subject : Subject
  text : String
  cause : Fault
  deriving DecidableEq, Repr

/-- The account of a rejection, from the outermost line to the cause. -/
def Rejection.chain (rejection : Rejection) : List String :=
  match rejection.subject with
  | .method => ["parse method descriptor " ++ rejection.text, rejection.cause.message]
  | .arrayClass => ["parse array class descriptor " ++ rejection.text, rejection.cause.message]

/-- The method type that a descriptor spells. -/
def methodType (text : String) : Except Rejection MethodType :=
  (readMethod text.toList).mapError (⟨.method, text, ·⟩)

/-- The source forms of a method's parameter types. -/
def argumentTypes (text : String) : Except Rejection (List String) :=
  (methodType text).map fun type => type.parameters.map JavaType.sourceForm

/-- The source form of a method's result type. -/
def returnType (text : String) : Except Rejection String :=
  (methodType text).map fun type => type.result.sourceForm

/-- The name under which a class constant is shown: an array class by the source form of its
descriptor, any other class by its dotted name. -/
def classDisplayName (internalName : String) : Except Rejection String :=
  match internalName.toList with
  | '[' :: _ =>
    match readType internalName.toList with
    | .error fault => .error ⟨.arrayClass, internalName, fault⟩
    | .ok (none, _) => .error ⟨.arrayClass, internalName, .noElement⟩
    | .ok (some type, _) => .ok type.sourceForm
  | _ => .ok (dotted internalName)

end Descriptor

end CallGraph
