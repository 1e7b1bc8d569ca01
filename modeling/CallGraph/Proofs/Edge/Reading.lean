import CallGraph.Proofs.Build.Lines

/-!
# Edges that are read back

The lines of a graph are read back to its edges, field by field: a name ends at the mark behind it,
argument types are what stands between commas, and an empty list of them is no type at all.  Reading
finds every edge again as long as no name holds one of the marks and no argument type is empty.  So
two graphs of such edges have the same text only if they have the same edges in the same order.
-/

namespace CallGraph

namespace Split

variable {separator : Char}

/-- The field in front of the first separator, and what stands behind the separator. -/
def field? (separator : Char) (text : List Char) : Option (String × List Char) :=
  match text.dropWhile (· != separator) with
  | [] => none
  | _ :: rest => some (String.ofList (text.takeWhile (· != separator)), rest)

/-- A field without separators is read up to the separator behind it. -/
theorem field?_append {field : String} (absent : separator ∉ field.toList) (rest : List Char) :
    field? separator (field.toList ++ separator :: rest) = some (field, rest) := by
  have inside : ∀ letter ∈ field.toList, (letter != separator) = true := by
    intro letter member
    rw [bne_iff_ne]
    rintro rfl
    exact absent member
  rw [field?, List.dropWhile_append_of_pos inside, List.takeWhile_append_of_pos inside]
  simp

end Split

/-- The kind of dispatch that a letter stands for. -/
def Dispatch.ofTag? : Char → Option Dispatch
  | 'M' => some virtual
  | 'I' => some interface
  | 'O' => some special
  | 'S' => some static
  | 'D' => some dynamic
  | _ => none

@[simp]
theorem Dispatch.ofTag?_tag (dispatch : Dispatch) : ofTag? dispatch.tag = some dispatch := by
  cases dispatch <;> rfl

/-- The marks between the fields of a line and behind it. -/
def fieldMarks : List Char :=
  [' ', ':', '(', ')', ',', '\n']

/-- A name that holds none of the marks. -/
def IsUnmarked (name : String) : Prop :=
  ∀ mark ∈ fieldMarks, mark ∉ name.toList

-- The marks are looked for one by one.  Any other instance might run through all letters there are.
instance : DecidablePred IsUnmarked := fun name =>
  List.decidableBAll (fun mark => mark ∉ name.toList) fieldMarks

/-- A signature whose names hold no marks and whose argument types are not empty. -/
structure MethodSignature.IsPlain (signature : MethodSignature) : Prop where
  unmarked : ∀ name ∈ signature.names, IsUnmarked name
  filled : ∀ type ∈ signature.argumentTypes, type ≠ ""

/-- An edge whose names hold no marks and whose argument types are not empty. -/
inductive Edge.IsPlain : Edge → Prop where
  | classReference {edge : ClassReference} :
      IsUnmarked edge.owner → IsUnmarked edge.referenced → IsPlain (.classReference edge)
  | methodCall {edge : MethodCall} :
      edge.caller.IsPlain → edge.callee.IsPlain → IsPlain (.methodCall edge)

theorem Edge.IsPlain.unmarked {edge : Edge} (plain : edge.IsPlain) :
    ∀ name ∈ edge.names, IsUnmarked name := by
  cases plain with
  | classReference owner referenced => simp [names, owner, referenced]
  | methodCall caller callee =>
      exact List.forall_mem_append.mpr ⟨caller.unmarked, callee.unmarked⟩

namespace MethodSignature

variable {signature : MethodSignature}

/-- The signature in front of a text, and what follows it. -/
def read? (text : List Char) : Option (MethodSignature × List Char) := do
  let (className, text) ← Split.field? ':' text
  let (name, text) ← Split.field? '(' text
  let (types, text) ← Split.field? ')' text
  return (⟨className, name, Split.fragments ',' types⟩, text)

theorem toList_text_append (signature : MethodSignature) (rest : List Char) :
    signature.text.toList ++ rest =
      signature.className.toList ++ ':' :: (signature.name.toList ++ '(' ::
        ((",".intercalate signature.argumentTypes).toList ++ ')' :: rest)) := by
  simp [text]

/-- A list of argument types without marks ends at the parenthesis behind it. -/
theorem closing_not_mem_types (plain : signature.IsPlain) :
    ')' ∉ (",".intercalate signature.argumentTypes).toList := by
  rw [String.toList_intercalate, mem_intercalate_iff (by decide)]
  rintro ⟨text, member, inside⟩
  obtain ⟨type, listed, rfl⟩ := List.mem_map.mp member
  exact plain.unmarked type (by simp [names, listed]) ')' (by decide) inside

theorem read?_append (plain : signature.IsPlain) (rest : List Char) :
    read? (signature.text.toList ++ rest) = some (signature, rest) := by
  have className : ':' ∉ signature.className.toList :=
    plain.unmarked _ (by simp [names]) ':' (by decide)
  have name : '(' ∉ signature.name.toList :=
    plain.unmarked _ (by simp [names]) '(' (by decide)
  have types : Split.fragments ',' (",".intercalate signature.argumentTypes) =
      signature.argumentTypes := by
    apply Split.fragments_intercalate
    intro type listed
    exact ⟨plain.filled type listed, plain.unmarked type (by simp [names, listed]) ',' (by decide)⟩
  rw [toList_text_append, read?, Split.field?_append className]
  simp only [Option.bind_eq_bind, Option.bind_some]
  rw [Split.field?_append name]
  simp only [Option.bind_some]
  rw [Split.field?_append (closing_not_mem_types plain)]
  simp only [Option.bind_some, types]
  rfl

end MethodSignature

/-! ## Lines and graphs -/

namespace Edge

/-- The edge that a line tells of. -/
def ofLine? : List Char → Option Edge
  | 'C' :: ':' :: text => do
    let (owner, referenced) ← Split.field? ' ' text
    return .classReference ⟨owner, String.ofList referenced⟩
  | 'M' :: ':' :: text => do
    let (caller, text) ← MethodSignature.read? text
    match text with
    | ' ' :: '(' :: tag :: ')' :: text =>
      let dispatch ← Dispatch.ofTag? tag
      let (callee, _) ← MethodSignature.read? text
      return .methodCall ⟨caller, dispatch, callee⟩
    | _ => none
  | _ => none

theorem ofLine?_line {edge : Edge} (plain : edge.IsPlain) :
    ofLine? edge.line.toList = some edge := by
  cases plain with
  | @classReference edge owner referenced =>
      have letters : (line (.classReference edge)).toList =
          'C' :: ':' :: (edge.owner.toList ++ ' ' :: edge.referenced.toList) := by
        simp [line, ClassReference.line]
      rw [letters, ofLine?, Split.field?_append (owner ' ' (by decide))]
      simp
  | @methodCall edge caller callee =>
      have letters : (line (.methodCall edge)).toList =
          'M' :: ':' :: (edge.caller.text.toList ++
            ' ' :: '(' :: edge.dispatch.tag :: ')' :: (edge.callee.text.toList ++ [])) := by
        simp [line, MethodCall.line]
      rw [letters, ofLine?, MethodSignature.read?_append caller]
      simp only [Option.bind_eq_bind, Option.bind_some, Dispatch.ofTag?_tag,
        MethodSignature.read?_append callee]
      rfl

theorem mapM_ofLine?_lines {edges : List Edge} (plain : ∀ edge ∈ edges, edge.IsPlain) :
    (edges.map fun edge => edge.line.toList).mapM ofLine? = some edges := by
  induction edges with
  | nil => rfl
  | cons edge edges ih =>
      obtain ⟨first, rest⟩ := List.forall_mem_cons.mp plain
      rw [List.map_cons, List.mapM_cons, ofLine?_line first, ih rest]
      rfl

/-- The line of an edge without marks is one line. -/
theorem lineFeed_not_mem_line {edge : Edge} (plain : edge.IsPlain) : '\n' ∉ edge.line.toList := by
  rw [lineFeed_mem_line_iff]
  rintro ⟨name, listed, inside⟩
  exact plain.unmarked name listed '\n' (by decide) inside

end Edge

/-- The edges that the lines of a text tell of. -/
def edgesOfText? (text : String) : Option (List Edge) :=
  (Split.splitAt '\n' text.toList).dropLast.mapM Edge.ofLine?

theorem edgesOfText?_outputText {edges : List Edge} (plain : ∀ edge ∈ edges, edge.IsPlain) :
    edgesOfText? (outputText edges) = some edges := by
  have whole : ∀ line ∈ edges.map fun edge => edge.line.toList, '\n' ∉ line := by
    rw [List.forall_mem_map]
    exact fun edge member => Edge.lineFeed_not_mem_line (plain edge member)
  rw [edgesOfText?, splitAt_outputText, Split.flatMap_splitAt_of_not_mem whole,
    List.dropLast_concat, Edge.mapM_ofLine?_lines plain]

theorem Bytes.ofString_inj {one other : String} : ofString one = ofString other ↔ one = other := by
  constructor
  · intro same
    exact String.toByteArray_inj.mp (ByteArray.ext (Array.toList_inj.mp same))
  · rintro rfl
    rfl

/-- Edges whose names hold no marks, and whose argument types are not empty, have the same lines,
as text or as bytes, if and only if they are the same edges in the same order. -/
theorem outputText_eq_iff {one other : List Edge}
    (plain : ∀ edge ∈ one ++ other, edge.IsPlain) :
    (outputText one = outputText other ↔ one = other) ∧
      (written (one.map Edge.line) = written (other.map Edge.line) ↔ one = other) := by
  obtain ⟨first, second⟩ := List.forall_mem_append.mp plain
  have texts : outputText one = outputText other ↔ one = other := by
    constructor
    · intro same
      have read := congrArg edgesOfText? same
      rw [edgesOfText?_outputText first, edgesOfText?_outputText second] at read
      exact Option.some.inj read
    · rintro rfl
      rfl
  refine ⟨texts, ?_⟩
  rw [written_map_line, written_map_line, Bytes.ofString_inj]
  exact texts

/-- A class reference, and a call of a method with the given argument types. -/
def referenceAndCall (types : List String) : List Edge :=
  [.classReference ⟨"pkg.A", "pkg.B"⟩,
    .methodCall ⟨⟨"pkg.A", "<init>", []⟩, .special, ⟨"pkg.B", "n", types⟩⟩]

/-- Calls of overloads have different lines. -/
theorem outputText_eq_iff_referenceAndCall :
    outputText (referenceAndCall ["int", "long[]"]) ≠
        outputText (referenceAndCall ["int", "long"]) ∧
      written ((referenceAndCall []).map Edge.line) ≠
        written ((referenceAndCall ["int"]).map Edge.line) := by
  have caller : MethodSignature.IsPlain ⟨"pkg.A", "<init>", []⟩ := ⟨by decide, by decide⟩
  have plain (types : List String) (callee : MethodSignature.IsPlain ⟨"pkg.B", "n", types⟩) :
      ∀ edge ∈ referenceAndCall types, edge.IsPlain := by
    simp only [referenceAndCall, List.forall_mem_cons]
    exact ⟨.classReference (by decide) (by decide), .methodCall caller callee,
      List.forall_mem_nil _⟩
  have arrays := plain ["int", "long[]"] ⟨by decide, by decide⟩
  have numbers := plain ["int", "long"] ⟨by decide, by decide⟩
  have nothing := plain [] ⟨by decide, by decide⟩
  have one := plain ["int"] ⟨by decide, by decide⟩
  constructor
  · rw [ne_eq, (outputText_eq_iff (List.forall_mem_append.mpr ⟨arrays, numbers⟩)).1]
    decide
  · rw [ne_eq, (outputText_eq_iff (List.forall_mem_append.mpr ⟨nothing, one⟩)).2]
    decide

end CallGraph
