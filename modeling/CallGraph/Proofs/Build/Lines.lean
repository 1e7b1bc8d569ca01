import CallGraph.Assembler
import CallGraph.Proofs.Build.Narrowing
import CallGraph.Proofs.Edge.Line

/-!
# Lines of a graph

A graph that was built is the lines of its edges, and its counts are those of the edges.  Each edge
is a line of its own as long as no name in it holds a line feed.  Names are written as they stand in
a class file, where a name may hold a line feed; such a name ends the line of its edge and starts
another line.
-/

namespace CallGraph

/-- The edges of a block, in the order in which they are written. -/
def Block.edges (block : Block) : List Edge :=
  block.references.map .classReference ++ block.calls.map .methodCall

/-- The edges of archives, of which some may have been skipped. -/
def edgesOf (blocks : List (Option Block)) : List Edge :=
  blocks.flatMap (·.elim [] Block.edges)

/-- Edges as text, each line ended by a line feed. -/
def outputText (edges : List Edge) : String :=
  String.join (edges.map fun edge => edge.line ++ "\n")

theorem Block.map_line_edges (block : Block) : block.edges.map Edge.line = block.lines := by
  rw [edges, lines, List.map_append, List.map_map, List.map_map]
  rfl

theorem map_line_edgesOf (blocks : List (Option Block)) :
    (edgesOf blocks).map Edge.line = blocks.flatMap (·.elim [] Block.lines) := by
  rw [edgesOf, List.map_flatMap]
  congr 1
  funext block?
  cases block? with
  | none => rfl
  | some block => exact block.map_line_edges

theorem Block.countP_edges (block : Block) :
    block.edges.countP Edge.isReference = block.references.length ∧
      block.edges.countP (!·.isReference) = block.calls.length := by
  simp [edges, List.countP_map, Function.comp_def, Edge.isReference]

theorem Tally.ofVisits_eq_countP (blocks : List (Option Block)) :
    (ofVisits blocks).references = (edgesOf blocks).countP Edge.isReference ∧
      (ofVisits blocks).calls = (edgesOf blocks).countP (!·.isReference) := by
  induction blocks with
  | nil => exact ⟨rfl, rfl⟩
  | cons block? blocks ih =>
      rw [edgesOf, List.flatMap_cons, List.countP_append, List.countP_append]
      obtain ⟨references, calls⟩ : (ofVisit block?).references =
            (block?.elim [] Block.edges).countP Edge.isReference ∧
          (ofVisit block?).calls = (block?.elim [] Block.edges).countP (!·.isReference) := by
        cases block? with
        | none => exact ⟨rfl, rfl⟩
        | some block => exact ⟨block.countP_edges.1.symm, block.countP_edges.2.symm⟩
      exact ⟨congrArg₂ (· + ·) references ih.1, congrArg₂ (· + ·) calls ih.2⟩

theorem Bytes.ofString_append (first second : String) :
    ofString (first ++ second) = ofString first ++ ofString second := by
  simp [ofString]

theorem written_map_line (edges : List Edge) :
    written (edges.map Edge.line) = Bytes.ofString (outputText edges) := by
  induction edges with
  | nil => rfl
  | cons edge edges ih =>
      rw [outputText, List.map_cons, List.map_cons, String.join_cons, Bytes.ofString_append,
        written, List.flatMap_cons]
      exact congrArg _ ih

theorem toList_outputText (edges : List Edge) :
    (outputText edges).toList = (edges.map fun edge => edge.line.toList).flatMap (· ++ ['\n']) := by
  simp [outputText, String.toList_join, List.flatMap_map]

/-- The output is split into the parts of the lines of the edges, and nothing is left behind the
last line feed. -/
theorem splitAt_outputText (edges : List Edge) :
    Split.splitAt '\n' (outputText edges).toList =
      (edges.map fun edge => edge.line.toList).flatMap (Split.splitAt '\n') ++ [[]] := by
  rw [toList_outputText, Split.splitAt_flatMap_ended]

/-! ## One line for each edge -/

/-- Whether a line begins with a text. -/
def beginsWith (start : String) (line : List Char) : Bool :=
  start.toList.isPrefixOf line

/-- A text has one line for each edge that was counted, each ended by a line feed, and its lines
begin like class references and like method calls as often as these were counted. -/
def OneLineEach (tally : Tally) (text : String) : Prop :=
  ∃ lines, Split.splitAt '\n' text.toList = lines ++ [[]] ∧
    lines.length = tally.references + tally.calls ∧
    (∀ line ∈ lines, beginsWith "C:" line = true ∨ beginsWith "M:" line = true) ∧
    lines.countP (beginsWith "C:") = tally.references ∧
    lines.countP (beginsWith "M:") = tally.calls

theorem Edge.beginsWith_line (edge : Edge) :
    beginsWith "C:" edge.line.toList = edge.isReference ∧
      beginsWith "M:" edge.line.toList = !edge.isReference := by
  cases edge with
  | classReference edge =>
      simp [line, ClassReference.line, beginsWith, isReference, List.isPrefixOf]
  | methodCall edge =>
      simp [line, MethodCall.line, beginsWith, isReference, List.isPrefixOf]

/-- The lines of edges begin like class references as often as there are class references among the
edges, and the others begin like method calls. -/
theorem countP_beginsWith_lines (edges : List Edge) :
    (edges.map fun edge => edge.line.toList).countP (beginsWith "C:") =
        edges.countP Edge.isReference ∧
      (edges.map fun edge => edge.line.toList).countP (beginsWith "M:") =
        edges.countP (!·.isReference) := by
  simp only [List.countP_map, Function.comp_def, (Edge.beginsWith_line _).1,
    (Edge.beginsWith_line _).2, and_self]

/-- Edges have one line each if and only if no name in them holds a line feed. -/
theorem oneLineEach_outputText_iff {tally : Tally} {edges : List Edge}
    (references : tally.references = edges.countP Edge.isReference)
    (calls : tally.calls = edges.countP (!·.isReference)) :
    OneLineEach tally (outputText edges) ↔
      ∀ edge ∈ edges, ∀ name ∈ edge.names, '\n' ∉ name.toList := by
  have counted : tally.references + tally.calls =
      (edges.map fun edge => edge.line.toList).length := by
    rw [references, calls, List.length_map, List.length_eq_countP_add_countP Edge.isReference]
    simp
  have plain : (∀ text ∈ edges.map fun edge => edge.line.toList, '\n' ∉ text) ↔
      ∀ edge ∈ edges, ∀ name ∈ edge.names, '\n' ∉ name.toList := by
    simp [Edge.lineFeed_mem_line_iff]
  rw [← plain, OneLineEach, splitAt_outputText]
  constructor
  · rintro ⟨lines, split, length_eq, -⟩
    obtain rfl := List.append_cancel_right split
    exact Split.not_mem_of_length_flatMap_splitAt (length_eq.trans counted)
  · intro absent
    rw [Split.flatMap_splitAt_of_not_mem absent]
    obtain ⟨asReference, asCall⟩ := countP_beginsWith_lines edges
    refine ⟨_, rfl, counted.symm, ?_, asReference.trans references.symm, asCall.trans calls.symm⟩
    intro line member
    obtain ⟨edge, -, rfl⟩ := List.mem_map.mp member
    rw [edge.beginsWith_line.1, edge.beginsWith_line.2]
    cases edge.isReference <;> decide

variable {tree : FileTree} {filter : IdentifierFilter} {paths : List String} {schedule : Schedule}
  {tally : Tally}

/-- The graph of a build that succeeds is the lines of the edges that were counted.  There is one
line for each edge if and only if no name in an edge holds a line feed. -/
theorem graph_lines (succeeded : (graph tree filter paths schedule).result = .ok tally) :
    ∃ blocks, Yields tree.lookup filter paths blocks ∧
      (graph tree filter paths schedule).state = Bytes.ofString (outputText (edgesOf blocks)) ∧
      tally.references = (edgesOf blocks).countP Edge.isReference ∧
      tally.calls = (edgesOf blocks).countP (!·.isReference) ∧
      (OneLineEach tally (outputText (edgesOf blocks)) ↔
        ∀ edge ∈ edgesOf blocks, ∀ name ∈ edge.names, '\n' ∉ name.toList) := by
  obtain ⟨blocks, yields⟩ := exists_yields_of_ok succeeded
  obtain ⟨state_eq, result_eq⟩ := writes_of_yields yields schedule
  obtain rfl : .ofVisits blocks = tally := Except.ok.inj (result_eq.symm.trans succeeded)
  obtain ⟨references, calls⟩ := Tally.ofVisits_eq_countP blocks
  refine ⟨blocks, yields, ?_, references, calls, oneLineEach_outputText_iff references calls⟩
  rw [state_eq, ← map_line_edgesOf, written_map_line]

/-- A tree of an archive with a class of the given internal name and without methods. -/
def classTree (name : String) : FileTree :=
  FileTree.empty.put ["a.jar"]
    (.file (Archive.storedFile "A.class" (Assembler.assemble name []).2))

theorem graph_lines_classTree :
    (graph (classTree "pkg/A") .acceptAll ["a.jar"] []).result = .ok ⟨1, 0, 1, 2, 0⟩ ∧
      ∃ blocks, Yields (classTree "pkg/A").lookup .acceptAll ["a.jar"] blocks ∧
        (OneLineEach ⟨1, 0, 1, 2, 0⟩ (outputText (edgesOf blocks)) ↔
          ∀ edge ∈ edgesOf blocks, ∀ name ∈ edge.names, '\n' ∉ name.toList) := by
  have succeeded : (graph (classTree "pkg/A") .acceptAll ["a.jar"] []).result =
      .ok ⟨1, 0, 1, 2, 0⟩ := by
    decide +kernel
  obtain ⟨blocks, yields, -, -, -, lines⟩ := graph_lines succeeded
  exact ⟨succeeded, blocks, yields, lines⟩

/-- Two class references of a class whose name holds a line feed are written in five lines, three
of which begin like method calls. -/
theorem not_oneLineEach_of_lineFeed :
    (graph (classTree "A\nM:B") .acceptAll ["a.jar"] []).result = .ok ⟨1, 0, 1, 2, 0⟩ ∧
      (graph (classTree "A\nM:B") .acceptAll ["a.jar"] []).state =
        Bytes.ofString "C:A\nM:B A\nM:B\nC:A\nM:B java.lang.Object\n" ∧
      ¬ OneLineEach ⟨1, 0, 1, 2, 0⟩ "C:A\nM:B A\nM:B\nC:A\nM:B java.lang.Object\n" := by
  refine ⟨by decide +kernel, by decide +kernel, ?_⟩
  rintro ⟨lines, split, length_eq, -⟩
  have parts := congrArg List.length split
  rw [Split.length_splitAt, List.length_append, length_eq] at parts
  revert parts
  decide

end CallGraph
