import CallGraph.Archive.ClassEntry
import CallGraph.Build.Workers
import CallGraph.JavaClass.Edges
import CallGraph.JavaClass.OfFile

/-!
# Visiting one archive

An archive yields a block of edges: the class references of all its classes, then their method
calls.  What is not there or is no archive yields nothing and is reported.  A class file that
cannot be read or is no class file is a fault.

The class files are read one after the other and visited by workers.  Whatever turns the workers
take, the edges stand in the order of the class files; which of several class files that are none is
the fault, and what was reported until then, is up to the turns.
-/

namespace CallGraph

/-- What is found at the path of an archive. -/
inductive Lookup where
  | missing
  /-- Something that cannot be opened as an archive. -/
  | unreadable
  | archive (archive : Archive)
  deriving DecidableEq, Repr

/-- The edges of an archive, in the order in which they are written. -/
structure Block where
  /-- How many classes were visited. -/
  classes : Nat
  references : List ClassReference
  calls : List MethodCall
  deriving DecidableEq, Repr

namespace Block

/-- The block of no classes. -/
def empty : Block :=
  ⟨0, [], []⟩

/-- Puts the edges of a class in front. -/
def cons (filter : IdentifierFilter) (javaClass : JavaClass) (block : Block) : Block where
  classes := block.classes + 1
  references := javaClass.classReferences filter ++ block.references
  calls := javaClass.methodCalls filter ++ block.calls

/-- The lines of a block. -/
def lines (block : Block) : List String :=
  block.references.map ClassReference.line ++ block.calls.map MethodCall.line

/-- A block as it is written, each line ended by a line feed. -/
def bytes (block : Block) : Bytes :=
  block.lines.flatMap fun line => Bytes.ofString (line ++ "\n")

end Block

/-- Why an archive has no block. -/
inductive VisitFault where
  /-- A class file cannot be read. -/
  | unreadable (fault : Archive.EntryFault)
  /-- A class file of the given name is no class file. -/
  | undecodable (name : String) (fault : ClassFault)
  deriving DecidableEq, Repr

/-- The wording of a fault, from the outermost context to the cause. -/
def VisitFault.chain (path : String) : VisitFault → List String
  | unreadable fault => ["failed to read " ++ path ++ ":" ++ fault.name, fault.cause.message]
  | undecodable name fault => ("failed to parse " ++ path ++ ":" ++ name) :: fault.chain

/-- What is reported on the way, and the result. -/
structure Visit (α : Type) where
  events : List Event
  result : Except VisitFault α

/-- The class of a class file. -/
def Archive.ClassEntry.javaClass (entry : Archive.ClassEntry) : Except VisitFault JavaClass :=
  (JavaClass.ofBytes entry.data).mapError (.undecodable entry.name)

/-- The task of a worker who finds this class: its events are reported while its calls are
collected. -/
def Task.ofClass : Except VisitFault JavaClass → Task VisitFault
  | .error fault => ⟨false, [.refuse fault]⟩
  | .ok javaClass => ⟨false, javaClass.events.map .report⟩

/-- Visits class files in turns.  If none of them is refused, all of them have been visited. -/
def visitClasses (filter : IdentifierFilter) (turns : Turns)
    (entries : List Archive.ClassEntry) : Visit Block :=
  let classes := entries.map Archive.ClassEntry.javaClass
  let actions := Task.inTurns false (classes.map Task.ofClass) turns
  { events := actions.filterMap Action.event?
    result :=
      match actions.findSome? Action.fault? with
      | some fault => .error fault
      | none => .ok ((classes.filterMap Except.toOption).foldr (Block.cons filter) .empty) }

/-- Visits the classes of an archive that a filter selects.  All of them are read before the first
one is decoded. -/
def visitArchive (filter : IdentifierFilter) (turns : Turns) (path : String) (archive : Archive) :
    Visit Block :=
  match archive.classEntries filter with
  | .error fault => ⟨[], .error (.unreadable fault)⟩
  | .ok entries =>
    let classes := visitClasses filter turns entries
    ⟨.archiveVisited path entries.length :: classes.events, classes.result⟩

/-- Visits what is found at a path.  There is no block if that is no archive. -/
def visit (filter : IdentifierFilter) (turns : Turns) (path : String) :
    Lookup → Visit (Option Block)
  | .missing => ⟨[.archiveMissing path], .ok none⟩
  | .unreadable => ⟨[.archiveUnreadable path], .ok none⟩
  | .archive archive =>
    let visit := visitArchive filter turns path archive
    ⟨visit.events, visit.result.map some⟩

end CallGraph
