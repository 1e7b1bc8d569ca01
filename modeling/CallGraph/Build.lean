import CallGraph.Build.Outlet

/-!
# Building a graph

The graph of a list of archives is the sequence of their blocks.  Archives that are not there or
cannot be opened are skipped; any other fault ends the build, and what was written until then
stays.

The archives are visited one after the other, each by workers of its own.
-/

namespace CallGraph

/-- What a build has counted. -/
structure Tally where
  /-- The archives that were visited. -/
  archives : Nat
  skipped : Nat
  classes : Nat
  references : Nat
  calls : Nat
  deriving DecidableEq, Repr

namespace Tally

/-- Nothing. -/
def zero : Tally :=
  ⟨0, 0, 0, 0, 0⟩

/-- An archive that was skipped. -/
def ofSkipped : Tally :=
  ⟨0, 1, 0, 0, 0⟩

/-- An archive that was visited. -/
def ofBlock (block : Block) : Tally :=
  ⟨1, 0, block.classes, block.references.length, block.calls.length⟩

/-- The counts of two parts of a build together. -/
def add (first second : Tally) : Tally where
  archives := first.archives + second.archives
  skipped := first.skipped + second.skipped
  classes := first.classes + second.classes
  references := first.references + second.references
  calls := first.calls + second.calls

instance : Add Tally := ⟨add⟩

end Tally

/-- Why a build ended. -/
inductive BuildFault where
  /-- An archive has no block. -/
  | visit (path : String) (fault : VisitFault)
  /-- The block of an archive was refused. -/
  | write (path : String) (fault : OutletFault)
  /-- The graph as a whole was refused. -/
  | flush (fault : OutletFault)
  deriving DecidableEq, Repr

/-- The wording of a fault, from the outermost context to the cause. -/
def BuildFault.chain : BuildFault → List String
  | visit path fault => fault.chain path
  | write path fault => ["failed to write graph for " ++ path, fault.message]
  | flush fault => ["failed to flush graph output", fault.message]

/-- How a build went. -/
structure Report (σ : Type) where
  /-- The surroundings afterwards. -/
  state : σ
  events : List Event
  result : Except BuildFault Tally

/-- The report of a build that starts with a part of which all went well. -/
def Report.after {σ : Type} (events : List Event) (tally : Tally) (rest : Report σ) : Report σ where
  state := rest.state
  events := events ++ rest.events
  result := rest.result.map (tally + ·)

/-- The turns of the workers at one archive after the other.  Where none are left, class files are
visited in order. -/
abbrev Schedule := List Turns

/-- Builds the graph of the archives at the given paths. -/
def build {σ : Type} (outlet : Outlet σ) (filter : IdentifierFilter) :
    (paths : List String) → σ → (schedule : Schedule := []) → Report σ
  | [], state, _ =>
    match outlet.flush state with
    | some fault => ⟨state, [], .error (.flush fault)⟩
    | none => ⟨state, [], .ok .zero⟩
  | path :: paths, state, schedule =>
    let visited := visit filter (schedule.headD []) path (outlet.find state path)
    match visited.result with
    | .error fault => ⟨state, visited.events, .error (.visit path fault)⟩
    | .ok none =>
      (build outlet filter paths state schedule.tail).after visited.events .ofSkipped
    | .ok (some block) =>
      match outlet.writeBlock state block with
      | (state, some fault) => ⟨state, visited.events, .error (.write path fault)⟩
      | (state, none) =>
        (build outlet filter paths state schedule.tail).after visited.events (.ofBlock block)

end CallGraph
