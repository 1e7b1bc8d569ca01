import CallGraph.Build.Visit

/-!
# Outlets

A graph is written to an outlet, block by block, while archives are looked up in the same
surroundings: an outlet may change what is found afterwards.  An outlet may refuse what is written
to it, and it may refuse to be flushed.
-/

namespace CallGraph

/-- Why an outlet refuses. -/
inductive OutletFault where
  | full
  | unflushable
  deriving DecidableEq, Repr

/-- The wording of a refusal. -/
def OutletFault.message : OutletFault → String
  | full => "sink full"
  | unflushable => "sink flush"

/-- Surroundings in which archives are found and a graph is written. -/
structure Outlet (σ : Type) where
  /-- What is found at a path. -/
  find : σ → String → Lookup
  /-- Takes bytes, all of them or as many as there is room for. -/
  write : σ → Bytes → σ × Option OutletFault
  /-- Makes sure of what was taken. -/
  flush : σ → Option OutletFault

namespace Outlet

variable {σ : Type}

/-- Writes a block and makes sure of it. -/
def writeBlock (outlet : Outlet σ) (state : σ) (block : Block) : σ × Option OutletFault :=
  match outlet.write state block.bytes with
  | (state, some fault) => (state, some fault)
  | (state, none) => (state, outlet.flush state)

/-- An outlet that keeps all that is written to it. -/
def collecting (find : String → Lookup) : Outlet Bytes where
  find _ := find
  write taken bytes := (taken ++ bytes, none)
  flush _ := none

/-- An outlet with room for so many bytes. -/
def limited (find : String → Lookup) (limit : Nat) : Outlet Bytes where
  find _ := find
  write taken bytes :=
    if taken.length + bytes.length ≤ limit then (taken ++ bytes, none)
    else ((taken ++ bytes).take limit, some .full)
  flush _ := none

/-- An outlet that refuses to be flushed. -/
def unflushable (outlet : Outlet σ) : Outlet σ where
  find := outlet.find
  write := outlet.write
  flush _ := some .unflushable

end Outlet

end CallGraph
