import CallGraph.Event

/-!
# Workers

Workers share the tasks of an archive.  They take turns in any order, and a turn is one action of
one task: an event is reported, or the task is refused.  The first refusal counts.  Behind it a task
that was begun is carried on, and others may be left alone.

An order of turns says which task each turn goes to.  When it ends, the tasks that are left are
taken as they stand.  Every run of workers is given by the order of its turns.
-/

namespace CallGraph

/-- What a worker does in a turn. -/
inductive Action (φ : Type) where
  | report (event : Event)
  | refuse (fault : φ)
  deriving DecidableEq, Repr

namespace Action

variable {φ : Type}

/-- The event that is reported. -/
def event? : Action φ → Option Event
  | report event => some event
  | refuse _ => none

/-- The fault for which a task is refused. -/
def fault? : Action φ → Option φ
  | report _ => none
  | refuse fault => some fault

end Action

/-- A task as far as it is not done. -/
structure Task (φ : Type) where
  /-- Whether a worker has come to it. -/
  begun : Bool
  /-- What is left to do, in order. -/
  actions : List (Action φ)
  deriving DecidableEq, Repr

/-- The positions of the tasks that turns go to. -/
abbrev Turns := List Nat

namespace Task

variable {φ : Type}

/-- The fault for which a task will be refused. -/
def fault? (task : Task φ) : Option φ :=
  task.actions.findSome? Action.fault?

/-- What is done if the tasks are taken as they stand, possibly after a refusal. -/
def inOrder (refused : Bool) : List (Task φ) → List (Action φ)
  | [] => []
  | task :: tasks =>
    if refused && !task.begun then inOrder refused tasks
    else task.actions ++ inOrder (refused || task.fault?.isSome) tasks

/-- What is done in turns, possibly after a refusal.  A turn that goes nowhere is lost. -/
def inTurns (refused : Bool) (tasks : List (Task φ)) : Turns → List (Action φ)
  | [] => inOrder refused tasks
  | position :: turns =>
    match tasks[position]? with
    | some ⟨_, action :: actions⟩ =>
      action :: inTurns (refused || action.fault?.isSome) (tasks.set position ⟨true, actions⟩) turns
    | _ => inTurns refused tasks turns

end Task

end CallGraph
