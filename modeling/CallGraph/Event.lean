/-!
# Events

What a run reports besides its result.  None of it changes the result.

Behind a part of a list that is no pattern, and behind a file that cannot be opened as an archive,
stands an error in the words of the reader of patterns or of archives.  It is reported with the
event, and it is the one part of an event that is left out here.
-/

namespace CallGraph

/-- How much an event matters. -/
inductive Level where
  | error
  | warn
  | info
  | debug
  | trace
  deriving DecidableEq, Repr

/-- Something that is reported. -/
inductive Event where
  /-- A part of a list of patterns is no pattern. -/
  | patternIgnored (fragment : String)
  | archiveMissing (path : String)
  /-- What is at a path cannot be opened as an archive. -/
  | archiveUnreadable (path : String)
  /-- The given number of classes of an archive were read and will be visited. -/
  | archiveVisited (path : String) (classes : Nat)
  /-- A dynamic call site refers to a bootstrap method that does not exist. -/
  | bootstrapMissing (className methodName : String) (offset : Nat) (bootstrapIndex : UInt16)
  deriving DecidableEq, Repr

namespace Event

/-- The level of an event. -/
def level : Event → Level
  | patternIgnored _ => .warn
  | archiveMissing _ => .warn
  | archiveUnreadable _ => .warn
  | archiveVisited _ _ => .debug
  | bootstrapMissing _ _ _ _ => .trace

/-- The text of an event. -/
def message : Event → String
  | patternIgnored _ => "pattern not valid, ignoring"
  | archiveMissing _ => "archive does not exist"
  | archiveUnreadable _ => "error while processing archive"
  | archiveVisited _ _ => "visiting archive"
  | bootstrapMissing _ _ _ _ => "no bootstrap method for dynamic call site"

/-- What an event is about. -/
def subject : Event → String
  | patternIgnored fragment => "pattern=" ++ fragment
  | archiveMissing path => "archive=" ++ path
  | archiveUnreadable path => "archive=" ++ path
  | archiveVisited path classes => "archive=" ++ path ++ " classes=" ++ toString classes
  | bootstrapMissing className methodName offset bootstrapIndex =>
      "class=" ++ className ++ " method=" ++ methodName ++ " offset=" ++ toString offset ++
        " bootstrap_index=" ++ toString bootstrapIndex.toNat

end Event

end CallGraph
