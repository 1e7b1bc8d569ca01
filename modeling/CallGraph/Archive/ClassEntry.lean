import CallGraph.Archive.Member
import CallGraph.IdentifierFilter
import CallGraph.JavaType

/-!
# Class files in archives

The class files of an archive are known by their names.  The description of a module looks like
one but is none.  A filter decides by the dotted name.
-/

namespace CallGraph

namespace Archive

/-- How the name of a class file ends. -/
def classSuffix : String := ".class"

/-- How the name of the description of a module ends. -/
def moduleSuffix : String := "module-info.class"

/-- Whether a text ends in another one. -/
def endsIn (text ending : String) : Bool :=
  ending.toList.isSuffixOf text.toList

/-- Whether a name is that of a class file. -/
def isClassName (name : String) : Bool :=
  endsIn name classSuffix && !endsIn name moduleSuffix

/-- Whether a filter selects a member by its name. -/
def selects (filter : IdentifierFilter) (member : Member) : Bool :=
  isClassName member.name && filter.accepts (dotted member.name)

/-- A class file of an archive. -/
structure ClassEntry where
  name : String
  data : Bytes
  deriving DecidableEq, Repr

/-- A member that cannot be read, and why. -/
structure EntryFault where
  name : String
  cause : MemberFault
  deriving DecidableEq, Repr

/-- The class file of a member. -/
def Member.classEntry (member : Member) : Except EntryFault ClassEntry :=
  match member.contents with
  | .ok data => .ok ⟨member.name, data⟩
  | .error cause => .error ⟨member.name, cause⟩

/-- The members that a filter selects. -/
def selected (archive : Archive) (filter : IdentifierFilter) : List Member :=
  archive.members.filter (selects filter)

/-- The class files that a filter selects, in order, unless one of them cannot be read. -/
def classEntries (archive : Archive) (filter : IdentifierFilter) :
    Except EntryFault (List ClassEntry) :=
  (archive.selected filter).mapM Member.classEntry

end Archive

end CallGraph
