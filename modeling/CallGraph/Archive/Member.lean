import CallGraph.Archive.Checksum
import CallGraph.Archive.Inflate

/-!
# Members of archives

A member of an archive has a name and data, which may be compressed.  Its contents are what the
data is restored to, if the checksum agrees.
-/

namespace CallGraph

namespace Archive

/-- A member of an archive. -/
structure Member where
  name : String
  isEncrypted : Bool
  /-- The number of the method of compression. -/
  method : Nat
  /-- The checksum of the contents. -/
  checksum : UInt32
  /-- The compressed data, if it is where it should be. -/
  data : Option Bytes
  deriving DecidableEq, Repr

/-- Why a member cannot be read. -/
inductive MemberFault where
  | passwordRequired
  | noLocalHeader
  | unsupportedMethod
  | deflated (fault : Inflate.Fault)
  | wrongChecksum
  deriving DecidableEq, Repr

/-- The wording of a fault. -/
def MemberFault.message : MemberFault → String
  | passwordRequired => "unsupported Zip archive: Password required to decrypt file"
  | noLocalHeader => "invalid Zip archive: Invalid local file header"
  | unsupportedMethod => "unsupported Zip archive: Compression method not supported"
  | deflated .corrupt => "corrupt deflate stream"
  | deflated .incomplete => "incomplete deflate stream"
  | wrongChecksum => "Invalid checksum"

namespace Member

/-- The method of data that is not compressed. -/
def storedMethod : Nat := 0

/-- The method of deflated data. -/
def deflatedMethod : Nat := 8

/-- What data is restored to by a method. -/
def restore (method : Nat) (data : Bytes) : Except MemberFault Bytes :=
  if method = storedMethod then .ok data
  else if method = deflatedMethod then (inflate data).mapError .deflated
  else .error .unsupportedMethod

/-- The contents of a member. -/
def contents (member : Member) : Except MemberFault Bytes :=
  if member.isEncrypted then .error .passwordRequired
  else
    match member.data with
    | none => .error .noLocalHeader
    | some data => do
      let restored ← restore member.method data
      if Checksum.ofBytes restored = member.checksum then .ok restored
      else .error .wrongChecksum

/-- A member that is not compressed. -/
def stored (name : String) (contents : Bytes) : Member :=
  ⟨name, false, storedMethod, Checksum.ofBytes contents, some contents⟩

@[simp]
theorem contents_stored (name : String) (data : Bytes) :
    (stored name data).contents = .ok data := by
  simp [contents, stored, restore, bind, Except.bind]

end Member

end Archive

/-- An archive: its members, in the order of its directory. -/
structure Archive where
  members : List Archive.Member
  deriving DecidableEq, Repr

namespace Archive

/-- Adds a member in place of the one of the same name, or at the end if there is none. -/
def insert (members : List Member) (member : Member) : List Member :=
  if members.any (·.name == member.name) then
    members.map fun other => if other.name = member.name then member else other
  else members ++ [member]

/-- The archive of a list of members, of which the last one of each name counts. -/
def ofMembers (members : List Member) : Archive :=
  ⟨members.foldl insert []⟩

/-- Whether a name is that of a directory. -/
def isDirectoryName (name : String) : Bool :=
  name.toList.getLast? == some '/'

/-- An archive of files and directories with the given names, if no two names are equal.
Directories have no contents. -/
def ofEntries? (entries : List (String × Bytes)) : Option Archive :=
  if (entries.map (·.1)).Nodup then
    some ⟨entries.map fun (name, data) =>
      .stored name (if isDirectoryName name then [] else data)⟩
  else none

end Archive

end CallGraph
