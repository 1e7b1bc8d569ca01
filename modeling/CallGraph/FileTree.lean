import CallGraph.Archive.Directory
import CallGraph.Build.Visit
import CallGraph.Text.Split

/-!
# Trees of files

A tree holds files and directories below a working directory.  A path is followed step by step;
every step but the last has to lead to a directory.  Places outside the working directory have
names of their own: a row of `..`, or `/` for the root.
-/

namespace CallGraph

/-- A place in a tree: the names on the way to it. -/
abbrev Place := List String

/-- What can be at a place. -/
inductive Node where
  | directory
  | file (contents : Bytes)
  deriving DecidableEq, Repr

/-- Files and directories, each at its place. -/
structure FileTree where
  nodes : List (Place × Node)
  deriving DecidableEq, Repr

namespace FileTree

/-- The steps of a path. -/
def steps (path : String) : List String :=
  Split.fragments '/' path

/-- Whether a path starts at the root. -/
def isAbsolute (path : String) : Bool :=
  path.toList.head? == some '/'

/-- Whether a path says that it leads to a directory. -/
def endsInSlash (path : String) : Bool :=
  path.toList.getLast? == some '/'

/-- The place where a path starts. -/
def startOf (path : String) : Place :=
  if isAbsolute path then ["/"] else []

/-- The place above another one. -/
def above (place : Place) : Place :=
  if place = ["/"] then place
  else if place.all (· == "..") then ".." :: place
  else place.dropLast

/-- Whether a place is the working directory or above it. -/
def isOutermost (place : Place) : Bool :=
  place == ["/"] || place.all (· == "..")

/-- The most bytes that a name may have. -/
def nameLimit : Nat := 255

/-- What a path leads to. -/
inductive Target where
  | directory (place : Place)
  | file (place : Place) (contents : Bytes)
  /-- Nothing yet, at a place in a directory. -/
  | absent (place : Place)
  /-- A directory on the way does not exist. -/
  | noEntry
  /-- Something on the way is no directory. -/
  | noDirectory
  | nameTooLong
  deriving DecidableEq, Repr

/-- What is at a place. -/
def node? (tree : FileTree) (place : Place) : Option Node :=
  if isOutermost place then some .directory else tree.nodes.lookup place

/-- Follows steps from a directory. -/
def follow (tree : FileTree) (place : Place) : List String → Target
  | [] => .directory place
  | "." :: rest => tree.follow place rest
  | ".." :: rest => tree.follow (above place) rest
  | name :: rest =>
    if nameLimit < name.utf8ByteSize then .nameTooLong
    else
      let next := place ++ [name]
      match tree.node? next, rest with
      | some .directory, rest => tree.follow next rest
      | some (.file contents), [] => .file next contents
      | some (.file _), _ :: _ => .noDirectory
      | none, [] => .absent next
      | none, _ :: _ => .noEntry

/-- What a path leads to. -/
def resolve (tree : FileTree) (path : String) : Target :=
  if path.isEmpty then .noEntry else tree.follow (startOf path) (steps path)

/-- The contents of the file that a path leads to. -/
def read? (tree : FileTree) (path : String) : Option Bytes :=
  match tree.resolve path with
  | .file _ contents => if endsInSlash path then none else some contents
  | _ => none

/-- What is found where an archive is looked for. -/
def lookup (tree : FileTree) (path : String) : Lookup :=
  match tree.resolve path with
  | .directory _ => .unreadable
  | .file _ contents =>
    if endsInSlash path then .missing
    else
      match Archive.ofBytes? contents with
      | some archive => .archive archive
      | none => .unreadable
  | _ => .missing

/-! ## Changes -/

/-- A tree without files. -/
def empty : FileTree :=
  ⟨[]⟩

/-- Puts something at a place. -/
def put (tree : FileTree) (place : Place) (node : Node) : FileTree :=
  ⟨(place, node) :: tree.nodes.filter (·.1 != place)⟩

/-- Makes directories of all that lies on the way to a place. -/
def makeParents (tree : FileTree) (place : Place) : FileTree :=
  (List.range place.length).foldl
    (fun tree count =>
      let parent := place.take count
      if tree.node? parent = some .directory then tree else tree.put parent .directory)
    tree

/-- Takes steps without looking. -/
def goTo (place : Place) : List String → Place
  | [] => place
  | "." :: rest => goTo place rest
  | ".." :: rest => goTo (above place) rest
  | name :: rest => goTo (place ++ [name]) rest

/-- The place that a path names. -/
def placeOf (path : String) : Place :=
  goTo (startOf path) (steps path)

/-- Puts something where a path leads to, with directories on the way. -/
def putAt (tree : FileTree) (path : String) (node : Node) : FileTree :=
  (tree.makeParents (placeOf path)).put (placeOf path) node

/-- Removes what a path leads to, with all that is below it. -/
def remove (tree : FileTree) (path : String) : FileTree :=
  ⟨tree.nodes.filter fun entry => !(placeOf path).isPrefixOf entry.1⟩

/-- Adds bytes to the file at a place. -/
def append (tree : FileTree) (place : Place) (bytes : Bytes) : FileTree :=
  match tree.node? place with
  | some (.file contents) => tree.put place (.file (contents ++ bytes))
  | _ => tree

/-- Why a file cannot be created. -/
inductive CreateFault where
  | noEntry
  | noDirectory
  | isDirectory
  | nameTooLong
  deriving DecidableEq, Repr

/-- The wording of a fault. -/
def CreateFault.message : CreateFault → String
  | noEntry => "No such file or directory (os error 2)"
  | noDirectory => "Not a directory (os error 20)"
  | isDirectory => "Is a directory (os error 21)"
  | nameTooLong => "File name too long (os error 36)"

/-- Makes an empty file where a path leads to; a file that is there loses its contents. -/
def create (tree : FileTree) (path : String) : Except CreateFault (FileTree × Place) :=
  match tree.resolve path with
  | .directory _ => .error .isDirectory
  | .file place _ => atPlace place
  | .absent place => atPlace place
  | .noEntry => .error .noEntry
  | .noDirectory => .error .noDirectory
  | .nameTooLong => .error .nameTooLong
where
  /-- Makes the file, unless the path says that it is a directory. -/
  atPlace (place : Place) : Except CreateFault (FileTree × Place) :=
    if endsInSlash path then .error .isDirectory
    else .ok (tree.put place (.file []), place)

end FileTree

end CallGraph
