import PureService.Files.FilePath
import PureService.Sorting

/-!
# File trees

A tree of directories and files, seen from a working directory. Something stands at a place:
the names on the way to it from the root. A path leads to a place step by step, so every step
but the last one has to end at a directory; so does the last one if a slash or a dot follows it.

Every change of a tree is either made as a whole or refused.
-/

namespace PureService

/-- Why the system refuses an operation on files. -/
inductive FileError where
  | notFound
  | alreadyExists
  | notDirectory
  | isDirectory
  | nameTooLong
  | nulInPath
  | notUnicode
  deriving DecidableEq, Repr

def FileError.message : FileError → String
  | notFound => "No such file or directory (os error 2)"
  | alreadyExists => "File exists (os error 17)"
  | notDirectory => "Not a directory (os error 20)"
  | isDirectory => "Is a directory (os error 21)"
  | nameTooLong => "File name too long (os error 36)"
  | nulInPath => "file name contained an unexpected NUL byte"
  | notUnicode => "stream did not contain valid UTF-8"

/-- What a file holds: a text or bytes that are none. -/
inductive Content where
  | text (text : String)
  | bytes (bytes : List UInt8)
  deriving DecidableEq, Repr

def Content.ofBytes (bytes : List UInt8) : Content :=
  match String.fromUTF8? ⟨bytes.toArray⟩ with
  | some decoded => .text decoded
  | none => .bytes bytes

inductive Entry where
  | directory
  | file (content : Content)
  deriving DecidableEq, Repr

/-- The names on the way from the root to an entry. -/
abbrev Place := List String

structure FileTree where
  workingDirectory : Place
  /-- What stands where. The root is a directory without being listed. -/
  entries : List (Place × Entry)
  deriving DecidableEq, Repr

namespace FileTree

/-- The tree in which there is nothing but the working directory, which has the given name. -/
def withDirectory (name : String) : FileTree :=
  ⟨[name], [([name], .directory)]⟩

def entry? (tree : FileTree) (place : Place) : Option Entry :=
  if place.isEmpty then some .directory else tree.entries.lookup place

/-- Put an entry at a place, in the place of the entry that stands there. -/
def put (tree : FileTree) (place : Place) (entry : Entry) : FileTree :=
  { tree with
    entries := (place, entry) :: tree.entries.filter fun other => other.1 ≠ place }

/-- The names of the entries directly inside a directory, with the entries, by name. -/
def childrenOf (tree : FileTree) (directory : Place) : List (String × Entry) :=
  let inside := tree.entries.filterMap fun (place, entry) =>
    match place.getLast? with
    | some name => if place.dropLast = directory then some (name, entry) else none
    | none => none
  Sorting.sort (fun first second => first.1 ≤ second.1) inside

/-- The longest path and the longest name that the system takes, in bytes. -/
def maxPathSize : Nat := 4095
def maxNameSize : Nat := 255

/-- The system looks at the path at all. -/
def checkPath (path : FilePath) : Except FileError Unit :=
  if path.text.toList.contains (Char.ofNat 0) then .error .nulInPath
  else if path.text.utf8ByteSize > maxPathSize then .error .nameTooLong
  else if path.isEmpty then .error .notFound
  else .ok ()

/-- Where a path starts, and the segments along which it leads. -/
def wayOf (tree : FileTree) (path : FilePath) : Place × List String :=
  if path.isRooted then ([], path.segments) else (tree.workingDirectory, path.segments)

/-- Find a name in a directory. -/
def lookUp (tree : FileTree) (directory : Place) (name : String) :
    Except FileError (Option Entry) :=
  if name.utf8ByteSize > maxNameSize then .error .nameTooLong
  else .ok (tree.entry? (directory ++ [name]))

/-- The place to which segments lead from a place on. -/
def walk (tree : FileTree) : Place → List String → Except FileError Place
  | here, [] => .ok here
  | here, segment :: rest => do
    if tree.entry? here ≠ some .directory then throw .notDirectory
    if segment = "" || segment = "." then walk tree here rest
    else if segment = ".." then walk tree here.dropLast rest
    else
      match ← tree.lookUp here segment with
      | none => throw .notFound
      | some _ => walk tree (here ++ [segment]) rest

/-- The place to which a path leads, where something stands. -/
def resolve (tree : FileTree) (path : FilePath) : Except FileError Place := do
  checkPath path
  let (start, segments) := tree.wayOf path
  tree.walk start segments

/-- What stands at the end of a path. -/
def find (tree : FileTree) (path : FilePath) : Except FileError Entry := do
  match tree.entry? (← tree.resolve path) with
  | some entry => return entry
  | none => throw .notFound

def hasEntry (tree : FileTree) (path : FilePath) : Bool :=
  (tree.find path).isOk

def isDirectory (tree : FileTree) (path : FilePath) : Bool :=
  match tree.find path with
  | .ok .directory => true
  | _ => false

def readText (tree : FileTree) (path : FilePath) : Except FileError String := do
  match ← tree.find path with
  | .file (.text text) => return text
  | .file (.bytes _) => throw .notUnicode
  | .directory => throw .isDirectory

/-- The names directly inside a directory, with what they stand for, by name. There are none if the
path does not lead to a directory. -/
def children (tree : FileTree) (path : FilePath) : List (String × Entry) :=
  match tree.resolve path with
  | .ok place =>
    if tree.entry? place = some .directory then tree.childrenOf place else []
  | .error _ => []

/-- The name under which the end of a path stands in its directory; the root has none. -/
def properName (tree : FileTree) (path : FilePath) : Except FileError (Option String) :=
  (tree.resolve path).map List.getLast?

/-- The directory in which the end of a path stands or is to stand, and its last segment. Slashes
may follow it. -/
def spot (tree : FileTree) (path : FilePath) : Except FileError (Place × String) := do
  checkPath path
  let (start, segments) := tree.wayOf path
  let segments := (segments.reverse.dropWhile (· = "")).reverse
  let directory ← tree.walk start segments.dropLast
  if tree.entry? directory ≠ some .directory then throw .notDirectory
  return (directory, segments.getLastD "")

/-- The segment is no name of its own: it leads back to a directory. -/
def leadsBack (segment : String) : Bool :=
  segment = "" || segment = "." || segment = ".."

/-- Make a directory where nothing stands. -/
def makeDirectory (tree : FileTree) (path : FilePath) : Except FileError FileTree := do
  let (directory, name) ← tree.spot path
  if leadsBack name then throw .alreadyExists
  match ← tree.lookUp directory name with
  | some _ => throw .alreadyExists
  | none => return tree.put (directory ++ [name]) .directory

/-- Write a file, in the place of a file that stands there. No slash may follow its name. -/
def writeFile (tree : FileTree) (path : FilePath) (content : Content) :
    Except FileError FileTree := do
  let (directory, name) ← tree.spot path
  if leadsBack name || path.segments.getLast? = some "" then throw .isDirectory
  match ← tree.lookUp directory name with
  | some .directory => throw .isDirectory
  | _ => return tree.put (directory ++ [name]) (.file content)

/-- The files below a directory and the directories below it in which nothing stands, with their
places from there on. -/
def leavesBelow (tree : FileTree) (directory : Place) : List (Place × Entry) :=
  (tree.entries.filter fun (place, entry) =>
    directory.isPrefixOf place && place ≠ directory &&
      (entry ≠ .directory || (tree.childrenOf place).isEmpty)).map fun (place, entry) =>
    (place.drop directory.length, entry)

end FileTree

end PureService
