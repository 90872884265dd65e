import PureService.Text.Line

/-!
# File paths

A path is written as segments between slashes. It keeps the segments as they are written, since
paths are shown as they were given: empty segments and single dots inside a path mean nothing but
stay. The components of a path are what it means; two paths are compared by their components.
-/

namespace PureService

/-- A path as its segments, of which there is at least one. An empty first segment before other
ones stands for the root. -/
structure FilePath where
  segments : List String
  deriving DecidableEq, Repr

namespace FilePath

/-- The path that a text writes. -/
def ofText (text : String) : FilePath :=
  ⟨(Text.splitAt '/' text.toList).map String.ofList⟩

/-- The path with a single segment. -/
def ofName (name : String) : FilePath :=
  ⟨[name]⟩

def text (path : FilePath) : String :=
  String.intercalate "/" path.segments

def empty : FilePath := ⟨[""]⟩

def isEmpty (path : FilePath) : Bool :=
  path.segments = [""]

/-- The path begins at the root. -/
def isRooted (path : FilePath) : Bool :=
  match path.segments with
  | first :: _ :: _ => first = ""
  | _ => false

/-- A step on the way along a path. -/
inductive Component where
  | root
  /-- A dot at the beginning of a path. -/
  | here
  | up
  | name (name : String)
  deriving DecidableEq, Repr

/-- A segment after the first one means something. -/
def isMeaningful (segment : String) : Bool :=
  segment ≠ "" && segment ≠ "."

def Component.ofSegment (segment : String) : Component :=
  if segment = ".." then .up else .name segment

/-- The components of segments that come after the first one. -/
def laterComponents (segments : List String) : List Component :=
  (segments.filter isMeaningful).map Component.ofSegment

def components (path : FilePath) : List Component :=
  match path.segments with
  | [] => []
  | first :: rest =>
    let start :=
      if path.isRooted then [Component.root]
      else if first = "" then []
      else if first = "." then [.here]
      else [.ofSegment first]
    start ++ laterComponents rest

/-- A path seen from a base. A path that begins at the root stays as it is. -/
def join (base path : FilePath) : FilePath :=
  if path.isRooted then path
  else if base.segments.getLast? = some "" then ⟨base.segments.dropLast ++ path.segments⟩
  else ⟨base.segments ++ path.segments⟩

/-- The path of something with the given name in a directory. -/
def child (directory : FilePath) (name : String) : FilePath :=
  directory.join (ofName name)

/-- Segments without the meaningless ones at their end. -/
def trimEnd (segments : List String) : List String :=
  (segments.reverse.dropWhile fun segment => !isMeaningful segment).reverse

/-- The path without its last component. There is none above the root, nor above the path without
components. -/
def parent? (path : FilePath) : Option FilePath :=
  match path.segments with
  | [] => none
  | first :: rest =>
    match trimEnd rest with
    | [] => if first = "" then none else some empty
    | kept =>
      match trimEnd kept.dropLast with
      | [] => some ⟨if first = "" then ["", ""] else [first]⟩
      | above => some ⟨first :: above⟩

/-- Drop segments until the given number of meaningful ones is gone. -/
def dropMeaningful : Nat → List String → List String
  | 0, segments => segments
  | _, [] => []
  | count + 1, segment :: rest =>
    if isMeaningful segment then dropMeaningful count rest else dropMeaningful (count + 1) rest

/-- What is left of a path when a number of components at its beginning is dropped. -/
def dropComponents (count : Nat) (path : FilePath) : FilePath :=
  match count, path.segments with
  | _, [] => path
  | 0, first :: rest => ⟨first :: trimEnd rest⟩
  | count + 1, _ :: rest =>
    let left := (dropMeaningful count rest).dropWhile fun segment => !isMeaningful segment
    match trimEnd left with
    | [] => empty
    | kept => ⟨kept⟩

/-- The path as seen from a base at its beginning. Without such a base it stays as it is. -/
def relativeTo (path base : FilePath) : FilePath :=
  if base.components.isPrefixOf path.components then
    path.dropComponents base.components.length
  else path

/-- The part of a file name after its last dot, which may not come first. -/
def extension? (name : String) : Option String :=
  let reversed := name.toList.reverse
  let ending := reversed.takeWhile (· ≠ '.')
  match reversed.drop ending.length with
  | [] | [_] => none
  | _ => some (String.ofList ending.reverse)

end FilePath

end PureService
