import PureService.Files.FileTree

/-!
# Actions on files

An action is a sequence of operations on a file tree. When one of them is refused the action ends
with an error, and what was changed before stays changed.
-/

namespace PureService

/-- A program on a file tree that may fail. The tree that it has reached stays when it fails. -/
abbrev FileAction (ε α : Type) := ExceptT ε (StateM FileTree) α

namespace FileAction

/-- What the action yields in a tree, and the tree that it leaves. -/
def runOn {ε α : Type} (action : FileAction ε α) (tree : FileTree) : Except ε α × FileTree :=
  (action.run).run tree

/-- Change the tree as a whole, or fail. -/
def change (operation : FileTree → Except FileError FileTree) : FileAction FileError Unit := do
  match operation (← get) with
  | .ok tree => set tree
  | .error error => throw error

def makeDirectory (path : FilePath) : FileAction FileError Unit :=
  change fun tree => tree.makeDirectory path

def writeFile (path : FilePath) (text : String) : FileAction FileError Unit :=
  change fun tree => tree.writeFile path (.text text)

/-- An operation may be refused if there is a directory at the path nevertheless. -/
def unlessDirectory (path : FilePath) (error : FileError) : FileAction FileError Unit := do
  if !(← get).isDirectory path then throw error

/-- Make a directory, and before it the missing ones above it. The first number bounds how many
paths are tried. -/
def makeDirectoriesWithin : Nat → FilePath → FileAction FileError Unit
  | 0, _ => throw .notFound
  | bound + 1, path =>
    if path.isEmpty then pure ()
    else tryCatch (makeDirectory path) fun error =>
      match error, path.parent? with
      | .notFound, some parent => do
        makeDirectoriesWithin bound parent
        tryCatch (makeDirectory path) (unlessDirectory path)
      | _, _ => unlessDirectory path error

/-- Make a directory and all missing ones above it. The directory may be there already; the empty
path needs none. -/
def makeDirectories (path : FilePath) : FileAction FileError Unit :=
  makeDirectoriesWithin (path.segments.length + 1) path

end FileAction

end PureService
