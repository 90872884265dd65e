import PureService.Files.FileAction
import PureService.Service.Basic

/-!
# Writing services

A service is written into a directory, under its file name. A file that holds a text with the same
digest already is left alone, unless writing is forced.
-/

namespace PureService

/-- What became of a file that was to be written. -/
inductive WriteOutcome where
  | written | unchanged
  deriving DecidableEq, Repr

namespace Service

/-- The path of the file of a service in a directory. -/
def pathIn (service : Service) (directory : FilePath) : FilePath :=
  directory.join (.ofText service.fileName)

/-- The file at the path holds the text of the service, as far as digests tell. -/
def isUpToDate (service : Service) (tree : FileTree) (path : FilePath) : Bool :=
  match tree.readText path with
  | .ok text => Digest.ofText text == service.digest
  | .error _ => false

/-- Write the service into a directory, which is made if it is missing. -/
def write (service : Service) (directory : FilePath) (isForced : Bool) :
    FileAction FileError WriteOutcome := do
  let path := service.pathIn directory
  if !isForced && service.isUpToDate (← get) path then return .unchanged
  FileAction.makeDirectories directory
  FileAction.writeFile path service.source
  return .written

end Service

end PureService
