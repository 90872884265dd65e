import PureService.Config.OfText
import PureService.Document.OfText
import PureService.Files.FileTree
import PureService.Project

/-!
# Loading projects

A project lies in a directory. Its configuration is in the file `transformer.yaml`, the documents
of its default module are in `src`, and each directory in `modules` holds a named module. Every
directory of documents may have a directory `tests` with documents that are tests. Documents are
read in the order of their names; the first one that cannot be read or decoded ends the loading.
-/

namespace PureService

/-- Why a project cannot be loaded. -/
inductive LoadError where
  | configMissing (path : String)
  | configUnreadable (failure : Yaml.Failure)
  | configUnusable (fault : ConfigFault)
  | documentUnreadable (document : String) (failure : Yaml.Failure)
  | file (error : FileError)
  deriving DecidableEq, Repr

/-- What is said about an error; nothing about the grammar of a text. -/
def LoadError.message? : LoadError → Option String
  | configMissing path => some ("configuration file not found: " ++ path)
  | configUnreadable failure => failure.message?
  | configUnusable fault => some ("invalid configuration: " ++ fault.message)
  | documentUnreadable _ failure => failure.message?
  | file error => some ("IO error: " ++ error.message)

/-- The file of a project that holds its configuration. -/
def configFileName : String := "transformer.yaml"

/-- The directory of the default module. -/
def defaultModuleDirectory : String := "src"

/-- The directory in which each directory is a named module. -/
def namedModulesDirectory : String := "modules"

/-- The directory of the test documents of a module. -/
def testsDirectory : String := "tests"

/-- A configuration and the directory of its project. -/
structure LocatedConfig where
  config : ProjectConfig
  base : FilePath
  deriving DecidableEq, Repr

/-- A project and its directory. -/
structure LocatedProject where
  project : Project
  base : FilePath
  deriving DecidableEq, Repr

/-- The name belongs to a document. -/
def isDocumentName (name : String) : Bool :=
  match FilePath.extension? name with
  | some ending => ending = "yaml" || ending = "yml"
  | none => false

/-- The paths of the documents directly inside a directory, by name. -/
def documentPaths (tree : FileTree) (directory : FilePath) : List FilePath :=
  (tree.children directory).filterMap fun (name, entry) =>
    if entry ≠ .directory && isDocumentName name then some (directory.child name) else none

/-- The names of the directories directly inside a directory, by name. -/
def directoryNames (tree : FileTree) (directory : FilePath) : List String :=
  (tree.children directory).filterMap fun (name, entry) =>
    if entry = .directory then some name else none

namespace LocatedConfig

/-- The path of the configuration and the directory of the project, from the path of either of
them. -/
def placesOf (tree : FileTree) (path : FilePath) : FilePath × FilePath :=
  if tree.isDirectory path then (path.child configFileName, path)
  else (path, path.parent?.getD (.ofName "."))

/-- Load a configuration that can be used. -/
def load (tree : FileTree) (path : FilePath) : Except LoadError LocatedConfig := do
  let (configPath, base) := placesOf tree path
  if !tree.hasEntry configPath then throw (.configMissing configPath.text)
  let text ← (tree.readText configPath).mapError .file
  let config ← (ProjectConfig.ofText text).mapError .configUnreadable
  match config.fault? with
  | some fault => throw (.configUnusable fault)
  | none => return ⟨config, base⟩

/-- Load one document. Its name is its path as seen from the project. -/
def loadDocument (located : LocatedConfig) (tree : FileTree) (path : FilePath)
    (inTests : Bool) : Except LoadError Document := do
  let name := (path.relativeTo located.base).text
  let text ← (tree.readText path).mapError .file
  (Document.ofText name text inTests).mapError (.documentUnreadable name)

/-- Load a module: the documents of its directory, and the tests after them. -/
def loadModule (located : LocatedConfig) (tree : FileTree) (name : String) (isDefault : Bool)
    (directory : FilePath) : Except LoadError SourceModule := do
  let documents ← (documentPaths tree directory).mapM (located.loadDocument tree · false)
  let tests ← (documentPaths tree (directory.child testsDirectory)).mapM
    (located.loadDocument tree · true)
  return .ofDocuments name isDefault (documents ++ tests)

def loadDefaultModule (located : LocatedConfig) (tree : FileTree) :
    Except LoadError SourceModule :=
  located.loadModule tree located.config.name true (located.base.child defaultModuleDirectory)

/-- Load the named modules by name. The name of the project stands before the name of each. -/
def loadNamedModules (located : LocatedConfig) (tree : FileTree) :
    Except LoadError (List SourceModule) :=
  let directory := located.base.child namedModulesDirectory
  (directoryNames tree directory).mapM fun name =>
    located.loadModule tree (located.config.name ++ "." ++ name) false (directory.child name)

end LocatedConfig

/-- Load the project whose directory or configuration has the given path. -/
def LocatedProject.load (tree : FileTree) (path : FilePath) :
    Except LoadError LocatedProject := do
  let located ← LocatedConfig.load tree path
  let defaultModule ← located.loadDefaultModule tree
  let namedModules ← located.loadNamedModules tree
  return ⟨⟨located.config, defaultModule, namedModules⟩, located.base⟩

/-- The configuration of a project with its directory. -/
def LocatedProject.located (loaded : LocatedProject) : LocatedConfig :=
  ⟨loaded.project.config, loaded.base⟩

end PureService
