import PureService.Command.Run

/-!
# The program

The program looks at the part of the disk that its command is about, runs the command on it as on
any file tree, and writes to the disk what the command has changed.
-/

namespace PureService.Disk

/-- The text of a place on the disk. -/
def pathOf (place : Place) : String :=
  "/" ++ String.intercalate "/" place

/-- What stands at a place on the disk. -/
def entryAt (place : Place) : IO (Option Entry) := do
  let path ← try IO.FS.realPath (pathOf place) catch _ => return none
  if ← path.isDir then return some .directory
  else return some (.file (.ofBytes (← IO.FS.readBinFile path).toList))

/-- Look at what stands at a place. -/
def lookAt (tree : FileTree) (place : Place) : IO FileTree := do
  match ← entryAt place with
  | some entry => return tree.put place entry
  | none => return tree

/-- Look at everything along a path. -/
def lookAlong (tree : FileTree) (path : FilePath) : IO FileTree := do
  let (start, segments) := tree.wayOf path
  let names := segments.filter fun segment => segment ≠ "" && segment ≠ "."
  let (found, _) ← names.foldlM (fun (tree, here) name => do
    let place := if name = ".." then here.dropLast else here ++ [name]
    return (← lookAt tree place, place)) (tree, start)
  return found

/-- Look at everything below a directory, down to a depth. -/
def lookBelow : Nat → FileTree → FilePath → IO FileTree
  | 0, tree, _ => return tree
  | depth + 1, tree, path => do
    let seen ← lookAlong tree path
    match seen.resolve path with
    | .error _ => return seen
    | .ok place =>
      if seen.entry? place ≠ some .directory then return seen
      let entries ← (← IO.FS.realPath (pathOf place)).readDir
      entries.toList.foldlM (fun tree entry => lookBelow depth tree (path.child entry.fileName))
        seen

/-- Look at the directories around the working directory. -/
def start : IO FileTree := do
  let directory := FilePath.ofText (← IO.currentDir).toString
  let place := directory.segments.filter (· ≠ "")
  lookAlong ⟨place, []⟩ directory

/-- Look at a project, given the path of its directory or of its configuration. -/
def lookAtProject (tree : FileTree) (path : FilePath) : IO FileTree := do
  let seen ← lookAlong (← lookAlong tree path) (path.child configFileName)
  let base := (LocatedConfig.placesOf seen path).2
  let seen ← lookBelow 3 seen (base.child defaultModuleDirectory)
  lookBelow 4 seen (base.child namedModulesDirectory)

/-- Look at the files that a new project gets. -/
def lookAtNewProject (tree : FileTree) (path : FilePath) : IO FileTree := do
  let documents := path.child defaultModuleDirectory
  [path.child configFileName, documents.child NewProject.documentName,
    (documents.child testsDirectory).child NewProject.testName,
    path.child NewProject.ignoreName].foldlM lookAlong tree

/-- Look at the file into which the service of a project would be written. -/
def lookAtService (tree : FileTree) (config : FilePath) (output : Option String) :
    IO FileTree := do
  match LocatedProject.load tree config with
  | .error _ => return tree
  | .ok loaded =>
    let directory := Command.directoryFor loaded output
    match loaded.project.compile none [] with
    | .error _ => return tree
    | .ok compilation =>
      lookAlong (← lookAlong tree directory) (compilation.service.pathIn directory)

/-- Look at what a command is about. -/
def lookFor (tree : FileTree) : Request → IO FileTree
  | .perform (.init path _) => lookAtNewProject tree (.ofText path)
  | .perform (.check config _ _) => lookAtProject tree (.ofText config)
  | .perform (.generate config output _ _) => do
    lookAtService (← lookAtProject tree (.ofText config)) (.ofText config) output
  | .showVersion | .showHelp => return tree

/-- Write what has changed to the disk, directories before what stands in them. -/
def writeChanges (before after : FileTree) : IO Unit :=
  after.entries.reverse.forM fun (place, entry) => do
    if before.entry? place ≠ some entry then
      match entry with
      | .directory => IO.FS.createDirAll (pathOf place)
      | .file (.text text) => IO.FS.writeFile (pathOf place) text
      | .file (.bytes bytes) => IO.FS.writeBinFile (pathOf place) ⟨bytes.toArray⟩

/-- Run the program on the disk. -/
def run (arguments : List String) : IO Outcome := do
  match Arguments.read arguments with
  | none => return .misuse
  | some request =>
    let before ← lookFor (← start) request
    let (outcome, after) := request.run [] before
    writeChanges before after
    return outcome

end PureService.Disk

def main (arguments : List String) : IO UInt32 := do
  let outcome ← PureService.Disk.run arguments
  IO.print outcome.output
  if let some error := outcome.error then IO.eprintln ("Error: " ++ error)
  if outcome.exitCode = 2 then IO.eprint PureService.Request.helpText
  return outcome.exitCode.toUInt32
