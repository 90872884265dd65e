import PureService.Files.FileAction
import PureService.Project.Loading

/-!
# New projects

A new project gets a configuration, a document with one transformer, a test document and a list of
files that need no versions. The name is put into the configuration as it is.
-/

namespace PureService

/-- Why no project can be made. -/
inductive InitError where
  | file (error : FileError)
  /-- The directory has no name. -/
  | nameless
  /-- There is a configuration already. -/
  | occupied (path : String)
  deriving DecidableEq, Repr

def InitError.message : InitError → String
  | file error => error.message
  | nameless => "Could not determine project name from path"
  | occupied path =>
    "Directory '" ++ path ++ "' already contains a " ++ configFileName

namespace NewProject

/-- The configuration of a project with the given name. -/
def configText (name : String) : String :=
  "# Transformer Project Configuration\n" ++
  "name: " ++ name ++ "\n" ++
  "version: \"0.1.0\"\n\n" ++
  "service:\n" ++
  "  port: 8080\n\n" ++
  "analysis:\n" ++
  "  delivery: sequential\n"

def documentName : String := "transform.yaml"

def documentText : String :=
  "# Public isolated expression-bodied functions become POST resources\n" ++
  "imports: []\n" ++
  "declarations:\n" ++
  "  - kind: function\n" ++
  "    name: toUpper\n" ++
  "    qualifiers: [public, isolated]\n" ++
  "    body: expression\n" ++
  "    parameters:\n" ++
  "      - \x7b kind: required, type: string \x7d\n" ++
  "    line: 1\n"

def testName : String := "transform_test.yaml"

def testText : String :=
  "imports: [ballerina/test]\n" ++
  "declarations:\n" ++
  "  - kind: function\n" ++
  "    name: testToUpper\n" ++
  "    annotations: [test:Config]\n" ++
  "    body: statement\n" ++
  "    line: 4\n"

def ignoreName : String := ".gitignore"

def ignoreText : String :=
  "# Generated service sources\n" ++
  "generated/\n\n" ++
  "# IDE\n" ++
  ".idea/\n" ++
  ".vscode/\n" ++
  "*.swp\n"

/-- The name that a new project gets: the given one or else that of its directory. -/
def nameFor (tree : FileTree) (path : FilePath) (name : Option String) :
    Except InitError String := do
  let found ← (tree.properName path).mapError .file
  match name <|> found with
  | some name => return name
  | none => throw .nameless

/-- Write the files of a new project into its directory. -/
def writeFiles (path : FilePath) (name : String) : FileAction FileError Unit := do
  let documents := path.child defaultModuleDirectory
  let tests := documents.child testsDirectory
  FileAction.makeDirectories tests
  FileAction.writeFile (path.child configFileName) (configText name)
  FileAction.writeFile (documents.child documentName) documentText
  FileAction.writeFile (tests.child testName) testText
  FileAction.writeFile (path.child ignoreName) ignoreText

/-- Make a new project in a directory, which is made if it is missing. -/
def make (path : FilePath) (name : Option String) : FileAction InitError Unit := do
  if !(← get).hasEntry path then
    (FileAction.makeDirectories path).adapt .file
  let name ← match nameFor (← get) path name with
    | .ok name => pure name
    | .error error => throw error
  if (← get).hasEntry (path.child configFileName) then throw (.occupied path.text)
  (writeFiles path name).adapt .file

end NewProject

end PureService
