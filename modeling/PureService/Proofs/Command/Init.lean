import PureService.Command.Run
import PureService.Proofs.Analysis.Exposure
import PureService.Proofs.Files.Contents
import PureService.Proofs.Project.Loading
import PureService.Proofs.Project.NewConfig

/-!
# What is initialized

A new project in an empty directory can be loaded and has nothing that the
analysis would report.  Its name is the one that was given, provided that the
name can stand for itself in the configuration.
-/

namespace PureService

open Attempts FilePath

namespace NewProject

/-! ### The files of a new project -/

def documentFile : DocumentFile := ⟨[defaultModuleDirectory, documentName], false⟩

def testFile : DocumentFile := ⟨[defaultModuleDirectory, testsDirectory, testName], true⟩

/-- What a new project contains. -/
def contents (name : String) : List (List String × Entry) :=
  [([ignoreName], .file (.text ignoreText)),
    (testFile.way, .file (.text testText)),
    (documentFile.way, .file (.text documentText)),
    ([configFileName], .file (.text (configText name))),
    ([defaultModuleDirectory, testsDirectory], .directory),
    ([defaultModuleDirectory], .directory),
    ([], .directory)]

/-- The longest path of a new project in the directory fits. -/
def Fits (path : FilePath) : Prop :=
  (path.below testFile.way).text.utf8ByteSize ≤ FileTree.maxPathSize

instance (path : FilePath) : Decidable (Fits path) :=
  inferInstanceAs (Decidable (_ ≤ _))

/-- All other paths of a new project are shorter than that of the test. -/
theorem Fits.below {path : FilePath} (fits : Fits path) {names : List String}
    (someName : names ≠ []) (valid : ∀ name ∈ names, IsName name)
    (shorter : (FilePath.text ⟨names⟩).utf8ByteSize ≤ testFile.name.utf8ByteSize) :
    (path.below names).text.utf8ByteSize ≤ FileTree.maxPathSize := by
  have testValid : ∀ name ∈ testFile.way, name ≠ "" := by decide
  rw [Fits, size_text_below _ (by decide) testValid, ← DocumentFile.name] at fits
  rw [size_text_below _ someName fun name member => (valid name member).nonempty]
  omega

theorem nameFor_eq_ok {tree : FileTree} {path : FilePath} {given : Option String} {name : String}
    (stands : tree.isDirectory path = true)
    (named : given = some name ∨ given = none ∧ tree.properName path = .ok (some name)) :
    nameFor tree path given = .ok name := by
  rw [nameFor]
  rcases named with rfl | ⟨rfl, own⟩
  · obtain ⟨place, resolved, -⟩ :=
      FileTree.find_eq_ok_iff.mp (FileTree.isDirectory_iff_find.mp stands)
    rw [FileTree.properName, resolved]
    rfl
  · rw [own]
    rfl

section Written

variable {tree : FileTree} {path : FilePath} {place : Place} (fits : Fits path)

include fits

/-- A file of a new project is written into a directory that is there. -/
theorem Fits.writeFile_runOn {contents : List (List String × Entry)}
    (contains : tree.Contains path place contents) (above : List String) (name text : String)
    (valid : ∀ part ∈ above ++ [name], IsName part)
    (shorter : (FilePath.text ⟨above ++ [name]⟩).utf8ByteSize ≤ testFile.name.utf8ByteSize)
    (inside : contents.lookup above = some .directory)
    (absent : contents.lookup (above ++ [name]) = none) :
    ∃ after, (FileAction.writeFile (path.below (above ++ [name])) text).runOn tree =
        (.ok (), after) ∧
      after.Contains path place ((above ++ [name], .file (.text text)) :: contents) :=
  contains.writeFile_runOn above valid (fits.below (by simp) valid shorter) inside absent text

theorem writeFiles_runOn (contains : tree.Contains path place [([], .directory)]) (name : String) :
    ∃ after, (writeFiles path name).runOn tree = (.ok (), after) ∧
      after.Contains path place (contents name) := by
  have validTests : ∀ part ∈ [defaultModuleDirectory, testsDirectory], IsName part := by decide
  obtain ⟨made, makes, containsMade⟩ := contains.makeDirectories validTests
    (fits.below (by decide) validTests (by decide)) rfl rfl rfl
  obtain ⟨configured, configures, containsConfig⟩ := fits.writeFile_runOn containsMade []
    configFileName (configText name) (by decide) (by decide) rfl rfl
  obtain ⟨documented, documents, containsDocument⟩ := fits.writeFile_runOn containsConfig
    [defaultModuleDirectory] documentName documentText (by decide) (by decide) rfl rfl
  obtain ⟨tested, tests, containsTest⟩ := fits.writeFile_runOn containsDocument
    [defaultModuleDirectory, testsDirectory] testName testText (by decide) (by decide) rfl rfl
  obtain ⟨after, ignores, containsAll⟩ := fits.writeFile_runOn containsTest []
    ignoreName ignoreText (by decide) (by decide) rfl rfl
  refine ⟨after, ?_, containsAll⟩
  refine (FileAction.bind_runOn_eq_ok_iff _).mpr ⟨(), made, makes, ?_⟩
  refine (FileAction.bind_runOn_eq_ok_iff _).mpr ⟨(), configured, configures, ?_⟩
  refine (FileAction.bind_runOn_eq_ok_iff _).mpr ⟨(), documented, documents, ?_⟩
  exact (FileAction.bind_runOn_eq_ok_iff _).mpr ⟨(), tested, tests, ignores⟩

theorem make_runOn (contains : tree.Contains path place [([], .directory)]) {given : Option String}
    {name : String} (named : nameFor tree path given = .ok name) :
    ∃ after, (make path given).runOn tree = (.ok (), after) ∧
      after.Contains path place (contents name) := by
  obtain ⟨after, writes, containsAll⟩ := writeFiles_runOn fits contains name
  have stands : tree.hasEntry path = true :=
    FileTree.hasEntry_iff.mpr ⟨_, FileTree.isDirectory_iff_find.mp contains.isDirectory⟩
  have vacant : tree.hasEntry (path.below [configFileName]) = false :=
    contains.hasEntry_below_eq_false (by decide) (by decide) rfl
  have childOf : path.below [configFileName] = path.child configFileName := rfl
  rw [childOf] at vacant
  refine ⟨after, ?_, containsAll⟩
  simp only [make, FileAction.runOn_bind, FileAction.runOn_get, stands, named, vacant,
    Bool.not_true, Bool.false_eq_true, if_false, FileAction.runOn_pure, FileAction.runOn_adapt,
    writes]
  rfl

end Written

/-! ### What is read back -/

def document : Document where
  name := documentFile.name
  ordinal := 0
  markedTest := false
  imports := []
  declarations := [.function {
    name := "toUpper"
    qualifiers := [.pub, .isolated]
    body := .expression
    annotations := []
    parameters := [.required (.primitive .string)]
    inTestPart := false
    position := ⟨some 1, none⟩ }]

def testDocument : Document where
  name := testFile.name
  ordinal := 0
  markedTest := true
  imports := ["ballerina/test"]
  declarations := [.function {
    name := "testToUpper"
    qualifiers := []
    body := .statement
    annotations := ["test:Config"]
    parameters := []
    inTestPart := true
    position := ⟨some 4, none⟩ }]

theorem ofText_documentText :
    Document.ofText documentFile.name documentText documentFile.inTests = .ok document := by
  decide +kernel

theorem ofText_testText :
    Document.ofText testFile.name testText testFile.inTests = .ok testDocument := by
  decide +kernel

/-- The project that is read from the files of a new project with the given configuration. -/
def project (config : ProjectConfig) : Project where
  config := config
  defaultModule := .ofDocuments config.name true [document, testDocument]
  namedModules := []

/-- However its documents are delivered, and whatever turns their analyses take, a new project
compiles, and nothing is reported. -/
theorem compile_project (config : ProjectConfig) (delivery : Option Delivery)
    (schedule : Analysis.Schedule) :
    ∃ compilation, (project config).compile delivery schedule = .ok compilation ∧
      compilation.report.diagnostics = [] := by
  have marked : (project config).IsMarked := ⟨rfl, by simp [project]⟩
  have ordered : (project config).defaultModule.IsOrdered :=
    SourceModule.isOrdered_ofDocuments config.name true [document, testDocument]
  have accepted : ((project config).analyzeBy (some .sequential) []).hasErrors = false := rfl
  have analyzed : (project config).analyzeBy delivery schedule = (project config).analyze :=
    Analysis.analyzeBy_eq_of_accepted marked ordered accepted
  have exposed : (project config).analyze.transformers = ["toUpper"] := rfl
  obtain ⟨service, generated⟩ :
      ∃ service, Service.ofNames (project config).config.service ["toUpper"] = .ok service :=
    ⟨_, rfl⟩
  refine ⟨⟨(project config).analyze, service⟩, ?_, rfl⟩
  rw [Analysis.compile_eq_map_ofNames, analyzed, exposed, generated]
  rfl

/-- Of a default configuration, nothing but the name can be at fault. -/
theorem fault?_named {name : String} (filled : Text.isAllBlank name = false) :
    (ProjectConfig.named name).fault? = none := by
  have port : ServiceConfig.default.port ≠ 0 := by decide
  have file : Text.isAllBlank ServiceConfig.default.fileName = false := rfl
  simp [ProjectConfig.fault?, ProjectConfig.named, filled, port, file]

section Read

variable {tree : FileTree} {path : FilePath} {place : Place} {name : String}
  (contains : tree.Contains path place (contents name))

include contains

theorem projectLayout_eq (fits : Fits path) :
    tree.projectLayout path = ⟨⟨[defaultModuleDirectory], [documentName], [testName]⟩, []⟩ := by
  have documents : tree.selection isDocumentChild (path.below [defaultModuleDirectory]) =
      [documentName] := by
    refine contains.selection_eq (by simp) (by decide)
      (fits.below (by decide) (by decide) (by decide)) (by simp) ?_ ?_
    · intro found listed
      obtain rfl := List.mem_singleton.mp listed
      exact ⟨_, rfl, by decide⟩
    · intro found entry member wanted
      have either : found = documentName ∧ entry = .file (.text documentText) ∨
          found = testsDirectory ∧ entry = .directory := by
        simpa [contents, documentFile, testFile] using member
      rcases either with ⟨rfl, -⟩ | ⟨-, rfl⟩
      · simp
      · cases wanted
  have tests : tree.selection isDocumentChild
      (path.below [defaultModuleDirectory, testsDirectory]) = [testName] := by
    refine contains.selection_eq (by simp) (by decide)
      (fits.below (by decide) (by decide) (by decide)) (by simp) ?_ ?_
    · intro found listed
      obtain rfl := List.mem_singleton.mp listed
      exact ⟨_, rfl, by decide⟩
    · intro found entry member wanted
      have same : found = testName ∧ entry = .file (.text testText) := by
        simpa [contents, documentFile, testFile] using member
      simp [same]
  have modules : tree.selection isDirectoryChild (path.below [namedModulesDirectory]) = [] := by
    have other : namedModulesDirectory ≠ defaultModuleDirectory := by decide
    refine contains.selection_eq (by simp) (by decide)
      (fits.below (by decide) (by decide) (by decide)) (by simp) (by simp) ?_
    intro found entry member wanted
    simp [contents, documentFile, testFile, other] at member
  simp [FileTree.projectLayout, FileTree.moduleLayout, documents, tests, modules]

/-- The configuration that is loaded is the one that was written. -/
theorem load_config_iff (fits : Fits path) {config : ProjectConfig} :
    LocatedConfig.load tree path = .ok ⟨config, path⟩ ↔
      ProjectConfig.ofText (configText name) = .ok config ∧ config.fault? = none := by
  have places : LocatedConfig.placesOf tree path = (path.child configFileName, path) := by
    rw [LocatedConfig.placesOf, if_pos contains.isDirectory]
  have read : tree.readText (path.below [configFileName]) = .ok (configText name) :=
    contains.readText_below (by decide) (by decide)
      (fits.below (by decide) (by decide) (by decide)) rfl
  have childOf : path.below [configFileName] = path.child configFileName := rfl
  rw [childOf] at read
  simp only [LocatedConfig.load_eq_ok_iff, places, read, Except.ok.injEq, exists_eq_left',
    and_true]

theorem load_project (fits : Fits path) {config : ProjectConfig}
    (configured : LocatedConfig.load tree path = .ok ⟨config, path⟩) :
    LocatedProject.load tree path = .ok ⟨project config, path⟩ := by
  have documentRead : tree.readText (path.below documentFile.way) = .ok documentText :=
    contains.readText_below (by decide) (by decide)
      (fits.below (by decide) (by decide) (by decide)) rfl
  have testRead : tree.readText (path.below testFile.way) = .ok testText :=
    contains.readText_below (by decide) (by decide) fits rfl
  have documentLoaded : (LocatedConfig.mk config path).loadFile tree documentFile = .ok document :=
    (LocatedConfig.loadFile_eq_ok_iff _ _ (by decide) (by decide)).mpr
      ⟨documentText, documentRead, ofText_documentText⟩
  have testLoaded : (LocatedConfig.mk config path).loadFile tree testFile = .ok testDocument :=
    (LocatedConfig.loadFile_eq_ok_iff _ _ (by decide) (by decide)).mpr
      ⟨testText, testRead, ofText_testText⟩
  have files : ModuleLayout.files ⟨[defaultModuleDirectory], [documentName], [testName]⟩ =
      [documentFile, testFile] := rfl
  rw [LocatedProject.load_eq_of_configured configured, LocatedConfig.loadDefaultModule_eq,
    LocatedConfig.loadNamedModules_eq, projectLayout_eq contains fits]
  simp only [files, List.mapM_cons, documentLoaded, testLoaded]
  rfl

end Read

end NewProject

namespace Command

end Command

end PureService
