import PureService.Proofs.Analysis.Exposure
import PureService.Proofs.Files.Change
import PureService.Proofs.Project.Loading

/-!
# Loading from a tree that resembles another

Two trees resemble each other for a loader when the files that it reads are the
same and directories only came.  A directory that came among the named modules
is a module without documents, so the project that is loaded has the same
documents in the same order.
-/

namespace PureService

open Attempts FilePath

/-- Files of this name are read when a project is loaded. -/
def IsProjectFileName (name : String) : Prop :=
  name = configFileName ∨ isDocumentName name = true

/-- The second tree has the project files of the first one, and its directories at least. -/
structure FileTree.Resembles (before after : FileTree) : Prop where
  keeps : before.Keeps after
  projectFile : ∀ {place : Place} {name : String} {content : Content}, IsProjectFileName name →
    (before.entry? (place ++ [name]) = some (.file content) ↔
      after.entry? (place ++ [name]) = some (.file content))

/-- The directories that were selected before are those selected now that were there before. -/
theorem FileTree.Selects.eq_filter_of_keeps {before after : FileTree} {directory : FilePath}
    {place : Place} {names namesAfter : List String}
    (selects : before.Selects isDirectoryChild directory place names)
    (selectsAfter : after.Selects isDirectoryChild directory place namesAfter)
    (keeps : before.Keeps after) : names = namesAfter.filter (· ∈ names) := by
  refine selects.ordered.eq_of_mem_iff (selectsAfter.ordered.filter _) ?_
  intro name
  rw [List.mem_filter, decide_eq_true_eq]
  refine ⟨fun member => ⟨?_, member⟩, And.right⟩
  obtain ⟨fits, entry, stands, isDirectory⟩ := (selects.mem_iff name).mp member
  obtain rfl : entry = .directory := of_decide_eq_true isDirectory
  exact (selectsAfter.mem_iff name).mpr ⟨fits, _, keeps.directory stands, rfl⟩

section Reload

variable {before after : FileTree} (resembles : before.Resembles after)
  (properBefore : before.IsProper) (properAfter : after.IsProper)

include resembles

theorem FileTree.Resembles.isDocumentChild_iff (place : Place) (name : String) :
    (∃ entry, before.entry? (place ++ [name]) = some entry ∧
        isDocumentChild (name, entry) = true) ↔
      ∃ entry, after.entry? (place ++ [name]) = some entry ∧
        isDocumentChild (name, entry) = true := by
  have isFile (entry : Entry) : isDocumentChild (name, entry) = true ↔
      isDocumentName name = true ∧ ∃ content, entry = .file content := by
    cases entry <;> simp [isDocumentChild]
  simp only [isFile]
  constructor <;> rintro ⟨_, stands, named, content, rfl⟩
  · exact ⟨_, (resembles.projectFile (.inr named)).mp stands, named, content, rfl⟩
  · exact ⟨_, (resembles.projectFile (.inr named)).mpr stands, named, content, rfl⟩

include properBefore properAfter

variable {located : LocatedConfig} {place : Place} (leads : before.LeadsTo located.base place)

include leads

theorem readText_of_resembles {names : List String} {name text : String}
    (isProject : IsProjectFileName name) (valid : ∀ part ∈ names ++ [name], IsName part)
    (read : before.readText (located.base.below (names ++ [name])) = .ok text) :
    after.readText (located.base.below (names ++ [name])) = .ok text := by
  rw [leads.readText_below_iff valid properBefore, ← List.append_assoc] at read
  rw [(resembles.keeps.leadsTo leads).readText_below_iff valid properAfter, ← List.append_assoc]
  exact ⟨read.1, (resembles.projectFile isProject).mp read.2⟩

variable (free : located.base.IsNulFree)

include free

theorem moduleLayout_of_resembles {directory : List String} (someName : directory ≠ [])
    (valid : ∀ name ∈ directory, IsName name) :
    after.moduleLayout located.base directory = before.moduleLayout located.base directory := by
  have describes := describes_moduleLayout leads properBefore free someName valid
  have describesAfter :=
    describes_moduleLayout (resembles.keeps.leadsTo leads) properAfter free someName valid
  have names := describes.names.unique describesAfter.names
    (resembles.isDocumentChild_iff _)
  have tests := describes.tests.unique describesAfter.tests
    (resembles.isDocumentChild_iff _)
  rw [ModuleLayout.mk.injEq]
  exact ⟨rfl, names.symm, tests.symm⟩

theorem loadModule_of_resembles {directory : List String} (someName : directory ≠ [])
    (valid : ∀ name ∈ directory, IsName name) {name : String} {isDefault : Bool}
    {module_ : SourceModule}
    (loaded : located.loadModule before name isDefault (located.base.below directory) =
      .ok module_) :
    located.loadModule after name isDefault (located.base.below directory) = .ok module_ := by
  have describes := describes_moduleLayout leads properBefore free someName valid
  rw [located.loadModule_eq, map_eq_ok_iff] at loaded ⊢
  rw [moduleLayout_of_resembles resembles properBefore properAfter leads free someName valid]
  obtain ⟨documents, loaded, made⟩ := loaded
  refine ⟨documents, mapM_eq_ok_of_imp ?_ loaded, made⟩
  intro file member document loadedFile
  obtain ⟨names, last, way, isDocument⟩ := describes.exists_way_eq_concat member
  have validFile := describes.isName_of_mem_files properBefore valid member
  rw [located.loadFile_eq_ok_iff _ (ModuleLayout.way_ne_nil member) validFile] at loadedFile ⊢
  obtain ⟨text, read, decoded⟩ := loadedFile
  rw [way] at read validFile ⊢
  exact ⟨text, readText_of_resembles resembles properBefore properAfter leads (.inr isDocument)
    validFile read, decoded⟩

theorem loadNamedModules_of_resembles {modules : List SourceModule}
    (loaded : located.loadNamedModules before = .ok modules) :
    ∃ reloaded, located.loadNamedModules after = .ok reloaded ∧
      reloaded.flatMap (fun module_ => module_.documents.map (·, module_.isDefault)) =
        modules.flatMap fun module_ => module_.documents.map (·, module_.isDefault) := by
  have selects := selects_namedModules leads properBefore free
  have selectsAfter := selects_namedModules (resembles.keeps.leadsTo leads) properAfter free
  rw [LocatedConfig.loadNamedModules_eq_mapM] at loaded ⊢
  generalize before.selection isDirectoryChild _ = names at selects loaded
  generalize after.selection isDirectoryChild _ = namesAfter at selectsAfter ⊢
  have modulesValid : IsName namedModulesDirectory := by decide
  have valid {name : String} (nameValid : IsName name) :
      ∀ part ∈ [namedModulesDirectory, name], IsName part := by
    simpa using ⟨modulesValid, nameValid⟩
  have still := selects.eq_filter_of_keeps selectsAfter resembles.keeps
  -- The modules from before are loaded as they were, and those that came have no documents.
  have kept : names.mapM (fun name =>
      located.loadModule after (located.config.name ++ "." ++ name) false
        (located.base.below [namedModulesDirectory, name])) = .ok modules := by
    refine mapM_eq_ok_of_imp ?_ loaded
    intro name member module_ loadedModule
    have nameValid := selects.isName properBefore member
    exact loadModule_of_resembles resembles properBefore properAfter leads free (by simp)
      (valid nameValid) loadedModule
  rw [still] at kept
  refine mapM_of_filter ?_ kept
  intro name member came
  have nameValid := selectsAfter.isName properAfter member
  have absent : before.entry? (place ++ [namedModulesDirectory, name]) ≠ some .directory := by
    intro stands
    have fits := ((selectsAfter.mem_iff name).mp member).1
    have listed := (selects.mem_iff name).mpr ⟨fits, _, by simpa using stands, rfl⟩
    exact of_decide_eq_false came listed
  rw [located.loadModule_eq, moduleLayout_of_resembles resembles properBefore properAfter leads free
    (by simp) (valid nameValid), files_moduleLayout_of_absent leads properBefore free (by simp)
    (valid nameValid) absent]
  exact ⟨_, rfl, rfl⟩

end Reload

section Project

variable {before after : FileTree} (resembles : before.Resembles after)
  (properBefore : before.IsProper) (properAfter : after.IsProper) {path : FilePath}
  (directory : before.isDirectory path = true)

include resembles properBefore properAfter directory

theorem LocatedConfig.load_of_resembles {located : LocatedConfig}
    (configured : load before path = .ok located) : load after path = .ok located := by
  have directoryAfter := resembles.keeps.isDirectory directory
  obtain ⟨-, place, leads⟩ := FileTree.isDirectory_iff.mp directory
  obtain rfl := base_of_isDirectory directory configured
  rw [load_eq_ok_iff, placesOf, if_pos directory] at configured
  rw [load_eq_ok_iff, placesOf, if_pos directoryAfter]
  obtain ⟨text, read, decoded, usable, -⟩ := configured
  have valid : ∀ name ∈ [] ++ [configFileName], IsName name := by decide
  have still :=
    readText_of_resembles resembles properBefore properAfter leads (.inl rfl) valid read
  exact ⟨text, still, decoded, usable, rfl⟩

/-- The project is loaded again, with the same documents in the same order. -/
theorem LocatedProject.load_of_resembles {loaded : LocatedProject}
    (succeeded : load before path = .ok loaded) :
    ∃ reloaded, load after path = .ok reloaded ∧ reloaded.base = loaded.base ∧
      reloaded.project.config = loaded.project.config ∧
      reloaded.project.defaultModule = loaded.project.defaultModule ∧
      reloaded.project.deliveries = loaded.project.deliveries := by
  rw [load] at succeeded
  simp only [bind_eq_ok_iff] at succeeded
  obtain ⟨located, configured, defaultModule, defaultLoaded, namedModules, namedLoaded, made⟩ :=
    succeeded
  cases made
  have configuredAfter :=
    LocatedConfig.load_of_resembles resembles properBefore properAfter directory configured
  obtain ⟨taken, place, leads⟩ := FileTree.isDirectory_iff.mp directory
  rw [← LocatedConfig.base_of_isDirectory directory configured] at taken leads
  have free := (FileTree.checkPath_eq_ok_iff.mp taken).1
  have sourceValid : ∀ name ∈ [defaultModuleDirectory], IsName name := by decide
  have defaultAfter : located.loadDefaultModule after = .ok defaultModule :=
    loadModule_of_resembles resembles properBefore properAfter leads free (by simp) sourceValid
      defaultLoaded
  obtain ⟨reloaded, namedAfter, deliveries⟩ :=
    loadNamedModules_of_resembles resembles properBefore properAfter leads free namedLoaded
  refine ⟨⟨⟨located.config, defaultModule, reloaded⟩, located.base⟩, ?_, rfl, rfl, rfl, ?_⟩
  · rw [load_eq_of_configured configuredAfter, defaultAfter, namedAfter]
    rfl
  · rw [Project.deliveries, Project.deliveries, Project.modules, Project.modules,
      List.flatMap_cons, List.flatMap_cons, deliveries]

end Project

/-- What is compiled is decided by the configuration, the default module and the documents. -/
theorem Project.compile_eq_of_deliveries {first second : Project}
    (config : first.config = second.config)
    (defaultModule : first.defaultModule = second.defaultModule)
    (deliveries : first.deliveries = second.deliveries) (delivery : Option Delivery)
    (schedule : Analysis.Schedule) :
    first.compile delivery schedule = second.compile delivery schedule := by
  have sequential : first.analyze = second.analyze := by
    rw [Analysis.analyze_eq_analyzeDelivered, Analysis.analyze_eq_analyzeDelivered,
      analyzeDelivered, analyzeDelivered, defaultModule, deliveries]
  have concurrent : first.analyzeConcurrently schedule = second.analyzeConcurrently schedule := by
    rw [analyzeConcurrently, analyzeConcurrently, Analysis.Execution.ofProject,
      Analysis.Execution.ofProject, defaultModule, deliveries]
  have analyzed : first.analyzeBy delivery schedule = second.analyzeBy delivery schedule := by
    rw [analyzeBy, analyzeBy, config, sequential, concurrent]
  rw [Analysis.compile_eq_map_ofNames, Analysis.compile_eq_map_ofNames, analyzed, config]

end PureService
