import PureService.Proofs.Analysis.Exposure
import PureService.Proofs.Document
import PureService.Proofs.Project.Layout

/-!
# Loading every document once

The loader reads the files of a layout that describes the tree, one after the
other.  When all of them can be read, every document stands at its place in its
module, under the path of its file; else the first file that cannot be read
decides the error.
-/

namespace PureService

open Attempts FilePath

/-! ### The configuration -/

namespace LocatedConfig

variable {tree : FileTree} {located : LocatedConfig}

theorem load_eq_ok_iff {path : FilePath} :
    load tree path = .ok located ↔
      ∃ text, tree.readText (placesOf tree path).1 = .ok text ∧
        ProjectConfig.ofText text = .ok located.config ∧ located.config.fault? = none ∧
        located.base = (placesOf tree path).2 := by
  have stands {text : String} (read : tree.readText (placesOf tree path).1 = .ok text) :
      tree.hasEntry (placesOf tree path).1 = true := by
    rw [FileTree.hasEntry, FileTree.readText_eq_ok_iff.mp read]
    rfl
  obtain ⟨config, base⟩ := located
  rw [load]
  generalize placesOf tree path = places at stands
  obtain ⟨configPath, found⟩ := places
  dsimp only at stands ⊢
  constructor
  · intro loaded
    split at loaded
    · cases loaded
    · simp only [bind_eq_ok_iff, mapError_eq_ok_iff] at loaded
      obtain ⟨text, read, found, decoded, usable⟩ := loaded
      split at usable <;> cases usable
      exact ⟨text, read, decoded, by assumption, rfl⟩
  · rintro ⟨text, read, decoded, usable, rfl⟩
    rw [stands read, if_neg (by decide)]
    simp only [bind_eq_ok_iff, mapError_eq_ok_iff]
    refine ⟨text, read, config, decoded, ?_⟩
    rw [usable]
    rfl

theorem base_of_isDirectory {path : FilePath} (directory : tree.isDirectory path = true)
    (loaded : load tree path = .ok located) : located.base = path := by
  obtain ⟨-, -, -, -, base⟩ := load_eq_ok_iff.mp loaded
  rwa [placesOf, if_pos directory] at base

/-- The directory of a project is one, and its path can be gone on with. -/
theorem exists_leadsTo_base (proper : tree.IsProper) {path : String}
    (loaded : load tree (.ofText path) = .ok located) :
    located.base.IsNulFree ∧ ∃ place, tree.LeadsTo located.base place := by
  obtain ⟨text, read, -, -, base⟩ := load_eq_ok_iff.mp loaded
  rw [placesOf] at read base
  split at read
  next directory =>
    rw [if_pos directory] at base
    obtain ⟨taken, place, leads⟩ := FileTree.isDirectory_iff.mp directory
    rw [base]
    exact ⟨(FileTree.checkPath_eq_ok_iff.mp taken).1, place, leads⟩
  next other =>
    rw [if_neg other] at base
    rw [FileTree.readText_eq_ok_iff, FileTree.find_eq_ok_iff] at read
    obtain ⟨place, resolved, file⟩ := read
    obtain ⟨taken, walked⟩ := FileTree.resolve_eq_ok_iff.mp resolved
    obtain ⟨above, parent, leads⟩ :=
      proper.exists_leadsTo_parent (segments_ofText_ne_nil path) walked file
    rw [base, parent]
    exact ⟨(FileTree.checkPath_eq_ok_iff.mp taken).1.parent? parent, place.dropLast, leads⟩

/-! ### The files of a layout -/

/-- Load one of the files of a layout. -/
def loadFile (located : LocatedConfig) (tree : FileTree) (file : DocumentFile) :
    Except LoadError Document :=
  located.loadDocument tree (located.base.below file.way) file.inTests

end LocatedConfig

namespace FileTree

/-- The layout that a directory of documents has in the tree. -/
def moduleLayout (tree : FileTree) (base : FilePath) (directory : List String) : ModuleLayout where
  directory := directory
  names := tree.selection isDocumentChild (base.below directory)
  tests := tree.selection isDocumentChild (base.below (directory ++ [testsDirectory]))

def projectLayout (tree : FileTree) (base : FilePath) : ProjectLayout where
  defaultModule := tree.moduleLayout base [defaultModuleDirectory]
  namedModules := (tree.selection isDirectoryChild (base.below [namedModulesDirectory])).map
    fun name => (name, tree.moduleLayout base [namedModulesDirectory, name])

end FileTree

section Layouts

variable {tree : FileTree} {base : FilePath} {place : Place} (leads : tree.LeadsTo base place)
  (proper : tree.IsProper) (free : base.IsNulFree)

include leads proper free

theorem describes_moduleLayout {directory : List String} (someName : directory ≠ [])
    (valid : ∀ name ∈ directory, IsName name) :
    (tree.moduleLayout base directory).Describes tree base place where
  names := leads.selects_selection proper free _ someName valid
  tests := by
    have testsValid : IsName testsDirectory := by decide
    refine leads.selects_selection proper free _ (by simp) ?_
    simpa [or_imp, forall_and] using ⟨valid, testsValid⟩

theorem selects_namedModules :
    tree.Selects isDirectoryChild (base.below [namedModulesDirectory])
      (place ++ [namedModulesDirectory])
      (tree.selection isDirectoryChild (base.below [namedModulesDirectory])) := by
  have valid : ∀ name ∈ [namedModulesDirectory], IsName name := by decide
  exact leads.selects_selection proper free _ (by simp) valid

theorem describes_projectLayout : (tree.projectLayout base).Describes tree base place := by
  have modulesValid : IsName namedModulesDirectory := by decide
  have selects := selects_namedModules leads proper free
  refine ⟨rfl, describes_moduleLayout leads proper free (by simp) (by decide), ?_, ?_, ?_⟩
  · simpa [FileTree.projectLayout, Function.comp_def] using selects
  · intro named member
    obtain ⟨name, -, rfl⟩ := List.mem_map.mp member
    rfl
  · intro named member
    obtain ⟨name, selected, rfl⟩ := List.mem_map.mp member
    have nameValid := selects.isName proper selected
    exact describes_moduleLayout leads proper free (by simp) (by simp [modulesValid, nameValid])

/-- A document of the default module is among the files if the path of its directory fits. -/
theorem mem_files_projectLayout {name : String} {content : Content}
    (isDocument : isDocumentName name = true)
    (stands : tree.entry? (place ++ [defaultModuleDirectory] ++ [name]) = some (.file content))
    (fits : (base.below [defaultModuleDirectory]).text.utf8ByteSize ≤ FileTree.maxPathSize) :
    ⟨[defaultModuleDirectory, name], false⟩ ∈ (tree.projectLayout base).files := by
  have describes := describes_projectLayout leads proper free
  have listed : name ∈ (tree.projectLayout base).defaultModule.names := by
    refine (describes.defaultModule.names.mem_iff name).mpr ⟨fits, _, stands, ?_⟩
    simp [isDocumentChild, isDocument]
  have inModule := ModuleLayout.mem_files_iff.mpr (.inl ⟨name, listed, rfl⟩)
  exact ProjectLayout.mem_files_iff.mpr (.inl inModule)

/-- A directory of documents that is none in the tree yields no documents. -/
theorem files_moduleLayout_of_absent {directory : List String} (someName : directory ≠ [])
    (valid : ∀ name ∈ directory, IsName name)
    (absent : tree.entry? (place ++ directory) ≠ some .directory) :
    (tree.moduleLayout base directory).files = [] := by
  have describes := describes_moduleLayout leads proper free someName valid
  refine List.eq_nil_iff_forall_not_mem.mpr ?_
  intro file member
  obtain ⟨⟨content, stands⟩, -⟩ := describes.stands member
  obtain ⟨names, someNames, way⟩ := ModuleLayout.exists_way_eq_append member
  rw [way, ← List.append_assoc] at stands
  exact absent (proper.entry?_of_append_names someNames stands)

end Layouts

namespace LocatedConfig

variable (located : LocatedConfig) (tree : FileTree)

/-- A module is what the files of its layout hold, one after the other. -/
theorem loadModule_eq (name : String) (isDefault : Bool) (directory : List String) :
    located.loadModule tree name isDefault (located.base.below directory) =
      ((tree.moduleLayout located.base directory).files.mapM (located.loadFile tree)).map
        (.ofDocuments name isDefault) := by
  have paths (inTests : Bool) (directory : List String) :
      (documentPaths tree (located.base.below directory)).mapM
          (located.loadDocument tree · inTests) =
        ((tree.selection isDocumentChild (located.base.below directory)).map fun name =>
          DocumentFile.mk (directory ++ [name]) inTests).mapM (located.loadFile tree) := by
    rw [FileTree.documentPaths_eq, List.mapM_map, List.mapM_map]
    simp only [loadFile, Function.comp_def, below_append_singleton]
  rw [loadModule, ← below_append_singleton, paths, paths, ModuleLayout.files, List.mapM_append]
  simp only [FileTree.moduleLayout]
  generalize List.mapM (located.loadFile tree) _ = documents
  generalize List.mapM (located.loadFile tree) _ = tests
  cases documents <;> cases tests <;> rfl

theorem loadDefaultModule_eq :
    located.loadDefaultModule tree =
      ((tree.projectLayout located.base).defaultModule.files.mapM (located.loadFile tree)).map
        (.ofDocuments located.config.name true) :=
  located.loadModule_eq tree _ _ [defaultModuleDirectory]

theorem loadNamedModules_eq_mapM :
    located.loadNamedModules tree =
      (tree.selection isDirectoryChild (located.base.below [namedModulesDirectory])).mapM
        fun name => located.loadModule tree (located.config.name ++ "." ++ name) false
          (located.base.below [namedModulesDirectory, name]) := by
  rw [loadNamedModules, FileTree.directoryNames_eq]
  rfl

theorem loadNamedModules_eq :
    located.loadNamedModules tree =
      (tree.projectLayout located.base).namedModules.mapM fun named =>
        (named.2.files.mapM (located.loadFile tree)).map
          (.ofDocuments (located.config.name ++ "." ++ named.1) false) := by
  simp only [loadNamedModules_eq_mapM, FileTree.projectLayout, List.mapM_map, loadModule_eq,
    Function.comp_def]

theorem loadFile_eq_ok_iff {file : DocumentFile} {document : Document} (someName : file.way ≠ [])
    (valid : ∀ name ∈ file.way, IsName name) :
    located.loadFile tree file = .ok document ↔
      ∃ text, tree.readText (located.base.below file.way) = .ok text ∧
        Document.ofText file.name text file.inTests = .ok document := by
  rw [loadFile, loadDocument, relativeTo_below located.base someName valid, ← DocumentFile.name]
  simp only [bind_eq_ok_iff, mapError_eq_ok_iff]

end LocatedConfig

/-! ### What is loaded -/

/-- The document is what the file holds, whatever the file says about name and ordinal. -/
structure DocumentFile.Gives (file : DocumentFile) (tree : FileTree) (place : Place)
    (index : Nat) (document : Document) : Prop where
  name : document.name = file.name
  ordinal : document.ordinal = index
  isTest : file.inTests = true → document.isTest = true
  content : ∃ text read, tree.entry? (place ++ file.way) = some (.file (.text text)) ∧
    Document.ofText file.name text file.inTests = .ok read ∧
    document = { read with ordinal := index }

structure ModuleLayout.Gives (layout : ModuleLayout) (tree : FileTree) (place : Place)
    (name : String) (isDefault : Bool) (module_ : SourceModule) : Prop where
  name : module_.name = name
  isDefault : module_.isDefault = isDefault
  documents : List.Forall₂
    (fun (file, index) document => file.Gives tree place index document)
    layout.files.zipIdx module_.documents

structure ProjectLayout.Gives (layout : ProjectLayout) (tree : FileTree) (place : Place)
    (project : Project) : Prop where
  defaultModule : layout.defaultModule.Gives tree place project.config.name true
    project.defaultModule
  namedModules : List.Forall₂
    (fun (name, module_) => module_.Gives tree place (project.config.name ++ "." ++ name) false)
    layout.namedModules project.namedModules
  names : ((project.modules.flatMap SourceModule.documents).map Document.name).Nodup

section Given

variable {tree : FileTree} {place : Place} {located : LocatedConfig}
  (leads : tree.LeadsTo located.base place) (proper : tree.IsProper)

include leads proper

theorem DocumentFile.gives_of_loadFile {file : DocumentFile} {document : Document}
    (someName : file.way ≠ []) (valid : ∀ name ∈ file.way, IsName name)
    (loaded : located.loadFile tree file = .ok document) (index : Nat) :
    file.Gives tree place index { document with ordinal := index } := by
  rw [located.loadFile_eq_ok_iff tree someName valid] at loaded
  obtain ⟨text, read, decoded⟩ := loaded
  have stands := ((leads.readText_below_iff valid proper).mp read).2
  have name : document.name = file.name := Document.name_of_ofText decoded
  have isTest : file.inTests = true → document.isTest = true := by
    intro inTests
    rw [inTests] at decoded
    exact Document.isTest_of_ofText decoded
  exact ⟨name, rfl, isTest, text, document, stands, decoded, rfl⟩

theorem ModuleLayout.Describes.gives_of_loaded {layout : ModuleLayout} {documents : List Document}
    (describes : layout.Describes tree located.base place)
    (valid : ∀ name ∈ layout.directory, IsName name)
    (loaded : layout.files.mapM (located.loadFile tree) = .ok documents) (name : String)
    (isDefault : Bool) :
    layout.Gives tree place name isDefault (.ofDocuments name isDefault documents) := by
  have some : ∀ file ∈ layout.files, file.way ≠ [] := fun _ => way_ne_nil
  have named : ∀ file ∈ layout.files, ∀ name ∈ file.way, IsName name :=
    fun _ => describes.isName_of_mem_files proper valid
  rw [SourceModule.ofDocuments_eq]
  refine ⟨rfl, rfl, ?_⟩
  rw [List.mapIdx_eq_zipIdx_map, List.forall₂_map_right_iff]
  rw [mapM_eq_ok_iff] at loaded
  generalize layout.files = files at some named loaded
  generalize 0 = start
  induction loaded generalizing start with
  | nil => exact .nil
  | cons first others ih =>
      rw [List.forall_mem_cons] at some named
      exact .cons (DocumentFile.gives_of_loadFile leads proper some.1 named.1 first start)
        (ih some.2 named.2 (start + 1))

end Given

theorem ModuleLayout.Gives.names {layout : ModuleLayout} {tree : FileTree} {place : Place}
    {name : String} {isDefault : Bool} {module_ : SourceModule}
    (gives : layout.Gives tree place name isDefault module_) :
    module_.documents.map Document.name = layout.files.map DocumentFile.name := by
  have named : List.Forall₂ (fun numbered document => document.name = numbered.1.name)
      layout.files.zipIdx module_.documents :=
    gives.documents.imp fun _ _ given => given.name
  have pointwise : layout.files.zipIdx.map (fun numbered => numbered.1.name) =
      module_.documents.map Document.name := by
    rw [← List.forall₂_eq_eq_eq, List.forall₂_map_left_iff, List.forall₂_map_right_iff]
    exact named.imp fun _ _ same => same.symm
  rw [← pointwise, ← Function.comp_def DocumentFile.name, ← List.map_map, List.zipIdx_map_fst]

theorem ProjectLayout.names_of_gives {layout : ProjectLayout} {tree : FileTree} {place : Place}
    {project : Project}
    (defaultModule : layout.defaultModule.Gives tree place project.config.name true
      project.defaultModule)
    (namedModules : List.Forall₂
      (fun (name, module_) => module_.Gives tree place (project.config.name ++ "." ++ name) false)
      layout.namedModules project.namedModules) :
    (project.modules.flatMap SourceModule.documents).map Document.name =
      layout.files.map DocumentFile.name := by
  have named : project.namedModules.map (fun module_ => module_.documents.map Document.name) =
      layout.namedModules.map fun named => named.2.files.map DocumentFile.name := by
    rw [← List.forall₂_eq_eq_eq, List.forall₂_map_left_iff, List.forall₂_map_right_iff]
    exact namedModules.flip.imp fun _ _ gives => gives.names
  rw [Project.modules, List.flatMap_cons, List.map_append, List.map_flatMap, List.flatMap_def,
    named, defaultModule.names, ← List.flatMap_def, ← List.map_flatMap, ← List.map_append,
    ← ProjectLayout.files]

namespace LocatedProject

variable {tree : FileTree} {located : LocatedConfig}

theorem located_of_load {path : FilePath} {loaded : LocatedProject}
    (succeeded : load tree path = .ok loaded) :
    LocatedConfig.load tree path = .ok loaded.located := by
  rw [load] at succeeded
  simp only [bind_eq_ok_iff] at succeeded
  obtain ⟨located, configured, _, -, _, -, made⟩ := succeeded
  cases made
  exact configured

/-- A project that is loaded has its modules marked, and its documents numbered in order. -/
theorem isMarked_of_load {path : FilePath} {loaded : LocatedProject}
    (succeeded : load tree path = .ok loaded) :
    loaded.project.IsMarked ∧ loaded.project.defaultModule.IsOrdered := by
  rw [load] at succeeded
  simp only [bind_eq_ok_iff, LocatedConfig.loadDefaultModule_eq,
    LocatedConfig.loadNamedModules_eq, map_eq_ok_iff] at succeeded
  obtain ⟨located, -, _, ⟨documents, -, rfl⟩, named, namedLoaded, made⟩ := succeeded
  cases made
  refine ⟨⟨by rw [SourceModule.ofDocuments_eq], ?_⟩, SourceModule.isOrdered_ofDocuments _ _ _⟩
  intro module_ member
  obtain ⟨layout, -, made⟩ := exists_of_mem_of_mapM namedLoaded member
  obtain ⟨documents, -, rfl⟩ := map_eq_ok_iff.mp made
  rw [SourceModule.ofDocuments_eq]

section Configured

variable {path : FilePath} (configured : LocatedConfig.load tree path = .ok located)

include configured

theorem load_eq_of_configured :
    load tree path = do
      let defaultModule ← located.loadDefaultModule tree
      let namedModules ← located.loadNamedModules tree
      return ⟨⟨located.config, defaultModule, namedModules⟩, located.base⟩ := by
  rw [load, configured]
  rfl

/-- The first file that cannot be loaded decides the error. -/
theorem load_eq_error_iff {error : LoadError} :
    load tree path = .error error ↔
      (tree.projectLayout located.base).files.mapM (located.loadFile tree) = .error error := by
  rw [load_eq_of_configured configured, located.loadDefaultModule_eq, located.loadNamedModules_eq,
    ProjectLayout.files, List.mapM_append, mapM_flatMap]
  have returns {α : Type} (result : α) : (pure result : Except LoadError α) ≠ .error error := by
    intro returned
    cases returned
  simp only [bind_eq_error_iff, map_eq_error_iff, mapM_map_eq_error_iff, returns, and_false,
    exists_false, or_false]
  cases (tree.projectLayout located.base).defaultModule.files.mapM (located.loadFile tree) <;>
    simp [Except.map]

theorem gives_of_load (proper : tree.IsProper) {place : Place}
    (leads : tree.LeadsTo located.base place) (free : located.base.IsNulFree)
    {loaded : LocatedProject} (succeeded : load tree path = .ok loaded) :
    loaded.located = located ∧
      (tree.projectLayout located.base).Gives tree place loaded.project := by
  have describes := describes_projectLayout leads proper free
  simp only [load_eq_of_configured configured, located.loadDefaultModule_eq,
    located.loadNamedModules_eq, bind_eq_ok_iff, map_eq_ok_iff] at succeeded
  generalize tree.projectLayout located.base = layout at describes succeeded ⊢
  obtain ⟨_, ⟨documents, defaultLoaded, rfl⟩, namedModules, namedLoaded, made⟩ := succeeded
  cases made
  have defaultModule := describes.defaultModule.gives_of_loaded leads proper
    describes.isName_of_mem_default_directory defaultLoaded located.config.name true
  have named : List.Forall₂
      (fun named module_ => named.2.Gives tree place (located.config.name ++ "." ++ named.1) false
        module_) layout.namedModules namedModules := by
    rw [mapM_eq_ok_iff] at namedLoaded
    have listed := List.forall₂_iff_zip.mp namedLoaded
    refine List.forall₂_iff_zip.mpr ⟨listed.1, ?_⟩
    intro named module_ paired
    have member := (List.of_mem_zip paired).1
    obtain ⟨documents, loaded, rfl⟩ := map_eq_ok_iff.mp (listed.2 paired)
    exact (describes.namedModules named member).gives_of_loaded leads proper
      (describes.isName_of_mem_directory proper member) loaded _ _
  refine ⟨rfl, defaultModule, named, ?_⟩
  rw [ProjectLayout.names_of_gives defaultModule named]
  exact describes.nodup_names proper

end Configured

/-- Loading finds every document once.  The files that are loaded are those of a layout that
describes the tree; documents are missing only below a directory whose path is too long for the
system. -/
theorem loads_described_files (proper : tree.IsProper) {text : String}
    (configured : LocatedConfig.load tree (.ofText text) = .ok located) :
    ∃ (place : Place) (layout : ProjectLayout), tree.LeadsTo located.base place ∧
      layout.Describes tree located.base place ∧
      (∀ loaded, load tree (.ofText text) = .ok loaded →
        loaded.located = located ∧ layout.Gives tree place loaded.project) ∧
      ∀ error, load tree (.ofText text) = .error error ↔
        ∃ before file after, layout.files = before ++ file :: after ∧
          (∀ earlier ∈ before, ∃ document, located.loadFile tree earlier = .ok document) ∧
          located.loadFile tree file = .error error := by
  obtain ⟨free, place, leads⟩ := LocatedConfig.exists_leadsTo_base proper configured
  have describes := describes_projectLayout leads proper free
  refine ⟨place, tree.projectLayout located.base, leads, describes, ?_, ?_⟩
  · intro loaded succeeded
    exact gives_of_load configured proper leads free succeeded
  · intro error
    rw [load_eq_error_iff configured, mapM_eq_error_iff]

/-- A directory is named like a document, a file stands among the modules, and a module is named
like the directory of tests. -/
def confusingTree : FileTree where
  workingDirectory := ["work"]
  entries := [
    (["work"], .directory),
    (["work", "transformer.yaml"], .file (.text "name: app\n")),
    (["work", "src"], .directory),
    (["work", "src", "b.yml"], .file (.text "name: other\nordinal: 7\n")),
    (["work", "src", "a.yaml"], .file (.text "")),
    (["work", "src", "x.yaml"], .directory),
    (["work", "src", "tests"], .directory),
    (["work", "src", "tests", "t.yaml"], .file (.text "")),
    (["work", "modules"], .directory),
    (["work", "modules", "plain.yaml"], .file (.text "")),
    (["work", "modules", "tests"], .directory),
    (["work", "modules", "tests", "c.yaml"], .file (.text ""))]

theorem loads_described_files_confusing :
    confusingTree.IsProper ∧
      LocatedConfig.load confusingTree (.ofText ".") = .ok ⟨.named "app", .ofText "."⟩ ∧
      (∃ (place : Place) (layout : ProjectLayout),
        layout.Describes confusingTree (.ofText ".") place ∧
          ∀ loaded, load confusingTree (.ofText ".") = .ok loaded →
            layout.Gives confusingTree place loaded.project) ∧
      (load confusingTree (.ofText ".")).map (fun loaded =>
          loaded.project.modules.map fun module_ =>
            module_.documents.map fun document => (document.name, document.ordinal)) =
        .ok [[("src/a.yaml", 0), ("src/b.yml", 1), ("src/tests/t.yaml", 2)],
          [("modules/tests/c.yaml", 0)]] := by
  have proper : confusingTree.IsProper := by decide +kernel
  have configured :
      LocatedConfig.load confusingTree (.ofText ".") = .ok ⟨.named "app", .ofText "."⟩ := by
    decide +kernel
  obtain ⟨place, layout, -, describes, gives, -⟩ := loads_described_files proper configured
  exact ⟨proper, configured, ⟨place, layout, describes, fun loaded succeeded =>
    (gives loaded succeeded).2⟩, by decide +kernel⟩

end LocatedProject

/-! ### Paths that are too long -/

/-- A path of steps that stay where they are. -/
def FilePath.staying (count : Nat) : FilePath :=
  ⟨List.replicate count "."⟩

section Staying

variable (count : Nat)

theorem lead_staying : (staying count).lead = List.replicate count "." := by
  simp [staying, lead, List.getLast?_replicate]

theorem child_staying : (staying count).child "." = staying (count + 1) := by
  have segments := segments_child (staying count) "."
  rw [lead_staying, ← List.replicate_succ'] at segments
  exact congrArg FilePath.mk segments

theorem size_leadText_staying : (staying count).leadText.utf8ByteSize = 2 * count := by
  rw [leadText, lead_staying]
  induction count with
  | zero => rfl
  | succ count ih =>
      have step : ("." ++ "/").utf8ByteSize = 2 := by decide
      rw [List.replicate_succ, List.map_cons, String.join_cons, String.utf8ByteSize_append, ih,
        step]
      omega

theorem size_text_staying_le : (staying count).text.utf8ByteSize ≤ 2 * count := by
  cases count with
  | zero => decide
  | succ count =>
      have step : ".".utf8ByteSize = 1 := by decide
      rw [← child_staying, size_text_child, size_leadText_staying, step]
      omega

theorem isNulFree_staying : (staying count).IsNulFree := by
  intro segment member
  obtain ⟨-, rfl⟩ := List.mem_replicate.mp member
  decide

theorem ofText_text_staying {count : Nat} (positive : 0 < count) :
    ofText (staying count).text = staying count := by
  refine ofText_text (by simpa using positive.ne') ?_
  intro segment member
  obtain ⟨-, rfl⟩ := List.mem_replicate.mp member
  decide

theorem leadsTo_staying {tree : FileTree} {place : Place} (start : tree.workingDirectory = place)
    (directory : tree.entry? place = some .directory) : tree.LeadsTo (staying count) place := by
  have unrooted : (staying count).isRooted = false := by
    match count with
    | 0 | 1 | count + 2 => rfl
  refine ⟨?_, directory⟩
  rw [FileTree.startOf, unrooted, start]
  refine FileTree.walk_meaningless directory ?_
  intro segment member
  obtain ⟨-, rfl⟩ := List.mem_replicate.mp member
  decide

end Staying

section Staying

variable {tree : FileTree} {place : Place} (start : tree.workingDirectory = place)
  (directory : tree.entry? place = some .directory) {count : Nat}
  (fits : 2 * count + configFileName.utf8ByteSize ≤ FileTree.maxPathSize)

include start directory fits

theorem isDirectory_staying : tree.isDirectory (staying count) = true := by
  have short := size_text_staying_le count
  have some : (staying count).isEmpty = false := by
    match count with
    | 0 | 1 | count + 2 => simp [staying, isEmpty, List.replicate_succ]
  refine FileTree.isDirectory_iff.mpr ⟨?_, place, leadsTo_staying count start directory⟩
  exact FileTree.checkPath_eq_ok_iff.mpr ⟨isNulFree_staying count, by omega, some⟩

variable (proper : tree.IsProper)

include proper

theorem find_config_staying {content : Content}
    (file : tree.entry? (place ++ [configFileName]) = some (.file content)) :
    tree.find ((staying count).child configFileName) = .ok (.file content) := by
  have valid : ∀ name ∈ [configFileName], IsName name := by decide
  have leads := leadsTo_staying count start directory
  refine (leads.find_below_iff valid proper).mpr ⟨?_, file⟩
  rw [FileTree.checkPath_below_iff (isNulFree_staying count) (by simp) valid]
  have size := size_text_child (staying count) configFileName
  rw [size_leadText_staying] at size
  exact size.trans_le fits

theorem LocatedConfig.load_staying {text : String} {config : ProjectConfig}
    (file : tree.entry? (place ++ [configFileName]) = some (.file (.text text)))
    (decoded : ProjectConfig.ofText text = .ok config) (usable : config.fault? = none) :
    LocatedConfig.load tree (staying count) = .ok ⟨config, staying count⟩ := by
  have read := FileTree.readText_eq_ok_iff.mpr
    (find_config_staying start directory fits proper file)
  rw [LocatedConfig.load_eq_ok_iff, LocatedConfig.placesOf,
    if_pos (isDirectory_staying start directory fits)]
  exact ⟨text, read, decoded, usable, rfl⟩

end Staying

namespace LocatedProject

def overlongTree : FileTree where
  workingDirectory := ["work"]
  entries := [
    (["work"], .directory),
    (["work", "transformer.yaml"], .file (.text "name: app\n")),
    (["work", "modules"], .directory),
    (["work", "modules", "conversions-between-documents"], .directory),
    (["work", "modules", "conversions-between-documents", "a.yaml"], .file (.text ""))]

theorem isProper_overlongTree : overlongTree.IsProper := by decide

section Overlong

variable (count : Nat)

theorem leadsTo_overlongTree : overlongTree.LeadsTo (staying count) ["work"] :=
  leadsTo_staying count rfl rfl

/-- The path of the configuration fits, the one of the named module does not: its document is
missed without an error. -/
theorem load_staying_of_overlong
    (fits : 2 * count + configFileName.utf8ByteSize ≤ FileTree.maxPathSize)
    (overlong : FileTree.maxPathSize < 2 * count + 37) :
    ∃ loaded, load overlongTree (staying count) = .ok loaded ∧
      loaded.project.documentCount = 0 := by
  have decoded : ProjectConfig.ofText "name: app\n" = .ok (.named "app") := by decide +kernel
  have configured := LocatedConfig.load_staying rfl rfl fits isProper_overlongTree rfl decoded rfl
  have describes := describes_projectLayout (leadsTo_overlongTree count) isProper_overlongTree
    (isNulFree_staying count)
  -- Of the two files in the tree, one is no document and the directory of the other does not fit.
  have none : (overlongTree.projectLayout (staying count)).files = [] := by
    refine List.eq_nil_iff_forall_not_mem.mpr ?_
    intro file member
    obtain ⟨⟨content, stands⟩, fits⟩ := describes.stands member
    have listed := isProper_overlongTree.mem_entries_iff.mpr ⟨by simp, stands⟩
    simp [overlongTree] at listed
    have nested := describes.head_way member
    rcases listed with ⟨way, -⟩ | ⟨way, -⟩
    · rw [way] at nested
      exact absurd nested (by decide)
    · have path : (staying count).below file.way.dropLast =
          ((staying count).child "modules").child "conversions-between-documents" := by
        rw [way]
        rfl
      have sizes : "modules".utf8ByteSize = 7 ∧ "/".utf8ByteSize = 1 ∧
          "conversions-between-documents".utf8ByteSize = 29 := by decide
      rw [path, size_text_child, leadText_child _ (by decide), String.utf8ByteSize_append,
        String.utf8ByteSize_append, size_leadText_staying] at fits
      omega
  cases result : load overlongTree (staying count) with
  | error failure =>
      rw [load_eq_error_iff configured, none] at result
      cases result
  | ok loaded =>
      refine ⟨loaded, rfl, ?_⟩
      have gives := (gives_of_load configured isProper_overlongTree (leadsTo_overlongTree count)
        (isNulFree_staying count) result).2
      have names := ProjectLayout.names_of_gives gives.defaultModule gives.namedModules
      rw [none] at names
      simpa [Project.documentCount] using congrArg List.length names

end Overlong

theorem load_overlong_misses_document :
    overlongTree.IsProper ∧
      overlongTree.entry? ["work", "modules", "conversions-between-documents", "a.yaml"] =
        some (.file (.text "")) ∧
      ∃ loaded, load overlongTree (.ofText (staying 2030).text) = .ok loaded ∧
        loaded.project.documentCount = 0 := by
  rw [ofText_text_staying (by decide)]
  exact ⟨isProper_overlongTree, rfl,
    load_staying_of_overlong 2030 (by decide) (by decide)⟩

end LocatedProject

end PureService
