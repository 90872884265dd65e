import Mathlib.Data.List.Sort
import PureService.Project.Loading
import PureService.Proofs.Analysis.Names
import PureService.Proofs.Files.Resolution

/-!
# Layouts of projects

A layout says which document files a project has, module by module and in the
order in which they are loaded.  It describes a tree when its lists are those
of the entries that stand there.
-/

namespace PureService

open Attempts FilePath

theorem isDocumentName_iff {name : String} :
    isDocumentName name = true ↔
      ∃ stem, stem ≠ "" ∧ (name = stem ++ ".yaml" ∨ name = stem ++ ".yml") := by
  have dotted (stem ending : String) : stem ++ "." ++ ending = stem ++ ("." ++ ending) :=
    String.append_assoc
  have extended (ending : String) (whole : '.' ∉ ending.toList) :
      extension? name = some ending ↔ ∃ stem, stem ≠ "" ∧ name = stem ++ ("." ++ ending) := by
    simp only [extension?_eq_some_iff, dotted, and_iff_right whole]
  simp only [and_or_left, exists_or, ← show "." ++ "yaml" = ".yaml" by decide,
    ← show "." ++ "yml" = ".yml" by decide, ← extended "yaml" (by decide),
    ← extended "yml" (by decide)]
  rw [isDocumentName]
  cases extension? name <;> simp

/-- A child that is a document: a file with one of the names of documents. -/
def isDocumentChild (child : String × Entry) : Bool :=
  child.2 ≠ .directory && isDocumentName child.1

/-- A child that is a directory. -/
def isDirectoryChild (child : String × Entry) : Bool :=
  child.2 = .directory

namespace FileTree

/-- The names are those of the wanted children of the directory, each once and in order.  A
directory whose path is too long for the system counts as empty. -/
structure Selects (tree : FileTree) (wanted : String × Entry → Bool) (directory : FilePath)
    (place : Place) (names : List String) : Prop where
  ordered : names.Pairwise (· < ·)
  mem_iff : ∀ name, name ∈ names ↔ directory.text.utf8ByteSize ≤ maxPathSize ∧
    ∃ entry, tree.entry? (place ++ [name]) = some entry ∧ wanted (name, entry) = true

/-- The names of the wanted children of a directory. -/
def selection (tree : FileTree) (wanted : String × Entry → Bool) (directory : FilePath) :
    List String :=
  ((tree.children directory).filter wanted).map Prod.fst

theorem documentPaths_eq (tree : FileTree) (directory : FilePath) :
    documentPaths tree directory =
      (tree.selection isDocumentChild directory).map directory.child := by
  rw [documentPaths, selection, List.map_map, ← List.filterMap_eq_map', List.filterMap_filter]
  rfl

theorem directoryNames_eq (tree : FileTree) (directory : FilePath) :
    directoryNames tree directory = tree.selection isDirectoryChild directory := by
  rw [directoryNames, selection, ← List.filterMap_eq_map', List.filterMap_filter]
  congr 1
  funext child
  simp [isDirectoryChild]

/-- What is selected is decided by what stands there. -/
theorem Selects.unique {first second : FileTree} {wanted : String × Entry → Bool}
    {directory : FilePath} {place : Place} {names others : List String}
    (selects : first.Selects wanted directory place names)
    (selectsOthers : second.Selects wanted directory place others)
    (same : ∀ name, (∃ entry, first.entry? (place ++ [name]) = some entry ∧
        wanted (name, entry) = true) ↔
      ∃ entry, second.entry? (place ++ [name]) = some entry ∧ wanted (name, entry) = true) :
    names = others := by
  refine selects.ordered.eq_of_mem_iff selectsOthers.ordered ?_
  intro name
  rw [selects.mem_iff, selectsOthers.mem_iff, same]

variable {tree : FileTree} {base : FilePath} {place : Place}

theorem LeadsTo.selects_selection (leads : tree.LeadsTo base place) (proper : tree.IsProper)
    (free : base.IsNulFree) (wanted : String × Entry → Bool) {names : List String}
    (someName : names ≠ []) (valid : ∀ name ∈ names, IsName name) :
    tree.Selects wanted (base.below names) (place ++ names)
      (tree.selection wanted (base.below names)) where
  ordered := by
    rw [selection, List.pairwise_map]
    exact (proper.pairwise_children _).filter _
  mem_iff name := by
    simp only [selection, List.mem_map, List.mem_filter,
      leads.mem_children_below_iff valid proper, checkPath_below_iff free someName valid]
    constructor
    · rintro ⟨⟨_, entry⟩, ⟨⟨fits, stands⟩, isWanted⟩, rfl⟩
      exact ⟨fits, entry, stands, isWanted⟩
    · rintro ⟨fits, entry, stands, isWanted⟩
      exact ⟨(name, entry), ⟨⟨fits, stands⟩, isWanted⟩, rfl⟩

theorem Selects.isName {wanted : String × Entry → Bool} {names : List String}
    (selects : tree.Selects wanted base place names) (proper : tree.IsProper) {name : String}
    (member : name ∈ names) : IsName name := by
  obtain ⟨-, entry, stands, -⟩ := (selects.mem_iff name).mp member
  exact proper.isName_of_entry?_append stands

theorem Selects.document {directory : FilePath} {names : List String}
    (selects : tree.Selects isDocumentChild directory place names) {name : String}
    (member : name ∈ names) :
    isDocumentName name = true ∧
      (∃ content, tree.entry? (place ++ [name]) = some (.file content)) ∧
      directory.text.utf8ByteSize ≤ maxPathSize := by
  obtain ⟨fits, entry, stands, wanted⟩ := (selects.mem_iff name).mp member
  cases entry with
  | directory => cases wanted
  | file content => exact ⟨(Bool.and_eq_true_iff.mp wanted).2, ⟨content, stands⟩, fits⟩

end FileTree

/-! ### Documents and modules -/

/-- A document file of a project: the names that lead to it from the directory of the project, and
whether it is among the tests. -/
structure DocumentFile where
  way : List String
  inTests : Bool
  deriving DecidableEq, Repr

/-- The path of the file as seen from the project. -/
def DocumentFile.name (file : DocumentFile) : String :=
  FilePath.text ⟨file.way⟩

/-- The documents of a module: the names directly in its directory, and those in its tests. -/
structure ModuleLayout where
  directory : List String
  names : List String
  tests : List String
  deriving DecidableEq, Repr

namespace ModuleLayout

/-- The files of the module in the order in which they are loaded. -/
def files (layout : ModuleLayout) : List DocumentFile :=
  layout.names.map (fun name => ⟨layout.directory ++ [name], false⟩) ++
    layout.tests.map fun name => ⟨layout.directory ++ [testsDirectory] ++ [name], true⟩

structure Describes (layout : ModuleLayout) (tree : FileTree) (base : FilePath)
    (place : Place) : Prop where
  names : tree.Selects isDocumentChild (base.below layout.directory) (place ++ layout.directory)
    layout.names
  tests : tree.Selects isDocumentChild (base.below (layout.directory ++ [testsDirectory]))
    (place ++ (layout.directory ++ [testsDirectory])) layout.tests

theorem mem_files_iff {layout : ModuleLayout} {file : DocumentFile} :
    file ∈ layout.files ↔
      (∃ name ∈ layout.names, file = ⟨layout.directory ++ [name], false⟩) ∨
        ∃ name ∈ layout.tests, file = ⟨layout.directory ++ [testsDirectory] ++ [name], true⟩ := by
  simp only [files, List.mem_append, List.mem_map, eq_comm]

namespace Describes

variable {layout : ModuleLayout} {tree : FileTree} {base : FilePath} {place : Place}
  (describes : layout.Describes tree base place) (proper : tree.IsProper)

include describes

theorem isName_of_mem_files (proper : tree.IsProper)
    (valid : ∀ name ∈ layout.directory, IsName name) {file : DocumentFile}
    (member : file ∈ layout.files) : ∀ name ∈ file.way, IsName name := by
  rcases mem_files_iff.mp member with ⟨last, listed, rfl⟩ | ⟨last, listed, rfl⟩
  · have lastValid := describes.names.isName proper listed
    simpa [or_imp, forall_and] using ⟨valid, lastValid⟩
  · have lastValid := describes.tests.isName proper listed
    have testsValid : IsName testsDirectory := by decide
    simpa [or_imp, forall_and] using ⟨valid, testsValid, lastValid⟩

theorem exists_way_eq_concat {file : DocumentFile} (member : file ∈ layout.files) :
    ∃ names name, file.way = names ++ [name] ∧ isDocumentName name = true := by
  rcases mem_files_iff.mp member with ⟨name, inside, rfl⟩ | ⟨name, inside, rfl⟩
  · exact ⟨_, name, rfl, (describes.names.document inside).1⟩
  · exact ⟨_, name, rfl, (describes.tests.document inside).1⟩

/-- A file of the module stands in the tree, and the path of its directory fits. -/
theorem stands {file : DocumentFile} (member : file ∈ layout.files) :
    (∃ content, tree.entry? (place ++ file.way) = some (.file content)) ∧
      (base.below file.way.dropLast).text.utf8ByteSize ≤ FileTree.maxPathSize := by
  rcases mem_files_iff.mp member with ⟨name, inside, rfl⟩ | ⟨name, inside, rfl⟩
  · simpa using (describes.names.document inside).2
  · simpa using (describes.tests.document inside).2

theorem nodup_ways : (layout.files.map DocumentFile.way).Nodup := by
  have distinct {names : List String} (ordered : names.Pairwise (· < ·)) (before : List String) :
      (names.map fun name => before ++ [name]).Nodup := by
    refine List.pairwise_map.mpr (ordered.imp ?_)
    intro first second less equal
    exact ne_of_lt less (by simpa using equal)
  rw [files, List.map_append, List.map_map, List.map_map, List.nodup_append]
  refine ⟨distinct describes.names.ordered _, distinct describes.tests.ordered _, ?_⟩
  -- A test has one name more on its way.
  intro first firstListed second secondListed equal
  obtain ⟨firstName, -, rfl⟩ := List.mem_map.mp firstListed
  obtain ⟨secondName, -, rfl⟩ := List.mem_map.mp secondListed
  have lengths := congrArg List.length equal
  simp at lengths

end Describes

theorem exists_way_eq_append {layout : ModuleLayout} {file : DocumentFile}
    (member : file ∈ layout.files) :
    ∃ names, names ≠ [] ∧ file.way = layout.directory ++ names := by
  rcases mem_files_iff.mp member with ⟨last, -, rfl⟩ | ⟨last, -, rfl⟩
  · exact ⟨[last], by simp, rfl⟩
  · exact ⟨[testsDirectory, last], by simp, by simp⟩

theorem way_ne_nil {layout : ModuleLayout} {file : DocumentFile} (member : file ∈ layout.files) :
    file.way ≠ [] := by
  obtain ⟨names, someName, split⟩ := exists_way_eq_append member
  simp [split, someName]

end ModuleLayout

structure ProjectLayout where
  defaultModule : ModuleLayout
  /-- The named modules by name. -/
  namedModules : List (String × ModuleLayout)
  deriving DecidableEq, Repr

namespace ProjectLayout

/-- The files of the project in the order in which they are loaded. -/
def files (layout : ProjectLayout) : List DocumentFile :=
  layout.defaultModule.files ++ layout.namedModules.flatMap (·.2.files)

structure Describes (layout : ProjectLayout) (tree : FileTree) (base : FilePath)
    (place : Place) : Prop where
  default_directory : layout.defaultModule.directory = [defaultModuleDirectory]
  defaultModule : layout.defaultModule.Describes tree base place
  names : tree.Selects isDirectoryChild (base.below [namedModulesDirectory])
    (place ++ [namedModulesDirectory]) (layout.namedModules.map Prod.fst)
  named_directory : ∀ named ∈ layout.namedModules,
    named.2.directory = [namedModulesDirectory, named.1]
  namedModules : ∀ named ∈ layout.namedModules, named.2.Describes tree base place

theorem mem_files_iff {layout : ProjectLayout} {file : DocumentFile} :
    file ∈ layout.files ↔ file ∈ layout.defaultModule.files ∨
      ∃ named ∈ layout.namedModules, file ∈ named.2.files := by
  rw [files, List.mem_append, List.mem_flatMap]

theorem way_ne_nil {layout : ProjectLayout} {file : DocumentFile} (member : file ∈ layout.files) :
    file.way ≠ [] := by
  rcases mem_files_iff.mp member with inside | ⟨_, _, inside⟩ <;>
    exact ModuleLayout.way_ne_nil inside

namespace Describes

variable {layout : ProjectLayout} {tree : FileTree} {base : FilePath} {place : Place}
  (describes : layout.Describes tree base place)

include describes

theorem isName_of_mem_default_directory :
    ∀ name ∈ layout.defaultModule.directory, IsName name := by
  rw [describes.default_directory]
  decide

theorem isName_of_mem_directory (proper : tree.IsProper) {named : String × ModuleLayout}
    (member : named ∈ layout.namedModules) : ∀ name ∈ named.2.directory, IsName name := by
  have modulesValid : IsName namedModulesDirectory := by decide
  have nameValid := describes.names.isName proper (List.mem_map_of_mem (f := Prod.fst) member)
  rw [describes.named_directory named member]
  simpa using ⟨modulesValid, nameValid⟩

theorem isName_of_mem_files (proper : tree.IsProper) {file : DocumentFile}
    (member : file ∈ layout.files) : ∀ name ∈ file.way, IsName name := by
  rcases mem_files_iff.mp member with inside | ⟨named, listed, inside⟩
  · exact describes.defaultModule.isName_of_mem_files proper
      describes.isName_of_mem_default_directory inside
  · exact (describes.namedModules named listed).isName_of_mem_files proper
      (describes.isName_of_mem_directory proper listed) inside

theorem stands {file : DocumentFile} (member : file ∈ layout.files) :
    (∃ content, tree.entry? (place ++ file.way) = some (.file content)) ∧
      (base.below file.way.dropLast).text.utf8ByteSize ≤ FileTree.maxPathSize := by
  rcases mem_files_iff.mp member with inside | ⟨named, listed, inside⟩
  · exact describes.defaultModule.stands inside
  · exact (describes.namedModules named listed).stands inside

theorem head_way {file : DocumentFile} (member : file ∈ layout.files) :
    file.way.head? = some defaultModuleDirectory ∨
      file.way.head? = some namedModulesDirectory := by
  rcases mem_files_iff.mp member with inside | ⟨named, listed, inside⟩
  · obtain ⟨names, -, split⟩ := ModuleLayout.exists_way_eq_append inside
    rw [split, describes.default_directory]
    exact .inl rfl
  · obtain ⟨names, -, split⟩ := ModuleLayout.exists_way_eq_append inside
    rw [split, describes.named_directory named listed]
    exact .inr rfl

theorem nodup_ways : (layout.files.map DocumentFile.way).Nodup := by
  have named : (layout.namedModules.flatMap fun named =>
      named.2.files.map DocumentFile.way).Nodup := by
    rw [List.nodup_flatMap]
    refine ⟨fun named listed => (describes.namedModules named listed).nodup_ways, ?_⟩
    have ordered := List.pairwise_map.mp describes.names.ordered
    refine ordered.imp_of_mem ?_
    -- The names of the modules stand on the ways to their files.
    intro first second firstListed secondListed less way firstWay secondWay
    obtain ⟨firstFile, firstMember, rfl⟩ := List.mem_map.mp firstWay
    obtain ⟨secondFile, secondMember, same⟩ := List.mem_map.mp secondWay
    obtain ⟨firstNames, -, firstSplit⟩ := ModuleLayout.exists_way_eq_append firstMember
    obtain ⟨secondNames, -, secondSplit⟩ := ModuleLayout.exists_way_eq_append secondMember
    rw [describes.named_directory first firstListed] at firstSplit
    rw [describes.named_directory second secondListed] at secondSplit
    rw [firstSplit, secondSplit] at same
    simp only [List.cons_append, List.cons.injEq, true_and] at same
    exact ne_of_gt less same.1
  rw [files, List.map_append, List.map_flatMap, List.nodup_append]
  refine ⟨describes.defaultModule.nodup_ways, named, ?_⟩
  intro first firstListed second secondListed equal
  obtain ⟨firstFile, firstMember, rfl⟩ := List.mem_map.mp firstListed
  obtain ⟨named, listed, inside⟩ := List.mem_flatMap.mp secondListed
  obtain ⟨secondFile, secondMember, rfl⟩ := List.mem_map.mp inside
  obtain ⟨firstNames, -, firstSplit⟩ := ModuleLayout.exists_way_eq_append firstMember
  obtain ⟨secondNames, -, secondSplit⟩ := ModuleLayout.exists_way_eq_append secondMember
  rw [describes.default_directory] at firstSplit
  rw [describes.named_directory named listed] at secondSplit
  rw [firstSplit, secondSplit] at equal
  exact absurd (List.cons.inj equal).1 (by decide)

theorem nodup_names (proper : tree.IsProper) : (layout.files.map DocumentFile.name).Nodup := by
  have ways := List.pairwise_map.mp describes.nodup_ways
  rw [List.Nodup, List.pairwise_map]
  refine ways.imp_of_mem ?_
  intro first second firstMember secondMember different equal
  have whole {file : DocumentFile} (member : file ∈ layout.files) :
      ∀ name ∈ file.way, '/' ∉ name.toList :=
    fun name listed => (describes.isName_of_mem_files proper member name listed).no_slash
  exact different (text_injective (way_ne_nil firstMember) (way_ne_nil secondMember)
    (whole firstMember) (whole secondMember) equal)

end Describes

end ProjectLayout

end PureService
