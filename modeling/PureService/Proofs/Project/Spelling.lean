import PureService.Proofs.Project.Loading

/-!
# A project under two paths

A project is loaded from its directory or from its configuration.  The paths of
its documents are then spelled from the path of the directory as it was given,
or from what stands before the name of the configuration.  Both lead to the same
place, so the outcome is the same unless a path of a document is too long for the
system in one of the spellings.
-/

namespace PureService

open Attempts FilePath

/-- The names lead from the directory of a project to that of a module. -/
def IsModuleDirectory (names : List String) : Prop :=
  names = [defaultModuleDirectory] ∨ ∃ name, names = [namedModulesDirectory, name]

/-- The names lead from the directory of a project to a directory of documents. -/
def IsDocumentDirectory (names : List String) : Prop :=
  ∃ directory, IsModuleDirectory directory ∧
    (names = directory ∨ names = directory ++ [testsDirectory])

theorem IsModuleDirectory.ne_nil {names : List String} (inside : IsModuleDirectory names) :
    names ≠ [] := by
  rcases inside with rfl | ⟨name, rfl⟩ <;> exact List.cons_ne_nil _ _

theorem IsDocumentDirectory.ne_nil {names : List String} (inside : IsDocumentDirectory names) :
    names ≠ [] := by
  obtain ⟨directory, isDirectory, rfl | rfl⟩ := inside
  · exact isDirectory.ne_nil
  · simp

namespace FileTree

/-- The system takes the paths of all documents, spelled from a path that leads to the place. -/
def TakesDocuments (tree : FileTree) (base : FilePath) (place : Place) : Prop :=
  ∀ names name content, IsDocumentDirectory names → isDocumentName name = true →
    tree.entry? (place ++ (names ++ [name])) = some (.file content) →
      (base.below (names ++ [name])).text.utf8ByteSize ≤ maxPathSize

/-- The path leads to the place of a project, and the whole project can be read from there. -/
structure Spells (tree : FileTree) (base : FilePath) (place : Place) : Prop where
  leads : tree.LeadsTo base place
  free : base.IsNulFree
  modules : (base.below [namedModulesDirectory]).text.utf8ByteSize ≤ maxPathSize
  documents : tree.TakesDocuments base place

namespace Spells

variable {tree : FileTree} {base other : FilePath} {place : Place}

/-- From a directory in which the configuration is found the project can be read, as soon as the
paths of its documents fit. -/
theorem of_config (leads : tree.LeadsTo base place) {entry : Entry}
    (found : tree.find (base.child configFileName) = .ok entry)
    (documents : tree.TakesDocuments base place) : tree.Spells base place := by
  obtain ⟨there, resolved, -⟩ := find_eq_ok_iff.mp found
  obtain ⟨free, fits, -⟩ := checkPath_eq_ok_iff.mp (resolve_eq_ok_iff.mp resolved).1
  refine ⟨leads, (isFreeOf_child.mp free).1, ?_, documents⟩
  have shorter : namedModulesDirectory.utf8ByteSize ≤ configFileName.utf8ByteSize := by decide
  have modules : (base.below [namedModulesDirectory]).text.utf8ByteSize =
      base.leadText.utf8ByteSize + namedModulesDirectory.utf8ByteSize := size_text_child _ _
  rw [size_text_child] at fits
  omega

/-- What stands before the name of the configuration leads to the place of the directory. -/
theorem exists_parent (spells : tree.Spells base place) :
    ∃ above, (base.child configFileName).parent? = some above ∧ tree.LeadsTo above place ∧
      above.leadText.utf8ByteSize ≤ base.leadText.utf8ByteSize := by
  have segments := segments_child base configFileName
  have start : tree.startOf ⟨base.lead ++ [configFileName]⟩ = tree.startOf base := by
    rw [← segments, startOf, startOf, isRooted_child]
  have walked := spells.leads.walk_lead
  rw [← start] at walked
  exact ⟨ofLead base.lead, parent?_of_segments segments (by decide),
    leadsTo_ofLead walked spells.leads.directory, size_leadText_ofLead_le base.lead⟩

variable (proper : tree.IsProper)

include proper

theorem of_shorter (spells : tree.Spells base place) (leads : tree.LeadsTo other place)
    (free : other.IsNulFree)
    (shorter : other.leadText.utf8ByteSize ≤ base.leadText.utf8ByteSize) :
    tree.Spells other place where
  leads := leads
  free := free
  modules := by
    have modules := spells.modules
    rw [size_text_below _ (by decide) (by decide)] at modules ⊢
    omega
  documents names name content inside isDocument stands := by
    have fits := spells.documents names name content inside isDocument stands
    have nonempty : ∀ part ∈ names ++ [name], part ≠ "" := fun part member =>
      (proper.isName_of_entry? stands (List.mem_append_right _ member)).nonempty
    rw [size_text_below _ (by simp) nonempty] at fits ⊢
    omega

/-- The documents of a directory are listed whatever the spelling. -/
theorem mem_selection_iff (spells : tree.Spells base place) {names : List String}
    (inside : IsDocumentDirectory names) (valid : ∀ name ∈ names, IsName name) {name : String} :
    name ∈ tree.selection isDocumentChild (base.below names) ↔
      ∃ entry, tree.entry? (place ++ names ++ [name]) = some entry ∧
        isDocumentChild (name, entry) = true := by
  have selects := spells.leads.selects_selection proper spells.free isDocumentChild inside.ne_nil
    valid
  rw [selects.mem_iff, and_iff_right_of_imp]
  rintro ⟨entry, stands, wanted⟩
  cases entry with
  | directory => cases wanted
  | file content =>
      -- The path of the directory is no longer than that of the document.
      have isDocument : isDocumentName name = true := (Bool.and_eq_true_iff.mp wanted).2
      rw [List.append_assoc] at stands
      have fits := spells.documents names name content inside isDocument stands
      rw [below_append_singleton] at fits
      exact (size_text_le_child _ name).trans fits

/-- Without a dot before them the names of the working directory are as good. -/
theorem of_here (spells : tree.Spells (.ofName ".") place) : tree.Spells .empty place := by
  have here : place = tree.workingDirectory :=
    eq_of_walk_meaningless (by decide) spells.leads.walk
  have directory := spells.leads.directory
  refine spells.of_shorter proper ⟨?_, directory⟩ (by simp [IsFreeOf, FilePath.empty]) (by decide)
  rw [here] at directory ⊢
  exact walk_meaningless directory (by decide)

section Both

variable (spells : tree.Spells base place) (otherSpells : tree.Spells other place)

include spells otherSpells

theorem selection_eq {names : List String} (inside : IsDocumentDirectory names)
    (valid : ∀ name ∈ names, IsName name) :
    tree.selection isDocumentChild (base.below names) =
      tree.selection isDocumentChild (other.below names) := by
  have selects := spells.leads.selects_selection proper spells.free isDocumentChild inside.ne_nil
    valid
  have otherSelects := otherSpells.leads.selects_selection proper otherSpells.free isDocumentChild
    inside.ne_nil valid
  refine selects.ordered.eq_of_mem_iff otherSelects.ordered ?_
  intro name
  rw [spells.mem_selection_iff proper inside valid,
    otherSpells.mem_selection_iff proper inside valid]

theorem moduleLayout_eq {directory : List String} (inside : IsModuleDirectory directory)
    (valid : ∀ name ∈ directory, IsName name) :
    tree.moduleLayout base directory = tree.moduleLayout other directory := by
  have testsValid : ∀ name ∈ directory ++ [testsDirectory], IsName name := by
    refine List.forall_mem_append.mpr ⟨valid, ?_⟩
    decide
  rw [moduleLayout, moduleLayout,
    selection_eq proper spells otherSpells ⟨directory, inside, .inl rfl⟩ valid,
    selection_eq proper spells otherSpells ⟨directory, inside, .inr rfl⟩ testsValid]

theorem namedModules_eq :
    tree.selection isDirectoryChild (base.below [namedModulesDirectory]) =
      tree.selection isDirectoryChild (other.below [namedModulesDirectory]) := by
  have selects := selects_namedModules spells.leads proper spells.free
  have otherSelects := selects_namedModules otherSpells.leads proper otherSpells.free
  refine selects.ordered.eq_of_mem_iff otherSelects.ordered ?_
  intro name
  rw [selects.mem_iff, otherSelects.mem_iff, and_iff_right spells.modules,
    and_iff_right otherSpells.modules]

/-- A document is read alike under both paths: it is found there, and nothing else is. -/
theorem readText_eq {directory : List String} (inside : IsModuleDirectory directory)
    (valid : ∀ name ∈ directory, IsName name) {file : DocumentFile}
    (member : file ∈ (tree.moduleLayout base directory).files) :
    tree.readText (base.below file.way) = tree.readText (other.below file.way) := by
  have describes := describes_moduleLayout spells.leads proper spells.free inside.ne_nil valid
  have ways := describes.isName_of_mem_files proper valid member
  obtain ⟨⟨content, stands⟩, -⟩ := describes.stands member
  have found {path : FilePath} (leading : tree.Spells path place) :
      tree.find (path.below file.way) = .ok (.file content) := by
    rw [leading.leads.find_below_iff ways proper,
      checkPath_below_iff leading.free (ModuleLayout.way_ne_nil member) ways]
    refine ⟨?_, stands⟩
    obtain ⟨names, name, split, isDocument⟩ := describes.exists_way_eq_concat member
    rw [split] at stands ⊢
    refine leading.documents names name content ⟨directory, inside, ?_⟩ isDocument stands
    rcases ModuleLayout.mem_files_iff.mp member with ⟨last, -, rfl⟩ | ⟨last, -, rfl⟩
    · exact .inl (List.append_inj_left' split.symm rfl)
    · exact .inr (List.append_inj_left' split.symm rfl)
  rw [readText, found spells, readText, found otherSpells]

theorem loadModule_eq (config : ProjectConfig) {directory : List String}
    (inside : IsModuleDirectory directory) (valid : ∀ name ∈ directory, IsName name)
    (name : String) (isDefault : Bool) :
    LocatedConfig.loadModule ⟨config, base⟩ tree name isDefault (base.below directory) =
      LocatedConfig.loadModule ⟨config, other⟩ tree name isDefault (other.below directory) := by
  have describes := describes_moduleLayout spells.leads proper spells.free inside.ne_nil valid
  rw [LocatedConfig.loadModule_eq ⟨config, base⟩, LocatedConfig.loadModule_eq ⟨config, other⟩,
    ← moduleLayout_eq proper spells otherSpells inside valid]
  congr 1
  refine mapM_congr ?_
  intro file member
  have someName := ModuleLayout.way_ne_nil member
  have ways := describes.isName_of_mem_files proper valid member
  rw [LocatedConfig.loadFile, LocatedConfig.loadFile, LocatedConfig.loadDocument,
    LocatedConfig.loadDocument, relativeTo_below base someName ways,
    relativeTo_below other someName ways, readText_eq proper spells otherSpells inside valid member]

theorem loadDefaultModule_eq (config : ProjectConfig) :
    LocatedConfig.loadDefaultModule ⟨config, base⟩ tree =
      LocatedConfig.loadDefaultModule ⟨config, other⟩ tree :=
  loadModule_eq proper spells otherSpells config (.inl rfl) (by decide) config.name true

theorem loadNamedModules_eq (config : ProjectConfig) :
    LocatedConfig.loadNamedModules ⟨config, base⟩ tree =
      LocatedConfig.loadNamedModules ⟨config, other⟩ tree := by
  have selects := selects_namedModules spells.leads proper spells.free
  rw [LocatedConfig.loadNamedModules_eq_mapM, LocatedConfig.loadNamedModules_eq_mapM,
    ← namedModules_eq proper spells otherSpells]
  refine mapM_congr ?_
  intro name member
  have nameValid := selects.isName proper member
  have modulesValid : IsName namedModulesDirectory := by decide
  exact loadModule_eq proper spells otherSpells config (.inr ⟨name, rfl⟩)
    (by simp [modulesValid, nameValid]) _ false

end Both

end Spells

end FileTree

/-! ### The same project -/

namespace LocatedConfig

/-- The configuration that a file holds, when it can be used. -/
def configAt (tree : FileTree) (path : FilePath) : Except LoadError ProjectConfig := do
  let text ← (tree.readText path).mapError .file
  let config ← (ProjectConfig.ofText text).mapError .configUnreadable
  match config.fault? with
  | some fault => throw (.configUnusable fault)
  | none => return config

variable {tree : FileTree} {path : FilePath}

/-- A document whose path is too long is an error, not a document that is missing. -/
theorem loadFile_of_overlong {located : LocatedConfig} {file : DocumentFile}
    (free : located.base.IsNulFree) (valid : ∀ name ∈ file.way, IsName name)
    (overlong : FileTree.maxPathSize < (located.base.below file.way).text.utf8ByteSize) :
    located.loadFile tree file = .error (.file .nameTooLong) := by
  have refused := FileTree.checkPath_of_overlong
    (isFreeOf_below free fun name member => (valid name member).no_nul) overlong
  rw [loadFile, loadDocument, FileTree.readText, FileTree.find, FileTree.resolve, refused]
  rfl

theorem placesOf_of_directory (isDirectory : tree.isDirectory path = true) :
    placesOf tree path = (path.child configFileName, path) := by
  rw [placesOf, if_pos isDirectory]

theorem placesOf_of_file {content : Content} {above : FilePath}
    (file : tree.find path = .ok (.file content)) (parent : path.parent? = some above) :
    placesOf tree path = (path, above) := by
  have notDirectory : ¬ tree.isDirectory path = true := by
    rw [FileTree.isDirectory_iff_find, file]
    simp
  rw [placesOf, if_neg notDirectory, parent]
  rfl

theorem load_eq_map_configAt (stands : tree.hasEntry (placesOf tree path).1 = true) :
    load tree path =
      (configAt tree (placesOf tree path).1).map (⟨·, (placesOf tree path).2⟩) := by
  rw [load, configAt]
  generalize placesOf tree path = places at stands ⊢
  obtain ⟨configPath, base⟩ := places
  dsimp only at stands ⊢
  rw [stands, if_neg (by decide)]
  cases tree.readText configPath with
  | error failure => rfl
  | ok text =>
      cases decoded : ProjectConfig.ofText text with
      | error failure =>
          simp only [Except.mapError, bind, Except.bind, decoded, Except.map]
      | ok config =>
          simp only [Except.mapError, bind, Except.bind, decoded]
          cases config.fault? <;> rfl

end LocatedConfig

namespace LocatedProject

variable {tree : FileTree} (proper : tree.IsProper)

include proper

theorem load_map_project_eq_of_spells {path other : FilePath} {place : Place} {entry : Entry}
    (found : tree.find (LocatedConfig.placesOf tree path).1 = .ok entry)
    (otherFound : tree.find (LocatedConfig.placesOf tree other).1 = .ok entry)
    (spells : tree.Spells (LocatedConfig.placesOf tree path).2 place)
    (otherSpells : tree.Spells (LocatedConfig.placesOf tree other).2 place) :
    (load tree path).map project = (load tree other).map project := by
  have stands := FileTree.hasEntry_iff.mpr ⟨entry, found⟩
  have otherStands := FileTree.hasEntry_iff.mpr ⟨entry, otherFound⟩
  have config : LocatedConfig.configAt tree (LocatedConfig.placesOf tree path).1 =
      LocatedConfig.configAt tree (LocatedConfig.placesOf tree other).1 := by
    rw [LocatedConfig.configAt, LocatedConfig.configAt, FileTree.readText, FileTree.readText,
      found, otherFound]
  rw [load, load, LocatedConfig.load_eq_map_configAt stands,
    LocatedConfig.load_eq_map_configAt otherStands, config]
  cases LocatedConfig.configAt tree (LocatedConfig.placesOf tree other).1 with
  | error failure => rfl
  | ok config =>
      have defaultModule := spells.loadDefaultModule_eq proper otherSpells config
      have namedModules := spells.loadNamedModules_eq proper otherSpells config
      simp only [Except.map, bind, Except.bind, defaultModule, namedModules]
      cases LocatedConfig.loadDefaultModule
          ⟨config, (LocatedConfig.placesOf tree other).2⟩ tree with
      | error failure => rfl
      | ok loaded =>
          cases LocatedConfig.loadNamedModules
            ⟨config, (LocatedConfig.placesOf tree other).2⟩ tree <;> rfl

/-- A project is the same whether it is loaded from its directory or from its configuration, and so
is the error if it cannot be loaded.  The system has to take the paths of its documents as they
are spelled from the directory. -/
theorem load_config_eq_load_directory {directory path : FilePath} {content : Content}
    (isDirectory : tree.isDirectory directory = true)
    (file : tree.find (directory.child configFileName) = .ok (.file content))
    (spelled : path = directory.child configFileName ∨
      directory = .ofName "." ∧ path = .ofName configFileName)
    (documents : ∀ place, tree.LeadsTo directory place → tree.TakesDocuments directory place) :
    (load tree path).map project = (load tree directory).map project := by
  obtain ⟨-, place, leads⟩ := FileTree.isDirectory_iff.mp isDirectory
  have spells := FileTree.Spells.of_config leads file (documents place leads)
  have valid : ∀ name ∈ [configFileName], IsName name := by decide
  -- Without the dot the path begins in the working directory.
  obtain ⟨start, rfl, startSpells, shorter⟩ : ∃ start, path = start.child configFileName ∧
      tree.Spells start place ∧ start.leadText.utf8ByteSize ≤ directory.leadText.utf8ByteSize := by
    rcases spelled with rfl | ⟨rfl, rfl⟩
    · exact ⟨directory, rfl, spells, Nat.le_refl _⟩
    · exact ⟨empty, rfl, spells.of_here proper, by decide⟩
  have found : tree.find (start.child configFileName) = .ok (.file content) := by
    obtain ⟨taken, stands⟩ := (leads.find_below_iff valid proper).mp file
    refine (startSpells.leads.find_below_iff valid proper).mpr ⟨?_, stands⟩
    rw [FileTree.checkPath_below_iff spells.free (by simp) valid,
      size_text_below _ (by simp) (by decide)] at taken
    rw [FileTree.checkPath_below_iff startSpells.free (by simp) valid,
      size_text_below _ (by simp) (by decide)]
    omega
  obtain ⟨above, parent, aboveLeads, aboveShorter⟩ := startSpells.exists_parent
  have places := LocatedConfig.placesOf_of_file found parent
  have directoryPlaces := LocatedConfig.placesOf_of_directory isDirectory
  have aboveFree : above.IsNulFree :=
    IsFreeOf.parent? (isFreeOf_child.mpr ⟨startSpells.free, by decide⟩) parent
  have aboveSpells := startSpells.of_shorter proper aboveLeads aboveFree aboveShorter
  exact load_map_project_eq_of_spells proper (by rwa [places]) (by rwa [directoryPlaces])
    (by rwa [places]) (by rwa [directoryPlaces])

omit proper

theorem load_config_eq_load_directory_confusing :
    confusingTree.isDirectory (.ofName ".") = true ∧
      confusingTree.find ((ofName ".").child configFileName) =
        .ok (.file (.text "name: app\n")) ∧
      (load confusingTree (.ofName configFileName)).map project =
        (load confusingTree (.ofName ".")).map project := by
  have proper : confusingTree.IsProper := by decide +kernel
  have isDirectory : confusingTree.isDirectory (.ofName ".") = true := by decide
  have file : confusingTree.find ((ofName ".").child configFileName) =
      .ok (.file (.text "name: app\n")) := by decide
  have short : ∀ listed ∈ confusingTree.entries,
      ((ofName ".").below (listed.1.drop 1)).text.utf8ByteSize ≤ FileTree.maxPathSize := by
    decide +kernel
  refine ⟨isDirectory, file,
    load_config_eq_load_directory proper isDirectory file (.inr ⟨rfl, rfl⟩) ?_⟩
  intro place leads names name content inside isDocument stands
  obtain rfl : place = ["work"] := FileTree.eq_of_walk_meaningless (by decide) leads.walk
  have listed := proper.mem_entries_iff.mpr ⟨by simp, stands⟩
  exact short _ listed

def longName : String := "conversions-between-documents.yaml"

def longNameTree : FileTree where
  workingDirectory := ["work"]
  entries := [
    (["work"], .directory),
    (["work", "transformer.yaml"], .file (.text "name: app\n")),
    (["work", "src"], .directory),
    (["work", "src", longName], .file (.text ""))]

theorem isProper_longNameTree : longNameTree.IsProper := by decide

section LongName

variable {count : Nat} (fits : 2 * count + configFileName.utf8ByteSize ≤ FileTree.maxPathSize)

include fits

omit fits in
theorem way_of_mem_files_longName {file : DocumentFile}
    (member : file ∈ (longNameTree.projectLayout (staying count)).files) :
    file.way = [defaultModuleDirectory, longName] := by
  have leads : longNameTree.LeadsTo (staying count) ["work"] := leadsTo_staying count rfl rfl
  have describes := describes_projectLayout leads isProper_longNameTree (isNulFree_staying count)
  obtain ⟨⟨content, stands⟩, -⟩ := describes.stands member
  have listed := isProper_longNameTree.mem_entries_iff.mpr ⟨by simp, stands⟩
  simp [longNameTree] at listed
  rcases listed with ⟨way, -⟩ | ⟨way, -⟩
  · have nested := describes.head_way member
    rw [way] at nested
    exact absurd nested (by decide)
  · exact way

/-- The path of the configuration and that of the directory `src` fit, the one of the document does
not. -/
theorem load_staying_of_longName (overlong : FileTree.maxPathSize < 2 * count + 38) :
    load longNameTree (staying count) = .error (.file .nameTooLong) := by
  have decoded : ProjectConfig.ofText "name: app\n" = .ok (.named "app") := by decide +kernel
  have configured :=
    LocatedConfig.load_staying rfl rfl fits isProper_longNameTree rfl decoded rfl
  have free := isNulFree_staying count
  have leads : longNameTree.LeadsTo (staying count) ["work"] := leadsTo_staying count rfl rfl
  have directoryFits : ((staying count).below [defaultModuleDirectory]).text.utf8ByteSize ≤
      FileTree.maxPathSize := by
    have shorter : defaultModuleDirectory.utf8ByteSize ≤ configFileName.utf8ByteSize := by decide
    have size := size_text_child (staying count) defaultModuleDirectory
    rw [size_leadText_staying] at size
    exact size.trans_le (by omega)
  have member : ⟨[defaultModuleDirectory, longName], false⟩ ∈
      (longNameTree.projectLayout (staying count)).files :=
    mem_files_projectLayout leads isProper_longNameTree free (by decide) rfl directoryFits
  rw [load_eq_error_iff configured]
  cases files : (longNameTree.projectLayout (staying count)).files with
  | nil =>
      rw [files] at member
      cases member
  | cons first others =>
      have inside : first ∈ (longNameTree.projectLayout (staying count)).files := by
        rw [files]
        exact List.mem_cons_self
      have way := way_of_mem_files_longName inside
      have valid : ∀ name ∈ [defaultModuleDirectory, longName], IsName name := by decide
      have size : (FilePath.text ⟨[defaultModuleDirectory, longName]⟩).utf8ByteSize = 38 := by
        decide
      refine mapM_cons_of_error (LocatedConfig.loadFile_of_overlong free (way ▸ valid) ?_)
      rw [way, size_text_below _ (by simp) fun name member => (valid name member).nonempty,
        size_leadText_staying, size]
      exact overlong

/-- Seen from the configuration the dots are no part of the paths. -/
theorem load_config_staying_of_longName (positive : 0 < count) :
    load longNameTree ((staying count).child configFileName) =
      load longNameTree (.ofName ".") := by
  have decoded : ProjectConfig.ofText "name: app\n" = .ok (.named "app") := by decide +kernel
  have here : LocatedConfig.load longNameTree (.ofName ".") =
      .ok ⟨.named "app", .ofName "."⟩ := by decide +kernel
  have found := find_config_staying rfl rfl fits isProper_longNameTree rfl
  have parent : ((staying count).child configFileName).parent? = some (.ofName ".") := by
    have segments := segments_child (staying count) configFileName
    obtain ⟨others, rfl⟩ := Nat.exists_eq_succ_of_ne_zero positive.ne'
    rw [lead_staying, List.replicate_succ] at segments
    have none : trimEnd (List.replicate others ".") = [] :=
      trimEnd_of_meaningless (by simp [isMeaningful])
    rw [parent?_of_segments segments (by decide), ofLead, if_pos none]
    rfl
  have configured : LocatedConfig.load longNameTree ((staying count).child configFileName) =
      .ok ⟨.named "app", .ofName "."⟩ := by
    rw [LocatedConfig.load_eq_ok_iff, LocatedConfig.placesOf_of_file found parent]
    exact ⟨_, FileTree.readText_eq_ok_iff.mpr found, decoded, rfl, rfl⟩
  rw [load_eq_of_configured configured, load_eq_of_configured here]

end LongName

/-- A path that is long enough keeps a project from being loaded from its directory, but not from
being loaded from its configuration. -/
theorem load_config_ne_load_directory :
    longNameTree.IsProper ∧ longNameTree.isDirectory (staying 2030) = true ∧
      longNameTree.find ((staying 2030).child configFileName) =
        .ok (.file (.text "name: app\n")) ∧
      load longNameTree (staying 2030) = .error (.file .nameTooLong) ∧
      (load longNameTree ((staying 2030).child configFileName)).map (·.project.documentCount) =
        .ok 1 := by
  have fits : 2 * 2030 + configFileName.utf8ByteSize ≤ FileTree.maxPathSize := by decide
  refine ⟨isProper_longNameTree, isDirectory_staying rfl rfl fits,
    find_config_staying rfl rfl fits isProper_longNameTree rfl,
    load_staying_of_longName fits (by decide), ?_⟩
  rw [load_config_staying_of_longName fits (by decide)]
  decide +kernel

end LocatedProject

end PureService
