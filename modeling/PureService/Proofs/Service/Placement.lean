import PureService.Proofs.Service.Source
import PureService.Proofs.Service.Writing

/-!
# Where the file of a service stands

The file of a service is meant to stand directly in the directory into which the
service is written.  It stands there whatever the directory is exactly if there is
no slash in the file name.  Only blank file names are refused, so a configuration
can be used although its file name leads out of the directory.
-/

namespace PureService

open Attempts FilePath

/-- The path is that of something directly in the directory: it goes on with a single name. -/
def FilePath.IsChildOf (path directory : FilePath) : Prop :=
  ∃ name, path.components = directory.components ++ [.name name]

namespace FileTree

/-- The file of the name directly in the directory, which has come to the place, is the only file
that is found at its path, and the only one that may have become another one. -/
structure ChangesOnly (before : FileTree) (directory : FilePath) (name : String) (place : Place)
    (after : FileTree) : Prop where
  leads : after.LeadsTo directory place
  resolves : after.resolve (directory.child name) = .ok (place ++ [name])
  others : ∀ {other content}, other ≠ place ++ [name] →
    (after.entry? other = some (.file content) ↔ before.entry? other = some (.file content))

variable {tree : FileTree} {directory : FilePath} {place there : Place}

theorem exists_leadsTo_of_resolve_child {name : String} (meaningful : isMeaningful name = true)
    (notUp : name ≠ "..") (resolved : tree.resolve (directory.child name) = .ok there) :
    ∃ place, tree.LeadsTo directory place ∧ there = place ++ [name] := by
  obtain ⟨-, walked⟩ := resolve_eq_ok_iff.mp resolved
  rw [startOf, isRooted_child, segments_child, walk_append_eq_ok_iff] at walked
  obtain ⟨place, walkedLead, step⟩ := walked
  refine ⟨place, leadsTo_of_walk_lead walkedLead (entry?_of_walk_cons step), ?_⟩
  -- The last step can only be the one to the name.
  rcases walk_singleton_cases step with ⟨meaningless, -⟩ | ⟨up, -⟩ | ⟨-, -, same, -⟩
  · rw [meaningful] at meaningless
    cases meaningless
  · exact absurd up notUp
  · exact same

end FileTree

namespace Service

/-! ### The path of the file in a directory -/

section Path

variable (service : Service) (directory : FilePath)

/-- A file name is a name of its own, whatever comes before its extension. -/
theorem isMeaningful_append_extension (stem : String) :
    isMeaningful (stem ++ "." ++ extension) = true ∧ stem ++ "." ++ extension ≠ ".." := by
  have differs {name : String} (ending : name.toList.getLast? ≠ some 'l') :
      stem ++ "." ++ extension ≠ name := by
    rintro rfl
    simp [extension] at ending
  have nonempty : stem ++ "." ++ extension ≠ "" := differs (by decide)
  have notHere : stem ++ "." ++ extension ≠ "." := differs (by decide)
  have notUp : stem ++ "." ++ extension ≠ ".." := differs (by decide)
  simp [isMeaningful, nonempty, notHere, notUp]

theorem isRooted_fileName :
    (ofText service.fileName).isRooted = (ofText service.logicalName).isRooted := by
  obtain ⟨before, last, name, file⟩ := service.exists_segments_fileName
  cases before with
  | nil =>
      rw [isRooted, isRooted, name, file]
      rfl
  | cons first before =>
      rw [isRooted_of_segments file (by simp), isRooted_of_segments name (by simp)]

theorem pathIn_of_isRooted (rooted : (ofText service.logicalName).isRooted = true) :
    service.pathIn directory = ofText service.fileName := by
  rw [pathIn, join, service.isRooted_fileName, if_pos rooted]

theorem pathIn_of_notMem (none : '/' ∉ service.logicalName.toList) :
    service.pathIn directory = directory.child service.fileName := by
  have whole : '/' ∉ ("." ++ extension).toList := by decide
  have noneThen : '/' ∉ service.fileName.toList := by
    rw [fileName, String.append_assoc, String.toList_append]
    exact List.not_mem_append none whole
  rw [pathIn, ofText_of_notMem noneThen, child]

theorem isChildOf_of_notMem (none : '/' ∉ service.logicalName.toList) :
    (service.pathIn directory).IsChildOf directory := by
  obtain ⟨meaningful, notUp⟩ := isMeaningful_append_extension service.logicalName
  rw [service.pathIn_of_notMem directory none]
  exact ⟨service.fileName, components_child directory meaningful notUp⟩

/-- Seen from nowhere, the file is directly there only if its name is no path. -/
theorem notMem_of_isChildOf_empty (isChild : (service.pathIn .empty).IsChildOf .empty) :
    '/' ∉ service.logicalName.toList := by
  obtain ⟨before, last, name, file⟩ := service.exists_segments_fileName
  obtain ⟨meaningful, notUp⟩ := isMeaningful_append_extension last
  obtain ⟨found, components⟩ := isChild
  have nowhere : FilePath.empty.components = [] := rfl
  rw [pathIn, join_of_components_eq_nil nowhere, nowhere, List.nil_append] at components
  cases before with
  | nil => exact notMem_of_segments_eq_singleton name
  | cons first before =>
      -- The first segment and the last one stand for two components.
      have size := congrArg List.length components
      rw [List.cons_append] at file
      rw [components_of_segments file, List.length_append, length_firstComponents file (by simp),
        laterComponents_append, laterComponents_singleton meaningful notUp, List.length_append,
        List.length_singleton, List.length_singleton] at size
      omega

/-- Seen from a directory, the file is directly there exactly if nothing that comes before the
last slash of its name means anything. -/
theorem isChildOf_iff_of_relative (filled : directory.components ≠ [])
    (relative : (ofText service.logicalName).isRooted = false) :
    (service.pathIn directory).IsChildOf directory ↔
      ∀ segment ∈ (ofText service.logicalName).segments.dropLast,
        isMeaningful segment = false := by
  obtain ⟨before, last, name, file⟩ := service.exists_segments_fileName
  obtain ⟨meaningful, notUp⟩ := isMeaningful_append_extension last
  rw [← isRooted_fileName] at relative
  rw [IsChildOf, pathIn, components_join filled (segments_ofText_ne_nil _) relative, file,
    laterComponents_append, laterComponents_singleton meaningful notUp, name,
    List.dropLast_concat, ← laterComponents_eq_nil_iff]
  constructor
  · rintro ⟨found, components⟩
    simpa using congrArg List.dropLast (List.append_cancel_left components)
  · intro none
    exact ⟨_, by rw [none, List.nil_append]⟩

end Path

/-! ### Writing -/

section Writing

variable {service : Service} {directory : FilePath} {isForced : Bool} {tree after : FileTree}
  {outcome : WriteOutcome}
  (ran : (service.write directory isForced).runOn tree = (.ok outcome, after))

include ran

/-- Wherever the path of the file leads, all other files stay as they are. -/
theorem exists_resolve_of_write :
    ∃ place, after.resolve (service.pathIn directory) = .ok place ∧
      ∀ {other content}, other ≠ place →
        (after.entry? other = some (.file content) ↔
          tree.entry? other = some (.file content)) := by
  -- The file was found up to date at the end of its path, or was put there.
  rcases write_cases ran with ⟨upToDate, rfl⟩ | ⟨middle, place, name, written⟩
  · rw [isUpToDate] at upToDate
    split at upToDate
    next text read =>
      obtain ⟨place, resolves, -⟩ :=
        FileTree.find_eq_ok_iff.mp (FileTree.readText_eq_ok_iff.mp read)
      exact ⟨place, resolves, fun _ => Iff.rfl⟩
    next => cases upToDate
  · have gains := written.gainsFile
    refine ⟨place ++ [name], gains.resolves, fun different => ⟨?_, gains.kept different⟩⟩
    intro stands
    rcases gains.added different stands with stood | ⟨-, directory⟩
    · exact stood
    · cases directory

theorem exists_changesOnly_of_write (none : '/' ∉ service.logicalName.toList) :
    ∃ place, tree.ChangesOnly directory service.fileName place after := by
  obtain ⟨meaningful, notUp⟩ := isMeaningful_append_extension service.logicalName
  obtain ⟨there, resolves, others⟩ := exists_resolve_of_write ran
  rw [service.pathIn_of_notMem directory none] at resolves
  obtain ⟨place, leads, rfl⟩ :=
    FileTree.exists_leadsTo_of_resolve_child meaningful notUp resolves
  exact ⟨place, leads, resolves, others⟩

end Writing

/-- The file of a service stands directly in the directory, whatever the directory is, exactly if
there is no slash in the configured file name; then it is the only file that is read and written.
Otherwise a file name that begins at the root stays as it is, and of the others those are as good as
without a slash in which only empty segments and dots come before the last slash. -/
theorem isChildOf_pathIn_iff {config : ServiceConfig} {names : List String} {service : Service}
    (generated : ofNames config names = .ok service) :
    ((∀ directory, (service.pathIn directory).IsChildOf directory) ↔
        '/' ∉ config.fileName.toList) ∧
      ('/' ∉ config.fileName.toList → ∀ directory isForced tree outcome after,
        (service.write directory isForced).runOn tree = (.ok outcome, after) →
          ∃ place, tree.ChangesOnly directory (config.fileName ++ ".bal") place after) ∧
      ((ofText config.fileName).isRooted = true → ∀ directory,
        service.pathIn directory = ofText (config.fileName ++ ".bal")) ∧
      ((ofText config.fileName).isRooted = false → ∀ directory, directory.components ≠ [] →
        ((service.pathIn directory).IsChildOf directory ↔
          ∀ segment ∈ (ofText config.fileName).segments.dropLast,
            isMeaningful segment = false)) := by
  obtain ⟨-, rfl⟩ := ofNames_eq_ok_iff.mp generated
  set service : Service := ⟨sourceOf (.ofNames config names), config.fileName⟩
  have file : service.fileName = config.fileName ++ ".bal" := String.append_assoc ..
  rw [← file]
  refine ⟨⟨?_, ?_⟩, ?_, ?_, ?_⟩
  · exact fun everywhere => service.notMem_of_isChildOf_empty (everywhere .empty)
  · exact fun none directory => service.isChildOf_of_notMem directory none
  · exact fun none _ _ _ _ _ ran => exists_changesOnly_of_write ran none
  · exact fun rooted directory => service.pathIn_of_isRooted directory rooted
  · exact fun relative directory filled =>
      service.isChildOf_iff_of_relative directory filled relative

/-- With a plain word as file name the file comes into the directory. -/
theorem isChildOf_pathIn_word :
    ∃ service after place, ofNames .default ["f"] = .ok service ∧
      (∀ directory, (service.pathIn directory).IsChildOf directory) ∧
      (service.write (.ofText "generated") false).runOn (.withDirectory "work") =
        (.ok .written, after) ∧
      (FileTree.withDirectory "work").ChangesOnly (.ofText "generated") "service.bal" place
        after := by
  have generated := ofNames_eq_ok .default
    (by decide : ∀ name ∈ ["f"], Text.isAllBlank name = false)
  have none : '/' ∉ ServiceConfig.default.fileName.toList := by decide
  obtain ⟨everywhere, changes, -⟩ := isChildOf_pathIn_iff generated
  obtain ⟨after, ran⟩ : ∃ after, (Service.write ⟨sourceOf (.ofNames .default ["f"]), "service"⟩
      (.ofText "generated") false).runOn (.withDirectory "work") = (.ok .written, after) :=
    ⟨_, Prod.ext rfl rfl⟩
  obtain ⟨place, only⟩ := changes none _ _ _ _ _ ran
  exact ⟨_, _, place, generated, everywhere.mpr none, ran, only⟩

/-- A configuration that can be used, with a file name that leads out of the directory. -/
def escaping : ProjectConfig :=
  { ProjectConfig.named "app" with
    service := { ServiceConfig.default with fileName := "../escaped" } }

/-- The directory is made and stays empty, and the file comes to stand beside it. -/
theorem isChildOf_pathIn_escaping :
    ∃ service after, escaping.fault? = none ∧ ofNames escaping.service ["f"] = .ok service ∧
      ¬(service.pathIn (.ofText "generated")).IsChildOf (.ofText "generated") ∧
      (service.write (.ofText "generated") false).runOn (.withDirectory "work") =
        (.ok .written, after) ∧
      after.entries.map Prod.fst = [["work", "escaped.bal"], ["work", "generated"], ["work"]] := by
  have generated := ofNames_eq_ok escaping.service
    (by decide : ∀ name ∈ ["f"], Text.isAllBlank name = false)
  refine ⟨_, _, by decide, generated, ?_, Prod.ext ?_ rfl, ?_⟩
  · rw [isChildOf_iff_of_relative _ _ (by decide) (by decide)]
    decide
  · rfl
  · rfl

end Service

end PureService
