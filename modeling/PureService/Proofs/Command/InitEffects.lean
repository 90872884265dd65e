import PureService.Proofs.Command.Init
import PureService.Proofs.Files.Filling

/-!
# What an initialization leaves

A new project is begun with directories.  Its configuration is written next, where
there is none, and then its other files, whatever is there.  What has been done is
not undone when a later step fails.
-/

namespace PureService

open Attempts FilePath

namespace NewProject

/-! ### The steps -/

/-- The files that are written after the configuration. -/
def laterTexts : List (List String × String) :=
  [(documentFile.way, documentText), (testFile.way, testText), ([ignoreName], ignoreText)]

/-- The files of a new project in the order in which they are written. -/
def texts (name : String) : List (List String × String) :=
  ([configFileName], configText name) :: laterTexts

theorem ways_texts (name : String) :
    (texts name).map Prod.fst =
      [[configFileName], documentFile.way, testFile.way, [ignoreName]] :=
  rfl

theorem valid_texts (name : String) :
    ∀ written ∈ texts name, written.1 ≠ [] ∧ ∀ part ∈ written.1, IsName part := by
  have ways : ∀ way ∈ (texts name).map Prod.fst, way ≠ [] ∧ ∀ part ∈ way, IsName part := by
    rw [ways_texts]
    decide
  intro written member
  exact ways written.1 (List.mem_map_of_mem member)

theorem nodup_texts (name : String) : ((texts name).map Prod.fst).Nodup := by
  rw [ways_texts]
  decide

/-- Make the directory unless something is there. -/
def makeMissing (path : FilePath) : FileAction FileError Unit := do
  if !(← get).hasEntry path then
    FileAction.makeDirectories path

/-- Choose the name and write the files unless there is a configuration. -/
def occupy (path : FilePath) (given : Option String) : FileAction InitError Unit := do
  let name ← match nameFor (← get) path given with
    | .ok name => pure name
    | .error error => throw error
  if (← get).hasEntry (path.child configFileName) then throw (.occupied path.text)
  (writeFiles path name).adapt .file

section Steps

variable (tree : FileTree) (path : FilePath) (given : Option String)

theorem makeMissing_runOn :
    (makeMissing path).runOn tree =
      if tree.hasEntry path then (.ok (), tree)
      else (FileAction.makeDirectories path).runOn tree := by
  simp only [makeMissing, FileAction.runOn_bind, FileAction.runOn_get]
  cases tree.hasEntry path <;> rfl

theorem occupy_runOn :
    (occupy path given).runOn tree =
      match nameFor tree path given with
      | .error error => (.error error, tree)
      | .ok name =>
        if tree.hasEntry (path.child configFileName) then (.error (.occupied path.text), tree)
        else
          (((writeFiles path name).runOn tree).1.mapError .file,
            ((writeFiles path name).runOn tree).2) := by
  cases named : nameFor tree path given with
  | error error =>
      simp only [occupy, FileAction.runOn_bind, FileAction.runOn_get, named]
      rfl
  | ok name =>
      simp only [occupy, FileAction.runOn_bind, FileAction.runOn_get, named, FileAction.runOn_pure]
      cases tree.hasEntry (path.child configFileName) <;> rfl

theorem make_runOn_eq :
    (make path given).runOn tree =
      match (makeMissing path).runOn tree with
      | (.error fault, middle) => (.error (.file fault), middle)
      | (.ok (), middle) => (occupy path given).runOn middle := by
  simp only [make, makeMissing, FileAction.runOn_bind, FileAction.runOn_get]
  cases tree.hasEntry path with
  | true => rfl
  | false =>
      simp only [Bool.not_false, if_true, FileAction.runOn_bind, FileAction.runOn_adapt]
      cases (FileAction.makeDirectories path).runOn tree with
      | mk result middle => cases result <;> rfl

end Steps

theorem writeFiles_eq (path : FilePath) (name : String) :
    writeFiles path name =
      FileAction.makeDirectories (path.below [defaultModuleDirectory, testsDirectory]) >>= fun _ =>
        FileAction.fill path (texts name) := by
  simp only [FileAction.fill, texts, laterTexts, bind_pure_unit]
  rfl

theorem growsBy_makeMissing (path : FilePath) :
    FileAction.GrowsBy path.segments (makeMissing path) := by
  intro tree
  rw [makeMissing_runOn]
  split
  next => exact .refl _ tree
  next => exact FileAction.growsBy_makeDirectories path tree

theorem nameFor_eq_ok_iff {tree : FileTree} {path : FilePath} {given : Option String}
    {name : String} :
    nameFor tree path given = .ok name ↔
      ∃ place, tree.resolve path = .ok place ∧ (given <|> place.getLast?) = some name := by
  rw [nameFor, FileTree.properName]
  cases tree.resolve path with
  | error fault => simp [Except.map, Except.mapError, bind, Except.bind]
  | ok place =>
      simp only [Except.map, Except.mapError, bind, Except.bind, Except.ok.injEq, exists_eq_left']
      cases (given <|> place.getLast?) <;>
        simp [pure, Except.pure, throw, throwThe, MonadExceptOf.throw]

/-! ### What comes of them -/

/-- The configuration has been written where there was none, and after it the given files, from
the place on to which the path leads.  All other files are as they were. -/
structure Configures (path : FilePath) (given : Option String) (name : String) (place : Place)
    (tree : FileTree) (written : List (List String × String)) (after : FileTree) : Prop where
  leads : after.LeadsTo path place
  proper : after.IsProper
  named : nameFor after path given = .ok name
  vacant : tree.entry? (place ++ [configFileName]) = none
  taken : FileTree.checkPath (path.child configFileName) = .ok ()
  config : after.entry? (place ++ [configFileName]) = some (.file (.text (configText name)))
  holds : ∀ file ∈ written, after.entry? (place ++ file.1) = some (.file (.text file.2))
  others : ∀ {other content}, tree.entry? other = some (.file content) →
    (∀ file ∈ written, other ≠ place ++ file.1) → after.entry? other = some (.file content)

/-- The names of the directories that are made. -/
def madeNames (path : FilePath) : List String :=
  path.segments ++ [defaultModuleDirectory, testsDirectory]

/-- What an initialization leaves in the tree, by how it ends. -/
inductive Leaves (path : FilePath) (given : Option String) (tree after : FileTree) :
    Except InitError Unit → Prop where
  /-- It ended before the configuration was written. -/
  | begun {error : InitError} (grows : tree.GrowsBy (madeNames path) after) :
      Leaves path given tree after (.error error)
  /-- One of the later files could not be written. -/
  | refused {name : String} {place : Place} {written others : List (List String × String)}
      {first : List String × String} {fault : FileError}
      (split : laterTexts = written ++ first :: others)
      (configures : Configures path given name place tree written after)
      (refused : after.writeFile (path.below first.1) (.text first.2) = .error fault) :
      Leaves path given tree after (.error (.file fault))
  | finished {name : String} {place : Place}
      (configures : Configures path given name place tree laterTexts after) :
      Leaves path given tree after (.ok ())

theorem mem_madeNames (path : FilePath) (name : String)
    (member : name ∈ (path.below [defaultModuleDirectory, testsDirectory]).segments) :
    name ∈ madeNames path ∨ name = "" := by
  rw [path.segments_below (by simp) (by decide)] at member
  rcases List.mem_append.mp member with before | tests
  · exact .inl (List.mem_append_left _ (lead_subset_segments path before))
  · exact .inl (List.mem_append_right _ tests)

/-- Where only directories have come, there is no configuration unless there was one.  A directory
of that name can have come only if the path names it. -/
theorem lacksConfig_of_growsBy {tree after : FileTree} {path : FilePath} {place : Place}
    (proper : tree.IsProper) (free : path.IsFreeOf '/')
    (grows : tree.GrowsBy (madeNames path) after) (leads : after.LeadsTo path place)
    (vacant : tree.entry? (place ++ [configFileName]) = none) :
    (∀ content, after.entry? (place ++ [configFileName]) ≠ some (.file content)) ∧
      (configFileName ∉ path.segments → after.hasEntry (path.child configFileName) = false) := by
  have only {entry : Entry} (stands : after.entry? (place ++ [configFileName]) = some entry) :
      entry = .directory ∧ configFileName ∈ path.segments := by
    obtain ⟨isDirectory, member⟩ := grows.of_absent vacant stands
    refine ⟨isDirectory, (List.mem_append.mp member).resolve_right ?_⟩
    decide
  have afterProper : after.IsProper := by
    refine grows.proper proper (List.forall_mem_append.mpr ⟨free, ?_⟩)
    decide
  constructor
  · intro content stands
    cases (only stands).1
  · intro unnamed
    have valid : ∀ part ∈ [configFileName], IsName part := by decide
    rw [Bool.eq_false_iff, Ne, FileTree.hasEntry_iff]
    rintro ⟨entry, found⟩
    have stands := ((leads.find_below_iff valid afterProper).mp found).2
    exact unnamed (only stands).2

/-- A file that was there is kept, or one of the written texts has come in its place. -/
theorem Configures.kept {path : FilePath} {given : Option String} {name : String} {place : Place}
    {tree after : FileTree} {written : List (List String × String)}
    (configures : Configures path given name place tree written after) {other : Place}
    {content : Content} (stood : tree.entry? other = some (.file content)) :
    after.entry? other = some (.file content) ∨
      ∃ file ∈ written, other = place ++ file.1 ∧
        after.entry? other = some (.file (.text file.2)) := by
  by_cases hit : ∃ file ∈ written, other = place ++ file.1
  · obtain ⟨file, member, rfl⟩ := hit
    exact .inr ⟨file, member, rfl, configures.holds file member⟩
  · exact .inl (configures.others stood fun file member same => hit ⟨file, member, same⟩)

section Filled

variable {tree vacant middle after : FileTree} {path : FilePath} {given : Option String}
  {name : String} {written left : List (List String × String)}

/-- The path has led to the same place since the name was chosen. -/
theorem exists_leadsTo_of_makes (named : nameFor vacant path given = .ok name)
    (makes : FileAction.Makes vacant (path.below [defaultModuleDirectory, testsDirectory]) middle) :
    ∃ place, vacant.resolve path = .ok place ∧ (given <|> place.getLast?) = some name ∧
      middle.LeadsTo path place := by
  have testsDirectories := makes.directory (isEmpty_child _ (by decide))
  obtain ⟨-, there, testsLeads⟩ := FileTree.isDirectory_iff.mp testsDirectories
  obtain ⟨place, leads⟩ :=
    FileTree.exists_leadsTo_of_walk_below (by simp) (by decide) testsLeads.walk
  obtain ⟨first, resolved, chosen⟩ := nameFor_eq_ok_iff.mp named
  have keeps := makes.extended.keeps
  have walked := keeps.walk (FileTree.resolve_eq_ok_iff.mp resolved).2
  rw [← keeps.startOf, leads.walk] at walked
  cases walked
  exact ⟨place, resolved, chosen, leads⟩

theorem gainsTexts_of_fill_texts (proper : middle.IsProper) {place : Place}
    (leads : middle.LeadsTo path place) {first : List (List String × String)}
    (split : texts name = first ++ left)
    (filled : (FileAction.fill path first).runOn middle = (.ok (), after)) :
    middle.GainsTexts place first after := by
  have valid : ∀ file ∈ first, file.1 ≠ [] ∧ ∀ part ∈ file.1, IsName part := by
    intro file member
    refine valid_texts name file ?_
    rw [split]
    exact List.mem_append_left left member
  have distinct := nodup_texts name
  rw [split, List.map_append] at distinct
  exact FileTree.gainsTexts_of_fill leads proper valid (List.nodup_append.mp distinct).1 filled

theorem configures_of_fill (proper : vacant.IsProper) (free : path.IsFreeOf '/')
    (extended : tree.Extends vacant) (named : nameFor vacant path given = .ok name)
    (absent : vacant.hasEntry (path.child configFileName) = false)
    (makes : FileAction.Makes vacant (path.below [defaultModuleDirectory, testsDirectory]) middle)
    (split : texts name = ([configFileName], configText name) :: written ++ left)
    (filled : (FileAction.fill path (([configFileName], configText name) :: written)).runOn middle =
      (.ok (), after)) :
    ∃ place, Configures path given name place tree written after := by
  obtain ⟨place, resolved, chosen, leads⟩ := exists_leadsTo_of_makes named makes
  obtain ⟨pathTaken, walked⟩ := FileTree.resolve_eq_ok_iff.mp resolved
  have middleProper := makes.proper proper (isFreeOf_below free (by decide))
  have gains := gainsTexts_of_fill_texts middleProper leads split filled
  obtain ⟨config, holds⟩ := List.forall_mem_cons.mp gains.holds
  have leadsAfter := gains.keeps.leadsTo leads
  have namedAfter : nameFor after path given = .ok name :=
    nameFor_eq_ok_iff.mpr
      ⟨place, FileTree.resolve_eq_ok_iff.mpr ⟨pathTaken, leadsAfter.walk⟩, chosen⟩
  have taken : FileTree.checkPath (path.child configFileName) = .ok () := by
    obtain ⟨_, wrote, -⟩ := FileAction.fill_cons_eq_ok_iff.mp filled
    obtain ⟨_, _, ends, -⟩ := FileTree.writeFile_eq_ok_iff.mp wrote
    exact ends.taken
  -- The configuration was not found before, so the file that was written there replaces none.
  have vacantPlace : tree.entry? (place ++ [configFileName]) = none :=
    extended.absent
      (FileTree.entry?_of_hasEntry_eq_false proper walked (by decide) taken absent)
  refine ⟨place, leadsAfter, gains.proper, namedAfter, vacantPlace, taken, config, holds, ?_⟩
  intro other content stood different
  rw [gains.others other]
  · exact makes.extended.kept (extended.kept stood)
  · refine List.forall_mem_cons.mpr ⟨?_, different⟩
    rintro rfl
    rw [vacantPlace] at stood
    cases stood

theorem leaves_of_writeFiles {result : Except FileError Unit} (proper : vacant.IsProper)
    (free : path.IsFreeOf '/') (early : tree.GrowsBy (madeNames path) vacant)
    (named : nameFor vacant path given = .ok name)
    (absent : vacant.hasEntry (path.child configFileName) = false)
    (ran : (writeFiles path name).runOn vacant = (result, after)) :
    Leaves path given tree after (result.mapError .file) := by
  have grows : vacant.GrowsBy (madeNames path) _ :=
    (FileAction.growsBy_makeDirectories
      (path.below [defaultModuleDirectory, testsDirectory]) vacant).mono (mem_madeNames path)
  rw [writeFiles_eq, FileAction.runOn_bind] at ran
  cases made : (FileAction.makeDirectories
      (path.below [defaultModuleDirectory, testsDirectory])).runOn vacant with
  | mk directories middle =>
      rw [made] at ran grows
      have begun := early.trans grows
      cases directories with
      | error fault =>
          cases ran
          exact .begun begun
      | ok _ =>
          have makes := FileAction.makes_of_makeDirectories made
          -- The configuration is the first text: without it the tree is begun, with it configured.
          obtain ⟨written, left, split, filled, outcome⟩ := FileAction.fill_cases ran
          cases written with
          | nil =>
              cases filled
              rcases outcome with ⟨rfl, -⟩ | ⟨_, _, fault, -, -, rfl⟩
              · cases split
              · exact .begun begun
          | cons config written =>
              obtain ⟨rfl, rest⟩ := List.cons.inj split
              have later : laterTexts = written ++ left := rest
              obtain ⟨place, configures⟩ :=
                configures_of_fill proper free early.extended named absent makes split filled
              rcases outcome with ⟨rfl, rfl⟩ | ⟨first, others, fault, rfl, refused, rfl⟩
              · rw [List.append_nil] at later
                exact .finished (later ▸ configures)
              · exact .refused later configures refused

theorem leaves_of_occupy {result : Except InitError Unit} (proper : vacant.IsProper)
    (free : path.IsFreeOf '/') (early : tree.GrowsBy (madeNames path) vacant)
    (ran : (occupy path given).runOn vacant = (result, after)) :
    Leaves path given tree after result := by
  rw [occupy_runOn] at ran
  cases named : nameFor vacant path given with
  | error error =>
      rw [named] at ran
      cases ran
      exact .begun early
  | ok name =>
      rw [named] at ran
      dsimp only at ran
      split at ran
      next =>
        cases ran
        exact .begun early
      next absent =>
        cases wrote : (writeFiles path name).runOn vacant with
        | mk files there =>
            rw [wrote] at ran
            cases ran
            exact leaves_of_writeFiles proper free early named (Bool.not_eq_true _ ▸ absent) wrote

end Filled

theorem leaves_of_make {tree after : FileTree} {path : FilePath} {given : Option String}
    {result : Except InitError Unit} (proper : tree.IsProper) (free : path.IsFreeOf '/')
    (ran : (make path given).runOn tree = (result, after)) :
    Leaves path given tree after result := by
  have first := growsBy_makeMissing path tree
  have early : tree.GrowsBy (madeNames path) ((makeMissing path).runOn tree).2 :=
    first.mono fun _ member => .inl (List.mem_append_left _ member)
  rw [make_runOn_eq] at ran
  cases made : (makeMissing path).runOn tree with
  | mk directories vacant =>
      rw [made] at ran first early
      cases directories with
      | error fault =>
          cases ran
          exact .begun early
      | ok _ => exact leaves_of_occupy (first.proper proper free) free early ran

theorem makeMissing_of_isDirectory {tree : FileTree} {path : FilePath}
    (isThere : path.isEmpty = true ∨ tree.isDirectory path = true) :
    (makeMissing path).runOn tree = (.ok (), tree) := by
  rw [makeMissing_runOn]
  split
  next => rfl
  next => exact FileAction.makeDirectories_of_isDirectory isThere

/-- Where a configuration is found at first, nothing changes. -/
theorem make_runOn_of_hasEntry {tree : FileTree} {path : FilePath}
    (occupied : tree.hasEntry (path.child configFileName) = true) (given : Option String) :
    ((make path given).runOn tree).2 = tree := by
  obtain ⟨entry, found⟩ := FileTree.hasEntry_iff.mp occupied
  obtain ⟨there, resolved, -⟩ := FileTree.find_eq_ok_iff.mp found
  obtain ⟨taken, walked⟩ := FileTree.resolve_eq_ok_iff.mp resolved
  obtain ⟨free, fits, -⟩ := FileTree.checkPath_eq_ok_iff.mp taken
  -- The path of the directory is a part of the one that leads to the configuration.
  have isThere : path.isEmpty = true ∨ tree.isDirectory path = true := by
    cases empty : path.isEmpty with
    | true => exact .inl rfl
    | false =>
        have shorter := (size_text_le_child path configFileName).trans fits
        have pathTaken := FileTree.checkPath_eq_ok_iff.mpr
          ⟨(isFreeOf_child.mp free).1, shorter, empty⟩
        have names : path.child configFileName = path.below [configFileName] := rfl
        rw [names] at walked
        exact .inr (FileTree.isDirectory_iff.mpr ⟨pathTaken,
          FileTree.exists_leadsTo_of_walk_below (by simp) (by decide) walked⟩)
  rw [make_runOn_eq, makeMissing_of_isDirectory isThere]
  dsimp only
  rw [occupy_runOn]
  cases nameFor tree path given with
  | error error => rfl
  | ok name =>
      dsimp only
      rw [if_pos occupied]

section Configured

variable {tree after : FileTree} {path : FilePath} {given : Option String} {name : String}
  {place : Place} {written : List (List String × String)}
  (configures : Configures path given name place tree written after)

include configures

theorem Configures.find_config :
    after.find (path.child configFileName) = .ok (.file (.text (configText name))) := by
  have valid : ∀ part ∈ [configFileName], IsName part := by decide
  exact (configures.leads.find_below_iff valid configures.proper).mpr
    ⟨configures.taken, configures.config⟩

/-- The same initialization is refused when the configuration has been written. -/
theorem Configures.make_runOn :
    (make path given).runOn after = (.error (.occupied path.text), after) := by
  obtain ⟨there, resolved, -⟩ := nameFor_eq_ok_iff.mp configures.named
  have taken := (FileTree.resolve_eq_ok_iff.mp resolved).1
  have isDirectory := FileTree.isDirectory_iff.mpr ⟨taken, place, configures.leads⟩
  have occupied := FileTree.hasEntry_iff.mpr ⟨_, configures.find_config⟩
  rw [make_runOn_eq, makeMissing_of_isDirectory (.inr isDirectory)]
  dsimp only
  rw [occupy_runOn, configures.named]
  dsimp only
  rw [if_pos occupied]

end Configured

end NewProject

namespace Command

theorem runInit_tree (path : String) (given : Option String) (tree : FileTree) :
    (runInit path given tree).2 = ((NewProject.make (.ofText path) given).runOn tree).2 := by
  delta runInit
  cases (NewProject.make (.ofText path) given).runOn tree with
  | mk result after => cases result <;> rfl

theorem leaves_of_runInit {tree after : FileTree} {path : String} {given : Option String}
    {outcome : Outcome} (proper : tree.IsProper)
    (ran : runInit path given tree = (outcome, after)) :
    ∃ result, NewProject.Leaves (.ofText path) given tree after result ∧
      outcome = match result with
        | .ok () => .success ""
        | .error error => .failure "" error.message := by
  delta runInit at ran
  cases made : (NewProject.make (.ofText path) given).runOn tree with
  | mk result there =>
      have leaves := NewProject.leaves_of_make proper (isFreeOf_slash_ofText path) made
      rw [made] at ran
      cases result <;> cases ran <;> exact ⟨_, leaves, rfl⟩

/-- An initialization leaves all files as they were but for the two documents and the list of
ignored files.  They are written over what is there, the configuration is not: where it is, nothing
changes. -/
theorem runInit_keeps_files {tree after : FileTree} {path : String} {given : Option String}
    {outcome : Outcome} (proper : tree.IsProper)
    (ran : runInit path given tree = (outcome, after)) :
    (tree.hasEntry ((ofText path).child configFileName) = true → after = tree) ∧
      (∀ place content, tree.entry? place = some (.file content) →
        after.entry? place = some (.file content) ∨
          ∃ base, after.LeadsTo (.ofText path) base ∧ ∃ file ∈ NewProject.laterTexts,
            place = base ++ file.1 ∧ after.entry? place = some (.file (.text file.2))) ∧
      (outcome = .success "" → ∃ base, after.LeadsTo (.ofText path) base ∧
        ∀ file ∈ NewProject.laterTexts,
          after.entry? (base ++ file.1) = some (.file (.text file.2))) := by
  obtain ⟨result, leaves, rfl⟩ := leaves_of_runInit proper ran
  refine ⟨?_, ?_, ?_⟩
  · intro occupied
    have unchanged := runInit_tree path given tree
    rw [ran, NewProject.make_runOn_of_hasEntry occupied given] at unchanged
    exact unchanged
  · intro place content stood
    cases leaves with
    | begun grows => exact .inl (grows.extended.kept stood)
    | refused split configures =>
        refine (configures.kept stood).imp_right ?_
        rintro ⟨file, member, same, holds⟩
        have later := split ▸ List.mem_append_left _ member
        exact ⟨_, configures.leads, file, later, same, holds⟩
    | finished configures =>
        refine (configures.kept stood).imp_right ?_
        rintro ⟨file, member, same, holds⟩
        exact ⟨_, configures.leads, file, member, same, holds⟩
  · intro succeeded
    cases leaves with
    | begun => cases succeeded
    | refused => cases succeeded
    | finished configures => exact ⟨_, configures.leads, configures.holds⟩

/-- A transformer, a test and a list of ignored files are there, but no configuration. -/
def sourcesTree : FileTree where
  workingDirectory := ["work"]
  entries := [
    (["work"], .directory),
    (["work", ".gitignore"], .file (.text "secret/\n")),
    (["work", "src"], .directory),
    (["work", "src", "transform.yaml"], .file (.text "imports: []\n")),
    (["work", "src", "x.yaml"], .file (.text "imports: []\n"))]

theorem runInit_keeps_files_sources :
    sourcesTree.IsProper ∧
      FileTree.entry? (runInit "." none sourcesTree).2 ["work", "src", "x.yaml"] =
        some (.file (.text "imports: []\n")) := by
  have proper : sourcesTree.IsProper := by decide +kernel
  have ran : runInit "." none sourcesTree =
      ((runInit "." none sourcesTree).1, (runInit "." none sourcesTree).2) := rfl
  obtain ⟨-, kept, -⟩ := runInit_keeps_files proper ran
  refine ⟨proper, ?_⟩
  rcases kept ["work", "src", "x.yaml"] _ rfl with same | ⟨base, -, file, member, place, -⟩
  · exact same
  · have other : ∀ file ∈ NewProject.laterTexts, file.1.getLast? ≠ some "x.yaml" ∧ file.1 ≠ [] := by
      decide
    obtain ⟨different, someName⟩ := other file member
    have last := congrArg List.getLast? place
    rw [List.getLast?_append_of_ne_nil _ someName] at last
    exact absurd last.symm different

theorem runInit_overwrites :
    sourcesTree.entry? ["work", "src", "transform.yaml"] =
        some (.file (.text "imports: []\n")) ∧
      (runInit "." none sourcesTree).1 = .success "" ∧
      FileTree.entry? (runInit "." none sourcesTree).2 ["work", "src", "transform.yaml"] =
        some (.file (.text NewProject.documentText)) := by
  decide +kernel

/-- When an initialization fails, either only directories have come, and no configuration, or one of
the three files that come after the configuration could not be written.  The configuration stays
then, and the same initialization is refused from now on. -/
theorem runInit_fails {tree after : FileTree} {path : String} {given : Option String}
    {message : String} (proper : tree.IsProper)
    (ran : runInit path given tree = (.failure "" message, after)) :
    (tree.Extends after ∧ ∀ base, after.LeadsTo (.ofText path) base →
        tree.entry? (base ++ [configFileName]) = none →
        (∀ content, after.entry? (base ++ [configFileName]) ≠ some (.file content)) ∧
          (configFileName ∉ (ofText path).segments →
            after.hasEntry ((ofText path).child configFileName) = false)) ∨
      ∃ name, NewProject.nameFor after (.ofText path) given = .ok name ∧
        after.readText ((ofText path).child configFileName) = .ok (NewProject.configText name) ∧
        (∃ file ∈ NewProject.laterTexts, ∃ fault,
          after.writeFile ((ofText path).below file.1) (.text file.2) = .error fault ∧
            message = fault.message) ∧
        runInit path given after =
          (.failure "" (InitError.occupied (ofText path).text).message, after) := by
  obtain ⟨result, leaves, told⟩ := leaves_of_runInit proper ran
  cases leaves with
  | begun grows =>
      refine .inl ⟨grows.extended, ?_⟩
      intro base leads vacant
      exact NewProject.lacksConfig_of_growsBy proper (isFreeOf_slash_ofText path) grows leads vacant
  | @refused name place written others first fault split configures refused =>
      cases told
      have member : first ∈ NewProject.laterTexts := split ▸ by simp
      have again : runInit path given after =
          (.failure "" (InitError.occupied (ofText path).text).message, after) := by
        delta runInit
        rw [configures.make_runOn]
      exact .inr ⟨name, configures.named, FileTree.readText_eq_ok_iff.mpr configures.find_config,
        ⟨first, member, fault, refused, rfl⟩, again⟩
  | finished => cases told

/-- A directory is where the transformer is to be written. -/
def blockedTree : FileTree where
  workingDirectory := ["work"]
  entries := [
    (["work"], .directory),
    (["work", "src"], .directory),
    (["work", "src", "transform.yaml"], .directory)]

theorem runInit_fails_blocked :
    blockedTree.IsProper ∧
      ∃ after, runInit "." none blockedTree =
          (.failure "" "Is a directory (os error 21)", after) ∧
        ∃ file ∈ NewProject.laterTexts, ∃ fault,
          after.writeFile ((ofText ".").below file.1) (.text file.2) = .error fault ∧
            "Is a directory (os error 21)" = fault.message := by
  have proper : blockedTree.IsProper := by decide +kernel
  have failed : (runInit "." none blockedTree).1 = .failure "" "Is a directory (os error 21)" ∧
      FileTree.entry? (runInit "." none blockedTree).2 ["work", "transformer.yaml"] ≠ none ∧
      FileTree.entry? (runInit "." none blockedTree).2 ["work", "transformer.yaml"] ≠
        some .directory := by
    decide +kernel
  cases ran : runInit "." none blockedTree with
  | mk outcome after =>
      rw [ran] at failed
      obtain ⟨rfl, present, notDirectory⟩ := failed
      refine ⟨proper, after, rfl, ?_⟩
      rcases runInit_fails proper ran with ⟨extended, -⟩ | ⟨-, -, -, refused, -⟩
      · obtain ⟨entry, stands⟩ := Option.ne_none_iff_exists'.mp present
        rcases extended.added stands with stood | ⟨-, rfl⟩
        · cases stood
        · exact absurd stands notDirectory
      · exact refused

theorem runInit_configures_blocked :
    blockedTree.entry? ["work", "transformer.yaml"] = none ∧
      (runInit "." none blockedTree).1 = .failure "" "Is a directory (os error 21)" ∧
      FileTree.entry? (runInit "." none blockedTree).2 ["work", "transformer.yaml"] =
        some (.file (.text (NewProject.configText "work"))) ∧
      (runInit "." none (runInit "." none blockedTree).2).1 =
        .failure "" "Directory '.' already contains a transformer.yaml" := by
  decide +kernel

end Command

end PureService
