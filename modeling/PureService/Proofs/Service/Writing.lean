import PureService.Proofs.Files.FileAction
import PureService.Proofs.Project.Reloading
import PureService.Service.Writing

/-!
# Writing a service once

The file of a service is no document and no configuration.  After it has been
written the tree resembles the one before, as far as projects are concerned,
and writing the service again changes nothing.
-/

namespace PureService

open Attempts FilePath

/-! ### The path of the file -/

namespace Service

variable (service : Service) (directory : FilePath)

theorem exists_segments_fileName :
    ∃ before last, (ofText service.logicalName).segments = before ++ [last] ∧
      (ofText service.fileName).segments = before ++ [last ++ "." ++ extension] := by
  have whole : '/' ∉ ("." ++ extension).toList := by decide
  obtain ⟨before, last, split, longer⟩ :=
    exists_segments_ofText_append whole service.logicalName
  rw [← String.append_assoc, ← String.append_assoc] at longer
  exact ⟨before, last, split, longer⟩

theorem getLast?_pathIn :
    ∃ stem, (service.pathIn directory).segments.getLast? = some (stem ++ "." ++ extension) := by
  obtain ⟨before, last, -, name⟩ := service.exists_segments_fileName
  refine ⟨last, ?_⟩
  by_cases rooted : (ofText service.fileName).isRooted = true
  · rw [pathIn, join, if_pos rooted, name, List.getLast?_concat]
  · rw [pathIn, segments_join directory (Bool.not_eq_true _ ▸ rooted), name, ← List.append_assoc,
      List.getLast?_concat]

theorem isFreeOf_pathIn (free : directory.IsFreeOf '/') :
    (service.pathIn directory).IsFreeOf '/' := by
  have name := isFreeOf_slash_ofText service.fileName
  by_cases rooted : (ofText service.fileName).isRooted = true
  · rw [pathIn, join, if_pos rooted]
    exact name
  · intro segment member
    rw [pathIn, segments_join directory (Bool.not_eq_true _ ▸ rooted)] at member
    rcases List.mem_append.mp member with before | after
    · exact free segment (lead_subset_segments directory before)
    · exact name segment after

end Service

/-- No file of a project has the extension of a service. -/
theorem not_isProjectFileName_service (stem : String) :
    ¬IsProjectFileName (stem ++ "." ++ Service.extension) := by
  have ending : ("." ++ Service.extension).toList = ['.', 'b'] ++ ['a', 'l'] := by decide
  have project {name : String} (isProject : IsProjectFileName name) :
      ∃ before, name.toList = before ++ ['m', 'l'] := by
    rcases isProject with rfl | isDocument
    · exact ⟨"transformer.ya".toList, by decide⟩
    · have yaml : ".yaml".toList = ['.', 'y', 'a'] ++ ['m', 'l'] := by decide
      have yml : ".yml".toList = ['.', 'y'] ++ ['m', 'l'] := by decide
      obtain ⟨stem, -, rfl | rfl⟩ := isDocumentName_iff.mp isDocument
      · exact ⟨stem.toList ++ ['.', 'y', 'a'], by simp [yaml]⟩
      · exact ⟨stem.toList ++ ['.', 'y'], by simp [yml]⟩
  intro isProject
  obtain ⟨before, split⟩ := project isProject
  rw [String.append_assoc, String.toList_append, ending, ← List.append_assoc] at split
  have last := (List.append_inj' split rfl).2
  exact absurd last (by decide)

/-! ### What writing does -/

/-- In the tree that came to be, the file at the path holds the text; the path leads to the place.
Elsewhere everything that stood still stands, and only directories came. -/
structure FileTree.GainsFile (before : FileTree) (path : FilePath) (text : String) (place : Place)
    (after : FileTree) : Prop where
  resolves : after.resolve path = .ok place
  holds : after.entry? place = some (.file (.text text))
  kept : ∀ {other entry}, other ≠ place → before.entry? other = some entry →
    after.entry? other = some entry
  added : ∀ {other entry}, other ≠ place → after.entry? other = some entry →
    before.entry? other = some entry ∨ before.entry? other = none ∧ entry = .directory

namespace Service

/-- Directories were made, and the file was put at the end of its path. -/
structure Written (service : Service) (directory : FilePath) (tree middle : FileTree)
    (place : Place) (name : String) (after : FileTree) : Prop where
  made : FileAction.Makes tree directory middle
  ends : middle.EndsAt (service.pathIn directory) place name
  unslashed : (service.pathIn directory).segments.getLast? ≠ some ""
  other : middle.entry? (place ++ [name]) ≠ some .directory
  put : after = middle.put (place ++ [name]) (.file (.text service.source))

theorem write_runOn {service : Service} {directory : FilePath} {isForced : Bool}
    (tree : FileTree) :
    (service.write directory isForced).runOn tree =
      if !isForced && service.isUpToDate tree (service.pathIn directory) then
        (.ok .unchanged, tree)
      else
        (FileAction.makeDirectories directory >>= fun _ =>
          FileAction.writeFile (service.pathIn directory) service.source >>= fun _ =>
            pure .written).runOn tree := by
  rw [write, FileAction.runOn_bind, FileAction.runOn_get]
  dsimp only
  split <;> rfl

/-- Either the file was up to date and nothing was done, or the service was written. -/
theorem write_outcome_cases {service : Service} {directory : FilePath} {isForced : Bool}
    {tree after : FileTree} {outcome : WriteOutcome}
    (ran : (service.write directory isForced).runOn tree = (.ok outcome, after)) :
    (outcome = .unchanged ∧ isForced = false ∧
        service.isUpToDate tree (service.pathIn directory) = true ∧ after = tree) ∨
      (outcome = .written ∧
        (isForced = true ∨ service.isUpToDate tree (service.pathIn directory) = false) ∧
        ∃ middle place name, service.Written directory tree middle place name after) := by
  rw [write_runOn] at ran
  split at ran
  next kept =>
    cases ran
    rw [Bool.and_eq_true, Bool.not_eq_true'] at kept
    exact .inl ⟨rfl, kept.1, kept.2, rfl⟩
  next replaced =>
    obtain ⟨_, middle, made, ran⟩ := (FileAction.bind_runOn_eq_ok_iff _).mp ran
    obtain ⟨_, _, wrote, done⟩ := (FileAction.bind_runOn_eq_ok_iff _).mp ran
    cases done
    rw [FileAction.runOn_writeFile] at wrote
    split at wrote <;> cases wrote
    next wrote =>
      obtain ⟨place, name, ends, unslashed, other, put⟩ := FileTree.writeFile_eq_ok_iff.mp wrote
      refine .inr ⟨rfl, ?_, middle, place, name, FileAction.makes_of_makeDirectories made, ends,
        unslashed, other, put⟩
      cases isForced
      · exact .inr (by simpa using replaced)
      · exact .inl rfl

theorem write_cases {service : Service} {directory : FilePath} {isForced : Bool}
    {tree after : FileTree} {outcome : WriteOutcome}
    (ran : (service.write directory isForced).runOn tree = (.ok outcome, after)) :
    (service.isUpToDate tree (service.pathIn directory) = true ∧ after = tree) ∨
      ∃ middle place name, service.Written directory tree middle place name after := by
  rcases write_outcome_cases ran with ⟨-, -, upToDate, same⟩ | ⟨-, -, written⟩
  · exact .inl ⟨upToDate, same⟩
  · exact .inr written

namespace Written

variable {service : Service} {directory : FilePath} {tree middle after : FileTree} {place : Place}
  {name : String} (written : service.Written directory tree middle place name after)

include written

theorem not_isProjectFileName : ¬IsProjectFileName name := by
  obtain ⟨stem, last⟩ := service.getLast?_pathIn directory
  obtain ⟨before, split, -⟩ := written.ends.exists_segments_of_unslashed written.unslashed
  rw [split, List.getLast?_concat, Option.some.injEq] at last
  rw [last]
  exact not_isProjectFileName_service stem

theorem keeps_middle : middle.Keeps after := by
  rw [written.put]
  exact FileTree.keeps_put written.other _

theorem resembles : tree.Resembles after where
  keeps := written.made.extended.keeps.trans written.keeps_middle
  projectFile {other last content} isProject := by
    have different : other ++ [last] ≠ place ++ [name] := by
      intro same
      obtain ⟨-, lastSame⟩ := List.append_inj' same rfl
      obtain rfl : last = name := by simpa using lastSame
      exact written.not_isProjectFileName isProject
    rw [written.put, FileTree.entry?_put _ (by simp), if_neg different]
    refine ⟨written.made.extended.kept, ?_⟩
    intro stands
    rcases written.made.extended.added stands with stood | ⟨-, directory⟩
    · exact stood
    · cases directory

theorem isProper (proper : tree.IsProper) (free : directory.IsFreeOf '/') : after.IsProper := by
  rw [written.put]
  have nameValid := written.ends.isName (service.isFreeOf_pathIn directory free)
  exact (written.made.proper proper free).put written.ends.directory nameValid
    (.inr written.other)

theorem holds : after.entry? (place ++ [name]) = some (.file (.text service.source)) := by
  rw [written.put, FileTree.entry?_put _ (by simp), if_pos rfl]

theorem endsAt_after : after.EndsAt (service.pathIn directory) place name :=
  written.ends.of_keeps written.keeps_middle

theorem gainsFile :
    tree.GainsFile (service.pathIn directory) service.source (place ++ [name]) after where
  resolves := written.endsAt_after.resolve written.unslashed written.holds
  holds := written.holds
  kept different stood := by
    rw [written.put, FileTree.entry?_put _ (by simp), if_neg different]
    exact written.made.extended.kept stood
  added different stands := by
    rw [written.put, FileTree.entry?_put _ (by simp), if_neg different] at stands
    exact written.made.extended.added stands

end Written

theorem readText_of_gainsFile {before after : FileTree} {path : FilePath} {text : String}
    {place : Place} (gains : before.GainsFile path text place after) :
    after.readText path = .ok text :=
  FileTree.readText_eq_ok_iff.mpr
    (FileTree.find_eq_ok_iff.mpr ⟨place, gains.resolves, gains.holds⟩)

theorem isUpToDate_of_readText {service : Service} {tree : FileTree} {path : FilePath}
    (read : tree.readText path = .ok service.source) : service.isUpToDate tree path = true := by
  rw [isUpToDate, read]
  exact beq_self_eq_true _

theorem Written.write_again {service : Service} {directory : FilePath}
    {tree middle after : FileTree} {place : Place} {name : String}
    (written : service.Written directory tree middle place name after) (isForced : Bool) :
    ∃ outcome, (service.write directory isForced).runOn after = (.ok outcome, after) := by
  have read := readText_of_gainsFile written.gainsFile
  rw [write_runOn, isUpToDate_of_readText read]
  cases isForced with
  | false => exact ⟨.unchanged, rfl⟩
  | true =>
      have there : directory.isEmpty = true ∨ after.isDirectory directory = true := by
        cases filled : directory.isEmpty with
        | true => exact .inl rfl
        | false =>
            exact .inr (written.keeps_middle.isDirectory (written.made.directory filled))
      have wrote : after.writeFile (service.pathIn directory) (.text service.source) =
          .ok after := by
        have other : after.entry? (place ++ [name]) ≠ some .directory := by
          rw [written.holds]
          simp
        have same : after = after.put (place ++ [name]) (.file (.text service.source)) := by
          rw [written.put, FileTree.put_put]
        rw [FileTree.writeFile_eq_ok_iff]
        exact ⟨place, name, written.endsAt_after, written.unslashed, other, same⟩
      refine ⟨.written, ?_⟩
      rw [if_neg (by simp), FileAction.runOn_bind,
        FileAction.makeDirectories_of_isDirectory there]
      dsimp only
      rw [FileAction.runOn_bind, FileAction.runOn_writeFile, wrote]
      rfl

end Service

end PureService
