import PureService.Command.Run
import PureService.Proofs.Analysis.Exposure
import PureService.Proofs.Service.Writing

/-!
# Generating settles

A service is written only if the report of its project has no errors.  The
directories and the file that came then are no documents, so the project that
is loaded afterwards has the same report and the same service, which need not
be written again.  This holds although the documents may be analyzed under
another schedule then, because a report without errors is the same under all.
-/

namespace PureService.Command

open Attempts FilePath

variable {tree : FileTree} {config : String} {output : Option String} {isForced : Bool}
  {format : ReportFormat} {schedule : Analysis.Schedule}

section Steps

variable {loaded : LocatedProject} {compilation : Compilation}
  (found : LocatedProject.load tree (.ofText config) = .ok loaded)
  (compiled : loaded.project.compile none schedule = .ok compilation)

include found compiled

theorem runGenerate_eq :
    runGenerate config output isForced format schedule tree =
      let printed := compilation.report.printed format
      if compilation.hasErrors then (.failure printed compilation.report.rejection, tree)
      else
        match (compilation.service.write (directoryFor loaded output) isForced).runOn tree with
        | (.ok _, after) => (.success printed, after)
        | (.error _, after) => (.failure printed "Failed to write generated service", after) := by
  unfold runGenerate
  split
  next other =>
    rw [found] at other
    cases other
  next again =>
    rw [found] at again
    cases again
    split
    next other =>
      rw [compiled] at other
      cases other
    next again =>
      rw [compiled] at again
      cases again
      rfl

theorem runGenerate_rejected (rejected : compilation.hasErrors = true) :
    runGenerate config output isForced format schedule tree =
      (.failure (compilation.report.printed format) compilation.report.rejection, tree) := by
  rw [runGenerate_eq found compiled]
  exact if_pos rejected

theorem runGenerate_accepted (accepted : compilation.hasErrors = false)
    {outcome : WriteOutcome} {after : FileTree}
    (ran : (compilation.service.write (directoryFor loaded output) isForced).runOn tree =
      (.ok outcome, after)) :
    runGenerate config output isForced format schedule tree =
      (.success (compilation.report.printed format), after) := by
  rw [runGenerate_eq found compiled, ran]
  exact if_neg (by simp [accepted])

theorem runGenerate_succeeds (accepted : compilation.hasErrors = false)
    (wrote : ((compilation.service.write (directoryFor loaded output) isForced).runOn
      tree).1.isOk = true) :
    (runGenerate config output isForced format schedule tree).1.exitCode = 0 := by
  rcases ran : (compilation.service.write (directoryFor loaded output) isForced).runOn tree with
    ⟨_ | outcome, after⟩
  · rw [ran] at wrote
    cases wrote
  · rw [runGenerate_accepted found compiled accepted ran]
    rfl

end Steps

theorem exists_of_runGenerate_succeeds
    (succeeds : (runGenerate config output isForced format schedule tree).1.exitCode = 0) :
    ∃ loaded compilation outcome after,
      LocatedProject.load tree (.ofText config) = .ok loaded ∧
        loaded.project.compile none schedule = .ok compilation ∧ compilation.hasErrors = false ∧
        (compilation.service.write (directoryFor loaded output) isForced).runOn tree =
          (.ok outcome, after) := by
  unfold runGenerate at succeeds
  split at succeeds
  · cases succeeds
  next loaded found =>
    split at succeeds
    · cases succeeds
    next compilation compiled =>
      dsimp only at succeeds
      split at succeeds
      · cases succeeds
      next accepted =>
        split at succeeds
        next outcome after ran =>
          exact ⟨loaded, compilation, outcome, after, found, compiled,
            Bool.eq_false_of_not_eq_true accepted, ran⟩
        · cases succeeds

theorem isFreeOf_slash_directoryFor {loaded : LocatedProject}
    (directory : tree.isDirectory (.ofText config) = true)
    (found : LocatedProject.load tree (.ofText config) = .ok loaded) (output : Option String) :
    (directoryFor loaded output).IsFreeOf '/' := by
  cases output with
  | some directory => exact isFreeOf_slash_ofText directory
  | none =>
      have base : loaded.base = .ofText config := LocatedConfig.base_of_isDirectory directory
        (LocatedProject.located_of_load found)
      have whole : '/' ∉ outputDirectory.toList := by decide
      rw [directoryFor, base]
      exact isFreeOf_child.mpr ⟨isFreeOf_slash_ofText config, whole⟩

/-- Once the service has been written, generating again prints the same and changes nothing. -/
theorem runGenerate_again {loaded : LocatedProject} {compilation : Compilation}
    (proper : tree.IsProper) (directory : tree.isDirectory (.ofText config) = true)
    (found : LocatedProject.load tree (.ofText config) = .ok loaded)
    (compiled : loaded.project.compile none schedule = .ok compilation)
    (accepted : compilation.hasErrors = false) {middle after : FileTree} {place : Place}
    {name : String}
    (written : compilation.service.Written (directoryFor loaded output) tree middle place name
      after) (turns : Analysis.Schedule) :
    runGenerate config output isForced format turns after =
      (.success (compilation.report.printed format), after) := by
  have free := isFreeOf_slash_directoryFor directory found output
  obtain ⟨marked, ordered⟩ := LocatedProject.isMarked_of_load found
  obtain ⟨reloaded, foundAgain, base, sameConfig, defaultModule, deliveries⟩ :=
    LocatedProject.load_of_resembles written.resembles proper (written.isProper proper free)
      directory found
  have compiledAgain : reloaded.project.compile none turns = .ok compilation := by
    rw [Project.compile_eq_of_deliveries sameConfig defaultModule deliveries]
    exact Analysis.compile_eq_of_accepted marked ordered compiled accepted
  have sameDirectory : directoryFor reloaded output = directoryFor loaded output := by
    unfold directoryFor
    rw [base]
  obtain ⟨outcome, ran⟩ := written.write_again isForced
  rw [← sameDirectory] at ran
  exact runGenerate_accepted foundAgain compiledAgain accepted ran

/-- A file that is up to date is the only thing that would be written. -/
theorem gainsFile_of_isUpToDate {service : Service} {path : FilePath}
    (upToDate : service.isUpToDate tree path = true)
    (collisionFree : ∀ text, tree.readText path = .ok text →
      Digest.ofText text = service.digest → text = service.source) :
    ∃ place, tree.GainsFile path service.source place tree := by
  rw [Service.isUpToDate] at upToDate
  split at upToDate
  next text read =>
    have same := collisionFree text read (beq_iff_eq.mp upToDate)
    rw [FileTree.readText_eq_ok_iff, FileTree.find_eq_ok_iff, same] at read
    obtain ⟨place, resolves, holds⟩ := read
    exact ⟨place, resolves, holds, fun _ stood => stood, fun _ stands => .inl stands⟩
  next => cases upToDate

/-- Generating writes only accepted services, and settles.  Whatever turns the analyses of the
documents take the first time and the second time, the second time prints the same and changes
nothing.  It is assumed that the digest tells the source apart from the text that stands in its
place. -/
theorem runGenerate_settles (proper : tree.IsProper)
    (directory : tree.isDirectory (.ofText config) = true)
    (collisionFree : ∀ loaded compilation text,
      LocatedProject.load tree (.ofText config) = .ok loaded →
      loaded.project.compile none schedule = .ok compilation →
      tree.readText (compilation.service.pathIn (directoryFor loaded output)) = .ok text →
      Digest.ofText text = compilation.service.digest → text = compilation.service.source) :
    (∀ loaded compilation, LocatedProject.load tree (.ofText config) = .ok loaded →
      loaded.project.compile none schedule = .ok compilation → compilation.hasErrors = true →
      (runGenerate config output isForced format schedule tree).1.exitCode ≠ 0 ∧
        (runGenerate config output isForced format schedule tree).2 = tree) ∧
    ((runGenerate config output isForced format schedule tree).1.exitCode = 0 →
      ∃ loaded compilation place,
        LocatedProject.load tree (.ofText config) = .ok loaded ∧
        loaded.project.compile none schedule = .ok compilation ∧ compilation.hasErrors = false ∧
        tree.GainsFile (compilation.service.pathIn (directoryFor loaded output))
          compilation.service.source place
          (runGenerate config output isForced format schedule tree).2 ∧
        (runGenerate config output isForced format schedule tree).1 =
          .success (compilation.report.printed format) ∧
        ∀ turns, runGenerate config output isForced format turns
            (runGenerate config output isForced format schedule tree).2 =
          runGenerate config output isForced format schedule tree) := by
  constructor
  · intro loaded compilation found compiled rejected
    rw [runGenerate_rejected found compiled rejected]
    exact ⟨by simp [Outcome.failure], rfl⟩
  · intro succeeds
    obtain ⟨loaded, compilation, outcome, after, found, compiled, accepted, ran⟩ :=
      exists_of_runGenerate_succeeds succeeds
    have result : runGenerate config output isForced format schedule tree =
        (.success (compilation.report.printed format), after) :=
      runGenerate_accepted found compiled accepted ran
    rw [result]
    -- Whether or not the file had to be written, the second time finds it up to date.
    rcases Service.write_cases ran with ⟨upToDate, rfl⟩ | ⟨middle, place, name, written⟩
    · obtain ⟨place, gains⟩ := gainsFile_of_isUpToDate upToDate
        fun text => collisionFree loaded compilation text found compiled
      refine ⟨loaded, compilation, place, found, compiled, accepted, gains, rfl, ?_⟩
      intro turns
      obtain ⟨marked, ordered⟩ := LocatedProject.isMarked_of_load found
      have compiledAgain : loaded.project.compile none turns = .ok compilation :=
        Analysis.compile_eq_of_accepted marked ordered compiled accepted
      exact runGenerate_accepted found compiledAgain accepted ran
    · exact ⟨loaded, compilation, _, found, compiled, accepted, written.gainsFile, rfl,
        runGenerate_again proper directory found compiled accepted written⟩

/-- A project with two transformers, whose documents are delivered concurrently. -/
def exposingTree : FileTree where
  workingDirectory := ["work"]
  entries := [
    (["work"], .directory),
    (["work", "transformer.yaml"], .file (.text
      "name: app\nanalysis: \x7bdelivery: concurrent\x7d\n")),
    (["work", "src"], .directory),
    (["work", "src", "a.yaml"], .file (.text (declaring "f"))),
    (["work", "src", "b.yaml"], .file (.text (declaring "g")))]
where
  declaring (name : String) : String :=
    "declarations: [\x7bkind: function, name: " ++ name ++ ", qualifiers: [public, isolated], " ++
      "body: expression, parameters: [\x7bkind: required, type: json\x7d]\x7d]\n"

def exposingProject : LocatedProject where
  project := {
    config := { ProjectConfig.named "app" with analysis := ⟨.concurrent⟩ }
    defaultModule := .ofDocuments "app" true
      [exposing "src/a.yaml" "f", exposing "src/b.yaml" "g"]
    namedModules := [] }
  base := .ofText "."
where
  exposing (document name : String) : Document :=
    { Document.empty document with
      declarations := [.function { FunctionDefinition.named name with
        qualifiers := [.pub, .isolated]
        body := .expression
        parameters := [.required (.primitive .json)] }] }

/-- The service is written into a named module that is new, in a directory that is named like a
document.  The second document has the first turns when the project is analyzed first, and the
documents are analyzed one after the other then. -/
theorem runGenerate_settles_exposing :
    exposingTree.IsProper ∧ exposingTree.isDirectory (.ofText ".") = true ∧
      (runGenerate "." (some "modules/new.yaml") false .text [1, 1, 0] exposingTree).1.exitCode =
        0 ∧
      runGenerate "." (some "modules/new.yaml") false .text []
          (runGenerate "." (some "modules/new.yaml") false .text [1, 1, 0] exposingTree).2 =
        runGenerate "." (some "modules/new.yaml") false .text [1, 1, 0] exposingTree := by
  have proper : exposingTree.IsProper := by decide +kernel
  have directory : exposingTree.isDirectory (.ofText ".") = true := by decide +kernel
  have found : LocatedProject.load exposingTree (.ofText ".") = .ok exposingProject := by
    decide +kernel
  have runs : (exposingProject.project.compile none [1, 1, 0]).map (fun compilation =>
      (compilation.hasErrors,
        (exposingTree.readText (compilation.service.pathIn (.ofText "modules/new.yaml"))).isOk,
        ((compilation.service.write (.ofText "modules/new.yaml") false).runOn
          exposingTree).1.isOk)) = .ok (false, false, true) := by
    decide +kernel
  obtain ⟨compilation, compiled, facts⟩ := map_eq_ok_iff.mp runs
  simp only [Prod.mk.injEq] at facts
  obtain ⟨accepted, absent, wrote⟩ := facts
  have succeeds :
      (runGenerate "." (some "modules/new.yaml") false .text [1, 1, 0] exposingTree).1.exitCode =
        0 :=
    runGenerate_succeeds found compiled accepted wrote
  have collisionFree : ∀ loaded compilation text,
      LocatedProject.load exposingTree (.ofText ".") = .ok loaded →
      loaded.project.compile none [1, 1, 0] = .ok compilation →
      exposingTree.readText
        (compilation.service.pathIn (directoryFor loaded (some "modules/new.yaml"))) = .ok text →
      Digest.ofText text = compilation.service.digest → text = compilation.service.source := by
    intro loaded again text foundAgain compiledAgain read
    obtain rfl : exposingProject = loaded := Except.ok.inj (found.symm.trans foundAgain)
    obtain rfl : compilation = again := Except.ok.inj (compiled.symm.trans compiledAgain)
    rw [directoryFor] at read
    rw [read] at absent
    cases absent
  obtain ⟨_, _, _, _, _, _, _, _, again⟩ :=
    (runGenerate_settles proper directory collisionFree).2 succeeds
  exact ⟨proper, directory, succeeds, again []⟩

end PureService.Command
