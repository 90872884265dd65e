import PureService.Proofs.Service.Writing

/-!
# Writing services again and again

Services of one name are written into a directory, one after the other.  A file
is left alone if it has the digest of the service.  As long as digests tell the
compared texts apart, the answers are those of a file that is overwritten every
time, and after each call the file holds the text of the last service.
-/

namespace PureService

open Attempts

namespace Service

/-- A service that is to be written, by force or not. -/
structure WriteCall where
  service : Service
  isForced : Bool

namespace WriteCall

def perform (call : WriteCall) (directory : FilePath) : FileAction FileError WriteOutcome :=
  call.service.write directory call.isForced

/-- The calls, one after the other. -/
def performAll (directory : FilePath) (calls : List WriteCall) :
    FileAction FileError (List WriteOutcome) :=
  calls.mapM fun call => call.perform directory

/-- The file holds the text of the service.  It was left alone, and with it the tree, exactly if
it held this text before and was not to be written by force. -/
structure Settles (call : WriteCall) (directory : FilePath) (before : FileTree)
    (outcome : WriteOutcome) (after : FileTree) : Prop where
  ran : (call.perform directory).runOn before = (.ok outcome, after)
  holds : after.readText (call.service.pathIn directory) = .ok call.service.source
  unchanged_iff : outcome = .unchanged ↔ call.isForced = false ∧
    before.readText (call.service.pathIn directory) = .ok call.service.source
  same : outcome = .unchanged → after = before

/-- Every call settles in the tree that the calls before it have left. -/
inductive SettleAll (directory : FilePath) :
    FileTree → List WriteCall → List WriteOutcome → FileTree → Prop where
  | nil {tree : FileTree} : SettleAll directory tree [] [] tree
  | cons {before middle after : FileTree} {call : WriteCall} {calls : List WriteCall}
      {outcome : WriteOutcome} {outcomes : List WriteOutcome}
      (first : call.Settles directory before outcome middle)
      (others : SettleAll directory middle calls outcomes after) :
      SettleAll directory before (call :: calls) (outcome :: outcomes) after

/-- The answers of a file that holds a text, or none, and is overwritten by every call. -/
def replies : Option String → List WriteCall → List WriteOutcome
  | _, [] => []
  | held, call :: calls =>
    (if call.isForced = false ∧ held = some call.service.source then .unchanged else .written) ::
      replies (some call.service.source) calls

/-- A text that is compared with that of a service has the digest of the service only if it is
the same text. -/
def TellApart : Option String → List WriteCall → Prop
  | _, [] => True
  | held, call :: calls =>
    (call.isForced = false → ∀ text, held = some text →
      Digest.ofText text = call.service.digest → text = call.service.source) ∧
    TellApart (some call.service.source) calls

section Step

variable {call : WriteCall} {directory : FilePath} {tree after : FileTree}
  {outcome : WriteOutcome}

theorem settles_of_perform
    (apart : call.isForced = false → ∀ text,
      tree.readText (call.service.pathIn directory) = .ok text →
        Digest.ofText text = call.service.digest → text = call.service.source)
    (ran : (call.perform directory).runOn tree = (.ok outcome, after)) :
    call.Settles directory tree outcome after := by
  rcases write_outcome_cases ran with
    ⟨rfl, unforced, upToDate, rfl⟩ | ⟨rfl, replaced, middle, place, name, written⟩
  · have read : after.readText (call.service.pathIn directory) = .ok call.service.source := by
      rw [isUpToDate] at upToDate
      split at upToDate
      next text read =>
        rw [read, apart unforced text read (beq_iff_eq.mp upToDate)]
      next => cases upToDate
    exact ⟨ran, read, by simp [unforced, read], fun _ => rfl⟩
  · have stale : ¬(call.isForced = false ∧
        tree.readText (call.service.pathIn directory) = .ok call.service.source) := by
      rintro ⟨unforced, read⟩
      have upToDate := isUpToDate_of_readText read
      rcases replaced with forced | outdated
      · rw [unforced] at forced
        cases forced
      · rw [upToDate] at outdated
        cases outdated
    have different : WriteOutcome.written ≠ .unchanged := by decide
    refine ⟨ran, readText_of_gainsFile written.gainsFile, ?_, fun same => absurd same different⟩
    exact ⟨fun same => absurd same different, fun held => absurd held stale⟩

theorem Settles.outcome_eq (settles : call.Settles directory tree outcome after) :
    outcome = if call.isForced = false ∧
        (tree.readText (call.service.pathIn directory)).toOption = some call.service.source
      then .unchanged else .written := by
  have held : (tree.readText (call.service.pathIn directory)).toOption =
      some call.service.source ↔
        tree.readText (call.service.pathIn directory) = .ok call.service.source := by
    cases tree.readText (call.service.pathIn directory) <;> simp [Except.toOption]
  simp only [held, ← settles.unchanged_iff]
  cases outcome <;> rfl

end Step

theorem performAll_cons_eq_ok_iff {directory : FilePath} {call : WriteCall}
    {calls : List WriteCall} {tree after : FileTree} {results : List WriteOutcome} :
    (performAll directory (call :: calls)).runOn tree = (.ok results, after) ↔
      ∃ outcome middle outcomes, (call.perform directory).runOn tree = (.ok outcome, middle) ∧
        (performAll directory calls).runOn middle = (.ok outcomes, after) ∧
        results = outcome :: outcomes := by
  rw [performAll, List.mapM_cons, FileAction.bind_runOn_eq_ok_iff]
  refine exists_congr fun outcome => exists_congr fun middle => ?_
  simp only [FileAction.bind_runOn_eq_ok_iff, FileAction.runOn_pure]
  constructor
  · rintro ⟨ran, outcomes, _, others, done⟩
    cases done
    exact ⟨outcomes, ran, others, rfl⟩
  · rintro ⟨outcomes, ran, others, rfl⟩
    exact ⟨ran, outcomes, after, others, rfl⟩

end WriteCall

/-- The path in a directory of the file that all services of a name share. -/
def sharedPath (directory : FilePath) (name : String) : FilePath :=
  directory.join (.ofText (name ++ "." ++ extension))

theorem pathIn_eq_sharedPath {service : Service} {name : String}
    (named : service.logicalName = name) (directory : FilePath) :
    service.pathIn directory = sharedPath directory name := by
  rw [pathIn, fileName, named, sharedPath]

namespace WriteCall

section Run

variable {directory : FilePath} {name : String} {calls : List WriteCall}
  {tree after : FileTree} {outcomes : List WriteOutcome}
  (named : ∀ call ∈ calls, call.service.logicalName = name)

include named

theorem settleAll_of_performAll
    (apart : TellApart (tree.readText (sharedPath directory name)).toOption calls)
    (ran : (performAll directory calls).runOn tree = (.ok outcomes, after)) :
    SettleAll directory tree calls outcomes after := by
  induction calls generalizing tree outcomes with
  | nil =>
      cases ran
      exact .nil
  | cons call calls ih =>
      obtain ⟨outcome, middle, outcomes, first, others, rfl⟩ := performAll_cons_eq_ok_iff.mp ran
      obtain ⟨callNamed, othersNamed⟩ := List.forall_mem_cons.mp named
      have shared := pathIn_eq_sharedPath callNamed directory
      obtain ⟨callApart, othersApart⟩ := apart
      have settles : call.Settles directory tree outcome middle := by
        refine settles_of_perform ?_ first
        intro unforced text read
        refine callApart unforced text ?_
        rw [← shared, read]
        rfl
      -- From here on the file holds the text of this call.
      refine .cons settles (ih othersNamed ?_ others)
      rw [← shared, settles.holds]
      exact othersApart

theorem SettleAll.outcomes_eq_replies (settle : SettleAll directory tree calls outcomes after) :
    outcomes = replies (tree.readText (sharedPath directory name)).toOption calls := by
  induction settle with
  | nil => rfl
  | @cons before middle after call calls outcome outcomes first others ih =>
      obtain ⟨callNamed, othersNamed⟩ := List.forall_mem_cons.mp named
      have shared := pathIn_eq_sharedPath callNamed directory
      rw [replies, ih othersNamed, ← shared, first.holds, ← first.outcome_eq]
      rfl

/-- However services of one name are written one after the other, every call settles: the file
holds the text of the last service, and is left alone exactly if it held this text before.  The
answers of all calls are those of a file that is overwritten each time. -/
theorem performAll_settles
    (apart : TellApart (tree.readText (sharedPath directory name)).toOption calls)
    (ran : (performAll directory calls).runOn tree = (.ok outcomes, after)) :
    SettleAll directory tree calls outcomes after ∧
      outcomes = replies (tree.readText (sharedPath directory name)).toOption calls := by
  have settle := settleAll_of_performAll named apart ran
  exact ⟨settle, settle.outcomes_eq_replies named⟩

end Run

/-- At the path of the service there are bytes that are no text. -/
def staleTree : FileTree where
  workingDirectory := ["work"]
  entries := [
    (["work"], .directory),
    (["work", "generated"], .directory),
    (["work", "generated", "service.bal"], .file (.bytes [0xFF]))]

def changingCalls : List WriteCall :=
  [⟨⟨"a", "service"⟩, false⟩, ⟨⟨"a", "service"⟩, false⟩, ⟨⟨"b", "service"⟩, false⟩,
    ⟨⟨"b", "service"⟩, true⟩]

theorem performAll_settles_stale :
    TellApart (staleTree.readText (sharedPath (.ofText "generated") "service")).toOption
        changingCalls ∧
      ∃ after, (performAll (.ofText "generated") changingCalls).runOn staleTree =
          (.ok [.written, .unchanged, .written, .written], after) ∧
        SettleAll (.ofText "generated") staleTree changingCalls
          [.written, .unchanged, .written, .written] after := by
  have named : ∀ call ∈ changingCalls, call.service.logicalName = "service" := by decide
  have unread : (staleTree.readText (sharedPath (.ofText "generated") "service")).toOption =
      none := by
    decide
  have different : Digest.ofText "a" ≠ Digest.ofText "b" := by decide +kernel
  have apart : TellApart
      (staleTree.readText (sharedPath (.ofText "generated") "service")).toOption
      changingCalls := by
    rw [unread]
    refine ⟨?_, ?_, ?_, ?_, trivial⟩
    · exact fun _ _ absent => nomatch absent
    · exact fun _ text held _ => (Option.some.inj held).symm
    · intro _ text held same
      obtain rfl : "a" = text := Option.some.inj held
      exact absurd same different
    · exact fun forced => nomatch forced
  have answered : ((performAll (.ofText "generated") changingCalls).runOn staleTree).1 =
      .ok [.written, .unchanged, .written, .written] := by
    decide +kernel
  cases ran : (performAll (.ofText "generated") changingCalls).runOn staleTree with
  | mk result after =>
      rw [ran] at answered
      cases answered
      exact ⟨apart, after, rfl, (performAll_settles named apart ran).1⟩

end WriteCall

end Service

end PureService
