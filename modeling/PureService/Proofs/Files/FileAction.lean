import PureService.Proofs.Files.Change

/-!
# Making directories

When a directory is made together with those above it, the tree is extended by
directories and stays proper.  It has the directory afterwards unless the action
has failed.  Where the directory is already, nothing changes.
-/

namespace PureService.FileAction

open Attempts FilePath

section Run

variable {ε α β : Type} (tree : FileTree)

theorem runOn_get : (get : FileAction ε FileTree).runOn tree = (.ok tree, tree) :=
  rfl

theorem runOn_pure (result : α) : (pure result : FileAction ε α).runOn tree = (.ok result, tree) :=
  rfl

theorem runOn_bind (action : FileAction ε α) (next : α → FileAction ε β) :
    (action >>= next).runOn tree =
      match action.runOn tree with
      | (.ok found, middle) => (next found).runOn middle
      | (.error error, middle) => (.error error, middle) := by
  have opened : (action >>= next).runOn tree =
      StateT.run (ExceptT.bindCont next (action.runOn tree).1) (action.runOn tree).2 := rfl
  rw [opened]
  rcases action.runOn tree with ⟨_ | found, middle⟩ <;> rfl

theorem runOn_tryCatch (action : FileAction ε α) (handle : ε → FileAction ε α) :
    (tryCatch action handle).runOn tree =
      match action.runOn tree with
      | (.ok found, middle) => (.ok found, middle)
      | (.error error, middle) => (handle error).runOn middle := by
  cases ran : action.runOn tree with
  | mk result middle =>
      simp only [runOn, ExceptT.run, StateT.run] at ran ⊢
      cases result <;>
        simp only [tryCatch, tryCatchThe, MonadExceptOf.tryCatch, ExceptT.tryCatch, ExceptT.mk,
          bind, StateT.bind, ran]
      all_goals rfl

theorem runOn_adapt {γ : Type} (tell : ε → γ) (action : FileAction ε α) :
    runOn (action.adapt tell) tree =
      ((action.runOn tree).1.mapError tell, (action.runOn tree).2) :=
  rfl

theorem bind_runOn_eq_ok_iff {action : FileAction ε α} {next : α → FileAction ε β} {result : β}
    {after : FileTree} :
    (action >>= next).runOn tree = (.ok result, after) ↔
      ∃ found middle, action.runOn tree = (.ok found, middle) ∧
        (next found).runOn middle = (.ok result, after) := by
  rw [runOn_bind]
  rcases action.runOn tree with ⟨_ | found, middle⟩ <;> simp

theorem tryCatch_runOn_eq_ok_iff {action : FileAction ε α} {handle : ε → FileAction ε α}
    {result : α} {after : FileTree} :
    (tryCatch action handle).runOn tree = (.ok result, after) ↔
      action.runOn tree = (.ok result, after) ∨
        ∃ error middle, action.runOn tree = (.error error, middle) ∧
          (handle error).runOn middle = (.ok result, after) := by
  rw [runOn_tryCatch]
  rcases action.runOn tree with ⟨_ | found, middle⟩ <;> simp

end Run

section Steps

variable (tree : FileTree) (path : FilePath)

theorem runOn_change (operation : FileTree → Except FileError FileTree) :
    (change operation).runOn tree =
      match operation tree with
      | .ok after => (.ok (), after)
      | .error error => (.error error, tree) := by
  have opened : (change operation).runOn tree =
      (match operation tree with
        | .ok after => (set after : FileAction FileError Unit)
        | .error error => throw error).runOn tree := rfl
  rw [opened]
  cases operation tree <;> rfl

theorem runOn_makeDirectory :
    (makeDirectory path).runOn tree =
      match tree.makeDirectory path with
      | .ok after => (.ok (), after)
      | .error error => (.error error, tree) :=
  runOn_change tree _

theorem runOn_writeFile (text : String) :
    (writeFile path text).runOn tree =
      match tree.writeFile path (.text text) with
      | .ok after => (.ok (), after)
      | .error error => (.error error, tree) :=
  runOn_change tree _

theorem runOn_unlessDirectory (error : FileError) :
    (unlessDirectory path error).runOn tree =
      (if tree.isDirectory path then .ok () else .error error, tree) := by
  have opened : (unlessDirectory path error).runOn tree =
      (if !tree.isDirectory path then throw error
        else pure () : FileAction FileError Unit).runOn tree := rfl
  rw [opened]
  cases tree.isDirectory path <;> rfl

end Steps

theorem makeDirectory_runOn_eq_ok_iff {tree after : FileTree} {path : FilePath} :
    (makeDirectory path).runOn tree = (.ok (), after) ↔ tree.makeDirectory path = .ok after := by
  rw [runOn_makeDirectory]
  cases tree.makeDirectory path <;> simp

/-! ### What comes, whatever the action yields -/

/-- In whatever tree the action is run, only directories come, each under one of the names. -/
def GrowsBy {ε α : Type} (names : List String) (action : FileAction ε α) : Prop :=
  ∀ tree : FileTree, tree.GrowsBy names (action.runOn tree).2

namespace GrowsBy

variable {ε α β : Type} {names more : List String} {action : FileAction ε α}

theorem mono (grows : GrowsBy names action)
    (subset : ∀ name ∈ names, name ∈ more ∨ name = "") : GrowsBy more action :=
  fun tree => (grows tree).mono subset

theorem of_unchanged (unchanged : ∀ tree, (action.runOn tree).2 = tree) : GrowsBy names action := by
  intro tree
  rw [unchanged tree]
  exact .refl names tree

theorem bind {next : α → FileAction ε β} (first : GrowsBy names action)
    (second : ∀ found, GrowsBy names (next found)) : GrowsBy names (action >>= next) := by
  intro tree
  have before := first tree
  rw [runOn_bind]
  cases ran : action.runOn tree with
  | mk result middle =>
      rw [ran] at before
      cases result with
      | error error => exact before
      | ok found => exact before.trans (second found middle)

theorem tryCatch {handle : ε → FileAction ε α} (first : GrowsBy names action)
    (second : ∀ error, GrowsBy names (handle error)) :
    GrowsBy names (tryCatch action handle) := by
  intro tree
  have before := first tree
  rw [runOn_tryCatch]
  cases ran : action.runOn tree with
  | mk result middle =>
      rw [ran] at before
      cases result with
      | error error => exact before.trans (second error middle)
      | ok found => exact before

end GrowsBy

theorem growsBy_makeDirectory (path : FilePath) : GrowsBy path.segments (makeDirectory path) := by
  intro tree
  rw [runOn_makeDirectory]
  split
  next made => exact FileTree.growsBy_of_makeDirectory made
  next => exact .refl _ tree

theorem growsBy_unlessDirectory (names : List String) (path : FilePath) (error : FileError) :
    GrowsBy names (unlessDirectory path error) :=
  .of_unchanged fun tree => by rw [runOn_unlessDirectory]

theorem growsBy_makeDirectoriesWithin (bound : Nat) (path : FilePath) :
    GrowsBy path.segments (makeDirectoriesWithin bound path) := by
  induction bound generalizing path with
  | zero => exact .of_unchanged fun _ => rfl
  | succ bound ih =>
      rw [makeDirectoriesWithin]
      split
      next => exact .of_unchanged fun _ => rfl
      next =>
        refine (growsBy_makeDirectory path).tryCatch fun error => ?_
        split
        next above parent =>
          have aboveGrows := (ih above).mono fun _ => mem_segments_of_parent? parent
          exact aboveGrows.bind fun _ => (growsBy_makeDirectory path).tryCatch fun error =>
            growsBy_unlessDirectory _ path error
        next => exact growsBy_unlessDirectory _ path _

theorem growsBy_makeDirectories (path : FilePath) : GrowsBy path.segments (makeDirectories path) :=
  growsBy_makeDirectoriesWithin _ path

/-- The tree is extended by directories and has the given one. -/
structure Makes (tree : FileTree) (path : FilePath) (after : FileTree) : Prop where
  grows : tree.GrowsBy path.segments after
  directory : path.isEmpty = false → after.isDirectory path = true

theorem Makes.extended {tree after : FileTree} {path : FilePath} (makes : Makes tree path after) :
    tree.Extends after :=
  makes.grows.extended

theorem Makes.proper {tree after : FileTree} {path : FilePath} (makes : Makes tree path after)
    (proper : tree.IsProper) (free : path.IsFreeOf '/') : after.IsProper :=
  makes.grows.proper proper free

theorem isDirectory_of_makeDirectory {tree after : FileTree} {path : FilePath}
    (made : tree.makeDirectory path = .ok after) : after.isDirectory path = true := by
  obtain ⟨directory, name, ends, absent, rfl⟩ := FileTree.makeDirectory_eq_ok_iff.mp made
  refine (ends.of_keeps (FileTree.extends_put absent).keeps).isDirectory ?_
  rw [FileTree.entry?_put _ (by simp), if_pos rfl]

theorem isDirectory_of_unlessDirectory {tree after : FileTree} {path : FilePath}
    {error : FileError} (kept : (unlessDirectory path error).runOn tree = (.ok (), after)) :
    after.isDirectory path = true := by
  rw [runOn_unlessDirectory] at kept
  split at kept
  next directory =>
    cases kept
    exact directory
  next => cases kept

/-- However the directory was made in the end, it is there. -/
theorem isDirectory_of_makeDirectoriesWithin {bound : Nat} {tree after : FileTree}
    {path : FilePath} (made : (makeDirectoriesWithin bound path).runOn tree = (.ok (), after))
    (filled : path.isEmpty = false) : after.isDirectory path = true := by
  cases bound with
  | zero => cases made
  | succ bound =>
      rw [makeDirectoriesWithin, if_neg (by simp [filled])] at made
      rcases (tryCatch_runOn_eq_ok_iff tree).mp made with first | ⟨error, middle, -, later⟩
      · exact isDirectory_of_makeDirectory (makeDirectory_runOn_eq_ok_iff.mp first)
      · split at later
        next above parent =>
          obtain ⟨_, made, -, retried⟩ := (bind_runOn_eq_ok_iff _).mp later
          rcases (tryCatch_runOn_eq_ok_iff _).mp retried with second | ⟨_, _, -, kept⟩
          · exact isDirectory_of_makeDirectory (makeDirectory_runOn_eq_ok_iff.mp second)
          · exact isDirectory_of_unlessDirectory kept
        next => exact isDirectory_of_unlessDirectory later

theorem makes_of_makeDirectories {tree after : FileTree} {path : FilePath}
    (made : (makeDirectories path).runOn tree = (.ok (), after)) : Makes tree path after := by
  have grows := growsBy_makeDirectories path tree
  rw [made] at grows
  exact ⟨grows, isDirectory_of_makeDirectoriesWithin made⟩

section Made

variable {tree after : FileTree} {path : FilePath} (filled : path.isEmpty = false)

include filled

theorem makeDirectoriesWithin_of_made (bound : Nat) (made : tree.makeDirectory path = .ok after) :
    (makeDirectoriesWithin (bound + 1) path).runOn tree = (.ok (), after) := by
  rw [makeDirectoriesWithin, if_neg (by simp [filled]), runOn_tryCatch, runOn_makeDirectory, made]

/-- A directory is made after the one above it. -/
theorem makeDirectoriesWithin_of_notFound {middle : FileTree} {above : FilePath} {bound : Nat}
    (refused : tree.makeDirectory path = .error .notFound) (parent : path.parent? = some above)
    (madeAbove : (makeDirectoriesWithin bound above).runOn tree = (.ok (), middle))
    (made : middle.makeDirectory path = .ok after) :
    (makeDirectoriesWithin (bound + 1) path).runOn tree = (.ok (), after) := by
  rw [makeDirectoriesWithin, if_neg (by simp [filled]), runOn_tryCatch, runOn_makeDirectory,
    refused]
  simp only [parent, runOn_bind, madeAbove, runOn_tryCatch, runOn_makeDirectory, made]

end Made

theorem makeDirectories_of_isDirectory {tree : FileTree} {path : FilePath}
    (there : path.isEmpty = true ∨ tree.isDirectory path = true) :
    (makeDirectories path).runOn tree = (.ok (), tree) := by
  rw [makeDirectories, makeDirectoriesWithin]
  split
  next => rfl
  next filled =>
    have directory := there.resolve_left filled
    rw [runOn_tryCatch, runOn_makeDirectory, FileTree.makeDirectory_of_isDirectory directory]
    dsimp only
    rw [runOn_unlessDirectory, directory]
    rfl

end PureService.FileAction
