import PureService.Proofs.Files.Resolution

/-!
# What changes leave standing

A directory is made where nothing stood, and a file is written where no
directory stood.  So whatever a path led to before, it still leads there
afterwards, and a proper tree stays proper.
-/

namespace PureService

open Attempts FilePath

namespace FilePath

/-- The segments of the path without the slashes at its end. -/
def unslashed (path : FilePath) : List String :=
  (path.segments.reverse.dropWhile (· = "")).reverse

theorem exists_eq_unslashed_append (path : FilePath) :
    ∃ slashes, (∀ segment ∈ slashes, segment = "") ∧ path.segments = path.unslashed ++ slashes := by
  obtain ⟨slashes, empty, split⟩ := exists_append_of_dropWhile_reverse (· = "") path.segments
  exact ⟨slashes, by simpa using empty, split⟩

theorem isMeaningful_of_empty {slashes : List String} (empty : ∀ segment ∈ slashes, segment = "") :
    ∀ segment ∈ slashes, isMeaningful segment = false := by
  intro segment member
  rw [empty segment member]
  decide

end FilePath

namespace FileTree

/-- What stood still stands, and the directories are still directories. -/
structure Keeps (before after : FileTree) : Prop where
  workingDirectory : after.workingDirectory = before.workingDirectory
  directory : ∀ {place}, before.entry? place = some .directory →
    after.entry? place = some .directory
  stands : ∀ {place entry}, before.entry? place = some entry →
    ∃ later, after.entry? place = some later

/-- What stood still stands as it was, and only directories came. -/
structure Extends (before after : FileTree) : Prop where
  workingDirectory : after.workingDirectory = before.workingDirectory
  kept : ∀ {place entry}, before.entry? place = some entry → after.entry? place = some entry
  added : ∀ {place entry}, after.entry? place = some entry →
    before.entry? place = some entry ∨ before.entry? place = none ∧ entry = .directory

theorem Extends.refl (tree : FileTree) : tree.Extends tree :=
  ⟨rfl, id, .inl⟩

theorem Extends.absent {before after : FileTree} (extended : before.Extends after) {place : Place}
    (absent : after.entry? place = none) : before.entry? place = none := by
  rw [Option.eq_none_iff_forall_ne_some]
  intro entry stands
  rw [extended.kept stands] at absent
  cases absent

theorem Extends.trans {first second third : FileTree} (earlier : first.Extends second)
    (later : second.Extends third) : first.Extends third where
  workingDirectory := later.workingDirectory.trans earlier.workingDirectory
  kept found := later.kept (earlier.kept found)
  added found := by
    rcases later.added found with inSecond | ⟨absent, directory⟩
    · exact earlier.added inSecond
    · exact .inr ⟨earlier.absent absent, directory⟩

theorem Keeps.trans {first second third : FileTree} (earlier : first.Keeps second)
    (later : second.Keeps third) : first.Keeps third where
  workingDirectory := later.workingDirectory.trans earlier.workingDirectory
  directory found := later.directory (earlier.directory found)
  stands found := by
    obtain ⟨entry, stands⟩ := earlier.stands found
    exact later.stands stands

/-- Only directories came, each under one of the names. -/
structure GrowsBy (names : List String) (before after : FileTree) : Prop where
  extended : before.Extends after
  named : ∀ {above last entry}, before.entry? (above ++ [last]) = none →
    after.entry? (above ++ [last]) = some entry → last ∈ names ∧ last ≠ ""
  proper : before.IsProper → (∀ name ∈ names, '/' ∉ name.toList) → after.IsProper

namespace GrowsBy

variable {names more : List String} {first second third : FileTree}

theorem refl (names : List String) (tree : FileTree) : GrowsBy names tree tree where
  extended := .refl tree
  named absent stands := by
    rw [absent] at stands
    cases stands
  proper proper _ := proper

theorem trans (earlier : GrowsBy names first second) (later : GrowsBy names second third) :
    GrowsBy names first third where
  extended := earlier.extended.trans later.extended
  named {above last entry} absent stands := by
    cases between : second.entry? (above ++ [last]) with
    | none => exact later.named between stands
    | some found => exact earlier.named absent between
  proper proper whole := later.proper (earlier.proper proper whole) whole

/-- What has come is a directory with one of the names. -/
theorem of_absent (grows : GrowsBy names first second) {above : Place} {last : String}
    {entry : Entry} (absent : first.entry? (above ++ [last]) = none)
    (stands : second.entry? (above ++ [last]) = some entry) :
    entry = .directory ∧ last ∈ names := by
  refine ⟨?_, (grows.named absent stands).1⟩
  rcases grows.extended.added stands with stood | ⟨-, isDirectory⟩
  · rw [absent] at stood
    cases stood
  · exact isDirectory

theorem mono (grows : GrowsBy names first second)
    (subset : ∀ name ∈ names, name ∈ more ∨ name = "") : GrowsBy more first second where
  extended := grows.extended
  named absent stands := by
    obtain ⟨member, filled⟩ := grows.named absent stands
    exact ⟨(subset _ member).resolve_right filled, filled⟩
  proper proper whole := by
    refine grows.proper proper fun name member => ?_
    rcases subset name member with inside | rfl
    · exact whole name inside
    · simp

end GrowsBy

theorem Extends.keeps {before after : FileTree} (extended : before.Extends after) :
    before.Keeps after :=
  ⟨extended.workingDirectory, extended.kept, fun found => ⟨_, extended.kept found⟩⟩

section Put

variable {tree : FileTree} {directory : Place} {name : String}

theorem extends_put (absent : tree.entry? (directory ++ [name]) = none) :
    tree.Extends (tree.put (directory ++ [name]) .directory) where
  workingDirectory := rfl
  kept {place entry} found := by
    rw [FileTree.entry?_put _ (by simp)]
    split
    next same =>
      rw [same, absent] at found
      cases found
    next => exact found
  added {place entry} found := by
    rw [FileTree.entry?_put _ (by simp)] at found
    split at found
    next same =>
      cases found
      exact .inr ⟨same ▸ absent, rfl⟩
    next => exact .inl found

theorem keeps_put (other : tree.entry? (directory ++ [name]) ≠ some .directory) (entry : Entry) :
    tree.Keeps (tree.put (directory ++ [name]) entry) where
  workingDirectory := rfl
  directory {place} found := by
    rw [FileTree.entry?_put _ (by simp), if_neg]
    · exact found
    · rintro rfl
      exact other found
  stands {place found} stands := by
    rw [FileTree.entry?_put _ (by simp)]
    split
    · exact ⟨entry, rfl⟩
    · exact ⟨found, stands⟩

theorem IsProper.put (proper : tree.IsProper) (above : tree.entry? directory = some .directory)
    (valid : IsName name) {entry : Entry}
    (fits : entry = .directory ∨ tree.entry? (directory ++ [name]) ≠ some .directory) :
    (tree.put (directory ++ [name]) entry).IsProper := by
  -- Every entry is the new one, or one from before that stands elsewhere.
  have listed {other : Place × Entry}
      (member : other ∈ (tree.put (directory ++ [name]) entry).entries) :
      other = (directory ++ [name], entry) ∨
        other ∈ tree.entries ∧ other.1 ≠ directory ++ [name] := by
    simpa [FileTree.put] using member
  refine ⟨?_, ?_, ?_⟩
  · have others : (tree.entries.filter fun other => other.1 ≠ directory ++ [name]).map Prod.fst
        |>.Nodup :=
      proper.distinct.sublist (List.filter_sublist.map _)
    simpa [FileTree.put] using others
  · intro other member
    rcases listed member with rfl | ⟨inTree, different⟩
    · refine ⟨by simp, ?_⟩
      rw [List.dropLast_concat, entry?_put _ (by simp), if_neg (by simp)]
      exact above
    · obtain ⟨below, stands⟩ := proper.inside other inTree
      refine ⟨below, ?_⟩
      rw [FileTree.entry?_put _ (by simp)]
      split
      next same =>
        rw [same] at stands
        exact congrArg some (fits.resolve_right (absurd stands))
      next => exact stands
  · intro other member segment inside
    rcases listed member with rfl | ⟨inTree, -⟩
    · rcases List.mem_append.mp inside with early | last
      · exact proper.isName_of_entry? above early
      · exact List.mem_singleton.mp last ▸ valid
    · exact proper.named other inTree segment inside

end Put

section Walk

variable {before after : FileTree} (keeps : before.Keeps after)

include keeps

theorem Keeps.startOf (path : FilePath) : after.startOf path = before.startOf path := by
  rw [FileTree.startOf, FileTree.startOf, keeps.workingDirectory]

/-- A walk goes on as it went before. -/
theorem Keeps.walk {here there : Place} {segments : List String}
    (walked : before.walk here segments = .ok there) : after.walk here segments = .ok there := by
  induction segments generalizing here with
  | nil => exact walked
  | cons segment segments ih =>
      have directory := entry?_of_walk_cons walked
      rw [← List.singleton_append, walk_append_eq_ok_iff] at walked ⊢
      obtain ⟨middle, step, rest⟩ := walked
      refine ⟨middle, ?_, ih rest⟩
      have later := keeps.directory directory
      rcases walk_singleton_cases step with ⟨meaningless, rfl⟩ | ⟨rfl, rfl⟩ |
        ⟨meaningful, notUp, rfl, entry, stands⟩
      · exact walk_meaningless later (by simpa using meaningless)
      · exact walk_up later
      · rw [walk_name directory meaningful notUp] at step
        rw [walk_name later meaningful notUp]
        split at step
        · cases step
        next short =>
          obtain ⟨entry, stillStands⟩ := keeps.stands stands
          rw [if_neg short, stillStands]

theorem Keeps.leadsTo {path : FilePath} {place : Place} (leads : before.LeadsTo path place) :
    after.LeadsTo path place := by
  refine ⟨?_, keeps.directory leads.directory⟩
  rw [keeps.startOf]
  exact keeps.walk leads.walk

theorem Keeps.isDirectory {path : FilePath} (directory : before.isDirectory path = true) :
    after.isDirectory path = true := by
  obtain ⟨taken, place, leads⟩ := isDirectory_iff.mp directory
  exact isDirectory_iff.mpr ⟨taken, place, keeps.leadsTo leads⟩

end Walk

/-! ### The end of a path -/

/-- Something can be put at the end of the path: the path leads to a directory and goes on with a
name. -/
structure EndsAt (tree : FileTree) (path : FilePath) (directory : Place) (name : String) :
    Prop where
  taken : checkPath path = .ok ()
  walk : tree.walk (tree.startOf path) path.unslashed.dropLast = .ok directory
  directory : tree.entry? directory = some .directory
  last : path.unslashed.getLast? = some name
  proceeds : leadsBack name = false
  size_le : name.utf8ByteSize ≤ maxNameSize

theorem spot_eq (tree : FileTree) (path : FilePath) :
    tree.spot path =
      checkPath path >>= fun _ =>
        tree.walk (tree.startOf path) path.unslashed.dropLast >>= fun directory =>
          if tree.entry? directory ≠ some .directory then throw .notDirectory
          else pure (directory, path.unslashed.getLastD "") := by
  rw [spot, wayOf_eq]
  rfl

theorem spot_eq_ok_iff {tree : FileTree} {path : FilePath} {directory : Place} {name : String} :
    tree.spot path = .ok (directory, name) ↔
      checkPath path = .ok () ∧
        tree.walk (tree.startOf path) path.unslashed.dropLast = .ok directory ∧
        tree.entry? directory = some .directory ∧ path.unslashed.getLastD "" = name := by
  rw [spot_eq]
  simp only [bind_eq_ok_iff]
  constructor
  · rintro ⟨_, taken, found, walked, kept⟩
    split at kept
    · cases kept
    next stands =>
      cases kept
      exact ⟨taken, walked, not_not.mp stands, rfl⟩
  · rintro ⟨taken, walked, stands, rfl⟩
    refine ⟨(), taken, directory, walked, ?_⟩
    rw [if_neg (not_not.mpr stands)]
    rfl

theorem endsAt_iff {tree : FileTree} {path : FilePath} {directory : Place} {name : String} :
    tree.EndsAt path directory name ↔
      tree.spot path = .ok (directory, name) ∧ leadsBack name = false ∧
        name.utf8ByteSize ≤ maxNameSize := by
  rw [spot_eq_ok_iff]
  constructor
  · intro ends
    have last : path.unslashed.getLastD "" = name := by
      rw [List.getLastD_eq_getLast?, ends.last]
      rfl
    exact ⟨⟨ends.taken, ends.walk, ends.directory, last⟩, ends.proceeds, ends.size_le⟩
  · rintro ⟨⟨taken, walked, stands, last⟩, proceeds, short⟩
    refine ⟨taken, walked, stands, ?_, proceeds, short⟩
    rw [List.getLastD_eq_getLast?] at last
    cases found : path.unslashed.getLast? with
    | none =>
        rw [found] at last
        subst last
        cases proceeds
    | some final => simpa [found] using last

theorem lookUp_eq_ok_iff {tree : FileTree} {directory : Place} {name : String}
    {found : Option Entry} :
    tree.lookUp directory name = .ok found ↔
      name.utf8ByteSize ≤ maxNameSize ∧ tree.entry? (directory ++ [name]) = found := by
  rw [lookUp]
  split
  next long => simpa using fun short => absurd short (Nat.not_le.mpr long)
  next short => simp [Nat.not_lt.mp short]

/-- An operation at the end of a path refuses some names, and what stands there decides the rest. -/
def atEnd (tree : FileTree) (path : FilePath) (refused : String → Bool) (error : FileError)
    (finish : Place → Option Entry → Except FileError FileTree) : Except FileError FileTree :=
  tree.spot path >>= fun (directory, name) =>
    if refused name then throw error
    else tree.lookUp directory name >>= finish (directory ++ [name])

theorem makeDirectory_eq (tree : FileTree) (path : FilePath) :
    tree.makeDirectory path = tree.atEnd path leadsBack .alreadyExists fun place found =>
      match found with
      | some _ => throw .alreadyExists
      | none => pure (tree.put place .directory) :=
  rfl

theorem writeFile_eq (tree : FileTree) (path : FilePath) (content : Content) :
    tree.writeFile path content =
      tree.atEnd path (fun name => leadsBack name || path.segments.getLast? = some "") .isDirectory
        fun place found =>
          match found with
          | some .directory => throw .isDirectory
          | _ => pure (tree.put place (.file content)) :=
  rfl

theorem atEnd_eq_ok_iff {tree after : FileTree} {path : FilePath} {refused : String → Bool}
    {error : FileError} {finish : Place → Option Entry → Except FileError FileTree}
    (back : ∀ name, leadsBack name = true → refused name = true) :
    tree.atEnd path refused error finish = .ok after ↔
      ∃ directory name, tree.EndsAt path directory name ∧ refused name = false ∧
        finish (directory ++ [name]) (tree.entry? (directory ++ [name])) = .ok after := by
  simp only [atEnd, bind_eq_ok_iff, endsAt_iff]
  constructor
  · rintro ⟨⟨directory, name⟩, found, made⟩
    dsimp only at made
    split at made
    · cases made
    next unrefused =>
      have proceeds : leadsBack name = false :=
        Bool.eq_false_iff.mpr fun leads => unrefused (back name leads)
      simp only [bind_eq_ok_iff, lookUp_eq_ok_iff] at made
      obtain ⟨_, ⟨short, rfl⟩, made⟩ := made
      exact ⟨directory, name, ⟨found, proceeds, short⟩, Bool.eq_false_iff.mpr unrefused, made⟩
  · rintro ⟨directory, name, ⟨found, -, short⟩, accepted, made⟩
    refine ⟨(directory, name), found, ?_⟩
    dsimp only
    rw [if_neg (Bool.eq_false_iff.mp accepted), bind_eq_ok_iff]
    exact ⟨_, lookUp_eq_ok_iff.mpr ⟨short, rfl⟩, made⟩

theorem makeDirectory_eq_ok_iff {tree after : FileTree} {path : FilePath} :
    tree.makeDirectory path = .ok after ↔
      ∃ directory name, tree.EndsAt path directory name ∧
        tree.entry? (directory ++ [name]) = none ∧
        after = tree.put (directory ++ [name]) .directory := by
  rw [makeDirectory_eq, atEnd_eq_ok_iff fun _ => id]
  refine exists₂_congr fun directory name => and_congr_right fun ends => ?_
  cases tree.entry? (directory ++ [name]) with
  | none => simp [ends.proceeds, pure, Except.pure, eq_comm]
  | some entry => simp [throw, throwThe, MonadExceptOf.throw]

theorem writeFile_eq_ok_iff {tree after : FileTree} {path : FilePath} {content : Content} :
    tree.writeFile path content = .ok after ↔
      ∃ directory name, tree.EndsAt path directory name ∧ path.segments.getLast? ≠ some "" ∧
        tree.entry? (directory ++ [name]) ≠ some .directory ∧
        after = tree.put (directory ++ [name]) (.file content) := by
  rw [writeFile_eq, atEnd_eq_ok_iff fun _ leads => by simp [leads]]
  refine exists₂_congr fun directory name => and_congr_right fun ends => ?_
  rw [ends.proceeds, Bool.false_or, decide_eq_false_iff_not]
  refine and_congr_right fun _ => ?_
  split
  next stands => simp [stands, throw, throwThe, MonadExceptOf.throw]
  next other =>
    simp only [pure, Except.pure, Except.ok.injEq]
    exact ⟨fun made => ⟨other, made.symm⟩, fun made => made.2.symm⟩

section EndsAt

variable {tree : FileTree} {path : FilePath} {directory : Place} {name : String}
  (ends : tree.EndsAt path directory name)

include ends

theorem EndsAt.isMeaningful : isMeaningful name = true ∧ name ≠ ".." := by
  have proceeds := ends.proceeds
  simp only [leadsBack, Bool.or_eq_false_iff, decide_eq_false_iff_not] at proceeds
  simp [FilePath.isMeaningful, proceeds]

theorem EndsAt.exists_segments :
    ∃ before slashes, path.unslashed = before ++ [name] ∧
      (∀ segment ∈ slashes, segment = "") ∧ path.segments = before ++ [name] ++ slashes ∧
      tree.walk (tree.startOf path) before = .ok directory := by
  obtain ⟨slashes, empty, split⟩ := path.exists_eq_unslashed_append
  obtain ⟨before, unslashed⟩ := List.getLast?_eq_some_iff.mp ends.last
  have walked := ends.walk
  rw [unslashed, List.dropLast_concat] at walked
  exact ⟨before, slashes, unslashed, empty, unslashed ▸ split, walked⟩

theorem EndsAt.isName (free : path.IsFreeOf '/') : IsName name := by
  obtain ⟨before, slashes, -, -, split, -⟩ := ends.exists_segments
  have member : name ∈ path.segments := by simp [split]
  obtain ⟨meaningful, notUp⟩ := ends.isMeaningful
  simp only [FilePath.isMeaningful, Bool.and_eq_true, decide_eq_true_eq] at meaningful
  exact ⟨meaningful.1, meaningful.2, notUp, free name member,
    (checkPath_eq_ok_iff.mp ends.taken).1 name member, ends.size_le⟩

theorem EndsAt.walk_name {entry : Entry} (stands : tree.entry? (directory ++ [name]) = some entry) :
    tree.walk directory [name] = .ok (directory ++ [name]) := by
  obtain ⟨meaningful, notUp⟩ := ends.isMeaningful
  rw [FileTree.walk_name ends.directory meaningful notUp, if_neg (Nat.not_lt.mpr ends.size_le),
    stands]

theorem EndsAt.isDirectory (stands : tree.entry? (directory ++ [name]) = some .directory) :
    tree.isDirectory path = true := by
  obtain ⟨before, slashes, -, empty, split, walked⟩ := ends.exists_segments
  refine isDirectory_iff.mpr ⟨ends.taken, directory ++ [name], ?_, stands⟩
  simp only [split, walk_append_eq_ok_iff]
  exact ⟨_, ⟨_, walked, ends.walk_name stands⟩,
    walk_meaningless stands (isMeaningful_of_empty empty)⟩

theorem EndsAt.exists_segments_of_unslashed (unslashed : path.segments.getLast? ≠ some "") :
    ∃ before, path.segments = before ++ [name] ∧
      tree.walk (tree.startOf path) before = .ok directory := by
  obtain ⟨before, slashes, -, empty, split, walked⟩ := ends.exists_segments
  rcases List.eq_nil_or_concat slashes with rfl | ⟨others, last, rfl⟩
  · exact ⟨before, by simpa using split, walked⟩
  · obtain rfl := empty last (by simp)
    rw [split, List.concat_eq_append, ← List.append_assoc, List.getLast?_concat] at unslashed
    exact absurd rfl unslashed

theorem EndsAt.resolve (unslashed : path.segments.getLast? ≠ some "") {entry : Entry}
    (stands : tree.entry? (directory ++ [name]) = some entry) :
    tree.resolve path = .ok (directory ++ [name]) := by
  obtain ⟨before, split, walked⟩ := ends.exists_segments_of_unslashed unslashed
  refine resolve_eq_ok_iff.mpr ⟨ends.taken, ?_⟩
  simp only [split, walk_append_eq_ok_iff]
  exact ⟨_, walked, ends.walk_name stands⟩

theorem EndsAt.of_keeps {after : FileTree} (keeps : tree.Keeps after) :
    after.EndsAt path directory name := by
  refine ⟨ends.taken, ?_, keeps.directory ends.directory, ends.last, ends.proceeds, ends.size_le⟩
  rw [keeps.startOf]
  exact keeps.walk ends.walk

end EndsAt

theorem growsBy_of_makeDirectory {tree after : FileTree} {path : FilePath}
    (made : tree.makeDirectory path = .ok after) : GrowsBy path.segments tree after := by
  obtain ⟨directory, name, ends, absent, rfl⟩ := makeDirectory_eq_ok_iff.mp made
  obtain ⟨before, slashes, -, -, split, -⟩ := ends.exists_segments
  have member : name ∈ path.segments := by simp [split]
  obtain ⟨meaningful, -⟩ := ends.isMeaningful
  have filled : name ≠ "" := by
    rintro rfl
    cases meaningful
  refine ⟨extends_put absent, ?_, ?_⟩
  · intro above last entry absentLast stands
    rw [FileTree.entry?_put _ (by simp)] at stands
    split at stands
    next same =>
      obtain ⟨-, lastSame⟩ := List.append_inj' same rfl
      obtain rfl : last = name := by simpa using lastSame
      exact ⟨member, filled⟩
    next =>
      rw [absentLast] at stands
      cases stands
  · intro proper whole
    exact proper.put ends.directory (ends.isName whole) (.inl rfl)

/-- The end of a path to a directory leads back, or the directory stands there. -/
theorem exists_spot_of_isDirectory {tree : FileTree} {path : FilePath}
    (directory : tree.isDirectory path = true) :
    ∃ above name, tree.spot path = .ok (above, name) ∧
      (leadsBack name = true ∨ ∃ entry, tree.lookUp above name = .ok (some entry)) := by
  obtain ⟨taken, place, leads⟩ := isDirectory_iff.mp directory
  obtain ⟨slashes, empty, split⟩ := path.exists_eq_unslashed_append
  have walked := leads.walk
  rw [split, walk_append_eq_ok_iff] at walked
  obtain ⟨middle, walked, rest⟩ := walked
  obtain rfl := eq_of_walk_meaningless (isMeaningful_of_empty empty) rest
  -- A path of slashes leads back; of every other one, the last segment decides.
  rcases List.eq_nil_or_concat path.unslashed with none | ⟨before, last, unslashed⟩
  · rw [none] at walked
    refine ⟨place, "", ?_, .inl rfl⟩
    rw [spot_eq_ok_iff, none]
    exact ⟨taken, walked, leads.directory, rfl⟩
  · rw [List.concat_eq_append] at unslashed
    rw [unslashed, walk_append_eq_ok_iff] at walked
    obtain ⟨above, walkedBefore, step⟩ := walked
    have stands := entry?_of_walk_cons step
    refine ⟨above, last, ?_, ?_⟩
    · rw [spot_eq_ok_iff, unslashed, List.dropLast_concat]
      exact ⟨taken, walkedBefore, stands, by simp⟩
    · rcases walk_singleton_cases step with ⟨meaningless, -⟩ | ⟨rfl, -⟩ |
        ⟨meaningful, notUp, rfl, entry, found⟩
      · refine .inl ?_
        by_cases empty : last = "" <;> simp_all [FilePath.isMeaningful, leadsBack]
      · exact .inl rfl
      · refine .inr ⟨entry, ?_⟩
        rw [walk_name stands meaningful notUp] at step
        split at step
        · cases step
        next short => exact lookUp_eq_ok_iff.mpr ⟨Nat.not_lt.mp short, found⟩

theorem makeDirectory_of_isDirectory {tree : FileTree} {path : FilePath}
    (directory : tree.isDirectory path = true) :
    tree.makeDirectory path = .error .alreadyExists := by
  obtain ⟨above, name, spot, taken⟩ := exists_spot_of_isDirectory directory
  rw [makeDirectory, spot]
  cases back : leadsBack name with
  | true => simp [back, bind, Except.bind, throw, throwThe, MonadExceptOf.throw]
  | false =>
      obtain ⟨entry, looked⟩ := taken.resolve_left (by simp [back])
      simp [back, looked, bind, Except.bind, throw, throwThe, MonadExceptOf.throw]

end FileTree

end PureService
