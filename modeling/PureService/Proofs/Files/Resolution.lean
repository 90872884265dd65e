import PureService.Files.FileAction
import PureService.Proofs.Attempts
import PureService.Proofs.Files.FileTree

/-!
# Where paths lead

A path is walked segment by segment.  Once a path is known to lead to a
directory, what is found at the path of a child is decided by the entry one
name further, provided that the system takes the path at all.
-/

namespace PureService.FileTree

open Attempts FilePath

/-- The place at which a path starts. -/
def startOf (tree : FileTree) (path : FilePath) : Place :=
  if path.isRooted then [] else tree.workingDirectory

theorem wayOf_eq (tree : FileTree) (path : FilePath) :
    tree.wayOf path = (tree.startOf path, path.segments) := by
  by_cases rooted : path.isRooted = true <;> simp [wayOf, startOf, rooted]

section Walk

variable {tree : FileTree} {here there : Place} {segments : List String}

theorem walk_append (tree : FileTree) (here : Place) (first second : List String) :
    tree.walk here (first ++ second) = tree.walk here first >>= (tree.walk · second) := by
  induction first generalizing here with
  | nil => rfl
  | cons segment first ih =>
      simp only [List.cons_append, walk, ih]
      split
      · rfl
      · split
        · rfl
        · split
          · rfl
          · cases tree.lookUp here segment with
            | error failure => rfl
            | ok found => cases found <;> rfl

theorem walk_append_eq_ok_iff {first second : List String} :
    tree.walk here (first ++ second) = .ok there ↔
      ∃ middle, tree.walk here first = .ok middle ∧ tree.walk middle second = .ok there := by
  rw [walk_append, bind_eq_ok_iff]

/-- Only a directory can be walked on from. -/
theorem entry?_of_walk_cons {segment : String}
    (walked : tree.walk here (segment :: segments) = .ok there) :
    tree.entry? here = some .directory := by
  by_contra other
  rw [walk, if_pos other] at walked
  cases walked

theorem walk_meaningless (directory : tree.entry? here = some .directory)
    (meaningless : ∀ segment ∈ segments, isMeaningful segment = false) :
    tree.walk here segments = .ok here := by
  induction segments with
  | nil => rfl
  | cons segment segments ih =>
      obtain ⟨first, others⟩ := List.forall_mem_cons.mp meaningless
      have stays : (segment = "" || segment = ".") = true := by
        by_cases empty : segment = "" <;> simp_all [isMeaningful]
      rw [walk, if_neg (not_not.mpr directory), if_pos stays]
      exact ih others

theorem eq_of_walk_meaningless (meaningless : ∀ segment ∈ segments, isMeaningful segment = false)
    (walked : tree.walk here segments = .ok there) : there = here := by
  cases segments with
  | nil =>
      cases walked
      rfl
  | cons segment segments =>
      rw [walk_meaningless (entry?_of_walk_cons walked) meaningless] at walked
      cases walked
      rfl

theorem walk_up (directory : tree.entry? here = some .directory) :
    tree.walk here [".."] = .ok here.dropLast := by
  rw [walk, if_neg (not_not.mpr directory)]
  rfl

theorem walk_name {name : String} (directory : tree.entry? here = some .directory)
    (meaningful : isMeaningful name = true) (notUp : name ≠ "..") :
    tree.walk here [name] =
      if name.utf8ByteSize > maxNameSize then .error .nameTooLong
      else match tree.entry? (here ++ [name]) with
        | some _ => .ok (here ++ [name])
        | none => .error .notFound := by
  have moves : (name = "" || name = ".") = false := by
    simp [isMeaningful] at meaningful
    simp [meaningful]
  rw [walk, if_neg (not_not.mpr directory), if_neg (by simp [moves]), if_neg notUp, lookUp]
  split
  · rfl
  · cases tree.entry? (here ++ [name]) <;> rfl

theorem walk_singleton_cases {segment : String}
    (walked : tree.walk here [segment] = .ok there) :
    (isMeaningful segment = false ∧ there = here) ∨ (segment = ".." ∧ there = here.dropLast) ∨
      (isMeaningful segment = true ∧ segment ≠ ".." ∧ there = here ++ [segment] ∧
        ∃ entry, tree.entry? there = some entry) := by
  have directory := entry?_of_walk_cons walked
  cases meaning : isMeaningful segment with
  | false =>
      rw [walk_meaningless directory (by simpa using meaning)] at walked
      cases walked
      exact .inl ⟨rfl, rfl⟩
  | true =>
      by_cases up : segment = ".."
      · subst up
        rw [walk_up directory] at walked
        cases walked
        exact .inr (.inl ⟨rfl, rfl⟩)
      · rw [walk_name directory meaning up] at walked
        split at walked
        · cases walked
        · split at walked
          next entry stands =>
            cases walked
            exact .inr (.inr ⟨rfl, up, rfl, entry, stands⟩)
          · cases walked

/-- A walk through a proper tree that ends at a file ends with the name of the file. -/
theorem IsProper.exists_of_walk_file (proper : tree.IsProper) {content : Content}
    (someSegment : segments ≠ []) (walked : tree.walk here segments = .ok there)
    (file : tree.entry? there = some (.file content)) :
    ∃ before name directory, segments = before ++ [name] ∧ isMeaningful name = true ∧
      tree.walk here before = .ok directory ∧ tree.entry? directory = some .directory ∧
      there = directory ++ [name] := by
  obtain ⟨before, last, rfl⟩ := List.eq_nil_or_concat segments |>.resolve_left someSegment
  rw [List.concat_eq_append, walk_append_eq_ok_iff] at walked
  obtain ⟨middle, walkedBefore, step⟩ := walked
  have directory := entry?_of_walk_cons step
  rcases walk_singleton_cases step with ⟨-, rfl⟩ | ⟨-, rfl⟩ | ⟨meaningful, -, rfl, -⟩
  · rw [directory] at file
    cases file
  · have above : tree.entry? middle.dropLast = some .directory := by
      by_cases root : middle = []
      · simp [root]
      · exact proper.entry?_dropLast directory root
    rw [above] at file
    cases file
  · exact ⟨before, last, middle, List.concat_eq_append, meaningful, walkedBefore, directory, rfl⟩

/-- A walk along names through a proper tree adds the names to the place. -/
theorem IsProper.walk_names_iff (proper : tree.IsProper) {names : List String}
    (directory : tree.entry? here = some .directory) (valid : ∀ name ∈ names, IsName name) :
    tree.walk here names = .ok there ↔
      there = here ++ names ∧ ∃ entry, tree.entry? there = some entry := by
  induction names generalizing here with
  | nil =>
      rw [walk, Except.ok.injEq, List.append_nil]
      exact ⟨fun same => ⟨same.symm, _, same ▸ directory⟩, fun ⟨same, _⟩ => same.symm⟩
  | cons name names ih =>
      obtain ⟨validName, others⟩ := List.forall_mem_cons.mp valid
      have step := walk_name directory validName.isMeaningful validName.not_up
      rw [if_neg (Nat.not_lt.mpr validName.size_le)] at step
      rw [← List.singleton_append, walk_append_eq_ok_iff, step, ← List.append_assoc]
      -- Only the last name may lead to a file: where another one follows, a directory stands.
      constructor
      · rintro ⟨middle, moved, rest⟩
        split at moved
        next entry stands =>
          cases moved
          cases names with
          | nil =>
              cases rest
              exact ⟨(List.append_nil _).symm, entry, stands⟩
          | cons => exact (ih (entry?_of_walk_cons rest) others).mp rest
        next => cases moved
      · rintro ⟨rfl, entry, stands⟩
        cases names with
        | nil =>
            rw [List.append_nil] at stands ⊢
            exact ⟨here ++ [name], by rw [stands], rfl⟩
        | cons next names =>
            have above := proper.entry?_of_append_names (List.cons_ne_nil next names) stands
            exact ⟨here ++ [name], by rw [above], (ih above others).mpr ⟨rfl, entry, stands⟩⟩

end Walk

/-- The path leads to a directory at the place. -/
structure LeadsTo (tree : FileTree) (path : FilePath) (place : Place) : Prop where
  walk : tree.walk (tree.startOf path) path.segments = .ok place
  directory : tree.entry? place = some .directory

theorem resolve_eq (tree : FileTree) (path : FilePath) :
    tree.resolve path =
      checkPath path >>= fun _ => tree.walk (tree.startOf path) path.segments := by
  rw [resolve, wayOf_eq]

theorem resolve_eq_ok_iff {tree : FileTree} {path : FilePath} {place : Place} :
    tree.resolve path = .ok place ↔
      checkPath path = .ok () ∧ tree.walk (tree.startOf path) path.segments = .ok place := by
  rw [resolve_eq, bind_eq_ok_iff]
  exact ⟨fun ⟨_, taken⟩ => taken, fun taken => ⟨(), taken⟩⟩

theorem find_eq_ok_iff {tree : FileTree} {path : FilePath} {entry : Entry} :
    tree.find path = .ok entry ↔
      ∃ place, tree.resolve path = .ok place ∧ tree.entry? place = some entry := by
  rw [find, bind_eq_ok_iff]
  refine exists_congr fun place => and_congr_right fun _ => ?_
  cases tree.entry? place <;> simp [pure, Except.pure, throw, throwThe, MonadExceptOf.throw]

theorem readText_eq_ok_iff {tree : FileTree} {path : FilePath} {text : String} :
    tree.readText path = .ok text ↔ tree.find path = .ok (.file (.text text)) := by
  rw [readText, bind_eq_ok_iff]
  constructor
  · rintro ⟨entry, found, read⟩
    split at read <;> cases read
    exact found
  · intro found
    exact ⟨_, found, rfl⟩

theorem hasEntry_iff {tree : FileTree} {path : FilePath} :
    tree.hasEntry path = true ↔ ∃ entry, tree.find path = .ok entry := by
  rw [hasEntry]
  cases tree.find path <;> simp [Except.isOk, Except.toBool]

theorem isDirectory_iff_find {tree : FileTree} {path : FilePath} :
    tree.isDirectory path = true ↔ tree.find path = .ok .directory := by
  rw [isDirectory]
  split
  next directory => simp [directory]
  next other => simpa using other

theorem isDirectory_iff {tree : FileTree} {path : FilePath} :
    tree.isDirectory path = true ↔ checkPath path = .ok () ∧ ∃ place, tree.LeadsTo path place := by
  simp only [isDirectory_iff_find, find_eq_ok_iff, resolve_eq_ok_iff, and_assoc, exists_and_left]
  exact and_congr_right fun _ =>
    ⟨fun ⟨place, walked, directory⟩ => ⟨place, walked, directory⟩,
      fun ⟨place, leads⟩ => ⟨place, leads.walk, leads.directory⟩⟩

theorem checkPath_eq_ok_iff {path : FilePath} :
    checkPath path = .ok () ↔ path.IsNulFree ∧ path.text.utf8ByteSize ≤ maxPathSize ∧
      path.isEmpty = false := by
  rw [isNulFree_iff, checkPath]
  split
  next found => simpa using fun absent => absurd (by simpa using found) absent
  next absent =>
    split
    next long => simpa using fun _ fits => absurd fits (Nat.not_le.mpr long)
    next fits =>
      split
      next empty => simp [empty]
      next some => simp_all

theorem checkPath_of_overlong {path : FilePath} (free : path.IsNulFree)
    (overlong : maxPathSize < path.text.utf8ByteSize) :
    checkPath path = .error .nameTooLong := by
  rw [checkPath, if_neg (by simpa using isNulFree_iff.mp free), if_pos overlong]

/-- The system takes a path below a directory unless it is too long. -/
theorem checkPath_below_iff {base : FilePath} {names : List String} (free : base.IsNulFree)
    (someName : names ≠ []) (valid : ∀ name ∈ names, IsName name) :
    checkPath (base.below names) = .ok () ↔
      (base.below names).text.utf8ByteSize ≤ maxPathSize := by
  have filled : (base.below names).isEmpty = false := by
    obtain ⟨before, last, rfl⟩ := List.eq_nil_or_concat names |>.resolve_left someName
    rw [List.concat_eq_append] at valid ⊢
    rw [below_append_singleton]
    exact isEmpty_child _ (valid last (by simp)).nonempty
  have stillFree := isFreeOf_below free fun name member => (valid name member).no_nul
  simp [checkPath_eq_ok_iff, stillFree, filled]

/-- Before a name a path leads to the directory that it names above the name. -/
theorem leadsTo_ofLead {tree : FileTree} {before : List String} {name : String} {place : Place}
    (walked : tree.walk (tree.startOf ⟨before ++ [name]⟩) before = .ok place)
    (stands : tree.entry? place = some .directory) : tree.LeadsTo (ofLead before) place := by
  refine ⟨?_, stands⟩
  cases before with
  | nil =>
      cases walked
      exact walk_meaningless stands (by decide)
  | cons first rest =>
      have start (more : List String) (some : more ≠ []) :
          tree.startOf ⟨first :: more⟩ = if first = "" then [] else tree.workingDirectory := by
        cases more with
        | nil => exact absurd rfl some
        | cons => simp [startOf, isRooted]
      -- The segments that are dropped at the end mean nothing, so the walk stays where it is.
      obtain ⟨after, meaningless, trimmed⟩ := exists_eq_trimEnd_append rest
      rw [List.cons_append, start (rest ++ [name]) (by simp), trimmed, ← List.cons_append,
        walk_append_eq_ok_iff] at walked
      obtain ⟨middle, walkedKept, walkedAfter⟩ := walked
      obtain rfl := eq_of_walk_meaningless meaningless walkedAfter
      rw [ofLead]
      split
      next none =>
        rw [none] at walkedKept
        split
        next root =>
          rw [root, if_pos rfl] at walkedKept
          exact walkedKept
        next named =>
          rw [if_neg named] at walkedKept
          exact walkedKept
      next kept =>
        rw [start _ kept]
        exact walkedKept

/-- Where the segments before the name of a child lead, the directory itself leads. -/
theorem leadsTo_of_walk_lead {tree : FileTree} {directory : FilePath} {place : Place}
    (walked : tree.walk (tree.startOf directory) directory.lead = .ok place)
    (stands : tree.entry? place = some .directory) : tree.LeadsTo directory place := by
  refine ⟨?_, stands⟩
  rw [lead] at walked
  split at walked
  next slash =>
    obtain ⟨before, split⟩ := List.getLast?_eq_some_iff.mp slash
    rw [split, List.dropLast_concat] at walked
    rw [split, walk_append_eq_ok_iff]
    exact ⟨place, walked, walk_meaningless stands (by simp [isMeaningful])⟩
  next => exact walked

/-- Before names the path itself leads to a directory. -/
theorem exists_leadsTo_of_walk_below {tree : FileTree} {directory : FilePath}
    {names : List String} {there : Place} (someName : names ≠ [])
    (nonempty : ∀ name ∈ names, name ≠ "")
    (walked : tree.walk (tree.startOf (directory.below names)) (directory.below names).segments =
      .ok there) :
    ∃ place, tree.LeadsTo directory place := by
  obtain ⟨first, rest, rfl⟩ := List.exists_cons_of_ne_nil someName
  rw [startOf, isRooted_below, segments_below _ someName nonempty, walk_append_eq_ok_iff] at walked
  obtain ⟨place, walkedLead, step⟩ := walked
  exact ⟨place, leadsTo_of_walk_lead walkedLead (entry?_of_walk_cons step)⟩

/-- A path to a file has a directory above, to which its own path leads. -/
theorem IsProper.exists_leadsTo_parent {tree : FileTree} (proper : tree.IsProper)
    {path : FilePath} (someSegment : path.segments ≠ []) {place : Place} {content : Content}
    (walked : tree.walk (tree.startOf path) path.segments = .ok place)
    (file : tree.entry? place = some (.file content)) :
    ∃ above, path.parent? = some above ∧ tree.LeadsTo above place.dropLast := by
  obtain ⟨before, name, directory, split, meaningful, walkedBefore, stands, rfl⟩ :=
    proper.exists_of_walk_file someSegment walked file
  refine ⟨ofLead before, parent?_of_segments split meaningful, ?_⟩
  rw [List.dropLast_concat]
  obtain ⟨segments⟩ := path
  subst split
  exact leadsTo_ofLead walkedBefore stands

theorem IsProper.pairwise_children {tree : FileTree} (proper : tree.IsProper) (path : FilePath) :
    (tree.children path).Pairwise fun first second => first.1 < second.1 := by
  rw [children]
  split
  · split
    · exact proper.pairwise_childrenOf _
    · exact .nil
  · exact .nil

theorem IsProper.mem_children_iff {tree : FileTree} (proper : tree.IsProper) {path : FilePath}
    {child : String × Entry} :
    child ∈ tree.children path ↔
      ∃ place, tree.resolve path = .ok place ∧ tree.entry? (place ++ [child.1]) = some child.2 := by
  rw [children]
  split
  next place resolved =>
    simp only [resolved, Except.ok.injEq, exists_eq_left']
    split
    · exact proper.mem_childrenOf
    next other =>
      exact ⟨(absurd · List.not_mem_nil),
        fun found => absurd (proper.entry?_of_append found) other⟩
  next failure refused => simp [refused]

namespace LeadsTo

variable {tree : FileTree} {directory : FilePath} {place : Place}
  (leads : tree.LeadsTo directory place)

include leads

/-- A slash at the end of the path makes no difference. -/
theorem walk_lead : tree.walk (tree.startOf directory) directory.lead = .ok place := by
  have walked := leads.walk
  rw [lead]
  split
  next slash =>
    obtain ⟨before, split⟩ := List.getLast?_eq_some_iff.mp slash
    rw [split, List.dropLast_concat]
    rw [split, walk_append_eq_ok_iff] at walked
    obtain ⟨middle, walkedBefore, step⟩ := walked
    rw [walk_meaningless (entry?_of_walk_cons step) (by simp [isMeaningful])] at step
    cases step
    exact walkedBefore
  next => exact walked

section Below

variable {names : List String} (valid : ∀ name ∈ names, IsName name)
  (proper : tree.IsProper)

include valid proper

theorem walk_below_iff {there : Place} :
    tree.walk (tree.startOf (directory.below names)) (directory.below names).segments =
        .ok there ↔
      there = place ++ names ∧ ∃ entry, tree.entry? there = some entry := by
  have start : tree.startOf (directory.below names) = tree.startOf directory := by
    rw [startOf, startOf, isRooted_below]
  cases names with
  | nil =>
      rw [below, List.foldl_nil, leads.walk, Except.ok.injEq, List.append_nil]
      exact ⟨fun same => ⟨same.symm, _, same ▸ leads.directory⟩, fun stands => stands.1.symm⟩
  | cons first rest =>
      rw [start, segments_below _ (by simp) fun name member => (valid name member).nonempty,
        walk_append, leads.walk_lead]
      exact proper.walk_names_iff leads.directory valid

theorem below (stands : tree.entry? (place ++ names) = some .directory) :
    tree.LeadsTo (directory.below names) (place ++ names) :=
  ⟨(leads.walk_below_iff valid proper).mpr ⟨rfl, _, stands⟩, stands⟩

theorem resolve_below_iff {there : Place} :
    tree.resolve (directory.below names) = .ok there ↔
      checkPath (directory.below names) = .ok () ∧ there = place ++ names ∧
        ∃ entry, tree.entry? there = some entry := by
  rw [resolve_eq_ok_iff, leads.walk_below_iff valid proper]

theorem find_below_iff {entry : Entry} :
    tree.find (directory.below names) = .ok entry ↔
      checkPath (directory.below names) = .ok () ∧ tree.entry? (place ++ names) = some entry := by
  simp only [find_eq_ok_iff, leads.resolve_below_iff valid proper]
  constructor
  · rintro ⟨there, ⟨taken, rfl, -⟩, stands⟩
    exact ⟨taken, stands⟩
  · rintro ⟨taken, stands⟩
    exact ⟨_, ⟨taken, rfl, entry, stands⟩, stands⟩

theorem readText_below_iff {text : String} :
    tree.readText (directory.below names) = .ok text ↔
      checkPath (directory.below names) = .ok () ∧
        tree.entry? (place ++ names) = some (.file (.text text)) := by
  rw [← leads.find_below_iff valid proper, readText_eq_ok_iff]

theorem mem_children_below_iff {child : String × Entry} :
    child ∈ tree.children (directory.below names) ↔
      checkPath (directory.below names) = .ok () ∧
        tree.entry? (place ++ names ++ [child.1]) = some child.2 := by
  simp only [proper.mem_children_iff, leads.resolve_below_iff valid proper]
  constructor
  · rintro ⟨there, ⟨taken, rfl, -⟩, stands⟩
    exact ⟨taken, stands⟩
  · rintro ⟨taken, stands⟩
    exact ⟨_, ⟨taken, rfl, _, proper.entry?_of_append stands⟩, stands⟩

end Below

end LeadsTo

/-- Where a path can go on, nothing is found at the path of a child only if nothing is there. -/
theorem entry?_of_hasEntry_eq_false {tree : FileTree} {path : FilePath} {place : Place}
    {name : String} (proper : tree.IsProper)
    (walked : tree.walk (tree.startOf path) path.segments = .ok place) (nameValid : IsName name)
    (taken : checkPath (path.child name) = .ok ())
    (absent : tree.hasEntry (path.child name) = false) : tree.entry? (place ++ [name]) = none := by
  rw [Option.eq_none_iff_forall_ne_some]
  intro entry stands
  have valid : ∀ part ∈ [name], IsName part := by simpa using nameValid
  have leads : tree.LeadsTo path place := ⟨walked, proper.entry?_of_append stands⟩
  have found : tree.find (path.child name) = .ok entry :=
    (leads.find_below_iff valid proper).mpr ⟨taken, stands⟩
  have present := hasEntry_iff.mpr ⟨entry, found⟩
  rw [absent] at present
  cases present

end PureService.FileTree
