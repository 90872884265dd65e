import PureService.Proofs.Files.FileAction
import PureService.Proofs.Project.Layout

/-!
# Directories with known contents

What stands in a directory and below it is a list of entries, each with the
names that lead to it.  Making a directory or writing a file there adds an
entry to the list, and the list answers all that is asked about the directory.
-/

namespace PureService.FileTree

open Attempts FilePath

/-- The path leads to a directory.  From there on exactly the listed entries stand, the directory
itself among them. -/
structure Contains (tree : FileTree) (directory : FilePath) (place : Place)
    (contents : List (List String × Entry)) : Prop where
  proper : tree.IsProper
  taken : checkPath directory = .ok ()
  leads : tree.LeadsTo directory place
  below : ∀ names, tree.entry? (place ++ names) = contents.lookup names

/-- A directory without children contains nothing but itself. -/
theorem IsProper.exists_contains {tree : FileTree} {directory : FilePath}
    (proper : tree.IsProper) (stands : tree.isDirectory directory = true)
    (empty : tree.children directory = []) :
    ∃ place, tree.Contains directory place [([], .directory)] := by
  obtain ⟨taken, place, leads⟩ := isDirectory_iff.mp stands
  have resolved := resolve_eq_ok_iff.mpr ⟨taken, leads.walk⟩
  have childless (name : String) (entry : Entry) :
      tree.entry? (place ++ [name]) ≠ some entry := by
    intro found
    have child : (name, entry) ∈ tree.children directory :=
      proper.mem_children_iff.mpr ⟨place, resolved, found⟩
    rw [empty] at child
    cases child
  refine ⟨place, proper, taken, leads, ?_⟩
  intro names
  cases names with
  | nil =>
      rw [List.append_nil, leads.directory]
      rfl
  | cons first rest =>
      have unlisted : [(([] : List String), Entry.directory)].lookup (first :: rest) = none := rfl
      rw [unlisted, Option.eq_none_iff_forall_ne_some]
      intro entry found
      cases rest with
      | nil => exact childless first entry found
      | cons next rest =>
          rw [← List.singleton_append, ← List.append_assoc] at found
          exact childless first _ (proper.entry?_of_append_names (by simp) found)

namespace Contains

variable {tree : FileTree} {directory : FilePath} {place : Place}
  {contents : List (List String × Entry)} {name : String}

theorem free (contains : tree.Contains directory place contents) : directory.IsNulFree :=
  (checkPath_eq_ok_iff.mp contains.taken).1

theorem isDirectory (contains : tree.Contains directory place contents) :
    tree.isDirectory directory = true :=
  isDirectory_iff.mpr ⟨contains.taken, place, contains.leads⟩

theorem walk_lead_append (contains : tree.Contains directory place contents) {above : List String}
    {entry : Entry} (valid : ∀ part ∈ above, IsName part)
    (stands : contents.lookup above = some entry) :
    tree.walk (tree.startOf directory) (directory.lead ++ above) = .ok (place ++ above) := by
  rw [walk_append, contains.leads.walk_lead]
  refine (contains.proper.walk_names_iff contains.leads.directory valid).mpr ⟨rfl, entry, ?_⟩
  rw [contains.below, stands]

theorem unslashed_below (directory : FilePath) (above : List String)
    (valid : ∀ part ∈ above ++ [name], IsName part) :
    (directory.below (above ++ [name])).unslashed = directory.lead ++ above ++ [name] := by
  have filled : name ≠ "" := (valid name (by simp)).nonempty
  rw [unslashed, segments_below _ (by simp) fun part member => (valid part member).nonempty,
    ← List.append_assoc]
  simp [filled]

section End

variable (contains : tree.Contains directory place contents) (above : List String)
  (valid : ∀ part ∈ above ++ [name], IsName part)
  (fits : (directory.below (above ++ [name])).text.utf8ByteSize ≤ maxPathSize)
  (inside : contents.lookup above = some .directory)

include contains valid fits inside

theorem endsAt : tree.EndsAt (directory.below (above ++ [name])) (place ++ above) name := by
  have ⟨aboveValid, last⟩ := List.forall_mem_append.mp valid
  have nameValid : IsName name := last name (by simp)
  have unslashed := unslashed_below directory above valid
  have start : tree.startOf (directory.below (above ++ [name])) = tree.startOf directory := by
    rw [startOf, startOf, isRooted_below]
  refine ⟨(checkPath_below_iff contains.free (by simp) valid).mpr fits, ?_, ?_, ?_, ?_,
    nameValid.size_le⟩
  · rw [unslashed, List.dropLast_concat, start]
    exact contains.walk_lead_append aboveValid inside
  · rw [contains.below, inside]
  · rw [unslashed, List.getLast?_concat]
  · simp [leadsBack, nameValid.nonempty, nameValid.not_here, nameValid.not_up]

section New

variable (absent : contents.lookup (above ++ [name]) = none)

include absent

theorem put (entry : Entry) :
    (tree.put (place ++ (above ++ [name])) entry).Contains directory place
      ((above ++ [name], entry) :: contents) := by
  have ends := contains.endsAt above valid fits inside
  have otherStands : tree.entry? (place ++ above ++ [name]) ≠ some .directory := by
    rw [List.append_assoc, contains.below, absent]
    nofun
  have nameValid : IsName name := valid name (by simp)
  rw [← List.append_assoc]
  refine ⟨contains.proper.put ends.directory nameValid (.inr otherStands), contains.taken,
    (keeps_put otherStands entry).leadsTo contains.leads, ?_⟩
  intro names
  rw [FileTree.entry?_put _ (by simp), contains.below, List.lookup_cons, List.append_assoc]
  by_cases same : names = above ++ [name]
  · simp [same]
  · have skipped : (names == above ++ [name]) = false := beq_false_of_ne same
    simp [same, skipped]

theorem makeDirectory :
    tree.makeDirectory (directory.below (above ++ [name])) =
      .ok (tree.put (place ++ (above ++ [name])) .directory) := by
  refine makeDirectory_eq_ok_iff.mpr
    ⟨_, _, contains.endsAt above valid fits inside, ?_, by rw [List.append_assoc]⟩
  rw [List.append_assoc, contains.below, absent]

theorem writeFile (content : Content) :
    tree.writeFile (directory.below (above ++ [name])) content =
      .ok (tree.put (place ++ (above ++ [name])) (.file content)) := by
  have nameValid : IsName name := valid name (by simp)
  refine writeFile_eq_ok_iff.mpr
    ⟨_, _, contains.endsAt above valid fits inside, ?_, ?_, by rw [List.append_assoc]⟩
  · rw [segments_below _ (by simp) fun part member => (valid part member).nonempty,
      ← List.append_assoc, List.getLast?_concat]
    simpa using nameValid.nonempty
  · rw [List.append_assoc, contains.below, absent]
    nofun

theorem writeFile_runOn (text : String) :
    ∃ after, (FileAction.writeFile (directory.below (above ++ [name])) text).runOn tree =
        (.ok (), after) ∧
      after.Contains directory place ((above ++ [name], .file (.text text)) :: contents) := by
  refine ⟨_, ?_, contains.put above valid fits inside absent _⟩
  rw [FileAction.runOn_writeFile, contains.writeFile above valid fits inside absent]

end New

end End

section Pair

variable {first second : String} (contains : tree.Contains directory place contents)
  (valid : ∀ part ∈ [first, second], IsName part)
  (fits : (directory.below [first, second]).text.utf8ByteSize ≤ maxPathSize)

include contains valid fits

theorem makeDirectory_notFound (absent : contents.lookup [first] = none) :
    tree.makeDirectory (directory.below [first, second]) = .error .notFound := by
  have firstValid : IsName first := valid first (by simp)
  have taken := (checkPath_below_iff contains.free (by simp) valid).mpr fits
  have start : tree.startOf (directory.below [first, second]) = tree.startOf directory := by
    rw [startOf, startOf, isRooted_below]
  have unslashed : (directory.below [first, second]).unslashed =
      directory.lead ++ [first] ++ [second] :=
    unslashed_below directory [first] valid
  have refused : tree.walk (tree.startOf (directory.below [first, second]))
      (directory.below [first, second]).unslashed.dropLast = .error .notFound := by
    rw [unslashed, List.dropLast_concat, start, walk_append, contains.leads.walk_lead]
    refine (walk_name contains.leads.directory firstValid.isMeaningful firstValid.not_up).trans ?_
    rw [if_neg (Nat.not_lt.mpr firstValid.size_le), contains.below, absent]
  have spotted : tree.spot (directory.below [first, second]) = .error .notFound := by
    rw [spot_eq, taken, refused]
    rfl
  rw [FileTree.makeDirectory, spotted]
  rfl

theorem makeDirectories (self : contents.lookup [] = some .directory)
    (absent : contents.lookup [first] = none)
    (absentSecond : contents.lookup [first, second] = none) :
    ∃ after, (FileAction.makeDirectories (directory.below [first, second])).runOn tree =
        (.ok (), after) ∧
      after.Contains directory place
        (([first, second], .directory) :: ([first], .directory) :: contents) := by
  have nonempty {names : List String} (some : names ≠ []) (valid : ∀ part ∈ names, IsName part)
      (fits : (directory.below names).text.utf8ByteSize ≤ maxPathSize) :
      (directory.below names).isEmpty = false := by
    have taken := (checkPath_below_iff contains.free some valid).mpr fits
    exact (checkPath_eq_ok_iff.mp taken).2.2
  have firstValid : ∀ part ∈ [first], IsName part := by
    simpa using valid first (by simp)
  have fitsFirst : (directory.below [first]).text.utf8ByteSize ≤ maxPathSize := by
    rw [size_text_below _ (by simp) fun part member => (valid part member).nonempty] at fits
    rw [size_text_below _ (by simp) fun part member => (firstValid part member).nonempty]
    simp [text] at fits ⊢
    omega
  have listedSecond :
      List.lookup [first, second] (([first], Entry.directory) :: contents) = none := by
    simpa [List.lookup_cons] using absentSecond
  have listedFirst : List.lookup [first] (([first], Entry.directory) :: contents) =
      some .directory := by
    simp
  have madeFirst := contains.makeDirectory [] firstValid fitsFirst self absent
  have containsFirst := contains.put [] firstValid fitsFirst self absent .directory
  have madeSecond :=
    containsFirst.makeDirectory [first] valid fits listedFirst listedSecond
  have containsSecond :=
    containsFirst.put [first] valid fits listedFirst listedSecond .directory
  refine ⟨_, ?_, containsSecond⟩
  -- The inner directory is refused at first, and made after the one above it.
  have refused := contains.makeDirectory_notFound valid fits absent
  have parent := parent?_child_child directory (valid first (by simp)) (valid second (by simp))
  have length : (directory.below [first, second]).segments.length =
      directory.lead.length + 1 + 1 := by
    rw [segments_below _ (by simp) fun part member => (valid part member).nonempty]
    simp
  rw [FileAction.makeDirectories, length]
  exact FileAction.makeDirectoriesWithin_of_notFound (nonempty (by simp) valid fits) refused parent
    (FileAction.makeDirectoriesWithin_of_made (nonempty (by simp) firstValid fitsFirst) _ madeFirst)
    madeSecond

end Pair

section Read

variable (contains : tree.Contains directory place contents) {names : List String}
  (someName : names ≠ []) (valid : ∀ name ∈ names, IsName name)

include contains someName valid

theorem find_below_iff {entry : Entry} :
    tree.find (directory.below names) = .ok entry ↔
      (directory.below names).text.utf8ByteSize ≤ maxPathSize ∧
        contents.lookup names = some entry := by
  rw [contains.leads.find_below_iff valid contains.proper,
    checkPath_below_iff contains.free someName valid, contains.below]

theorem hasEntry_below_eq_false (absent : contents.lookup names = none) :
    tree.hasEntry (directory.below names) = false := by
  rw [Bool.eq_false_iff, Ne, hasEntry_iff]
  rintro ⟨entry, found⟩
  have stands := ((contains.find_below_iff someName valid).mp found).2
  rw [absent] at stands
  cases stands

theorem readText_below {text : String}
    (fits : (directory.below names).text.utf8ByteSize ≤ maxPathSize)
    (stands : contents.lookup names = some (.file (.text text))) :
    tree.readText (directory.below names) = .ok text :=
  readText_eq_ok_iff.mpr ((contains.find_below_iff someName valid).mpr ⟨fits, stands⟩)

/-- The wanted children are those that are listed. -/
theorem selection_eq (fits : (directory.below names).text.utf8ByteSize ≤ maxPathSize)
    {wanted : String × Entry → Bool} {expected : List String}
    (ordered : expected.Pairwise (· < ·))
    (listed : ∀ name ∈ expected,
      ∃ entry, contents.lookup (names ++ [name]) = some entry ∧ wanted (name, entry) = true)
    (only : ∀ name entry, (names ++ [name], entry) ∈ contents → wanted (name, entry) = true →
      name ∈ expected) :
    tree.selection wanted (directory.below names) = expected := by
  have selects := contains.leads.selects_selection contains.proper contains.free wanted someName
    valid
  refine selects.ordered.eq_of_mem_iff ordered fun name => ?_
  rw [selects.mem_iff, List.append_assoc, contains.below]
  constructor
  · rintro ⟨-, entry, stands, isWanted⟩
    obtain ⟨before, after, split, -⟩ := List.lookup_eq_some_iff.mp stands
    exact only name entry (by simp [split]) isWanted
  · intro member
    exact ⟨fits, listed name member⟩

end Read

end Contains

end PureService.FileTree
