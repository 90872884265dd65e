import Mathlib.Data.List.Induction
import Mathlib.Data.List.Nodup
import Mathlib.Data.String.Basic
import PureService.Proofs.Files.FilePath
import PureService.Proofs.Sorting

/-!
# Proper file trees

In a proper tree every place is listed once, its names are names of entries,
and it stands in a directory.  The children of a directory are then exactly
the entries one name further, each once and in the order of their names.
-/

namespace PureService.FileTree

open FilePath (IsName)

structure IsProper (tree : FileTree) : Prop where
  distinct : (tree.entries.map Prod.fst).Nodup
  inside : ∀ listed ∈ tree.entries,
    listed.1 ≠ [] ∧ tree.entry? listed.1.dropLast = some .directory
  named : ∀ listed ∈ tree.entries, ∀ name ∈ listed.1, IsName name

instance (tree : FileTree) : Decidable tree.IsProper :=
  decidable_of_iff ((tree.entries.map Prod.fst).Nodup ∧
      (∀ listed ∈ tree.entries,
        listed.1 ≠ [] ∧ tree.entry? listed.1.dropLast = some .directory) ∧
      ∀ listed ∈ tree.entries, ∀ name ∈ listed.1, IsName name)
    ⟨fun ⟨distinct, inside, named⟩ => ⟨distinct, inside, named⟩,
     fun proper => ⟨proper.distinct, proper.inside, proper.named⟩⟩

@[simp]
theorem entry?_nil (tree : FileTree) : tree.entry? [] = some .directory :=
  rfl

@[simp]
theorem workingDirectory_put (tree : FileTree) (place : Place) (entry : Entry) :
    (tree.put place entry).workingDirectory = tree.workingDirectory :=
  rfl

theorem lookup_filter_ne {place other : Place} (different : other ≠ place)
    (entries : List (Place × Entry)) :
    (entries.filter fun listed => listed.1 ≠ place).lookup other = entries.lookup other := by
  induction entries with
  | nil => rfl
  | cons listed entries ih =>
      obtain ⟨here, entry⟩ := listed
      by_cases same : here = place
      · subst same
        have skipped : (other == here) = false := beq_false_of_ne different
        simpa [List.lookup_cons, skipped] using ih
      · rw [List.filter_cons_of_pos (by simpa using same), List.lookup_cons, List.lookup_cons, ih]

theorem entry?_put (tree : FileTree) {place : Place} (below : place ≠ []) (entry : Entry)
    (other : Place) :
    entry? (tree.put place entry) other =
      if other = place then some entry else tree.entry? other := by
  cases other with
  | nil => simp [Ne.symm below]
  | cons first rest =>
      by_cases same : first :: rest = place
      · subst same
        simp [put, entry?]
      · have skipped : (first :: rest == place) = false := beq_false_of_ne same
        rw [if_neg same]
        simpa [put, entry?, List.lookup_cons, skipped] using lookup_filter_ne same tree.entries

theorem put_put (tree : FileTree) (place : Place) (entry : Entry) :
    (tree.put place entry).put place entry = tree.put place entry := by
  simp [put, List.filter_filter]

/-- What is listed at a place directly inside the directory, under its name there. -/
def childAt (directory : Place) (listed : Place × Entry) : Option (String × Entry) :=
  match listed.1.getLast? with
  | some name => if listed.1.dropLast = directory then some (name, listed.2) else none
  | none => none

theorem childAt_eq_some_iff {directory : Place} {listed : Place × Entry} {child : String × Entry} :
    childAt directory listed = some child ↔ listed = (directory ++ [child.1], child.2) := by
  obtain ⟨place, entry⟩ := listed
  obtain ⟨name, found⟩ := child
  rcases List.eq_nil_or_concat place with rfl | ⟨before, last, rfl⟩
  · simp [childAt]
  · rw [List.concat_eq_append]
    by_cases same : before = directory <;> simp [childAt, same]

theorem childrenOf_eq_sort (tree : FileTree) (directory : Place) :
    tree.childrenOf directory =
      Sorting.sort (fun first second => first.1 ≤ second.1)
        (tree.entries.filterMap (childAt directory)) :=
  rfl

namespace IsProper

variable {tree : FileTree} (proper : tree.IsProper)

include proper

theorem mem_entries_iff {place : Place} {entry : Entry} :
    (place, entry) ∈ tree.entries ↔ place ≠ [] ∧ tree.entry? place = some entry := by
  have lookup : (place, entry) ∈ tree.entries ↔ tree.entries.lookup place = some entry := by
    have distinct := proper.distinct
    generalize tree.entries = entries at distinct
    induction entries with
    | nil => simp
    | cons listed entries ih =>
        obtain ⟨here, found⟩ := listed
        rw [List.map_cons, List.nodup_cons] at distinct
        rw [List.lookup_cons, List.mem_cons]
        by_cases same : place = here
        · subst same
          have absent : (place, entry) ∉ entries := fun member =>
            distinct.1 (List.mem_map.mpr ⟨_, member, rfl⟩)
          simp [absent, eq_comm]
        · have skipped : (place == here) = false := beq_false_of_ne same
          simp [same, skipped, ih distinct.2]
  constructor
  · intro member
    have below := (proper.inside _ member).1
    refine ⟨below, ?_⟩
    rw [FileTree.entry?, if_neg (by simpa using below)]
    exact lookup.mp member
  · rintro ⟨below, found⟩
    rw [FileTree.entry?, if_neg (by simpa using below)] at found
    exact lookup.mpr found

theorem isName_of_entry? {place : Place} {entry : Entry} (found : tree.entry? place = some entry)
    {name : String} (member : name ∈ place) : IsName name :=
  proper.named _ (proper.mem_entries_iff.mpr ⟨List.ne_nil_of_mem member, found⟩) name member

theorem isName_of_entry?_append {place : Place} {name : String} {entry : Entry}
    (found : tree.entry? (place ++ [name]) = some entry) : IsName name :=
  proper.isName_of_entry? found (List.mem_append_right _ (List.mem_singleton_self name))

/-- What stands somewhere stands in a directory. -/
theorem entry?_dropLast {place : Place} {entry : Entry} (found : tree.entry? place = some entry)
    (below : place ≠ []) : tree.entry? place.dropLast = some .directory :=
  (proper.inside _ (proper.mem_entries_iff.mpr ⟨below, found⟩)).2

theorem entry?_of_append {place : Place} {name : String} {entry : Entry}
    (found : tree.entry? (place ++ [name]) = some entry) : tree.entry? place = some .directory := by
  simpa using proper.entry?_dropLast found (by simp)

theorem entry?_of_append_names {place : Place} {names : List String} {entry : Entry}
    (someName : names ≠ []) (found : tree.entry? (place ++ names) = some entry) :
    tree.entry? place = some .directory := by
  induction names using List.reverseRecOn generalizing entry with
  | nil => exact absurd rfl someName
  | append_singleton names name ih =>
      rw [← List.append_assoc] at found
      have above := proper.entry?_of_append found
      by_cases last : names = []
      · simpa [last] using above
      · exact ih last above

theorem mem_childrenOf {place : Place} {name : String} {entry : Entry} :
    (name, entry) ∈ tree.childrenOf place ↔ tree.entry? (place ++ [name]) = some entry := by
  rw [childrenOf_eq_sort, (Sorting.sort_perm _ _).mem_iff, List.mem_filterMap]
  simp only [childAt_eq_some_iff, exists_eq_right, proper.mem_entries_iff]
  simp

theorem pairwise_childrenOf (directory : Place) :
    (tree.childrenOf directory).Pairwise fun first second => first.1 < second.1 := by
  have distinct : (tree.childrenOf directory).Pairwise fun first second => first.1 ≠ second.1 := by
    have places : tree.entries.Pairwise fun first second => first.1 ≠ second.1 :=
      List.pairwise_map.mp proper.distinct
    rw [childrenOf_eq_sort, (Sorting.sort_perm _ _).pairwise_iff fun different => Ne.symm different,
      List.pairwise_filterMap]
    refine places.imp ?_
    intro first second different firstChild firstIs secondChild secondIs equal
    rw [childAt_eq_some_iff] at firstIs secondIs
    exact different (by rw [firstIs, secondIs, equal])
  have sorted : (tree.childrenOf directory).Pairwise fun first second => first.1 ≤ second.1 := by
    rw [childrenOf_eq_sort]
    exact Sorting.pairwise_key_sort (fun _ _ => decide_eq_true_iff) _
  refine (sorted.and distinct).imp ?_
  rintro first second ⟨ordered, different⟩
  exact lt_of_le_of_ne ordered different

end IsProper

end PureService.FileTree
