import Mathlib.Data.List.Sort
import PureService.Sorting

/-!
# Sorted lists

`Sorting.sort` is the insertion sort of the standard library, so its laws carry
over.  A list whose elements stand in a strict order is found again from any of
its permutations.  Elements that may change places keep the order that they had,
and a list in ascending order of keys is known by its parts of one key each.
-/

namespace PureService.Sorting

variable {α : Type} (precedes : α → α → Bool)

theorem insert_eq_orderedInsert (element : α) (elements : List α) :
    insert precedes element elements =
      elements.orderedInsert (precedes · · = true) element := by
  induction elements with
  | nil => rfl
  | cons first rest ih => rw [insert, List.orderedInsert_cons, ih]

theorem sort_eq_insertionSort (elements : List α) :
    sort precedes elements = elements.insertionSort (precedes · · = true) := by
  induction elements with
  | nil => rfl
  | cons first rest ih =>
      rw [sort, List.insertionSort_cons, ih, insert_eq_orderedInsert]

theorem sort_perm (elements : List α) : (sort precedes elements).Perm elements := by
  rw [sort_eq_insertionSort]
  exact List.perm_insertionSort _ elements

theorem sort_eq_nil_iff {elements : List α} :
    sort precedes elements = [] ↔ elements = [] :=
  ⟨fun empty => (empty ▸ sort_perm precedes elements).nil_eq.symm, by rintro rfl; rfl⟩

section Stable

variable {precedes} {selected : α → Bool}

/-- Elements that may all change places keep their order. -/
theorem filter_sort (tied : ∀ first second, selected first = true → selected second = true →
    precedes first second = true) (elements : List α) :
    (sort precedes elements).filter selected = elements.filter selected := by
  have inOrder : (elements.filter selected).Pairwise (precedes · · = true) :=
    List.pairwise_of_forall_mem_list fun first firstMember second secondMember =>
      tied first second (List.mem_filter.mp firstMember).2 (List.mem_filter.mp secondMember).2
  -- The selected elements are a sublist that is in order, so sorting leaves it a sublist.
  have kept : (elements.filter selected).Sublist (sort precedes elements) := by
    rw [sort_eq_insertionSort]
    exact List.sublist_insertionSort inOrder List.filter_sublist
  have selectedKept : (elements.filter selected).Sublist
      ((sort precedes elements).filter selected) := by
    simpa using kept.filter selected
  have count := ((sort_perm precedes elements).filter selected).length_eq
  exact (selectedKept.eq_of_length count.symm).symm

end Stable

section Ordered

variable {precedes}
variable (total : ∀ first second, precedes first second = true ∨ precedes second first = true)
variable (transitive : ∀ {first second third}, precedes first second = true →
  precedes second third = true → precedes first third = true)

include total transitive

theorem pairwise_sort (elements : List α) :
    (sort precedes elements).Pairwise (precedes · · = true) := by
  have : Std.Total (precedes · · = true) := ⟨total⟩
  have : IsTrans α (precedes · · = true) := ⟨fun _ _ _ => transitive⟩
  rw [sort_eq_insertionSort]
  exact List.pairwise_insertionSort _ elements

/-- A sorted list in which no two elements may change places is the only
sorted arrangement of its elements. -/
theorem sort_eq_of_perm {elements sorted : List α} (rearranged : elements.Perm sorted)
    (ordered : sorted.Pairwise (precedes · · = true))
    (antisymmetric : ∀ first ∈ sorted, ∀ second ∈ sorted, precedes first second = true →
      precedes second first = true → first = second) :
    sort precedes elements = sorted := by
  have same : (sort precedes elements).Perm sorted :=
    (sort_perm precedes elements).trans rearranged
  apply same.eq_of_pairwise ?_ (pairwise_sort total transitive elements) ordered
  intro first second firstMember secondMember
  exact antisymmetric first (same.mem_iff.mp firstMember) second secondMember

/-- A list in strict order is the only sorted arrangement of its elements. -/
theorem sort_eq_of_perm_of_strict {elements sorted : List α}
    (rearranged : elements.Perm sorted)
    (strict : sorted.Pairwise fun first second =>
      precedes first second = true ∧ precedes second first = false) :
    sort precedes elements = sorted := by
  apply sort_eq_of_perm total transitive rearranged (strict.imp And.left)
  have antisymmetric := List.Pairwise.forall_of_forall_of_flip
    (R := fun first second => precedes first second = true →
      precedes second first = true → first = second)
    (fun _ _ _ _ => rfl)
    (strict.imp fun ordered _ backward => by simp [ordered.2] at backward)
    (strict.imp fun ordered forward _ => by simp [ordered.2] at forward)
  exact fun first firstMember second secondMember => antisymmetric firstMember secondMember

end Ordered

section Keys

variable {precedes} {κ : Type} {key : α → κ}

section Compared

variable [LinearOrder κ]
variable (compares : ∀ first second, precedes first second = true ↔ key first ≤ key second)

include compares

theorem pairwise_key_sort (elements : List α) :
    (sort precedes elements).Pairwise fun earlier later => key earlier ≤ key later := by
  have ordered : (sort precedes elements).Pairwise (precedes · · = true) := by
    apply pairwise_sort
    · intro first second
      simpa only [compares] using le_total (key first) (key second)
    · intro first second third
      simpa only [compares] using le_trans
  simpa only [compares] using ordered

theorem filter_key_sort [BEq κ] [LawfulBEq κ] (elements : List α) (shared : κ) :
    (sort precedes elements).filter (key · == shared) = elements.filter (key · == shared) := by
  apply filter_sort
  intro first second firstShares secondShares
  rw [compares, eq_of_beq firstShares, eq_of_beq secondShares]

end Compared

variable [BEq κ] [LawfulBEq κ]

theorem mem_iff_of_filter_key_eq {first second : List α}
    (same : ∀ shared, first.filter (key · == shared) = second.filter (key · == shared))
    (element : α) : element ∈ first ↔ element ∈ second := by
  have member : element ∈ first.filter (key · == key element) ↔
      element ∈ second.filter (key · == key element) := by
    rw [same]
  simpa using member

theorem eq_of_filter_key_eq [PartialOrder κ] {first second : List α}
    (firstAscending : first.Pairwise fun earlier later => key earlier ≤ key later)
    (secondAscending : second.Pairwise fun earlier later => key earlier ≤ key later)
    (same : ∀ shared, first.filter (key · == shared) = second.filter (key · == shared)) :
    first = second := by
  induction first generalizing second with
  | nil =>
      symm
      rw [List.eq_nil_iff_forall_not_mem]
      intro element member
      exact List.not_mem_nil ((mem_iff_of_filter_key_eq same element).mpr member)
  | cons element rest ih =>
      have members := mem_iff_of_filter_key_eq same
      cases second with
      | nil => exact absurd ((members element).mp List.mem_cons_self) List.not_mem_nil
      | cons other others =>
          -- Each of the two heads is a member of the other list, so neither key is less.
          obtain ⟨elementLeast, restAscending⟩ := List.pairwise_cons.mp firstAscending
          obtain ⟨otherLeast, othersAscending⟩ := List.pairwise_cons.mp secondAscending
          have elementLe : key element ≤ key other := by
            rcases List.mem_cons.mp ((members other).mpr List.mem_cons_self) with rfl | later
            · exact le_rfl
            · exact elementLeast other later
          have otherLe : key other ≤ key element := by
            rcases List.mem_cons.mp ((members element).mp List.mem_cons_self) with rfl | later
            · exact le_rfl
            · exact otherLeast element later
          have tie : key element = key other := le_antisymm elementLe otherLe
          have heads := same (key other)
          simp only [tie, List.filter_cons, beq_self_eq_true, if_true, List.cons.injEq] at heads
          obtain ⟨rfl, restsAtKey⟩ := heads
          congr 1
          apply ih restAscending othersAscending
          intro shared
          have parts := same shared
          by_cases shares : key element = shared
          · simpa [shares] using parts
          · simpa [shares] using parts

end Keys

end PureService.Sorting
