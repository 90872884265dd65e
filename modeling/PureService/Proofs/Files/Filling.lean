import PureService.Proofs.Files.Contents

/-!
# Filling a directory

Texts are written into a directory, one after the other, until one of them is
refused.  Those that were written are held by their files then, and nothing else
has changed.
-/

namespace PureService

open Attempts FilePath

namespace FileAction

/-- Write texts below a directory, one after the other.  With each come the names that lead to its
file. -/
def fill (directory : FilePath) : List (List String × String) → FileAction FileError Unit
  | [] => pure ()
  | (way, text) :: others => do
    writeFile (directory.below way) text
    fill directory others

variable {directory : FilePath} {tree after : FileTree}

theorem fill_cons_eq_ok_iff {way : List String} {text : String}
    {others : List (List String × String)} :
    (fill directory ((way, text) :: others)).runOn tree = (.ok (), after) ↔
      ∃ middle, tree.writeFile (directory.below way) (.text text) = .ok middle ∧
        (fill directory others).runOn middle = (.ok (), after) := by
  rw [fill, runOn_bind, runOn_writeFile]
  cases tree.writeFile (directory.below way) (.text text) <;> simp

/-- The texts before the first one that is refused are written. -/
theorem fill_cases {texts : List (List String × String)} {result : Except FileError Unit}
    (ran : (fill directory texts).runOn tree = (result, after)) :
    ∃ written left, texts = written ++ left ∧
      (fill directory written).runOn tree = (.ok (), after) ∧
      (left = [] ∧ result = .ok () ∨
        ∃ first others fault, left = first :: others ∧
          after.writeFile (directory.below first.1) (.text first.2) = .error fault ∧
          result = .error fault) := by
  induction texts generalizing tree with
  | nil =>
      cases ran
      exact ⟨[], [], rfl, rfl, .inl ⟨rfl, rfl⟩⟩
  | cons first others ih =>
      rw [fill, runOn_bind, runOn_writeFile] at ran
      cases wrote : tree.writeFile (directory.below first.1) (.text first.2) with
      | error fault =>
          rw [wrote] at ran
          cases ran
          exact ⟨[], first :: others, rfl, rfl, .inr ⟨first, others, fault, rfl, wrote, rfl⟩⟩
      | ok middle =>
          rw [wrote] at ran
          obtain ⟨written, left, split, filled, rest⟩ := ih ran
          exact ⟨first :: written, left, by rw [split, List.cons_append],
            fill_cons_eq_ok_iff.mpr ⟨middle, wrote, filled⟩, rest⟩

end FileAction

namespace FileTree

/-- From the place on, the texts are held by the files to which their names lead.  Elsewhere
everything is as it was. -/
structure GainsTexts (before : FileTree) (place : Place) (texts : List (List String × String))
    (after : FileTree) : Prop where
  keeps : before.Keeps after
  proper : after.IsProper
  holds : ∀ written ∈ texts, after.entry? (place ++ written.1) = some (.file (.text written.2))
  others : ∀ other, (∀ written ∈ texts, other ≠ place ++ written.1) →
    after.entry? other = before.entry? other

section Below

variable {tree : FileTree} {directory : FilePath} {place : Place}
  (leads : tree.LeadsTo directory place) (proper : tree.IsProper) {way : List String}
  (someName : way ≠ []) (valid : ∀ name ∈ way, IsName name)

include leads proper someName valid

/-- What is put at the end of a path below the directory comes to the place that the names say. -/
theorem EndsAt.place_below {above : Place} {name : String}
    (ends : tree.EndsAt (directory.below way) above name) :
    above ++ [name] = place ++ way ∧ IsName name := by
  obtain ⟨before, last, rfl⟩ := List.eq_nil_or_concat way |>.resolve_left someName
  rw [List.concat_eq_append] at valid ends ⊢
  have unslashed := Contains.unslashed_below directory before valid
  have start : tree.startOf (directory.below (before ++ [last])) = tree.startOf directory := by
    rw [startOf, startOf, isRooted_below]
  obtain ⟨beforeValid, lastValid⟩ := List.forall_mem_append.mp valid
  have walked := ends.walk
  rw [unslashed, List.dropLast_concat, start, walk_append, leads.walk_lead] at walked
  obtain ⟨rfl, -⟩ := (proper.walk_names_iff leads.directory beforeValid).mp walked
  have named := ends.last
  rw [unslashed, List.getLast?_concat, Option.some.injEq] at named
  rw [← named, List.append_assoc]
  exact ⟨rfl, lastValid last (List.mem_singleton_self last)⟩

theorem gainsTexts_of_writeFile {text : String} {after : FileTree}
    (wrote : tree.writeFile (directory.below way) (.text text) = .ok after) :
    tree.GainsTexts place [(way, text)] after := by
  obtain ⟨above, name, ends, -, other, rfl⟩ := writeFile_eq_ok_iff.mp wrote
  obtain ⟨same, nameValid⟩ := ends.place_below leads proper someName valid
  refine ⟨keeps_put other _, proper.put ends.directory nameValid (.inr other), ?_, ?_⟩
  · intro written member
    obtain rfl := List.mem_singleton.mp member
    rw [FileTree.entry?_put _ (by simp), if_pos same.symm]
  · intro elsewhere different
    rw [FileTree.entry?_put _ (by simp), if_neg]
    rw [same]
    exact different _ (List.mem_singleton_self _)

end Below

/-- Texts that are written later come to other places. -/
theorem GainsTexts.append {first second third : FileTree} {place : Place}
    {texts more : List (List String × String)} (earlier : first.GainsTexts place texts second)
    (later : second.GainsTexts place more third)
    (apart : ∀ written ∈ texts, ∀ other ∈ more, written.1 ≠ other.1) :
    first.GainsTexts place (texts ++ more) third where
  keeps := earlier.keeps.trans later.keeps
  proper := later.proper
  holds written member := by
    rcases List.mem_append.mp member with inFirst | inMore
    · rw [later.others]
      · exact earlier.holds written inFirst
      · intro other inMore same
        exact apart written inFirst other inMore (List.append_cancel_left same)
    · exact later.holds written inMore
  others elsewhere different := by
    obtain ⟨notFirst, notMore⟩ := List.forall_mem_append.mp different
    rw [later.others elsewhere notMore, earlier.others elsewhere notFirst]

theorem gainsTexts_of_fill {tree after : FileTree} {directory : FilePath} {place : Place}
    {texts : List (List String × String)} (leads : tree.LeadsTo directory place)
    (proper : tree.IsProper)
    (valid : ∀ written ∈ texts, written.1 ≠ [] ∧ ∀ name ∈ written.1, IsName name)
    (distinct : (texts.map Prod.fst).Nodup)
    (filled : (FileAction.fill directory texts).runOn tree = (.ok (), after)) :
    tree.GainsTexts place texts after := by
  induction texts generalizing tree with
  | nil =>
      cases filled
      exact ⟨(Extends.refl after).keeps, proper, by simp, fun _ _ => rfl⟩
  | cons first others ih =>
      obtain ⟨middle, wrote, rest⟩ := FileAction.fill_cons_eq_ok_iff.mp filled
      obtain ⟨⟨someName, firstValid⟩, othersValid⟩ := List.forall_mem_cons.mp valid
      obtain ⟨different, othersDistinct⟩ := List.nodup_cons.mp distinct
      have gains := gainsTexts_of_writeFile leads proper someName firstValid wrote
      have later := ih (gains.keeps.leadsTo leads) gains.proper othersValid othersDistinct rest
      refine gains.append later ?_
      intro written member other inOthers same
      obtain rfl := List.mem_singleton.mp member
      exact different (same ▸ List.mem_map_of_mem inOthers)

end FileTree

end PureService
