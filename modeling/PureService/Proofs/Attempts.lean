import Mathlib.Data.List.Forall2

/-!
# Attempts

What is known when attempts that may fail, one after the other, have
succeeded, and which failure is told when they have not.
-/

namespace PureService.Attempts

variable {ε α β γ : Type} {attempt : α → Except ε β}

theorem bind_eq_ok_iff {first : Except ε α} {next : α → Except ε β} {result : β} :
    (first >>= next) = .ok result ↔ ∃ found, first = .ok found ∧ next found = .ok result := by
  cases first <;> simp [bind, Except.bind]

theorem bind_eq_error_iff {first : Except ε α} {next : α → Except ε β} {error : ε} :
    (first >>= next) = .error error ↔ first = .error error ∨
      ∃ found, first = .ok found ∧ next found = .error error := by
  cases first <;> simp [bind, Except.bind]

theorem map_eq_ok_iff {first : Except ε α} {next : α → β} {result : β} :
    first.map next = .ok result ↔ ∃ found, first = .ok found ∧ next found = result := by
  cases first <;> simp [Except.map]

theorem map_eq_error_iff {first : Except ε α} {next : α → β} {error : ε} :
    first.map next = .error error ↔ first = .error error := by
  cases first <;> simp [Except.map]

theorem mapError_eq_ok_iff {first : Except ε α} {tell : ε → γ} {result : α} :
    first.mapError tell = .ok result ↔ first = .ok result := by
  cases first <;> simp [Except.mapError]

theorem mapM_eq_ok_iff {items : List α} {results : List β} :
    items.mapM attempt = .ok results ↔
      List.Forall₂ (fun item result => attempt item = .ok result) items results := by
  induction items generalizing results with
  | nil => cases results <;> simp [pure, Except.pure]
  | cons item items ih =>
      simp only [List.mapM_cons, bind_eq_ok_iff, ih, List.forall₂_cons_left_iff]
      constructor
      · rintro ⟨found, succeeded, results, each, made⟩
        cases made
        exact ⟨found, results, succeeded, each, rfl⟩
      · rintro ⟨found, results, succeeded, each, rfl⟩
        exact ⟨found, succeeded, results, each, rfl⟩

/-- Attempts that go the same way on these items have the same results. -/
theorem mapM_eq_ok_of_imp {items : List α} {results : List β} {other : α → Except ε β}
    (imp : ∀ item ∈ items, ∀ result, attempt item = .ok result → other item = .ok result)
    (succeeded : items.mapM attempt = .ok results) : items.mapM other = .ok results := by
  have paired := List.forall₂_iff_zip.mp (mapM_eq_ok_iff.mp succeeded)
  refine mapM_eq_ok_iff.mpr (List.forall₂_iff_zip.mpr ⟨paired.1, ?_⟩)
  intro item result member
  exact imp item (List.of_mem_zip member).1 result (paired.2 member)

theorem mapM_congr {items : List α} {other : α → Except ε β}
    (same : ∀ item ∈ items, attempt item = other item) :
    items.mapM attempt = items.mapM other := by
  induction items with
  | nil => rfl
  | cons item items ih =>
      obtain ⟨first, others⟩ := List.forall_mem_cons.mp same
      rw [List.mapM_cons, List.mapM_cons, first, ih others]

theorem exists_of_mem_of_mapM {items : List α} {results : List β} {result : β}
    (succeeded : items.mapM attempt = .ok results) (member : result ∈ results) :
    ∃ item ∈ items, attempt item = .ok result := by
  rw [mapM_eq_ok_iff] at succeeded
  induction succeeded with
  | nil => cases member
  | cons first others ih =>
      rcases List.mem_cons.mp member with rfl | later
      · exact ⟨_, List.mem_cons_self, first⟩
      · obtain ⟨item, inside, found⟩ := ih later
        exact ⟨item, List.mem_cons_of_mem _ inside, found⟩

section Cons

variable {item : α} {items : List α}

theorem mapM_cons_of_error {error : ε} (failed : attempt item = .error error) :
    (item :: items).mapM attempt = .error error := by
  rw [List.mapM_cons, failed]
  rfl

theorem mapM_cons_of_ok {result : β} (succeeded : attempt item = .ok result) :
    (item :: items).mapM attempt = (items.mapM attempt).map (result :: ·) := by
  rw [List.mapM_cons, succeeded]
  cases items.mapM attempt <;> rfl

end Cons

/-- The first attempt that fails decides the failure. -/
theorem mapM_eq_error_iff {items : List α} {error : ε} :
    items.mapM attempt = .error error ↔
      ∃ before item after, items = before ++ item :: after ∧
        (∀ earlier ∈ before, ∃ result, attempt earlier = .ok result) ∧
        attempt item = .error error := by
  constructor
  · intro failed
    induction items with
    | nil => cases failed
    | cons item items ih =>
        cases tried : attempt item with
        | error failure =>
            rw [mapM_cons_of_error tried] at failed
            cases failed
            exact ⟨[], item, items, rfl, by simp, tried⟩
        | ok result =>
            have later : items.mapM attempt = .error error := by
              rw [mapM_cons_of_ok tried] at failed
              cases others : items.mapM attempt <;> rw [others] at failed <;> cases failed
              rfl
            obtain ⟨before, failing, after, rfl, succeeded, told⟩ := ih later
            exact ⟨item :: before, failing, after, rfl,
              List.forall_mem_cons.mpr ⟨⟨result, tried⟩, succeeded⟩, told⟩
  · rintro ⟨before, item, after, rfl, succeeded, told⟩
    induction before with
    | nil => exact mapM_cons_of_error told
    | cons first before ih =>
        obtain ⟨⟨result, made⟩, others⟩ := List.forall_mem_cons.mp succeeded
        rw [List.cons_append, mapM_cons_of_ok made, ih others]
        rfl

/-- What is made of the results decides no failure. -/
theorem mapM_map_eq_error_iff {items : List α} {next : α → β → γ} {error : ε} :
    items.mapM (fun item => (attempt item).map (next item)) = .error error ↔
      items.mapM attempt = .error error := by
  have succeeds (item : α) : (∃ result, (attempt item).map (next item) = .ok result) ↔
      ∃ found, attempt item = .ok found := by
    cases attempt item <;> simp [Except.map]
  simp only [mapM_eq_error_iff, map_eq_error_iff, succeeds]

/-- Attempts made group by group are the attempts made one after the other. -/
theorem mapM_flatMap (items : List γ) (group : γ → List α) :
    (items.flatMap group).mapM attempt =
      (items.mapM fun item => (group item).mapM attempt).map List.flatten := by
  induction items with
  | nil => rfl
  | cons item items ih =>
      rw [List.flatMap_cons, List.mapM_append, ih, List.mapM_cons]
      cases (group item).mapM attempt with
      | error failure => rfl
      | ok found =>
          cases items.mapM fun item => (group item).mapM attempt <;> rfl

/-- Items that yield nothing may stand between the others. -/
theorem mapM_of_filter {items : List α} {keeps : α → Bool} {yield : β → List γ} {kept : List β}
    (others : ∀ item ∈ items, keeps item = false →
      ∃ result, attempt item = .ok result ∧ yield result = [])
    (succeeded : (items.filter keeps).mapM attempt = .ok kept) :
    ∃ results, items.mapM attempt = .ok results ∧
      results.flatMap yield = kept.flatMap yield := by
  induction items generalizing kept with
  | nil => exact ⟨kept, succeeded, rfl⟩
  | cons item items ih =>
      rw [List.forall_mem_cons] at others
      cases keep : keeps item with
      | false =>
          rw [List.filter_cons_of_neg (by simp [keep])] at succeeded
          obtain ⟨result, made, none⟩ := others.1 keep
          obtain ⟨results, each, same⟩ := ih others.2 succeeded
          refine ⟨result :: results, ?_, by rw [List.flatMap_cons, none, List.nil_append, same]⟩
          rw [mapM_cons_of_ok made, each]
          rfl
      | true =>
          rw [List.filter_cons_of_pos keep, List.mapM_cons] at succeeded
          simp only [bind_eq_ok_iff] at succeeded
          obtain ⟨result, made, later, others', rest⟩ := succeeded
          cases rest
          obtain ⟨results, each, same⟩ := ih others.2 others'
          refine ⟨result :: results, ?_, by rw [List.flatMap_cons, List.flatMap_cons, same]⟩
          rw [mapM_cons_of_ok made, each]
          rfl

end PureService.Attempts
