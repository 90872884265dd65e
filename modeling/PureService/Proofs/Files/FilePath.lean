import Mathlib.Data.List.Induction
import Mathlib.Data.List.TakeWhile
import PureService.Files.FileTree
import PureService.Proofs.Text.Line

/-!
# Paths below a base

A path below a base goes on with names of entries.  It begins with the
segments of the base, its components are those of the base and the names, and
seen from the base it is the names again.
-/

namespace PureService

/-- The name can be that of an entry in a directory. -/
structure FilePath.IsName (name : String) : Prop where
  nonempty : name ≠ ""
  not_here : name ≠ "."
  not_up : name ≠ ".."
  no_slash : '/' ∉ name.toList
  no_nul : Char.ofNat 0 ∉ name.toList
  size_le : name.utf8ByteSize ≤ FileTree.maxNameSize

namespace FilePath

instance (name : String) : Decidable (IsName name) :=
  decidable_of_iff (name ≠ "" ∧ name ≠ "." ∧ name ≠ ".." ∧ '/' ∉ name.toList ∧
      Char.ofNat 0 ∉ name.toList ∧ name.utf8ByteSize ≤ FileTree.maxNameSize)
    ⟨fun ⟨nonempty, notHere, notUp, noSlash, noNul, size⟩ =>
      ⟨nonempty, notHere, notUp, noSlash, noNul, size⟩,
     fun valid => ⟨valid.nonempty, valid.not_here, valid.not_up, valid.no_slash, valid.no_nul,
      valid.size_le⟩⟩

theorem IsName.isMeaningful {name : String} (valid : IsName name) : isMeaningful name = true := by
  simp [FilePath.isMeaningful, valid.nonempty, valid.not_here]

theorem segments_ofText_ne_nil (text : String) : (ofText text).segments ≠ [] := by
  simp [ofText, Text.splitAt_ne_nil]

theorem ofText_of_notMem {text : String} (none : '/' ∉ text.toList) :
    ofText text = ofName text := by
  rw [ofText, Text.splitAt_of_notMem none, List.map_singleton, String.ofList_toList]
  rfl

theorem notMem_of_segments_eq_singleton {text segment : String}
    (single : (ofText text).segments = [segment]) : '/' ∉ text.toList := by
  rw [ofText, List.map_eq_singleton_iff] at single
  obtain ⟨part, split, -⟩ := single
  exact Text.notMem_of_splitAt_eq_singleton split

/-- What a text without a slash ends in, its last segment ends in. -/
theorem exists_segments_ofText_append {ending : String} (none : '/' ∉ ending.toList)
    (text : String) :
    ∃ before last, (ofText text).segments = before ++ [last] ∧
      (ofText (text ++ ending)).segments = before ++ [last ++ ending] := by
  obtain ⟨before, last, split, longer⟩ := Text.exists_splitAt_append none text.toList
  refine ⟨before.map String.ofList, String.ofList last, ?_, ?_⟩
  · rw [ofText, split, List.map_append]
    rfl
  · rw [ofText, String.toList_append, longer, List.map_append, List.map_singleton,
      String.ofList_append, String.ofList_toList]

theorem ofText_text {segments : List String} (nonempty : segments ≠ [])
    (whole : ∀ segment ∈ segments, '/' ∉ segment.toList) :
    ofText (text ⟨segments⟩) = ⟨segments⟩ := by
  have slash : "/".toList = ['/'] := by decide
  have parts : ∀ part ∈ segments.map String.toList, '/' ∉ part := by simpa using whole
  rw [ofText, text, String.toList_intercalate, slash,
    Text.splitAt_intercalate (by simpa using nonempty) parts, List.map_map]
  simp [Function.comp_def]

theorem text_injective {first second : List String} (firstNonempty : first ≠ [])
    (secondNonempty : second ≠ []) (firstWhole : ∀ segment ∈ first, '/' ∉ segment.toList)
    (secondWhole : ∀ segment ∈ second, '/' ∉ segment.toList)
    (equal : text ⟨first⟩ = text ⟨second⟩) : first = second := by
  have read := congrArg ofText equal
  rw [ofText_text firstNonempty firstWhole, ofText_text secondNonempty secondWhole] at read
  exact congrArg segments read

/-! ### Paths of children -/

/-- The segments of the path before the name of a child. -/
def lead (path : FilePath) : List String :=
  if path.segments.getLast? = some "" then path.segments.dropLast else path.segments

theorem lead_subset_segments (path : FilePath) : path.lead ⊆ path.segments := by
  rw [lead]
  split
  · exact List.dropLast_subset _
  · exact List.Subset.refl _

/-- The text of the path before the name of a child. -/
def leadText (path : FilePath) : String :=
  String.join (path.lead.map (· ++ "/"))

theorem text_append (segments : List String) {names : List String} (someName : names ≠ []) :
    FilePath.text ⟨segments ++ names⟩ =
      String.join (segments.map (· ++ "/")) ++ FilePath.text ⟨names⟩ := by
  induction segments with
  | nil => simp
  | cons first segments ih =>
      rw [text] at ih ⊢
      rw [List.cons_append, String.intercalate_cons_of_ne_nil (by simp [someName]), ih,
        List.map_cons, String.join_cons]
      simp only [String.append_assoc]

section Join

variable (base : FilePath) {path : FilePath} (relative : path.isRooted = false)

include relative

theorem segments_join : (base.join path).segments = base.lead ++ path.segments := by
  rw [join, lead, relative]
  split
  · contradiction
  · split <;> rfl

theorem isRooted_join (someSegment : path.segments ≠ []) :
    (base.join path).isRooted = base.isRooted := by
  obtain ⟨first, rest, split⟩ := List.exists_cons_of_ne_nil someSegment
  have joined := segments_join base relative
  rw [isRooted, split] at relative
  rw [isRooted, isRooted, joined, split, lead]
  obtain ⟨segments⟩ := base
  match segments with
  | [] => exact relative
  | [only] =>
      by_cases empty : only = ""
      · simpa [empty] using relative
      · simp [empty]
  | [before, last] => by_cases empty : last = "" <;> simp [empty]
  | before :: second :: third :: more =>
      by_cases empty : (third :: more).getLast? = some "" <;> simp [empty]

end Join

section Child

variable (directory : FilePath) (name : String)

theorem segments_child : (directory.child name).segments = directory.lead ++ [name] :=
  segments_join directory rfl

theorem isRooted_child : (directory.child name).isRooted = directory.isRooted :=
  isRooted_join directory rfl (List.cons_ne_nil _ _)

theorem isEmpty_child {name : String} (filled : name ≠ "") :
    (directory.child name).isEmpty = false := by
  rw [isEmpty, segments_child, decide_eq_false_iff_not]
  intro equal
  have last := congrArg List.getLast? equal
  rw [List.getLast?_concat, List.getLast?_singleton, Option.some.injEq] at last
  exact filled last

theorem lead_child {name : String} (nonempty : name ≠ "") :
    (directory.child name).lead = directory.lead ++ [name] := by
  rw [lead, segments_child]
  simp [nonempty]

theorem text_child : (directory.child name).text = directory.leadText ++ name := by
  have equal : directory.child name = ⟨directory.lead ++ [name]⟩ :=
    congrArg FilePath.mk (segments_child directory name)
  have last : FilePath.text ⟨[name]⟩ = name := by simp [text]
  rw [equal, text_append _ (by simp), last, leadText]

theorem leadText_child {name : String} (nonempty : name ≠ "") :
    (directory.child name).leadText = directory.leadText ++ name ++ "/" := by
  simp [leadText, lead_child directory nonempty, String.join_append, String.append_assoc]

end Child

theorem size_text_child (directory : FilePath) (name : String) :
    (directory.child name).text.utf8ByteSize =
      directory.leadText.utf8ByteSize + name.utf8ByteSize := by
  rw [text_child, String.utf8ByteSize_append]

theorem size_text_le_child (directory : FilePath) (name : String) :
    directory.text.utf8ByteSize ≤ (directory.child name).text.utf8ByteSize := by
  rw [size_text_child, leadText, lead]
  obtain ⟨segments⟩ := directory
  rcases List.eq_nil_or_concat segments with rfl | ⟨before, last, rfl⟩
  · exact Nat.zero_le _
  · have single : FilePath.text ⟨[last]⟩ = last := by simp [text]
    rw [List.concat_eq_append, text_append _ (by simp), single, String.utf8ByteSize_append,
      List.getLast?_concat, List.dropLast_concat]
    split
    next slash =>
      cases slash
      exact Nat.le_add_right _ _
    next =>
      rw [List.map_append, String.join_append, String.utf8ByteSize_append]
      simp
      omega

/-- The character stands in none of the segments. -/
def IsFreeOf (path : FilePath) (char : Char) : Prop :=
  ∀ segment ∈ path.segments, char ∉ segment.toList

/-- The character that ends a text for the system stands nowhere in the path. -/
abbrev IsNulFree (path : FilePath) : Prop :=
  path.IsFreeOf (Char.ofNat 0)

theorem isFreeOf_slash_ofText (text : String) : (ofText text).IsFreeOf '/' := by
  intro segment member
  obtain ⟨part, found, rfl⟩ := List.mem_map.mp member
  rw [String.toList_ofList]
  exact Text.notMem_of_mem_splitAt found

theorem isNulFree_iff {path : FilePath} : path.IsNulFree ↔ Char.ofNat 0 ∉ path.text.toList := by
  rw [IsNulFree, IsFreeOf, text]
  generalize path.segments = segments
  induction segments with
  | nil => simp
  | cons first segments ih =>
      cases segments with
      | nil => simp
      | cons second segments =>
          refine List.forall_mem_cons.trans ((and_congr_right fun _ => ih).trans ?_)
          rw [String.intercalate_cons_cons]
          simp

theorem isFreeOf_child {char : Char} {directory : FilePath} {name : String} :
    (directory.child name).IsFreeOf char ↔ directory.IsFreeOf char ∧ char ∉ name.toList := by
  have same : (∀ segment ∈ directory.lead, char ∉ segment.toList) ↔ directory.IsFreeOf char := by
    rw [IsFreeOf, lead]
    split
    next slash =>
      obtain ⟨before, split⟩ := List.getLast?_eq_some_iff.mp slash
      simp [split, or_imp, forall_and]
    next => rfl
  rw [← same, IsFreeOf, segments_child, List.forall_mem_append]
  simp

/-- The path of what the names lead to from the base on. -/
def below (base : FilePath) (names : List String) : FilePath :=
  names.foldl child base

section Below

variable (base : FilePath) {names : List String}

theorem below_append_singleton (name : String) :
    base.below (names ++ [name]) = (base.below names).child name := by
  simp [below]

theorem lead_below (nonempty : ∀ name ∈ names, name ≠ "") :
    (base.below names).lead = base.lead ++ names := by
  induction names using List.reverseRecOn with
  | nil => simp [below]
  | append_singleton names name ih =>
      obtain ⟨before, last⟩ := List.forall_mem_append.mp nonempty
      rw [below_append_singleton, lead_child _ (last name (by simp)), ih before,
        List.append_assoc]

theorem segments_below (someName : names ≠ []) (nonempty : ∀ name ∈ names, name ≠ "") :
    (base.below names).segments = base.lead ++ names := by
  obtain ⟨before, last, rfl⟩ := List.eq_nil_or_concat names |>.resolve_left someName
  rw [List.concat_eq_append] at nonempty ⊢
  rw [below_append_singleton, segments_child,
    lead_below _ (List.forall_mem_append.mp nonempty).1, List.append_assoc]

/-- Below a base the names follow the text before them. -/
theorem size_text_below (someName : names ≠ []) (nonempty : ∀ name ∈ names, name ≠ "") :
    (base.below names).text.utf8ByteSize =
      base.leadText.utf8ByteSize + (FilePath.text ⟨names⟩).utf8ByteSize := by
  have equal : base.below names = ⟨base.lead ++ names⟩ :=
    congrArg FilePath.mk (segments_below base someName nonempty)
  rw [equal, text_append _ someName, ← leadText, String.utf8ByteSize_append]

theorem isFreeOf_below {base : FilePath} {char : Char} (free : base.IsFreeOf char)
    (others : ∀ name ∈ names, char ∉ name.toList) : (base.below names).IsFreeOf char := by
  induction names using List.reverseRecOn with
  | nil => exact free
  | append_singleton names name ih =>
      obtain ⟨before, last⟩ := List.forall_mem_append.mp others
      rw [below_append_singleton, isFreeOf_child]
      exact ⟨ih before, last name (List.mem_singleton_self name)⟩

theorem isRooted_below (names : List String) : (base.below names).isRooted = base.isRooted := by
  induction names using List.reverseRecOn with
  | nil => rfl
  | append_singleton names name ih => rw [below_append_singleton, isRooted_child, ih]

/-! ### Seen from the base -/

theorem laterComponents_append (first second : List String) :
    laterComponents (first ++ second) = laterComponents first ++ laterComponents second := by
  simp [laterComponents]

theorem laterComponents_singleton {name : String} (meaningful : isMeaningful name = true)
    (notUp : name ≠ "..") : laterComponents [name] = [.name name] := by
  simp [laterComponents, meaningful, Component.ofSegment, notUp]

/-- The components that the first segment of a path stands for. -/
def firstComponents (rooted : Bool) (first : String) : List Component :=
  if rooted then [.root]
  else if first = "" then []
  else if first = "." then [.here]
  else [.ofSegment first]

theorem components_of_segments {path : FilePath} {first : String} {rest : List String}
    (split : path.segments = first :: rest) :
    path.components = firstComponents path.isRooted first ++ laterComponents rest := by
  simp only [components, split]
  rfl

section Segments

variable {path : FilePath} {first : String} {rest : List String}
  (split : path.segments = first :: rest) (more : rest ≠ [])

include split more

theorem isRooted_of_segments : path.isRooted = decide (first = "") := by
  obtain ⟨second, others, rfl⟩ := List.exists_cons_of_ne_nil more
  rw [isRooted, split]

/-- Before other segments the first one stands for one component. -/
theorem length_firstComponents : (firstComponents path.isRooted first).length = 1 := by
  rw [isRooted_of_segments split more]
  by_cases empty : first = ""
  · simp [firstComponents, empty]
  · by_cases here : first = "." <;> simp [firstComponents, empty, here]

end Segments

theorem laterComponents_eq_nil_iff {segments : List String} :
    laterComponents segments = [] ↔ ∀ segment ∈ segments, isMeaningful segment = false := by
  simp [laterComponents]

/-- A path without segments before a child has no components; else the first one of these
segments stands for one component. -/
theorem lead_cases (path : FilePath) :
    (path.lead = [] ∧ path.isRooted = false ∧ path.components = []) ∨
      ∃ first more, path.lead = first :: more ∧
        (firstComponents path.isRooted first).length = 1 ∧
        path.components = firstComponents path.isRooted first ++ laterComponents more := by
  obtain ⟨segments⟩ := path
  cases segments with
  | nil => exact .inl ⟨rfl, rfl, rfl⟩
  | cons first rest =>
      have parts := @components_of_segments ⟨first :: rest⟩ first rest rfl
      rcases List.eq_nil_or_concat rest with rfl | ⟨more, last, rfl⟩
      · by_cases empty : first = ""
        · subst empty
          exact .inl ⟨rfl, rfl, rfl⟩
        · refine .inr ⟨first, [], by simp [lead, empty], ?_, parts⟩
          simp only [firstComponents, isRooted, empty, if_false, Bool.false_eq_true]
          split <;> rfl
      · rw [List.concat_eq_append] at parts ⊢
        refine .inr ⟨first, if last = "" then more else more ++ [last], ?_,
          length_firstComponents rfl (by simp), ?_⟩
        · rw [lead, ← List.cons_append, List.getLast?_concat, List.dropLast_concat]
          by_cases slash : last = "" <;> simp [slash]
        · rw [parts]
          split
          next slash => simp [slash, laterComponents, isMeaningful]
          next => rfl

/-- Without components before it a path is seen as it stands. -/
theorem join_of_components_eq_nil {base : FilePath} (none : base.components = [])
    (path : FilePath) : base.join path = path := by
  by_cases rooted : path.isRooted = true
  · rw [join, if_pos rooted]
  · rcases base.lead_cases with ⟨empty, -, -⟩ | ⟨first, more, -, single, parts⟩
    · have segments := segments_join base (Bool.not_eq_true _ ▸ rooted)
      rw [empty, List.nil_append] at segments
      exact congrArg FilePath.mk segments
    · rw [parts, List.append_eq_nil_iff] at none
      rw [none.1] at single
      cases single

/-- After other components the first segment of a path means no more than the later ones do. -/
theorem components_join {base path : FilePath} (filled : base.components ≠ [])
    (someSegment : path.segments ≠ []) (relative : path.isRooted = false) :
    (base.join path).components = base.components ++ laterComponents path.segments := by
  rcases base.lead_cases with ⟨-, -, none⟩ | ⟨first, more, split, -, parts⟩
  · exact absurd none filled
  · have segments := segments_join base relative
    rw [split, List.cons_append] at segments
    rw [components_of_segments segments, isRooted_join base relative someSegment, parts,
      laterComponents_append, List.append_assoc]

/-- The name of a child is the component that comes after those of the directory. -/
theorem components_child (directory : FilePath) {name : String}
    (meaningful : isMeaningful name = true) (notUp : name ≠ "..") :
    (directory.child name).components = directory.components ++ [.name name] := by
  by_cases none : directory.components = []
  · simp only [FilePath.isMeaningful, Bool.and_eq_true, decide_eq_true_eq] at meaningful
    rw [child, join_of_components_eq_nil none, none]
    simp [components, ofName, isRooted, laterComponents, meaningful, Component.ofSegment, notUp]
  · have joined : (directory.child name).components =
        directory.components ++ laterComponents [name] :=
      components_join none (List.cons_ne_nil _ _) rfl
    rw [joined, laterComponents_singleton meaningful notUp]

/-- Below a base the names are the components that come after those of the base. -/
theorem components_below (base : FilePath) (valid : ∀ name ∈ names, IsName name) :
    (base.below names).components = base.components ++ names.map .name := by
  induction names using List.reverseRecOn with
  | nil => simp [below]
  | append_singleton names name ih =>
      obtain ⟨before, last⟩ := List.forall_mem_append.mp valid
      have lastValid := last name (List.mem_singleton_self name)
      rw [below_append_singleton, components_child _ lastValid.isMeaningful lastValid.not_up,
        ih before, List.map_append, List.append_assoc]
      rfl

theorem trimEnd_append {before : List String} {last : String}
    (meaningful : isMeaningful last = true) : trimEnd (before ++ [last]) = before ++ [last] := by
  simp [trimEnd, meaningful]

theorem trimEnd_of_meaningless {segments : List String}
    (meaningless : ∀ segment ∈ segments, isMeaningful segment = false) : trimEnd segments = [] := by
  simpa [trimEnd] using meaningless

theorem trimEnd_names (valid : ∀ name ∈ names, IsName name) : trimEnd names = names := by
  rcases List.eq_nil_or_concat names with rfl | ⟨before, last, rfl⟩
  · rfl
  · rw [List.concat_eq_append] at valid ⊢
    exact trimEnd_append (valid last (by simp)).isMeaningful

/-- What is dropped at the end is all that is missing. -/
theorem exists_append_of_dropWhile_reverse (drops : String → Bool) (segments : List String) :
    ∃ after, (∀ segment ∈ after, drops segment = true) ∧
      segments = (segments.reverse.dropWhile drops).reverse ++ after := by
  refine ⟨(segments.reverse.takeWhile drops).reverse, ?_, ?_⟩
  · intro segment member
    exact List.mem_takeWhile_imp (List.mem_reverse.mp member)
  · rw [← List.reverse_append, List.takeWhile_append_dropWhile, List.reverse_reverse]

theorem exists_eq_trimEnd_append (segments : List String) :
    ∃ after, (∀ segment ∈ after, isMeaningful segment = false) ∧
      segments = trimEnd segments ++ after := by
  obtain ⟨after, meaningless, split⟩ :=
    exists_append_of_dropWhile_reverse (!isMeaningful ·) segments
  exact ⟨after, by simpa using meaningless, split⟩

theorem mem_of_mem_trimEnd {segments : List String} {segment : String}
    (member : segment ∈ trimEnd segments) : segment ∈ segments := by
  obtain ⟨after, -, split⟩ := exists_eq_trimEnd_append segments
  rw [split]
  exact List.mem_append_left _ member

theorem dropWhile_dropMeaningful (segments : List String) (someName : names ≠ [])
    (valid : ∀ name ∈ names, IsName name) :
    (dropMeaningful (laterComponents segments).length (segments ++ names)).dropWhile
      (!isMeaningful ·) = names := by
  induction segments with
  | nil =>
      obtain ⟨first, names, rfl⟩ := List.exists_cons_of_ne_nil someName
      simp [laterComponents, dropMeaningful, (valid first List.mem_cons_self).isMeaningful]
  | cons segment segments ih =>
      by_cases meaning : isMeaningful segment = true
      · simpa [laterComponents, meaning, dropMeaningful] using ih
      · rw [laterComponents, List.filter_cons_of_neg meaning, ← laterComponents]
        cases count : (laterComponents segments).length with
        | zero => simpa [dropMeaningful, meaning, count] using ih
        | succ count' => simpa [dropMeaningful, meaning, count] using ih

/-- What lies below a base is seen from it under its names. -/
theorem relativeTo_below (base : FilePath) (someName : names ≠ [])
    (valid : ∀ name ∈ names, IsName name) : (base.below names).relativeTo base = ⟨names⟩ := by
  have segments := base.segments_below someName fun name member => (valid name member).nonempty
  have begins : base.components.isPrefixOf (base.below names).components = true := by
    rw [List.isPrefixOf_iff_prefix, components_below base valid]
    exact List.prefix_append _ _
  rw [relativeTo, if_pos begins]
  rcases base.lead_cases with ⟨empty, -, none⟩ | ⟨first, more, split, single, parts⟩
  · obtain ⟨first, names, rfl⟩ := List.exists_cons_of_ne_nil someName
    rw [empty, List.nil_append] at segments
    simp only [none, List.length_nil, dropComponents, segments,
      trimEnd_names (List.forall_mem_cons.mp valid).2]
  · have count : base.components.length = (laterComponents more).length + 1 := by
      rw [parts, List.length_append, single, Nat.add_comm]
    rw [split, List.cons_append] at segments
    simp only [count, dropComponents, segments, dropWhile_dropMeaningful more someName valid,
      trimEnd_names valid]

end Below

/-! ### The directory above -/

/-- The path of the directory to which the segments before a name lead. -/
def ofLead : List String → FilePath
  | [] => empty
  | first :: rest =>
    if trimEnd rest = [] then ⟨if first = "" then ["", ""] else [first]⟩
    else ⟨first :: trimEnd rest⟩

theorem parent?_of_segments {path : FilePath} {before : List String} {name : String}
    (split : path.segments = before ++ [name]) (meaningful : isMeaningful name = true) :
    path.parent? = some (ofLead before) := by
  have nonempty : name ≠ "" := by
    rintro rfl
    cases meaningful
  obtain ⟨segments⟩ := path
  subst split
  cases before with
  | nil => simp [parent?, trimEnd, ofLead, nonempty]
  | cons first rest =>
      simp only [parent?, List.cons_append, trimEnd_append meaningful]
      rw [ofLead]
      cases kept : trimEnd rest <;> simp [kept]

theorem size_join_append_le (first second : List String) :
    (String.join (first.map (· ++ "/"))).utf8ByteSize ≤
      (String.join ((first ++ second).map (· ++ "/"))).utf8ByteSize := by
  rw [List.map_append, String.join_append, String.utf8ByteSize_append]
  exact Nat.le_add_right _ _

theorem size_leadText_le (path : FilePath) :
    path.leadText.utf8ByteSize ≤ (String.join (path.segments.map (· ++ "/"))).utf8ByteSize := by
  rw [leadText, lead]
  split
  next slash =>
    obtain ⟨before, split⟩ := List.getLast?_eq_some_iff.mp slash
    rw [split, List.dropLast_concat]
    exact size_join_append_le before [""]
  next => exact Nat.le_refl _

/-- The directory above is never spelled longer than by the segments before the name. -/
theorem size_leadText_ofLead_le (before : List String) :
    (ofLead before).leadText.utf8ByteSize ≤
      (String.join (before.map (· ++ "/"))).utf8ByteSize := by
  cases before with
  | nil => exact Nat.zero_le _
  | cons first rest =>
      obtain ⟨after, -, split⟩ := exists_eq_trimEnd_append rest
      have longer := size_join_append_le (first :: trimEnd rest) after
      rw [List.cons_append, ← split] at longer
      apply Nat.le_trans _ longer
      rw [ofLead]
      split
      next none =>
        rw [none]
        by_cases root : first = "" <;> simp [leadText, lead, root]
      next => exact size_leadText_le _

/-- Above a name below a directory there is the directory itself, when a name leads to it. -/
theorem parent?_child_child (base : FilePath) {first second : String} (firstValid : IsName first)
    (secondValid : IsName second) :
    ((base.child first).child second).parent? = some (base.child first) := by
  have segments : ((base.child first).child second).segments =
      (base.lead ++ [first]) ++ [second] := by
    rw [segments_child, lead_child base firstValid.nonempty]
  rw [parent?_of_segments segments secondValid.isMeaningful]
  congr 1
  have equal : base.child first = ⟨base.lead ++ [first]⟩ :=
    congrArg FilePath.mk (segments_child base first)
  rw [equal]
  cases base.lead with
  | nil => simp [ofLead, trimEnd, firstValid.nonempty]
  | cons lead rest => simp [ofLead, trimEnd_append firstValid.isMeaningful]

theorem mem_segments_of_parent? {path above : FilePath} (parent : path.parent? = some above)
    {segment : String} (member : segment ∈ above.segments) :
    segment ∈ path.segments ∨ segment = "" := by
  rw [FilePath.parent?] at parent
  split at parent
  · cases parent
  next first rest split =>
    have inRest {kept : List String} (subset : kept ⊆ rest)
        (found : segment ∈ first :: kept) : segment ∈ path.segments := by
      rw [split]
      exact List.cons_subset_cons first subset found
    split at parent
    · split at parent
      · cases parent
      · cases parent
        exact .inr (List.mem_singleton.mp member)
    · have trimmed : trimEnd (trimEnd rest).dropLast ⊆ rest := fun _ found =>
        mem_of_mem_trimEnd (List.dropLast_subset _ (mem_of_mem_trimEnd found))
      split at parent
      · cases parent
        split at member
        · exact .inr (by simpa using member)
        · exact .inl (inRest (List.nil_subset _) member)
      · cases parent
        exact .inl (inRest trimmed member)

theorem IsFreeOf.parent? {char : Char} {path above : FilePath} (free : path.IsFreeOf char)
    (parent : path.parent? = some above) : above.IsFreeOf char := by
  intro segment member
  rcases mem_segments_of_parent? parent member with inside | rfl
  · exact free segment inside
  · simp

/-! ### Extensions -/

theorem drop_length_takeWhile {α : Type} (keeps : α → Bool) (items : List α) :
    items.drop (items.takeWhile keeps).length = items.dropWhile keeps := by
  conv_lhs => rw [← List.takeWhile_append_dropWhile (p := keeps) (l := items)]
  exact List.drop_left' (by rw [List.takeWhile_append_dropWhile])

theorem extension?_eq_some_iff {name ending : String} :
    extension? name = some ending ↔
      '.' ∉ ending.toList ∧ ∃ stem, stem ≠ "" ∧ name = stem ++ "." ++ ending := by
  have dot : ".".toList = ['.'] := by decide
  -- The name is read backwards, from its end to the last dot.
  simp only [extension?, drop_length_takeWhile]
  constructor
  · intro found
    have whole := List.takeWhile_append_dropWhile (p := (· ≠ '.')) (l := name.toList.reverse)
    have stops := List.head?_dropWhile_not (· ≠ '.') name.toList.reverse
    split at found
    · cases found
    · cases found
    next noEnd noStem =>
      cases found
      constructor
      · rw [String.toList_ofList, List.mem_reverse]
        intro member
        simpa only [ne_eq, not_true_eq_false, decide_false, Bool.false_eq_true] using
          List.mem_takeWhile_imp member
      · match kept : name.toList.reverse.dropWhile (· ≠ '.') with
        | [] => exact absurd kept noEnd
        | [first] => exact absurd kept (noStem first)
        | first :: second :: more =>
            rw [kept] at whole stops
            obtain rfl : first = '.' := by simpa using stops
            refine ⟨String.ofList (second :: more).reverse, by simp, ?_⟩
            rw [String.ext_iff]
            simpa [dot] using (congrArg List.reverse whole).symm
  · rintro ⟨whole, stem, nonempty, rfl⟩
    have ends : ∀ char ∈ ending.toList.reverse, decide (char ≠ '.') = true := by
      intro char member
      rw [List.mem_reverse] at member
      simpa using ne_of_mem_of_not_mem member whole
    have reversed : (stem ++ "." ++ ending).toList.reverse =
        ending.toList.reverse ++ '.' :: stem.toList.reverse := by
      simp [dot]
    obtain ⟨last, others, split⟩ : ∃ last others, stem.toList.reverse = last :: others :=
      List.exists_cons_of_ne_nil (by simpa using nonempty)
    rw [reversed, List.takeWhile_append_of_pos ends, List.dropWhile_append_of_pos ends]
    simp [split]

end FilePath

end PureService
