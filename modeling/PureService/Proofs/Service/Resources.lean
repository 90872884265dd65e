import Mathlib.Algebra.GroupWithZero.Nat
import PureService.Proofs.Service.Source

/-!
# The resources of a generated source

A source opens one resource for each name.  A name that goes on after a line feed
can open more of them, and then the source has more resources than names.  Names
that fit into one line are found again in the source, and so are the settings.
-/

namespace PureService.Service

/-! ### Counting resources -/

/-- How many resources a text opens where it is written into a line: one with each of its lines,
but the first one, that opens a resource. -/
def forged (text : String) : Nat :=
  (Text.splitAt '\n' text.toList).tail.countP opensResource

section Counting

variable {opens : Bool} {before after : String}

theorem countP_splitAt_append {stop : Char} {rest : List Char} (single : '\n' ∉ stop :: rest)
    (visible : Text.isBlank stop = false) (none : stop ∉ resourceKeyword.toList)
    (text : List Char) :
    (Text.splitAt '\n' (text ++ stop :: rest)).countP opensResource =
      (Text.splitAt '\n' text).countP opensResource := by
  induction text using Text.induct_splitAt '\n' with
  | whole part noFeed =>
      -- What follows the text belongs to its last line.
      rw [Text.splitAt_of_notMem (List.not_mem_append noFeed single),
        Text.splitAt_of_notMem noFeed, List.countP_singleton, List.countP_singleton,
        opensResource_append_cons visible none]
  | cut part more noFeed ih =>
      rw [List.append_assoc, List.cons_append, Text.splitAt_append noFeed, List.countP_cons, ih,
        Text.splitAt_append noFeed, List.countP_cons]

/-- A line opens the resource that its beginning opens, and those of what is written into it. -/
theorem IsFrame.length_openers (frame : IsFrame opens before after) (text : String) :
    (openers (before ++ text ++ after)).length = (if opens then 1 else 0) + forged text := by
  obtain ⟨stop, rest, split, visible, none⟩ := frame.stops
  have singleAfter := frame.singleAfter
  have counted : opensResource ∘ Text.dropCarriageReturn = opensResource :=
    funext opensResource_dropCarriageReturn
  rw [split] at singleAfter
  rw [openers, ← List.countP_eq_length_filter, List.countP_map, counted, forged,
    String.toList_append, String.toList_append, split]
  -- The part before the text stands in the first line and the part after it in the last one.
  by_cases feed : '\n' ∈ text.toList
  · obtain ⟨first, more, cut, noFeed⟩ := List.eq_append_cons_of_mem feed
    have whole : before.toList ++ (first ++ '\n' :: more) ++ stop :: rest =
        before.toList ++ first ++ '\n' :: (more ++ stop :: rest) := by simp
    rw [cut, whole, Text.splitAt_append (List.not_mem_append frame.singleBefore noFeed),
      Text.splitAt_append noFeed, List.countP_cons, frame.begins,
      countP_splitAt_append singleAfter visible none, List.tail_cons, Nat.add_comm]
  · have single := List.not_mem_append (List.not_mem_append frame.singleBefore feed) singleAfter
    rw [Text.splitAt_of_notMem single, Text.splitAt_of_notMem feed, List.countP_singleton,
      List.append_assoc, frame.begins]
    rfl

theorem length_openers_resource (name : String) :
    (openers (openingLine name) ++ openers (callLine name)).length = 1 + 2 * forged name := by
  have opening : (openers (openingLine name)).length = 1 + forged name :=
    isFrame_opening.length_openers name
  have call : (openers (callLine name)).length = 0 + forged name :=
    isFrame_call.length_openers name
  rw [List.length_append, opening, call]
  omega

theorem sum_map_length_openers (names : List String) :
    (names.map fun name => (openers (openingLine name) ++ openers (callLine name)).length).sum =
      names.length + 2 * (names.map forged).sum := by
  induction names with
  | nil => rfl
  | cons name names ih =>
      rw [List.map_cons, List.sum_cons, ih, length_openers_resource, List.map_cons, List.sum_cons,
        List.length_cons]
      omega

theorem countP_lines_ofNames (config : ServiceConfig) (names : List String) :
    (Text.lines (sourceOf (.ofNames config names)).toList).countP opensResource =
      names.length + (forged config.transportOrg + 2 * (names.map forged).sum) := by
  have resources : (ServicePlan.ofNames config names).resources =
      names.map fun name => ⟨name, name⟩ := rfl
  have organization :
      (openers ("import " ++ (ServicePlan.ofNames config names).transportOrg ++ "/http;")).length =
        0 + forged config.transportOrg :=
    isFrame_import.length_openers config.transportOrg
  rw [List.countP_eq_length_filter, filter_lines_sourceOf, List.length_append, organization,
    List.length_flatMap, resources, List.map_map, Function.comp_def, sum_map_length_openers]
  omega

end Counting

/-- A service has one resource for each name, and those that the name of the organization and the
names open in lines of their own, where each name is written twice.  So it has one for each name
exactly if they open none. -/
theorem resourceCount_eq_length_add {config : ServiceConfig} {names : List String}
    {service : Service} (generated : ofNames config names = .ok service) :
    service.resourceCount =
        names.length + (forged config.transportOrg + 2 * (names.map forged).sum) ∧
      (service.resourceCount = names.length ↔
        ∀ text ∈ config.transportOrg :: names, forged text = 0) := by
  obtain ⟨-, rfl⟩ := ofNames_eq_ok_iff.mp generated
  have count := countP_lines_ofNames config names
  rw [← resourceCount_eq ⟨_, config.fileName⟩] at count
  have none : (names.map forged).sum = 0 ↔ ∀ name ∈ names, forged name = 0 := by
    rw [List.sum_eq_zero_iff_forall_eq_nat, List.forall_mem_map]
  refine ⟨count, ?_⟩
  rw [count, List.forall_mem_cons, ← none]
  omega

/-- The second name goes on after a line feed, but does not begin like a resource there. -/
theorem resourceCount_of_two :
    (ofNames .default ["f", "g\n\tresource function get h"]).map resourceCount = .ok 2 := by
  have generated := ofNames_eq_ok .default
    (by decide : ∀ name ∈ ["f", "g\n\tresource function get h"], Text.isAllBlank name = false)
  have none : ∀ text ∈ ["ballerina", "f", "g\n\tresource function get h"], forged text = 0 := by
    decide
  rw [generated]
  exact congrArg Except.ok ((resourceCount_eq_length_add generated).2.mpr none)

/-- A single name opens three resources. -/
theorem resourceCount_ne_length :
    (ofNames .default ["f\nresource function post g"]).map resourceCount = .ok 3 ∧
      ["f\nresource function post g"].length = 1 := by
  have generated := ofNames_eq_ok .default
    (by decide : ∀ name ∈ ["f\nresource function post g"], Text.isAllBlank name = false)
  refine ⟨?_, rfl⟩
  rw [generated, Except.map, resourceCount_eq, countP_lines_ofNames]
  decide

/-! ### Reading a source back -/

/-- Every name can be seen, and neither a name nor that of the organization goes on in another
line. -/
structure FitsLines (config : ServiceConfig) (names : List String) : Prop where
  organization : '\n' ∉ config.transportOrg.toList
  visible : ∀ name ∈ names, Text.isAllBlank name = false
  single : ∀ name ∈ names, '\n' ∉ name.toList

/-- The name in a line that opens a resource, between the fixed parts of the line. -/
def nameOfOpening? (line : List Char) : Option String := do
  let rest ← ("    " ++ resourceKeyword).toList.isPrefixOf? line
  let name ← "(@http:Payload json payload) returns json|error \x7b".toList.isSuffixOf? rest
  return String.ofList name

/-- The names in all lines of a source that open resources. -/
def readNames? (source : String) : Option (List String) :=
  ((Text.lines source.toList).filter opensResource).mapM nameOfOpening?

section ReadingBack

variable {config other : ServiceConfig} {names otherNames : List String}

theorem nameOfOpening?_openingLine (name : String) :
    nameOfOpening? (openingLine name).toList = some name := by
  have begins : ("    " ++ resourceKeyword).toList.isPrefixOf? (openingLine name).toList =
      some (name.toList ++ "(@http:Payload json payload) returns json|error \x7b".toList) := by
    rw [List.isPrefixOf?_eq_some_iff_append_eq, openingLine, ← List.append_assoc,
      ← String.toList_append, ← String.toList_append]
  have ends : "(@http:Payload json payload) returns json|error \x7b".toList.isSuffixOf?
      (name.toList ++ "(@http:Payload json payload) returns json|error \x7b".toList) =
      some name.toList := by
    rw [List.isSuffixOf?_eq_some_iff_append_eq]
  rw [nameOfOpening?, begins, Option.bind_eq_bind, Option.bind_some, ends]
  exact congrArg some String.ofList_toList

theorem mapM_nameOfOpening? (names : List String) :
    (names.map fun name => (openingLine name).toList).mapM nameOfOpening? = some names := by
  induction names with
  | nil => rfl
  | cons name names ih =>
      rw [List.map_cons, List.mapM_cons, nameOfOpening?_openingLine, ih]
      rfl

theorem FitsLines.readNames? (fits : FitsLines config names) :
    readNames? (sourceOf (.ofNames config names)) = some names := by
  have organization :
      openers ("import " ++ (ServicePlan.ofNames config names).transportOrg ++ "/http;") = [] :=
    isFrame_import.openers_eq fits.organization
  have resources : (ServicePlan.ofNames config names).resources =
      names.map fun name => ⟨name, name⟩ := rfl
  have opened : ∀ name ∈ names,
      openers (openingLine name) ++ openers (callLine name) = [(openingLine name).toList] := by
    intro name member
    have opening : openers (openingLine name) = [(openingLine name).toList] :=
      isFrame_opening.openers_eq (fits.single name member)
    have call : openers (callLine name) = [] := isFrame_call.openers_eq (fits.single name member)
    rw [opening, call, List.append_nil]
  rw [Service.readNames?, filter_lines_sourceOf, organization, List.nil_append, resources,
    List.flatMap_map, List.flatMap_congr opened, ← List.map_eq_flatMap, mapM_nameOfOpening?]

theorem forall_mem_intercalate {holds : String → Prop} {blocks : List (List String)}
    (blank : holds "") (each : ∀ block ∈ blocks, ∀ line ∈ block, holds line) :
    ∀ line ∈ [""].intercalate blocks, holds line := by
  induction blocks with
  | nil => simp
  | cons block blocks ih =>
      obtain ⟨first, others⟩ := List.forall_mem_cons.mp each
      cases blocks with
      | nil => rwa [List.intercalate_singleton]
      | cons next blocks =>
          rw [List.intercalate_cons_cons, List.forall_mem_append, List.forall_mem_append,
            List.forall_mem_singleton]
          exact ⟨⟨first, blank⟩, ih others⟩

theorem FitsLines.isPlain (fits : FitsLines config names) :
    ∀ line ∈ sourceLines (.ofNames config names), IsPlain line := by
  have blank : IsPlain "" := ⟨by decide, by decide⟩
  have closing : IsPlain "\x7d" := ⟨by decide, by decide⟩
  have head : ∀ line ∈ headLines (.ofNames config names), IsPlain line := by
    have title : IsPlain "# A service representing a network-accessible API" :=
      ⟨by decide, by decide⟩
    have opening : IsPlain "service / on new http:Listener(port) \x7b" := ⟨by decide, by decide⟩
    have port := notMem_toString config.port.toNat
    simp only [headLines, List.forall_mem_cons]
    exact ⟨isFrame_import.isPlain fits.organization, blank, title,
      isFrame_description.isPlain port, blank, isFrame_port.isPlain port, blank, opening,
      List.forall_mem_nil _⟩
  have blocks : ∀ block ∈ (ServicePlan.ofNames config names).resources.map resourceLines,
      ∀ line ∈ block, IsPlain line := by
    have resourceClosing : IsPlain "    \x7d" := ⟨by decide, by decide⟩
    rw [ServicePlan.ofNames, List.map_map, List.forall_mem_map]
    intro name member
    have single := fits.single name member
    simp only [Function.comp_apply, resourceLines, List.forall_mem_cons]
    exact ⟨isFrame_opening.isPlain single, isFrame_call.isPlain single, resourceClosing,
      List.forall_mem_nil _⟩
  rw [sourceLines, List.forall_mem_append, List.forall_mem_append, List.forall_mem_singleton]
  exact ⟨⟨head, forall_mem_intercalate blank blocks⟩, closing⟩

theorem FitsLines.lines (fits : FitsLines config names) :
    Text.lines (sourceOf (.ofNames config names)).toList =
      (sourceLines (.ofNames config names)).map String.toList := by
  rw [sourceOf_eq, lines_ended, List.map_eq_flatMap]
  exact List.flatMap_congr fun line member => (fits.isPlain line member).cut

theorem opensResource_headLines (plan : ServicePlan) :
    ∀ line ∈ headLines plan, opensResource line.toList = false := by
  have blank : opensResource "".toList = false := rfl
  have title : opensResource "# A service representing a network-accessible API".toList = false :=
    rfl
  have opening : opensResource "service / on new http:Listener(port) \x7b".toList = false := rfl
  simp only [headLines, List.forall_mem_cons]
  exact ⟨isFrame_import.opensResource_eq _, blank, title, isFrame_description.opensResource_eq _,
    blank, isFrame_port.opensResource_eq _, blank, opening, List.forall_mem_nil _⟩

theorem append_between_injective {before first second after : String}
    (same : before ++ first ++ after = before ++ second ++ after) : first = second := by
  rw [String.append_left_inj, String.append_right_inj] at same
  exact same

theorem headLines_injective {plan otherPlan : ServicePlan}
    (same : headLines plan = headLines otherPlan) :
    plan.transportOrg = otherPlan.transportOrg ∧ plan.port = otherPlan.port := by
  simp only [headLines, List.cons.injEq] at same
  obtain ⟨organization, -, -, -, -, port, -⟩ := same
  have digits := append_between_injective port
  rw [Nat.toString_eq_repr, Nat.toString_eq_repr, Nat.repr_eq_ofList_toDigits,
    Nat.repr_eq_ofList_toDigits, String.ofList_inj] at digits
  have read := congrArg (Nat.ofDigitChars 10 · 0) digits
  rw [Nat.ofDigitChars_ten_toDigits, Nat.ofDigitChars_ten_toDigits, UInt16.toNat_inj] at read
  exact ⟨append_between_injective organization, read⟩

theorem FitsLines.eq_of_sourceOf_eq (fits : FitsLines config names)
    (otherFits : FitsLines other otherNames)
    (same : sourceOf (.ofNames config names) = sourceOf (.ofNames other otherNames)) :
    config.transportOrg = other.transportOrg ∧ config.port = other.port ∧ names = otherNames := by
  have sameLines :
      sourceLines (.ofNames config names) = sourceLines (.ofNames other otherNames) := by
    have read := fits.lines
    rw [same, otherFits.lines] at read
    exact (List.map_injective_iff.mpr fun _ _ => String.toList_inj.mp) read.symm
  have sameNames : some names = some otherNames := by
    rw [← fits.readNames?, same, otherFits.readNames?]
  rw [sourceLines, sourceLines, List.append_assoc, List.append_assoc] at sameLines
  obtain ⟨organization, port⟩ := headLines_injective (List.append_inj sameLines rfl).1
  exact ⟨organization, port, Option.some.inj sameNames⟩

end ReadingBack

/-- Services whose names fit into lines are generated, and their sources tell them apart.  The
names stand in the lines that open resources, each of which is followed by the line that calls
the function of that name, and a blank line separates a resource from the next one. -/
theorem source_determines_exposure {config other : ServiceConfig} {names otherNames : List String}
    (fits : FitsLines config names) (otherFits : FitsLines other otherNames) :
    ∃ service otherService,
      ofNames config names = .ok service ∧ ofNames other otherNames = .ok otherService ∧
        (service.source = otherService.source →
          config.transportOrg = other.transportOrg ∧ config.port = other.port ∧
            names = otherNames) ∧
        readNames? service.source = some names ∧
        ∃ head, (∀ line ∈ head, opensResource line.toList = false) ∧
          Text.lines service.source.toList =
            (head ++ [""].intercalate (names.map fun name =>
              [openingLine name, callLine name, "    \x7d"]) ++ ["\x7d"]).map String.toList := by
  refine ⟨_, _, ofNames_eq_ok config fits.visible, ofNames_eq_ok other otherFits.visible,
    fits.eq_of_sourceOf_eq otherFits, fits.readNames?, headLines (.ofNames config names),
    opensResource_headLines _, ?_⟩
  rw [fits.lines, sourceLines, ServicePlan.ofNames, List.map_map]
  rfl

/-- Names that are parts of lines of the source themselves. -/
def fragmentNames : List String :=
  ["f", "f", "resource function post g(@http:Payload json payload) returns json|error \x7b", "\x7d"]

/-- Such names are found again, and the source is another one for any other settings. -/
theorem source_determines_exposure_fragments :
    FitsLines .default fragmentNames ∧ FitsLines ⟨80, "ballerina", "service"⟩ fragmentNames ∧
      (ofNames .default fragmentNames).map (readNames? ·.source) = .ok (some fragmentNames) ∧
      ofNames .default fragmentNames ≠ ofNames ⟨80, "ballerina", "service"⟩ fragmentNames := by
  have fits : FitsLines .default fragmentNames := ⟨by decide, by decide, by decide⟩
  have otherFits : FitsLines ⟨80, "ballerina", "service"⟩ fragmentNames :=
    ⟨by decide, by decide, by decide⟩
  obtain ⟨service, otherService, generated, otherGenerated, tellsApart, read, -⟩ :=
    source_determines_exposure fits otherFits
  refine ⟨fits, otherFits, ?_, ?_⟩
  · rw [generated]
    exact congrArg Except.ok read
  · rw [generated, otherGenerated]
    intro same
    obtain ⟨-, port, -⟩ := tellsApart (congrArg Service.source (Except.ok.inj same))
    exact absurd port (by decide)

end PureService.Service
