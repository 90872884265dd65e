import PureService.Proofs.Text.Blank
import PureService.Proofs.Text.Line
import PureService.Service.Basic

/-!
# The lines of a generated source

A source is put together from lines into which the settings and the names are
written as they stand.  It has no other lines than these as long as nothing that
is written into them ends a line.
-/

namespace PureService.Service

/-! ### Putting a source together -/

/-- The text of lines that are all ended. -/
def ended (lines : List String) : String :=
  String.join (lines.map (· ++ "\n"))

/-- The lines before the resources. -/
def headLines (plan : ServicePlan) : List String :=
  ["import " ++ plan.transportOrg ++ "/http;",
    "",
    "# A service representing a network-accessible API",
    "# bound to default port `" ++ toString plan.port.toNat ++ "`.",
    "",
    "configurable int port = " ++ toString plan.port.toNat ++ ";",
    "",
    "service / on new http:Listener(port) \x7b"]

/-- The line that opens the resource at a path. -/
def openingLine (path : String) : String :=
  "    " ++ resourceKeyword ++ path ++ "(@http:Payload json payload) returns json|error \x7b"

/-- The line that calls a function and returns what it gives. -/
def callLine (function : String) : String :=
  "        return " ++ function ++ "(check payload.cloneWithType()).toJson();"

def resourceLines (resource : Resource) : List String :=
  [openingLine resource.path, callLine resource.function, "    \x7d"]

/-- The lines of a source, unless what is written into them ends some of them early. -/
def sourceLines (plan : ServicePlan) : List String :=
  headLines plan ++ [""].intercalate (plan.resources.map resourceLines) ++ ["\x7d"]

theorem ended_append (first second : List String) :
    ended (first ++ second) = ended first ++ ended second := by
  rw [ended, ended, ended, List.map_append, String.join_append]

theorem ended_cons (line : String) (lines : List String) :
    ended (line :: lines) = line ++ "\n" ++ ended lines := by
  rw [ended, ended, List.map_cons, String.join_cons]

theorem head_eq (plan : ServicePlan) : head plan = ended (headLines plan) := by
  have importEnd : "/http;\n\n" = "/http;" ++ ("\n" ++ ("" ++ "\n")) := rfl
  have title : "# A service representing a network-accessible API\n" =
      "# A service representing a network-accessible API" ++ "\n" := rfl
  have portEnd : "`.\n\n" = "`." ++ ("\n" ++ ("" ++ "\n")) := rfl
  have configurableEnd : ";\n\n" = ";" ++ ("\n" ++ ("" ++ "\n")) := rfl
  have opening : "service / on new http:Listener(port) \x7b\n" =
      "service / on new http:Listener(port) \x7b" ++ "\n" := rfl
  unfold head headLines
  rw [importEnd, title, portEnd, configurableEnd, opening]
  simp only [ended_cons, String.append_assoc]
  rfl

theorem resourceText_eq (resource : Resource) :
    resourceText resource = ended (resourceLines resource) := by
  have openingEnd : "(@http:Payload json payload) returns json|error \x7b\n" =
      "(@http:Payload json payload) returns json|error \x7b" ++ "\n" := rfl
  have callEnd : "(check payload.cloneWithType()).toJson();\n" =
      "(check payload.cloneWithType()).toJson();" ++ "\n" := rfl
  have closing : "    \x7d\n" = "    \x7d" ++ "\n" := rfl
  unfold resourceText resourceLines openingLine callLine
  rw [openingEnd, callEnd, closing]
  simp only [ended_cons, String.append_assoc]
  rfl

/-- Blank lines separate the lines of the resources as line feeds separate their texts. -/
theorem intercalate_resourceText (resources : List Resource) :
    "\n".intercalate (resources.map resourceText) =
      ended ([""].intercalate (resources.map resourceLines)) := by
  induction resources with
  | nil => rfl
  | cons resource resources ih =>
      cases resources with
      | nil =>
          simp only [List.map_cons, List.map_nil, String.intercalate_singleton,
            List.intercalate_singleton, resourceText_eq]
      | cons next resources =>
          have blank : ended [""] = "\n" := rfl
          simp only [List.map_cons] at ih ⊢
          rw [String.intercalate_cons_cons, List.intercalate_cons_cons, ended_append, ended_append,
            blank, ih, resourceText_eq]

theorem sourceOf_eq (plan : ServicePlan) : sourceOf plan = ended (sourceLines plan) := by
  unfold sourceOf sourceLines
  rw [ended_append, ended_append, head_eq, intercalate_resourceText]
  rfl

/-- The line is a single one when it is written, and is read as it stands. -/
structure IsPlain (line : String) : Prop where
  noFeed : '\n' ∉ line.toList
  noReturn : line.toList.getLast? ≠ some '\r'

theorem IsPlain.cut {line : String} (plain : IsPlain line) :
    (Text.splitAt '\n' line.toList).map Text.dropCarriageReturn = [line.toList] := by
  rw [Text.splitAt_of_notMem plain.noFeed, List.map_singleton, Text.dropCarriageReturn,
    if_neg plain.noReturn]

theorem lines_ended (lines : List String) :
    Text.lines (ended lines).toList =
      lines.flatMap fun line => (Text.splitAt '\n' line.toList).map Text.dropCarriageReturn := by
  induction lines with
  | nil => rfl
  | cons line lines ih =>
      have feed : "\n".toList = ['\n'] := rfl
      rw [ended_cons, String.toList_append, String.toList_append, feed, List.append_assoc,
        List.singleton_append, Text.lines_append, ih, List.flatMap_cons]

/-- The source is known unless a name is blank. -/
theorem ofNames_eq_ok_iff {config : ServiceConfig} {names : List String} {service : Service} :
    ofNames config names = .ok service ↔ (∀ name ∈ names, Text.isAllBlank name = false) ∧
      service = ⟨sourceOf (.ofNames config names), config.fileName⟩ := by
  have resources : (ServicePlan.ofNames config names).resources =
      names.map fun name => ⟨name, name⟩ := rfl
  rw [ofNames, ofPlan, resources]
  split
  next resource blank =>
    obtain ⟨name, member, rfl⟩ := List.mem_map.mp (List.mem_of_find?_eq_some blank)
    have wrapped := List.find?_some blank
    refine ⟨(nomatch ·), fun ⟨visible, _⟩ => ?_⟩
    rw [visible name member] at wrapped
    cases wrapped
  next none =>
    have visible : ∀ name ∈ names, Text.isAllBlank name = false := by
      intro name member
      rw [List.find?_eq_none] at none
      simpa using none _ (List.mem_map_of_mem member)
    exact ⟨fun made => ⟨visible, (Except.ok.inj made).symm⟩, fun ⟨_, made⟩ => made ▸ rfl⟩

theorem ofNames_eq_ok (config : ServiceConfig) {names : List String}
    (visible : ∀ name ∈ names, Text.isAllBlank name = false) :
    ofNames config names = .ok ⟨sourceOf (.ofNames config names), config.fileName⟩ :=
  ofNames_eq_ok_iff.mpr ⟨visible, rfl⟩

/-! ### Lines that open resources -/

/-- The text opens a resource, whatever blank characters come before. -/
def opensResource (line : List Char) : Bool :=
  resourceKeyword.toList.isPrefixOf (Text.trimStart line)

/-- The lines that open resources among those that a line becomes when it is written. -/
def openers (line : String) : List (List Char) :=
  ((Text.splitAt '\n' line.toList).map Text.dropCarriageReturn).filter opensResource

theorem resourceCount_eq (service : Service) :
    service.resourceCount = (Text.lines service.source.toList).countP opensResource := rfl

section Openers

variable {text before after : List Char} {line : String}

/-- What follows a visible character that is not in the keyword makes no difference. -/
theorem opensResource_append_cons {char : Char} (visible : Text.isBlank char = false)
    (none : char ∉ resourceKeyword.toList) :
    opensResource (text ++ char :: after) = opensResource text := by
  rw [opensResource, opensResource, Text.trimStart_append_cons visible, Bool.eq_iff_iff,
    List.isPrefixOf_iff_prefix, List.isPrefixOf_iff_prefix, Text.isPrefix_append_cons_iff none]

/-- A carriage return at the end makes no difference. -/
theorem opensResource_dropCarriageReturn (line : List Char) :
    opensResource (Text.dropCarriageReturn line) = opensResource line := by
  rw [Text.dropCarriageReturn]
  split
  next ends =>
    obtain ⟨text, rfl⟩ := List.getLast?_eq_some_iff.mp ends
    rw [List.dropLast_concat, opensResource, opensResource]
    -- In a blank line the carriage return is trimmed as well, but the rest opens nothing either.
    cases blank : Text.allBlank text with
    | true =>
        rw [Text.trimStart_append_of_allBlank blank, Text.trimStart_eq_nil_iff.mpr blank]
        rfl
    | false =>
        rw [Text.trimStart_append blank, Bool.eq_iff_iff, List.isPrefixOf_iff_prefix,
          List.isPrefixOf_iff_prefix, Text.isPrefix_append_cons_iff (by decide)]
  next => rfl

theorem openers_of_isPlain (plain : IsPlain line) :
    openers line = if opensResource line.toList then [line.toList] else [] := by
  rw [openers, plain.cut, List.filter_singleton]
  exact Bool.cond_eq_ite ..

end Openers

/-! ### What is written into lines -/

/-- The fixed parts of a line around what is written into it.  The part before it decides whether
the line opens a resource, and the part after it adds nothing to what is written. -/
structure IsFrame (opens : Bool) (before after : String) : Prop where
  singleBefore : '\n' ∉ before.toList
  singleAfter : '\n' ∉ after.toList
  begins : ∀ rest, opensResource (before.toList ++ rest) = opens
  stops : ∃ stop rest, after.toList = stop :: rest ∧ Text.isBlank stop = false ∧
    stop ∉ resourceKeyword.toList
  ends : ∃ last, after.toList.getLast? = some last ∧ last ≠ '\r'

theorem isFrame_import : IsFrame false "import " "/http;" where
  singleBefore := by decide
  singleAfter := by decide
  begins _ := rfl
  stops := ⟨_, _, rfl, by decide, by decide⟩
  ends := ⟨_, rfl, by decide⟩

theorem isFrame_description : IsFrame false "# bound to default port `" "`." where
  singleBefore := by decide
  singleAfter := by decide
  begins _ := rfl
  stops := ⟨_, _, rfl, by decide, by decide⟩
  ends := ⟨_, rfl, by decide⟩

theorem isFrame_port : IsFrame false "configurable int port = " ";" where
  singleBefore := by decide
  singleAfter := by decide
  begins _ := rfl
  stops := ⟨_, _, rfl, by decide, by decide⟩
  ends := ⟨_, rfl, by decide⟩

theorem isFrame_opening :
    IsFrame true ("    " ++ resourceKeyword)
      "(@http:Payload json payload) returns json|error \x7b" where
  singleBefore := by decide
  singleAfter := by decide
  begins _ := rfl
  stops := ⟨_, _, rfl, by decide, by decide⟩
  ends := ⟨_, rfl, by decide⟩

theorem isFrame_call :
    IsFrame false "        return " "(check payload.cloneWithType()).toJson();" where
  singleBefore := by decide
  singleAfter := by decide
  begins _ := rfl
  stops := ⟨_, _, rfl, by decide, by decide⟩
  ends := ⟨_, rfl, by decide⟩

theorem notMem_toString (number : Nat) : '\n' ∉ (toString number).toList := by
  rw [Nat.toString_eq_repr, Nat.toList_repr]
  intro member
  have digit := Nat.isDigit_of_mem_toDigits (by decide) (by decide) member
  revert digit
  decide

section Frame

variable {opens : Bool} {before after text : String} (frame : IsFrame opens before after)

include frame

theorem IsFrame.isPlain (noFeed : '\n' ∉ text.toList) : IsPlain (before ++ text ++ after) where
  noFeed := by
    rw [String.toList_append, String.toList_append]
    exact List.not_mem_append (List.not_mem_append frame.singleBefore noFeed) frame.singleAfter
  noReturn := by
    obtain ⟨last, ends, other⟩ := frame.ends
    rw [String.toList_append, List.getLast?_append, ends, Option.some_or]
    simpa using other

theorem IsFrame.opensResource_eq (text : String) :
    opensResource (before ++ text ++ after).toList = opens := by
  rw [String.toList_append, String.toList_append, List.append_assoc]
  exact frame.begins _

theorem IsFrame.openers_eq (noFeed : '\n' ∉ text.toList) :
    openers (before ++ text ++ after) =
      if opens then [(before ++ text ++ after).toList] else [] := by
  rw [openers_of_isPlain (frame.isPlain noFeed), frame.opensResource_eq]

end Frame

/-! ### The lines that open resources -/

theorem flatMap_openers_headLines (plan : ServicePlan) :
    (headLines plan).flatMap openers = openers ("import " ++ plan.transportOrg ++ "/http;") := by
  have blank : openers "" = [] := rfl
  have title : openers "# A service representing a network-accessible API" = [] := by decide
  have opening : openers "service / on new http:Listener(port) \x7b" = [] := by decide
  have description := isFrame_description.openers_eq (notMem_toString plan.port.toNat)
  have port := isFrame_port.openers_eq (notMem_toString plan.port.toNat)
  simp only [headLines, List.flatMap_cons, List.flatMap_nil, blank, title, opening, description,
    port, Bool.false_eq_true, if_false, List.append_nil]

theorem flatMap_openers_resourceLines (resource : Resource) :
    (resourceLines resource).flatMap openers =
      openers (openingLine resource.path) ++ openers (callLine resource.function) := by
  have closing : openers "    \x7d" = [] := rfl
  simp only [resourceLines, List.flatMap_cons, List.flatMap_nil, closing, List.append_nil]

theorem flatMap_openers_intercalate (blocks : List (List String)) :
    ([""].intercalate blocks).flatMap openers = blocks.flatMap (·.flatMap openers) := by
  have blank : [""].flatMap openers = [] := rfl
  induction blocks with
  | nil => rfl
  | cons block blocks ih =>
      cases blocks with
      | nil => simp
      | cons next blocks =>
          rw [List.intercalate_cons_cons, List.flatMap_append, List.flatMap_append, blank, ih,
            List.append_nil]
          exact List.flatMap_cons.symm

/-- Lines that open resources come from the resources, and from nothing else but the name of the
organization. -/
theorem filter_lines_sourceOf (plan : ServicePlan) :
    (Text.lines (sourceOf plan).toList).filter opensResource =
      openers ("import " ++ plan.transportOrg ++ "/http;") ++
        plan.resources.flatMap fun resource =>
          openers (openingLine resource.path) ++ openers (callLine resource.function) := by
  have closing : ["\x7d"].flatMap openers = [] := rfl
  rw [sourceOf_eq, lines_ended, List.filter_flatMap]
  change (sourceLines plan).flatMap openers = _
  rw [sourceLines, List.flatMap_append, List.flatMap_append, flatMap_openers_headLines,
    flatMap_openers_intercalate, closing, List.append_nil, List.flatMap_map]
  exact congrArg _ (List.flatMap_congr fun resource _ => flatMap_openers_resourceLines resource)

end PureService.Service
