import PureService.Proofs.Decoding.Writable

/-!
# Values that are decoded again

What can be written is decoded from its written value as it was, in whatever
order the fields stand.  So whatever a value was decoded to, with lists for
records, second words, empty and missing fields, is decoded again from the
value that is written for it.
-/

namespace PureService.Decoding

variable {passage : Passage}

/-! ### Locations and diagnostics -/

theorem location_encodes {location : Location} (writable : location.IsWritable) :
    Encodes (valueSource passage).location location.toValue location := by
  let format := (valueSource passage).locationFormat
  have document : Encodes (format.update "document") (.text location.document)
      ({ · with document := location.document }) :=
    (encodes_text location.document).update _
  have line : format.Updates (Value.fieldIfSome "line" .ofNat location.line)
      (location.line.toList.map fun line record => { record with line := some line }) :=
    updates_fieldIfSome fun found member =>
      (encodes_some_index (writable.line found member)).update _
  have column : format.Updates (Value.fieldIfSome "column" .ofNat location.column)
      (location.column.toList.map fun column record => { record with column := some column }) :=
    updates_fieldIfSome fun found member =>
      (encodes_some_index (writable.column found member)).update _
  apply ((RecordFormat.Updates.cons document .nil).append line |>.append column).record
  · rcases location with ⟨document, _ | line, _ | column⟩ <;> rfl
  · rcases location with ⟨document, _ | line, _ | column⟩ <;>
      simp [RecordFormat.Commute]
  · simp only [List.map_append]
    exact ((List.Sublist.refl ["document"]).append (map_fst_fieldIfSome_sublist ..)).append
      (map_fst_fieldIfSome_sublist ..)
  · simp [format, Source.locationFormat]
  · simp [format, Source.locationFormat]

theorem diagnostic_encodes {diagnostic : Diagnostic} (writable : diagnostic.IsWritable) :
    Encodes (valueSource passage).diagnostic diagnostic.toValue diagnostic := by
  let format := (valueSource passage).diagnosticFormat
  have rule : Encodes (format.update "code") (.text (ruleWords.wordOf diagnostic.rule))
      ({ · with rule := diagnostic.rule }) :=
    (ruleWords_isFaithful.encodes diagnostic.rule).update _
  have severity : Encodes (format.update "severity")
      (.text (severityWords.wordOf diagnostic.severity))
      ({ · with severity := diagnostic.severity }) :=
    (severityWords_isFaithful.encodes diagnostic.severity).update _
  have message : Encodes (format.update "message") (.text diagnostic.message)
      ({ · with message := diagnostic.message }) :=
    (encodes_text diagnostic.message).update _
  have location : Encodes (format.update "location") diagnostic.location.toValue
      ({ · with location := diagnostic.location }) :=
    (location_encodes writable).update _
  apply RecordFormat.Updates.record (.cons rule (.cons severity (.cons message (.cons location
    .nil))))
  · rfl
  · simp [RecordFormat.Commute]
  · exact .refl _
  · simp [format, Source.diagnosticFormat]
  · exact List.Subset.refl _

/-! ### Types and parameters -/

theorem type_encodes {type : TypeDescriptor} (writable : type.IsWritable) :
    Encodes (valueSource passage).type (.text type.text) type := by
  intro written rearranged
  have text := encodes_text type.text written rearranged
  have read : (valueSource passage).text written = .ok type.text := text
  rw [TypeDescriptor.IsWritable] at writable
  simp [Source.type, read, writable, bind, Except.bind, pure, Except.pure]

theorem parameter_encodes {parameter : Parameter} (writable : parameter.IsWritable) :
    Encodes (valueSource passage).parameter parameter.toValue parameter := by
  let format := (valueSource passage).parameterFormat
  have binding : Encodes (format.update "kind") (.text (bindingWords.wordOf parameter.binding))
      ({ · with binding := parameter.binding }) :=
    (bindingWords_isFaithful.encodes parameter.binding).update _
  have type : Encodes (format.update "type") (.text parameter.type.text)
      ({ · with type := parameter.type }) :=
    (type_encodes writable).update _
  have name : format.Updates (Value.fieldIfSome "name" .text parameter.name)
      (parameter.name.toList.map fun name record => { record with name := some name }) :=
    updates_fieldIfSome fun found _ => (encodes_some_text found).update _
  apply RecordFormat.Updates.record (.cons binding (.cons type name))
  · rcases parameter with ⟨binding, type, _ | name⟩ <;> rfl
  · rcases parameter with ⟨binding, type, _ | name⟩ <;> simp [RecordFormat.Commute]
  · exact ((map_fst_fieldIfSome_sublist ..).cons_cons _).cons_cons _
  · simp [format, Source.parameterFormat]
  · simp [format, Source.parameterFormat]

/-! ### Functions -/

theorem map_fst_toFields (definition : FunctionDefinition) :
    definition.toFields.map Prod.fst =
      ["name", "qualifiers", "body", "annotations", "parameters"] ++
        ((if definition.inTestPart then ["owner_module_part_is_test"] else []) ++
          ["line", "column"]) := by
  rw [FunctionDefinition.toFields]
  cases definition.inTestPart <;> rfl

theorem function_encodes {definition : FunctionDefinition} (writable : definition.IsWritable) :
    Encodes (valueSource passage).function definition.toValue definition := by
  let format := (valueSource passage).functionFormat
  have name : Encodes (format.update "name") (.text definition.name)
      ({ · with name := definition.name }) :=
    (encodes_text definition.name).update _
  have qualifiers : Encodes (format.update "qualifiers")
      (.list (definition.qualifiers.map fun qualifier => .text (qualifierWords.wordOf qualifier)))
      ({ · with qualifiers := definition.qualifiers }) :=
    (encodes_list fun qualifier _ => qualifierWords_isFaithful.encodes qualifier).update _
  have body : Encodes (format.update "body") (.text (bodyWords.wordOf definition.body))
      ({ · with body := definition.body }) :=
    (bodyWords_isFaithful.encodes definition.body).update _
  have annotations : Encodes (format.update "annotations")
      (.list (definition.annotations.map .text))
      ({ · with annotations := definition.annotations }) :=
    (encodes_list fun annotation _ => encodes_text annotation).update _
  have parameters : Encodes (format.update "parameters")
      (.list (definition.parameters.map Parameter.toValue))
      ({ · with parameters := definition.parameters }) :=
    (encodes_list fun parameter member =>
      parameter_encodes (writable.parameters parameter member)).update _
  have line : Encodes (format.update "line") (.ofOption .ofNat definition.position.line)
      (fun record => { record with position.line := definition.position.line }) :=
    writable.position.line.encodes.update _
  have column : Encodes (format.update "column") (.ofOption .ofNat definition.position.column)
      (fun record => { record with position.column := definition.position.column }) :=
    writable.position.column.encodes.update _
  have inTestPart : format.Updates
      (if definition.inTestPart then [("owner_module_part_is_test", .bool true)] else [])
      (if definition.inTestPart then [({ · with inTestPart := true })] else []) := by
    split
    · exact .cons ((encodes_flag true).update _) .nil
    · exact .nil
  -- The mark of a test stands between the other fields, and only if it is set.
  have front := RecordFormat.Updates.cons name (.cons qualifiers (.cons body (.cons annotations
    (.cons parameters .nil))))
  have updates : format.Updates definition.toFields _ :=
    (front.append inTestPart).append (.cons line (.cons column .nil))
  apply updates.record
  · rcases definition with ⟨name, qualifiers, body, annotations, parameters, _ | _, position⟩ <;>
      rfl
  · cases definition.inTestPart <;> simp [RecordFormat.Commute]
  · rw [map_fst_toFields]
    cases definition.inTestPart <;> simp [format, Source.functionFormat]
  · simp [format, Source.functionFormat]
  · simp [map_fst_toFields, format, Source.functionFormat]

/-! ### Declarations -/

theorem item_encodes {item : Item} (writable : item.IsWritable) :
    Encodes (valueSource passage).item item.toValue item := by
  let format := (valueSource passage).itemFormat
  have name : Encodes (format.update "name") (.ofOption .text item.name)
      ({ · with name := item.name }) :=
    (encodes_optional_text item.name).update _
  have line : Encodes (format.update "line") (.ofOption .ofNat item.position.line)
      (fun record => { record with position.line := item.position.line }) :=
    writable.line.encodes.update _
  have column : Encodes (format.update "column") (.ofOption .ofNat item.position.column)
      (fun record => { record with position.column := item.position.column }) :=
    writable.column.encodes.update _
  apply RecordFormat.Updates.record (.cons name (.cons line (.cons column .nil)))
  · rfl
  · simp [RecordFormat.Commute]
  · exact .refl _
  · simp [format, Source.itemFormat]
  · exact List.nil_subset _

/-- The kind of an item, under which it is written; a function has none. -/
def itemKind? : Declaration → Option ItemKind
  | .function _ => none
  | .item kind _ => some kind

theorem ofWord_kindName (declaration : Declaration) :
    declarationKindWords.ofWord declaration.kindName = .ok (itemKind? declaration) := by
  rcases declaration with definition | ⟨kind, definition⟩
  · rfl
  · cases kind <;> rfl

theorem declaration_of_alternative {written fields : Value} {kind : Option ItemKind}
    {declaration : Declaration}
    (found : OfValue.alternative "kind" "Declaration" declarationKindWords written =
      .ok (kind, fields))
    (decoded : declarationOfKind kind fields = .ok declaration) :
    (valueSource passage).declaration written = .ok declaration := by
  have alternative : (valueSource passage).alternative "kind" "Declaration" declarationKindWords
      written = .ok (kind, fields) := found
  rw [Source.declaration, alternative]
  simp [decoded, bind, Except.bind, pure, Except.pure]

theorem declaration_encodes {declaration : Declaration} (writable : declaration.IsWritable) :
    Encodes (valueSource passage).declaration declaration.toValue declaration := by
  intro written rearranged
  have known := ofWord_kindName declaration
  -- No field of either alternative is called like the one that tells them apart.
  cases declaration with
  | function definition =>
      have fresh : "kind" ∉ definition.toFields.map Prod.fst := by
        rw [map_fst_toFields]
        cases definition.inTestPart <;> simp
      obtain ⟨fields, left, found⟩ := exists_of_alternative known fresh rearranged
      have decoded : declarationOfKind none fields = .ok (.function definition) :=
        congrArg (Except.map _) (function_encodes writable fields left)
      exact declaration_of_alternative found decoded
  | item kind definition =>
      have fresh : "kind" ∉ definition.toFields.map Prod.fst := by
        simp [Item.toFields, Position.toFields]
      obtain ⟨fields, left, found⟩ := exists_of_alternative known fresh rearranged
      have decoded : declarationOfKind (some kind) fields = .ok (.item kind definition) :=
        congrArg (Except.map _) (item_encodes writable fields left)
      exact declaration_of_alternative found decoded

/-! ### Documents -/

theorem document_encodes {document : Document} (writable : document.IsWritable) :
    Encodes (valueSource passage).document document.toValue document := by
  let format := (valueSource passage).documentFormat
  have name : Encodes (format.update "name") (.text document.name)
      ({ · with name := document.name }) :=
    (encodes_text document.name).update _
  have ordinal : Encodes (format.update "ordinal") (.ofNat document.ordinal)
      ({ · with ordinal := document.ordinal }) :=
    (encodes_number writable.ordinal).update _
  have markedTest : Encodes (format.update "test") (.bool document.markedTest)
      ({ · with markedTest := document.markedTest }) :=
    (encodes_flag document.markedTest).update _
  have imports : Encodes (format.update "imports") (.list (document.imports.map .text))
      ({ · with imports := document.imports }) :=
    (encodes_list fun path _ => encodes_text path).update _
  have declarations : Encodes (format.update "declarations")
      (.list (document.declarations.map Declaration.toValue))
      ({ · with declarations := document.declarations }) :=
    (encodes_list fun declaration member =>
      declaration_encodes (writable.declarations declaration member)).update _
  apply RecordFormat.Updates.record (.cons name (.cons ordinal (.cons markedTest (.cons imports
    (.cons declarations .nil)))))
  · rfl
  · simp [RecordFormat.Commute]
  · exact .refl _
  · simp [format, Source.documentFormat]
  · exact List.nil_subset _

/-! ### Configurations -/

theorem service_encodes (config : ServiceConfig) :
    Encodes (valueSource passage).service config.toValue config := by
  let format := (valueSource passage).serviceFormat
  have port : Encodes (format.update "port") (.ofNat config.port.toNat)
      ({ · with port := .ofNat config.port.toNat }) :=
    (encodes_number config.port.toNat_lt).update _
  have transportOrg : Encodes (format.update "transport_org") (.text config.transportOrg)
      ({ · with transportOrg := config.transportOrg }) :=
    (encodes_text config.transportOrg).update _
  have fileName : Encodes (format.update "file_name") (.text config.fileName)
      ({ · with fileName := config.fileName }) :=
    (encodes_text config.fileName).update _
  rw [UInt16.ofNat_toNat] at port
  apply RecordFormat.Updates.record (.cons port (.cons transportOrg (.cons fileName .nil)))
  · rfl
  · simp [RecordFormat.Commute]
  · exact .refl _
  · simp [format, Source.serviceFormat]
  · exact List.nil_subset _

theorem analysis_encodes (config : AnalysisConfig) :
    Encodes (valueSource passage).analysis config.toValue config := by
  let format := (valueSource passage).analysisFormat
  have delivery : Encodes (format.update "delivery") (.text (deliveryWords.wordOf config.delivery))
      ({ · with delivery := config.delivery }) :=
    (deliveryWords_isFaithful.encodes config.delivery).update _
  apply RecordFormat.Updates.record (.cons delivery .nil)
  · rfl
  · simp [RecordFormat.Commute]
  · exact .refl _
  · simp [format, Source.analysisFormat]
  · exact List.nil_subset _

theorem project_encodes (config : ProjectConfig) :
    Encodes (valueSource passage).project config.toValue config := by
  let format := (valueSource passage).projectFormat
  have name : Encodes (format.update "name") (.text config.name) ({ · with name := config.name }) :=
    (encodes_text config.name).update _
  have version : Encodes (format.update "version") (.text config.version)
      ({ · with version := config.version }) :=
    (encodes_text config.version).update _
  have service : Encodes (format.update "service") config.service.toValue
      ({ · with service := config.service }) :=
    (service_encodes config.service).update _
  have analysis : Encodes (format.update "analysis") config.analysis.toValue
      ({ · with analysis := config.analysis }) :=
    (analysis_encodes config.analysis).update _
  apply RecordFormat.Updates.record (.cons name (.cons version (.cons service (.cons analysis
    .nil))))
  · rfl
  · simp [RecordFormat.Commute]
  · exact .refl _
  · simp [format, Source.projectFormat]
  · simp [format, Source.projectFormat]

/-! ### The round trip -/

/-- Whatever a value is decoded to is decoded again from the value that is
written for it, and from every rearrangement of that value. -/
def RoundTrips {α : Type} (decode : Value → Except Cause α) (toValue : α → Value) : Prop :=
  ∀ value content, decode value = .ok content →
    ∀ written, (toValue content).Rearranged written → decode written = .ok content

/-- Whatever has been decoded to one of these types goes round. -/
theorem roundTrips :
    RoundTrips (valueSource passage).document Document.toValue ∧
      RoundTrips (valueSource passage).declaration Declaration.toValue ∧
      RoundTrips (valueSource passage).function FunctionDefinition.toValue ∧
      RoundTrips (valueSource passage).item Item.toValue ∧
      RoundTrips (valueSource passage).parameter Parameter.toValue ∧
      RoundTrips (valueSource passage).location Location.toValue ∧
      RoundTrips (valueSource passage).diagnostic Diagnostic.toValue ∧
      RoundTrips (valueSource passage).service ServiceConfig.toValue ∧
      RoundTrips (valueSource passage).project ProjectConfig.toValue := by
  refine ⟨fun value document read => ?_, fun value declaration read => ?_,
    fun value definition read => ?_, fun value item read => ?_, fun value parameter read => ?_,
    fun value location read => ?_, fun value diagnostic read => ?_,
    fun value config _ => ?_, fun value config _ => ?_⟩
  · exact document_encodes (documentFormat_maintains.record read)
  · exact declaration_encodes (isWritable_of_declaration read)
  · exact function_encodes (functionFormat_maintains.record read)
  · exact item_encodes (itemFormat_maintains.record read)
  · exact parameter_encodes (parameterFormat_maintains.record read)
  · exact location_encodes (locationFormat_maintains.record read)
  · exact diagnostic_encodes (diagnosticFormat_maintains.record read)
  · exact service_encodes config
  · exact project_encodes config

/-- A document as a list.  Its function is a list as well, with a qualifier as a
record of one entry, the second word for a statement body and a spaced type;
its listener has an unknown field and an empty name. -/
def tersely : Value :=
  .list [.text "a", .int 7, .bool true, .list [],
    .list [
      .list [.text "function", .text "f",
        .list [.text "public", .record [(.text "isolated", .null)]], .text "block", .list [],
        .list [.record [(.text "type", .text " map < int > "), (.text "kind", .text "rest")]]],
      .record [(.text "port", .int 80), (.text "name", .null), (.text "kind", .text "listener")]]]

/-- The document that is meant. -/
def meant : Document where
  name := "a"
  ordinal := 7
  markedTest := true
  imports := []
  declarations := [
    .function {
      name := "f"
      qualifiers := [.pub, .isolated]
      body := .statement
      annotations := []
      parameters := [⟨.rest, .wrapped .map (.primitive .int), none⟩]
      inTestPart := false
      position := .unknown },
    .item .listener ⟨none, .unknown⟩]

theorem roundTrips_tersely :
    (valueSource .direct).document tersely = .ok meant ∧
      (valueSource .direct).document meant.toValue = .ok meant := by
  have read : (valueSource .direct).document tersely = .ok meant := by decide +kernel
  exact ⟨read, roundTrips.1 tersely meant read meant.toValue (.refl _)⟩

end PureService.Decoding
