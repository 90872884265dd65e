import PureService.Yaml.Token

/-!
# The events of a YAML stream

An event is a scalar, an alias, or the start or the end of a collection, of a document or of the
stream. Events follow from tokens by a grammar: at each moment there is a stack of parts that are
still to come, of which the first one decides what the next tokens may be. A flaw in the tokens
ends the events.
-/

namespace PureService.Yaml

inductive Event where
  | streamEnd
  | documentStart
  | documentEnd
  | aliasTo (name : List Char)
  | scalar (anchor tag : Option (List Char)) (style : ScalarStyle) (text : List Char)
  | sequenceStart (anchor tag : Option (List Char))
  | sequenceEnd
  | mappingStart (anchor tag : Option (List Char))
  | mappingEnd
  deriving DecidableEq, Repr

/-- Where a node stands: that decides which collections it can be. -/
inductive NodePlace where
  | flow
  | block
  /-- A block sequence may stand in the column of the mapping around it. -/
  | blockEntry
  deriving DecidableEq, Repr

/-- A part of the stream that is still to come. -/
inductive Part where
  /-- The start of a document, which needs a mark unless the document is the first one. -/
  | document (isFirst : Bool)
  | documentContent
  | documentEnd
  | node (place : NodePlace)
  /-- Entries of a block sequence, which ends with its indentation. -/
  | blockEntries
  /-- Entries of a sequence that stands in the column of the mapping around it. -/
  | alignedEntries
  | blockKeys
  | blockValue
  | flowEntries (isFirst : Bool)
  /-- The parts of an entry of a flow sequence that is a single pair. -/
  | pairKey
  | pairValue
  | pairEnd
  | flowKeys (isFirst : Bool)
  | flowValue (isMissing : Bool)
  deriving DecidableEq, Repr

/-- The beginning of tags for which a handle stands. -/
abbrev Handles := List (List Char × List Char)

/-- What has been derived so far: the parts to come, the handles of the document and the tokens. -/
structure Derivation where
  parts : List Part
  handles : Handles
  tokens : List Token

/-- A scalar without text, where a node is left out. -/
def Event.empty : Event :=
  .scalar none none .plain []

/-- The handles that stand in every document. -/
def defaultHandles : Handles :=
  [("!".toList, "!".toList), ("!!".toList, "tag:yaml.org,2002:".toList)]

namespace Derivation

/-- The event that one part yields, if it yields any, and what is to come then. -/
abbrev Step := Option (Option Event × Derivation)

/-- Take the directives before a document: at most one version, which has to be known, and each
handle at most once. -/
def directives : (version : Bool) → Handles → List Token → Option (Handles × List Token)
  | version, handles, .versionDirective major minor :: rest =>
    if version || major ≠ 1 || (minor ≠ 1 && minor ≠ 2) then none
    else directives true handles rest
  | version, handles, .tagDirective handle lead :: rest =>
    if (handles.lookup handle).isSome then none
    else directives version (handles ++ [(handle, lead)]) rest
  | _, _, [] => none
  | _, handles, rest => some (handles ++ defaultHandles, rest)

/-- The tag that a handle and a suffix write. -/
def tagOf (handles : Handles) (handle suffix : List Char) : Option (List Char) :=
  if handle.isEmpty then some suffix else (handles.lookup handle).map (· ++ suffix)

/-- Take the anchor and the tag before a node, each at most once and in any order. -/
def properties : List Token →
    Option (List Char) × Option (List Char × List Char) × List Token
  | .anchor name :: .tag handle suffix :: rest => (some name, some (handle, suffix), rest)
  | .anchor name :: rest => (some name, none, rest)
  | .tag handle suffix :: .anchor name :: rest => (some name, some (handle, suffix), rest)
  | .tag handle suffix :: rest => (none, some (handle, suffix), rest)
  | rest => (none, none, rest)

/-- A node: an alias, or properties with a scalar, a collection or nothing after them. -/
def node (place : NodePlace) (parts : List Part) (handles : Handles) (tokens : List Token) :
    Step :=
  match tokens with
  | .aliasTo name :: rest => some (some (.aliasTo name), ⟨parts, handles, rest⟩)
  | _ => do
    let (anchor, written, rest) := properties tokens
    let tag ← match written with
      | none => some none
      | some (handle, suffix) => (tagOf handles handle suffix).map some
    match rest with
    | [] => none
    | .scalar style text :: rest =>
      let tag := tag.filter (· ≠ ['!'])
      some (some (.scalar anchor tag style text), ⟨parts, handles, rest⟩)
    | .flowSequenceStart :: rest =>
      some (some (.sequenceStart anchor tag), ⟨.flowEntries true :: parts, handles, rest⟩)
    | .flowMappingStart :: rest =>
      some (some (.mappingStart anchor tag), ⟨.flowKeys true :: parts, handles, rest⟩)
    | token :: others =>
      if place = .blockEntry && token = .blockEntry then
        some (some (.sequenceStart anchor tag), ⟨.alignedEntries :: parts, handles, rest⟩)
      else if place ≠ .flow && token = .blockSequenceStart then
        some (some (.sequenceStart anchor tag), ⟨.blockEntries :: parts, handles, others⟩)
      else if place ≠ .flow && token = .blockMappingStart then
        some (some (.mappingStart anchor tag), ⟨.blockKeys :: parts, handles, others⟩)
      else if anchor.isSome || tag.isSome then
        some (some (.scalar anchor tag .plain []), ⟨parts, handles, rest⟩)
      else none

/-- A node that is left out if one of the given tokens stands here; other parts come after it. -/
def nodeUnless (place : NodePlace) (absent : List Token) (parts : List Part)
    (handles : Handles) : List Token → Step
  | [] => none
  | token :: rest =>
    if absent.contains token then some (some .empty, ⟨parts, handles, token :: rest⟩)
    else some (none, ⟨.node place :: parts, handles, token :: rest⟩)

/-- The start of a document, or the end of the stream. -/
def document (isFirst : Bool) (parts : List Part) (tokens : List Token) : Step :=
  let tokens := if isFirst then tokens else tokens.dropWhile (· = .documentEnd)
  match tokens with
  | [] => none
  | .streamEnd :: rest => some (some .streamEnd, ⟨parts, [], rest⟩)
  | token :: _ =>
    let isDirective := match token with
      | .versionDirective _ _ | .tagDirective _ _ => true
      | _ => false
    if isFirst && !isDirective && token ≠ .documentStart then
      some (some .documentStart,
        ⟨.node .block :: .documentEnd :: parts, defaultHandles, tokens⟩)
    else
      match directives false [] tokens with
      | some (handles, .documentStart :: rest) =>
        some (some .documentStart, ⟨.documentContent :: .documentEnd :: parts, handles, rest⟩)
      | _ => none

/-- The content of a document that began with a mark; it may be left out. -/
def documentContent (parts : List Part) (handles : Handles) : List Token → Step
  | [] => none
  | token :: rest =>
    let isAbsent := match token with
      | .versionDirective _ _ | .tagDirective _ _ | .documentStart | .documentEnd
      | .streamEnd => true
      | _ => false
    if isAbsent then some (some .empty, ⟨parts, handles, token :: rest⟩)
    else some (none, ⟨.node .block :: parts, handles, token :: rest⟩)

/-- What the first part that is to come makes of the tokens. -/
def step (derivation : Derivation) : Step :=
  let handles := derivation.handles
  match derivation.parts, derivation.tokens with
  | [], _ => none
  | _, [] => none
  | .document isFirst :: parts, tokens => document isFirst parts tokens
  | .documentContent :: parts, tokens => documentContent parts handles tokens
  | .documentEnd :: parts, token :: rest =>
    some (some .documentEnd, ⟨.document false :: parts, [],
      if token = .documentEnd then rest else token :: rest⟩)
  | .node place :: parts, tokens => node place parts handles tokens
  | .blockEntries :: parts, .blockEntry :: rest =>
    nodeUnless .block [.blockEntry, .blockEnd] (.blockEntries :: parts) handles rest
  | .blockEntries :: parts, .blockEnd :: rest =>
    some (some .sequenceEnd, ⟨parts, handles, rest⟩)
  | .blockEntries :: _, _ => none
  | .alignedEntries :: parts, .blockEntry :: rest =>
    nodeUnless .block [.blockEntry, .key, .value, .blockEnd] (.alignedEntries :: parts) handles
      rest
  | .alignedEntries :: parts, tokens => some (some .sequenceEnd, ⟨parts, handles, tokens⟩)
  | .blockKeys :: parts, .key :: rest =>
    nodeUnless .blockEntry [.key, .value, .blockEnd] (.blockValue :: parts) handles rest
  | .blockKeys :: parts, .blockEnd :: rest => some (some .mappingEnd, ⟨parts, handles, rest⟩)
  | .blockKeys :: _, _ => none
  | .blockValue :: parts, .value :: rest =>
    nodeUnless .blockEntry [.key, .value, .blockEnd] (.blockKeys :: parts) handles rest
  | .blockValue :: parts, tokens => some (some .empty, ⟨.blockKeys :: parts, handles, tokens⟩)
  | .flowEntries _ :: parts, .flowSequenceEnd :: rest =>
    some (some .sequenceEnd, ⟨parts, handles, rest⟩)
  | .flowEntries false :: parts, .flowEntry :: rest =>
    some (none, ⟨.flowEntries true :: parts, handles, rest⟩)
  | .flowEntries false :: _, _ => none
  | .flowEntries true :: parts, .key :: rest =>
    some (some (.mappingStart none none), ⟨.pairKey :: parts, handles, rest⟩)
  | .flowEntries true :: parts, tokens =>
    some (none, ⟨.node .flow :: .flowEntries false :: parts, handles, tokens⟩)
  | .pairKey :: parts, token :: rest =>
    if [.value, .flowEntry, .flowSequenceEnd].contains token then
      some (some .empty, ⟨.pairValue :: parts, handles, rest⟩)
    else some (none, ⟨.node .flow :: .pairValue :: parts, handles, token :: rest⟩)
  | .pairValue :: parts, .value :: rest =>
    nodeUnless .flow [.flowEntry, .flowSequenceEnd] (.pairEnd :: parts) handles rest
  | .pairValue :: parts, tokens => some (some .empty, ⟨.pairEnd :: parts, handles, tokens⟩)
  | .pairEnd :: parts, tokens =>
    some (some .mappingEnd, ⟨.flowEntries false :: parts, handles, tokens⟩)
  | .flowKeys _ :: parts, .flowMappingEnd :: rest =>
    some (some .mappingEnd, ⟨parts, handles, rest⟩)
  | .flowKeys false :: parts, .flowEntry :: rest =>
    some (none, ⟨.flowKeys true :: parts, handles, rest⟩)
  | .flowKeys false :: _, _ => none
  | .flowKeys true :: parts, .key :: rest =>
    nodeUnless .flow [.value, .flowEntry, .flowMappingEnd] (.flowValue false :: parts) handles
      rest
  | .flowKeys true :: parts, tokens =>
    some (none, ⟨.node .flow :: .flowValue true :: parts, handles, tokens⟩)
  | .flowValue false :: parts, .value :: rest =>
    nodeUnless .flow [.flowEntry, .flowMappingEnd] (.flowKeys false :: parts) handles rest
  | .flowValue _ :: parts, tokens =>
    some (some .empty, ⟨.flowKeys false :: parts, handles, tokens⟩)

/-- The events that follow within a number of steps. -/
def eventsWithin : Nat → Derivation → List Event
  | 0, _ => []
  | bound + 1, derivation =>
    match derivation.step with
    | none => []
    | some (none, next) => eventsWithin bound next
    | some (some event, next) => event :: eventsWithin bound next

end Derivation

/-- The events of a stream of tokens, up to the first flaw. -/
def events : List Token → List Event
  | .streamStart :: tokens =>
    Derivation.eventsWithin (10 * (tokens.length + 2)) ⟨[.document true], [], tokens⟩
  | _ => []

end PureService.Yaml
