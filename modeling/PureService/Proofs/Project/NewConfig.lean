import PureService.Command.Init
import PureService.Proofs.Yaml.PlainLine

/-!
# Configurations of new projects

The name of a new project is put into a line of its configuration.  If it is
plain on this line, the configuration is read as that of a project of which
only the name is given.
-/

namespace PureService.NewProject

open Yaml

/-- The comment in the first line of a configuration, without its sign. -/
def titleText : List Char := " Transformer Project Configuration".toList

/-- What follows the name in a configuration. -/
def settingsText : List Char :=
  ("version: \"0.1.0\"\n\n" ++ "service:\n" ++ "  port: 8080\n\n" ++ "analysis:\n" ++
    "  delivery: sequential\n").toList

/-- The tokens of what follows the name. -/
def settingsTokens : List Token :=
  [.key, .scalar .plain "version".toList, .value, .scalar .doubleQuoted "0.1.0".toList,
    .key, .scalar .plain "service".toList, .value, .blockMappingStart,
    .key, .scalar .plain "port".toList, .value, .scalar .plain "8080".toList, .blockEnd,
    .key, .scalar .plain "analysis".toList, .value, .blockMappingStart,
    .key, .scalar .plain "delivery".toList, .value, .scalar .plain "sequential".toList, .blockEnd,
    .blockEnd, .streamEnd]

/-- A configuration up to the sign of the value in the line of the name, and what comes then. -/
def openText (rest : List Char) : List Char :=
  '#' :: (titleText ++ '\n' :: 'n' :: 'a' :: 'm' :: 'e' :: ':' :: ' ' :: rest)

theorem toList_configText (name : String) :
    (configText name).toList = openText (name.toList ++ '\n' :: settingsText) := by
  have before : "# Transformer Project Configuration\n".toList ++ "name: ".toList =
      '#' :: (titleText ++ ['\n', 'n', 'a', 'm', 'e', ':', ' ']) := by
    rfl
  have after : "\n".toList ++ ("version: \"0.1.0\"\n\n".toList ++ ("service:\n".toList ++
      ("  port: 8080\n\n".toList ++ ("analysis:\n".toList ++
        "  delivery: sequential\n".toList)))) = '\n' :: settingsText := by
    rfl
  unfold configText
  repeat rw [String.toList_append]
  rw [before]
  repeat rw [List.append_assoc]
  rw [after, List.cons_append, List.append_assoc]
  rfl

/-- A scanner in the block mapping of a configuration, or before it, when no key has begun and no
token waits. -/
def blockScanner (cursor : Cursor) (inMapping keyAllowed : Bool) (delivered : Nat) : Scanner where
  cursor
  indent := if inMapping then 0 else -1
  outerIndents := if inMapping then [-1] else []
  keyAllowed
  blockKey := none
  flowKeys := []
  delivered
  waiting := []

/-- The scanner before the colon after the key of the name. -/
def colonScanner (rest : List Char) : Scanner where
  cursor := ⟨':' :: ' ' :: rest, 40, 1, 4⟩
  indent := -1
  outerIndents := []
  keyAllowed := false
  blockKey := some ⟨false, 1, 36, 1, 0⟩
  flowKeys := []
  delivered := 1
  waiting := [.scalar .plain "name".toList]

theorem fetch_title (rest : List Char) :
    (blockScanner (.start (openText rest)) false true 1).fetch = some (colonScanner rest) := by
  have unbroken : titleText.all (fun char => !isBreak char) = true := rfl
  have length : titleText.length = 34 := rfl
  have moved : ((Cursor.start (openText rest)).advance (titleText.length + 1)).advanceBreak =
      ⟨'n' :: 'a' :: 'm' :: 'e' :: ':' :: ' ' :: rest, 36, 1, 0⟩ := by
    have dropped : (openText rest).drop (titleText.length + 1) =
        '\n' :: 'n' :: 'a' :: 'm' :: 'e' :: ':' :: ' ' :: rest := by
      simp [openText]
    rw [length] at dropped ⊢
    simp [Cursor.advance, Cursor.advanceBreak, Cursor.start, dropped]
  have skipped : Scanner.skipToToken
      ((blockScanner (.start (openText rest)) false true 1).cursor.rest.length + 1)
      (blockScanner (.start (openText rest)) false true 1) =
      blockScanner ⟨'n' :: 'a' :: 'm' :: 'e' :: ':' :: ' ' :: rest, 36, 1, 0⟩ false true 1 := by
    rw [Scanner.skipToToken_of_comment _ rfl unbroken, ← moved]
    rfl
  rw [Scanner.fetch, skipped]
  rfl

theorem fetch_colon (rest : List Char) :
    (colonScanner rest).fetch = some { blockScanner ⟨' ' :: rest, 41, 1, 5⟩ true false 1 with
      waiting := [.blockMappingStart, .key, .scalar .plain "name".toList, .value] } := by
  rfl

theorem start_openText (rest : List Char) :
    Scanner.start (openText rest) =
      { blockScanner (.start (openText rest)) false true 0 with waiting := [.streamStart] } :=
  rfl

theorem tokensWithin_waiting (cursor : Cursor) (inMapping keyAllowed : Bool)
    (delivered bound : Nat) {waiting : List Token} (goesOn : waiting.getLast? ≠ some .streamEnd) :
    Scanner.tokensWithin (bound + 1)
        { blockScanner cursor inMapping keyAllowed delivered with waiting } =
      waiting ++ (blockScanner cursor inMapping keyAllowed
        (delivered + waiting.length)).tokensWithin (bound + 1) :=
  Scanner.tokensWithin_of_none rfl rfl goesOn

theorem tokensWithin_fetch {cursor : Cursor} {inMapping keyAllowed : Bool}
    {delivered : Nat} {next : Scanner} (bound : Nat)
    (fetched : (blockScanner cursor inMapping keyAllowed delivered).fetch = some next) :
    (blockScanner cursor inMapping keyAllowed delivered).tokensWithin (bound + 1) =
      next.tokensWithin bound :=
  Scanner.tokensWithin_of_fetch (Scanner.dropStale_of_none rfl rfl)
    (Scanner.certain_of_none rfl rfl) fetched

theorem tokensWithin_openText (rest : List Char) (bound : Nat) :
    (Scanner.start (openText rest)).tokensWithin (bound + 3) =
      [.streamStart, .blockMappingStart, .key, .scalar .plain "name".toList, .value] ++
        (blockScanner ⟨' ' :: rest, 41, 1, 5⟩ true false 5).tokensWithin (bound + 1) := by
  have signed : (colonScanner rest).tokensWithin (bound + 2) = Scanner.tokensWithin (bound + 1)
      { blockScanner ⟨' ' :: rest, 41, 1, 5⟩ true false 1 with
        waiting := [.blockMappingStart, .key, .scalar .plain "name".toList, .value] } :=
    Scanner.tokensWithin_of_fetch rfl rfl (fetch_colon rest)
  have named := (tokensWithin_fetch (bound + 2) (fetch_title rest)).trans signed
  rw [start_openText, tokensWithin_waiting _ _ _ _ _ (by decide)]
  refine (congrArg ([.streamStart] ++ ·) named).trans ?_
  rw [tokensWithin_waiting _ _ _ _ _ (by decide), ← List.append_assoc]
  rfl

/-- The tokens of what follows the name do not depend on how long the name is. -/
theorem tokensWithin_settings (offset : Nat) {bound : Nat} (enough : 40 ≤ bound) :
    (blockScanner ⟨settingsText, offset, 2, 0⟩ true true 6).tokensWithin bound =
      settingsTokens := by
  have atStart : (blockScanner ⟨settingsText, 0, 2, 0⟩ true true 6).tokensWithin 40 =
      settingsTokens := by
    decide +kernel
  have shifted : blockScanner ⟨settingsText, offset, 2, 0⟩ true true 6 =
      (blockScanner ⟨settingsText, 0, 2, 0⟩ true true 6).shift offset := by
    simp [blockScanner, Scanner.shift, Cursor.shift]
  have ended : settingsTokens.getLast? = some .streamEnd := rfl
  rw [← atStart] at ended ⊢
  rw [shifted, Scanner.tokensWithin_shift, Scanner.tokensWithin_of_le enough ended]

section Name

variable {line : List Char} (begins : beginsPlain line = true) (plain : staysPlain line = true)

include begins plain

theorem fetch_name :
    (blockScanner ⟨' ' :: (line ++ '\n' :: settingsText), 41, 1, 5⟩ true false 5).fetch =
      some { blockScanner ⟨settingsText, 43 + line.length, 2, 0⟩ true true 5 with
        waiting := [.scalar .plain line] } := by
  have filled : settingsText.head?.all (fun char => !isSpacingOrBreak char) = true := by
    rfl
  have placed : ((Cursor.mk (' ' :: (line ++ '\n' :: settingsText)) 41 1 5).advance
      (line.length + 1)).advanceBreak = ⟨settingsText, 43 + line.length, 2, 0⟩ := by
    simp [Cursor.advance, Cursor.advanceBreak]
    omega
  rw [← placed]
  exact Scanner.fetch_of_line rfl rfl rfl rfl rfl begins plain filled

theorem tokensWithin_name {bound : Nat} (enough : 40 ≤ bound) :
    (blockScanner ⟨' ' :: (line ++ '\n' :: settingsText), 41, 1, 5⟩ true false 5).tokensWithin
        (bound + 1) =
      .scalar .plain line :: settingsTokens := by
  obtain ⟨bound, rfl⟩ := Nat.exists_eq_add_of_le' (Nat.le_trans (by decide : 1 ≤ 40) enough)
  rw [tokensWithin_fetch _ (fetch_name begins plain), tokensWithin_waiting _ _ _ _ _ (by simp),
    List.length_singleton, tokensWithin_settings _ enough, List.singleton_append]

theorem tokens_openText (readable : line.all isReadable = true) :
    tokens (openText (line ++ '\n' :: settingsText)) =
      [.streamStart, .blockMappingStart, .key, .scalar .plain "name".toList, .value,
        .scalar .plain line] ++ settingsTokens := by
  have title : titleText.all isReadable = true := rfl
  have settings : settingsText.all isReadable = true := rfl
  have allReadable : (openText (line ++ '\n' :: settingsText)).all isReadable = true := by
    simp only [openText, List.all_cons, List.all_append, title, readable, settings]
    decide
  have length : 40 ≤ settingsText.length := by decide
  have enough : 40 ≤ (openText (line ++ '\n' :: settingsText)).length := by
    simp only [openText, List.length_cons, List.length_append]
    omega
  rw [tokens, if_pos allReadable, tokensWithin_openText, tokensWithin_name begins plain enough]
  rfl

end Name

/-- The events of a configuration with the given name. -/
def configEvents (name : List Char) : List Event :=
  [.documentStart, .mappingStart none none,
    .scalar none none .plain "name".toList, .scalar none none .plain name,
    .scalar none none .plain "version".toList, .scalar none none .doubleQuoted "0.1.0".toList,
    .scalar none none .plain "service".toList, .mappingStart none none,
    .scalar none none .plain "port".toList, .scalar none none .plain "8080".toList, .mappingEnd,
    .scalar none none .plain "analysis".toList, .mappingStart none none,
    .scalar none none .plain "delivery".toList, .scalar none none .plain "sequential".toList,
    .mappingEnd, .mappingEnd, .documentEnd, .streamEnd]

theorem events_configText (name : List Char) :
    events ([.streamStart, .blockMappingStart, .key, .scalar .plain "name".toList, .value,
        .scalar .plain name] ++ settingsTokens) = configEvents name :=
  rfl

/-- The document of a configuration with the given name. -/
def configDocument (name : List Char) : Yaml.Document where
  root := some (.mapping none [
    (.scalar none .plain "name".toList, .scalar none .plain name),
    (.scalar none .plain "version".toList, .scalar none .doubleQuoted "0.1.0".toList),
    (.scalar none .plain "service".toList, .mapping none [
      (.scalar none .plain "port".toList, .scalar none .plain "8080".toList)]),
    (.scalar none .plain "analysis".toList, .mapping none [
      (.scalar none .plain "delivery".toList, .scalar none .plain "sequential".toList)])])
  anchored := []
  eventCount := 16
  isSound := true

theorem ofEvents_configEvents (name : List Char) :
    Yaml.Document.ofEvents (configEvents name) = configDocument name :=
  rfl

/-- A configuration with a plain name is that of a project of which only the name is given. -/
theorem ofText_configText {name : String} (line : isPlainLine name.toList = true) :
    ProjectConfig.ofText (configText name) = .ok (.named name) := by
  rw [isPlainLine, Bool.and_eq_true, Bool.and_eq_true] at line
  obtain ⟨⟨readable, begins⟩, plain⟩ := line
  have document : Yaml.Document.ofText (configText name) = configDocument name.toList := by
    rw [Yaml.Document.ofText, toList_configText, tokens_openText begins plain readable,
      events_configText, ofEvents_configEvents]
  have decoded : (Decoding.Source.project (source (configDocument name.toList))
      ⟨(configDocument name.toList).root.getD (.scalar none .plain []), [], maxDepth⟩).run
        (aliasesPerEvent * (configDocument name.toList).eventCount) =
      .ok (.named (String.ofList name.toList), 1600) :=
    rfl
  rw [String.ofList_toList] at decoded
  simp only [ProjectConfig.ofText, decode, document, decoded]
  rfl

end PureService.NewProject
