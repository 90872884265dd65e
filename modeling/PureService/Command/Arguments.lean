import PureService.Command.Basic

/-!
# Arguments of the command line

Arguments are read one after the other. Options of the program come before the name of a command,
options of the command after it. An option has a long name, after two dashes, and may have a
letter, after one dash; letters of flags can be put together. A value follows its option as the
next argument, after an equals sign, or directly after a letter. After an argument of two dashes
only words come. Every option may be given once.
-/

namespace PureService

/-- What can be asked of the program. -/
inductive Request where
  | showVersion
  | showHelp
  | perform (command : Command)
  deriving DecidableEq, Repr

namespace Arguments

inductive OptionRole where
  | flag
  /-- The option takes a value, perhaps one of the given words only. -/
  | value (words : Option (List String))
  | showVersion
  | showHelp
  deriving DecidableEq, Repr

structure OptionRule where
  letter : Option Char
  long : String
  role : OptionRole
  deriving DecidableEq, Repr

/-- What the arguments that come next belong to. -/
inductive Scope where
  | program | init | check | generate | help
  deriving DecidableEq, Repr

namespace Scope

/-- The command with the given name. -/
def ofName? : String → Option Scope
  | "init" => some init
  | "check" => some check
  | "generate" => some generate
  | "help" => some help
  | _ => none

def options : Scope → List OptionRule
  | program => [⟨some 'c', "config", .value none⟩, ⟨some 'v', "verbose", .flag⟩,
      ⟨some 'h', "help", .showHelp⟩, ⟨some 'V', "version", .showVersion⟩]
  | init => [⟨some 'n', "name", .value none⟩, ⟨some 'h', "help", .showHelp⟩]
  | check => [⟨none, "format", .value (some ["text", "json"])⟩, ⟨none, "concurrent", .flag⟩,
      ⟨some 'h', "help", .showHelp⟩]
  | generate => [⟨some 'o', "output", .value none⟩, ⟨none, "force", .flag⟩,
      ⟨none, "format", .value (some ["text", "json"])⟩, ⟨some 'h', "help", .showHelp⟩]
  | help => []

/-- How many words may be given. -/
def maxWords : Scope → Nat
  | init | help => 1
  | program | check | generate => 0

end Scope

/-- Why the arguments are not read to their end. -/
inductive Stop where
  | showVersion | showHelp | misuse
  deriving DecidableEq, Repr

/-- What has been read. -/
structure Reading where
  scope : Scope
  /-- The long names of the options with their values; those of flags are empty. -/
  given : List (String × String)
  words : List String
  /-- The option whose value comes next. -/
  waiting : Option OptionRule
  /-- Only words come from now on. -/
  wordsOnly : Bool
  deriving DecidableEq, Repr

def Reading.start : Reading :=
  ⟨.program, [], [], none, false⟩

abbrev Result := Except Stop

/-- Take an option with a value that it accepts. -/
def give (reading : Reading) (rule : OptionRule) (value : String) : Result Reading :=
  let isAccepted := match rule.role with
    | .value (some words) => words.contains value
    | _ => true
  if !isAccepted || (reading.given.lookup rule.long).isSome then .error .misuse
  else .ok { reading with given := (rule.long, value) :: reading.given, waiting := none }

/-- Take an option, to which a value may be attached. -/
def takeOption (reading : Reading) (rule : OptionRule) (attached : Option String) :
    Result Reading :=
  match rule.role, attached with
  | .flag, none => give reading rule ""
  | .showVersion, none => .error .showVersion
  | .showHelp, none => .error .showHelp
  | .value _, some value => give reading rule value
  | .value _, none => .ok { reading with waiting := some rule }
  | _, some _ => .error .misuse

/-- Take an option written with its long name, after the dashes. -/
def takeLong (reading : Reading) (chars : List Char) : Result Reading :=
  let name := chars.takeWhile (· ≠ '=')
  let attached := match chars.drop name.length with
    | [] => none
    | _ :: value => some (String.ofList value)
  match reading.scope.options.find? fun rule => rule.long = String.ofList name with
  | some rule => takeOption reading rule attached
  | none => .error .misuse

/-- Take options written with letters, after the dash. What follows the letter of an option with
a value is the value; an equals sign before it is dropped. -/
def takeLetters (reading : Reading) : List Char → Result Reading
  | [] => .ok reading
  | char :: rest =>
    match reading.scope.options.find? fun rule => rule.letter = some char with
    | none => .error .misuse
    | some rule =>
      match rule.role, rest with
      | .value _, [] => takeOption reading rule none
      | .value _, '=' :: value => takeOption reading rule (some (String.ofList value))
      | .value _, value => takeOption reading rule (some (String.ofList value))
      | _, _ =>
        match takeOption reading rule none with
        | .ok next => takeLetters next rest
        | .error stop => .error stop

/-- Take a word: the name of a command, or a word of the command. -/
def takeWord (reading : Reading) (word : String) : Result Reading :=
  match reading.scope with
  | .program =>
    if reading.wordsOnly then .error .misuse
    else match Scope.ofName? word with
      | some scope => .ok { reading with scope }
      | none => .error .misuse
  | scope =>
    if scope = .help && (Scope.ofName? word).isNone then .error .misuse
    else if reading.words.length < scope.maxWords then
      .ok { reading with words := reading.words ++ [word] }
    else .error .misuse

/-- Take one argument. A lone dash is a word. -/
def take (reading : Reading) (argument : String) : Result Reading :=
  if reading.wordsOnly || reading.scope = .help then
    if reading.waiting.isSome then .error .misuse else takeWord reading argument
  else
    match argument.toList, reading.waiting with
    | ['-', '-'], none => .ok { reading with wordsOnly := true }
    | '-' :: _ :: _, some _ => .error .misuse
    | _, some rule => give reading rule argument
    | '-' :: '-' :: chars, none => takeLong reading chars
    | '-' :: char :: chars, none => takeLetters reading (char :: chars)
    | _, none => takeWord reading argument

def formatOf (reading : Reading) : ReportFormat :=
  if reading.given.lookup "format" = some "json" then .json else .text

def has (reading : Reading) (long : String) : Bool :=
  (reading.given.lookup long).isSome

/-- What is asked for when all arguments have been read. -/
def finish (reading : Reading) : Result Request :=
  if reading.waiting.isSome then .error .misuse
  else
    let config := (reading.given.lookup "config").getD "transformer.yaml"
    match reading.scope with
    | .program => .error .misuse
    | .help => .ok .showHelp
    | .init => .ok (.perform (.init (reading.words.headD ".") (reading.given.lookup "name")))
    | .check => .ok (.perform (.check config (formatOf reading) (has reading "concurrent")))
    | .generate => .ok (.perform (.generate config (reading.given.lookup "output")
        (has reading "force") (formatOf reading)))

/-- What the arguments ask for, if they make sense. -/
def read (arguments : List String) : Option Request :=
  match arguments.foldlM take Reading.start >>= finish with
  | .ok request => some request
  | .error .showVersion => some .showVersion
  | .error .showHelp => some .showHelp
  | .error .misuse => none

end Arguments

end PureService
