import ManifestPatch.Command.Inspect

/-!
# Command Lines

A command line names a command, and has options and operands before and after the name. An option
is written as a word after two hyphens or as a letter after one; several letters can share a
hyphen. The value of an option follows as the next argument, or in the same one after `=`, which
may be left out after a letter. What begins with a hyphen is no operand, unless it is a hyphen
alone or comes after `--`.

Arguments are taken from left to right, and the first that asks for help or makes no sense decides.

## Main definitions

* `Given.read`: the options and operands of one level.
* `Invocation.parse`: what a command line asks for.
-/

namespace ManifestPatch

/-- An option of the command line. -/
inductive Switch where
  | config
  | verbose
  | manifest
  | sibling
  | json
  | help
  | version
  deriving DecidableEq, Repr

namespace Switch

/-- The word of an option. -/
def word : Switch → String
  | .config => "config"
  | .verbose => "verbose"
  | .manifest => "manifest"
  | .sibling => "sibling"
  | .json => "json"
  | .help => "help"
  | .version => "version"

/-- The letter of an option, if it has one. -/
def letter? : Switch → Option Char
  | .config => some 'c'
  | .verbose => some 'v'
  | .manifest => some 'm'
  | .sibling => some 's'
  | .json => none
  | .help => some 'h'
  | .version => some 'V'

/-- Whether a value belongs to the option. -/
def takesValue : Switch → Bool
  | .config | .manifest => true
  | .verbose | .sibling | .json | .help | .version => false

end Switch

/-- A level of the command line: before the name of the command, or after it. -/
inductive Level where
  | program
  | inspect
  | resolve
  | check
  deriving DecidableEq, Repr

namespace Level

/-- The options of a level. -/
def switches : Level → List Switch
  | .program => [.config, .verbose, .help, .version]
  | .inspect => [.json, .config, .verbose, .help]
  | .resolve => [.manifest, .sibling, .config, .verbose, .help]
  | .check => [.manifest, .config, .verbose, .help]

/-- The level after the name of a command. -/
def ofName? : String → Option Level
  | "inspect" => some .inspect
  | "resolve" => some .resolve
  | "check" => some .check
  | _ => none

/-- How many operands there can be; no limit for files to inspect. -/
def operandLimit? : Level → Option Nat
  | .program => some 0
  | .inspect => none
  | .resolve | .check => some 1

/-- Whether an operand can be empty. A selector can, a path cannot. -/
def allowsEmptyOperand : Level → Bool
  | .resolve => true
  | .program | .inspect | .check => false

end Level

/-- Why a command line makes no sense. -/
inductive UsageError where
  | unknownOption (argument : String)
  /-- The value of an option is missing. -/
  | missingValue (switch : Switch)
  /-- There is a value where none belongs. -/
  | unexpectedValue (switch : Switch)
  /-- The option was given before. -/
  | repeatedOption (switch : Switch)
  | emptyValue (switch : Switch)
  | emptyOperand
  | unexpectedOperand (operand : String)
  | unknownCommand (name : String)
  | missingCommand
  | missingOption (switch : Switch)
  | missingOperand
  deriving DecidableEq, Repr

/-- Why a command line is not carried out. -/
inductive Halt where
  /-- It asks for help with a level. -/
  | help (level : Level)
  /-- It asks for the version. -/
  | version
  /-- It makes no sense. -/
  | misuse (error : UsageError)
  deriving DecidableEq, Repr

/-- What was given on one level: options with their values, and operands in order. -/
structure Given where
  switches : List (Switch × String) := []
  operands : List String := []
  deriving DecidableEq, Repr

namespace Given

/-- The value of an option, if it was given. -/
def value? (given : Given) (switch : Switch) : Option String :=
  given.switches.lookup switch

/-- Whether an option was given. -/
def has (given : Given) (switch : Switch) : Bool :=
  (given.value? switch).isSome

/-- One more option. None is given twice, and no value is empty. -/
def addSwitch (level : Level) (given : Given) (switch : Switch) (value : String := "") :
    Except Halt Given :=
  match switch with
  | .help => .error (.help level)
  | .version => .error .version
  | switch =>
    if given.has switch then .error (.misuse (.repeatedOption switch))
    else if switch.takesValue && value.isEmpty then .error (.misuse (.emptyValue switch))
    else .ok { given with switches := (switch, value) :: given.switches }

/-- One more operand. -/
def addOperand (level : Level) (given : Given) (operand : String) : Except Halt Given :=
  if level.operandLimit?.any (· ≤ given.operands.length) then
    .error (.misuse (.unexpectedOperand operand))
  else if operand.isEmpty && !level.allowsEmptyOperand then .error (.misuse .emptyOperand)
  else .ok { given with operands := given.operands ++ [operand] }

/-- The option written as a word, with its value if that is in the same argument; else the option
that waits for its value. -/
def addWord (level : Level) (given : Given) (text : List Char) :
    Except Halt (Given × Option Switch) :=
  let word := String.ofList (text.takeWhile (· ≠ '='))
  match level.switches.find? fun switch => switch.word == word with
  | none => .error (.misuse (.unknownOption ("--" ++ word)))
  | some switch =>
    match text.dropWhile (· ≠ '='), switch.takesValue with
    | [], true => .ok (given, some switch)
    | [], false => (·, none) <$> given.addSwitch level switch
    | _ :: value, true => (·, none) <$> given.addSwitch level switch (.ofList value)
    | _ :: _, false => .error (.misuse (.unexpectedValue switch))

/-- The options written as letters after one hyphen. One that takes a value has the rest for it,
or waits for its value if nothing is left. -/
def addLetters (level : Level) (given : Given) : List Char → Except Halt (Given × Option Switch)
  | [] => .ok (given, none)
  | letter :: rest =>
    match level.switches.find? fun switch => switch.letter? == some letter with
    | none => .error (.misuse (.unknownOption (.ofList ['-', letter])))
    | some switch =>
      match switch.takesValue, rest with
      | false, rest => do addLetters level (← given.addSwitch level switch) rest
      | true, [] => .ok (given, some switch)
      | true, '=' :: value => (·, none) <$> given.addSwitch level switch (.ofList value)
      | true, value => (·, none) <$> given.addSwitch level switch (.ofList value)

/-- Whether an argument is written as options. -/
def isOptions (argument : String) : Bool :=
  Text.startsWith "-" argument && argument != "-"

/-- The options in one argument, and the one that waits for its value. -/
def addOptions (level : Level) (given : Given) (argument : String) :
    Except Halt (Given × Option Switch) :=
  match argument.toList with
  | '-' :: '-' :: text => given.addWord level text
  | text => given.addLetters level text.tail

/-- What is **given** on a level, and the arguments that are left. Before the name of the command
nothing can be an operand, so that the first one is left. -/
def read (level : Level) (given : Given) : List String → Except Halt (Given × List String)
  | [] => .ok (given, [])
  | argument :: rest =>
    if argument = "--" then
      (·, []) <$> rest.foldlM (addOperand level) given
    else if isOptions argument then do
      match ← given.addOptions level argument, rest with
      | (given, none), rest => read level given rest
      | (_, some switch), [] => .error (.misuse (.missingValue switch))
      | (given, some switch), value :: rest =>
        if isOptions value then .error (.misuse (.missingValue switch))
        else read level (← given.addSwitch level switch value) rest
    else if level = .program then .ok (given, argument :: rest)
    else do read level (← given.addOperand level argument) rest

end Given

/-- What the program is asked to do. -/
inductive Command where
  /-- Report the patches under paths. -/
  | inspect (layout : Layout) (paths : List String)
  /-- Report where a selector leads. -/
  | resolve (manifest : String) (sibling : Bool) (selector : String)
  /-- Report whether the operations of a patch have their places. -/
  | check (manifest patch : String)
  deriving DecidableEq, Repr

/-- The command of a level, or what is missing. -/
def Given.command (given : Given) : Level → Except UsageError Command
  | .program => .error .missingCommand
  | .inspect =>
    match given.operands with
    | [] => .error .missingOperand
    | paths => .ok (.inspect (if given.has .json then .json else .lines) paths)
  | .resolve =>
    match given.value? .manifest, given.operands with
    | some manifest, [selector] => .ok (.resolve manifest (given.has .sibling) selector)
    | none, _ => .error (.missingOption .manifest)
    | some _, _ => .error .missingOperand
  | .check =>
    match given.value? .manifest, given.operands with
    | some manifest, [patch] => .ok (.check manifest patch)
    | none, _ => .error (.missingOption .manifest)
    | some _, _ => .error .missingOperand

/-- A command line that makes sense. -/
structure Invocation where
  /-- The file with the settings. -/
  config : Option String := none
  /-- Whether events for debugging are logged. -/
  verbose : Bool := false
  command : Command
  deriving DecidableEq, Repr

namespace Invocation

/-- The help that the names after the word `help` ask for. -/
def helpOn : List String → Halt
  | [] => .help .program
  | [name] =>
    match Level.ofName? name with
    | some level => .help level
    | none => if name = "help" then .help .program else .misuse (.unknownCommand name)
  | _ :: name :: _ => .misuse (.unknownCommand name)

/-- What a **command line** asks for. Of options on both levels the one after the name counts. -/
def parse (arguments : List String) : Except Halt Invocation := do
  let (outer, rest) ← Given.read .program {} arguments
  match rest with
  | [] => .error (.misuse .missingCommand)
  | "help" :: names => .error (helpOn names)
  | name :: rest =>
    match Level.ofName? name with
    | none => .error (.misuse (.unknownCommand name))
    | some level =>
      let (inner, _) ← Given.read level {} rest
      let command ← (inner.command level).mapError .misuse
      return {
        config := (inner.value? .config).or (outer.value? .config)
        verbose := inner.has .verbose || outer.has .verbose
        command }

end Invocation

end ManifestPatch
