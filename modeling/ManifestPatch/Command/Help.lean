import ManifestPatch.Command.Arguments

/-!
# Help

What the program says about itself, and about a command line that makes no sense.
-/

namespace ManifestPatch

/-- The name of the program. -/
def programName : String := "mpd-patcher"

/-- The version of the program. -/
def programVersion : String := "0.1.0"

namespace Level

/-- The pattern of the command lines of a level. -/
def usage : Level → String
  | .program => "Usage: " ++ programName ++ " [OPTIONS] <COMMAND>\n"
  | .inspect => "Usage: " ++ programName ++ " inspect [OPTIONS] <PATHS>...\n"
  | .resolve =>
    "Usage: " ++ programName ++ " resolve [OPTIONS] --manifest <MANIFEST> <SELECTOR>\n"
  | .check => "Usage: " ++ programName ++ " check [OPTIONS] --manifest <MANIFEST> <PATCH>\n"

/-- What a level is for. -/
def purpose : Level → String
  | .program => "Inspect MPEG-DASH manifest patches and resolve their selectors\n"
  | .inspect => "Show metadata and operations of patch documents\n"
  | .resolve => "Resolve a selector against a manifest\n"
  | .check => "Check that every operation of a patch resolves against a manifest\n"

/-- The operands of a level, or the commands. -/
def operandHelp : Level → String
  | .program =>
    "Commands:\n"
      ++ "  inspect  Show metadata and operations of patch documents\n"
      ++ "  resolve  Resolve a selector against a manifest\n"
      ++ "  check    Check that every operation of a patch resolves against a manifest\n"
      ++ "  help     Print this message or the help of the given subcommand(s)\n"
  | .inspect =>
    "Arguments:\n  <PATHS>...  Patch files, or directories containing .json patch files\n"
  | .resolve => "Arguments:\n  <SELECTOR>  Selector, e.g. /MPD/Period[@id=\"p1\"]/@start\n"
  | .check => "Arguments:\n  <PATCH>  Patch document (x2js JSON)\n"

/-- The options of a level alone. -/
def ownOptionHelp : Level → String
  | .program => ""
  | .inspect => "      --json                 Print metadata and operations as JSON\n"
  | .resolve =>
    "  -m, --manifest <MANIFEST>  Manifest document (x2js JSON)\n"
      ++ "  -s, --sibling              Resolve for an add/remove, targeting the parent element\n"
  | .check => "  -m, --manifest <MANIFEST>  Manifest document (x2js JSON)\n"

/-- The options of a level. -/
def optionHelp (level : Level) : String :=
  "Options:\n" ++ level.ownOptionHelp
    ++ "  -c, --config <CONFIG>      Engine configuration file (TOML)\n"
    ++ "  -v, --verbose              Enable debug logging\n"
    ++ "  -h, --help                 Print help\n"
    ++ (if level = .program then "  -V, --version              Print version\n" else "")

/-- The **help** with a level. -/
def help (level : Level) : String :=
  level.purpose ++ "\n" ++ level.usage ++ "\n" ++ level.operandHelp ++ "\n" ++ level.optionHelp

end Level

/-- An option as it is named in messages. -/
def Switch.label (switch : Switch) : String :=
  "'--" ++ switch.word ++ "'"

/-- The wording of an error. -/
def UsageError.message : UsageError → String
  | .unknownOption argument => "unexpected argument '" ++ argument ++ "' found"
  | .missingValue switch =>
    "a value is required for " ++ switch.label ++ " but none was supplied"
  | .unexpectedValue switch => "unexpected value for " ++ switch.label ++ " found"
  | .repeatedOption switch =>
    "the argument " ++ switch.label ++ " cannot be used multiple times"
  | .emptyValue switch => "the value of " ++ switch.label ++ " is empty"
  | .emptyOperand => "a path is empty"
  | .unexpectedOperand operand => "unexpected argument '" ++ operand ++ "' found"
  | .unknownCommand name => "unrecognized subcommand '" ++ name ++ "'"
  | .missingCommand => "a subcommand is required but was not given"
  | .missingOption switch => "the option " ++ switch.label ++ " is required but was not given"
  | .missingOperand => "a required argument was not given"

/-- The outcome of a run that carries out no command. -/
def Halt.outcome : Halt → Outcome
  | .help level => { written := [.out level.help] }
  | .version => { written := [.out (programName ++ " " ++ programVersion ++ "\n")] }
  | .misuse error =>
    { written := [.err ("error: " ++ error.message ++ "\n\n" ++ Level.program.usage)]
      status := .misuse }

end ManifestPatch
