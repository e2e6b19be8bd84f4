import NestedGroups.Settings
import NestedGroups.Text.Basic

namespace NestedGroups.CommandLine

open NestedGroups.Text

inductive Switch where
  | config
  | credential
  | output
  | verbose
  | username
  | maxDepth
  | stats
  | force
  | help
  | version
  deriving DecidableEq

namespace Switch

def long : Switch → String
  | .config => "config"
  | .credential => "bind-credential"
  | .output => "output"
  | .verbose => "verbose"
  | .username => "username"
  | .maxDepth => "max-depth"
  | .stats => "stats"
  | .force => "force"
  | .help => "help"
  | .version => "version"

def short? : Switch → Option Char
  | .config => some 'c'
  | .output => some 'o'
  | .verbose => some 'v'
  | .username => some 'u'
  | .help => some 'h'
  | .version => some 'V'
  | _ => none

def takesValue : Switch → Bool
  | .config | .credential | .output | .username | .maxDepth => true
  | _ => false

def environmentName? : Switch → Option String
  | .config => some "AUTHPOP_CONFIG"
  | .credential => some "AUTHPOP_BIND_CREDENTIAL"
  | _ => none

end Switch

def integer? : List Char → Option Int
  | '-' :: ds => (numeral? ds).map fun n => -n
  | '+' :: ds => (numeral? ds).map fun n => n
  | ds => (numeral? ds).map fun n => n

def depth? (text : String) : Option Nat :=
  (integer? text.toList).bind fun i =>
    if 0 ≤ i ∧ i < UInt32.size then some i.toNat else none

def Switch.fits (switch : Switch) (value : String) : Bool :=
  match switch with
  | .config => !value.isEmpty
  | .output => (OutputFormat.ofWord? value).isSome
  | .maxDepth => (depth? value).isSome
  | _ => true

inductive Token where
  | escape
  | long (name : String) (value : Option String)
  | short (letters : List Char)
  | plain
  deriving DecidableEq

/-- Two dashes alone end the switches; one dash alone is an argument like any other. -/
def Token.ofChars : List Char → Token
  | ['-', '-'] => .escape
  | '-' :: '-' :: cs =>
    .long (.ofList (cs.takeWhile (· != '=')))
      (match cs.dropWhile (· != '=') with
      | _ :: value => some (.ofList value)
      | [] => none)
  | '-' :: c :: cs => .short (c :: cs)
  | _ => .plain

def Token.ofArgument (argument : String) : Token :=
  .ofChars argument.toList

structure Grammar where
  path : List String
  switches : List Switch
  subcommands : List String
  operands : Nat

namespace Grammar

def root : Grammar := ⟨[], [.config, .credential, .output, .verbose],
  ["resolve", "status", "config", "help"], 0⟩

def resolve : Grammar := ⟨["resolve"], [.username, .maxDepth, .stats], [], 1⟩

def status : Grammar := ⟨["status"], [], [], 0⟩

def config : Grammar := ⟨["config"], [], ["show", "init", "path", "help"], 0⟩

def configShow : Grammar := ⟨["config", "show"], [], [], 0⟩

def configInit : Grammar := ⟨["config", "init"], [.force], [], 0⟩

def configPath : Grammar := ⟨["config", "path"], [], [], 0⟩

def allSwitches (g : Grammar) : List Switch :=
  g.switches ++ [.help, .version]

def ofLong? (g : Grammar) (name : String) : Option Switch :=
  g.allSwitches.find? (·.long == name)

def ofShort? (g : Grammar) (letter : Char) : Option Switch :=
  g.allSwitches.find? (·.short? == some letter)

end Grammar

inductive Rejection where
  | unknownArgument (argument : String)
  | unknownSubcommand (argument : String)
  | missingSubcommand
  | missingOperand
  | missingValue (switch : Switch)
  | unfitValue (switch : Switch) (value : String)
  | unneededValue (switch : Switch) (value : String)
  | repeated (switch : Switch)
  | nothingGiven
  | help (path : List String)
  | version (path : List String)
  deriving DecidableEq

namespace Rejection

def program : String := "authpop"

def release : String := "0.1.0"

def usage (path : List String) : String :=
  "Usage: " ++ " ".intercalate (program :: path) ++ " [OPTIONS] [ARGUMENTS]\n"

def message : Rejection → String
  | .unknownArgument argument => "error: unexpected argument '" ++ argument ++ "' found\n"
  | .unknownSubcommand argument => "error: unrecognized subcommand '" ++ argument ++ "'\n"
  | .missingSubcommand => "error: a subcommand is required\n"
  | .missingOperand => "error: the user DN is required\n"
  | .missingValue switch => "error: a value is required for '--" ++ switch.long ++ "'\n"
  | .unfitValue switch value =>
    "error: invalid value '" ++ value ++ "' for '--" ++ switch.long ++ "'\n"
  | .unneededValue switch value =>
    "error: unexpected value '" ++ value ++ "' for '--" ++ switch.long ++ "'\n"
  | .repeated switch =>
    "error: the argument '--" ++ switch.long ++ "' cannot be used multiple times\n"
  | .nothingGiven => usage []
  | .help path => usage path
  | .version path => "-".intercalate (program :: path) ++ " " ++ release ++ "\n"

/-- Help and the version are answers; everything else that stops a command line is an error. -/
def isAnswer : Rejection → Bool
  | .help _ | .version _ => true
  | _ => false

end Rejection

end NestedGroups.CommandLine
