import NestedGroups.CommandLine.Grammar

namespace NestedGroups

namespace CommandLine

structure Scan where
  given : List (Switch × String) := []
  /-- The switch that was read last, with its value as soon as that is read. -/
  pending : Option (Switch × Option String) := none
  operands : List String := []

namespace Scan

def value? (s : Scan) (switch : Switch) : Option String :=
  s.given.lookup switch

def isGiven (s : Scan) (switch : Switch) : Bool :=
  (s.value? switch).isSome

/-- A switch may be given once, and only with a value that is fit for it. -/
def take (s : Scan) (switch : Switch) (value : String) : Except Rejection Scan :=
  if s.isGiven switch then .error (.repeated switch)
  else if switch.fits value then .ok { s with given := s.given ++ [(switch, value)] }
  else .error (.unfitValue switch value)

def settle (s : Scan) : Except Rejection Scan :=
  match s.pending with
  | none => .ok s
  | some (switch, none) => .error (.missingValue switch)
  | some (switch, some value) => { s with pending := none }.take switch value

def raise (g : Grammar) (s : Scan) (switch : Switch) : Except Rejection Scan := do
  let s ← s.settle
  match switch with
  | .help => .error (.help g.path)
  | .version => .error (.version g.path)
  | _ => s.take switch ""

def assign (s : Scan) (switch : Switch) (value : String) : Except Rejection Scan := do
  (← s.settle).take switch value

def await (s : Scan) (switch : Switch) : Except Rejection Scan := do
  return { ← s.settle with pending := some (switch, none) }

def long (g : Grammar) (s : Scan) (name : String) (value : Option String) :
    Except Rejection Scan :=
  match g.ofLong? name with
  | none => .error (.unknownArgument ("--" ++ name))
  | some switch =>
    match switch.takesValue, value with
    | true, some v => s.assign switch v
    | true, none => s.await switch
    | false, some v => .error (.unneededValue switch v)
    | false, none => s.raise g switch

/-- What follows the letter of a switch with a value is that value, without an equals sign. -/
def short (g : Grammar) (s : Scan) : List Char → Except Rejection Scan
  | [] => .ok s
  | c :: rest =>
    match g.ofShort? c with
    | none => .error (.unknownArgument (.ofList ['-', c]))
    | some switch =>
      if switch.takesValue then
        match rest with
        | [] => s.await switch
        | '=' :: value => s.assign switch (.ofList value)
        | value => s.assign switch (.ofList value)
      else do (← s.raise g switch).short g rest

/-- An operand; an argument too many is taken for a subcommand where there are any. -/
def operand (g : Grammar) (s : Scan) (argument : String) : Except Rejection Scan :=
  if s.operands.length < g.operands then do
    let s ← s.settle
    return { s with operands := s.operands ++ [argument] }
  else if g.subcommands.isEmpty || g.subcommands.contains argument then
    .error (.unknownArgument argument)
  else .error (.unknownSubcommand argument)

def plain (g : Grammar) (s : Scan) (argument : String) : Except Rejection Scan :=
  match s.pending with
  | some (switch, none) => .ok { s with pending := some (switch, some argument) }
  | _ => s.operand g argument

def isAwaiting (s : Scan) : Bool :=
  match s.pending with
  | some (_, none) => true
  | _ => false

end Scan

/-- What was read, and the subcommand that ended it with the arguments that are left to it. -/
structure Reading where
  scan : Scan
  subcommand : Option (String × List String)

/-- Subcommands are recognised wherever no value is awaited, and not after two dashes. -/
def Grammar.read (g : Grammar) (s : Scan) : List String → Except Rejection Reading
  | [] => .ok ⟨s, none⟩
  | argument :: rest =>
    if !s.isAwaiting && g.subcommands.contains argument then .ok ⟨s, some (argument, rest)⟩
    else
      match Token.ofArgument argument with
      | .escape => do return ⟨← rest.foldlM (Scan.operand g) s, none⟩
      | .long name value => do g.read (← s.long g name value) rest
      | .short letters => do g.read (← s.short g letters) rest
      | .plain => do g.read (← s.plain g argument) rest

def Grammar.readAll (g : Grammar) (arguments : List String) : Except Rejection Scan := do
  (← g.read {} arguments).scan.settle

structure ResolveRequest where
  userDn : String
  username : Option String
  maxDepth : Option Nat
  stats : Bool
  deriving DecidableEq

inductive SettingsCommand where
  | display
  | init (force : Bool)
  | path
  deriving DecidableEq

inductive Command where
  | resolve (request : ResolveRequest)
  | status
  | settings (command : SettingsCommand)
  deriving DecidableEq

abbrev Environment := String → Option String

def Environment.empty : Environment := fun _ => none

def helpOn (g : Grammar) : List String → Rejection
  | [] => .help g.path
  | name :: rest =>
    if g.subcommands.contains name then
      helpOn (if name = "config" then .config else ⟨g.path ++ [name], [], [], 0⟩) rest
    else .unknownSubcommand name

def readResolve (arguments : List String) : Except Rejection ResolveRequest := do
  let s ← Grammar.resolve.readAll arguments
  match s.operands with
  | [] => .error .missingOperand
  | userDn :: _ =>
    return {
      userDn
      username := s.value? .username
      maxDepth := (s.value? .maxDepth).bind depth?
      stats := s.isGiven .stats }

def readSettingsCommand (arguments : List String) : Except Rejection SettingsCommand := do
  let reading ← Grammar.config.read {} arguments
  match reading.subcommand with
  | none => .error .nothingGiven
  | some ("show", rest) =>
    let _ ← Grammar.configShow.readAll rest
    return .display
  | some ("init", rest) => return .init ((← Grammar.configInit.readAll rest).isGiven .force)
  | some ("path", rest) =>
    let _ ← Grammar.configPath.readAll rest
    return .path
  | some (_, rest) => .error (helpOn .config rest)

def readCommand : String → List String → Except Rejection Command
  | "resolve", rest => return .resolve (← readResolve rest)
  | "status", rest => do
    let _ ← Grammar.status.readAll rest
    return .status
  | "config", rest => return .settings (← readSettingsCommand rest)
  | _, rest => .error (helpOn .root rest)

def Scan.complete (environment : Environment) (s : Scan) (switch : Switch) :
    Except Rejection Scan :=
  if s.isGiven switch then .ok s
  else
    match switch.environmentName?.bind environment with
    | some value => s.take switch value
    | none => .ok s

end CommandLine

open CommandLine

structure Invocation where
  settingsPath : Option String
  credential : Option String
  format : Option OutputFormat
  verbose : Bool
  command : Command
  deriving DecidableEq

/-- The subcommand is read before the switches in front of it are settled. -/
def Invocation.read (environment : Environment) (arguments : List String) :
    Except Rejection Invocation := do
  let reading ← Grammar.root.read {} arguments
  let command ← reading.subcommand.mapM fun (name, rest) => readCommand name rest
  let s ← [.config, .credential].foldlM (Scan.complete environment) (← reading.scan.settle)
  match command with
  | some command =>
    return {
      settingsPath := s.value? .config
      credential := s.value? .credential
      format := (s.value? .output).bind OutputFormat.ofWord?
      verbose := s.isGiven .verbose
      command }
  | none => .error (if s.given.isEmpty then .nothingGiven else .missingSubcommand)

end NestedGroups
