import NestedGroups.Console.FileTree
import NestedGroups.Program

namespace NestedGroups.Terminal

def faultOf : IO.Error → IoFault
  | .noFileOrDirectory .. => .notFound
  | .alreadyExists .. => .alreadyExists
  | .inappropriateType _ code _ => if code = 21 then .isDirectory else .notDirectory
  | e => .other (toString e)

def attempt {α : Type} (action : IO α) : IO (Except IoFault α) :=
  try
    return .ok (← action)
  catch e => return .error (faultOf e)

def write (stream : IO.FS.Stream) (text : String) : IO Unit := do
  stream.putStr text
  stream.flush

def isThere (path : String) : IO Bool :=
  try
    let _ ← IO.FS.realPath path
    return true
  catch _ => return false

def perform : (action : Action) → IO action.Reply
  | .print .output text => do write (← IO.getStdout) text
  | .print .errors text => do write (← IO.getStderr) text
  | .readLine => do attempt (← IO.getStdin).getLine
  | .lookUp path => isThere path
  | .readFile path => attempt (IO.FS.readFile path)
  | .makeFolders path =>
    match FileTree.parent? path with
    | some folder => attempt (IO.FS.createDirAll folder)
    | none => return .ok ()
  | .writeFile path text => attempt (IO.FS.writeFile path text)

def play {α : Type} : Script α → IO α
  | .finish result => return result
  | .act action next => do play (next (← perform action))

def variableNames : List String :=
  ["HOME", "RUST_LOG", "AUTHPOP_CONFIG", "AUTHPOP_BIND_CREDENTIAL"]

def environment : IO CommandLine.Environment := do
  let values ← variableNames.mapM fun name => return (name, ← IO.getEnv name)
  return fun name => (values.lookup name).join

def accountNumber? (status : String) : Option String := do
  let line ← (status.splitOn "\n").find? (·.startsWith "Uid:")
  (line.splitOn "\t")[1]?

/-- The home folder in the list of accounts. One without a name is none. -/
def homeOfAccount? (accounts number : String) : Option String := do
  let fields := (accounts.splitOn "\n").map (·.splitOn ":")
  let account ← fields.find? (·[2]? == some number)
  account[5]?.filter (!·.isEmpty)

def accountHome : IO (Option String) := do
  try
    let number := accountNumber? (← IO.FS.readFile "/proc/self/status")
    let accounts ← IO.FS.readFile "/etc/passwd"
    return number.bind (homeOfAccount? accounts)
  catch _ => return none

end NestedGroups.Terminal

def main (arguments : List String) : IO UInt32 := do
  let environment ← NestedGroups.Terminal.environment
  let host := { NestedGroups.Program.Host.plain with home := ← NestedGroups.Terminal.accountHome }
  let status ← NestedGroups.Terminal.play
    (NestedGroups.Program.script .offline host environment arguments)
  return status.toUInt32
