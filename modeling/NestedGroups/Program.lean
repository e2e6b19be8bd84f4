import NestedGroups.CommandLine.Invocation
import NestedGroups.Directory.Ldaps
import NestedGroups.Report
import NestedGroups.Settings.Store

namespace NestedGroups.Program

open CommandLine

/-- What a run finds in place: the room for connections, the words of libraries, the log, and the
home folder. -/
structure Host where
  memory : Memory
  wording : Wording
  log : Log
  home : Option String

namespace Host

def plain : Host :=
  ⟨.ample, .plain, .plain, none⟩

/-- The environment has the first word on the home folder, unless it is empty there, and on the
filter of the log. -/
def within (host : Host) (environment : Environment) : Host :=
  { host with
    log := { host.log with filter := environment "RUST_LOG" }
    home := ((environment "HOME").filter (!·.isEmpty)).or host.home }

end Host

def tellEvents (log : Log) (verbose : Bool) (events : List Event) : Task Unit :=
  (events.filter (log.tells verbose)).forM fun event => .tell .errors (log.line event)

def connect (memory : Memory) (connection : Connection) : Except Failure Ldaps :=
  match Ldaps.new memory connection with
  | .error crash => .error (.crash crash)
  | .ok made => made.mapError .directory

def probe (network : Network) (directory : Ldaps) : Except Failure Unit :=
  (directory.test network).mapError .directory

def resolve (network : Network) (host : Host) (verbose : Bool) (s : Settings)
    (format : OutputFormat) (request : ResolveRequest) : Task Unit := do
  let directory ← connect host.memory (← s.connection)
  let resolver : Resolver Unit := ⟨directory.client network, ← s.groupSearch request.maxDepth⟩
  tellEvents host.log verbose resolver.announcements
  if !resolver.settings.isEnabled && format = .table then
    .tell .errors
      (Message.warning "groups.search_base is not set; only the default role can be granted")
  let outcome := Report.ofUser resolver request.userDn request.username request.stats ()
  tellEvents host.log verbose outcome.events
  .tell .output ((← outcome.result).print format)

def statusText (s : Settings) (connection : Connection) : String :=
  Message.success "Directory is reachable" ++ "\n" ++
    Settings.line "Bind DN" connection.bindDn ++
    Settings.line "Search scope" connection.scope.label ++
    Settings.line "Group search base" (Settings.baseText s.groups)

def status (network : Network) (host : Host) (s : Settings) : Task Unit := do
  let connection ← s.connection
  .tell .output (Message.note ("Checking directory at " ++ connection.url ++ "..."))
  probe network (← connect host.memory connection)
  .tell .output (statusText s connection)

def settings (s : Settings) (path : String) : SettingsCommand → Task Unit
  | .display => .tell .output (s.display path)
  | .init force => s.setUp path force
  | .path => .tell .output (path ++ "\n")

/-- Only commands that talk to the directory see a credential from the command line. -/
def execute (network : Network) (host : Host) (i : Invocation) (path : String) (s : Settings) :
    Task Unit :=
  match i.command with
  | .resolve request =>
    resolve network host i.verbose (s.withCredential i.credential) (i.format.getD s.format) request
  | .status => status network host (s.withCredential i.credential)
  | .settings command => settings s path command

def succeeded : Nat := 0

def failed : Nat := 1

def misused : Nat := 2

def statusOf : Failure → Nat
  | .crash c => c.status
  | _ => failed

def reportFailure (host : Host) (context : String) (failure : Failure) : Script Nat := do
  .perform (.print .errors (failure.told host.wording context))
  return statusOf failure

def run (network : Network) (host : Host) (i : Invocation) : Script Nat := do
  let loading : Task (String × Settings) := do
    let path ← Settings.pathOf host.home i.settingsPath
    return (path, ← Settings.load path)
  match ← loading.run with
  | .error failure => reportFailure host "Failed to load configuration: " failure
  | .ok (path, s) =>
    match ← (execute network host i path s).run with
    | .error failure => reportFailure host "" failure
    | .ok () => return succeeded

def reject (rejection : Rejection) : Script Nat := do
  if rejection.isAnswer then
    .perform (.print .output rejection.message)
    return succeeded
  else
    .perform (.print .errors rejection.message)
    return misused

def script (network : Network) (host : Host) (environment : Environment)
    (arguments : List String) : Script Nat :=
  match Invocation.read environment arguments with
  | .error rejection => reject rejection
  | .ok i => run network (host.within environment) i

end NestedGroups.Program
