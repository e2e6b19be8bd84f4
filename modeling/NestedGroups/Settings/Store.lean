import NestedGroups.Console.Script
import NestedGroups.Failure
import NestedGroups.Filter
import NestedGroups.Settings

namespace NestedGroups.Settings

def defaultPath (home : Option String) : Except Failure String :=
  match home with
  | some home => .ok (home ++ (if home.endsWith "/" then "" else "/") ++ ".authpop/authpop.toml")
  | none => .error (.configuration "could not determine home directory")

def pathOf (home path : Option String) : Except Failure String :=
  match path with
  | some path => .ok path
  | none => defaultPath home

def load (path : String) : Task Settings := do
  if ← .lookUp path then
    ofFileText (← .readFile path)
  else return {}

def save (s : Settings) (path : String) : Task Unit := do
  .makeFolders path
  .writeFile path (← s.fileText)

/-- The settings after the three answers. A base that is left empty is no base. -/
def revise (s : Settings) (url bindDn base : String) : Settings :=
  { s with
    directory := { s.directory with url, bindDn }
    groups := { s.groups with base := if base.isEmpty then none else some base } }

/-- An existing file is only replaced with consent, which may be given beforehand. -/
def mayReplace (path : String) (force : Bool) : Task Bool := do
  if ← .lookUp path then
    if force then return true
    else Prompt.confirm (path ++ " exists. Overwrite?")
  else return true

def setUp (s : Settings) (path : String) (force : Bool) : Task Unit := do
  if ← mayReplace path force then
    .tell .output (Message.note "Initializing authpop configuration..." ++ "\n")
    let url ← Prompt.ask "Directory URL (ldaps://)" s.directory.url
    let bindDn ← Prompt.ask "Bind DN" s.directory.bindDn
    let base ← Prompt.ask "Group search base" (s.groups.base.getD "")
    (s.revise url bindDn base).save path
    .tell .output ("\n" ++ Message.success ("Configuration saved to: " ++ path) ++
      Message.note "Set AUTHPOP_BIND_CREDENTIAL to supply the bind password.")
  else .tell .output (Message.note "Keeping existing configuration.")

def credentialMask : Option String → String
  | some credential => if credential.isEmpty then "(not set)" else "****"
  | none => "(not set)"

def switchText (b : Bool) : String :=
  if b then "true" else "false"

def line (name value : String) : String :=
  name ++ ": " ++ value ++ "\n"

def directoryLines (d : DirectorySettings) : List String :=
  [line "connection_url" d.url, line "bind_dn" d.bindDn,
    line "bind_credential" (credentialMask d.credential),
    line "validate_certificates" (switchText d.validateCertificates),
    line "search_scope" d.scope.label, line "pool_max_size" (toString d.poolSize),
    line "connection_timeout_secs" (toString d.connectSeconds),
    line "read_timeout_secs" (toString d.readSeconds)]

def baseText (g : GroupSettings) : String :=
  g.base.getD "(disabled)"

def groupLines (g : GroupSettings) : List String :=
  [line "search_base" (baseText g),
    line "search_filter" (g.filter.getD Filter.Template.default.text),
    line "role_attribute" g.roleAttribute, line "role_prefix" g.style.lead,
    line "convert_to_upper_case" (switchText g.style.capitals)] ++
  (g.defaultRole.map (line "default_role")).toList ++
  [line "max_search_depth" (toString g.maxDepth)] ++
  (if g.requested.isEmpty then []
    else [line "requested_attributes" (", ".intercalate g.requested)])

def display (s : Settings) (path : String) : String :=
  String.join
    ([Message.note ("Configuration file: " ++ path), "\n", line "output_format" s.format.label,
        "\n", "[directory]\n"] ++ directoryLines s.directory ++
      ["\n", "[groups]\n"] ++ groupLines s.groups)

end NestedGroups.Settings
