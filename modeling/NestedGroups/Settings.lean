import NestedGroups.Connection
import NestedGroups.Failure
import NestedGroups.GroupSearch
import NestedGroups.Toml.Document
import NestedGroups.Toml.Reading
import NestedGroups.Value

namespace NestedGroups

inductive OutputFormat where
  | table
  | json
  | quiet
  deriving DecidableEq

namespace OutputFormat

def all : List OutputFormat := [.table, .json, .quiet]

def word : OutputFormat → String
  | .table => "table"
  | .json => "json"
  | .quiet => "quiet"

def label : OutputFormat → String
  | .table => "Table"
  | .json => "Json"
  | .quiet => "Quiet"

def ofWord? (text : String) : Option OutputFormat :=
  all.find? (·.word == text)

theorem ofWord?_word (format : OutputFormat) : ofWord? format.word = some format := by
  cases format <;> decide

end OutputFormat

structure DirectorySettings where
  url : String := ""
  bindDn : String := ""
  credential : Option String := none
  validateCertificates : Bool := true
  scope : SearchScope := .oneLevel
  poolSize : Nat := 10
  connectSeconds : Nat := 5
  readSeconds : Nat := 30
  deriving DecidableEq

structure GroupSettings where
  base : Option String := none
  filter : Option String := none
  roleAttribute : String := GroupSearch.defaultRoleAttribute
  style : RoleStyle := ⟨GroupSearch.defaultLead, true⟩
  defaultRole : Option String := none
  maxDepth : Nat := GroupSearch.defaultDepth
  requested : List String := []
  deriving DecidableEq

structure Settings where
  format : OutputFormat := .table
  directory : DirectorySettings := {}
  groups : GroupSettings := {}
  deriving DecidableEq

namespace Settings

def withCredential (s : Settings) : Option String → Settings
  | none => s
  | some credential => { s with directory := { s.directory with credential := some credential } }

def connection (s : Settings) : Except Failure Connection :=
  let d := s.directory
  if d.url.isEmpty then .error (.configuration "directory.connection_url is not set")
  else
    match d.credential with
    | none =>
      .error (.configuration
        "no bind credential; set directory.bind_credential or AUTHPOP_BIND_CREDENTIAL")
    | some credential =>
      (Connection.ofAssignments
        [.url d.url, .bindDn d.bindDn, .credential credential,
          .validateCertificates d.validateCertificates, .scope d.scope, .poolSize d.poolSize,
          .connectTimeout ⟨d.connectSeconds, 0⟩, .readTimeout ⟨d.readSeconds, 0⟩]).mapError
        .directory

/-- The assignments that the group settings stand for; a given depth replaces theirs. -/
def groupAssignments (g : GroupSettings) (depth : Option Nat) : List GroupSearch.Assignment :=
  [.roleAttribute g.roleAttribute, .lead g.style.lead, .capitals g.style.capitals,
    .maxDepth (depth.getD g.maxDepth), .requested g.requested] ++
  (g.base.map .base).toList ++ (g.filter.map .filter).toList ++
  (g.defaultRole.map .defaultRole).toList

def groupSearch (s : Settings) (depth : Option Nat) : Except Failure GroupSearch :=
  (GroupSearch.ofAssignments (groupAssignments s.groups depth)).mapError .directory

end Settings

section Decoding

open Value

def SearchScope.ofValue? (source : Source) (v : Value) : Option SearchScope :=
  (v.asWord? source).bind SearchScope.ofWord?

def OutputFormat.ofValue? (source : Source) (v : Value) : Option OutputFormat :=
  (v.asWord? source).bind OutputFormat.ofWord?

def Filter.Template.ofValue? (v : Value) : Option (Except Filter.Fault Filter.Template) :=
  v.asText?.map Filter.Template.parse

namespace DirectorySettings

def fieldNames : List String :=
  ["connection_url", "bind_dn", "bind_credential", "validate_certificates", "search_scope",
    "pool_max_size", "connection_timeout_secs", "read_timeout_secs"]

def ofValue? (source : Source) (v : Value) : Option DirectorySettings := do
  let fields ← v.asRecord? source fieldNames
  let absent : DirectorySettings := {}
  return {
    url := ← field? fields "connection_url" asText? absent.url
    bindDn := ← field? fields "bind_dn" asText? absent.bindDn
    credential := ← field? fields "bind_credential" (asOption? asText?) (some absent.credential)
    validateCertificates :=
      ← field? fields "validate_certificates" asBool? absent.validateCertificates
    scope := ← field? fields "search_scope" (SearchScope.ofValue? source) absent.scope
    poolSize := ← field? fields "pool_max_size" (asNat? maxWord64) absent.poolSize
    connectSeconds :=
      ← field? fields "connection_timeout_secs" (asNat? maxWord64) absent.connectSeconds
    readSeconds := ← field? fields "read_timeout_secs" (asNat? maxWord64) absent.readSeconds }

end DirectorySettings

namespace GroupSettings

def fieldNames : List String :=
  ["search_base", "search_filter", "role_attribute", "role_prefix", "convert_to_upper_case",
    "default_role", "max_search_depth", "requested_attributes"]

def ofValue? (source : Source) (v : Value) : Option GroupSettings := do
  let fields ← v.asRecord? source fieldNames
  let absent : GroupSettings := {}
  let base ← field? fields "search_base" (asOption? asText?) (some absent.base)
  let filter ← field? fields "search_filter" (asOption? asText?) (some absent.filter)
  let roleAttribute ← field? fields "role_attribute" asText? absent.roleAttribute
  let lead ← field? fields "role_prefix" asText? absent.style.lead
  let capitals ← field? fields "convert_to_upper_case" asBool? absent.style.capitals
  let defaultRole ← field? fields "default_role" (asOption? asText?) (some absent.defaultRole)
  let maxDepth ← field? fields "max_search_depth" (asNat? maxWord32) absent.maxDepth
  let requested ← field? fields "requested_attributes" asTexts? absent.requested
  let style : RoleStyle := ⟨lead, capitals⟩
  return { base, filter, roleAttribute, style, defaultRole, maxDepth, requested }

end GroupSettings

namespace Settings

def fieldNames : List String :=
  ["output_format", "directory", "groups"]

def ofValue? (source : Source) (v : Value) : Option Settings := do
  let fields ← v.asRecord? source fieldNames
  let absent : Settings := {}
  return {
    format := ← field? fields "output_format" (OutputFormat.ofValue? source) absent.format
    directory := ← field? fields "directory" (DirectorySettings.ofValue? source) absent.directory
    groups := ← field? fields "groups" (GroupSettings.ofValue? source) absent.groups }

end Settings

namespace Duration

def nanosPerSecond : Nat := 1000000000

/-- A rest of a second or more is carried over, as long as the seconds do not overflow. -/
def carry? (seconds nanos : Nat) : Option Duration :=
  let whole := seconds + nanos / nanosPerSecond
  if whole ≤ maxWord64 then some ⟨whole, nanos % nanosPerSecond⟩ else none

def fieldNames : List String :=
  ["secs", "nanos"]

/-- Unlike other records, a span of time has no fields but its own. -/
def ofValue? (source : Source) (v : Value) : Option Duration := do
  let fields ← v.asRecord? source fieldNames
  if fields.all (fieldNames.contains ·.1) then
    let seconds ← field? fields "secs" (asNat? maxWord64) none
    let nanos ← field? fields "nanos" (asNat? maxWord32) none
    carry? seconds nanos
  else none

def toValue (d : Duration) : Value :=
  .table [("secs", .ofNat d.seconds), ("nanos", .ofNat d.nanos)]

end Duration

namespace Connection

def fieldNames : List String :=
  ["connection_url", "bind_dn", "bind_credential", "validate_certificates", "search_scope",
    "pool_max_size", "connection_timeout", "read_timeout"]

def ofValue? (source : Source) (v : Value) : Option Connection := do
  let fields ← v.asRecord? source fieldNames
  return {
    url := ← field? fields "connection_url" asText? none
    bindDn := ← field? fields "bind_dn" asText? none
    credential := ← field? fields "bind_credential" asText? (some "")
    validateCertificates := ← field? fields "validate_certificates" asBool? none
    scope := ← field? fields "search_scope" (SearchScope.ofValue? source) none
    poolSize := ← field? fields "pool_max_size" (asNat? maxWord64) none
    connectTimeout := ← field? fields "connection_timeout" (Duration.ofValue? source) none
    readTimeout := ← field? fields "read_timeout" (Duration.ofValue? source) none }

/-- The settings without the credential, which is never written. -/
def toValue (c : Connection) : Value :=
  .table
    [("connection_url", .text c.url), ("bind_dn", .text c.bindDn),
      ("validate_certificates", .bool c.validateCertificates),
      ("search_scope", .text c.scope.word), ("pool_max_size", .ofNat c.poolSize),
      ("connection_timeout", c.connectTimeout.toValue), ("read_timeout", c.readTimeout.toValue)]

end Connection

namespace GroupSearch

def toValue (g : GroupSearch) : Value :=
  .table
    [("group_search_base", .ofOption g.base), ("group_search_filter", .text g.filter.text),
      ("group_role_attribute", .text g.roleAttribute), ("role_prefix", .text g.style.lead),
      ("convert_to_upper_case", .bool g.style.capitals),
      ("default_role", .ofOption g.defaultRole), ("max_search_depth", .ofNat g.maxDepth),
      ("requested_attributes", .ofTexts g.requested.toList)]

end GroupSearch

end Decoding

namespace Settings

open Toml

def optional (name : String) : Option String → List (String × Leaf)
  | some s => [(name, .text s)]
  | none => []

def directoryFields (d : DirectorySettings) : List (String × Leaf) :=
  [("connection_url", .text d.url), ("bind_dn", .text d.bindDn)] ++
  optional "bind_credential" d.credential ++
  [("validate_certificates", .flag d.validateCertificates),
    ("search_scope", .text d.scope.word), ("pool_max_size", .number d.poolSize),
    ("connection_timeout_secs", .number d.connectSeconds),
    ("read_timeout_secs", .number d.readSeconds)]

def groupFields (g : GroupSettings) : List (String × Leaf) :=
  optional "search_base" g.base ++ optional "search_filter" g.filter ++
  [("role_attribute", .text g.roleAttribute), ("role_prefix", .text g.style.lead),
    ("convert_to_upper_case", .flag g.style.capitals)] ++
  optional "default_role" g.defaultRole ++
  [("max_search_depth", .number g.maxDepth), ("requested_attributes", .texts g.requested)]

def document (s : Settings) : Document where
  fields := [("output_format", .text s.format.word)]
  sections := [⟨"directory", directoryFields s.directory⟩, ⟨"groups", groupFields s.groups⟩]

/-- The text of the file; a number may be too large for it. -/
def fileText (s : Settings) : Except Failure String :=
  match s.document.render? with
  | some text => .ok text
  | none =>
    .error (.configuration "failed to serialize config: out-of-range value for u64 type")

def ofFileText (text : String) : Except Failure Settings :=
  match (Toml.parse? text).bind (ofValue? .toml) with
  | some s => .ok s
  | none => .error (.malformedSettings text)

end Settings

end NestedGroups
