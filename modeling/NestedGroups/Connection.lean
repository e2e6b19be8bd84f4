import NestedGroups.Failure
import NestedGroups.Text.Case

namespace NestedGroups

inductive SearchScope where
  | base
  | oneLevel
  | subtree
  deriving DecidableEq

namespace SearchScope

def all : List SearchScope := [.base, .oneLevel, .subtree]

def word : SearchScope → String
  | .base => "BASE"
  | .oneLevel => "ONE_LEVEL"
  | .subtree => "SUBTREE"

def label : SearchScope → String
  | .base => "Base"
  | .oneLevel => "OneLevel"
  | .subtree => "Subtree"

def ofWord? (text : String) : Option SearchScope :=
  all.find? (·.word == text)

theorem ofWord?_word (scope : SearchScope) : ofWord? scope.word = some scope := by
  cases scope <;> decide

end SearchScope

/-- A span of time in whole seconds and a rest below one second. -/
structure Duration where
  seconds : Nat
  nanos : Nat := 0
  deriving DecidableEq

structure Connection where
  url : String
  bindDn : String
  credential : String
  validateCertificates : Bool
  scope : SearchScope
  poolSize : Nat
  connectTimeout : Duration
  readTimeout : Duration
  deriving DecidableEq

namespace Connection

inductive Fault where
  | missing (setting : String)
  | insecure
  | noHost
  | noBindDn
  | noPool
  deriving DecidableEq

def Fault.toError : Fault → DirectoryError
  | .missing setting => .configuration (setting ++ " is required")
  | .insecure => .insecureProtocol
  | .noHost => .configuration "Invalid LDAPS URL: missing host"
  | .noBindDn => .configuration "bind_dn cannot be empty"
  | .noPool => .configuration "pool_max_size must be at least 1"

def scheme : String := "ldaps://"

/-- The scheme is compared in small letters, the length counted in bytes of the text as given. -/
def urlFault? (url : String) : Option Fault :=
  if !scheme.toList.isPrefixOf (Text.lowerCase url).toList then some .insecure
  else if url.utf8ByteSize ≤ scheme.utf8ByteSize then some .noHost
  else none

def fault? (c : Connection) : Option Fault :=
  (urlFault? c.url).or
    (if c.bindDn.isEmpty then some .noBindDn
    else if c.poolSize = 0 then some .noPool
    else none)

def check (c : Connection) : Except DirectoryError Unit :=
  match c.fault? with
  | some fault => .error fault.toError
  | none => .ok ()

inductive Assignment where
  | url (text : String)
  | bindDn (dn : String)
  | credential (text : String)
  | validateCertificates (on : Bool)
  | scope (scope : SearchScope)
  | poolSize (size : Nat)
  | connectTimeout (span : Duration)
  | readTimeout (span : Duration)
  deriving DecidableEq

structure Draft where
  url : Option String := none
  bindDn : Option String := none
  credential : Option String := none
  validateCertificates : Bool := true
  scope : SearchScope := .oneLevel
  poolSize : Nat := 10
  connectTimeout : Duration := ⟨5, 0⟩
  readTimeout : Duration := ⟨30, 0⟩
  deriving DecidableEq

namespace Draft

def assign (d : Draft) : Assignment → Draft
  | .url text => { d with url := some text }
  | .bindDn dn => { d with bindDn := some dn }
  | .credential text => { d with credential := some text }
  | .validateCertificates on => { d with validateCertificates := on }
  | .scope scope => { d with scope := scope }
  | .poolSize size => { d with poolSize := size }
  | .connectTimeout span => { d with connectTimeout := span }
  | .readTimeout span => { d with readTimeout := span }

def settings? (d : Draft) : Except Fault Connection :=
  match d.url, d.bindDn, d.credential with
  | none, _, _ => .error (.missing "connection_url")
  | _, none, _ => .error (.missing "bind_dn")
  | _, _, none => .error (.missing "bind_credential")
  | some url, some bindDn, some credential =>
    .ok
      { url, bindDn, credential
        validateCertificates := d.validateCertificates
        scope := d.scope
        poolSize := d.poolSize
        connectTimeout := d.connectTimeout
        readTimeout := d.readTimeout }

def build (d : Draft) : Except DirectoryError Connection :=
  match d.settings? with
  | .error fault => .error fault.toError
  | .ok connection =>
    match connection.check with
    | .error e => .error e
    | .ok () => .ok connection

end Draft

def ofAssignments (assignments : List Assignment) : Except DirectoryError Connection :=
  (assignments.foldl Draft.assign {}).build

end Connection

end NestedGroups
