namespace NestedGroups

inductive DirectoryError where
  | configuration (detail : String)
  | insecureProtocol
  | invalidFilter (detail : String)
  | connection (detail : String)
  | tls (detail : String)
  | bind (detail : String)
  | search (detail : String)
  | timeout
  | poolExhausted
  | protocol (detail : String)
  | endOfStream
  /-- A query failed while authorities were being resolved, so nothing is known about them. -/
  | transport (cause : DirectoryError)
  deriving DecidableEq

namespace DirectoryError

def endOfStreamText : String := "premature end of search stream"

def message : DirectoryError → String
  | .configuration detail => "LDAP configuration error: " ++ detail
  | .insecureProtocol =>
    "Security error: Only LDAPS is supported. URL must start with 'ldaps://'. " ++
      "STARTTLS and plain LDAP are not allowed."
  | .invalidFilter detail => "Invalid search filter: " ++ detail
  | .connection detail => "LDAP connection failed: " ++ detail
  | .tls detail => "LDAP TLS error: " ++ detail
  | .bind detail => "LDAP bind failed: " ++ detail
  | .search detail => "LDAP search failed: " ++ detail
  | .timeout => "LDAP operation timed out"
  | .poolExhausted => "Connection pool exhausted"
  | .protocol detail => "LDAP protocol error: " ++ detail
  | .endOfStream => "LDAP error: " ++ endOfStreamText
  | .transport cause => "Directory query failed: " ++ cause.message

def causes : DirectoryError → List String
  | .endOfStream => [endOfStreamText]
  | .transport cause => cause.message :: cause.causes
  | _ => []

def cause? : DirectoryError → Option DirectoryError
  | .transport cause => some cause
  | _ => none

/-- Marks a failed query; a second mark is never put around the first. -/
def asTransport : DirectoryError → DirectoryError
  | .transport cause => .transport cause
  | e => .transport e

def isConnection : DirectoryError → Bool
  | .connection _ | .tls _ | .timeout | .poolExhausted => true
  | _ => false

def isSecurity : DirectoryError → Bool
  | .insecureProtocol | .tls _ | .bind _ => true
  | _ => false

def isTransport (e : DirectoryError) : Bool :=
  e.cause?.isSome

end DirectoryError

/-- Want of room, which ends a program on the spot. -/
inductive Crash where
  | tooManyPermits
  | capacityOverflow
  | outOfMemory (bytes : Nat)
  deriving DecidableEq

namespace Crash

/-- The status under which a program ends that panics, or that is aborted by signal 6. -/
def status : Crash → Nat
  | .outOfMemory _ => 134
  | _ => 101

def reason : Crash → String
  | .tooManyPermits =>
    "a semaphore may not have more than MAX_PERMITS permits (2305843009213693951)"
  | .capacityOverflow => "capacity overflow"
  | .outOfMemory bytes => "memory allocation of " ++ toString bytes ++ " bytes failed"

end Crash

namespace Message

def note (text : String) : String :=
  "ℹ " ++ text ++ "\n"

def success (text : String) : String :=
  "✓ " ++ text ++ "\n"

def warning (text : String) : String :=
  "⚠ " ++ text ++ "\n"

def error (text : String) : String :=
  "✗ " ++ text ++ "\n"

end Message

inductive IoFault where
  | notFound
  | alreadyExists
  | notDirectory
  | isDirectory
  | nameTooLong
  | notUtf8
  | other (detail : String)
  deriving DecidableEq

def IoFault.message : IoFault → String
  | .notFound => "No such file or directory (os error 2)"
  | .alreadyExists => "File exists (os error 17)"
  | .notDirectory => "Not a directory (os error 20)"
  | .isDirectory => "Is a directory (os error 21)"
  | .nameTooLong => "File name too long (os error 36)"
  | .notUtf8 => "stream did not contain valid UTF-8"
  | .other detail => detail

inductive Failure where
  | configuration (detail : String)
  | directory (e : DirectoryError)
  | invalidArgument (detail : String)
  | io (fault : IoFault)
  | malformedSettings (text : String)
  | crash (crash : Crash)
  deriving DecidableEq

/-- What libraries say of failures that are theirs. -/
structure Wording where
  /-- Why a text holds no settings; parts of the text may be quoted. -/
  malformed : String → String
  crash : Crash → String

def Wording.plain : Wording where
  malformed _ := "malformed settings"
  crash c := c.reason ++ "\n"

namespace Failure

def message (w : Wording) : Failure → String
  | .configuration detail => "configuration error: " ++ detail
  | .directory e => e.message
  | .invalidArgument detail => "invalid argument: " ++ detail
  | .io fault => "IO error: " ++ fault.message
  | .malformedSettings text => "failed to parse config: " ++ w.malformed text
  | .crash c => w.crash c

/-- Everything that is told of a failure. A program that crashes says nothing of its own. -/
def told (w : Wording) (context : String) : Failure → String
  | .crash c => w.crash c
  | failure => Message.error (context ++ failure.message w)

end Failure

end NestedGroups
