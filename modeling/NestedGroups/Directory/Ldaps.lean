import NestedGroups.Connection
import NestedGroups.Directory
import NestedGroups.Text.Basic

namespace NestedGroups

namespace Url

open NestedGroups.Text

inductive Fault where
  | emptyHost
  | invalidHostCharacter
  | invalidIpv6
  | invalidPort
  deriving DecidableEq

def Fault.message : Fault → String
  | .emptyHost => "empty host"
  | .invalidHostCharacter => "invalid domain character"
  | .invalidIpv6 => "invalid IPv6 address"
  | .invalidPort => "invalid port number"

def isControlOrSpace (c : Char) : Bool :=
  c.toNat ≤ 0x20

/-- The text that is read: without control characters and spaces at its ends, and without tabs and
line breaks anywhere. -/
def cleaned (cs : List Char) : List Char :=
  ((cs.dropWhile isControlOrSpace).reverse.dropWhile isControlOrSpace).reverse.filter fun c =>
    c ≠ '\t' && c ≠ '\n' && c ≠ '\r'

def endsAuthority (c : Char) : Bool :=
  c = '/' || c = '?' || c = '#'

def cutLastAt? (cs : List Char) : Option (List Char × List Char) :=
  if '@' ∈ cs then
    some ((cs.reverse.dropWhile (· ≠ '@')).tail.reverse,
      (cs.reverse.takeWhile (· ≠ '@')).reverse)
  else none

/-- A host ends at the first colon outside square brackets. -/
def cutHost (bracketed : Bool) : List Char → List Char × List Char
  | [] => ([], [])
  | c :: rest =>
    if c = ':' ∧ bracketed = false then ([], c :: rest)
    else
      let inside := if c = '[' then true else if c = ']' then false else bracketed
      let (host, tail) := cutHost inside rest
      (c :: host, tail)

def isForbiddenInHost (c : Char) : Bool :=
  c ∈ ['\x00', '\t', '\n', '\r', ' ', '#', '/', ':', '<', '>', '?', '@', '[', '\\', ']', '^', '|']

/-- One decimal part of a dotted address: at most 255, and no superfluous zero in front. -/
def isOctet (ds : List Char) : Bool :=
  isNumeral ds && (ds.length == 1 || ds.head? != some '0') && decide (numeralValue ds ≤ 255)

def isDottedAddress (cs : List Char) : Bool :=
  let octets := parts '.' cs
  octets.length == 4 && octets.all isOctet

def isHexGroup (cs : List Char) : Bool :=
  !cs.isEmpty && decide (cs.length ≤ 4) && cs.all fun c => (hexDigitValue? c).isSome

/-- The number of 16-bit pieces that colon-separated groups fill, where they are all well formed; a
dotted address may close the list and fills two. -/
def pieceCount? : List (List Char) → Option Nat
  | [] => some 0
  | [last] =>
    if isHexGroup last then some 1 else if isDottedAddress last then some 2 else none
  | group :: rest => if isHexGroup group then (pieceCount? rest).map (· + 1) else none

def cutDoubleColon? : List Char → Option (List Char × List Char)
  | ':' :: ':' :: rest => some ([], rest)
  | c :: rest => (cutDoubleColon? rest).map fun (before, after) => (c :: before, after)
  | [] => none

def sideCount? (cs : List Char) : Option Nat :=
  if cs.isEmpty then some 0 else pieceCount? (parts ':' cs)

def hasNoDot (cs : List Char) : Bool :=
  !cs.contains '.'

def isIpv6 (cs : List Char) : Bool :=
  match cutDoubleColon? cs with
  | some (before, after) =>
    match hasNoDot before, sideCount? before, sideCount? after with
    | true, some m, some n => decide (m + n ≤ 7)
    | _, _, _ => false
  | none => pieceCount? (parts ':' cs) == some 8

def hostFault? (host : List Char) : Option Fault :=
  if host.head? = some '[' then
    if host.getLast? = some ']' ∧ isIpv6 host.tail.dropLast then none else some .invalidIpv6
  else if host.any isForbiddenInHost then some .invalidHostCharacter
  else none

def portFault? (cs : List Char) : Option Fault :=
  let ds := cs.takeWhile fun c => c ≠ '\\'
  if ds.all Char.isDigit && decide (numeralValue ds ≤ 65535) then none else some .invalidPort

/-- User information counts when it holds more than one colon. -/
def isUserInfo (cs : List Char) : Bool :=
  !cs.isEmpty && cs != [':']

/-- The first fault of an authority, whose host is judged before the number behind it. -/
def authorityFault? (authority : List Char) (more : Bool) : Option Fault :=
  let (user, rest) := (cutLastAt? authority).getD ([], authority)
  let (host, behind) := cutHost false rest
  if '@' ∈ authority ∧ user = [] ∧ rest = [] ∧ more then some .emptyHost
  else
    (hostFault? host).or
      (if host = [] ∧ behind ≠ [] then some .emptyHost
      else if host = [] ∧ isUserInfo user ∧ behind = [] then some .emptyHost
      else portFault? behind.tail)

def fault? (url : String) : Option Fault :=
  let rest := ((cleaned url.toList).dropWhile (· ≠ ':')).drop 3
  authorityFault? (rest.takeWhile (!endsAuthority ·)) (rest.any endsAuthority)

end Url

/-- What lies beyond the connection URL: servers that answer, or do not. -/
structure Network where
  search : Connection → Query → Answer
  probe : Connection → Except DirectoryError Unit

def Network.offline : Network where
  search _ _ := .error (.connection "network is unreachable")
  probe _ := .error (.connection "network is unreachable")

/-- The bytes that the handle of a connection takes up, and the requests for room that are
granted. -/
structure Memory where
  handleSize : Nat
  grants : Nat → Bool

def Memory.ample : Memory :=
  ⟨1, fun _ => true⟩

namespace Ldaps

structure Pool where
  limit : Nat
  idle : Nat
  deriving DecidableEq

namespace Pool

def maxPermits : Nat := 2305843009213693951

def maxBytes : Nat := 9223372036854775807

/-- Room for all connections is set aside before the first is opened. -/
def new (m : Memory) (limit : Nat) : Except Crash Pool :=
  let bytes := limit * m.handleSize
  if maxPermits < limit then .error .tooManyPermits
  else if maxBytes < bytes then .error .capacityOverflow
  else if m.grants bytes then .ok ⟨limit, 0⟩
  else .error (.outOfMemory bytes)

end Pool

end Ldaps

structure Ldaps where
  connection : Connection
  checked : connection.fault? = none
  pool : Ldaps.Pool

namespace Ldaps

/-- A connection with a fault is refused; for any other a pool is made. -/
def new (m : Memory) (connection : Connection) : Except Crash (Except DirectoryError Ldaps) :=
  match h : connection.fault? with
  | some fault => .ok (.error fault.toError)
  | none => (Pool.new m connection.poolSize).map fun pool => .ok ⟨connection, h, pool⟩

def urlError? (d : Ldaps) : Option DirectoryError :=
  (Url.fault? d.connection.url).map fun fault =>
    .connection ("url parse error: " ++ fault.message)

def client (network : Network) (d : Ldaps) : Client Unit where
  search q state :=
    match d.urlError? with
    | some e => (.error e, state)
    | none => (network.search d.connection q, state)

def test (network : Network) (d : Ldaps) : Except DirectoryError Unit :=
  match d.urlError? with
  | some e => .error e
  | none => network.probe d.connection

end Ldaps

end NestedGroups
