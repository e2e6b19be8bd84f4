import NestedGroups.Directory
import NestedGroups.Failure
import NestedGroups.Resolution
import NestedGroups.Settings
import NestedGroups.Text.Basic
import NestedGroups.Text.Width
import NestedGroups.Value

namespace NestedGroups

namespace Table

open NestedGroups.Text

def lines (cs : List Char) : List (List Char) :=
  parts '\n' cs

def cellWidth (cell : List (List Char)) : Nat :=
  (cell.map width).foldl max 0

def pad (columnWidth : Nat) (line : List Char) : List Char :=
  line ++ List.replicate (columnWidth - width line) ' '

structure Border where
  left : Char
  fill : Char
  cross : Char
  right : Char

def top : Border := ⟨'╭', '─', '┬', '╮'⟩

def middle : Border := ⟨'├', '─', '┼', '┤'⟩

def bottom : Border := ⟨'╰', '─', '┴', '╯'⟩

def Border.draw (b : Border) (left right : Nat) : List Char :=
  b.left :: List.replicate (left + 2) b.fill ++ [b.cross] ++ List.replicate (right + 2) b.fill ++
    [b.right]

def rowLines (left right : Nat) (row : List (List Char) × List (List Char)) :
    List (List Char) :=
  (List.range (max row.1.length row.2.length)).map fun i =>
    "│ ".toList ++ pad left (row.1.getD i []) ++ " │ ".toList ++ pad right (row.2.getD i []) ++
      " │".toList

/-- A table of two columns under a heading, without a line break at the end. The line under the
heading is the last one where no rows follow. -/
def render (heading : String × String) (rows : List (String × String)) : String :=
  let cells (row : String × String) := (lines row.1.toList, lines row.2.toList)
  let head := cells heading
  let body := rows.map cells
  let left := ((head :: body).map (cellWidth ·.1)).foldl max 0
  let right := ((head :: body).map (cellWidth ·.2)).foldl max 0
  let above := top.draw left right :: rowLines left right head ++ [middle.draw left right]
  let below :=
    if body.isEmpty then [] else body.flatMap (rowLines left right) ++ [bottom.draw left right]
  .ofList (List.intercalate ['\n'] (above ++ below))

end Table

structure Report.Row where
  role : String
  source : String
  deriving DecidableEq

structure Report where
  userDn : String
  username : String
  rows : List Report.Row
  stats : Option Stats
  deriving DecidableEq

namespace Report

def Row.le (a b : Row) : Bool :=
  decide (a.role < b.role) || (a.role == b.role && decide (a.source ≤ b.source))

def rowsOf (found : AuthoritySet) : List Row :=
  (found.toList.map fun a => ⟨a.role, a.dn⟩).mergeSort Row.le

def usernameOf (dn : String) (username : Option String) : String :=
  username.getD (DistinguishedName.firstValue dn)

def ofResolution (dn username : String) (wantStats : Bool) (found : Resolution) : Report :=
  ⟨dn, username, rowsOf found.authorities, if wantStats then some found.stats else none⟩

structure Outcome (σ : Type) where
  result : Except Failure Report
  client : σ
  events : List Event

def ofUser {σ : Type} (r : Resolver σ) (dn : String) (username : Option String)
    (wantStats : Bool) (state : σ) : Outcome σ :=
  if Text.isAllBlank dn then
    ⟨.error (.invalidArgument "user DN cannot be empty"), state, []⟩
  else
    let name := usernameOf dn username
    let outcome := r.resolve dn name state
    ⟨match outcome.result with
      | .error e => .error (.directory e)
      | .ok found =>
        let all := r.settings.grantDefault dn found.authorities
        .ok (ofResolution dn name wantStats { found with authorities := all }),
      outcome.client, outcome.events⟩

def Row.toValue (row : Row) : Value :=
  .table [("role", .text row.role), ("source", .text row.source)]

def statsValue (s : Stats) : Value :=
  .table
    [("queries", .ofNat s.queries), ("cycles_detected", .ofNat s.cycles),
      ("depth_exhausted", .ofNat s.exhausted)]

def toValue (r : Report) : Value :=
  .table
    ([("user_dn", .text r.userDn), ("username", .text r.username),
        ("authorities", .list (r.rows.map Row.toValue))] ++
      (r.stats.map fun s => ("stats", statsValue s)).toList)

def table (rows : List Row) : String :=
  Table.render ("role", "source") (rows.map fun row => (row.role, row.source))

def statsLine (s : Stats) : String :=
  toString s.queries ++ " queries, " ++ toString s.cycles ++ " cycles stopped, " ++
    toString s.exhausted ++ " branches at depth limit"

/-- Only the table prints counters as a line of its own; quiet output is a role to a line. -/
def print (r : Report) : OutputFormat → String
  | .table =>
    (if r.rows.isEmpty then Message.note "No results found." else table r.rows ++ "\n") ++
      (match r.stats with
      | some s => "\n" ++ Message.note (statsLine s)
      | none => "")
  | .json => Json.pretty "" r.toValue ++ "\n"
  | .quiet => String.join (r.rows.map (·.role ++ "\n"))

end Report

end NestedGroups
