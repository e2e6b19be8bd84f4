import NestedGroups.Entry
import NestedGroups.Failure
import NestedGroups.Filter
import NestedGroups.Text.Basic
import NestedGroups.Text.Case

namespace NestedGroups

structure Query where
  base : String
  filter : Filter.Template
  identity : String
  label : String
  attributes : NameSet
  deriving DecidableEq

def Query.filterText (q : Query) : String :=
  q.filter.render q.identity q.label

abbrev Answer := Except DirectoryError (List Entry)

/-- A client is its reaction to a query, which may read and change a state of its own. -/
structure Client (σ : Type) where
  search : Query → σ → Answer × σ

structure Query.Record where
  base : String
  filter : String
  identity : String
  label : String
  attributes : NameSet
  deriving DecidableEq

def Query.record (q : Query) : Query.Record :=
  ⟨q.base, q.filterText, q.identity, q.label, q.attributes⟩

structure Scripted where
  answers : List Answer

namespace Scripted

def client (d : Scripted) : Client (List Query.Record) where
  search q journal := ((d.answers[journal.length]?).getD (.ok []), journal ++ [q.record])

end Scripted

namespace DistinguishedName

open NestedGroups.Text

/-- A name lies under a base when it is the base or ends in a comma and the base. -/
def isUnder (dn base : String) : Bool :=
  base.isEmpty || sameFold dn base ||
    (',' :: (fold base).toList).isSuffixOf (fold dn).toList

/-- The value of the first relative name, or the whole name where that value is missing or blank.
The relative name ends at the first comma. -/
def firstValue (dn : String) : String :=
  let relative := dn.toList.takeWhile (· ≠ ',')
  match trimChars (relative.dropWhile (· ≠ '=')).tail with
  | [] => dn
  | value => .ofList value

theorem isUnder_empty (dn : String) : isUnder dn "" = true := rfl

theorem isUnder_refl (dn : String) : isUnder dn dn = true := by
  simp [isUnder, sameFold_refl]

end DistinguishedName

open NestedGroups.Text

structure InMemory where
  entries : List Entry
  membership : String := "member"
  /-- The number of the query that fails, counted from one. -/
  failOn : Option Nat := none
  deriving DecidableEq

namespace InMemory

abbrev Journal := List Query.Record

/-- An entry lists an identity when the case of letters does not tell it from a member. -/
def lists (d : InMemory) (e : Entry) (identity : String) : Bool :=
  (e.values d.membership).any (sameFold · identity)

def parents (d : InMemory) (base identity : String) : List Entry :=
  d.entries.filter fun e => DistinguishedName.isUnder e.dn base && d.lists e identity

def answer (d : InMemory) (q : Query) : List Entry :=
  (d.parents q.base q.identity).map (Entry.project q.attributes)

def injectedFailure (n : Nat) : DirectoryError :=
  .connection ("injected failure on query " ++ toString n)

def client (d : InMemory) : Client Journal where
  search q journal :=
    let n := journal.length + 1
    let reply := if d.failOn = some n then .error (injectedFailure n) else .ok (d.answer q)
    (reply, journal ++ [q.record])

end InMemory

end NestedGroups
