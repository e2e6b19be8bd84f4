import NestedGroups.NameMap
import NestedGroups.Text.Case

namespace NestedGroups

open NestedGroups.Text

abbrev Attributes := NameMap (List String)

namespace Attributes

def add (attributes : Attributes) (name : String) (values : List String) : Attributes :=
  attributes.update name (·.getD [] ++ values)

/-- The values under exactly this name, else under a name that differs from it in case only. Where
there are several such names, any of them may be taken: to take the first in order is a choice. -/
def values (attributes : Attributes) (name : String) : List String :=
  match attributes.get? name with
  | some vs => vs
  | none =>
    match attributes.find? (sameFold · name) with
    | some (_, vs) => vs
    | none => []

def ofList (attributes : List (String × List String)) : Attributes :=
  attributes.foldl (fun found (name, values) => found.add name values) .empty

end Attributes

structure Entry where
  dn : String
  attributes : Attributes
  deriving DecidableEq

structure RawEntry where
  dn : String
  text : Attributes
  binary : NameMap (List (List UInt8))

namespace Entry

def dnName : String := "dn"

def ofList (dn : String) (attributes : List (String × List String)) : Entry :=
  ⟨dn, .ofList attributes⟩

/-- Binary values are dropped. -/
def ofRaw (raw : RawEntry) : Entry :=
  ⟨raw.dn, raw.text⟩

def add (e : Entry) (name : String) (values : List String) : Entry :=
  { e with attributes := e.attributes.add name values }

def values (e : Entry) (name : String) : List String :=
  if name = dnName then [e.dn] else e.attributes.values name

def first? (e : Entry) (name : String) : Option String :=
  (e.values name).head?

def has (e : Entry) (name : String) : Bool :=
  !(e.values name).isEmpty

/-- The requested attributes that have values; an empty request keeps the entry whole. -/
def project (requested : NameSet) (e : Entry) : Entry :=
  if requested.toList.isEmpty then e
  else
    requested.toList.foldl
      (fun kept name => if e.has name then kept.add name (e.values name) else kept)
      ⟨e.dn, .empty⟩

theorem project_dn (requested : NameSet) (e : Entry) : (e.project requested).dn = e.dn := by
  have h (names : List String) (kept : Entry) :
      (names.foldl (fun kept name => if e.has name then kept.add name (e.values name) else kept)
        kept).dn = kept.dn := by
    induction names generalizing kept with
    | nil => rfl
    | cons name names ih =>
      rw [List.foldl_cons, ih]
      split <;> rfl
  rw [project]
  split
  · rfl
  · exact h _ _

end Entry

structure Authority where
  role : String
  dn : String
  attributes : Attributes := .empty
  deriving DecidableEq

def Authority.key (a : Authority) : String × String :=
  (a.role, a.dn)

/-- Authorities in the order of their arrival, no two of them the same. -/
structure AuthoritySet where
  toList : List Authority
  nodup : (toList.map Authority.key).Nodup
  deriving DecidableEq

namespace AuthoritySet

def empty : AuthoritySet :=
  ⟨[], .nil⟩

instance : Inhabited AuthoritySet := ⟨empty⟩

def keys (s : AuthoritySet) : List (String × String) :=
  s.toList.map Authority.key

def size (s : AuthoritySet) : Nat :=
  s.toList.length

def contains (s : AuthoritySet) (a : Authority) : Bool :=
  decide (a.key ∈ s.keys)

def find? (s : AuthoritySet) (role dn : String) : Option Authority :=
  s.toList.find? (·.key == (role, dn))

/-- An authority that is already there stays, with the attributes it has. -/
def insert (s : AuthoritySet) (a : Authority) : AuthoritySet :=
  if h : a.key ∈ s.keys then s
  else
    ⟨s.toList ++ [a], by
      rw [List.map_append, List.map_singleton]
      exact List.nodup_append.2 ⟨s.nodup, by simp, fun k hk _ ha he => by
        simp at ha
        exact h (ha ▸ he ▸ hk)⟩⟩

def erase (s : AuthoritySet) (a : Authority) : AuthoritySet :=
  ⟨s.toList.filter (·.key != a.key), s.nodup.sublist (List.filter_sublist.map _)⟩

theorem keys_insert (s : AuthoritySet) (a : Authority) :
    (s.insert a).keys = if a.key ∈ s.keys then s.keys else s.keys ++ [a.key] := by
  rw [insert]
  split <;> simp [keys, *]

theorem mem_keys_insert {s : AuthoritySet} {a : Authority} {key : String × String} :
    key ∈ (s.insert a).keys ↔ key = a.key ∨ key ∈ s.keys := by
  rw [keys_insert]
  split <;> grind

end AuthoritySet

end NestedGroups
