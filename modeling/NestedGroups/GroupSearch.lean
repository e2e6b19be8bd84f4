import NestedGroups.Entry
import NestedGroups.Failure
import NestedGroups.Filter
import NestedGroups.NameMap
import NestedGroups.Text.Case

namespace NestedGroups

structure RoleStyle where
  lead : String
  capitals : Bool
  deriving DecidableEq

/-- The role that a label names; an empty label leaves the lead alone. -/
def RoleStyle.roleOf (style : RoleStyle) (label : String) : String :=
  style.lead ++ if style.capitals then Text.upperCase label else label

structure GroupSearch where
  /-- Where groups are searched; without a base nothing is searched. -/
  base : Option String
  filter : Filter.Template
  roleAttribute : String
  style : RoleStyle
  defaultRole : Option String
  maxDepth : Nat
  /-- Fetched for every group; none means all. -/
  requested : NameSet
  deriving DecidableEq

namespace GroupSearch

def defaultRoleAttribute : String := "cn"

def defaultLead : String := "ROLE_"

def defaultDepth : Nat := 10

inductive Assignment where
  | base (text : String)
  | filter (text : String)
  | roleAttribute (name : String)
  | lead (text : String)
  | capitals (on : Bool)
  | defaultRole (label : String)
  | maxDepth (depth : Nat)
  | requested (names : List String)
  deriving DecidableEq

structure Draft where
  base : Option String := none
  filter : Option String := none
  roleAttribute : String := defaultRoleAttribute
  style : RoleStyle := ⟨defaultLead, true⟩
  defaultRole : Option String := none
  maxDepth : Nat := defaultDepth
  requested : NameSet := .empty
  deriving DecidableEq

namespace Draft

def assign (d : Draft) : Assignment → Draft
  | .base text => { d with base := some text }
  | .filter text => { d with filter := some text }
  | .roleAttribute name => { d with roleAttribute := name }
  | .lead text => { d with style := { d.style with lead := text } }
  | .capitals on => { d with style := { d.style with capitals := on } }
  | .defaultRole label => { d with defaultRole := some label }
  | .maxDepth depth => { d with maxDepth := depth }
  | .requested names => { d with requested := d.requested.insertAll names }

/-- The settings under a filter: a blank base and an empty default role count as not given, and the
role attribute is requested unless its name is blank. -/
def settings (d : Draft) (filter : Filter.Template) : GroupSearch where
  base := d.base.filter (!Text.isAllBlank ·)
  filter := filter
  roleAttribute := d.roleAttribute
  style := d.style
  defaultRole := d.defaultRole.filter (!·.isEmpty)
  maxDepth := d.maxDepth
  requested :=
    if Text.isAllBlank d.roleAttribute then d.requested else d.requested.insert d.roleAttribute

def build (d : Draft) : Except DirectoryError GroupSearch :=
  match d.filter with
  | none => .ok (d.settings .default)
  | some text =>
    match Filter.Template.parse text with
    | .error fault => .error (.invalidFilter (fault.message text))
    | .ok filter => .ok (d.settings filter)

end Draft

def ofAssignments (assignments : List Assignment) : Except DirectoryError GroupSearch :=
  (assignments.foldl Draft.assign {}).build

def default : GroupSearch :=
  ({} : Draft).settings .default

def isEnabled (g : GroupSearch) : Bool :=
  g.base.isSome

end GroupSearch

def distinct : List String → List String
  | [] => []
  | x :: xs => x :: (distinct xs).filter (· ≠ x)

theorem mem_distinct {x : String} {xs : List String} : x ∈ distinct xs ↔ x ∈ xs := by
  induction xs with
  | nil => rfl
  | cons y ys ih => by_cases h : x = y <;> simp [distinct, ih, h]

theorem nodup_distinct (xs : List String) : (distinct xs).Nodup := by
  induction xs with
  | nil => exact .nil
  | cons y ys ih =>
    rw [distinct, List.nodup_cons]
    exact ⟨by simp, ih.sublist List.filter_sublist⟩

namespace GroupSearch

def labels (g : GroupSearch) (e : Entry) : List String :=
  distinct (e.values g.roleAttribute)

def authorities (g : GroupSearch) (e : Entry) : List Authority :=
  (g.labels e).map fun label => ⟨g.style.roleOf label, e.dn, e.attributes⟩

/-- How an entry is called in the search for its own parents. -/
def parentLabel (g : GroupSearch) (e : Entry) : String :=
  (g.labels e).head?.getD e.dn

def grantDefault (g : GroupSearch) (dn : String) (found : AuthoritySet) : AuthoritySet :=
  match g.defaultRole with
  | none => found
  | some label => found.insert ⟨g.style.roleOf label, dn, .empty⟩

end GroupSearch

def AuthoritySet.register (found : AuthoritySet) : List Authority → AuthoritySet × Bool
  | [] => (found, false)
  | a :: as =>
    let (all, again) := (found.insert a).register as
    (all, found.contains a || again)

end NestedGroups
