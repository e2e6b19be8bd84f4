import NestedGroups.Proofs.Lists
import NestedGroups.Settings

namespace NestedGroups

namespace NameSet

theorem eq_of_forall_mem_iff {s t : NameSet} (h : ∀ name, name ∈ s ↔ name ∈ t) : s = t := by
  have hs : s.toList.Nodup := s.sorted.imp String.ne_of_lt
  have ht : t.toList.Nodup := t.sorted.imp String.ne_of_lt
  have hperm : s.toList.Perm t.toList := (List.perm_ext_iff_of_nodup hs ht).2 h
  have hlist : s.toList = t.toList := by
    apply hperm.eq_of_pairwise _ s.sorted t.sorted
    intro a b _ _ hab hba
    exact (String.lt_irrefl a (String.lt_trans hab hba)).elim
  cases s
  cases t
  cases hlist
  rfl

theorem insertAll_append (s : NameSet) (names more : List String) :
    s.insertAll (names ++ more) = (s.insertAll names).insertAll more :=
  List.foldl_append

theorem mem_ofList {names : List String} {name : String} : name ∈ ofList names ↔ name ∈ names := by
  rw [ofList, mem_insertAll]
  exact or_iff_left List.not_mem_nil

end NameSet

theorem Filter.Template.parse_eq_error_iff {text : String} {fault : Fault} :
    parse text = .error fault ↔ fault? text = some fault := by
  rw [parse]
  split
  · rename_i other h
    rw [h, Option.some.injEq, Except.error.injEq]
  · rename_i h
    simp only [h, reduceCtorEq]

namespace GroupSearch

namespace Assignment

def base? : Assignment → Option String
  | .base text => some text
  | _ => none

def filter? : Assignment → Option String
  | .filter text => some text
  | _ => none

def roleAttribute? : Assignment → Option String
  | .roleAttribute name => some name
  | _ => none

def lead? : Assignment → Option String
  | .lead text => some text
  | _ => none

def capitals? : Assignment → Option Bool
  | .capitals on => some on
  | _ => none

def defaultRole? : Assignment → Option String
  | .defaultRole label => some label
  | _ => none

def maxDepth? : Assignment → Option Nat
  | .maxDepth depth => some depth
  | _ => none

def requested? : Assignment → Option (List String)
  | .requested names => some names
  | _ => none

theorem requested?_eq_some_iff {a : Assignment} {names : List String} :
    a.requested? = some names ↔ a = .requested names := by
  cases a <;> simp [requested?]

end Assignment

open Assignment

def Draft.ofAssignments (as : List Assignment) : Draft where
  base := lastGiven base? as
  filter := lastGiven filter? as
  roleAttribute := (lastGiven roleAttribute? as).getD defaultRoleAttribute
  style :=
    { lead := (lastGiven lead? as).getD defaultLead
      capitals := (lastGiven capitals? as).getD true }
  defaultRole := lastGiven defaultRole? as
  maxDepth := (lastGiven maxDepth? as).getD defaultDepth
  requested := .ofList (as.filterMap requested?).flatten

namespace Draft

theorem requested_foldl_assign (as : List Assignment) (d : Draft) :
    (as.foldl assign d).requested = d.requested.insertAll (as.filterMap requested?).flatten := by
  induction as generalizing d with
  | nil => rfl
  | cons a as ih =>
    rw [List.foldl_cons, ih]
    cases a with
    | requested names => exact (NameSet.insertAll_append d.requested names _).symm
    | _ => rfl

theorem foldl_assign (as : List Assignment) : as.foldl assign {} = ofAssignments as := by
  have hbase : (as.foldl assign {}).base = (lastGiven base? as).or none :=
    foldl_assign_or Draft.base (fun d a => by cases a <;> rfl) as {}
  have hfilter : (as.foldl assign {}).filter = (lastGiven filter? as).or none :=
    foldl_assign_or Draft.filter (fun d a => by cases a <;> rfl) as {}
  have hroleAttribute : (as.foldl assign {}).roleAttribute =
      (lastGiven roleAttribute? as).getD defaultRoleAttribute :=
    foldl_assign_getD Draft.roleAttribute (fun d a => by cases a <;> rfl) as {}
  have hlead : (as.foldl assign {}).style.lead = (lastGiven lead? as).getD defaultLead :=
    foldl_assign_getD (fun d : Draft => d.style.lead) (fun d a => by cases a <;> rfl) as {}
  have hcapitals : (as.foldl assign {}).style.capitals = (lastGiven capitals? as).getD true :=
    foldl_assign_getD (fun d : Draft => d.style.capitals) (fun d a => by cases a <;> rfl) as {}
  have hdefaultRole : (as.foldl assign {}).defaultRole = (lastGiven defaultRole? as).or none :=
    foldl_assign_or Draft.defaultRole (fun d a => by cases a <;> rfl) as {}
  have hmaxDepth : (as.foldl assign {}).maxDepth = (lastGiven maxDepth? as).getD defaultDepth :=
    foldl_assign_getD Draft.maxDepth (fun d a => by cases a <;> rfl) as {}
  have hrequested := requested_foldl_assign as {}
  rw [Option.or_none] at hbase hfilter hdefaultRole
  generalize as.foldl assign {} = d at *
  obtain ⟨base, filter, roleAttribute, ⟨lead, capitals⟩, defaultRole, maxDepth, requested⟩ := d
  subst hbase hfilter hroleAttribute hlead hcapitals hdefaultRole hmaxDepth hrequested
  rfl

end Draft

/-- The settings hold what was assigned last, or the default; a blank base and an empty default role
count as none, and the attribute of the roles joins the names that were requested. -/
structure Meets (g : GroupSearch) (as : List Assignment) : Prop where
  base : g.base = (lastGiven base? as).filter (!Text.isAllBlank ·)
  filter : g.filter.text = (lastGiven filter? as).getD Filter.Template.default.text
  roleAttribute : g.roleAttribute = (lastGiven roleAttribute? as).getD defaultRoleAttribute
  lead : g.style.lead = (lastGiven lead? as).getD defaultLead
  capitals : g.style.capitals = (lastGiven capitals? as).getD true
  defaultRole : g.defaultRole = (lastGiven defaultRole? as).filter (!·.isEmpty)
  maxDepth : g.maxDepth = (lastGiven maxDepth? as).getD defaultDepth
  requested : ∀ name, name ∈ g.requested ↔
    (∃ names, .requested names ∈ as ∧ name ∈ names) ∨
      name = g.roleAttribute ∧ Text.isAllBlank g.roleAttribute = false

variable {as bs : List Assignment} {g : GroupSearch}

theorem mem_requested_settings (d : Draft) (filter : Filter.Template) (name : String) :
    name ∈ (d.settings filter).requested ↔
      name ∈ d.requested ∨ name = d.roleAttribute ∧ Text.isAllBlank d.roleAttribute = false := by
  rw [Draft.settings]
  cases Text.isAllBlank d.roleAttribute with
  | true => exact (or_iff_left fun h => Bool.false_ne_true h.2.symm).symm
  | false =>
    change name ∈ d.requested.insert d.roleAttribute ↔ _
    rw [NameSet.mem_insert, or_comm, and_iff_left rfl]

theorem mem_requested_ofAssignments (as : List Assignment) (name : String) :
    name ∈ (Draft.ofAssignments as).requested ↔
      ∃ names, .requested names ∈ as ∧ name ∈ names := by
  rw [Draft.ofAssignments, NameSet.mem_ofList]
  simp only [List.mem_flatten, List.mem_filterMap, requested?_eq_some_iff, exists_eq_right]

theorem meets_settings (filter : Filter.Template)
    (h : filter.text = (lastGiven filter? as).getD Filter.Template.default.text) :
    ((Draft.ofAssignments as).settings filter).Meets as where
  base := rfl
  filter := h
  roleAttribute := rfl
  lead := rfl
  capitals := rfl
  defaultRole := rfl
  maxDepth := rfl
  requested name := by
    rw [mem_requested_settings, mem_requested_ofAssignments]
    rfl

theorem Meets.eq_settings (h : g.Meets as) : g = (Draft.ofAssignments as).settings g.filter := by
  have hmeets : ((Draft.ofAssignments as).settings g.filter).Meets as := meets_settings _ h.filter
  have hrequested : g.requested = ((Draft.ofAssignments as).settings g.filter).requested := by
    apply NameSet.eq_of_forall_mem_iff
    intro name
    rw [h.requested, hmeets.requested, h.roleAttribute, hmeets.roleAttribute]
  obtain ⟨base, filter, roleAttribute, ⟨lead, capitals⟩, defaultRole, maxDepth, requested⟩ := g
  obtain ⟨rfl, -, rfl, rfl, rfl, rfl, rfl, -⟩ := h
  rw [show requested = _ from hrequested]
  rfl

theorem ofAssignments_eq_of_parse (as : List Assignment) :
    ofAssignments as =
      let text := (lastGiven filter? as).getD Filter.Template.default.text
      match Filter.Template.parse text with
      | .error fault => .error (.invalidFilter (fault.message text))
      | .ok filter => .ok ((Draft.ofAssignments as).settings filter) := by
  have hfilter : (Draft.ofAssignments as).filter = lastGiven filter? as := rfl
  rw [GroupSearch.ofAssignments, Draft.foldl_assign, Draft.build, hfilter]
  cases lastGiven filter? as with
  | none => simp only [Option.getD_none, Filter.Template.parse_text]
  | some text => rfl

theorem ofAssignments_eq_error_iff {e : DirectoryError} :
    ofAssignments as = .error e ↔
      ∃ text fault, lastGiven filter? as = some text ∧ Filter.fault? text = some fault ∧
        e = .invalidFilter (fault.message text) := by
  rw [ofAssignments_eq_of_parse]
  constructor
  · intro h
    cases hlast : lastGiven filter? as with
    | none =>
      simp only [hlast, Option.getD_none, Filter.Template.parse_text, reduceCtorEq] at h
    | some text =>
      simp only [hlast, Option.getD_some] at h
      split at h
      · rename_i fault hparse
        cases h
        exact ⟨text, fault, rfl, Filter.Template.parse_eq_error_iff.1 hparse, rfl⟩
      · cases h
  · rintro ⟨text, fault, hlast, hfault, rfl⟩
    simp only [hlast, Option.getD_some, Filter.Template.parse_eq_error_iff.2 hfault]

theorem ofAssignments_eq_ok_iff : ofAssignments as = .ok g ↔ g.Meets as := by
  rw [ofAssignments_eq_of_parse]
  constructor
  · intro h
    dsimp only at h
    split at h
    · cases h
    · rename_i filter hparse
      cases h
      exact meets_settings filter (Filter.Template.parse_eq_ok_iff.1 hparse)
  · intro h
    dsimp only
    rw [Filter.Template.parse_eq_ok_iff.2 h.filter]
    exact congrArg Except.ok h.eq_settings.symm

end GroupSearch

open GroupSearch GroupSearch.Assignment

/-- Every field that the file gives is assigned once, wherever among the others, and a depth that is
given elsewhere takes the place of the file's. -/
structure GroupSettings.Assigned (groups : GroupSettings) (depth : Option Nat)
    (as : List Assignment) : Prop where
  base : as.filterMap base? = groups.base.toList
  filter : as.filterMap filter? = groups.filter.toList
  roleAttribute : as.filterMap roleAttribute? = [groups.roleAttribute]
  lead : as.filterMap lead? = [groups.style.lead]
  capitals : as.filterMap capitals? = [groups.style.capitals]
  defaultRole : as.filterMap defaultRole? = groups.defaultRole.toList
  maxDepth : as.filterMap maxDepth? = [depth.getD groups.maxDepth]
  requested : as.filterMap requested? = [groups.requested]

theorem GroupSettings.assigned_groupAssignments (groups : GroupSettings) (depth : Option Nat) :
    groups.Assigned depth (Settings.groupAssignments groups depth) := by
  obtain ⟨base, filter, roleAttribute, style, defaultRole, maxDepth, requested⟩ := groups
  constructor
  all_goals cases base <;> cases filter <;> cases defaultRole <;> rfl

namespace GroupSettings.Assigned

variable {groups : GroupSettings} {depth : Option Nat} {as bs : List Assignment}

theorem ofAssignments_eq (h : groups.Assigned depth as) (h' : groups.Assigned depth bs) :
    ofAssignments as = ofAssignments bs := by
  have hdraft : Draft.ofAssignments as = Draft.ofAssignments bs := by
    simp only [Draft.ofAssignments, lastGiven, h.base, h.filter, h.roleAttribute, h.lead,
      h.capitals, h.defaultRole, h.maxDepth, h.requested, h'.base, h'.filter, h'.roleAttribute,
      h'.lead, h'.capitals, h'.defaultRole, h'.maxDepth, h'.requested]
  rw [GroupSearch.ofAssignments, GroupSearch.ofAssignments, Draft.foldl_assign,
    Draft.foldl_assign, hdraft]

theorem lastGiven_maxDepth (h : groups.Assigned depth as) :
    lastGiven maxDepth? as = some (depth.getD groups.maxDepth) := by
  rw [lastGiven, h.maxDepth]
  rfl

end GroupSettings.Assigned

/-- Settings are made from what was assigned last. They fail if the last filter is no template,
whatever filters were given before it. A file makes the settings that its fields make when they are
assigned one by one, except that a depth which is given elsewhere replaces its own. -/
theorem GroupSearch.ofAssignments_eq_last (as : List Assignment) (s : Settings)
    (depth : Option Nat) :
    (∀ e, ofAssignments as = .error e ↔
      ∃ text fault, lastGiven filter? as = some text ∧ Filter.fault? text = some fault ∧
        e = .invalidFilter (fault.message text)) ∧
      (∀ g, ofAssignments as = .ok g ↔ g.Meets as) ∧
      (s.groups.Assigned depth as →
        s.groupSearch depth = (ofAssignments as).mapError .directory) ∧
      ∀ g, s.groupSearch depth = .ok g → g.maxDepth = depth.getD s.groups.maxDepth := by
  refine ⟨fun e => ofAssignments_eq_error_iff, fun g => ofAssignments_eq_ok_iff, ?_, ?_⟩
  · intro h
    rw [Settings.groupSearch, h.ofAssignments_eq (s.groups.assigned_groupAssignments depth)]
  · intro g h
    have hassigned := s.groups.assigned_groupAssignments depth
    rw [Settings.groupSearch] at h
    cases hbuilt : ofAssignments (Settings.groupAssignments s.groups depth) with
    | error e =>
      rw [hbuilt] at h
      cases h
    | ok built =>
      rw [hbuilt] at h
      cases h
      rw [(ofAssignments_eq_ok_iff.1 hbuilt).maxDepth, hassigned.lastGiven_maxDepth]
      rfl

/-- A filter without an end and a role attribute that are both replaced later leave no trace. -/
theorem GroupSearch.ofAssignments_eq_last_of_replaced :
    let s : Settings :=
      { groups := { base := some "ou=g", filter := some "(cn=\x7b1\x7d)", requested := ["mail"] } }
    let as : List Assignment :=
      [.requested ["mail"], .maxDepth 7, .filter "(cn=\x7b1\x7d)", .lead "ROLE_", .base "ou=g",
        .capitals true, .roleAttribute "cn"]
    s.groups.Assigned (some 7) as ∧
      ∃ g, s.groupSearch (some 7) = .ok g ∧ g.maxDepth = 7 ∧
        ofAssignments (.filter "(" :: .roleAttribute "ou" :: as) = .ok g ∧ "ou" ∉ g.requested := by
  intro s as
  obtain ⟨-, hmeets, hfile, hdepth⟩ := ofAssignments_eq_last as s (some 7)
  obtain ⟨hfails, hmeets', -⟩ :=
    ofAssignments_eq_last (.filter "(" :: .roleAttribute "ou" :: as) s (some 7)
  have hassigned : s.groups.Assigned (some 7) as := by
    constructor <;> rfl
  have hlast : lastGiven filter? as = some "(cn=\x7b1\x7d)" := rfl
  cases hbuilt : ofAssignments (.filter "(" :: .roleAttribute "ou" :: as) with
  | error e =>
    obtain ⟨text, fault, htext, hfault, -⟩ := (hfails e).1 hbuilt
    cases hlast.symm.trans htext
    have hnone : Filter.fault? "(cn=\x7b1\x7d)" = none := by decide +kernel
    cases hnone.symm.trans hfault
  | ok g =>
    have hg := (hmeets' g).1 hbuilt
    have hsame : ofAssignments as = .ok g :=
      (hmeets g).2 { hg with requested := by simpa using hg.requested }
    have hgroups : s.groupSearch (some 7) = .ok g := by
      rw [hfile hassigned, hsame]
      rfl
    refine ⟨hassigned, g, hgroups, hdepth g hgroups, rfl, ?_⟩
    have hrole : g.roleAttribute = "cn" := hg.roleAttribute
    rw [hg.requested, hrole]
    simp [as]

end NestedGroups
