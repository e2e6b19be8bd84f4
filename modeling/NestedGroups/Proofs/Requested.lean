import NestedGroups.Proofs.Exploration

namespace NestedGroups

open NestedGroups.Text

namespace NameMap

variable {α : Type} {m : NameMap α}

theorem get?_eq_some_iff {name : String} {a : α} :
    m.get? name = some a ↔ (name, a) ∈ m.toList := by
  have hne : m.toList.Pairwise fun p q => p.1 ≠ q.1 := m.sorted.imp String.ne_of_lt
  constructor
  · intro h
    obtain ⟨before, after, heq, -⟩ := List.lookup_eq_some_iff.1 h
    rw [heq]
    exact List.mem_append_right before List.mem_cons_self
  · intro h
    obtain ⟨before, after, heq⟩ := List.append_of_mem h
    rw [heq, List.pairwise_append] at hne
    refine List.lookup_eq_some_iff.2 ⟨before, after, heq, fun p hp => ?_⟩
    exact bne_iff_ne.2 (hne.2.2 p hp _ List.mem_cons_self).symm

theorem of_find? {test : String → Bool} {p : String × α} (h : m.find? test = some p) :
    p ∈ m.toList ∧ test p.1 = true := by
  rw [find?] at h
  have htest := List.find?_some h
  exact ⟨List.mem_of_find?_eq_some h, htest⟩

end NameMap

namespace Attributes

variable {attributes : Attributes} {name other : String} {values : List String}

/-- The names differ in more than the case of letters. -/
def Distinct (attributes : Attributes) : Prop :=
  (attributes.toList.map fun p => fold p.1).Nodup

instance (attributes : Attributes) : Decidable attributes.Distinct :=
  inferInstanceAs (Decidable (List.Nodup _))

theorem exists_mem_of_values_ne_nil (h : attributes.values name ≠ []) :
    ∃ p ∈ attributes.toList, sameFold p.1 name = true ∧ p.2 = attributes.values name := by
  rw [Attributes.values] at h ⊢
  split
  · rename_i vs hget
    exact ⟨_, NameMap.get?_eq_some_iff.1 hget, sameFold_refl name, rfl⟩
  · rename_i hget
    rw [hget] at h
    split
    · rename_i found vs hfind
      obtain ⟨hmem, hsame⟩ := NameMap.of_find? hfind
      exact ⟨_, hmem, hsame, rfl⟩
    · rename_i hfind
      simp only [hfind, ne_eq, not_true_eq_false] at h

theorem Distinct.values_eq (hdistinct : attributes.Distinct) {p : String × List String}
    (hp : p ∈ attributes.toList) (hname : sameFold p.1 name = true) :
    attributes.values name = p.2 := by
  have hunique : ∀ q ∈ attributes.toList, sameFold q.1 name = true → q = p := by
    intro q hq hsame
    apply List.inj_on_of_nodup_map hdistinct hq hp
    exact (sameFold_iff.1 hsame).trans (sameFold_iff.1 hname).symm
  rw [Attributes.values]
  split
  · rename_i vs hget
    rw [← hunique _ (NameMap.get?_eq_some_iff.1 hget) (sameFold_refl name)]
  · split
    · rename_i found vs hfind
      obtain ⟨hmem, hsame⟩ := NameMap.of_find? hfind
      rw [← hunique _ hmem hsame]
    · rename_i hfind
      exact absurd hname (List.find?_eq_none.1 hfind p hp)

theorem get?_add_self :
    (attributes.add name values).get? name =
      some ((attributes.get? name).getD [] ++ values) := by
  rw [add, NameMap.get?_update, if_pos rfl]

theorem get?_add_of_ne (h : other ≠ name) :
    (attributes.add name values).get? other = attributes.get? other := by
  rw [add, NameMap.get?_update, if_neg h]

theorem values_of_get? (h : attributes.get? name = some values) :
    attributes.values name = values := by
  rw [Attributes.values, h]

end Attributes

namespace Entry

def keep (e kept : Entry) (name : String) : Entry :=
  if e.has name then kept.add name (e.values name) else kept

variable {e kept : Entry} {name other : String} {names : List String}

theorem get?_keep_of_ne (h : other ≠ name) :
    (e.keep kept name).attributes.get? other = kept.attributes.get? other := by
  rw [keep]
  split
  · exact Attributes.get?_add_of_ne h
  · rfl

theorem get?_foldl_keep_of_not_mem (h : name ∉ names) :
    (names.foldl e.keep kept).attributes.get? name = kept.attributes.get? name := by
  induction names generalizing kept with
  | nil => rfl
  | cons other names ih =>
    rw [List.mem_cons, not_or] at h
    rw [List.foldl_cons, ih h.2, get?_keep_of_ne h.1]

theorem get?_foldl_keep (hhas : e.has name = true) (hnone : kept.attributes.get? name = none)
    (hnodup : names.Nodup) (h : name ∈ names) :
    (names.foldl e.keep kept).attributes.get? name = some (e.values name) := by
  induction names generalizing kept with
  | nil => cases h
  | cons other names ih =>
    obtain ⟨hother, hnames⟩ := List.nodup_cons.1 hnodup
    rw [List.foldl_cons]
    rcases List.mem_cons.1 h with rfl | hmem
    · rw [get?_foldl_keep_of_not_mem hother, keep, if_pos hhas, add, Attributes.get?_add_self,
        hnone, Option.getD_none, List.nil_append]
    · have hne : name ≠ other := fun heq => hother (heq ▸ hmem)
      exact ih (by rwa [get?_keep_of_ne hne]) hnames hmem

theorem values_project {requested : NameSet} (hname : name ∈ requested)
    (hvalues : e.values name ≠ []) : (e.project requested).values name = e.values name := by
  have hhas : e.has name = true := by
    rw [has, List.isEmpty_eq_false_iff.2 hvalues, Bool.not_false]
  have hne : requested.toList.isEmpty = false :=
    List.isEmpty_eq_false_iff.2 (List.ne_nil_of_mem hname)
  have hnodup : requested.toList.Nodup := requested.sorted.imp String.ne_of_lt
  by_cases hdn : name = dnName
  · rw [values, values, if_pos hdn, if_pos hdn, project_dn]
  · have hget : (e.project requested).attributes.get? name = some (e.values name) := by
      rw [project, if_neg (by rw [hne]; exact Bool.false_ne_true)]
      exact get?_foldl_keep hhas rfl hnodup hname
    rw [values, if_neg hdn, Attributes.values_of_get? hget]

theorem get?_foldl_keep_of_not_has (hhas : e.has name = false) :
    (names.foldl e.keep kept).attributes.get? name = kept.attributes.get? name := by
  induction names generalizing kept with
  | nil => rfl
  | cons other names ih =>
    rw [List.foldl_cons, ih]
    by_cases hother : name = other
    · rw [← hother, keep, if_neg (by rw [hhas]; exact Bool.false_ne_true)]
    · exact get?_keep_of_ne hother

theorem get?_project_eq_some_iff {requested : NameSet} (hrequested : other ∈ requested)
    {vs : List String} :
    (e.project requested).attributes.get? name = some vs ↔
      name ∈ requested ∧ e.values name = vs ∧ vs ≠ [] := by
  have hne : requested.toList.isEmpty = false :=
    List.isEmpty_eq_false_iff.2 (List.ne_nil_of_mem hrequested)
  have hnodup : requested.toList.Nodup := requested.sorted.imp String.ne_of_lt
  rw [project, if_neg (by rw [hne]; exact Bool.false_ne_true)]
  change (requested.toList.foldl e.keep ⟨e.dn, .empty⟩).attributes.get? name = _ ↔ _
  by_cases hname : name ∈ requested
  · by_cases hvalues : e.values name = []
    · have hhas : e.has name = false := by rw [has, hvalues]; rfl
      rw [get?_foldl_keep_of_not_has hhas]
      refine iff_of_false (Option.some_ne_none vs).symm ?_
      rintro ⟨-, rfl, hvs⟩
      exact hvs hvalues
    · have hhas : e.has name = true := by
        rw [has, List.isEmpty_eq_false_iff.2 hvalues, Bool.not_false]
      rw [get?_foldl_keep hhas rfl hnodup hname, Option.some.injEq]
      constructor
      · rintro rfl
        exact ⟨hname, rfl, hvalues⟩
      · rintro ⟨-, hvs, -⟩
        exact hvs
  · rw [get?_foldl_keep_of_not_mem hname]
    exact iff_of_false (Option.some_ne_none vs).symm fun h => hname h.1

theorem values_project_eq_nil {requested : NameSet} (hname : name ∈ requested)
    (hdn : sameFold name dnName = false) (hdistinct : e.attributes.Distinct)
    (hvalues : e.values name = []) : (e.project requested).values name = [] := by
  have hne : name ≠ dnName := by
    rintro rfl
    exact Bool.false_ne_true (hdn.symm.trans (sameFold_refl _))
  rw [values, if_neg hne] at hvalues ⊢
  by_contra hkept
  obtain ⟨⟨key, vs⟩, hmem, hkey, hvs⟩ := Attributes.exists_mem_of_values_ne_nil hkept
  obtain ⟨-, hkeyvs, hne'⟩ := (get?_project_eq_some_iff hname).1 (NameMap.get?_eq_some_iff.2 hmem)
  have hkeyne : key ≠ dnName := by
    rintro rfl
    exact Bool.false_ne_true (hdn.symm.trans ((sameFold_comm _ _).trans hkey))
  rw [values, if_neg hkeyne] at hkeyvs
  rw [← hkeyvs] at hne'
  obtain ⟨p, hp, hsame, hpvs⟩ := Attributes.exists_mem_of_values_ne_nil hne'
  have hspelling : sameFold p.1 name = true :=
    sameFold_iff.2 ((sameFold_iff.1 hsame).trans (sameFold_iff.1 hkey))
  rw [hdistinct.values_eq hp hspelling, hpvs] at hvalues
  exact hne' hvalues

/-- The entry's own name, or a name that no spelling of it can be taken for, has the same values
before and after a request for it. -/
theorem values_project_eq {requested : NameSet} (hname : name ∈ requested)
    (hdn : name = dnName ∨ sameFold name dnName = false) (hdistinct : e.attributes.Distinct) :
    (e.project requested).values name = e.values name := by
  by_cases hvalues : e.values name = []
  · rcases hdn with rfl | hdn
    · rw [values, if_pos rfl] at hvalues
      cases hvalues
    · rw [hvalues, values_project_eq_nil hname hdn hdistinct hvalues]
  · exact values_project hname hvalues

end Entry

namespace GroupSearch

variable {g : GroupSearch} {e : Entry}

theorem roleAttribute_mem_requested {assignments : List Assignment}
    (h : ofAssignments assignments = .ok g) (hrole : Text.isAllBlank g.roleAttribute = false) :
    g.roleAttribute ∈ g.requested := by
  have hsettings {draft : Draft} {filter : Filter.Template}
      (hrole : Text.isAllBlank draft.roleAttribute = false) :
      draft.roleAttribute ∈ (draft.settings filter).requested := by
    rw [Draft.settings, hrole]
    exact NameSet.mem_insert.2 (.inl rfl)
  rw [ofAssignments, Draft.build] at h
  split at h
  · cases h
    exact hsettings hrole
  · split at h
    · cases h
    · cases h
      exact hsettings hrole

theorem labels_project (hrole : g.roleAttribute ∈ g.requested)
    (hvalues : e.values g.roleAttribute ≠ []) : g.labels (e.project g.requested) = g.labels e := by
  rw [labels, Entry.values_project hrole hvalues, labels]

theorem collides_project (hrole : g.roleAttribute ∈ g.requested)
    (hvalues : e.values g.roleAttribute ≠ []) :
    g.Collides (e.project g.requested) ↔ g.Collides e := by
  rw [Collides, labels_project hrole hvalues, Collides]

end GroupSearch

end NestedGroups
