import NestedGroups.Directory
import NestedGroups.Proofs.Coupling
import NestedGroups.Proofs.Requested

namespace NestedGroups

open NestedGroups.Text

namespace AuthoritySet

variable {S : Authority → Authority → Prop} {found found' : AuthoritySet} {as as' : List Authority}

theorem keys_eq_of_forall₂ (hS : ∀ a a', S a a' → a'.key = a.key)
    (h : List.Forall₂ S found.toList found'.toList) : found'.keys = found.keys := by
  rw [keys, keys, ← List.forall₂_eq_eq_eq, List.forall₂_map_left_iff, List.forall₂_map_right_iff]
  exact (List.Forall₂.imp hS h).flip

theorem toList_insert (s : AuthoritySet) (a : Authority) :
    (s.insert a).toList = if a.key ∈ s.keys then s.toList else s.toList ++ [a] := by
  rw [insert]
  split <;> rfl

theorem forall₂_insert (hS : ∀ a a', S a a' → a'.key = a.key)
    (h : List.Forall₂ S found.toList found'.toList) {a a' : Authority} (ha : S a a') :
    List.Forall₂ S (found.insert a).toList (found'.insert a').toList := by
  rw [toList_insert, toList_insert, hS a a' ha, keys_eq_of_forall₂ hS h]
  split
  · exact h
  · exact List.rel_append h (.cons ha .nil)

theorem forall₂_register (hS : ∀ a a', S a a' → a'.key = a.key)
    (h : List.Forall₂ S found.toList found'.toList) (has : List.Forall₂ S as as') :
    (found'.register as').2 = (found.register as).2 ∧
      List.Forall₂ S (found.register as).1.toList (found'.register as').1.toList := by
  induction has generalizing found found' with
  | nil => exact ⟨rfl, h⟩
  | @cons a a' as as' ha _ ih =>
    have hcontains : found'.contains a' = found.contains a := by
      rw [contains, contains, hS a a' ha, keys_eq_of_forall₂ hS h]
    obtain ⟨hagain, hall⟩ := ih (forall₂_insert hS h ha)
    refine ⟨?_, hall⟩
    change (found'.contains a' || _) = (found.contains a || _)
    rw [hcontains, hagain]

end AuthoritySet

/-- The authority comes from the entry, with the attributes that were requested of it. -/
structure GroupSearch.Carries (g : GroupSearch) (e : Entry) (a : Authority) : Prop where
  dn : a.dn = e.dn
  role : ∃ v ∈ e.values g.roleAttribute, g.style.roleOf v = a.role
  attributes : ∀ name vs, a.attributes.get? name = some vs ↔
    name ∈ g.requested ∧ e.values name = vs ∧ vs ≠ []
  labels : a.attributes.get? g.roleAttribute = some (e.values g.roleAttribute)

namespace InMemory

def retarget (requested : NameSet) (q : Query.Record) : Query.Record :=
  { q with attributes := requested }

/-- Entries that two requests leave of one and the same entry. -/
def Views (d : InMemory) (requested requested' : NameSet) (x x' : Entry) : Prop :=
  ∃ e ∈ d.entries, e.project requested = x ∧ e.project requested' = x'

def Pairs (d : InMemory) (g g' : GroupSearch) (a a' : Authority) : Prop :=
  a'.key = a.key ∧ ∃ e ∈ d.entries, g.Carries e a ∧ g'.Carries e a'

/-- Two traversals that found the same by queries that differ in what they request. -/
structure Abreast (d : InMemory) (g g' : GroupSearch) (journal : Journal)
    (p p' : Progress Journal) : Prop where
  authorities : List.Forall₂ (d.Pairs g g') p.authorities.toList p'.authorities.toList
  stats : p'.stats = p.stats
  queries : ∃ new, p.client = journal ++ new ∧
    p'.client = journal ++ new.map (retarget g'.requested) ∧ ∀ q ∈ new, q.attributes = g.requested

variable {d : InMemory} {g : GroupSearch} {requested' : NameSet} {journal : Journal}

/-- The two settings request the attribute of the roles, of which every entry has one spelling. -/
structure Requests (d : InMemory) (g : GroupSearch) (requested' : NameSet) : Prop where
  role : g.roleAttribute ∈ g.requested
  role' : g.roleAttribute ∈ requested'
  dn : g.roleAttribute = Entry.dnName ∨ sameFold g.roleAttribute Entry.dnName = false
  distinct : ∀ e ∈ d.entries, e.attributes.Distinct

namespace Requests

variable {x x' : Entry} {e : Entry}

theorem values_eq (h : Requests d g requested') (he : e ∈ d.entries) :
    (e.project g.requested).values g.roleAttribute = e.values g.roleAttribute ∧
      (e.project requested').values g.roleAttribute = e.values g.roleAttribute :=
  ⟨Entry.values_project_eq h.role h.dn (h.distinct e he),
    Entry.values_project_eq h.role' h.dn (h.distinct e he)⟩

theorem labels_eq (h : Requests d g requested') (hx : d.Views g.requested requested' x x') :
    g.labels x' = g.labels x := by
  obtain ⟨e, he, rfl, rfl⟩ := hx
  obtain ⟨hvalues, hvalues'⟩ := h.values_eq he
  rw [GroupSearch.labels, GroupSearch.labels, hvalues, hvalues']

theorem dn_eq (hx : d.Views g.requested requested' x x') : x'.dn = x.dn := by
  obtain ⟨e, -, rfl, rfl⟩ := hx
  rw [Entry.project_dn, Entry.project_dn]

theorem forall₂_authorities (h : Requests d g requested')
    (hx : d.Views g.requested requested' x x') :
    List.Forall₂ (d.Pairs g { g with requested := requested' }) (g.authorities x)
      (g.authorities x') := by
  rw [GroupSearch.authorities, GroupSearch.authorities, h.labels_eq hx, dn_eq hx,
    List.forall₂_map_left_iff, List.forall₂_map_right_iff, List.forall₂_same]
  intro label hlabel
  obtain ⟨e, he, rfl, rfl⟩ := hx
  rw [GroupSearch.labels, (h.values_eq he).1, mem_distinct] at hlabel
  have hcarries {requested : NameSet} (hrole : g.roleAttribute ∈ requested) :
      ({ g with requested := requested } : GroupSearch).Carries e
        ⟨g.style.roleOf label, (e.project g.requested).dn, (e.project requested).attributes⟩ :=
    ⟨Entry.project_dn _ e, ⟨label, hlabel, rfl⟩, fun _ _ => Entry.get?_project_eq_some_iff hrole,
      (Entry.get?_project_eq_some_iff hrole).2 ⟨hrole, rfl, List.ne_nil_of_mem hlabel⟩⟩
  exact ⟨rfl, e, he, hcarries h.role, hcarries h.role'⟩

end Requests

theorem forall₂_answer (d : InMemory) (q : Query) (requested' : NameSet) :
    List.Forall₂ (d.Views q.attributes requested') (d.answer q)
      (d.answer { q with attributes := requested' }) := by
  rw [answer, answer, List.forall₂_map_left_iff, List.forall₂_map_right_iff, List.forall₂_same]
  intro e he
  exact ⟨e, List.mem_of_mem_filter he, rfl, rfl⟩

theorem ask_abreast {p p' : Progress Journal}
    (hp : Abreast d g { g with requested := requested' } journal p p') {q : Query}
    (hq : q.attributes = g.requested) (depth : Nat) :
    Answer.Coupled (Abreast d g { g with requested := requested' } journal)
      (d.Views g.requested requested') (p.ask d.client q depth)
      (p'.ask d.client { q with attributes := requested' } depth) := by
  obtain ⟨hauthorities, hstats, new, hclient, hclient', hnew⟩ := hp
  have hnumber : p'.client.length = p.client.length := by
    rw [hclient, hclient', List.length_append, List.length_append, List.length_map]
  have hnext : Abreast d g { g with requested := requested' } journal (p.ask d.client q depth).2
      (p'.ask d.client { q with attributes := requested' } depth).2 := by
    refine ⟨hauthorities, ?_, new ++ [q.record], ?_, ?_, ?_⟩
    · simp only [Progress.ask, hstats]
    · change p.client ++ [q.record] = _
      rw [hclient, List.append_assoc]
    · change p'.client ++ [({ q with attributes := requested' } : Query).record] = _
      rw [hclient', List.append_assoc, List.map_append]
      rfl
    · rw [List.forall_mem_append, List.forall_mem_singleton]
      exact ⟨hnew, hq⟩
  have hfound : List.Forall₂ (d.Views g.requested requested') (d.answer q)
      (d.answer { q with attributes := requested' }) := hq ▸ d.forall₂_answer q requested'
  have hanswer : (p.ask d.client q depth).1 =
      if d.failOn = some (p.client.length + 1) then .error (injectedFailure (p.client.length + 1))
      else .ok (d.answer q) := rfl
  have hanswer' : (p'.ask d.client { q with attributes := requested' } depth).1 =
      if d.failOn = some (p.client.length + 1) then .error (injectedFailure (p.client.length + 1))
      else .ok (d.answer { q with attributes := requested' }) := by
    rw [← hnumber]
    rfl
  generalize p.ask d.client q depth = asked at hanswer hnext
  generalize p'.ask d.client { q with attributes := requested' } depth = asked' at hanswer' hnext
  obtain ⟨answer, next⟩ := asked
  obtain ⟨answer', next'⟩ := asked'
  split at hanswer
  · rw [if_pos ‹_›] at hanswer'
    cases hanswer
    cases hanswer'
    exact .failed _ hnext
  · rw [if_neg ‹_›] at hanswer'
    cases hanswer
    cases hanswer'
    exact .found hfound hnext

/-- Outcomes that differ in nothing but what was requested: the same error, or the same authorities
and counts, by the same queries. Each authority carries what was requested of the entry that it
comes from. -/
structure Alike (d : InMemory) (g g' : GroupSearch) (journal : Journal) (o o' : Outcome Journal) :
    Prop where
  result : (o'.result.map fun found => (found.authorities.keys, found.stats)) =
    o.result.map fun found => (found.authorities.keys, found.stats)
  queries : ∃ new, o.client = journal ++ new ∧
    o'.client = journal ++ new.map (retarget g'.requested) ∧ ∀ q ∈ new, q.attributes = g.requested
  authorities : ∀ found found', o.result = .ok found → o'.result = .ok found' →
    List.Forall₂ (fun a a' => ∃ e ∈ d.entries, g.Carries e a ∧ g'.Carries e a')
      found.authorities.toList found'.authorities.toList

namespace Abreast

variable {g' : GroupSearch} {p p' : Progress Journal}

theorem start : Abreast d g g' journal { client := journal } { client := journal } :=
  have hnone : journal = journal ++ [] := (List.append_nil journal).symm
  ⟨.nil, rfl, [], hnone, hnone, nofun⟩

theorem exhaust (h : Abreast d g g' journal p p') (root root' : String) :
    Abreast d g g' journal (p.exhaust root) (p'.exhaust root') := by
  refine ⟨h.authorities, ?_, h.queries⟩
  simp only [Progress.exhaust, h.stats]

theorem complete (h : Abreast d g g' journal p p') :
    Abreast d g g' journal p.complete p'.complete :=
  ⟨h.authorities, h.stats, h.queries⟩

theorem succeed (h : Abreast d g g' journal p p') :
    Alike d g g' journal p.succeed p'.succeed := by
  have hkeys : p'.authorities.keys = p.authorities.keys :=
    AuthoritySet.keys_eq_of_forall₂ (fun _ _ hpair => hpair.1) h.authorities
  refine ⟨?_, h.queries, ?_⟩
  · simp only [Progress.succeed, Except.map, hkeys, h.stats]
  · rintro _ _ ⟨⟩ ⟨⟩
    exact h.authorities.imp fun _ _ hpair => hpair.2

theorem alike {o o' : Outcome Journal} (h : Outcome.Coupled (Abreast d g g' journal) o o') :
    Alike d g g' journal o o' := by
  cases h with
  | exhausted dn dn' hp => exact (hp.exhaust dn dn').succeed
  | complete hp => exact hp.complete.succeed
  | failed e hp => exact ⟨rfl, hp.queries, nofun⟩

end Abreast

theorem Requests.coupled (h : Requests d g requested') (base : String) (journal : Journal) :
    (Resolver.mk d.client g).Coupled (Resolver.mk d.client { g with requested := requested' }) base
      (Abreast d g { g with requested := requested' } journal)
      (d.Views g.requested requested') where
  dn _ _ := dn_eq
  label := by
    intro x x' hx
    change g.parentLabel x' = g.parentLabel x
    rw [GroupSearch.parentLabel, GroupSearch.parentLabel, h.labels_eq hx, dn_eq hx]
  exhaust root _ _ hp := hp.exhaust root root
  cut := by
    intro dn p p' hp
    refine ⟨hp.authorities, ?_, hp.queries⟩
    simp only [Progress.cut, hp.stats]
  enter := by
    intro x x' p p' hx hp
    obtain ⟨hagain, hall⟩ := AuthoritySet.forall₂_register (fun _ _ hpair => hpair.1)
      hp.authorities (h.forall₂_authorities hx)
    exact ⟨_, _, _, rfl, Prod.ext rfl hagain, hall, hp.stats, hp.queries⟩
  ask _ _ depth _ _ hp := ask_abreast hp rfl depth

/-- Settings that differ in the attributes that are asked for besides that of the roles lead to the
same authorities by the same queries, whatever spellings the attributes are asked for in. -/
theorem resolve_of_extra_attributes {as as' : List GroupSearch.Assignment}
    (hg : GroupSearch.ofAssignments as = .ok g)
    (hg' : GroupSearch.ofAssignments as' = .ok { g with requested := requested' })
    (hblank : isAllBlank g.roleAttribute = false)
    (hdn : g.roleAttribute = Entry.dnName ∨ sameFold g.roleAttribute Entry.dnName = false)
    (hnames : ∀ e ∈ d.entries, e.attributes.Distinct) (dn label : String) (journal : Journal) :
    let g' : GroupSearch := { g with requested := requested' }
    Alike d g g' journal ((Resolver.mk d.client g).resolve dn label journal)
      ((Resolver.mk d.client g').resolve dn label journal) := by
  intro g'
  have hrequests : Requests d g requested' :=
    ⟨GroupSearch.roleAttribute_mem_requested hg hblank,
      GroupSearch.roleAttribute_mem_requested hg' hblank, hdn, hnames⟩
  cases hbase : g.base with
  | none =>
    rw [Resolver.resolve_of_disabled (r := ⟨d.client, g⟩) hbase,
      Resolver.resolve_of_disabled (r := ⟨d.client, g'⟩) hbase]
    exact Abreast.start.succeed
  | some base =>
    apply Abreast.alike
    apply (hrequests.coupled base journal).resolve hbase hbase rfl Abreast.start
    intro depth
    exact ask_abreast Abreast.start rfl depth

theorem resolve_of_extra_attributes_of_spellings :
    let a := Entry.ofList "cn=a,o" [("cn", ["a"]), ("Mail", ["m"]), ("member", ["u"])]
    let b := Entry.ofList "cn=b,o" [("cn", ["b"]), ("member", ["cn=a,o"])]
    let d : InMemory := ⟨[a, b], "member", none⟩
    let g := GroupSearch.Draft.settings { base := some "o" } .default
    let requested' := NameSet.empty.insertAll ["CN", "MAIL", "cn", "mail"]
    let outcome' := (Resolver.mk d.client { g with requested := requested' }).resolve "u" "u" []
    GroupSearch.ofAssignments [.base "o"] = .ok g ∧
      GroupSearch.ofAssignments [.requested ["CN", "MAIL"], .base "o", .requested ["mail"]] =
        .ok { g with requested := requested' } ∧
      isAllBlank g.roleAttribute = false ∧ sameFold g.roleAttribute Entry.dnName = false ∧
      (∀ e ∈ d.entries, e.attributes.Distinct) ∧
      (outcome'.result.map fun found => (found.authorities.keys, found.stats)) =
        .ok ([("ROLE_A", "cn=a,o"), ("ROLE_B", "cn=b,o")], ⟨3, 0, 0⟩) ∧
      outcome'.client.map (fun q => (q.identity, q.attributes)) =
        [("u", requested'), ("cn=a,o", requested'), ("cn=b,o", requested')] := by
  intro a b d g requested' outcome'
  have hg : GroupSearch.ofAssignments [.base "o"] = .ok g := rfl
  have hg' : GroupSearch.ofAssignments
      [.requested ["CN", "MAIL"], .base "o", .requested ["mail"]] =
        .ok { g with requested := requested' } := by decide +kernel
  have hblank : isAllBlank g.roleAttribute = false := by decide +kernel
  have hdn : sameFold g.roleAttribute Entry.dnName = false := by decide +kernel
  have hnames : ∀ e ∈ d.entries, e.attributes.Distinct := by decide +kernel
  obtain ⟨hresult, ⟨new, hclient, hclient', -⟩, -⟩ :=
    resolve_of_extra_attributes hg hg' hblank (.inr hdn) hnames "u" "u" []
  have hrun := Resolver.resolve_eq_ofRun (r := ⟨d.client, g⟩) rfl "u" "u" []
  have hnew : new = _ := hclient.symm.trans (congrArg Outcome.client hrun)
  have hresult' : (outcome'.result.map fun found => (found.authorities.keys, found.stats)) = _ :=
    hresult.trans (congrArg (fun o => Except.map _ (Outcome.result o)) hrun)
  have hqueries : outcome'.client = _ := hclient'.trans (congrArg (List.map _) hnew)
  rw [hresult', hqueries, Outcome.ofRun_client]
  exact ⟨hg, hg', hblank, hdn, hnames, by decide +kernel, by decide +kernel⟩

end InMemory

end NestedGroups
