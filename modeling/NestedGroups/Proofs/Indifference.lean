import NestedGroups.Proofs.Coupling
import NestedGroups.Proofs.FilterShape

namespace NestedGroups

open NestedGroups.Text

namespace InMemory

/-- A directory finds members without regard to case, and reads no label and no filter. -/
theorem answer_congr (d : InMemory) {q q' : Query} (hbase : q'.base = q.base)
    (hidentity : sameFold q'.identity q.identity = true) (hattributes : q'.attributes = q.attributes) :
    d.answer q' = d.answer q := by
  have hfold : fold q'.identity = fold q.identity := sameFold_iff.1 hidentity
  simp only [answer, parents, lists, sameFold, hbase, hfold, hattributes]

/-- Records that agree place by place, except that the filters may differ, and at the first place
the identities and labels as well. -/
structure Twins (new new' : Journal) : Prop where
  places : new'.map (fun q => (q.base, q.attributes)) = new.map fun q => (q.base, q.attributes)
  roots : new'.tail.map (fun q => (q.identity, q.label)) =
    new.tail.map fun q => (q.identity, q.label)

namespace Twins

variable {new new' : Journal} {q q' : Query.Record}

theorem nil : Twins [] [] := ⟨rfl, rfl⟩

theorem length_eq (h : Twins new new') : new'.length = new.length := by
  have hlength := congrArg List.length h.places
  rwa [List.length_map, List.length_map] at hlength

theorem single (hbase : q'.base = q.base) (hattributes : q'.attributes = q.attributes) :
    Twins [q] [q'] := by
  constructor
  · simp only [List.map_cons, List.map_nil, hbase, hattributes]
  · rfl

theorem snoc (h : Twins new new') (hbase : q'.base = q.base)
    (hattributes : q'.attributes = q.attributes) (hidentity : q'.identity = q.identity)
    (hlabel : q'.label = q.label) : Twins (new ++ [q]) (new' ++ [q']) := by
  constructor
  · simp only [List.map_append, List.map_cons, List.map_nil, h.places, hbase, hattributes]
  · match new, new', h with
    | [], [], _ => rfl
    | [], _ :: _, h => nomatch h.length_eq
    | _ :: _, [], h => nomatch h.length_eq
    | _ :: _, _ :: _, h =>
      simp only [List.cons_append, List.tail_cons, List.map_append, List.map_cons, List.map_nil]
      rw [hidentity, hlabel]
      exact congrArg (· ++ _) h.roots

end Twins

structure Beside (journal : Journal) (p p' : Progress Journal) : Prop where
  authorities : p'.authorities = p.authorities
  stats : p'.stats = p.stats
  queries : ∃ new new', p.client = journal ++ new ∧ p'.client = journal ++ new' ∧ Twins new new'

variable {journal : Journal}

theorem ask_coupled (d : InMemory) {q q' : Query} {new new' : Journal} {p p' : Progress Journal}
    (hauthorities : p'.authorities = p.authorities) (hstats : p'.stats = p.stats)
    (hclient : p.client = journal ++ new) (hclient' : p'.client = journal ++ new')
    (hlength : new'.length = new.length) (hanswer : d.answer q' = d.answer q)
    (htwins : Twins (new ++ [q.record]) (new' ++ [q'.record])) (depth : Nat) :
    Answer.Coupled (Beside journal) (· = ·) (p.ask d.client q depth)
      (p'.ask d.client q' depth) := by
  have hnumber : p'.client.length = p.client.length := by
    rw [hclient, hclient', List.length_append, List.length_append, hlength]
  have hbeside : Beside journal (p.ask d.client q depth).2 (p'.ask d.client q' depth).2 := by
    refine ⟨hauthorities, ?_, _, _, ?_, ?_, htwins⟩
    · simp only [Progress.ask, hstats]
    · change p.client ++ [q.record] = _
      rw [hclient, List.append_assoc]
    · change p'.client ++ [q'.record] = _
      rw [hclient', List.append_assoc]
  have hsame : (p'.ask d.client q' depth).1 = (p.ask d.client q depth).1 := by
    simp only [Progress.ask, client, hnumber, hanswer]
  generalize p.ask d.client q depth = asked at hbeside hsame
  generalize p'.ask d.client q' depth = asked' at hbeside hsame
  obtain ⟨answer, next⟩ := asked
  obtain ⟨answer', next'⟩ := asked'
  cases hsame
  cases answer with
  | error e => exact .failed e hbeside
  | ok found => exact .found (List.forall₂_refl found) hbeside

/-- After the first query, nothing that the traversals still ask depends on what told them apart. -/
theorem coupled (d : InMemory) (g : GroupSearch) (filter filter' : Filter.Template)
    (base : String) (journal : Journal) :
    (Resolver.mk d.client { g with filter := filter }).Coupled
      (Resolver.mk d.client { g with filter := filter' }) base (Beside journal) (· = ·) where
  dn := by
    rintro e _ rfl
    rfl
  label := by
    rintro e _ rfl
    rfl
  exhaust := by
    intro root p p' hp
    refine ⟨hp.authorities, ?_, hp.queries⟩
    simp only [Progress.exhaust, hp.stats]
  cut := by
    intro dn p p' hp
    refine ⟨hp.authorities, ?_, hp.queries⟩
    simp only [Progress.cut, hp.stats]
  enter := by
    rintro e _ p p' rfl hp
    rw [hp.authorities]
    exact ⟨_, _, _, rfl, rfl, rfl, hp.stats, hp.queries⟩
  ask := by
    intro root label depth p p' hp
    obtain ⟨new, new', hclient, hclient', htwins⟩ := hp.queries
    apply d.ask_coupled hp.authorities hp.stats hclient hclient' htwins.length_eq
    · rfl
    · exact htwins.snoc rfl rfl rfl rfl

theorem Beside.result_eq {o o' : Outcome Journal} (h : Outcome.Coupled (Beside journal) o o') :
    o'.result = o.result ∧
      ∃ new new', o.client = journal ++ new ∧ o'.client = journal ++ new' ∧ Twins new new' := by
  cases h with
  | exhausted dn dn' hp =>
    refine ⟨?_, hp.queries⟩
    simp only [Progress.succeed, Progress.exhaust, hp.authorities, hp.stats]
  | complete hp =>
    refine ⟨?_, hp.queries⟩
    simp only [Progress.succeed, Progress.complete, hp.authorities, hp.stats]
  | failed e hp => exact ⟨rfl, hp.queries⟩

section

variable {dn dn' : String}

theorem resolve_twins (hdn : sameFold dn dn' = true) (d : InMemory) (g : GroupSearch)
    (filter filter' : Filter.Template) (label label' : String) (journal : Journal) :
    let outcome := (Resolver.mk d.client { g with filter := filter }).resolve dn label journal
    let outcome' := (Resolver.mk d.client { g with filter := filter' }).resolve dn' label' journal
    outcome'.result = outcome.result ∧
      ∃ new new', outcome.client = journal ++ new ∧ outcome'.client = journal ++ new' ∧
        Twins new new' := by
  intro outcome outcome'
  have hnone : journal = journal ++ [] := (List.append_nil journal).symm
  cases hbase : g.base with
  | none =>
    have houtcome : outcome = ⟨.ok {}, journal, []⟩ :=
      Resolver.resolve_of_disabled hbase dn label journal
    have houtcome' : outcome' = ⟨.ok {}, journal, []⟩ :=
      Resolver.resolve_of_disabled hbase dn' label' journal
    rw [houtcome, houtcome']
    exact ⟨rfl, [], [], hnone, hnone, .nil⟩
  | some base =>
    have hstart : Beside journal { client := journal } { client := journal } :=
      ⟨rfl, rfl, [], [], hnone, hnone, .nil⟩
    apply Beside.result_eq
    apply (d.coupled g filter filter' base journal).resolve hbase hbase rfl hstart
    intro depth
    apply d.ask_coupled rfl rfl hnone hnone rfl
    · exact d.answer_congr rfl ((sameFold_comm dn' dn).trans hdn) rfl
    · exact .single rfl rfl

/-- The label, the filter and the letter case of the principal's name change nothing but what is
recorded of the queries. There the filters are those of the two templates, and only the first query
may differ in its identity and its label. -/
theorem resolve_of_sameFold (hdn : sameFold dn dn' = true) (d : InMemory) (g : GroupSearch)
    (filter filter' : Filter.Template) (label label' : String) (journal : Journal) :
    let outcome := (Resolver.mk d.client { g with filter := filter }).resolve dn label journal
    let outcome' := (Resolver.mk d.client { g with filter := filter' }).resolve dn' label' journal
    outcome'.result = outcome.result ∧
      ∃ new new', outcome.client = journal ++ new ∧ outcome'.client = journal ++ new' ∧
        Twins new new' ∧
        (∀ q ∈ new, q.filter = filter.render q.identity q.label) ∧
        ∀ q ∈ new', q.filter = filter'.render q.identity q.label := by
  intro outcome outcome'
  obtain ⟨hresult, new, new', hclient, hclient', htwins⟩ :=
    resolve_twins hdn d g filter filter' label label' journal
  obtain ⟨all, hall, hfilters⟩ := d.exists_recorded { g with filter := filter } dn label journal
  obtain ⟨all', hall', hfilters'⟩ :=
    d.exists_recorded { g with filter := filter' } dn' label' journal
  obtain rfl := List.append_cancel_left (hclient.symm.trans hall)
  obtain rfl := List.append_cancel_left (hclient'.symm.trans hall')
  exact ⟨hresult, new, new', hclient, hclient', htwins, hfilters, hfilters'⟩

end

theorem resolve_of_sameFold_of_capital :
    let a := Entry.ofList "cn=a" [("cn", ["a"]), ("member", ["u"])]
    let b := Entry.ofList "cn=b" [("cn", ["b"]), ("member", ["cn=a"])]
    let d : InMemory := ⟨[a, b], "member", none⟩
    let g : GroupSearch := { GroupSearch.default with base := some "" }
    let filter : Filter.Template := ⟨"(cn=\x7b1\x7d)", by decide +kernel⟩
    let outcome' := (Resolver.mk d.client { g with filter := filter }).resolve "U" "*" []
    sameFold "u" "U" = true ∧
      outcome'.result.map (·.authorities.keys) = .ok [("ROLE_A", "cn=a"), ("ROLE_B", "cn=b")] ∧
      outcome'.client.tail.map (fun q => (q.identity, q.label)) = [("cn=a", "a"), ("cn=b", "b")] ∧
      ∀ q ∈ outcome'.client, q.filter = filter.render q.identity q.label := by
  intro a b d g filter outcome'
  have hdn : sameFold "u" "U" = true := by
    rw [sameFold_iff, ← String.toList_inj, toList_fold, toList_fold]
    decide
  have hbase : g.base = some "" := rfl
  obtain ⟨hresult, new, new', hclient, hclient', htwins, -, hfilters⟩ :=
    resolve_of_sameFold hdn d g g.filter filter "u" "*" []
  have hrun := Resolver.resolve_eq_ofRun (r := ⟨d.client, g⟩) hbase "u" "u" []
  have hresult' : outcome'.result = _ := hresult.trans (congrArg Outcome.result hrun)
  have hnew : new = _ := hclient.symm.trans (congrArg Outcome.client hrun)
  have hnew' : outcome'.client = new' := hclient'
  rw [hresult', hnew', htwins.roots, hnew, Outcome.ofRun_client]
  exact ⟨hdn, by decide +kernel, by decide +kernel, hfilters⟩

end InMemory

end NestedGroups
