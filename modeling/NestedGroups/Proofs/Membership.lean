import NestedGroups.Proofs.Exploration
import NestedGroups.Proofs.FailStop

namespace NestedGroups

namespace InMemory

def IsParent (d : InMemory) (base : String) (e : Entry) (name : String) : Prop :=
  e ∈ d.entries ∧ DistinguishedName.isUnder e.dn base = true ∧
    ∃ member ∈ e.values d.membership, Text.sameFold member name = true

instance (d : InMemory) (base : String) (e : Entry) (name : String) :
    Decidable (d.IsParent base e name) :=
  inferInstanceAs (Decidable (_ ∧ _ ∧ _))

def found (d : InMemory) (g : GroupSearch) (base name : String) : List Entry :=
  (d.parents base name).map (Entry.project g.requested)

theorem mem_found {d : InMemory} {g : GroupSearch} {base name : String} {x : Entry} :
    x ∈ d.found g base name ↔ ∃ e, d.IsParent base e name ∧ e.project g.requested = x := by
  simp only [found, parents, lists, IsParent, List.mem_map, List.mem_filter, Bool.and_eq_true,
    List.any_eq_true]

variable {α : Type}

theorem answer_of_mem_exchanges {d : InMemory} (hd : d.failOn = none) (t : Dialogue α)
    (journal : Journal) {x : Exchange} (hx : x ∈ (t.run d.client journal).exchanges) :
    x.answer = .ok (d.answer x.query) := by
  induction t generalizing journal with
  | finish a => cases hx
  | ask q next ih =>
    rw [run_ask_of_ne (failOn_ne hd _)] at hx
    rcases List.mem_cons.1 hx with rfl | hx
    · rfl
    · exact ih _ _ hx

theorem run_ok {d : InMemory} (hd : d.failOn = none)
    {t : Dialogue (Except DirectoryError α × Findings)} (ht : t.Abrupt) (journal : Journal) :
    ∃ a, (t.run d.client journal).result.1 = .ok a := by
  rcases ht.run_cases d.client journal with ⟨a, hresult, -⟩ | ⟨before, q, e, -, hex, -⟩
  · exact ⟨a, hresult⟩
  · have hmem : (⟨q, .error e⟩ : Exchange) ∈ (t.run d.client journal).exchanges := by
      rw [hex]
      exact List.mem_concat_self
    cases answer_of_mem_exchanges hd t journal hmem

end InMemory

/-- The visits and the findings of a resolution in a directory that answers every query. -/
inductive Survey (d : InMemory) (g : GroupSearch) (base dn label : String) :
    Nat → List Visit → Findings → Prop
  | stop : Survey d g base dn label 0 [] (({} : Findings).exhaust dn)
  | search {depth : Nat} {visits : List Visit} {f : Findings}
      (answered : ∀ e found, .search e found ∈ visits → found = d.found g base e.dn)
      (explored : Explores g base depth (d.found g base dn)
        (({} : Findings).ask (g.query base dn label) (depth + 1)) visits f) :
      Survey d g base dn label (depth + 1) visits f

namespace InMemory

variable {d : InMemory} {g : GroupSearch} {base : String}

theorem exists_survey_of_depth (hd : d.failOn = none) (g : GroupSearch) (base dn label : String)
    (depth : Nat) (journal : Journal) :
    ∃ visits f, Survey d g base dn label depth visits f ∧
      ((g.search base depth dn label).hold {} d.client journal).result = (.ok (), f) := by
  cases depth with
  | zero => exact ⟨[], _, .stop, rfl⟩
  | succ depth =>
    have hreply := search_of_ne (g.query base dn label) (failOn_ne hd (journal.length + 1))
    rw [GroupSearch.hold_search_of_ok hreply]
    generalize journal ++ [(g.query base dn label).record] = journal
    generalize hf : ({} : Findings).ask (g.query base dn label) (depth + 1) = f
    have habrupt : Search.Abrupt (forM (d.found g base dn) (g.handle base depth)) :=
      .forM (GroupSearch.abrupt_handle (g.abrupt_search base depth))
    obtain ⟨⟨⟩, hok⟩ := run_ok hd (habrupt f) journal
    obtain ⟨visits, hexplored, hexchanges⟩ :=
      GroupSearch.exists_explores (c := d.client) (s := journal) (Prod.ext hok rfl)
    refine ⟨visits, _, .search ?_ (hf ▸ hexplored), Prod.ext hok rfl⟩
    intro e found hsearch
    have hmem : (⟨g.query base e.dn (g.parentLabel e), .ok found⟩ : Exchange) ∈
        visits.filterMap (Visit.exchange? g base) :=
      List.mem_filterMap.2 ⟨.search e found, hsearch, rfl⟩
    rw [← hexchanges] at hmem
    exact Except.ok.inj (answer_of_mem_exchanges hd _ _ hmem)

theorem exists_survey_of_limit (hd : d.failOn = none) (hbase : g.base = some base)
    (limit : Nat) (dn label : String) (journal : Journal) :
    let outcome := (Resolver.mk d.client { g with maxDepth := limit }).resolve dn label journal
    ∃ visits f, Survey d g base dn label limit visits f ∧
      outcome.result = .ok ⟨f.authorities, f.stats⟩ ∧
      ∀ root, .exhausted root ∈ outcome.events ↔ .exhausted root ∈ f.events := by
  intro outcome
  have houtcome : outcome = .ofRun limit _ := Resolver.resolve_eq_ofRun hbase dn label journal
  rw [GroupSearch.search_of_limit] at houtcome
  obtain ⟨visits, f, hsurvey, hresult⟩ := exists_survey_of_depth hd g base dn label limit journal
  refine ⟨visits, f, hsurvey, ?_, fun root => ?_⟩
  · rw [houtcome, Outcome.ofRun_result, hresult]
    rfl
  · rw [houtcome, Outcome.exhausted_mem_ofRun, hresult]

theorem exists_survey (hd : d.failOn = none) (hbase : g.base = some base) (dn label : String)
    (journal : Journal) :
    let outcome := (Resolver.mk d.client g).resolve dn label journal
    ∃ visits f, Survey d g base dn label g.maxDepth visits f ∧
      outcome.result = .ok ⟨f.authorities, f.stats⟩ ∧
      ∀ root, .exhausted root ∈ outcome.events ↔ .exhausted root ∈ f.events :=
  exists_survey_of_limit hd hbase g.maxDepth dn label journal

end InMemory

namespace Survey

variable {d : InMemory} {g : GroupSearch} {base dn label : String} {depth : Nat}
  {visits : List Visit} {f : Findings} {e x : Entry}

theorem mem_keys (h : Survey d g base dn label depth visits f) {key : String × String} :
    key ∈ f.authorities.keys ↔ ∃ e ∈ visits.map Visit.entry, key ∈ g.keys e := by
  cases h with
  | stop =>
    constructor
    · intro hkey
      cases hkey
    · rintro ⟨e, he, -⟩
      cases he
  | search _ hexplored =>
    rw [hexplored.mem_keys]
    exact or_iff_right List.not_mem_nil

theorem exhausted_mem_events (h : Survey d g base dn label depth visits f) (he : .stop e ∈ visits) :
    .exhausted e.dn ∈ f.events := by
  cases h with
  | stop => cases he
  | search _ hexplored => exact hexplored.exhausted_mem_events.2 (.inr ⟨e, he, rfl⟩)

theorem of_exhausted_eq_zero (h : Survey d g base dn label depth visits f)
    (hzero : f.stats.exhausted = 0) : 0 < depth ∧ ∀ e, .stop e ∉ visits := by
  cases h with
  | stop => cases hzero
  | search _ hexplored =>
    rw [hexplored.stats_eq] at hzero
    have hcount := List.countP_eq_zero.1 (Nat.add_eq_zero_iff.1 hzero).2
    exact ⟨Nat.succ_pos _, fun e he => hcount (.stop e) he rfl⟩

theorem exists_level (h : Survey d g base dn label depth visits f) {P : Nat → Entry → Prop}
    (hdirect : ∀ level e, depth = level + 1 → d.IsParent base e dn → P level e)
    (hnested : ∀ level e e', P (level + 1) e → e.project g.requested ∈ visits.map Visit.entry →
      ¬ g.Collides (e.project g.requested) → d.IsParent base e' e.dn → P level e')
    (hx : x ∈ visits.map Visit.entry) :
    ∃ level < depth, ∃ e, P level e ∧ e.project g.requested = x := by
  cases h with
  | stop => cases hx
  | @search depth _ _ hanswered hexplored =>
    have hlevel := hexplored.exists_level (P := fun level x =>
      ∃ e, P level e ∧ e.project g.requested = x) ?_ ?_ x hx
    · obtain ⟨level, hle, he⟩ := hlevel
      exact ⟨level, Nat.lt_succ_of_le hle, he⟩
    · intro x hx
      obtain ⟨e, he, rfl⟩ := InMemory.mem_found.1 hx
      exact ⟨e, hdirect depth e rfl he, rfl⟩
    · rintro level _ found hsearch ⟨e, he, rfl⟩ y hy
      have hcol := hexplored.not_collides (.inr ⟨found, hsearch⟩)
      rw [hanswered _ _ hsearch, Entry.project_dn] at hy
      obtain ⟨e', he', rfl⟩ := InMemory.mem_found.1 hy
      exact ⟨e', hnested level e e' he (List.mem_map_of_mem hsearch) hcol he', rfl⟩

theorem exists_mem (h : Survey d g base dn label depth visits f) (hx : x ∈ visits.map Visit.entry) :
    ∃ e ∈ d.entries, e.project g.requested = x := by
  obtain ⟨level, -, e, he, hproject⟩ := h.exists_level (P := fun _ e => e ∈ d.entries)
    (fun _ _ _ he => he.1) (fun _ _ _ _ _ _ he => he.1) hx
  exact ⟨e, he, hproject⟩

theorem mem_direct (h : Survey d g base dn label depth visits f) (hdepth : 0 < depth)
    (he : d.IsParent base e dn) : e.project g.requested ∈ visits.map Visit.entry := by
  cases h with
  | stop => exact absurd hdepth (Nat.lt_irrefl 0)
  | search _ hexplored => exact hexplored.mem_entries (InMemory.mem_found.2 ⟨e, he, rfl⟩)

theorem entered (h : Survey d g base dn label depth visits f)
    (hdn : (d.entries.map (·.dn)).Nodup) (he : e ∈ d.entries)
    (hmet : e.project g.requested ∈ visits.map Visit.entry)
    (hcol : ¬ g.Collides (e.project g.requested)) : Entered visits (e.project g.requested) := by
  have hunique : ∀ x ∈ visits.map Visit.entry, x.dn = (e.project g.requested).dn →
      x = e.project g.requested := by
    intro x hx heq
    obtain ⟨e', he', rfl⟩ := h.exists_mem hx
    rw [Entry.project_dn, Entry.project_dn] at heq
    rw [List.inj_on_of_nodup_map hdn he' he heq]
  cases h with
  | stop => cases hmet
  | search _ hexplored => exact hexplored.entered hmet hcol (List.forall_mem_nil _) hunique

theorem stop_or_mem (h : Survey d g base dn label depth visits f)
    (hdn : (d.entries.map (·.dn)).Nodup) (he : e ∈ d.entries)
    (hmet : e.project g.requested ∈ visits.map Visit.entry)
    (hcol : ¬ g.Collides (e.project g.requested)) :
    .stop (e.project g.requested) ∈ visits ∨
      ∀ e', d.IsParent base e' e.dn → e'.project g.requested ∈ visits.map Visit.entry := by
  refine (h.entered hdn he hmet hcol).imp_right ?_
  rintro ⟨found, hsearch⟩ e' he'
  cases h with
  | stop => cases hmet
  | search hanswered hexplored =>
    refine hexplored.mem_entries_of_search hsearch ?_
    rw [hanswered _ _ hsearch, Entry.project_dn]
    exact InMemory.mem_found.2 ⟨e', he', rfl⟩

end Survey

/-- The least set of entries with the parents of the principal and the parents of its members; an
entry whose own labels collide brings in no parents. -/
inductive InMemory.Joined (d : InMemory) (g : GroupSearch) (base principal : String) :
    Entry → Prop
  | direct {e : Entry} (he : d.IsParent base e principal) : d.Joined g base principal e
  | nested {e e' : Entry} (he : d.Joined g base principal e)
      (hcol : ¬ g.Collides (e.project g.requested)) (he' : d.IsParent base e' e.dn) :
      d.Joined g base principal e'

namespace InMemory

variable {d : InMemory} {g : GroupSearch} {base principal : String} {e : Entry}

theorem Joined.mem (h : d.Joined g base principal e) : e ∈ d.entries := by
  cases h with
  | direct he => exact he.1
  | nested _ _ he => exact he.1

end InMemory

namespace Survey

variable {d : InMemory} {g : GroupSearch} {base dn label : String} {depth : Nat}
  {visits : List Visit} {f : Findings}

theorem exists_joined (h : Survey d g base dn label depth visits f) {x : Entry}
    (hx : x ∈ visits.map Visit.entry) :
    ∃ e, d.Joined g base dn e ∧ e.project g.requested = x := by
  obtain ⟨-, -, he⟩ := h.exists_level (P := fun _ => d.Joined g base dn)
    (fun _ _ _ he => .direct he) (fun _ _ _ he _ hcol he' => .nested he hcol he') hx
  exact he

theorem mem_of_joined (h : Survey d g base dn label depth visits f)
    (hdn : (d.entries.map (·.dn)).Nodup) (hzero : f.stats.exhausted = 0) {e : Entry}
    (he : d.Joined g base dn e) : e.project g.requested ∈ visits.map Visit.entry := by
  obtain ⟨hdepth, hstop⟩ := h.of_exhausted_eq_zero hzero
  induction he with
  | direct he => exact h.mem_direct hdepth he
  | nested he hcol he' ih =>
    exact (h.stop_or_mem hdn he.mem ih hcol).resolve_left (hstop _) _ he'

end Survey

namespace InMemory

variable {d : InMemory} {g : GroupSearch} {base : String}

/-- A branch that is cut as a cycle hides no group: as long as no branch ends for want of depth, the
authorities are those of the entries that are joined to the principal. -/
theorem resolve_eq_joined (hd : d.failOn = none) (hdn : (d.entries.map (·.dn)).Nodup)
    (hbase : g.base = some base) (dn label : String) (journal : Journal) :
    ∃ found, ((Resolver.mk d.client g).resolve dn label journal).result = .ok found ∧
      (found.stats.exhausted = 0 → ∀ role source,
        (role, source) ∈ found.authorities.keys ↔
          ∃ e, d.Joined g base dn e ∧ source = e.dn ∧
            ∃ v ∈ (e.project g.requested).values g.roleAttribute, g.style.roleOf v = role) := by
  obtain ⟨visits, f, hsurvey, hresult, -⟩ := exists_survey hd hbase dn label journal
  refine ⟨_, hresult, fun hzero role source => ?_⟩
  rw [hsurvey.mem_keys]
  constructor
  · rintro ⟨x, hx, hkey⟩
    obtain ⟨e, he, rfl⟩ := hsurvey.exists_joined hx
    rw [GroupSearch.mem_keys, Entry.project_dn] at hkey
    exact ⟨e, he, hkey⟩
  · rintro ⟨e, he, hkey⟩
    refine ⟨_, hsurvey.mem_of_joined hdn hzero he, ?_⟩
    rwa [GroupSearch.mem_keys, Entry.project_dn]

theorem resolve_eq_joined_of_cycle :
    let a := Entry.ofList "cn=a" [("cn", ["a"]), ("member", ["u", "cn=b"])]
    let b := Entry.ofList "cn=b" [("cn", ["b"]), ("member", ["cn=a"])]
    let d : InMemory := ⟨[a, b], "member", none⟩
    let g : GroupSearch := { GroupSearch.default with base := some "" }
    ∃ found, ((Resolver.mk d.client g).resolve "u" "u" []).result = .ok found ∧
      found.stats = ⟨3, 1, 0⟩ ∧ ("ROLE_B", "cn=b") ∈ found.authorities.keys := by
  intro a b d g
  have hbase : g.base = some "" := rfl
  obtain ⟨found, hresult, hjoined⟩ := resolve_eq_joined (d := d) rfl (by decide) hbase "u" "u" []
  have hrun : ((Resolver.mk d.client g).resolve "u" "u" []).result.map (·.stats) =
      .ok ⟨3, 1, 0⟩ := by
    rw [Resolver.resolve_eq_ofRun hbase]
    decide +kernel
  rw [hresult] at hrun
  have hstats : found.stats = ⟨3, 1, 0⟩ := Except.ok.inj hrun
  have hzero : found.stats.exhausted = 0 := by rw [hstats]
  have ha : d.Joined g "" "u" a := .direct (by decide +kernel)
  have hb : d.Joined g "" "u" b := ha.nested (by decide +kernel) (by decide +kernel)
  refine ⟨found, hresult, hstats, (hjoined hzero _ _).2 ⟨b, hb, rfl, "b", ?_, ?_⟩⟩
  · decide +kernel
  · decide +kernel

end InMemory

end NestedGroups
