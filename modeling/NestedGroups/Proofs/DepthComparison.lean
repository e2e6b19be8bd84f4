import NestedGroups.Proofs.DepthLimit

namespace NestedGroups

/-- The second entry is a parent of the first, or of an entry without roles that lies behind it. -/
inductive InMemory.Behind (d : InMemory) (g : GroupSearch) (base : String) (x : Entry) :
    Entry → Prop
  | parent {e : Entry} (he : d.IsParent base e x.dn) : d.Behind g base x e
  | through {e e' : Entry} (he : d.Behind g base x e)
      (hrole : (e.project g.requested).values g.roleAttribute = [])
      (he' : d.IsParent base e' e.dn) : d.Behind g base x e'

/-- The entry lies behind a group at which a branch ended for want of depth, and which has a path
that is shorter than the depth. -/
def InMemory.Hidden (d : InMemory) (g : GroupSearch) (base principal : String) (depth : Nat)
    (events : List Event) (e : Entry) : Prop :=
  ∃ n < depth, ∃ x, d.Path base principal n x ∧ .exhausted x.dn ∈ events ∧ d.Behind g base x e

theorem InMemory.Behind.exists_parent {d : InMemory} {g : GroupSearch} {base : String}
    {x e : Entry} (h : d.Behind g base x e) : ∃ y, d.IsParent base y x.dn := by
  induction h with
  | parent he => exact ⟨_, he⟩
  | through _ _ _ ih => exact ih

namespace Survey

variable {d : InMemory} {g : GroupSearch} {base dn label : String} {depth shallow deep : Nat}
  {visits visits' : List Visit} {f f' : Findings}

theorem mem_of_key (h : Survey d g base dn label depth visits f)
    (hdn : (d.entries.map (·.dn)).Nodup) {e : Entry} (he : e ∈ d.entries) {role : String}
    (hkey : (role, e.dn) ∈ f.authorities.keys) :
    e.project g.requested ∈ visits.map Visit.entry := by
  obtain ⟨x, hx, hkey⟩ := h.mem_keys.1 hkey
  obtain ⟨e', he', rfl⟩ := h.exists_mem hx
  have heq : e.dn = e'.dn := (GroupSearch.snd_of_mem_keys hkey).trans (Entry.project_dn _ e')
  rwa [List.inj_on_of_nodup_map hdn he he' heq]

theorem mem_parent_or_hidden (h : Survey d g base dn label depth visits f)
    (hdn : (d.entries.map (·.dn)).Nodup) {n limit : Nat} (hn : n < limit) {e e' : Entry}
    (he : d.Path base dn n e) (hmet : e.project g.requested ∈ visits.map Visit.entry)
    (hcol : ¬ g.Collides (e.project g.requested)) (he' : d.IsParent base e' e.dn) :
    e'.project g.requested ∈ visits.map Visit.entry ∨ d.Hidden g base dn limit f.events e' := by
  rcases h.stop_or_mem hdn he.mem hmet hcol with hstop | hparents
  · have hevent := h.exhausted_mem_events hstop
    rw [Entry.project_dn] at hevent
    exact .inr ⟨n, hn, e, he, hevent, .parent he'⟩
  · exact .inl (hparents e' he')

theorem mem_or_hidden (h : Survey d g base dn label shallow visits f)
    (h' : Survey d g base dn label deep visits' f') (hdn : (d.entries.map (·.dn)).Nodup)
    (hle : shallow ≤ deep)
    (hfound : ∀ e role, d.Hidden g base dn shallow f'.events e →
      (role, e.dn) ∈ f.authorities.keys → (role, e.dn) ∈ f'.authorities.keys)
    {x : Entry} (hx : x ∈ visits.map Visit.entry) :
    ∃ e, e.project g.requested = x ∧
      (x ∈ visits'.map Visit.entry ∨ d.Hidden g base dn shallow f'.events e) := by
  have hlevel := h.exists_level (P := fun level e => ∃ n, level + n = shallow ∧
    d.Path base dn n e ∧ (e.project g.requested ∈ visits'.map Visit.entry ∨
      d.Hidden g base dn shallow f'.events e)) ?_ ?_ hx
  · obtain ⟨-, -, e, ⟨-, -, -, he⟩, rfl⟩ := hlevel
    exact ⟨e, rfl, he⟩
  · intro level e hlevel he
    have hdeep : 0 < deep := Nat.lt_of_lt_of_le (hlevel ▸ Nat.succ_pos level) hle
    exact ⟨1, hlevel.symm, .direct he, .inl (h'.mem_direct hdeep he)⟩
  · rintro level e e' ⟨n, hn, hpath, he⟩ hmet hcol he'
    refine ⟨n + 1, by omega, .nested hpath he', ?_⟩
    have hshort : n < shallow := by omega
    rcases he with hmem | hhidden
    · exact h'.mem_parent_or_hidden hdn hshort hpath hmem hcol he'
    · cases hvalues : (e.project g.requested).values g.roleAttribute with
      | nil =>
        obtain ⟨m, hm, y, hy, hevent, hbehind⟩ := hhidden
        exact .inr ⟨m, hm, y, hy, hevent, .through hbehind hvalues he'⟩
      | cons v vs =>
        have hrole : (g.style.roleOf v, e.dn) ∈ g.keys (e.project g.requested) := by
          rw [GroupSearch.mem_keys, Entry.project_dn, hvalues]
          exact ⟨rfl, v, List.mem_cons_self, rfl⟩
        have hkey := hfound e _ hhidden (h.mem_keys.2 ⟨_, hmet, hrole⟩)
        have hmem := h'.mem_of_key hdn hpath.mem hkey
        exact h'.mem_parent_or_hidden hdn hshort hpath hmem hcol he'

end Survey

namespace InMemory

variable {d : InMemory} {g : GroupSearch} {base : String} {shallow deep : Nat}

/-- A higher limit of depth takes authorities away only behind a group that is found under either
limit, and at which the search with the higher limit came to the end of its depth. -/
theorem resolve_subset_iff (hd : d.failOn = none) (hdn : (d.entries.map (·.dn)).Nodup)
    (hbase : g.base = some base) (hle : shallow ≤ deep) (dn label : String) (journal : Journal) :
    let outcome depth :=
      (Resolver.mk d.client { g with maxDepth := depth }).resolve dn label journal
    ∃ less more, (outcome shallow).result = .ok less ∧ (outcome deep).result = .ok more ∧
      ((∀ key ∈ less.authorities.keys, key ∈ more.authorities.keys) ↔
        ∀ e role, d.Hidden g base dn shallow (outcome deep).events e →
          (role, e.dn) ∈ less.authorities.keys → (role, e.dn) ∈ more.authorities.keys) := by
  intro outcome
  obtain ⟨visits, f, hsurvey, hresult, -⟩ :=
    exists_survey_of_limit hd hbase shallow dn label journal
  obtain ⟨visits', f', hsurvey', hresult', hevents⟩ :=
    exists_survey_of_limit hd hbase deep dn label journal
  refine ⟨_, _, hresult, hresult', fun h e role _ => h _, fun h => ?_⟩
  have hfound : ∀ e role, d.Hidden g base dn shallow f'.events e →
      (role, e.dn) ∈ f.authorities.keys → (role, e.dn) ∈ f'.authorities.keys := by
    rintro e role ⟨n, hn, x, hx, hevent, he⟩
    exact h e role ⟨n, hn, x, hx, (hevents x.dn).2 hevent, he⟩
  rintro ⟨role, source⟩ hkey
  obtain ⟨x, hx, hrole⟩ := hsurvey.mem_keys.1 hkey
  obtain ⟨e, rfl, hmem | hhidden⟩ := hsurvey.mem_or_hidden hsurvey' hdn hle hfound hx
  · exact hsurvey'.mem_keys.2 ⟨_, hmem, hrole⟩
  · have hsource : source = e.dn :=
      (GroupSearch.snd_of_mem_keys hrole).trans (Entry.project_dn _ e)
    subst hsource
    exact hfound e role hhidden hkey

theorem resolve_subset_of_two_more :
    let a := Entry.ofList "cn=a,o" [("cn", ["a"]), ("member", ["u"])]
    let b := Entry.ofList "cn=b,o" [("cn", ["b"]), ("member", ["cn=c,o", "u"])]
    let c := Entry.ofList "cn=c,o" [("cn", ["c"]), ("member", ["cn=a,o"])]
    let t := Entry.ofList "cn=t,o" [("cn", ["t"]), ("member", ["cn=b,o"])]
    let d : InMemory := ⟨[a, b, c, t], "member", none⟩
    let g : GroupSearch := { GroupSearch.default with base := some "o" }
    let outcome depth := (Resolver.mk d.client { g with maxDepth := depth }).resolve "u" "u" []
    ∃ less more, (outcome 2).result = .ok less ∧ (outcome 4).result = .ok more ∧
      .exhausted "cn=t,o" ∈ (outcome 4).events ∧
      ∀ key ∈ less.authorities.keys, key ∈ more.authorities.keys := by
  intro a b c t d g outcome
  have hbase : g.base = some "o" := rfl
  have hle : 2 ≤ 4 := by decide
  obtain ⟨less, more, hless, hmore, hiff⟩ :=
    resolve_subset_iff (d := d) rfl (by decide) hbase hle "u" "u" []
  have hlast : ∀ x ∈ d.entries, .exhausted x.dn ∈ (outcome 4).events →
      ∀ y ∈ d.entries, ¬ d.IsParent "o" y x.dn := by
    rw [show outcome 4 = _ from Resolver.resolve_eq_ofRun hbase "u" "u" []]
    decide +kernel
  refine ⟨less, more, hless, hmore, ?_, hiff.2 ?_⟩
  · rw [show outcome 4 = _ from Resolver.resolve_eq_ofRun hbase "u" "u" []]
    decide +kernel
  · rintro e role ⟨n, -, x, hx, hevent, he⟩
    obtain ⟨y, hy⟩ := he.exists_parent
    exact (hlast x hx.mem hevent y hy.1 hy).elim

/-- With the higher limit the way through `a` and `c` still reaches `b`, but no further, and the
membership of the principal in `b` itself then counts as a cycle. -/
theorem not_subset_of_le :
    ¬ ∀ (d : InMemory) (assignments : List GroupSearch.Assignment) (g : GroupSearch)
      (base dn label : String) (shallow deep : Nat) (less more : Resolution),
      d.failOn = none → (d.entries.map (·.dn)).Nodup →
      GroupSearch.ofAssignments assignments = .ok g → g.base = some base → shallow ≤ deep →
      ((Resolver.mk d.client { g with maxDepth := shallow }).resolve dn label []).result =
        .ok less →
      ((Resolver.mk d.client { g with maxDepth := deep }).resolve dn label []).result = .ok more →
      ∀ key ∈ less.authorities.keys, key ∈ more.authorities.keys := by
  intro h
  let a := Entry.ofList "cn=a,o" [("cn", ["a"]), ("member", ["u"])]
  let b := Entry.ofList "cn=b,o" [("cn", ["b"]), ("member", ["cn=c,o", "u"])]
  let c := Entry.ofList "cn=c,o" [("cn", ["c"]), ("member", ["cn=a,o"])]
  let t := Entry.ofList "cn=t,o" [("cn", ["t"]), ("member", ["cn=b,o"])]
  let d : InMemory := ⟨[a, b, c, t], "member", none⟩
  let g : GroupSearch := { GroupSearch.default with base := some "o" }
  have hg : GroupSearch.ofAssignments [.base "o"] = .ok g := by decide +kernel
  have hbase : g.base = some "o" := rfl
  obtain ⟨_, f, -, hresult, -⟩ := exists_survey_of_limit (d := d) rfl hbase 2 "u" "u" []
  obtain ⟨_, f', -, hresult', -⟩ := exists_survey_of_limit (d := d) rfl hbase 3 "u" "u" []
  have hless : ("ROLE_T", "cn=t,o") ∈ f.authorities.keys := by
    have hkeys : ((Resolver.mk d.client { g with maxDepth := 2 }).resolve "u" "u" []).result.map
        (·.authorities.keys) =
        .ok [("ROLE_A", "cn=a,o"), ("ROLE_C", "cn=c,o"), ("ROLE_B", "cn=b,o"),
          ("ROLE_T", "cn=t,o")] := by
      rw [Resolver.resolve_eq_ofRun hbase]
      decide +kernel
    rw [hresult] at hkeys
    rw [show f.authorities.keys = _ from Except.ok.inj hkeys]
    decide
  have hmore : ("ROLE_T", "cn=t,o") ∉ f'.authorities.keys := by
    have hkeys : ((Resolver.mk d.client { g with maxDepth := 3 }).resolve "u" "u" []).result.map
        (·.authorities.keys) =
        .ok [("ROLE_A", "cn=a,o"), ("ROLE_C", "cn=c,o"), ("ROLE_B", "cn=b,o")] := by
      rw [Resolver.resolve_eq_ofRun hbase]
      decide +kernel
    rw [hresult'] at hkeys
    rw [show f'.authorities.keys = _ from Except.ok.inj hkeys]
    decide
  exact hmore (h d _ g "o" "u" "u" 2 3 _ _ rfl (by decide) hg hbase (by decide) hresult hresult' _
    hless)

end InMemory

end NestedGroups
