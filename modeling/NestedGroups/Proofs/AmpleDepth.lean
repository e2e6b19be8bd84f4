import NestedGroups.Proofs.Membership
import NestedGroups.Proofs.Tally

namespace NestedGroups

/-- Findings that differ in their events only; the events tell how much depth is left. -/
structure Findings.Agrees (f f' : Findings) : Prop where
  authorities : f'.authorities = f.authorities
  stats : f'.stats = f.stats

theorem Findings.Agrees.refl (f : Findings) : f.Agrees f :=
  ⟨rfl, rfl⟩

structure Dialogue.Run.Agrees {σ α : Type}
    (run run' : Dialogue.Run σ (Except DirectoryError α × Findings)) : Prop where
  result : run'.result.1 = run.result.1
  findings : run.result.2.Agrees run'.result.2
  client : run'.client = run.client
  exchanges : run'.exchanges = run.exchanges

namespace Search

variable {α β : Type}

/-- The second search does what the first one does, unless the first one ends a branch for want of
depth. -/
structure Extends (m m' : Search α) : Prop where
  le_exhausted : ∀ {σ : Type} (c : Client σ) (s : σ) (f : Findings),
    f.stats.exhausted ≤ (m.hold f c s).result.2.stats.exhausted
  agrees : ∀ {σ : Type} (c : Client σ) (s : σ) {f f' : Findings}, f.Agrees f' →
    (m.hold f c s).result.2.stats.exhausted = f.stats.exhausted →
    (m.hold f c s).Agrees (m'.hold f' c s)

theorem Extends.pure (a : α) : Extends (pure a : Search α) (pure a) where
  le_exhausted _ _ _ := Nat.le_refl _
  agrees _ _ _ _ hf _ := ⟨rfl, hf, rfl, rfl⟩

theorem Extends.bind {m m' : Search α} {k k' : α → Search β} (hm : m.Extends m')
    (hk : ∀ a, (k a).Extends (k' a)) : (m >>= k).Extends (m' >>= k') where
  le_exhausted c s f := by
    have hle := hm.le_exhausted c s f
    rw [hold_bind]
    generalize m.hold f c s = first at hle ⊢
    rcases first with ⟨⟨e | a, f₁⟩, s₁, record⟩
    · exact hle
    · exact Nat.le_trans hle ((hk a).le_exhausted c s₁ f₁)
  agrees c s f f' hf := by
    have hle := hm.le_exhausted c s f
    have hagrees := hm.agrees c s hf
    rw [hold_bind, hold_bind]
    generalize m.hold f c s = first at hle hagrees
    generalize m'.hold f' c s = first' at hagrees
    intro hsame
    rcases first with ⟨⟨e | a, f₁⟩, s₁, record⟩
    · obtain ⟨hresult, hfindings, hclient, hexchanges⟩ := hagrees hsame
      rcases first' with ⟨⟨_ | _, f₁'⟩, s₁', record'⟩
      · cases hresult
        exact ⟨rfl, hfindings, hclient, hexchanges⟩
      · cases hresult
    · have hle' := (hk a).le_exhausted c s₁ f₁
      have hfirst : f₁.stats.exhausted = f.stats.exhausted :=
        Nat.le_antisymm (hsame ▸ hle') hle
      obtain ⟨hresult, hfindings, hclient, hexchanges⟩ := hagrees hfirst
      rcases first' with ⟨⟨_ | a', f₁'⟩, s₁', record'⟩
      · cases hresult
      · cases hresult
        cases hclient
        cases hexchanges
        obtain ⟨hresult, hfindings, hclient, hexchanges⟩ :=
          (hk a).agrees c s₁ hfindings (hsame.trans hfirst.symm)
        exact ⟨hresult, hfindings, hclient, congrArg (record ++ ·) hexchanges⟩

theorem Extends.exhaust (root : String) (m' : Search Unit) :
    Extends (modify (·.exhaust root)) m' where
  le_exhausted _ _ _ := Nat.le_succ _
  agrees _ _ _ _ _ hsame := absurd hsame (Nat.succ_ne_self _)

theorem Extends.cut (dn : String) :
    Extends (modify (·.cut dn) : Search Unit) (modify (·.cut dn)) where
  le_exhausted _ _ _ := Nat.le_refl _
  agrees c s f f' hf _ := by
    refine ⟨rfl, ⟨hf.authorities, ?_⟩, rfl, rfl⟩
    exact congrArg (fun stats : Stats => { stats with cycles := stats.cycles + 1 }) hf.stats

theorem Extends.ask (q : Query) (depth depth' : Nat) : (ask q depth).Extends (ask q depth') where
  le_exhausted c s f := by
    rw [hold_ask]
    rcases c.search q s with ⟨e | found, s'⟩
    · exact Nat.le_refl _
    · exact Nat.le_refl _
  agrees c s f f' hf _ := by
    have hfindings : (f.ask q depth).Agrees (f'.ask q depth') := by
      refine ⟨hf.authorities, ?_⟩
      exact congrArg (fun stats : Stats => { stats with queries := stats.queries + 1 }) hf.stats
    rw [hold_ask, hold_ask]
    rcases c.search q s with ⟨e | found, s'⟩
    · exact ⟨rfl, hfindings, rfl, rfl⟩
    · exact ⟨rfl, hfindings, rfl, rfl⟩

theorem Extends.enter (g : GroupSearch) (e : Entry) : (g.enter e).Extends (g.enter e) where
  le_exhausted c s f := Nat.le_of_eq (by rw [GroupSearch.hold_enter])
  agrees c s f f' hf _ := by
    rw [GroupSearch.hold_enter, GroupSearch.hold_enter, hf.authorities]
    exact ⟨rfl, ⟨rfl, hf.stats⟩, rfl, rfl⟩

theorem Extends.forM {es : List Entry} {k k' : Entry → Search Unit}
    (hk : ∀ e, (k e).Extends (k' e)) : Extends (forM es k) (forM es k') := by
  induction es with
  | nil => exact .pure ()
  | cons e es ih =>
    rw [List.forM_cons, List.forM_cons]
    exact (hk e).bind fun _ => ih

end Search

namespace GroupSearch

theorem extends_handle {g : GroupSearch} {base : String} {depth more : Nat}
    (h : ∀ root label, (g.search base depth root label).Extends (g.search base more root label))
    (e : Entry) : (g.handle base depth e).Extends (g.handle base more e) := by
  refine (Search.Extends.enter g e).bind fun again => ?_
  cases again with
  | true => exact .cut _
  | false => exact h _ _

theorem extends_search (g : GroupSearch) (base : String) {depth more : Nat} (hle : depth ≤ more)
    (root label : String) :
    (g.search base depth root label).Extends (g.search base more root label) := by
  induction depth generalizing more root label with
  | zero => exact .exhaust _ _
  | succ depth ih =>
    cases more with
    | zero => exact absurd hle (Nat.not_succ_le_zero depth)
    | succ more =>
      rw [search_succ, search_succ]
      exact (Search.Extends.ask _ _ _).bind fun found =>
        .forM (extends_handle fun root label => ih (Nat.le_of_succ_le_succ hle) root label)

end GroupSearch

namespace Resolver

variable {σ : Type}

theorem resolve_of_more_depth {c : Client σ} {g : GroupSearch} {shallow deep : Nat}
    (hle : shallow ≤ deep) {dn label : String} {state : σ} {found : Resolution}
    (hresult : ((mk c { g with maxDepth := shallow }).resolve dn label state).result = .ok found)
    (hzero : found.stats.exhausted = 0) :
    let outcome depth := (mk c { g with maxDepth := depth }).resolve dn label state
    (outcome deep).result = (outcome shallow).result ∧
      (outcome deep).client = (outcome shallow).client := by
  intro outcome
  cases hbase : g.base with
  | none =>
    have hdisabled (depth : Nat) : outcome depth = ⟨.ok {}, state, []⟩ :=
      resolve_of_disabled hbase dn label state
    rw [hdisabled, hdisabled]
    exact ⟨rfl, rfl⟩
  | some base =>
    have houtcome (depth : Nat) : outcome depth =
        .ofRun depth ((g.search base depth dn label).hold {} c state) := by
      rw [← g.search_of_limit depth]
      exact resolve_eq_ofRun hbase dn label state
    have hagrees := (g.extends_search base hle dn label).agrees c state (.refl {})
    change (outcome shallow).result = _ at hresult
    rw [houtcome, Outcome.ofRun_result] at hresult
    rw [houtcome, houtcome, Outcome.ofRun_result, Outcome.ofRun_result, Outcome.ofRun_client,
      Outcome.ofRun_client]
    generalize (g.search base shallow dn label).hold {} c state = run at hresult hagrees
    rcases run with ⟨⟨e | _, f⟩, s, record⟩
    · cases hresult
    · cases hresult
      obtain ⟨hresult, hfindings, hclient, -⟩ := hagrees hzero
      refine ⟨?_, hclient⟩
      rw [hresult, hfindings.authorities, hfindings.stats]

end Resolver

namespace Survey

variable {d : InMemory} {g : GroupSearch} {base dn label : String} {depth : Nat}
  {visits : List Visit} {f : Findings}

theorem length_arrivals_le (h : Survey d g base dn label depth visits f)
    (hroles : ∀ e ∈ d.entries, (e.project g.requested).values g.roleAttribute ≠ []) :
    (arrivals visits).length ≤ d.entries.length := by
  have hentry : ∀ x ∈ arrivals visits, ∃ e ∈ d.entries, e.project g.requested = x :=
    fun x hx => h.exists_mem (mem_arrivals.1 hx).mem_entries
  have hnodup : (arrivals visits).Nodup := by
    cases h with
    | stop => exact .nil
    | search _ hexplored =>
      have hfilter : (arrivals visits).filter (g.keys · ≠ []) = arrivals visits := by
        rw [List.filter_eq_self]
        intro x hx
        obtain ⟨e, he, rfl⟩ := hentry x hx
        exact decide_eq_true (mt GroupSearch.keys_eq_nil_iff.1 (hroles e he))
      exact hfilter ▸ hexplored.nodup_arrivals
  have hsub : arrivals visits ⊆ d.entries.map (Entry.project g.requested) := by
    intro x hx
    obtain ⟨e, he, rfl⟩ := hentry x hx
    exact List.mem_map_of_mem he
  have hlength := hnodup.length_le_of_subset hsub
  rwa [List.length_map] at hlength

theorem exhausted_eq_zero (h : Survey d g base dn label depth visits f)
    (hroles : ∀ e ∈ d.entries, (e.project g.requested).values g.roleAttribute ≠ [])
    (hdepth : d.entries.length < depth) : f.stats.exhausted = 0 := by
  have hlength := h.length_arrivals_le hroles
  cases h with
  | stop => exact (Nat.not_lt_zero _ hdepth).elim
  | search _ hexplored =>
    have hnone : visits.countP Visit.isStop = 0 := by
      rw [List.countP_eq_zero]
      rintro (_ | e | _) hv
      · exact Bool.false_ne_true
      · have hlt := hexplored.lt_length_arrivals hv
        omega
      · exact Bool.false_ne_true
    rw [hexplored.stats_eq, hnone]
    rfl

end Survey

namespace InMemory

variable {d : InMemory} {g : GroupSearch} {base : String}

theorem resolve_eq_of_healthy {g' : GroupSearch} {dn label : String} {journal : Journal} :
    let healthy (g : GroupSearch) :=
      (Resolver.mk { d with failOn := none }.client g).resolve dn label journal
    let outcome (g : GroupSearch) := (Resolver.mk d.client g).resolve dn label journal
    (healthy g).result = (healthy g').result → (healthy g).client = (healthy g').client →
      (outcome g).result = (outcome g').result ∧ (outcome g).client = (outcome g').client := by
  intro healthy outcome hresult hclient
  rcases Resolver.resolve_injected d g dn label journal with ⟨hnone, hsame⟩ | ⟨n, hn, hfailed⟩
  · rcases Resolver.resolve_injected d g' dn label journal with ⟨-, hsame'⟩ | ⟨n, hn, -⟩
    · rw [show outcome g = _ from hsame, show outcome g' = _ from hsame']
      exact ⟨hresult, hclient⟩
    · rw [← show (healthy g).client = _ from hclient] at hn
      exact (hnone n hn).elim
  · rcases Resolver.resolve_injected d g' dn label journal with ⟨hnone, -⟩ | ⟨n', hn', hfailed'⟩
    · rw [show (healthy g).client = _ from hclient] at hn
      exact (hnone n hn).elim
    · cases Option.some.inj (hn.1.symm.trans hn'.1)
      rw [← show (healthy g).client = _ from hclient] at hfailed'
      exact ⟨hfailed.1.trans hfailed'.1.symm, hfailed.2.trans hfailed'.2.symm⟩

theorem resolve_healthy_of_ample_depth (hd : d.failOn = none) (hbase : g.base = some base)
    (hroles : ∀ e ∈ d.entries, (e.project g.requested).values g.roleAttribute ≠ [])
    (dn label : String) (journal : Journal) :
    let outcome depth :=
      (Resolver.mk d.client { g with maxDepth := depth }).resolve dn label journal
    ∃ found, (outcome (d.entries.length + 1)).result = .ok found ∧ found.stats.exhausted = 0 ∧
      ∀ limit, d.entries.length + 1 ≤ limit →
        (outcome limit).result = (outcome (d.entries.length + 1)).result ∧
          (outcome limit).client = (outcome (d.entries.length + 1)).client := by
  intro outcome
  obtain ⟨visits, f, h, hresult, -⟩ :=
    exists_survey_of_limit hd hbase (d.entries.length + 1) dn label journal
  have hzero := h.exhausted_eq_zero hroles (Nat.lt_succ_self _)
  exact ⟨_, hresult, hzero, fun limit hlimit =>
    Resolver.resolve_of_more_depth hlimit hresult hzero⟩

/-- If all groups hold roles, a limit beyond the number of entries is never reached, and all such
limits have the same effect. -/
theorem resolve_of_ample_depth (hbase : g.base = some base)
    (hroles : ∀ e ∈ d.entries, (e.project g.requested).values g.roleAttribute ≠ [])
    (dn label : String) (journal : Journal) :
    let outcome depth :=
      (Resolver.mk d.client { g with maxDepth := depth }).resolve dn label journal
    ∀ limit, d.entries.length + 1 ≤ limit →
      (d.failOn = none → ∃ found, (outcome limit).result = .ok found) ∧
        (∀ found, (outcome limit).result = .ok found → found.stats.exhausted = 0) ∧
        ∀ limit', d.entries.length + 1 ≤ limit' →
          (outcome limit').result = (outcome limit).result ∧
            (outcome limit').client = (outcome limit).client := by
  intro outcome limit hlimit
  obtain ⟨found, hfound, hzero, hlimits⟩ := resolve_healthy_of_ample_depth
    (d := { d with failOn := none }) rfl hbase hroles dn label journal
  obtain ⟨hresult, hclient⟩ := hlimits limit hlimit
  refine ⟨fun hd => ?_, fun found' hfound' => ?_, fun limit' hlimit' => ?_⟩
  · rcases Resolver.resolve_injected d { g with maxDepth := limit } dn label journal with
      ⟨-, hsame⟩ | ⟨n, hn, -⟩
    · exact ⟨found, (congrArg Outcome.result hsame).trans (hresult.trans hfound)⟩
    · cases hd.symm.trans hn.1
  · rcases Resolver.resolve_injected d { g with maxDepth := limit } dn label journal with
      ⟨-, hsame⟩ | ⟨n, -, hfailed, -⟩
    · have hok := (congrArg Outcome.result hsame).symm.trans hfound'
      cases hok.symm.trans (hresult.trans hfound)
      exact hzero
    · cases hfound'.symm.trans hfailed
  · obtain ⟨hresult', hclient'⟩ := hlimits limit' hlimit'
    exact resolve_eq_of_healthy (hresult'.trans hresult.symm) (hclient'.trans hclient.symm)

/-- Three groups in a circle, two of them under one name. -/
theorem resolve_of_ample_depth_of_circle :
    let a := Entry.ofList "cn=a" [("cn", ["a"]), ("member", ["u", "cn=c"])]
    let b := Entry.ofList "cn=b" [("cn", ["b"]), ("member", ["cn=a"])]
    let c := Entry.ofList "cn=b" [("cn", ["c"]), ("member", ["cn=b"])]
    let d : InMemory := ⟨[a, b, c], "member", none⟩
    let g : GroupSearch := { GroupSearch.default with base := some "" }
    let outcome depth := (Resolver.mk d.client { g with maxDepth := depth }).resolve "u" "u" []
    ∃ found, (outcome 4).result = .ok found ∧ found.stats.exhausted = 0 ∧
      (outcome 1000000).result = .ok found := by
  intro a b c d g outcome
  have hbase : g.base = some "" := rfl
  have hroles : ∀ e ∈ d.entries, (e.project g.requested).values g.roleAttribute ≠ [] := by
    decide +kernel
  obtain ⟨hok, hzero, hdeeper⟩ :=
    resolve_of_ample_depth hbase hroles "u" "u" [] 4 (by decide : 3 + 1 ≤ 4)
  obtain ⟨found, hfound⟩ := hok rfl
  refine ⟨found, hfound, hzero found hfound, ?_⟩
  exact (hdeeper 1000000 (by decide : 3 + 1 ≤ 1000000)).1.trans hfound

end InMemory

end NestedGroups
