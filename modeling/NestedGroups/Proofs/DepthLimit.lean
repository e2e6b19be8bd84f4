import Mathlib.Logic.Relation
import NestedGroups.Proofs.Membership
import NestedGroups.Proofs.Requested

namespace NestedGroups

/-- A path of memberships from the principal to an entry, and its length. -/
inductive InMemory.Path (d : InMemory) (base principal : String) : Nat → Entry → Prop
  | direct {e : Entry} (he : d.IsParent base e principal) : d.Path base principal 1 e
  | nested {n : Nat} {e e' : Entry} (he : d.Path base principal n e)
      (he' : d.IsParent base e' e.dn) : d.Path base principal (n + 1) e'

/-- The authority comes from a group within reach of the depth. -/
def InMemory.Due (d : InMemory) (g : GroupSearch) (base principal role source : String) : Prop :=
  ∃ n ≤ g.maxDepth, ∃ e, d.Path base principal n e ∧ source = e.dn ∧
    ∃ v ∈ e.values g.roleAttribute, g.style.roleOf v = role

/-- No entry is its own parent, not even through other entries. -/
def InMemory.Acyclic (d : InMemory) (base : String) : Prop :=
  ∀ e ∈ d.entries, ¬ Relation.TransGen (fun x y => d.IsParent base y x.dn) e e

namespace InMemory

variable {d : InMemory} {g : GroupSearch} {base dn label : String} {e : Entry} {n : Nat}

theorem Path.mem (h : d.Path base dn n e) : e ∈ d.entries := by
  cases h with
  | direct he => exact he.1
  | nested _ he => exact he.1

theorem acyclic_of_lt (rank : Entry → Nat)
    (h : ∀ x ∈ d.entries, ∀ y ∈ d.entries, d.IsParent base y x.dn → rank x < rank y) :
    d.Acyclic base := by
  intro e he hcycle
  have hlt : ∀ y, Relation.TransGen (fun x y => d.IsParent base y x.dn) e y →
      y ∈ d.entries ∧ rank e < rank y := by
    intro y hy
    induction hy with
    | single hparent => exact ⟨hparent.1, h _ he _ hparent.1 hparent⟩
    | tail _ hparent ih => exact ⟨hparent.1, Nat.lt_trans ih.2 (h _ ih.1 _ hparent.1 hparent)⟩
  exact Nat.lt_irrefl _ (hlt e hcycle).2

end InMemory

namespace Survey

variable {d : InMemory} {g : GroupSearch} {base dn label : String} {depth : Nat}
  {visits : List Visit} {f : Findings}

theorem exists_path (h : Survey d g base dn label depth visits f) {x : Entry}
    (hx : x ∈ visits.map Visit.entry) :
    ∃ n ≤ depth, ∃ e, d.Path base dn n e ∧ e.project g.requested = x := by
  have hlevel := h.exists_level (P := fun level e => ∃ n, level + n = depth ∧ d.Path base dn n e)
    ?_ ?_ hx
  · obtain ⟨level, -, e, ⟨n, hn, he⟩, hproject⟩ := hlevel
    exact ⟨n, hn ▸ Nat.le_add_left n level, e, he, hproject⟩
  · exact fun level e hlevel he => ⟨1, hlevel.symm, .direct he⟩
  · rintro level e e' ⟨n, hn, he⟩ - - he'
    exact ⟨n + 1, by omega, .nested he he'⟩

/-- A path is followed to its end, if whatever has too little depth left has its parents found
elsewhere. -/
theorem mem_of_path (h : Survey d g base dn label depth visits f)
    (hdn : (d.entries.map (·.dn)).Nodup)
    (hcol : ∀ e ∈ d.entries, ¬ g.Collides (e.project g.requested))
    (hstop : ∀ e n, d.Path base dn n e → n < depth → .stop (e.project g.requested) ∈ visits →
      ∀ e', d.IsParent base e' e.dn → e'.project g.requested ∈ visits.map Visit.entry)
    {n : Nat} {e : Entry} (he : d.Path base dn n e) (hn : n ≤ depth) :
    e.project g.requested ∈ visits.map Visit.entry := by
  induction he with
  | direct he => exact h.mem_direct hn he
  | nested he he' ih =>
    rcases h.stop_or_mem hdn he.mem (ih (Nat.le_of_succ_le hn)) (hcol _ he.mem) with hmem | hmem
    · exact hstop _ _ he hn hmem _ he'
    · exact hmem _ he'

end Survey

namespace InMemory

variable {d : InMemory} {g : GroupSearch} {base : String}

/-- What a resolution finds is due, and all that is due is found unless a group was left for want of
depth that has a shorter path from the principal, and one of its parents was never found. -/
theorem resolve_complete_iff {assignments : List GroupSearch.Assignment}
    (hd : d.failOn = none) (hdn : (d.entries.map (·.dn)).Nodup)
    (hg : GroupSearch.ofAssignments assignments = .ok g)
    (hrole : Text.isAllBlank g.roleAttribute = false) (hbase : g.base = some base)
    (hvalues : ∀ e ∈ d.entries, e.values g.roleAttribute ≠ [])
    (hcol : ∀ e ∈ d.entries, ¬ g.Collides e) (dn label : String) (journal : Journal) :
    let outcome := (Resolver.mk d.client g).resolve dn label journal
    ∃ found, outcome.result = .ok found ∧
      (∀ role source, (role, source) ∈ found.authorities.keys → d.Due g base dn role source) ∧
      ((∀ role source, (role, source) ∈ found.authorities.keys ↔ d.Due g base dn role source) ↔
        ∀ n e, n < g.maxDepth → d.Path base dn n e → .exhausted e.dn ∈ outcome.events →
          ∀ e', d.IsParent base e' e.dn → ∃ role, (role, e'.dn) ∈ found.authorities.keys) := by
  intro outcome
  obtain ⟨visits, f, hsurvey, hresult, hevents⟩ := exists_survey hd hbase dn label journal
  have hrequested := GroupSearch.roleAttribute_mem_requested hg hrole
  have hkeys {e : Entry} (he : e ∈ d.entries) {role source : String} :
      (role, source) ∈ g.keys (e.project g.requested) ↔
        source = e.dn ∧ ∃ v ∈ e.values g.roleAttribute, g.style.roleOf v = role := by
    rw [GroupSearch.mem_keys, Entry.project_dn, Entry.values_project hrequested (hvalues e he)]
  have hsound : ∀ role source, (role, source) ∈ f.authorities.keys →
      d.Due g base dn role source := by
    intro role source hkey
    obtain ⟨x, hx, hkey⟩ := hsurvey.mem_keys.1 hkey
    obtain ⟨n, hn, e, he, rfl⟩ := hsurvey.exists_path hx
    exact ⟨n, hn, e, he, (hkeys he.mem).1 hkey⟩
  refine ⟨_, hresult, hsound, ?_, ?_⟩
  · intro hcomplete n e hn he _ e' he'
    obtain ⟨v, hv⟩ := List.exists_mem_of_ne_nil _ (hvalues e' he'.1)
    exact ⟨_, (hcomplete _ _).2 ⟨n + 1, hn, e', .nested he he', rfl, v, hv, rfl⟩⟩
  · intro hleft role source
    refine ⟨hsound role source, ?_⟩
    rintro ⟨n, hn, e, he, hkey⟩
    refine hsurvey.mem_keys.2 ⟨_, ?_, (hkeys he.mem).2 hkey⟩
    refine hsurvey.mem_of_path hdn (fun e he => ?_) ?_ he hn
    · rw [GroupSearch.collides_project hrequested (hvalues e he)]
      exact hcol e he
    · intro e n he hn hstop e' he'
      have hevent := (hevents e.dn).2 (Entry.project_dn _ e ▸ hsurvey.exhausted_mem_events hstop)
      obtain ⟨role, hkey⟩ := hleft n e hn he hevent e' he'
      obtain ⟨x, hx, hkey⟩ := hsurvey.mem_keys.1 hkey
      obtain ⟨e'', he'', rfl⟩ := hsurvey.exists_mem hx
      have heq := (hkeys he'').1 hkey
      rwa [List.inj_on_of_nodup_map hdn he'.1 he'' heq.1]

theorem resolve_complete_of_last_first :
    let a := Entry.ofList "cn=a,o" [("cn", ["a"]), ("member", ["u"])]
    let b := Entry.ofList "cn=b,o" [("cn", ["b"]), ("member", ["cn=a,o", "u"])]
    let t := Entry.ofList "cn=t,o" [("cn", ["t"]), ("member", ["cn=b,o"])]
    let d : InMemory := ⟨[t, b, a], "member", none⟩
    let g : GroupSearch := { GroupSearch.default with base := some "o", maxDepth := 2 }
    ∃ found, ((Resolver.mk d.client g).resolve "u" "u" []).result = .ok found ∧
      ∀ role source, (role, source) ∈ found.authorities.keys ↔ d.Due g "o" "u" role source := by
  intro a b t d g
  have hbase : g.base = some "o" := rfl
  have hg : GroupSearch.ofAssignments [.base "o", .maxDepth 2] = .ok g := by decide +kernel
  obtain ⟨found, hresult, -, hiff⟩ := resolve_complete_iff (d := d) rfl (by decide) hg
    (by decide +kernel) hbase (by decide +kernel) (by decide +kernel) "u" "u" []
  refine ⟨found, hresult, hiff.2 fun n e _ he hevent e' he' => ?_⟩
  have hleft : ∀ x ∈ d.entries,
      .exhausted x.dn ∈ ((Resolver.mk d.client g).resolve "u" "u" []).events →
        ∀ y ∈ d.entries, ¬ d.IsParent "o" y x.dn := by
    rw [Resolver.resolve_eq_ofRun hbase]
    decide +kernel
  exact (hleft e he.mem hevent e' he'.1 he').elim

/-- The depth is used up on the way through `a` to `b`, and the membership of the principal in `b`
itself then counts as a cycle. -/
theorem not_complete_of_acyclic :
    ¬ ∀ (d : InMemory) (assignments : List GroupSearch.Assignment) (g : GroupSearch)
      (base dn label : String), d.failOn = none → (d.entries.map (·.dn)).Nodup → d.Acyclic base →
      GroupSearch.ofAssignments assignments = .ok g → Text.isAllBlank g.roleAttribute = false →
      g.base = some base → (∀ e ∈ d.entries, e.values g.roleAttribute ≠ []) →
      (∀ e ∈ d.entries, ¬ g.Collides e) →
      ∃ found, ((Resolver.mk d.client g).resolve dn label []).result = .ok found ∧
        ∀ role source, (role, source) ∈ found.authorities.keys ↔ d.Due g base dn role source := by
  intro h
  let a := Entry.ofList "cn=a,o" [("cn", ["a"]), ("member", ["u"])]
  let b := Entry.ofList "cn=b,o" [("cn", ["b"]), ("member", ["cn=a,o", "u"])]
  let t := Entry.ofList "cn=t,o" [("cn", ["t"]), ("member", ["cn=b,o"])]
  let d : InMemory := ⟨[a, b, t], "member", none⟩
  let g : GroupSearch := { GroupSearch.default with base := some "o", maxDepth := 2 }
  have hacyclic : d.Acyclic "o" := acyclic_of_lt d.entries.idxOf (by decide +kernel)
  have hg : GroupSearch.ofAssignments [.base "o", .maxDepth 2] = .ok g := by decide +kernel
  obtain ⟨found, hresult, hdue⟩ := h d [.base "o", .maxDepth 2] g "o" "u" "u" rfl (by decide)
    hacyclic hg (by decide +kernel) rfl (by decide +kernel) (by decide +kernel)
  have hb : d.Path "o" "u" 1 b := .direct (by decide +kernel)
  have ht : d.Path "o" "u" 2 t := hb.nested (by decide +kernel)
  have hmem : ("ROLE_T", "cn=t,o") ∈ found.authorities.keys :=
    (hdue _ _).2 ⟨2, by decide +kernel, t, ht, rfl, "t", by decide +kernel, by decide +kernel⟩
  have hkeys : ((Resolver.mk d.client g).resolve "u" "u" []).result.map (·.authorities.keys) =
      .ok [("ROLE_A", "cn=a,o"), ("ROLE_B", "cn=b,o")] := by
    rw [Resolver.resolve_eq_ofRun rfl]
    decide +kernel
  rw [hresult] at hkeys
  rw [show found.authorities.keys = _ from Except.ok.inj hkeys] at hmem
  exact absurd hmem (by decide)

end InMemory

end NestedGroups
