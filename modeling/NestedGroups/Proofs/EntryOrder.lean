import Mathlib.Data.Multiset.Bind
import NestedGroups.Proofs.Membership
import NestedGroups.Proofs.Provenance
import NestedGroups.Proofs.Tally

namespace NestedGroups

theorem eq_of_eq_add_map {M : Type*} [AddCommMonoid M] (F : M →+ M) {s x y : M}
    (hx : x = s + F x) (hy : y = s + F y) {n : Nat} (hxn : F^[n] x = 0) (hyn : F^[n] y = 0) :
    x = y := by
  have hcross : ∀ k, x + F^[k] y = y + F^[k] x := by
    intro k
    induction k with
    | zero => exact add_comm x y
    | succ k ih =>
      rw [Function.iterate_succ_apply', Function.iterate_succ_apply']
      calc x + F (F^[k] y) = s + F (x + F^[k] y) := by rw [map_add, ← add_assoc, ← hx]
        _ = s + F (y + F^[k] x) := by rw [ih]
        _ = y + F (F^[k] x) := by rw [map_add, ← add_assoc, ← hy]
  have h := hcross n
  rwa [hxn, hyn, add_zero, add_zero] at h

namespace InMemory

/-- What is found for those of the entries that hold no role, with repetitions. -/
def beyond (d : InMemory) (g : GroupSearch) (base : String) :
    Multiset Entry →+ Multiset Entry where
  toFun es := (es.filter (g.keys · = [])).bind fun e => d.found g base e.dn
  map_zero' := rfl
  map_add' es es' := by rw [Multiset.filter_add, Multiset.add_bind]

def Settles (d : InMemory) (g : GroupSearch) (base : String) : Visit → Prop
  | .turn _ => True
  | .stop _ => False
  | .search e found => found = d.found g base e.dn

variable {d : InMemory} {g : GroupSearch} {base principal : String} {e : Entry}

theorem beyond_singleton_of_ne (h : g.keys e ≠ []) : d.beyond g base {e} = 0 := by
  change (Multiset.filter _ {e}).bind _ = 0
  rw [Multiset.filter_singleton, if_neg h]
  rfl

theorem beyond_singleton_of_eq (h : g.keys e = []) :
    d.beyond g base {e} = ↑(d.found g base e.dn) := by
  change (Multiset.filter _ {e}).bind _ = _
  rw [Multiset.filter_singleton, if_pos h, Multiset.singleton_bind]

theorem Joined.mono {d' : InMemory} (h : d.Joined g base principal e)
    (hparent : ∀ e name, d.IsParent base e name → d'.IsParent base e name) :
    d'.Joined g base principal e := by
  induction h with
  | direct he => exact .direct (hparent _ _ he)
  | nested _ hcol he ih => exact .nested ih hcol (hparent _ _ he)

end InMemory

namespace Explores

variable {d : InMemory} {g : GroupSearch} {base : String} {depth : Nat} {es : List Entry}
  {f f' : Findings} {visits : List Visit}

/-- Entries without roles that are found one behind the other use up the depth. -/
theorem iterate_beyond_eq_zero (h : Explores g base depth es f visits f')
    (hsettles : ∀ v ∈ visits, d.Settles g base v) :
    (d.beyond g base)^[depth + 1] ↑(visits.map Visit.entry) = 0 := by
  induction h with
  | done => exact iterate_map_zero _ _
  | @turn depth e _ _ _ _ visits hreg rest ih =>
    rw [List.forall_mem_cons] at hsettles
    have hhead : (d.beyond g base)^[depth + 1] {e} = 0 := by
      have hrole : g.keys e ≠ [] := (Explores.turn hreg rest).keys_ne_nil_of_turn List.mem_cons_self
      rw [Function.iterate_succ_apply, InMemory.beyond_singleton_of_ne hrole, iterate_map_zero]
    rw [List.map_cons, ← Multiset.cons_coe, ← Multiset.singleton_add, iterate_map_add,
      Visit.entry, hhead, ih hsettles.2, add_zero]
  | stop =>
    rw [List.forall_mem_cons] at hsettles
    exact hsettles.1.elim
  | @search depth e _ found _ _ _ _ before after hreg inner _ ihInner ih =>
    rw [List.forall_mem_cons, List.forall_mem_append] at hsettles
    obtain ⟨hanswer, hinside, houtside⟩ := hsettles
    have hbefore := ihInner hinside
    have hhead : (d.beyond g base)^[depth + 1 + 1] {e} = 0 := by
      rw [Function.iterate_succ_apply]
      by_cases hrole : g.keys e = []
      · obtain ⟨more, hmore⟩ := Multiset.le_iff_exists_add.1
          (Multiset.coe_le.2 inner.sublist.subperm)
        rw [hmore, iterate_map_add] at hbefore
        rw [InMemory.beyond_singleton_of_eq hrole, ← show found = _ from hanswer]
        exact Multiset.le_zero.1 (Multiset.le_iff_exists_add.2 ⟨_, hbefore.symm⟩)
      · rw [InMemory.beyond_singleton_of_ne hrole, iterate_map_zero]
    rw [List.map_cons, List.map_append, ← Multiset.cons_coe, ← Multiset.singleton_add,
      ← Multiset.coe_add, iterate_map_add, iterate_map_add, Visit.entry, hhead, ih houtside,
      Function.iterate_succ_apply', hbefore, map_zero, add_zero, add_zero]

end Explores

theorem InMemory.flatMap_entries_eq {d : InMemory} {g : GroupSearch} {base : String}
    {visits : List Visit} (hsettles : ∀ v ∈ visits, d.Settles g base v) :
    (visits.filterMap (Visit.exchange? g base)).flatMap Exchange.entries =
      (arrivals visits).flatMap fun e => d.found g base e.dn := by
  induction visits with
  | nil => rfl
  | cons v visits ih =>
    rw [List.forall_mem_cons] at hsettles
    have hrest := ih hsettles.2
    cases v with
    | turn e => exact hrest
    | stop e => exact hsettles.1.elim
    | search e found =>
      rw [arrivals_search, List.flatMap_cons, ← hrest, ← show found = _ from hsettles.1]
      rfl

def GroupSearch.sources (g : GroupSearch) (visits : List Visit) : List Entry :=
  (arrivals visits).filter (g.keys · ≠ [])

theorem filter_arrivals_eq {g : GroupSearch} {visits : List Visit}
    (hturn : ∀ e, .turn e ∈ visits → g.keys e ≠ []) :
    (arrivals visits).filter (g.keys · = []) = (visits.map Visit.entry).filter (g.keys · = []) := by
  induction visits with
  | nil => rfl
  | cons v visits ih =>
    have hrest := ih fun e he => hturn e (List.mem_cons_of_mem _ he)
    cases v with
    | turn e =>
      have hrole := hturn e List.mem_cons_self
      rw [arrivals_turn, List.map_cons, Visit.entry, List.filter_cons_of_neg (by simpa using hrole),
        hrest]
    | stop e =>
      rw [arrivals_stop, List.map_cons, Visit.entry, List.filter_cons, List.filter_cons, hrest]
    | search e found =>
      rw [arrivals_search, List.map_cons, Visit.entry, List.filter_cons, List.filter_cons, hrest]

namespace Survey

variable {d : InMemory} {g : GroupSearch} {base dn label : String} {depth : Nat}
  {visits : List Visit} {f : Findings}

theorem settles (h : Survey d g base dn label depth visits f) (hzero : f.stats.exhausted = 0) :
    ∀ v ∈ visits, d.Settles g base v := by
  intro v hv
  cases v with
  | turn e => trivial
  | stop e => exact (h.of_exhausted_eq_zero hzero).2 e hv
  | search e found =>
    cases h with
    | stop => cases hv
    | search hanswered _ => exact hanswered e found hv

/-- The entries with roles that are searched are those that are joined to the principal and whose
labels do not collide. -/
theorem mem_sources (h : Survey d g base dn label depth visits f)
    (hdn : (d.entries.map (·.dn)).Nodup) (hzero : f.stats.exhausted = 0) {x : Entry} :
    x ∈ g.sources visits ↔
      g.keys x ≠ [] ∧ ¬ g.Collides x ∧ ∃ e, d.Joined g base dn e ∧ e.project g.requested = x := by
  rw [GroupSearch.sources, List.mem_filter, decide_eq_true_iff, and_comm, mem_arrivals]
  apply and_congr_right
  intro _
  constructor
  · intro hx
    have hcol : ¬ g.Collides x := by
      cases h with
      | stop => rcases hx with hx | ⟨_, hx⟩ <;> cases hx
      | search _ hexplored => exact hexplored.not_collides hx
    exact ⟨hcol, h.exists_joined hx.mem_entries⟩
  · rintro ⟨hcol, e, he, rfl⟩
    exact h.entered hdn he.mem (h.mem_of_joined hdn hzero he) hcol

theorem nodup_sources (h : Survey d g base dn label depth visits f) : (g.sources visits).Nodup := by
  cases h with
  | stop => exact .nil
  | search _ hexplored => exact hexplored.nodup_arrivals

theorem perm_entries (h : Survey d g base dn label depth visits f) (hzero : f.stats.exhausted = 0) :
    (visits.map Visit.entry).Perm
      (d.found g base dn ++ (arrivals visits).flatMap fun e => d.found g base e.dn) := by
  have hsettles := h.settles hzero
  cases h with
  | stop => cases hzero
  | search _ hexplored =>
    rw [← InMemory.flatMap_entries_eq hsettles]
    exact (hexplored.depthFirst g.mem_keys_empty_iff).perm

theorem perm_arrivals (h : Survey d g base dn label depth visits f) :
    (arrivals visits).Perm
      (g.sources visits ++ (visits.map Visit.entry).filter (g.keys · = [])) := by
  have hturn : ∀ e, .turn e ∈ visits → g.keys e ≠ [] := by
    intro e he
    cases h with
    | stop => cases he
    | search _ hexplored => exact hexplored.keys_ne_nil_of_turn he
  rw [← filter_arrivals_eq hturn, GroupSearch.sources]
  have hsplit := List.filter_append_perm (fun e => decide (g.keys e ≠ [])) (arrivals visits)
  simpa only [ne_eq, decide_not, Bool.not_not] using hsplit.symm

theorem entries_eq (h : Survey d g base dn label depth visits f) (hzero : f.stats.exhausted = 0) :
    (visits.map Visit.entry : Multiset Entry) =
      (d.found g base dn : Multiset Entry) + ((g.sources visits : Multiset Entry).bind fun e =>
        (d.found g base e.dn : Multiset Entry)) + d.beyond g base (visits.map Visit.entry) := by
  calc (visits.map Visit.entry : Multiset Entry)
      = (d.found g base dn : Multiset Entry) + ((arrivals visits : Multiset Entry).bind fun e =>
          (d.found g base e.dn : Multiset Entry)) := by
        rw [Multiset.coe_bind, Multiset.coe_add]
        exact Multiset.coe_eq_coe.2 (h.perm_entries hzero)
    _ = _ := by
        rw [Multiset.coe_eq_coe.2 h.perm_arrivals, ← Multiset.coe_add, Multiset.add_bind,
          ← add_assoc, ← Multiset.filter_coe]
        rfl

theorem iterate_beyond_eq_zero (h : Survey d g base dn label depth visits f)
    (hzero : f.stats.exhausted = 0) :
    (d.beyond g base)^[depth] (visits.map Visit.entry : Multiset Entry) = 0 := by
  have hsettles := h.settles hzero
  cases h with
  | stop => rfl
  | search _ hexplored => exact hexplored.iterate_beyond_eq_zero hsettles

theorem queries_eq (h : Survey d g base dn label depth visits f) (hzero : f.stats.exhausted = 0) :
    f.stats.queries = (arrivals visits).length + 1 := by
  cases h with
  | stop => cases hzero
  | search _ hexplored =>
    rw [hexplored.stats_eq] at hzero ⊢
    rw [length_arrivals, (Nat.add_eq_zero_iff.1 hzero).2]
    exact Nat.add_comm 1 _

theorem cycles_eq (h : Survey d g base dn label depth visits f) :
    f.stats.cycles + (arrivals visits).length = visits.length := by
  cases h with
  | stop => rfl
  | search _ hexplored =>
    rw [hexplored.stats_eq, length_eq_turns_add]
    exact congrArg (· + _) (Nat.zero_add _)

end Survey

namespace InMemory

variable {d : InMemory} {g : GroupSearch} {base : String} {entries : List Entry}

theorem found_perm (hperm : entries.Perm d.entries) (g : GroupSearch) (base name : String) :
    (({ d with entries := entries } : InMemory).found g base name).Perm (d.found g base name) :=
  (hperm.filter _).map _

theorem joined_of_perm (hperm : entries.Perm d.entries) {principal : String} {e : Entry} :
    ({ d with entries := entries } : InMemory).Joined g base principal e ↔
      d.Joined g base principal e := by
  constructor
  · exact fun h => h.mono fun _ _ he => ⟨hperm.mem_iff.1 he.1, he.2⟩
  · exact fun h => h.mono fun _ _ he => ⟨hperm.mem_iff.2 he.1, he.2⟩

theorem beyond_of_perm (hperm : entries.Perm d.entries) (g : GroupSearch) (base : String) :
    ({ d with entries := entries } : InMemory).beyond g base = d.beyond g base := by
  apply AddMonoidHom.ext
  intro es
  exact Multiset.bind_congr fun (e : Entry) _ => Multiset.coe_eq_coe.2 (found_perm hperm g base e.dn)

end InMemory

namespace Survey

variable {d : InMemory} {g : GroupSearch} {base dn label : String} {depth : Nat}
  {visits visits' : List Visit} {f f' : Findings} {entries : List Entry}

theorem perm_sources (h : Survey d g base dn label depth visits f)
    (h' : Survey { d with entries := entries } g base dn label depth visits' f')
    (hdn : (d.entries.map (·.dn)).Nodup) (hperm : entries.Perm d.entries)
    (hzero : f.stats.exhausted = 0) (hzero' : f'.stats.exhausted = 0) :
    (g.sources visits).Perm (g.sources visits') := by
  have hdn' : (entries.map (·.dn)).Nodup := (hperm.map _).nodup_iff.2 hdn
  rw [List.perm_ext_iff_of_nodup h.nodup_sources h'.nodup_sources]
  intro x
  rw [h.mem_sources hdn hzero, h'.mem_sources hdn' hzero']
  simp only [InMemory.joined_of_perm hperm]

theorem perm_entries_of_perm (h : Survey d g base dn label depth visits f)
    (h' : Survey { d with entries := entries } g base dn label depth visits' f')
    (hdn : (d.entries.map (·.dn)).Nodup) (hperm : entries.Perm d.entries)
    (hzero : f.stats.exhausted = 0) (hzero' : f'.stats.exhausted = 0) :
    (visits.map Visit.entry).Perm (visits'.map Visit.entry) := by
  have hsources := Multiset.coe_eq_coe.2 (h.perm_sources h' hdn hperm hzero hzero')
  have hentries := h'.entries_eq hzero'
  have hend := h'.iterate_beyond_eq_zero hzero'
  have hfound (name : String) := Multiset.coe_eq_coe.2 (InMemory.found_perm hperm g base name)
  rw [InMemory.beyond_of_perm hperm] at hentries hend
  simp only [hfound, ← hsources] at hentries
  exact Multiset.coe_eq_coe.1 (eq_of_eq_add_map (d.beyond g base) (h.entries_eq hzero) hentries
    (h.iterate_beyond_eq_zero hzero) hend)

end Survey

namespace InMemory

variable {d : InMemory} {g : GroupSearch} {base : String}

/-- The entries of a directory may stand in any order: as long as no branch ends for want of depth,
the same authorities are found with the same number of queries and of cycles. -/
theorem resolve_of_perm (hd : d.failOn = none) (hdn : (d.entries.map (·.dn)).Nodup)
    {entries : List Entry} (hperm : entries.Perm d.entries) (hbase : g.base = some base)
    (dn label : String) (journal : Journal) :
    let permuted : InMemory := { d with entries := entries }
    ∃ found found',
      ((Resolver.mk d.client g).resolve dn label journal).result = .ok found ∧
      ((Resolver.mk permuted.client g).resolve dn label journal).result = .ok found' ∧
      (found.stats.exhausted = 0 → found'.stats.exhausted = 0 →
        (∀ key, key ∈ found'.authorities.keys ↔ key ∈ found.authorities.keys) ∧
          found'.stats.queries = found.stats.queries ∧ found'.stats.cycles = found.stats.cycles) := by
  intro permuted
  obtain ⟨visits, f, h, hresult, -⟩ := exists_survey hd hbase dn label journal
  obtain ⟨visits', f', h', hresult', -⟩ :=
    exists_survey (d := permuted) hd hbase dn label journal
  refine ⟨_, _, hresult, hresult', fun hzero hzero' => ?_⟩
  have hvisits := h.perm_entries_of_perm h' hdn hperm hzero hzero'
  have hsources := h.perm_sources h' hdn hperm hzero hzero'
  have harrivals : (arrivals visits).length = (arrivals visits').length := by
    have hroleless := hvisits.filter (g.keys · = [])
    rw [h.perm_arrivals.length_eq, h'.perm_arrivals.length_eq]
    exact (hsources.append hroleless).length_eq
  refine ⟨fun key => ?_, ?_, ?_⟩
  · rw [h.mem_keys, h'.mem_keys]
    simp only [hvisits.mem_iff]
  · rw [h.queries_eq hzero, h'.queries_eq hzero', harrivals]
  · have hlength := hvisits.length_eq
    have hcycles := h.cycles_eq
    have hcycles' := h'.cycles_eq
    simp only [List.length_map] at hlength
    change f'.stats.cycles = f.stats.cycles
    omega

/-- A cycle through `a` and `b`, a group without roles that is found twice, and a group whose labels
name one role. -/
theorem resolve_of_perm_reversed :
    let a := Entry.ofList "cn=a" [("cn", ["a"]), ("member", ["u", "cn=b"])]
    let b := Entry.ofList "cn=b" [("cn", ["b"]), ("member", ["cn=a", "cn=x"])]
    let x := Entry.ofList "cn=x" [("member", ["u", "cn=a"])]
    let t := Entry.ofList "cn=t" [("cn", ["t", "T"]), ("member", ["cn=x"])]
    let d : InMemory := ⟨[a, b, x, t], "member", none⟩
    let g : GroupSearch := { GroupSearch.default with base := some "" }
    ∃ found found', ((Resolver.mk d.client g).resolve "u" "u" []).result = .ok found ∧
      ((Resolver.mk (InMemory.mk [t, x, b, a] "member" none).client g).resolve "u" "u" []).result =
        .ok found' ∧
      found.stats = ⟨5, 5, 0⟩ ∧ found'.stats.queries = 5 ∧ found'.stats.cycles = 5 ∧
      ∀ key, key ∈ found'.authorities.keys ↔ key ∈ found.authorities.keys := by
  intro a b x t d g
  have hbase : g.base = some "" := rfl
  have hperm : [t, x, b, a].Perm d.entries := List.reverse_perm d.entries
  obtain ⟨found, found', hresult, hresult', hsame⟩ :=
    resolve_of_perm (d := d) rfl (by decide) hperm hbase "u" "u" []
  have hrun : ((Resolver.mk d.client g).resolve "u" "u" []).result.map (·.stats) =
      .ok ⟨5, 5, 0⟩ := by
    rw [Resolver.resolve_eq_ofRun hbase]
    decide +kernel
  have hrun' : ((Resolver.mk (InMemory.mk [t, x, b, a] "member" none).client g).resolve
      "u" "u" []).result.map (·.stats.exhausted) = .ok 0 := by
    rw [Resolver.resolve_eq_ofRun hbase]
    decide +kernel
  rw [hresult] at hrun
  rw [hresult'] at hrun'
  have hstats : found.stats = ⟨5, 5, 0⟩ := Except.ok.inj hrun
  obtain ⟨hkeys, hqueries, hcycles⟩ := hsame (by rw [hstats]) (Except.ok.inj hrun')
  rw [hstats] at hqueries hcycles
  exact ⟨found, found', hresult, hresult', hstats, hqueries, hcycles, hkeys⟩

end InMemory

end NestedGroups
