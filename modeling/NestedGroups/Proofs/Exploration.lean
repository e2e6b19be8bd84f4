import Mathlib.Data.List.Nodup
import NestedGroups.Proofs.Recursion

namespace NestedGroups

namespace AuthoritySet

variable {found : AuthoritySet} {as : List Authority} {key : String × String}

theorem mem_keys_register :
    key ∈ (found.register as).1.keys ↔ key ∈ found.keys ∨ key ∈ as.map Authority.key := by
  induction as generalizing found with
  | nil =>
    rw [register, List.map_nil]
    simp only [List.not_mem_nil, or_false]
  | cons a as ih =>
    rw [register, List.map_cons, List.mem_cons, ih, mem_keys_insert]
    tauto

theorem register_snd_eq_false_iff :
    (found.register as).2 = false ↔
      (as.map Authority.key).Nodup ∧ ∀ key ∈ as.map Authority.key, key ∉ found.keys := by
  induction as generalizing found with
  | nil => exact ⟨fun _ => ⟨.nil, List.forall_mem_nil _⟩, fun _ => rfl⟩
  | cons a as ih =>
    have hcontains : found.contains a = false ↔ a.key ∉ found.keys := decide_eq_false_iff_not
    rw [register, List.map_cons, List.nodup_cons, List.forall_mem_cons, Bool.or_eq_false_iff,
      hcontains, ih]
    constructor
    · rintro ⟨hnew, hnodup, hrest⟩
      have hout : ∀ key ∈ as.map Authority.key, key ≠ a.key ∧ key ∉ found.keys := by
        intro key hkey
        have h := hrest key hkey
        rw [mem_keys_insert] at h
        exact not_or.1 h
      exact ⟨⟨fun hmem => (hout _ hmem).1 rfl, hnodup⟩, hnew, fun key hkey => (hout key hkey).2⟩
    · rintro ⟨⟨hmem, hnodup⟩, hnew, hrest⟩
      refine ⟨hnew, hnodup, fun key hkey h => ?_⟩
      rcases mem_keys_insert.1 h with rfl | h
      · exact hmem hkey
      · exact hrest key hkey h

end AuthoritySet

namespace GroupSearch

def keys (g : GroupSearch) (e : Entry) : List (String × String) :=
  (g.authorities e).map Authority.key

/-- Two labels of an entry name the same role. -/
def Collides (g : GroupSearch) (e : Entry) : Prop :=
  ∃ v ∈ g.labels e, ∃ w ∈ g.labels e, v ≠ w ∧ g.style.roleOf v = g.style.roleOf w

instance (g : GroupSearch) (e : Entry) : Decidable (g.Collides e) :=
  inferInstanceAs (Decidable (∃ v ∈ g.labels e, ∃ w ∈ g.labels e, _ ∧ _))

variable {g : GroupSearch} {e : Entry}

theorem mem_keys {role source : String} :
    (role, source) ∈ g.keys e ↔
      source = e.dn ∧ ∃ v ∈ e.values g.roleAttribute, g.style.roleOf v = role := by
  simp only [keys, authorities, List.map_map, List.mem_map, Function.comp_apply, Authority.key,
    labels, mem_distinct, Prod.mk.injEq]
  constructor
  · rintro ⟨v, hv, hrole, hdn⟩
    exact ⟨hdn.symm, v, hv, hrole⟩
  · rintro ⟨hdn, v, hv, hrole⟩
    exact ⟨v, hv, hrole, hdn.symm⟩

theorem snd_of_mem_keys {key : String × String} (h : key ∈ g.keys e) : key.2 = e.dn :=
  (mem_keys.1 h).1

theorem nodup_keys_iff : (g.keys e).Nodup ↔ ¬ g.Collides e := by
  have hkeys : g.keys e = (g.labels e).map fun v => (g.style.roleOf v, e.dn) := by
    rw [keys, authorities, List.map_map]
    rfl
  have hlabels : (g.labels e).Nodup := nodup_distinct _
  rw [hkeys, List.nodup_map_iff_inj_on hlabels]
  constructor
  · rintro h ⟨v, hv, w, hw, hne, heq⟩
    exact hne (h v hv w hw (by rw [heq]))
  · intro h v hv w hw heq
    by_contra hne
    exact h ⟨v, hv, w, hw, hne, congrArg Prod.fst heq⟩

variable {found all : AuthoritySet} {again : Bool}

theorem mem_keys_of_register (h : found.register (g.authorities e) = (all, again))
    {key : String × String} : key ∈ all.keys ↔ key ∈ found.keys ∨ key ∈ g.keys e := by
  have hall : all = (found.register (g.authorities e)).1 := by rw [h]
  rw [hall, AuthoritySet.mem_keys_register, keys]

theorem forall_ne_of_register (h : found.register (g.authorities e) = (all, again)) {dn : String}
    (hdn : e.dn ≠ dn) (hnew : ∀ key ∈ found.keys, key.2 ≠ dn) : ∀ key ∈ all.keys, key.2 ≠ dn := by
  intro key hkey
  rcases (mem_keys_of_register h).1 hkey with hkey | hkey
  · exact hnew key hkey
  · rw [snd_of_mem_keys hkey]
    exact hdn

theorem of_register_eq_false (h : found.register (g.authorities e) = (all, false)) :
    ¬ g.Collides e ∧ ∀ key ∈ g.keys e, key ∉ found.keys := by
  rw [← nodup_keys_iff]
  exact AuthoritySet.register_snd_eq_false_iff.1 (congrArg Prod.snd h)

theorem not_of_register_eq_true (h : found.register (g.authorities e) = (all, true))
    (hcol : ¬ g.Collides e) : ¬ ∀ key ∈ g.keys e, key ∉ found.keys := by
  intro hnew
  have hfalse := AuthoritySet.register_snd_eq_false_iff.2 ⟨nodup_keys_iff.2 hcol, hnew⟩
  rw [h] at hfalse
  cases hfalse

end GroupSearch

/-- How an entry is handled. -/
inductive Visit where
  /-- An authority of the entry was there before. -/
  | turn (e : Entry)
  /-- The authorities are new, but there is no depth left. -/
  | stop (e : Entry)
  /-- The authorities are new, and the parents of the entry are found. -/
  | search (e : Entry) (found : List Entry)

namespace Visit

def entry : Visit → Entry
  | .turn e => e
  | .stop e => e
  | .search e _ => e

def isTurn : Visit → Bool
  | .turn _ => true
  | _ => false

def isStop : Visit → Bool
  | .stop _ => true
  | _ => false

def isSearch : Visit → Bool
  | .search _ _ => true
  | _ => false

def exchange? (g : GroupSearch) (base : String) : Visit → Option Exchange
  | .search e found => some ⟨g.query base e.dn (g.parentLabel e), .ok found⟩
  | _ => none

end Visit

def Entered (visits : List Visit) (e : Entry) : Prop :=
  .stop e ∈ visits ∨ ∃ found, .search e found ∈ visits

theorem Entered.mono {visits visits' : List Visit} {e : Entry} (h : Entered visits e)
    (hsub : visits ⊆ visits') : Entered visits' e :=
  h.imp (fun h => hsub h) fun ⟨found, h⟩ => ⟨found, hsub h⟩

/-- The visits by which the entries of an answer are handled one after the other, and what has been
found before and after. -/
inductive Explores (g : GroupSearch) (base : String) :
    Nat → List Entry → Findings → List Visit → Findings → Prop
  | done (depth : Nat) (f : Findings) : Explores g base depth [] f [] f
  | turn {depth : Nat} {e : Entry} {es : List Entry} {f f' : Findings} {all : AuthoritySet}
      {visits : List Visit} (hreg : f.authorities.register (g.authorities e) = (all, true))
      (rest : Explores g base depth es ({ f with authorities := all }.cut e.dn) visits f') :
      Explores g base depth (e :: es) f (.turn e :: visits) f'
  | stop {e : Entry} {es : List Entry} {f f' : Findings} {all : AuthoritySet}
      {visits : List Visit} (hreg : f.authorities.register (g.authorities e) = (all, false))
      (rest : Explores g base 0 es ({ f with authorities := all }.exhaust e.dn) visits f') :
      Explores g base 0 (e :: es) f (.stop e :: visits) f'
  | search {depth : Nat} {e : Entry} {es found : List Entry} {f f₁ f' : Findings}
      {all : AuthoritySet} {before after : List Visit}
      (hreg : f.authorities.register (g.authorities e) = (all, false))
      (inner : Explores g base depth found
        ({ f with authorities := all }.ask (g.query base e.dn (g.parentLabel e)) (depth + 1))
        before f₁)
      (rest : Explores g base (depth + 1) es f₁ after f') :
      Explores g base (depth + 1) (e :: es) f (.search e found :: (before ++ after)) f'

namespace GroupSearch

variable {σ : Type} {g : GroupSearch} {base : String}

theorem exists_explores {depth : Nat} {es : List Entry} {f f' : Findings} {c : Client σ} {s : σ}
    (h : ((forM es (g.handle base depth)).hold f c s).result = (.ok (), f')) :
    ∃ visits, Explores g base depth es f visits f' ∧
      ((forM es (g.handle base depth)).hold f c s).exchanges =
        visits.filterMap (Visit.exchange? g base) := by
  -- The outer induction is for the entries below, the inner one for those beside.
  induction depth using Nat.strongRecOn generalizing es f f' s with
  | ind depth ihDepth =>
    induction es generalizing f s with
    | nil =>
      cases h
      exact ⟨[], .done depth _, rfl⟩
    | cons e es ih =>
      rw [List.forM_cons] at h ⊢
      obtain ⟨_, f₁, hhandle, hrest, hex⟩ := Search.of_hold_bind h
      obtain ⟨after, hafter, hrecord⟩ := ih hrest
      rw [hex, hrecord]
      rcases hreg : f.authorities.register (g.authorities e) with ⟨all, again⟩
      cases again with
      | true =>
        rw [hold_handle_of_again c s hreg] at hhandle ⊢
        cases hhandle
        exact ⟨_, .turn hreg hafter, rfl⟩
      | false =>
        rw [hold_handle_of_new c s hreg] at hhandle ⊢
        cases depth with
        | zero =>
          cases hhandle
          exact ⟨_, .stop hreg hafter, rfl⟩
        | succ depth =>
          rcases hreply : c.search (g.query base e.dn (g.parentLabel e)) s with ⟨err | found, s'⟩
          · rw [hold_search_of_error hreply] at hhandle
            cases hhandle
          · rw [hold_search_of_ok hreply] at hhandle ⊢
            obtain ⟨before, hbefore, hinner⟩ := ihDepth depth (Nat.lt_succ_self depth) hhandle
            refine ⟨_, .search hreg hbefore hafter, ?_⟩
            simp only [List.filterMap_cons, List.filterMap_append, Visit.exchange?, hinner,
              List.cons_append]

end GroupSearch

/-- The visits of a whole search that succeeds, its exchanges with the client, and its findings. -/
inductive Tour (g : GroupSearch) (base dn label : String) :
    Nat → List Visit → List Exchange → Findings → Prop
  | stop : Tour g base dn label 0 [] [] (({} : Findings).exhaust dn)
  | search {depth : Nat} {answer : List Entry} {visits : List Visit} {f : Findings}
      (explored : Explores g base depth answer
        (({} : Findings).ask (g.query base dn label) (depth + 1)) visits f) :
      Tour g base dn label (depth + 1) visits
        (⟨g.query base dn label, .ok answer⟩ :: visits.filterMap (Visit.exchange? g base)) f

theorem GroupSearch.exists_tour {σ : Type} {g : GroupSearch} {base dn label : String} {depth : Nat}
    {c : Client σ} {s : σ} {f : Findings}
    (h : ((g.search base depth dn label).hold {} c s).result = (.ok (), f)) :
    ∃ visits, Tour g base dn label depth visits
      ((g.search base depth dn label).hold {} c s).exchanges f := by
  cases depth with
  | zero =>
    cases h
    exact ⟨[], .stop⟩
  | succ depth =>
    rcases hreply : c.search (g.query base dn label) s with ⟨e | answer, s'⟩
    · rw [hold_search_of_error hreply] at h
      cases h
    · rw [hold_search_of_ok hreply] at h ⊢
      obtain ⟨visits, hexplored, hexchanges⟩ := exists_explores h
      have htour : Tour g base dn label (depth + 1) visits _ f := .search hexplored
      rw [← hexchanges] at htour
      exact ⟨visits, htour⟩

/-- Every resolution that succeeds is a tour, and what it reports is what the tour reports. -/
theorem Resolver.exists_tour {σ : Type} {r : Resolver σ} {base : String}
    (hbase : r.settings.base = some base) {dn label : String} {state : σ} {found : Resolution}
    (h : (r.resolve dn label state).result = .ok found) :
    ∃ visits f, Tour r.settings base dn label r.settings.maxDepth visits
        (r.exchanges dn label state) f ∧
      found = ⟨f.authorities, f.stats⟩ ∧
      (r.resolve dn label state).events =
        (if r.settings.maxDepth = 0 then f else f.complete).events := by
  rw [exchanges_eq_run hbase]
  rw [resolve_eq_ofRun hbase] at h ⊢
  generalize hrun : (r.settings.search base r.settings.maxDepth dn label).hold {} r.client state =
    run at h ⊢
  rcases run with ⟨⟨e | _, f⟩, s, record⟩
  · cases h
  · cases h
    obtain ⟨visits, htour⟩ := GroupSearch.exists_tour (congrArg Dialogue.Run.result hrun)
    rw [hrun] at htour
    refine ⟨visits, f, htour, ?_, rfl⟩
    split <;> rfl

namespace Explores

variable {g : GroupSearch} {base : String} {depth : Nat} {es found : List Entry}
  {f f' : Findings} {visits : List Visit} {e : Entry}

theorem mem_entries (h : Explores g base depth es f visits f') (he : e ∈ es) :
    e ∈ visits.map Visit.entry := by
  induction h with
  | done => cases he
  | turn _ _ ih | stop _ _ ih =>
    rw [List.map_cons, List.mem_cons]
    exact (List.mem_cons.1 he).imp_right ih
  | search _ _ _ _ ih =>
    rw [List.map_cons, List.map_append, List.mem_cons, List.mem_append]
    exact (List.mem_cons.1 he).imp_right fun he => .inr (ih he)

theorem mem_entries_of_search (h : Explores g base depth es f visits f') {x : Entry}
    (hsearch : .search x found ∈ visits) (he : e ∈ found) : e ∈ visits.map Visit.entry := by
  induction h with
  | done => cases hsearch
  | turn _ _ ih | stop _ _ ih =>
    simp only [List.mem_cons, reduceCtorEq, false_or] at hsearch
    exact List.mem_cons_of_mem _ (ih hsearch)
  | search _ inner _ ihInner ih =>
    rw [List.map_cons, List.map_append]
    simp only [List.mem_cons, List.mem_append] at hsearch
    apply List.mem_cons_of_mem
    rw [List.mem_append]
    rcases hsearch with hsearch | hsearch | hsearch
    · cases hsearch
      exact .inl (inner.mem_entries he)
    · exact .inl (ihInner hsearch)
    · exact .inr (ih hsearch)

theorem mem_keys (h : Explores g base depth es f visits f') {key : String × String} :
    key ∈ f'.authorities.keys ↔
      key ∈ f.authorities.keys ∨ ∃ e ∈ visits.map Visit.entry, key ∈ g.keys e := by
  induction h with
  | done => simp only [List.map_nil, List.not_mem_nil, false_and, exists_false, or_false]
  | turn hreg _ ih | stop hreg _ ih =>
    rw [ih]
    simp only [Findings.cut, Findings.exhaust, GroupSearch.mem_keys_of_register hreg,
      List.map_cons, Visit.entry, List.exists_mem_cons_iff, or_assoc]
  | search hreg _ _ ihInner ih =>
    rw [ih, ihInner]
    simp only [Findings.ask, GroupSearch.mem_keys_of_register hreg, List.map_cons,
      List.map_append, Visit.entry, List.exists_mem_cons_iff, List.mem_append, or_and_right,
      exists_or, or_assoc]

theorem exhausted_mem_events (h : Explores g base depth es f visits f') {root : String} :
    .exhausted root ∈ f'.events ↔
      .exhausted root ∈ f.events ∨ ∃ e, .stop e ∈ visits ∧ root = e.dn := by
  induction h with
  | done => simp only [List.not_mem_nil, false_and, exists_false, or_false]
  | turn _ _ ih =>
    rw [ih]
    simp only [Findings.cut, List.mem_append, List.mem_cons, List.not_mem_nil, reduceCtorEq,
      false_or, or_false]
  | stop _ _ ih =>
    rw [ih]
    simp only [Findings.exhaust, List.mem_append, List.mem_cons, List.not_mem_nil,
      Event.exhausted.injEq, Visit.stop.injEq, or_false, or_and_right, exists_or, exists_eq_left,
      or_assoc]
  | search _ _ _ ihInner ih =>
    rw [ih, ihInner]
    simp only [Findings.ask, List.mem_append, List.mem_cons, List.not_mem_nil, reduceCtorEq,
      false_or, or_false, or_and_right, exists_or, or_assoc]

theorem stats_eq (h : Explores g base depth es f visits f') :
    f'.stats =
      ⟨f.stats.queries + visits.countP Visit.isSearch, f.stats.cycles + visits.countP Visit.isTurn,
        f.stats.exhausted + visits.countP Visit.isStop⟩ := by
  induction h with
  | done => rfl
  | turn _ _ ih | stop _ _ ih =>
    simp only [ih, Findings.cut, Findings.exhaust, List.countP_cons, Visit.isSearch,
      Visit.isTurn, Visit.isStop, Bool.false_eq_true, if_true, if_false, Nat.add_zero,
      Nat.add_assoc, Nat.add_comm 1]
  | search _ _ _ ihInner ih =>
    simp only [ih, ihInner, Findings.ask, List.countP_cons, List.countP_append, Visit.isSearch,
      Visit.isTurn, Visit.isStop, Bool.false_eq_true, if_true, if_false, Nat.add_zero,
      Nat.add_assoc, Nat.add_comm 1]

theorem turn_or_not_collides (h : Explores g base depth es f visits f') {v : Visit}
    (hv : v ∈ visits) : v = .turn v.entry ∨ ¬ g.Collides v.entry := by
  induction h with
  | done => cases hv
  | turn _ _ ih =>
    rcases List.mem_cons.1 hv with rfl | hv
    · exact .inl rfl
    · exact ih hv
  | stop hreg _ ih =>
    rcases List.mem_cons.1 hv with rfl | hv
    · exact .inr (GroupSearch.of_register_eq_false hreg).1
    · exact ih hv
  | search hreg _ _ ihInner ih =>
    rcases List.mem_cons.1 hv with rfl | hv
    · exact .inr (GroupSearch.of_register_eq_false hreg).1
    · exact (List.mem_append.1 hv).elim ihInner ih

theorem not_collides (h : Explores g base depth es f visits f') (he : Entered visits e) :
    ¬ g.Collides e := by
  rcases he with he | ⟨found, he⟩
  all_goals
    rcases h.turn_or_not_collides he with heq | hcol
    · cases heq
    · exact hcol

theorem exists_level (h : Explores g base depth es f visits f') {P : Nat → Entry → Prop}
    (hes : ∀ e ∈ es, P depth e)
    (hfound : ∀ level e found, .search e found ∈ visits → P (level + 1) e →
      ∀ x ∈ found, P level x) :
    ∀ e ∈ visits.map Visit.entry, ∃ level ≤ depth, P level e := by
  induction h with
  | done => exact List.forall_mem_nil _
  | @turn depth _ _ _ _ _ _ _ _ ih | @stop _ _ _ _ _ _ _ _ ih =>
    rw [List.forall_mem_cons] at hes
    rw [List.map_cons, List.forall_mem_cons]
    exact ⟨⟨_, Nat.le_refl _, hes.1⟩,
      ih hes.2 fun level e found hmem => hfound level e found (List.mem_cons_of_mem _ hmem)⟩
  | @search depth e _ found _ _ _ _ before after _ _ _ ihInner ih =>
    rw [List.forall_mem_cons] at hes
    rw [List.map_cons, List.map_append, List.forall_mem_cons, List.forall_mem_append]
    refine ⟨⟨_, Nat.le_refl _, hes.1⟩, ?_, ?_⟩
    · intro x hx
      obtain ⟨level, hle, hlevel⟩ := ihInner
        (hfound depth e found List.mem_cons_self hes.1)
        (fun level e found hmem => hfound level e found
          (List.mem_cons_of_mem _ (List.mem_append_left _ hmem))) x hx
      exact ⟨level, Nat.le_succ_of_le hle, hlevel⟩
    · exact ih hes.2 fun level e found hmem => hfound level e found
        (List.mem_cons_of_mem _ (List.mem_append_right _ hmem))

/-- The first time that an entry is met it is not turned away, if nothing else goes by its name and
its own labels name different roles. -/
theorem entered (h : Explores g base depth es f visits f')
    (he : e ∈ visits.map Visit.entry) (hcol : ¬ g.Collides e)
    (hnew : ∀ key ∈ f.authorities.keys, key.2 ≠ e.dn)
    (hunique : ∀ x ∈ visits.map Visit.entry, x.dn = e.dn → x = e) :
    Entered visits e := by
  induction h with
  | done => cases he
  | @turn _ x _ _ _ _ _ hreg _ ih =>
    rw [List.map_cons, List.forall_mem_cons] at hunique
    have hx : x ≠ e := by
      rintro rfl
      refine GroupSearch.not_of_register_eq_true hreg hcol fun key hkey hmem => ?_
      exact hnew key hmem (GroupSearch.snd_of_mem_keys hkey)
    have hmem := (List.mem_cons.1 he).resolve_left (Ne.symm hx)
    have hnext := GroupSearch.forall_ne_of_register hreg (mt hunique.1 hx) hnew
    exact (ih hmem hnext hunique.2).mono (List.subset_cons_self _ _)
  | @stop x _ _ _ _ _ hreg _ ih =>
    rw [List.map_cons, List.forall_mem_cons] at hunique
    by_cases hx : x = e
    · exact .inl (hx ▸ List.mem_cons_self)
    · have hmem := (List.mem_cons.1 he).resolve_left (Ne.symm hx)
      have hnext := GroupSearch.forall_ne_of_register hreg (mt hunique.1 hx) hnew
      exact (ih hmem hnext hunique.2).mono (List.subset_cons_self _ _)
  | @search _ x _ found _ f₁ _ _ before after hreg inner _ ihInner ih =>
    rw [List.map_cons, List.map_append, List.forall_mem_cons, List.forall_mem_append] at hunique
    obtain ⟨hdn, hbefore, hafter⟩ := hunique
    by_cases hx : x = e
    · exact .inr ⟨found, hx ▸ List.mem_cons_self⟩
    · have hstart := GroupSearch.forall_ne_of_register hreg (mt hdn hx) hnew
      by_cases hmem : e ∈ before.map Visit.entry
      · exact (ihInner hmem hstart hbefore).mono
          (List.subset_cons_of_subset _ (List.subset_append_left _ _))
      · have hnext : ∀ key ∈ f₁.authorities.keys, key.2 ≠ e.dn := by
          intro key hkey heq
          rcases inner.mem_keys.1 hkey with hkey | ⟨y, hy, hkey⟩
          · exact hstart key hkey heq
          · rw [GroupSearch.snd_of_mem_keys hkey] at heq
            exact hmem (hbefore y hy heq ▸ hy)
        rw [List.map_cons, List.map_append, List.mem_cons, List.mem_append] at he
        have hlater := (he.resolve_left (Ne.symm hx)).resolve_left hmem
        exact (ih hlater hnext hafter).mono
          (List.subset_cons_of_subset _ (List.subset_append_right _ _))

end Explores

theorem Explores.unique {g : GroupSearch} {base : String} {depth : Nat} {es : List Entry}
    {f f₁ f₂ : Findings} {visits visits' : List Visit} {xs ys : List Exchange}
    (h : Explores g base depth es f visits f₁) (h' : Explores g base depth es f visits' f₂)
    (hxs : visits.filterMap (Visit.exchange? g base) ++ xs =
      visits'.filterMap (Visit.exchange? g base) ++ ys) :
    visits = visits' ∧ f₁ = f₂ ∧ xs = ys := by
  induction h generalizing visits' f₂ xs ys with
  | done =>
    cases h'
    exact ⟨rfl, rfl, hxs⟩
  | turn hreg _ ih =>
    cases h' with
    | turn hreg' rest' =>
      cases hreg.symm.trans hreg'
      obtain ⟨rfl, rfl, rfl⟩ := ih rest' hxs
      exact ⟨rfl, rfl, rfl⟩
    | stop hreg' => cases hreg.symm.trans hreg'
    | search hreg' => cases hreg.symm.trans hreg'
  | stop hreg _ ih =>
    cases h' with
    | turn hreg' => cases hreg.symm.trans hreg'
    | stop hreg' rest' =>
      cases hreg.symm.trans hreg'
      obtain ⟨rfl, rfl, rfl⟩ := ih rest' hxs
      exact ⟨rfl, rfl, rfl⟩
  | search hreg _ _ ihInner ih =>
    cases h' with
    | turn hreg' => cases hreg.symm.trans hreg'
    | search hreg' inner' rest' =>
      cases hreg.symm.trans hreg'
      simp only [List.filterMap_cons, List.filterMap_append, Visit.exchange?, List.cons_append,
        List.append_assoc] at hxs
      obtain ⟨hanswer, hmore⟩ := List.cons.inj hxs
      cases hanswer
      obtain ⟨rfl, rfl, hrest⟩ := ihInner inner' hmore
      obtain ⟨rfl, rfl, rfl⟩ := ih rest' hrest
      exact ⟨rfl, rfl, rfl⟩

theorem Tour.unique {g : GroupSearch} {base dn label : String} {limit : Nat}
    {visits visits' : List Visit} {xs : List Exchange} {f f' : Findings}
    (h : Tour g base dn label limit visits xs f) (h' : Tour g base dn label limit visits' xs f') :
    visits = visits' ∧ f = f' := by
  cases h with
  | stop =>
    cases h'
    exact ⟨rfl, rfl⟩
  | search hexplored =>
    generalize hxs : _ :: _ = xs at h'
    cases h' with
    | search hexplored' =>
      obtain ⟨hanswer, hrest⟩ := List.cons.inj hxs
      cases hanswer
      obtain ⟨rfl, rfl, -⟩ := hexplored.unique hexplored' (congrArg (· ++ []) hrest)
      exact ⟨rfl, rfl⟩

end NestedGroups
