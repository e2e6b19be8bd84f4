import Mathlib.Algebra.GroupWithZero.Nat
import NestedGroups.Proofs.Provenance
import NestedGroups.Proofs.Tally

namespace NestedGroups

theorem AuthoritySet.register_of_known {found : AuthoritySet} {as : List Authority}
    (h : ∀ a ∈ as, a.key ∈ found.keys) : found.register as = (found, !as.isEmpty) := by
  induction as with
  | nil => rfl
  | cons a as ih =>
    rw [List.forall_mem_cons] at h
    have hinsert : found.insert a = found := by rw [insert, dif_pos h.1]
    have hcontains : found.contains a = true := decide_eq_true h.1
    simp only [register, hinsert, ih h.2, hcontains, Bool.true_or, List.isEmpty_cons, Bool.not_false]

namespace GroupSearch

variable {g : GroupSearch} {e : Entry} {found all : AuthoritySet}

theorem register_of_known (h : ∀ key ∈ g.keys e, key ∈ found.keys) :
    found.register (g.authorities e) = (found, !(g.keys e).isEmpty) := by
  rw [AuthoritySet.register_of_known (List.forall_mem_map.1 h), keys, List.isEmpty_map]

theorem keys_ne_nil_of_again (h : found.register (g.authorities e) = (all, true)) :
    g.keys e ≠ [] := by
  intro hnil
  rw [register_of_known (by rw [hnil]; exact List.forall_mem_nil _), hnil] at h
  cases h

end GroupSearch

/-- What a client answers depends on the root of the search and on nothing else. -/
def Client.Answers {σ : Type} (c : Client σ) (answers : String → Answer) : Prop :=
  ∀ q s, (c.search q s).1 = answers q.identity

theorem Client.Answers.of_mem_exchanges {α σ : Type} {c : Client σ} {answers : String → Answer}
    (hc : c.Answers answers) (t : Dialogue α) (s : σ) {x : Exchange}
    (hx : x ∈ (t.run c s).exchanges) : x.answer = answers x.query.identity := by
  induction t generalizing s with
  | finish a => cases hx
  | ask q next ih =>
    rcases List.mem_cons.1 hx with rfl | hx
    · exact hc q s
    · exact ih _ _ hx

def Search.Idles {σ : Type} (m : Search Unit) (c : Client σ) (found : AuthoritySet) : Prop :=
  ∀ (f : Findings) (s : σ), f.authorities = found →
    ∃ f₁, (m.hold f c s).result = (.ok (), f₁) ∧ f₁.authorities = found

namespace Search.Idles

variable {σ : Type} {c : Client σ} {found : AuthoritySet}

theorem bind {m : Search Unit} {k : Unit → Search Unit} (hm : m.Idles c found)
    (hk : (k ()).Idles c found) : (m >>= k).Idles c found := by
  intro f s hf
  obtain ⟨f₁, hresult, hf₁⟩ := hm f s hf
  rw [hold_bind]
  generalize m.hold f c s = run at hresult
  obtain ⟨result, s₁, xs⟩ := run
  cases hresult
  exact hk f₁ s₁ hf₁

theorem forM {h : Entry → Search Unit} {es : List Entry}
    (hes : ∀ e ∈ es, (h e).Idles c found) : (forM es h : Search Unit).Idles c found := by
  induction es with
  | nil => exact fun f s hf => ⟨f, rfl, hf⟩
  | cons e es ih =>
    rw [List.forall_mem_cons] at hes
    rw [List.forM_cons]
    exact hes.1.bind (ih hes.2)

end Search.Idles

/-- All that can be found by handling an entry with some depth has been found. -/
inductive Settled (g : GroupSearch) (answers : String → Answer) (found : AuthoritySet) :
    Nat → Entry → Prop
  | known {depth : Nat} {e : Entry} (hrole : g.keys e ≠ [])
      (hkeys : ∀ key ∈ g.keys e, key ∈ found.keys) : Settled g answers found depth e
  | stop {e : Entry} (hrole : g.keys e = []) : Settled g answers found 0 e
  | through {depth : Nat} {e : Entry} {below : List Entry} (hrole : g.keys e = [])
      (hanswer : answers e.dn = .ok below)
      (hbelow : ∀ x ∈ below, Settled g answers found depth x) :
      Settled g answers found (depth + 1) e

namespace Settled

variable {σ : Type} {g : GroupSearch} {base : String} {answers : String → Answer}
  {found found' all : AuthoritySet} {depth : Nat} {e : Entry} {f : Findings} {c : Client σ}

theorem mono (h : Settled g answers found depth e) (hsub : found.keys ⊆ found'.keys) :
    Settled g answers found' depth e := by
  induction h with
  | known hrole hkeys => exact .known hrole fun key hkey => hsub (hkeys key hkey)
  | stop hrole => exact .stop hrole
  | through hrole hanswer _ ih => exact .through hrole hanswer ih

theorem of_register {again : Bool} (h : found.register (g.authorities e) = (all, again))
    (hsub : all.keys ⊆ found'.keys) (hnone : g.keys e = [] → Settled g answers found' depth e) :
    Settled g answers found' depth e := by
  by_cases hrole : g.keys e = []
  · exact hnone hrole
  · exact .known hrole fun key hkey => hsub ((GroupSearch.mem_keys_of_register h).2 (.inr hkey))

theorem hold_handle_of_ne (h : Settled g answers f.authorities depth e) (hrole : g.keys e ≠ [])
    (base : String) (c : Client σ) (s : σ) :
    (g.handle base depth e).hold f c s = ⟨(.ok (), f.cut e.dn), s, []⟩ := by
  have hkeys : ∀ key ∈ g.keys e, key ∈ f.authorities.keys := by
    cases h with
    | known _ hkeys => exact hkeys
    | stop hnil | through hnil => exact (hrole hnil).elim
  have hreg := GroupSearch.register_of_known hkeys
  rw [List.isEmpty_eq_false_iff.2 hrole] at hreg
  exact GroupSearch.hold_handle_of_again c s hreg

theorem idles (hc : c.Answers answers) (h : Settled g answers found depth e) :
    Search.Idles (g.handle base depth e) c found := by
  have hnew {e : Entry} {f : Findings} (hrole : g.keys e = []) :
      f.authorities.register (g.authorities e) = (f.authorities, false) := by
    rw [GroupSearch.register_of_known (by rw [hrole]; exact List.forall_mem_nil _), hrole]
    rfl
  induction h with
  | @known depth e hrole hkeys =>
    rintro f s rfl
    have hknown : Settled g answers f.authorities depth e := .known hrole hkeys
    rw [hknown.hold_handle_of_ne hrole]
    exact ⟨_, rfl, rfl⟩
  | stop hrole =>
    intro f s hf
    rw [GroupSearch.hold_handle_of_new c s (hnew hrole)]
    exact ⟨_, rfl, hf⟩
  | @through depth e below hrole hanswer _ ih =>
    intro f s hf
    obtain ⟨s', hreply⟩ : ∃ s', c.search (g.query base e.dn (g.parentLabel e)) s =
        (.ok below, s') := ⟨_, Prod.ext ((hc _ s).trans hanswer) rfl⟩
    rw [GroupSearch.hold_handle_of_new c s (hnew hrole), GroupSearch.hold_search_of_ok hreply]
    exact Search.Idles.forM ih _ s' hf

end Settled

namespace Explores

variable {g : GroupSearch} {base : String} {answers : String → Answer} {depth : Nat}
  {es : List Entry} {f f' : Findings} {visits : List Visit}

theorem keys_subset (h : Explores g base depth es f visits f') :
    f.authorities.keys ⊆ f'.authorities.keys :=
  fun _ hkey => h.mem_keys.2 (.inl hkey)

theorem settled (h : Explores g base depth es f visits f')
    (hanswers : ∀ e found, .search e found ∈ visits → answers e.dn = .ok found) :
    ∀ e ∈ es, Settled g answers f'.authorities depth e := by
  induction h with
  | done => exact List.forall_mem_nil _
  | turn hreg rest ih =>
    simp only [List.mem_cons, reduceCtorEq, false_or] at hanswers
    rw [List.forall_mem_cons]
    refine ⟨?_, ih hanswers⟩
    exact .of_register hreg rest.keys_subset fun hrole =>
      (GroupSearch.keys_ne_nil_of_again hreg hrole).elim
  | stop hreg rest ih =>
    simp only [List.mem_cons, reduceCtorEq, false_or] at hanswers
    rw [List.forall_mem_cons]
    exact ⟨.of_register hreg rest.keys_subset .stop, ih hanswers⟩
  | @search _ e _ found _ _ _ _ _ _ hreg inner rest ihInner ih =>
    simp only [List.mem_cons, List.mem_append] at hanswers
    have hbelow := ihInner fun x xs hsearch => hanswers x xs (.inr (.inl hsearch))
    rw [List.forall_mem_cons]
    refine ⟨?_, ih fun x xs hsearch => hanswers x xs (.inr (.inr hsearch))⟩
    refine .of_register hreg (List.Subset.trans inner.keys_subset rest.keys_subset) fun hrole => ?_
    exact .through hrole (hanswers e found (.inl rfl)) fun x hx =>
      (hbelow x hx).mono rest.keys_subset

end Explores

namespace GroupSearch

variable {σ : Type} {g : GroupSearch} {base : String} {answers : String → Answer}
  {c : Client σ}

theorem settled_of_handle (hc : c.Answers answers) {depth : Nat} {e : Entry} {f f' : Findings}
    {s : σ} (h : ((g.handle base depth e).hold f c s).result = (.ok (), f')) :
    f.authorities.keys ⊆ f'.authorities.keys ∧ Settled g answers f'.authorities depth e := by
  have hsingle : ((forM [e] (g.handle base depth)).hold f c s).result = (.ok (), f') := by
    rw [List.forM_cons, Search.hold_bind, List.forM_nil]
    generalize (g.handle base depth e).hold f c s = run at h
    rcases run with ⟨⟨err | _, f₁⟩, s₁, xs⟩
    · cases h
    · exact h
  obtain ⟨visits, hexplores, hexchanges⟩ := exists_explores hsingle
  refine ⟨hexplores.keys_subset, hexplores.settled (fun x found hsearch => ?_) e List.mem_cons_self⟩
  have hmem : (⟨g.query base x.dn (g.parentLabel x), .ok found⟩ : Exchange) ∈
      visits.filterMap (Visit.exchange? g base) :=
    List.mem_filterMap.2 ⟨.search x found, hsearch, rfl⟩
  rw [← hexchanges] at hmem
  exact (hc.of_mem_exchanges _ _ hmem).symm

end GroupSearch

/-- The second list is the first without some entries that were seen before. -/
inductive Thins : List Entry → List Entry → List Entry → Prop
  | nil (seen : List Entry) : Thins seen [] []
  | again {seen es es' : List Entry} {e : Entry} (he : e ∈ seen) (rest : Thins seen es es') :
      Thins seen (e :: es) es'
  | first {seen es es' : List Entry} {e : Entry} (rest : Thins (e :: seen) es es') :
      Thins seen (e :: es) (e :: es')

namespace Thins

theorem length_le {seen es es' : List Entry} (h : Thins seen es es') : es'.length ≤ es.length := by
  induction h with
  | nil => exact Nat.le_refl 0
  | again _ _ ih => exact Nat.le_succ_of_le ih
  | first _ ih => exact Nat.succ_le_succ ih

theorem filter_eraseDups (seen es : List Entry) :
    Thins seen es (es.filter (· ∉ seen)).eraseDups := by
  induction es generalizing seen with
  | nil => exact .nil seen
  | cons e es ih =>
    by_cases he : e ∈ seen
    · rw [List.filter_cons_of_neg (by simpa using he)]
      exact .again he (ih seen)
    · rw [List.filter_cons_of_pos (by simpa using he), List.eraseDups_cons, List.filter_filter]
      have hseen : (es.filter fun x => (!x == e) && decide (x ∉ seen)) =
          es.filter (· ∉ e :: seen) := by
        apply List.filter_congr
        intro x _
        simp only [List.mem_cons, not_or, Bool.decide_and, decide_not]
        rfl
      rw [hseen]
      exact .first (ih (e :: seen))

theorem eraseDups (es : List Entry) : Thins [] es es.eraseDups := by
  have h := filter_eraseDups [] es
  rwa [List.filter_eq_self.2 (by simp)] at h

end Thins

def repeats (xs : List Exchange) : Nat :=
  (xs.map fun x => x.entries.length - x.entries.eraseDups.length).sum

theorem repeats_append (xs ys : List Exchange) : repeats (xs ++ ys) = repeats xs + repeats ys := by
  rw [repeats, List.map_append, List.sum_append, repeats, repeats]

def GroupSearch.Ranks (g : GroupSearch) (xs : List Exchange) : Prop :=
  ∀ x ∈ xs, ∀ e ∈ x.entries, g.keys e ≠ []

/-- The second search has found the same, and on the condition it has counted the same except for
cycles, of which it has fewer by the number. -/
structure Findings.Lags (p : Prop) (n : Nat) (f f' : Findings) : Prop where
  authorities : f'.authorities = f.authorities
  stats : p → f.stats = { f'.stats with cycles := f'.stats.cycles + n }

/-- Searches that fail alike or find the same. On the condition, and if every entry that the first
one received holds a role, they ask the same, and each repetition has cost the first one a cycle. -/
inductive Sifts {σ σ' : Type} (g : GroupSearch) (p : Prop) (n : Nat) :
    Dialogue.Run σ (Except DirectoryError Unit × Findings) →
      Dialogue.Run σ' (Except DirectoryError Unit × Findings) → Prop
  | failed (e : DirectoryError) {f f' : Findings} {s : σ} {s' : σ'} {xs xs' : List Exchange}
      (hasked : p → g.Ranks xs → xs'.map Exchange.query = xs.map Exchange.query) :
      Sifts g p n ⟨(.error e, f), s, xs⟩ ⟨(.error e, f'), s', xs'⟩
  | found {f f' : Findings} {s : σ} {s' : σ'} {xs xs' : List Exchange}
      (hasked : p → g.Ranks xs → xs'.map Exchange.query = xs.map Exchange.query)
      (hfound : f.Lags (p ∧ g.Ranks xs) (n + repeats xs) f') :
      Sifts g p n ⟨(.ok (), f), s, xs⟩ ⟨(.ok (), f'), s', xs'⟩

namespace Findings.Lags

variable {p q : Prop} {n : Nat} {f f' : Findings}

theorem imp (h : f.Lags p n f') (hq : q → p) : f.Lags q n f' :=
  ⟨h.authorities, fun hq' => h.stats (hq hq')⟩

theorem ask (h : f.Lags p n f') (asked : Query) (depth : Nat) :
    (f.ask asked depth).Lags p n (f'.ask asked depth) :=
  ⟨h.authorities, fun hp => by simp only [Findings.ask, h.stats hp]⟩

theorem exhaust (h : f.Lags p n f') (root : String) :
    (f.exhaust root).Lags p n (f'.exhaust root) :=
  ⟨h.authorities, fun hp => by simp only [Findings.exhaust, h.stats hp]⟩

theorem cut (h : f.Lags p n f') (dn : String) : (f.cut dn).Lags p n (f'.cut dn) :=
  ⟨h.authorities, fun hp => by
    simp only [Findings.cut, h.stats hp, Nat.add_right_comm _ n]⟩

theorem cut_left (h : f.Lags p n f') (dn : String) : (f.cut dn).Lags p (n + 1) f' :=
  ⟨h.authorities, fun hp => by simp only [Findings.cut, h.stats hp, Nat.add_assoc]⟩

theorem register (h : f.Lags p n f') (all : AuthoritySet) :
    { f with authorities := all }.Lags p n { f' with authorities := all } :=
  ⟨rfl, h.stats⟩

end Findings.Lags

namespace Sifts

variable {σ σ' : Type} {g : GroupSearch} {base : String} {p : Prop} {n j : Nat} {f f' : Findings}
  {c : Client σ} {c' : Client σ'} {s : σ} {s' : σ'}

theorem of_not {run : Dialogue.Run σ (Except DirectoryError Unit × Findings)}
    {run' : Dialogue.Run σ' (Except DirectoryError Unit × Findings)} (h : Sifts g p n run run')
    (hp : ¬ p) (m : Nat) (xs : List Exchange) :
    Sifts g p m ⟨run.result, run.client, xs⟩ run' := by
  cases h with
  | failed e => exact .failed e fun h => (hp h).elim
  | found _ hlags => exact .found (fun h => (hp h).elim) ⟨hlags.authorities, fun h => (hp h.1).elim⟩

theorem of_lags (h : f.Lags p n f') : Sifts g p n ⟨(.ok (), f), s, []⟩ ⟨(.ok (), f'), s', []⟩ :=
  .found (fun _ _ => rfl) ⟨h.authorities, fun hp => h.stats hp.1⟩

theorem bind {m m' : Search Unit} {k k' : Unit → Search Unit}
    (hfirst : Sifts g p n (m.hold f c s) (m'.hold f' c' s'))
    (hrest : ∀ f₁ f₁' s₁ s₁' xs, (m.hold f c s).result = (.ok (), f₁) →
      f₁.Lags (p ∧ g.Ranks xs) (n + repeats xs) f₁' →
      Sifts g (p ∧ g.Ranks xs) (n + repeats xs + j) ((k ()).hold f₁ c s₁)
        ((k' ()).hold f₁' c' s₁')) :
    Sifts g p (n + j) ((m >>= k).hold f c s) ((m' >>= k').hold f' c' s') := by
  rw [Search.hold_bind, Search.hold_bind]
  generalize m.hold f c s = first at hfirst hrest
  generalize m'.hold f' c' s' = first' at hfirst
  cases hfirst with
  | failed e hasked => exact .failed e hasked
  | @found f₁ f₁' s₁ s₁' xs xs' hasked hfound =>
    have hsecond := hrest f₁ f₁' s₁ s₁' xs rfl hfound
    dsimp only
    generalize (k ()).hold f₁ c s₁ = second at hsecond
    generalize (k' ()).hold f₁' c' s₁' = second' at hsecond
    have hall {ys ys' : List Exchange}
        (h : p ∧ g.Ranks xs → g.Ranks ys → ys'.map Exchange.query = ys.map Exchange.query)
        (hp : p) (hranks : g.Ranks (xs ++ ys)) :
        (xs' ++ ys').map Exchange.query = (xs ++ ys).map Exchange.query := by
      obtain ⟨hxs, hys⟩ := List.forall_mem_append.1 hranks
      rw [List.map_append, List.map_append, hasked hp hxs, h ⟨hp, hxs⟩ hys]
    cases hsecond with
    | failed e hmore => exact .failed e (hall hmore)
    | @found _ _ _ _ ys _ hmore hlags =>
      refine .found (hall hmore) ⟨hlags.authorities, ?_⟩
      rintro ⟨hp, hranks⟩
      obtain ⟨hxs, hys⟩ := List.forall_mem_append.1 hranks
      have hsum : n + repeats xs + j + repeats ys = n + j + repeats (xs ++ ys) := by
        rw [repeats_append]
        omega
      rw [hlags.stats ⟨⟨hp, hxs⟩, hys⟩, hsum]

theorem ask {found : List Entry} {run : Dialogue.Run σ (Except DirectoryError Unit × Findings)}
    {run' : Dialogue.Run σ' (Except DirectoryError Unit × Findings)}
    (h : Sifts g (p ∧ ∀ e ∈ found, g.keys e ≠ [])
      (n + (found.length - found.eraseDups.length)) run run') (q : Query) :
    Sifts g p n ⟨run.result, run.client, ⟨q, .ok found⟩ :: run.exchanges⟩
      ⟨run'.result, run'.client, ⟨q, .ok found.eraseDups⟩ :: run'.exchanges⟩ := by
  have hranks {xs : List Exchange} (h : g.Ranks (⟨q, .ok found⟩ :: xs)) :
      (∀ e ∈ found, g.keys e ≠ []) ∧ g.Ranks xs := List.forall_mem_cons.1 h
  have hall {xs xs' : List Exchange}
      (h : p ∧ (∀ e ∈ found, g.keys e ≠ []) → g.Ranks xs →
        xs'.map Exchange.query = xs.map Exchange.query)
      (hp : p) (hxs : g.Ranks (⟨q, .ok found⟩ :: xs)) :
      q :: xs'.map Exchange.query = q :: xs.map Exchange.query := by
    rw [h ⟨hp, (hranks hxs).1⟩ (hranks hxs).2]
  cases h with
  | failed e hasked => exact .failed e (hall hasked)
  | @found _ _ _ _ xs _ hasked hlags =>
    refine .found (hall hasked) ⟨hlags.authorities, ?_⟩
    rintro ⟨hp, hxs⟩
    rw [hlags.stats ⟨⟨hp, (hranks hxs).1⟩, (hranks hxs).2⟩, Nat.add_assoc]
    rfl

end Sifts

section

variable {σ σ' : Type} {g : GroupSearch} {base : String} {answers : String → Answer}
  {c : Client σ} {c' : Client σ'}

/-- It makes no difference to handle an entry again that was handled before, with this depth. -/
def GroupSearch.HandlesOnce (g : GroupSearch) (base : String) (answers : String → Answer)
    (c : Client σ) (c' : Client σ') (depth : Nat) : Prop :=
  ∀ {p : Prop} {n : Nat} {seen es es' : List Entry} {f f' : Findings} {s : σ} {s' : σ'},
    Thins seen es es' → (∀ e ∈ seen, Settled g answers f.authorities depth e) →
    (p → ∀ e ∈ es, g.keys e ≠ []) → f.Lags p n f' →
    Sifts g p (n + (es.length - es'.length)) ((forM es (g.handle base depth)).hold f c s)
      ((forM es' (g.handle base depth)).hold f' c' s')

theorem GroupSearch.sifts_search (hc : c.Answers answers)
    (hc' : c'.Answers fun root => (answers root).map List.eraseDups) {depth : Nat}
    (hless : ∀ inner, depth = inner + 1 → g.HandlesOnce base answers c c' inner)
    {p : Prop} {n : Nat} {f f' : Findings} (hlags : f.Lags p n f') (root label : String)
    (s : σ) (s' : σ') :
    Sifts g p n ((g.search base depth root label).hold f c s)
      ((g.search base depth root label).hold f' c' s') := by
  cases depth with
  | zero => exact .of_lags (hlags.exhaust root)
  | succ inner =>
    obtain ⟨s₁, hreply⟩ : ∃ s₁, c.search (g.query base root label) s = (answers root, s₁) :=
      ⟨_, Prod.ext (hc _ s) rfl⟩
    obtain ⟨s₁', hreply'⟩ : ∃ s₁', c'.search (g.query base root label) s' =
        ((answers root).map List.eraseDups, s₁') := ⟨_, Prod.ext (hc' _ s') rfl⟩
    cases hanswer : answers root with
    | error e =>
      rw [hanswer] at hreply hreply'
      rw [hold_search_of_error hreply, hold_search_of_error hreply']
      exact .failed e.asTransport fun _ _ => rfl
    | ok found =>
      rw [hanswer] at hreply hreply'
      rw [hold_search_of_ok hreply, hold_search_of_ok hreply']
      apply Sifts.ask
      apply hless inner rfl (.eraseDups found) (List.forall_mem_nil _) And.right
      exact (hlags.ask (g.query base root label) (inner + 1)).imp And.left

theorem GroupSearch.sifts_handle (hc : c.Answers answers)
    (hc' : c'.Answers fun root => (answers root).map List.eraseDups) {depth : Nat}
    (hless : ∀ inner, depth = inner + 1 → g.HandlesOnce base answers c c' inner)
    {p : Prop} {n : Nat} {f f' : Findings} (hlags : f.Lags p n f') (e : Entry) (s : σ) (s' : σ') :
    Sifts g p n ((g.handle base depth e).hold f c s) ((g.handle base depth e).hold f' c' s') := by
  rcases hreg : f.authorities.register (g.authorities e) with ⟨all, again⟩
  have hreg' : f'.authorities.register (g.authorities e) = (all, again) := by
    rw [hlags.authorities, hreg]
  cases again with
  | true =>
    rw [hold_handle_of_again c s hreg, hold_handle_of_again c' s' hreg']
    exact .of_lags ((hlags.register all).cut e.dn)
  | false =>
    rw [hold_handle_of_new c s hreg, hold_handle_of_new c' s' hreg']
    exact sifts_search hc hc' hless (hlags.register all) _ _ s s'

theorem GroupSearch.HandlesOnce.of_less (hc : c.Answers answers)
    (hc' : c'.Answers fun root => (answers root).map List.eraseDups) {depth : Nat}
    (hless : ∀ inner, depth = inner + 1 → g.HandlesOnce base answers c c' inner) :
    g.HandlesOnce base answers c c' depth := by
  intro p n seen es es' f f' s s' hthins hseen hrole hlags
  -- The induction follows the way in which the second list comes from the first.
  induction hthins generalizing p n f f' s s' with
  | nil => exact .of_lags hlags
  | @again seen es es' e he rest ih =>
    rw [List.forM_cons, Search.hold_bind]
    by_cases hp : p
    · have hlength : n + ((e :: es).length - es'.length) = n + 1 + (es.length - es'.length) := by
        have hle := rest.length_le
        rw [List.length_cons]
        omega
      rw [(hseen e he).hold_handle_of_ne (hrole hp e List.mem_cons_self), hlength]
      exact ih hseen (fun hp x hx => hrole hp x (List.mem_cons_of_mem _ hx)) (hlags.cut_left e.dn)
    · have hidles : (g.handle base depth e).Idles c f.authorities := (hseen e he).idles hc
      obtain ⟨f₁, hresult, hf₁⟩ := hidles f s rfl
      generalize (g.handle base depth e).hold f c s = run at hresult
      obtain ⟨result, s₁, xs⟩ := run
      cases hresult
      rw [← hf₁] at hseen
      have hlags₁ : f₁.Lags p n f' :=
        ⟨hlags.authorities.trans hf₁.symm, fun h => (hp h).elim⟩
      exact (ih hseen (fun h => (hp h).elim) hlags₁).of_not hp _ _
  | @first seen es es' e rest ih =>
    rw [List.forM_cons, List.forM_cons, List.length_cons, List.length_cons, Nat.add_sub_add_right]
    apply Sifts.bind (sifts_handle hc hc' hless hlags e s s')
    intro f₁ f₁' s₁ s₁' xs hresult hlags₁
    obtain ⟨hsub, hsettled⟩ := settled_of_handle hc hresult
    apply ih _ (fun hp x hx => hrole hp.1 x (List.mem_cons_of_mem _ hx)) hlags₁
    rw [List.forall_mem_cons]
    exact ⟨hsettled, fun x hx => (hseen x hx).mono hsub⟩

end

namespace Resolver

variable {σ : Type} {answers : String → Answer} {c : Client σ}

end Resolver

end NestedGroups
