import Mathlib.Data.List.Perm.Basic
import NestedGroups.Proofs.Exploration
import NestedGroups.Proofs.Lists

namespace NestedGroups

theorem AuthoritySet.not_mem_keys_empty (key : String × String) : key ∉ empty.keys :=
  List.not_mem_nil

theorem AuthoritySet.mem_of_mem_register {found : AuthoritySet} {as : List Authority}
    {a : Authority} (h : a ∈ (found.register as).1.toList) :
    a ∈ found.toList ∨ a ∈ as ∧ a.key ∉ found.keys := by
  induction as generalizing found with
  | nil => exact .inl h
  | cons b as ih =>
    rw [register] at h
    rcases ih h with hmem | ⟨hmem, hkey⟩
    · rw [insert] at hmem
      split at hmem
      · exact .inl hmem
      · rename_i hnew
        rcases List.mem_append.1 hmem with hmem | hmem
        · exact .inl hmem
        · cases List.mem_singleton.1 hmem
          exact .inr ⟨List.mem_cons_self, hnew⟩
    · rw [mem_keys_insert, not_or] at hkey
      exact .inr ⟨List.mem_cons_of_mem _ hmem, hkey.2⟩

def Exchange.entries (x : Exchange) : List Entry :=
  match x.answer with
  | .ok found => found
  | .error _ => []

@[simp] theorem Exchange.entries_ok (q : Query) (found : List Entry) :
    (Exchange.mk q (.ok found)).entries = found := rfl

namespace GroupSearch

def Derives (g : GroupSearch) (e : Entry) (role source : String) : Prop :=
  source = e.dn ∧ ∃ v ∈ e.values g.roleAttribute, g.style.roleOf v = role

/-- No two labels of the entry name one role, and nothing before gives rise to its authorities. -/
def Fresh (g : GroupSearch) (before : List Entry) (e : Entry) : Prop :=
  ¬ g.Collides e ∧
    ∀ role source, g.Derives e role source → ∀ e' ∈ before, ¬ g.Derives e' role source

def Links (g : GroupSearch) (base : String) (x y : Exchange) : Prop :=
  ∃ e ∈ x.entries, y.query = g.query base e.dn (g.parentLabel e)

/-- The exchange is the last of several that begin with the question for a principal's parents, and
each of the others asks for the parents of an entry that the one before found. -/
structure Trail (g : GroupSearch) (base dn label : String) (trail : List Exchange)
    (x : Exchange) : Prop where
  begins : trail.head?.map Exchange.query = some (g.query base dn label)
  links : trail.IsChain (g.Links base)
  ends : trail.getLast? = some x

def gather (g : GroupSearch) (found : AuthoritySet) (es : List Entry) : AuthoritySet :=
  es.foldl (fun found e => (found.register (g.authorities e)).1) found

variable {g : GroupSearch} {found : AuthoritySet} {e : Entry}

theorem gather_append (es es' : List Entry) :
    g.gather found (es ++ es') = g.gather (g.gather found es) es' :=
  List.foldl_append

theorem gather_cons_of_register {all : AuthoritySet} {again : Bool}
    (h : found.register (g.authorities e) = (all, again)) (es : List Entry) :
    g.gather found (e :: es) = g.gather all es := by
  rw [gather, List.foldl_cons, h]
  rfl

theorem mem_keys_gather {es : List Entry} {key : String × String} :
    key ∈ (g.gather found es).keys ↔ key ∈ found.keys ∨ ∃ e ∈ es, key ∈ g.keys e := by
  induction es generalizing found with
  | nil => simp only [gather, List.foldl_nil, List.not_mem_nil, false_and, exists_false, or_false]
  | cons e es ih =>
    rw [gather, List.foldl_cons, ← gather, ih, AuthoritySet.mem_keys_register, ← keys,
      List.exists_mem_cons_iff, or_assoc]

/-- An authority stays as the first entry that gives rise to it has made it. -/
theorem of_mem_gather {es : List Entry} {a : Authority} (h : a ∈ (g.gather found es).toList) :
    a ∈ found.toList ∨ a.key ∉ found.keys ∧ ∃ before e after, es = before ++ e :: after ∧
      a ∈ g.authorities e ∧ ∀ e' ∈ before, a.key ∉ g.keys e' := by
  induction es generalizing found with
  | nil => exact .inl h
  | cons e es ih =>
    rcases ih h with hmem | ⟨hkey, before, e', after, rfl, hmem, hbefore⟩
    · rcases AuthoritySet.mem_of_mem_register hmem with hmem | ⟨hmem, hkey⟩
      · exact .inl hmem
      · exact .inr ⟨hkey, [], e, es, rfl, hmem, List.forall_mem_nil _⟩
    · rw [AuthoritySet.mem_keys_register, not_or] at hkey
      refine .inr ⟨hkey.1, e :: before, e', after, rfl, hmem, ?_⟩
      rw [List.forall_mem_cons]
      exact ⟨hkey.2, hbefore⟩

theorem eq_of_mem_authorities {a : Authority} (h : a ∈ g.authorities e) :
    g.Derives e a.role a.dn ∧ a.attributes = e.attributes := by
  have hkey : (a.role, a.dn) ∈ g.keys e := List.mem_map_of_mem h
  obtain ⟨v, -, rfl⟩ := List.mem_map.1 h
  exact ⟨mem_keys.1 hkey, rfl⟩

theorem exists_first_of_mem_gather {es : List Entry} {a : Authority}
    (h : a ∈ (g.gather .empty es).toList) :
    ∃ before e after, es = before ++ e :: after ∧ g.Derives e a.role a.dn ∧
      a.attributes = e.attributes ∧ ∀ e' ∈ before, ¬ g.Derives e' a.role a.dn := by
  rcases of_mem_gather h with hmem | ⟨-, before, e, after, hes, hmem, hbefore⟩
  · cases hmem
  · obtain ⟨hderives, hattributes⟩ := eq_of_mem_authorities hmem
    refine ⟨before, e, after, hes, hderives, hattributes, fun e' he' h => ?_⟩
    exact hbefore e' he' (mem_keys.2 h)

theorem mem_keys_empty_iff (g : GroupSearch) (key : String × String) :
    key ∈ AuthoritySet.empty.keys ↔ ∃ x ∈ ([] : List Entry), key ∈ g.keys x := by
  simp only [AuthoritySet.not_mem_keys_empty, List.not_mem_nil, false_and, exists_false]

theorem mem_keys_gather_of_perm {es : List Entry} {xs : List Exchange}
    (h : es.Perm (xs.flatMap Exchange.entries)) {role source : String} :
    (role, source) ∈ (g.gather .empty es).keys ↔
      ∃ x ∈ xs, ∃ e ∈ x.entries, g.Derives e role source := by
  rw [mem_keys_gather, or_iff_right (AuthoritySet.not_mem_keys_empty _)]
  constructor
  · rintro ⟨e, he, hkey⟩
    obtain ⟨x, hx, he⟩ := List.mem_flatMap.1 (h.mem_iff.1 he)
    exact ⟨x, hx, e, he, mem_keys.1 hkey⟩
  · rintro ⟨x, hx, e, he, hderives⟩
    have hmem : e ∈ es := h.mem_iff.2 (List.mem_flatMap.2 ⟨x, hx, he⟩)
    exact ⟨e, hmem, mem_keys.2 hderives⟩

theorem fresh_iff_of_register {all : AuthoritySet} {again : Bool} {before : List Entry}
    (hbefore : ∀ key, key ∈ found.keys ↔ ∃ x ∈ before, key ∈ g.keys x)
    (h : found.register (g.authorities e) = (all, again)) : g.Fresh before e ↔ again = false := by
  have hagain : again = (found.register (g.authorities e)).2 := by rw [h]
  rw [hagain, AuthoritySet.register_snd_eq_false_iff, ← keys, nodup_keys_iff, Fresh, Prod.forall]
  apply and_congr_right
  intro _
  refine forall₂_congr fun role source => ?_
  rw [hbefore, mem_keys]
  simp only [mem_keys, Derives, not_exists, not_and]

theorem mem_keys_append_of_register {all : AuthoritySet} {again : Bool} {before : List Entry}
    (hbefore : ∀ key, key ∈ found.keys ↔ ∃ x ∈ before, key ∈ g.keys x)
    (h : found.register (g.authorities e) = (all, again)) (key : String × String) :
    key ∈ all.keys ↔ ∃ x ∈ before ++ [e], key ∈ g.keys x := by
  rw [mem_keys_of_register h, hbefore]
  simp only [List.mem_append, List.mem_singleton, or_and_right, exists_or, exists_eq_left]

end GroupSearch

/-- The entries of answers in the order of a search in depth, and the exchanges of that search. The
parents of an entry are asked for if it is fresh after all that comes before, and depth is left;
what is found for them comes right behind it. -/
inductive DepthFirst (g : GroupSearch) (base : String) :
    Nat → List Entry → List Entry → List Entry → List Exchange → Prop
  | done (depth : Nat) (before : List Entry) : DepthFirst g base depth before [] [] []
  | turn {depth : Nat} {before : List Entry} {e : Entry} {es order : List Entry}
      {xs : List Exchange} (hseen : ¬ g.Fresh before e)
      (rest : DepthFirst g base depth (before ++ [e]) es order xs) :
      DepthFirst g base depth before (e :: es) (e :: order) xs
  | stop {before : List Entry} {e : Entry} {es order : List Entry} {xs : List Exchange}
      (hnew : g.Fresh before e) (rest : DepthFirst g base 0 (before ++ [e]) es order xs) :
      DepthFirst g base 0 before (e :: es) (e :: order) xs
  | search {depth : Nat} {before : List Entry} {e : Entry} {es found inside outside : List Entry}
      {xs ys : List Exchange} (hnew : g.Fresh before e)
      (inner : DepthFirst g base depth (before ++ [e]) found inside xs)
      (rest : DepthFirst g base (depth + 1) (before ++ [e] ++ inside) es outside ys) :
      DepthFirst g base (depth + 1) before (e :: es) (e :: (inside ++ outside))
        (⟨g.query base e.dn (g.parentLabel e), .ok found⟩ :: (xs ++ ys))

inductive History (g : GroupSearch) (base dn label : String) :
    Nat → List Entry → List Exchange → Prop
  | stop : History g base dn label 0 [] []
  | search {depth : Nat} {found order : List Entry} {xs : List Exchange}
      (h : DepthFirst g base depth [] found order xs) :
      History g base dn label (depth + 1) order (⟨g.query base dn label, .ok found⟩ :: xs)

namespace DepthFirst

variable {g : GroupSearch} {base : String} {depth : Nat} {earlier es order : List Entry}
  {xs : List Exchange}

theorem perm (h : DepthFirst g base depth earlier es order xs) :
    order.Perm (es ++ xs.flatMap Exchange.entries) := by
  induction h with
  | done => exact .nil
  | turn _ _ ih | stop _ _ ih => exact ih.cons _
  | @search _ _ e es found _ _ xs ys _ _ _ ihInner ih =>
    rw [List.flatMap_cons, List.flatMap_append, List.cons_append, Exchange.entries_ok]
    apply List.Perm.cons
    -- What is found below `e` trades places with the entries beside it.
    have hswap := List.perm_append_comm_assoc (found ++ xs.flatMap Exchange.entries) es
      (ys.flatMap Exchange.entries)
    simpa only [List.append_assoc] using (ihInner.append ih).trans hswap

theorem exists_before (h : DepthFirst g base depth earlier es order xs)
    {before after : List Exchange} {x : Exchange} (hxs : xs = before ++ x :: after) :
    ∃ e, (e ∈ es ∨ ∃ y ∈ before, e ∈ y.entries) ∧
      x.query = g.query base e.dn (g.parentLabel e) := by
  induction h generalizing before after with
  | done =>
    have hlast := (List.append_eq_nil_iff.1 hxs.symm).2
    cases hlast
  | turn _ _ ih | stop _ _ ih =>
    obtain ⟨e, he, hquery⟩ := ih hxs
    exact ⟨e, he.imp_left (List.mem_cons_of_mem _), hquery⟩
  | @search _ _ e es found _ _ xs ys _ _ _ ihInner ih =>
    cases before with
    | nil =>
      obtain ⟨rfl, -⟩ := List.cons.inj hxs
      exact ⟨e, .inl List.mem_cons_self, rfl⟩
    | cons first before =>
      obtain ⟨rfl, htail⟩ := List.cons.inj hxs
      rcases append_eq_append_cons htail with ⟨more, hinside, -⟩ | ⟨between, rfl, hoff⟩
      · obtain ⟨e', he', hquery⟩ := ihInner hinside
        refine ⟨e', .inr ?_, hquery⟩
        rcases he' with he' | ⟨y, hy, hmem⟩
        · exact ⟨_, List.mem_cons_self, he'⟩
        · exact ⟨y, List.mem_cons_of_mem _ hy, hmem⟩
      · obtain ⟨e', he', hquery⟩ := ih hoff
        refine ⟨e', ?_, hquery⟩
        rcases he' with he' | ⟨y, hy, hmem⟩
        · exact .inl (List.mem_cons_of_mem _ he')
        · exact .inr ⟨y, List.mem_cons_of_mem _ (List.mem_append_right _ hy), hmem⟩

theorem exists_chain (h : DepthFirst g base depth earlier es order xs) {x : Exchange} (hx : x ∈ xs)
    {first : Exchange} (hfirst : ∀ e ∈ es, e ∈ first.entries) :
    ∃ chain, chain.Sublist xs ∧ chain.length ≤ depth ∧
      (first :: chain).IsChain (g.Links base) ∧ (first :: chain).getLast? = some x := by
  induction h generalizing first with
  | done => cases hx
  | turn _ _ ih | stop _ _ ih =>
    rw [List.forall_mem_cons] at hfirst
    exact ih hx hfirst.2
  | @search _ _ e es found _ _ xs ys _ _ _ ihInner ih =>
    rw [List.forall_mem_cons] at hfirst
    rw [List.mem_cons, List.mem_append] at hx
    have hlink : g.Links base first ⟨g.query base e.dn (g.parentLabel e), .ok found⟩ :=
      ⟨e, hfirst.1, rfl⟩
    rcases hx with rfl | hx | hx
    · refine ⟨[_], ?_, Nat.succ_le_succ (Nat.zero_le _), ?_, rfl⟩
      · exact List.singleton_sublist.2 List.mem_cons_self
      · exact .cons_cons hlink (.singleton _)
    · have hfound : ∀ e' ∈ found, e' ∈ (Exchange.mk (g.query base e.dn (g.parentLabel e))
          (.ok found)).entries := fun _ h => h
      obtain ⟨chain, hsub, hlength, hchain, hlast⟩ := ihInner hx hfound
      refine ⟨_ :: chain, ?_, Nat.succ_le_succ hlength, .cons_cons hlink hchain, ?_⟩
      · exact (hsub.trans (List.sublist_append_left _ _)).cons_cons _
      · rwa [List.getLast?_cons_cons]
    · obtain ⟨chain, hsub, hlength, hchain, hlast⟩ := ih hx hfirst.2
      refine ⟨chain, ?_, hlength, hchain, hlast⟩
      exact (hsub.trans (List.sublist_append_right _ _)).trans (List.sublist_cons_self _ _)

end DepthFirst

namespace Explores

variable {g : GroupSearch} {base : String} {depth : Nat} {es : List Entry} {f f' : Findings}
  {visits : List Visit}

theorem authorities_eq (h : Explores g base depth es f visits f') :
    f'.authorities = g.gather f.authorities (visits.map Visit.entry) := by
  induction h with
  | done => rfl
  | turn hreg _ ih | stop hreg _ ih =>
    rw [List.map_cons, Visit.entry, GroupSearch.gather_cons_of_register hreg]
    exact ih
  | search hreg _ _ ihInner ih =>
    rw [List.map_cons, List.map_append, Visit.entry, GroupSearch.gather_cons_of_register hreg,
      GroupSearch.gather_append, ih, ihInner]
    rfl

theorem depthFirst (h : Explores g base depth es f visits f') {before : List Entry}
    (hbefore : ∀ key, key ∈ f.authorities.keys ↔ ∃ x ∈ before, key ∈ g.keys x) :
    DepthFirst g base depth before es (visits.map Visit.entry)
      (visits.filterMap (Visit.exchange? g base)) := by
  induction h generalizing before with
  | done => exact .done _ _
  | turn hreg _ ih =>
    have hnext := GroupSearch.mem_keys_append_of_register hbefore hreg
    refine .turn (fun hfresh => ?_) (ih hnext)
    cases (GroupSearch.fresh_iff_of_register hbefore hreg).1 hfresh
  | stop hreg _ ih =>
    have hnext := GroupSearch.mem_keys_append_of_register hbefore hreg
    exact .stop ((GroupSearch.fresh_iff_of_register hbefore hreg).2 rfl) (ih hnext)
  | search hreg inner _ ihInner ih =>
    have hnext := GroupSearch.mem_keys_append_of_register hbefore hreg
    rw [List.map_cons, List.map_append, List.filterMap_cons, List.filterMap_append]
    refine .search ((GroupSearch.fresh_iff_of_register hbefore hreg).2 rfl) (ihInner hnext)
      (ih fun key => ?_)
    have hfound := hnext key
    simp only [List.mem_append, or_and_right, exists_or] at hfound ⊢
    rw [inner.mem_keys, Findings.ask, hfound]

end Explores

namespace History

variable {g : GroupSearch} {base dn label : String} {depth : Nat} {order : List Entry}
  {xs : List Exchange}

theorem perm (h : History g base dn label depth order xs) :
    order.Perm (xs.flatMap Exchange.entries) := by
  cases h with
  | stop => exact .nil
  | search h =>
    rw [List.flatMap_cons, Exchange.entries_ok]
    exact h.perm

theorem exists_link (h : History g base dn label depth order xs) {before after : List Exchange}
    {x : Exchange} (hxs : xs = before ++ x :: after) (hbefore : before ≠ []) :
    ∃ y ∈ before, g.Links base y x := by
  cases before with
  | nil => exact (hbefore rfl).elim
  | cons first before =>
    cases h with
    | stop => cases hxs
    | search h =>
      obtain ⟨rfl, htail⟩ := List.cons.inj hxs
      obtain ⟨e, he | ⟨y, hy, he⟩, hquery⟩ := h.exists_before htail
      · exact ⟨_, List.mem_cons_self, e, he, hquery⟩
      · exact ⟨y, List.mem_cons_of_mem _ hy, e, he, hquery⟩

theorem exists_trail (h : History g base dn label depth order xs) {x : Exchange} (hx : x ∈ xs) :
    ∃ trail : List Exchange, trail.Sublist xs ∧ trail.length ≤ depth ∧
      g.Trail base dn label trail x := by
  cases h with
  | stop => cases hx
  | @search _ found _ xs h =>
    rcases List.mem_cons.1 hx with rfl | hx
    · refine ⟨[_], ?_, Nat.succ_le_succ (Nat.zero_le _), rfl, .singleton _, rfl⟩
      exact List.singleton_sublist.2 List.mem_cons_self
    · have hfound : ∀ e ∈ found, e ∈ (Exchange.mk (g.query base dn label) (.ok found)).entries :=
        fun _ he => he
      obtain ⟨chain, hsub, hlength, hchain, hlast⟩ := h.exists_chain hx hfound
      exact ⟨_ :: chain, hsub.cons_cons _, Nat.succ_le_succ hlength, rfl, hchain, hlast⟩

end History

theorem Tour.exists_history {g : GroupSearch} {base dn label : String} {depth : Nat}
    {visits : List Visit} {xs : List Exchange} {f : Findings}
    (h : Tour g base dn label depth visits xs f) :
    ∃ order, History g base dn label depth order xs ∧ f.authorities = g.gather .empty order := by
  cases h with
  | stop => exact ⟨[], .stop, rfl⟩
  | search hexplored =>
    have hsearch := hexplored.depthFirst g.mem_keys_empty_iff
    exact ⟨_, .search hsearch, hexplored.authorities_eq⟩

namespace Resolver

variable {σ : Type}

theorem exists_history {r : Resolver σ} {base : String} (hbase : r.settings.base = some base)
    {dn label : String} {state : σ} {found : Resolution}
    (h : (r.resolve dn label state).result = .ok found) :
    ∃ order, History r.settings base dn label r.settings.maxDepth order
        (r.exchanges dn label state) ∧
      found.authorities = r.settings.gather .empty order := by
  obtain ⟨visits, f, htour, rfl, -⟩ := exists_tour hbase h
  exact htour.exists_history

/-- The authorities are those that the answers give rise to, whatever the client answers: none of
them is lost, each stays as the first entry made it, and no answer comes from anywhere but the
principal. -/
theorem resolve_eq_answers {r : Resolver σ} {base : String} (hbase : r.settings.base = some base)
    {dn label : String} {state : σ} {found : Resolution}
    (h : (r.resolve dn label state).result = .ok found) :
    let g := r.settings
    let recorded := r.recorded.resolve dn label (state, [])
    let xs := recorded.client.2
    recorded.result = .ok found ∧ recorded.client.1 = (r.resolve dn label state).client ∧
      ∃ order, History g base dn label g.maxDepth order xs ∧
        order.Perm (xs.flatMap Exchange.entries) ∧
        (∀ role source, (role, source) ∈ found.authorities.keys ↔
          ∃ x ∈ xs, ∃ e ∈ x.entries, g.Derives e role source) ∧
        (∀ a ∈ found.authorities.toList, ∃ before e after, order = before ++ e :: after ∧
          g.Derives e a.role a.dn ∧ a.attributes = e.attributes ∧
          ∀ e' ∈ before, ¬ g.Derives e' a.role a.dn) ∧
        (∀ before x after, xs = before ++ x :: after → before ≠ [] →
          ∃ y ∈ before, g.Links base y x) ∧
        ∀ x ∈ xs, ∃ trail : List Exchange, trail.Sublist xs ∧ trail.length ≤ g.maxDepth ∧
          g.Trail base dn label trail x := by
  intro g recorded xs
  have hrecorded : recorded = _ := r.recorded_resolve dn label state
  obtain ⟨order, hhistory, hfound⟩ := exists_history hbase h
  have hperm := hhistory.perm
  refine ⟨?_, ?_, order, hhistory, hperm, fun role source => ?_, fun a ha => ?_, ?_, ?_⟩
  · rw [hrecorded]
    exact h
  · rw [hrecorded]
  · rw [hfound]
    exact GroupSearch.mem_keys_gather_of_perm hperm
  · rw [hfound] at ha
    exact GroupSearch.exists_first_of_mem_gather ha
  · exact fun before x after => hhistory.exists_link
  · exact fun x => hhistory.exists_trail

theorem resolve_eq_answers_of_collision :
    let a := Entry.ofList "cn=a" [("cn", ["a"]), ("mail", ["first"])]
    let a' := Entry.ofList "cn=a" [("cn", ["a", "z"]), ("mail", ["second"])]
    let b := Entry.ofList "cn=b" [("cn", ["b", "B", "c"])]
    let r : Resolver (List Query.Record) :=
      ⟨(Scripted.mk [.ok [b, a], .ok [a']]).client, { GroupSearch.default with base := some "" }⟩
    ∃ found, (r.resolve "u" "u" []).result = .ok found ∧
      ("ROLE_C", "cn=b") ∈ found.authorities.keys ∧ ("ROLE_Z", "cn=a") ∈ found.authorities.keys ∧
      ∃ order, order.Perm [b, a, a'] ∧ ∀ auth ∈ found.authorities.toList,
        ∃ before e after, order = before ++ e :: after ∧ auth.attributes = e.attributes ∧
          ∀ e' ∈ before, ¬ r.settings.Derives e' auth.role auth.dn := by
  intro a a' b r
  have hbase : r.settings.base = some "" := rfl
  have hxs : (r.recorded.resolve "u" "u" ([], [])).client.2.map Exchange.entries =
      [[b, a], [a']] := by
    rw [recorded_resolve_eq_run hbase]
    decide +kernel
  have hok : (r.resolve "u" "u" []).result.isOk = true := by
    rw [resolve_eq_ofRun hbase]
    decide +kernel
  rcases hfound : (r.resolve "u" "u" []).result with err | found
  · rw [hfound] at hok
    cases hok
  obtain ⟨-, -, order, -, hperm, hkeys, hfirst, -, -⟩ := resolve_eq_answers hbase hfound
  rw [List.flatMap_def, hxs] at hperm
  have hmem {es : List Entry} (hes : es ∈ [[b, a], [a']]) {e : Entry} (he : e ∈ es)
      {role source : String} (hderives : r.settings.Derives e role source) :
      (role, source) ∈ found.authorities.keys := by
    rw [← hxs] at hes
    obtain ⟨x, hx, rfl⟩ := List.mem_map.1 hes
    exact (hkeys role source).2 ⟨x, hx, e, he, hderives⟩
  refine ⟨found, rfl, ?_, ?_, order, hperm, fun auth hauth => ?_⟩
  · exact hmem (.head _) (.head _) ⟨rfl, "c", by decide +kernel, by decide +kernel⟩
  · exact hmem (.tail _ (.head _)) (.head _) ⟨rfl, "z", by decide +kernel, by decide +kernel⟩
  · obtain ⟨before, e, after, horder, -, hattributes, hbefore⟩ := hfirst auth hauth
    exact ⟨before, e, after, horder, hattributes, hbefore⟩

end Resolver

end NestedGroups
