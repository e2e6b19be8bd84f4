import NestedGroups.Proofs.Conservation

namespace NestedGroups

/-- A query with its answer, and the entries that lead from the principal to the root of the query:
the parents of the last of them are asked for. -/
structure Inquiry where
  chain : List Entry
  exchange : Exchange

def Inquiry.event (limit : Nat) (x : Inquiry) : Event :=
  .searching x.exchange.query.base x.exchange.query.filter x.exchange.query.identity
    x.exchange.query.label (limit - x.chain.length)

theorem Inquiry.event_eq {limit depth : Nat} {chain : List Entry}
    (h : depth + chain.length = limit) (q : Query) (answer : Answer) :
    event limit ⟨chain, q, answer⟩ = .searching q.base q.filter q.identity q.label depth := by
  have hleft : limit - chain.length = depth := by omega
  rw [event, hleft]

/-- A search in depth below a chain, whether it succeeds or not: the entries of one answer are
entered one after the other, and the parents of each are asked for at once unless one of its
authorities was there before or no depth is left. The first failure ends all. -/
inductive Descent (g : GroupSearch) (base : String) :
    (chain : List Entry) → (depth : Nat) → (found : AuthoritySet) → List Entry →
      (found' : AuthoritySet) → List Inquiry → Except DirectoryError Unit → Prop
  | done (chain : List Entry) (depth : Nat) (found : AuthoritySet) :
      Descent g base chain depth found [] found [] (.ok ())
  | turn {chain : List Entry} {depth : Nat} {found all found' : AuthoritySet} {e : Entry}
      {es : List Entry} {xs : List Inquiry} {ending : Except DirectoryError Unit}
      (hreg : found.register (g.authorities e) = (all, true))
      (rest : Descent g base chain depth all es found' xs ending) :
      Descent g base chain depth found (e :: es) found' xs ending
  | stop {chain : List Entry} {found all found' : AuthoritySet} {e : Entry}
      {es : List Entry} {xs : List Inquiry} {ending : Except DirectoryError Unit}
      (hreg : found.register (g.authorities e) = (all, false))
      (rest : Descent g base chain 0 all es found' xs ending) :
      Descent g base chain 0 found (e :: es) found' xs ending
  | search {chain : List Entry} {depth : Nat} {found all between found' : AuthoritySet} {e : Entry}
      {es answer : List Entry} {xs ys : List Inquiry} {ending : Except DirectoryError Unit}
      (hreg : found.register (g.authorities e) = (all, false))
      (inner : Descent g base (chain ++ [e]) depth all answer between xs (.ok ()))
      (rest : Descent g base chain (depth + 1) between es found' ys ending) :
      Descent g base chain (depth + 1) found (e :: es) found'
        (⟨chain ++ [e], g.query base e.dn (g.parentLabel e), .ok answer⟩ :: (xs ++ ys)) ending
  | fail {chain : List Entry} {depth : Nat} {found all found' : AuthoritySet} {e : Entry}
      {es answer : List Entry} {xs : List Inquiry} {err : DirectoryError}
      (hreg : found.register (g.authorities e) = (all, false))
      (inner : Descent g base (chain ++ [e]) depth all answer found' xs (.error err)) :
      Descent g base chain (depth + 1) found (e :: es) found'
        (⟨chain ++ [e], g.query base e.dn (g.parentLabel e), .ok answer⟩ :: xs) (.error err)
  | refuse {chain : List Entry} {depth : Nat} {found all : AuthoritySet} {e : Entry}
      {es : List Entry} {err : DirectoryError}
      (hreg : found.register (g.authorities e) = (all, false)) :
      Descent g base chain (depth + 1) found (e :: es) all
        [⟨chain ++ [e], g.query base e.dn (g.parentLabel e), .error err⟩] (.error err.asTransport)

inductive Course (g : GroupSearch) (base dn label : String) :
    Nat → List Inquiry → Except DirectoryError Unit → Prop
  | stop : Course g base dn label 0 [] (.ok ())
  | search {depth : Nat} {answer : List Entry} {found : AuthoritySet} {xs : List Inquiry}
      {ending : Except DirectoryError Unit}
      (h : Descent g base [] depth .empty answer found xs ending) :
      Course g base dn label (depth + 1) (⟨[], g.query base dn label, .ok answer⟩ :: xs) ending
  | refuse (depth : Nat) (err : DirectoryError) :
      Course g base dn label (depth + 1) [⟨[], g.query base dn label, .error err⟩]
        (.error err.asTransport)

namespace Descent

theorem exists_below {chain answer : List Entry} {x : Inquiry} {before : List Inquiry} {e : Entry}
    {q : Query} (h : x.chain = chain ++ [e] ∧ e ∈ answer ∨
      ∃ y ∈ before, x.chain = y.chain ++ [e] ∧ e ∈ y.exchange.entries) :
    ∃ y ∈ (⟨chain, q, .ok answer⟩ : Inquiry) :: before,
      x.chain = y.chain ++ [e] ∧ e ∈ y.exchange.entries := by
  rw [List.exists_mem_cons_iff]
  exact h

variable {g : GroupSearch} {base : String} {chain : List Entry} {depth : Nat}
  {found found' : AuthoritySet} {es : List Entry} {xs : List Inquiry}
  {ending : Except DirectoryError Unit}

/-- Every query asks for the parents of an entry that an earlier one found, or that was there from
the beginning, and its chain is one longer than that of the earlier one. -/
theorem exists_above (h : Descent g base chain depth found es found' xs ending)
    {before after : List Inquiry} {x : Inquiry} (hxs : xs = before ++ x :: after) :
    ∃ e, x.exchange.query = g.query base e.dn (g.parentLabel e) ∧
      (x.chain = chain ++ [e] ∧ e ∈ es ∨
        ∃ y ∈ before, x.chain = y.chain ++ [e] ∧ e ∈ y.exchange.entries) := by
  induction h generalizing before after with
  | done =>
    have hlast := (List.append_eq_nil_iff.1 hxs.symm).2
    cases hlast
  | turn _ _ ih | stop _ _ ih =>
    obtain ⟨e, hquery, habove⟩ := ih hxs
    exact ⟨e, hquery, habove.imp_left fun ⟨hchain, he⟩ => ⟨hchain, List.mem_cons_of_mem _ he⟩⟩
  | refuse =>
    cases before with
    | nil =>
      obtain ⟨rfl, -⟩ := List.cons.inj hxs
      exact ⟨_, rfl, .inl ⟨rfl, List.mem_cons_self⟩⟩
    | cons first before =>
      have hlast := (List.append_eq_nil_iff.1 (List.cons.inj hxs).2.symm).2
      cases hlast
  | fail _ _ ih =>
    cases before with
    | nil =>
      obtain ⟨rfl, -⟩ := List.cons.inj hxs
      exact ⟨_, rfl, .inl ⟨rfl, List.mem_cons_self⟩⟩
    | cons first before =>
      obtain ⟨rfl, htail⟩ := List.cons.inj hxs
      obtain ⟨e, hquery, habove⟩ := ih htail
      exact ⟨e, hquery, .inr (exists_below habove)⟩
  | search _ _ _ ihInner ih =>
    cases before with
    | nil =>
      obtain ⟨rfl, -⟩ := List.cons.inj hxs
      exact ⟨_, rfl, .inl ⟨rfl, List.mem_cons_self⟩⟩
    | cons first before =>
      obtain ⟨rfl, htail⟩ := List.cons.inj hxs
      rcases append_eq_append_cons htail with ⟨more, hinside, -⟩ | ⟨between, rfl, hoff⟩
      · obtain ⟨e, hquery, habove⟩ := ihInner hinside
        exact ⟨e, hquery, .inr (exists_below habove)⟩
      · obtain ⟨e, hquery, habove⟩ := ih hoff
        refine ⟨e, hquery, ?_⟩
        rcases habove with ⟨hchain, he⟩ | ⟨y, hy, hchain, he⟩
        · exact .inl ⟨hchain, List.mem_cons_of_mem _ he⟩
        · exact .inr ⟨y, List.mem_cons_of_mem _ (List.mem_append_right _ hy), hchain, he⟩

theorem length_le (h : Descent g base chain depth found es found' xs ending) {x : Inquiry}
    (hx : x ∈ xs) : x.chain.length ≤ chain.length + depth := by
  induction h with
  | done => cases hx
  | turn _ _ ih | stop _ _ ih => exact ih hx
  | refuse =>
    cases List.mem_singleton.1 hx
    rw [List.length_append, List.length_singleton]
    omega
  | fail _ _ ih =>
    rcases List.mem_cons.1 hx with rfl | hx
    · rw [List.length_append, List.length_singleton]
      omega
    · have hlength := ih hx
      rw [List.length_append, List.length_singleton] at hlength
      omega
  | search _ _ _ ihInner ih =>
    rcases List.mem_cons.1 hx with rfl | hx
    · rw [List.length_append, List.length_singleton]
      omega
    · rcases List.mem_append.1 hx with hx | hx
      · have hlength := ihInner hx
        rw [List.length_append, List.length_singleton] at hlength
        omega
      · exact ih hx

end Descent

namespace Course

variable {g : GroupSearch} {base dn label : String} {limit : Nat} {xs : List Inquiry}
  {ending : Except DirectoryError Unit}

theorem exists_above (h : Course g base dn label limit xs ending) {before after : List Inquiry}
    {x : Inquiry} (hxs : xs = before ++ x :: after) :
    before = [] ∧ x.chain = [] ∧ x.exchange.query = g.query base dn label ∨
      ∃ y ∈ before, ∃ e ∈ y.exchange.entries,
        x.chain = y.chain ++ [e] ∧ x.exchange.query = g.query base e.dn (g.parentLabel e) := by
  cases h with
  | stop =>
    have hlast := (List.append_eq_nil_iff.1 hxs.symm).2
    cases hlast
  | refuse =>
    cases before with
    | nil =>
      obtain ⟨rfl, -⟩ := List.cons.inj hxs
      exact .inl ⟨rfl, rfl, rfl⟩
    | cons first before =>
      have hlast := (List.append_eq_nil_iff.1 (List.cons.inj hxs).2.symm).2
      cases hlast
  | search h =>
    cases before with
    | nil =>
      obtain ⟨rfl, -⟩ := List.cons.inj hxs
      exact .inl ⟨rfl, rfl, rfl⟩
    | cons first before =>
      obtain ⟨rfl, htail⟩ := List.cons.inj hxs
      obtain ⟨e, hquery, habove⟩ := h.exists_above htail
      obtain ⟨y, hy, hchain, he⟩ := Descent.exists_below habove
      exact .inr ⟨y, hy, e, he, hchain, hquery⟩

theorem length_lt (h : Course g base dn label limit xs ending) {x : Inquiry} (hx : x ∈ xs) :
    x.chain.length < limit := by
  cases h with
  | stop => cases hx
  | refuse =>
    cases List.mem_singleton.1 hx
    exact Nat.succ_pos _
  | search h =>
    rcases List.mem_cons.1 hx with rfl | hx
    · exact Nat.succ_pos _
    · have hlength := h.length_le hx
      rw [List.length_nil, Nat.zero_add] at hlength
      exact Nat.lt_succ_of_le hlength

end Course

def Retells {σ : Type} (g : GroupSearch) (base : String) (limit : Nat) (chain : List Entry)
    (depth : Nat) (f : Findings) (es : List Entry)
    (run : Dialogue.Run σ (Except DirectoryError Unit × Findings)) : Prop :=
  ∃ xs, Descent g base chain depth f.authorities es run.result.2.authorities xs run.result.1 ∧
    xs.map Inquiry.exchange = run.exchanges ∧
    run.result.2.events.filter Event.isSearching =
      f.events.filter Event.isSearching ++ xs.map (Inquiry.event limit)

namespace Findings

variable (f : Findings)

theorem searching_cut (dn : String) :
    (f.cut dn).events.filter Event.isSearching = f.events.filter Event.isSearching := by
  rw [cut, List.filter_append]
  exact List.append_nil _

theorem searching_exhaust (root : String) :
    (f.exhaust root).events.filter Event.isSearching = f.events.filter Event.isSearching := by
  rw [exhaust, List.filter_append]
  exact List.append_nil _

theorem searching_ask (q : Query) (depth : Nat) :
    (f.ask q depth).events.filter Event.isSearching =
      f.events.filter Event.isSearching ++ [.searching q.base q.filter q.identity q.label depth] := by
  rw [ask, List.filter_append]
  rfl

end Findings

namespace GroupSearch

variable {σ : Type} {g : GroupSearch} {base : String}

theorem retells {depth limit : Nat} {chain : List Entry} (es : List Entry) (f : Findings)
    (c : Client σ) (s : σ) (hlimit : depth + 1 + chain.length = limit) :
    Retells g base limit chain depth f es ((forM es (g.handle base depth)).hold f c s) := by
  induction depth using Nat.strongRecOn generalizing chain es f s with
  | ind depth ihDepth =>
    induction es generalizing f s with
    | nil => exact ⟨[], .done chain depth _, rfl, (List.append_nil _).symm⟩
    | cons e es ih =>
      rw [List.forM_cons, Search.hold_bind]
      rcases hreg : f.authorities.register (g.authorities e) with ⟨all, again⟩
      cases again with
      | true =>
        rw [hold_handle_of_again c s hreg]
        obtain ⟨xs, hxs, hrecord, hevents⟩ := ih ({ f with authorities := all }.cut e.dn) s
        rw [Findings.searching_cut] at hevents
        exact ⟨xs, .turn hreg hxs, hrecord, hevents⟩
      | false =>
        rw [hold_handle_of_new c s hreg]
        cases depth with
        | zero =>
          obtain ⟨xs, hxs, hrecord, hevents⟩ := ih ({ f with authorities := all }.exhaust e.dn) s
          rw [Findings.searching_exhaust] at hevents
          exact ⟨xs, .stop hreg hxs, hrecord, hevents⟩
        | succ depth =>
          have hbelow : depth + 1 + (chain ++ [e]).length = limit := by
            rw [List.length_append, List.length_singleton]
            omega
          rcases hreply : c.search (g.query base e.dn (g.parentLabel e)) s with ⟨err | answer, s'⟩
          · rw [hold_search_of_error hreply]
            refine ⟨[_], .refuse hreg, rfl, ?_⟩
            rw [Findings.searching_ask, ← Inquiry.event_eq hbelow _ (.error err)]
            rfl
          · rw [hold_search_of_ok hreply]
            obtain ⟨xs, hxs, hrecord, hevents⟩ := ihDepth depth (Nat.lt_succ_self depth) answer
              ({ f with authorities := all }.ask (g.query base e.dn (g.parentLabel e)) (depth + 1))
              s' hbelow
            rw [Findings.searching_ask, ← Inquiry.event_eq hbelow _ (.ok answer)] at hevents
            rcases hinner : (forM answer (g.handle base depth)).hold _ c s' with
              ⟨⟨err | _, f₁⟩, s₁, record⟩
            · rw [hinner] at hxs hrecord hevents
              refine ⟨_ :: xs, .fail hreg hxs, congrArg (_ :: ·) hrecord, ?_⟩
              rw [List.append_assoc] at hevents
              exact hevents
            · rw [hinner] at hxs hrecord hevents
              obtain ⟨ys, hys, hrecord', hevents'⟩ := ih f₁ s₁
              refine ⟨_ :: (xs ++ ys), .search hreg hxs hys, ?_, ?_⟩
              · rw [List.map_cons, List.map_append, hrecord, hrecord']
                rfl
              · rw [hevents, List.append_assoc, List.append_assoc] at hevents'
                rw [List.map_cons, List.map_append]
                exact hevents'

theorem exists_course (g : GroupSearch) (base dn label : String) (limit : Nat) (c : Client σ)
    (s : σ) :
    let run := (g.search base limit dn label).hold {} c s
    ∃ xs, Course g base dn label limit xs run.result.1 ∧ xs.map Inquiry.exchange = run.exchanges ∧
      run.result.2.events.filter Event.isSearching = xs.map (Inquiry.event limit) := by
  intro run
  cases limit with
  | zero => exact ⟨[], .stop, rfl, rfl⟩
  | succ depth =>
    rcases hreply : c.search (g.query base dn label) s with ⟨e | answer, s'⟩
    · have hrun : run = _ := hold_search_of_error hreply
      rw [hrun]
      exact ⟨[_], .refuse depth e, rfl, rfl⟩
    · have hrun : run = _ := hold_search_of_ok hreply
      rw [hrun]
      let asked := ({} : Findings).ask (g.query base dn label) (depth + 1)
      have hretells : Retells g base (depth + 1) [] depth asked answer
          ((forM answer (g.handle base depth)).hold asked c s') := retells answer asked c s' rfl
      obtain ⟨xs, hxs, hrecord, hevents⟩ := hretells
      exact ⟨_ :: xs, .search hxs, congrArg (_ :: ·) hrecord, hevents⟩

end GroupSearch

theorem Outcome.searching_ofRun {σ : Type} (depth : Nat)
    (run : Dialogue.Run σ (Except DirectoryError Unit × Findings)) :
    (ofRun depth run).events.filter Event.isSearching =
      run.result.2.events.filter Event.isSearching := by
  rcases ofRun_events depth run with h | ⟨authorities, stats, h⟩
  · rw [h]
  · rw [h, List.filter_append]
    exact List.append_nil _

namespace Resolver

variable {σ : Type}

/-- The books of a resolution. What its client was asked is the course of a search: each query comes
with the chain of entries that leads to its root, and each event of a query has the depth that is
left below that chain. What it counts balances if it succeeds, and then its last event says so. -/
theorem resolve_keeps_books (r : Resolver σ) (dn label : String) (state : σ) :
    let outcome := r.resolve dn label state
    let asked := r.exchanges dn label state
    r.recorded.resolve dn label (state, []) =
        ⟨outcome.result, (outcome.client, asked), outcome.events⟩ ∧
      (r.settings.base = none → asked = [] ∧ outcome.events = []) ∧
      (∀ base, r.settings.base = some base → ∃ xs,
        Course r.settings base dn label r.settings.maxDepth xs (outcome.result.map fun _ => ()) ∧
        xs.map Inquiry.exchange = asked ∧
        outcome.events.filter Event.isSearching = xs.map (Inquiry.event r.settings.maxDepth) ∧
        (∀ x ∈ xs, x.chain.length < r.settings.maxDepth) ∧
        ∀ before x after, xs = before ++ x :: after →
          before = [] ∧ x.chain = [] ∧ x.exchange.query = r.settings.query base dn label ∨
            ∃ y ∈ before, ∃ e ∈ y.exchange.entries, x.chain = y.chain ++ [e] ∧
              x.exchange.query = r.settings.query base e.dn (r.settings.parentLabel e)) ∧
      (∀ found, outcome.result = .ok found → r.Balances dn label state found.stats) ∧
      (∀ found, outcome.result = .ok found → r.settings.isEnabled → 0 < r.settings.maxDepth →
        ∃ before, (∀ e ∈ before, e.isComplete = false) ∧
          outcome.events = before ++ [.complete found.authorities.size found.stats]) ∧
      ((∀ found, outcome.result = .ok found → r.settings.isEnabled → r.settings.maxDepth = 0) →
        ∀ e ∈ outcome.events, e.isComplete = false) := by
  intro outcome asked
  refine ⟨r.recorded_resolve dn label state, ?_, ?_, fun _ hfound => balances hfound,
    r.complete_events dn label state⟩
  · intro hbase
    exact ⟨exchanges_of_disabled hbase dn label state,
      congrArg Outcome.events (resolve_of_disabled hbase dn label state)⟩
  · intro base hbase
    have houtcome : outcome = _ := resolve_eq_ofRun hbase dn label state
    have hasked : asked = _ := exchanges_eq_run hbase dn label state
    obtain ⟨xs, hcourse, hrecord, hevents⟩ :=
      r.settings.exists_course base dn label r.settings.maxDepth r.client state
    refine ⟨xs, ?_, hrecord.trans hasked.symm, ?_, fun x hx => hcourse.length_lt hx,
      fun before x after hxs => hcourse.exists_above hxs⟩
    · rw [houtcome, Outcome.ofRun_result]
      generalize (r.settings.search base r.settings.maxDepth dn label).hold {} r.client state = run
        at hcourse
      rcases run with ⟨⟨e | _, f⟩, s, record⟩ <;> exact hcourse
    · rw [houtcome, Outcome.searching_ofRun]
      exact hevents

/-- Two groups of the principal, and one that holds the first of them, for whose own parents no
depth is left. -/
theorem resolve_keeps_books_of_three_groups :
    let group n := Entry.ofList ("cn=" ++ n) [("cn", [n])]
    let d : Scripted := ⟨[.ok [group "a", group "b"], .ok [group "c"]]⟩
    let r : Resolver (List Query.Record) :=
      ⟨d.client, { GroupSearch.default with base := some "", maxDepth := 2 }⟩
    let outcome := r.resolve "u" "u" []
    let stats : Stats := { queries := 3, exhausted := 1 }
    (∃ found, outcome.result = .ok found ∧ found.stats = stats) ∧
      (stats.queries + stats.exhausted + stats.cycles = 1 + received (r.exchanges "u" "u" []) ∧
        received (r.exchanges "u" "u" []) = 3) ∧
      (∃ xs : List Inquiry,
        outcome.events.filter Event.isSearching = xs.map (Inquiry.event 2) ∧
        (∀ x ∈ xs, x.chain.length < 2) ∧ xs.map Inquiry.exchange = r.exchanges "u" "u" []) ∧
      ∃ before, outcome.events = before ++ [.complete 3 stats] := by
  intro group d r outcome stats
  have hresult : outcome.result.toOption.map (fun found => (found.stats, found.authorities.size)) =
      some (stats, 3) := by
    have hbase : r.settings.base = some "" := rfl
    have houtcome : outcome = _ := resolve_eq_ofRun hbase "u" "u" []
    rw [houtcome]
    decide +kernel
  rcases hfound : outcome.result with e | found
  · rw [hfound] at hresult
    cases hresult
  rw [hfound] at hresult
  obtain ⟨hstats, hsize⟩ := Prod.mk.inj (Option.some.inj hresult)
  obtain ⟨-, -, hcourse, hbalances, hcomplete, -⟩ := r.resolve_keeps_books "u" "u" []
  obtain ⟨xs, -, hasked, hevents, hlength, -⟩ := hcourse "" rfl
  obtain ⟨before, -, hlast⟩ := hcomplete found hfound rfl (by decide)
  have hbranches := (hbalances found hfound).branches rfl
  rw [hstats] at hbranches
  rw [hstats, hsize] at hlast
  exact ⟨⟨found, rfl, hstats⟩, ⟨hbranches, (Nat.add_left_cancel hbranches).symm⟩,
    ⟨xs, hevents, hlength, hasked⟩, before, hlast⟩

end Resolver

end NestedGroups
