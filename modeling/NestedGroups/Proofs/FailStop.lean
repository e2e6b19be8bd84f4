import NestedGroups.Directory
import NestedGroups.Proofs.Recursion
import NestedGroups.Report

namespace NestedGroups

def Exchange.Failed (x : Exchange) : Prop :=
  ∃ e, x.answer = .error e

namespace Dialogue

variable {α β σ : Type}

/-- Succeeds if every answer does, and ends with the first failure among them. -/
inductive Abrupt : Dialogue (Except DirectoryError α × Findings) → Prop
  | finish (a : α) (f : Findings) : Abrupt (.finish (.ok a, f))
  | ask (q : Query) {next : Answer → Dialogue (Except DirectoryError α × Findings)}
      (hfail : ∀ e, ∃ f, next (.error e) = .finish (.error e.asTransport, f))
      (hnext : ∀ found, Abrupt (next (.ok found))) : Abrupt (.ask q next)

theorem Abrupt.bind {t : Dialogue (Except DirectoryError α × Findings)}
    {k : Except DirectoryError α × Findings → Dialogue (Except DirectoryError β × Findings)}
    (ht : t.Abrupt) (hfail : ∀ e f, k (.error e, f) = .finish (.error e, f))
    (hk : ∀ a f, (k (.ok a, f)).Abrupt) : (t.bind k).Abrupt := by
  induction ht with
  | finish a f => exact hk a f
  | ask q hnext _ ih =>
    apply Abrupt.ask q
    · intro e
      obtain ⟨f, he⟩ := hnext e
      refine ⟨f, ?_⟩
      rw [he, finish_bind, hfail]
    · exact ih

theorem Abrupt.run_cases {t : Dialogue (Except DirectoryError α × Findings)} (ht : t.Abrupt)
    (c : Client σ) (s : σ) :
    (∃ a, (t.run c s).result.1 = .ok a ∧ ∀ x ∈ (t.run c s).exchanges, ¬ x.Failed) ∨
      ∃ before q e, (t.run c s).result.1 = .error e.asTransport ∧
        (t.run c s).exchanges = before ++ [⟨q, .error e⟩] ∧ ∀ x ∈ before, ¬ x.Failed := by
  induction ht generalizing s with
  | finish a f => exact .inl ⟨a, rfl, List.forall_mem_nil _⟩
  | ask q hfail hnext ih =>
    rw [run]
    rcases c.search q s with ⟨e | found, s'⟩
    · obtain ⟨f, he⟩ := hfail e
      refine .inr ⟨[], q, e, ?_, ?_, List.forall_mem_nil _⟩ <;> simp only [he] <;> rfl
    · have hok : ¬ Exchange.Failed ⟨q, .ok found⟩ := by
        rintro ⟨e, he⟩
        cases he
      rcases ih found s' with ⟨a, hresult, hall⟩ | ⟨before, q', e, hresult, hex, hall⟩
      · refine .inl ⟨a, hresult, ?_⟩
        simpa only [List.mem_cons, forall_eq_or_imp] using ⟨hok, hall⟩
      · refine .inr ⟨⟨q, .ok found⟩ :: before, q', e, hresult, ?_, ?_⟩
        · simp only [hex, List.cons_append]
        · simpa only [List.mem_cons, forall_eq_or_imp] using ⟨hok, hall⟩

end Dialogue

namespace Search

variable {α β : Type}

def Abrupt (m : Search α) : Prop :=
  ∀ f, (m.run.run f).Abrupt

theorem Abrupt.pure (a : α) : Abrupt (pure a : Search α) :=
  fun f => .finish a f

theorem Abrupt.modify (step : Findings → Findings) : Abrupt (modify step : Search Unit) :=
  fun f => .finish () (step f)

theorem Abrupt.bind {m : Search α} {k : α → Search β} (hm : m.Abrupt) (hk : ∀ a, (k a).Abrupt) :
    (m >>= k).Abrupt := by
  intro f
  rw [ExceptT.run_bind, StateT.run_bind, Dialogue.bind_eq]
  exact (hm f).bind (fun _ _ => rfl) fun a f => hk a f

theorem Abrupt.ask (q : Query) (depth : Nat) : (ask q depth).Abrupt :=
  fun f => .ask q (fun _ => ⟨f.ask q depth, rfl⟩) fun found => .finish found (f.ask q depth)

theorem Abrupt.forM {es : List Entry} {k : Entry → Search Unit} (hk : ∀ e, (k e).Abrupt) :
    (forM es k).Abrupt := by
  induction es with
  | nil => exact .pure ()
  | cons e es ih =>
    rw [List.forM_cons]
    exact (hk e).bind fun _ => ih

theorem Abrupt.insert (a : Authority) : (insert a).Abrupt :=
  fun f => .finish (f.authorities.contains a) { f with authorities := f.authorities.insert a }

theorem Abrupt.enter (g : GroupSearch) (e : Entry) : (g.enter e).Abrupt := by
  rw [GroupSearch.enter]
  generalize false = again
  induction g.labels e generalizing again with
  | nil => exact .pure again
  | cons label labels ih =>
    rw [List.foldlM_cons]
    exact ((Abrupt.insert _).bind fun known => .pure _).bind fun again => ih again

end Search

namespace GroupSearch

theorem abrupt_handle {g : GroupSearch} {base : String} {depth : Nat}
    (h : ∀ root label, (g.search base depth root label).Abrupt) (e : Entry) :
    (g.handle base depth e).Abrupt := by
  refine (Search.Abrupt.enter g e).bind fun again => ?_
  cases again with
  | true => exact .modify _
  | false => exact h _ _

theorem abrupt_search (g : GroupSearch) (base : String) (depth : Nat) (root label : String) :
    (g.search base depth root label).Abrupt := by
  induction depth generalizing root label with
  | zero => exact .modify _
  | succ depth ih => exact (Search.Abrupt.ask _ _).bind fun found => .forM (abrupt_handle ih)

end GroupSearch

namespace InMemory

variable {α : Type}

theorem run_client (d : InMemory) (t : Dialogue α) (journal : Journal) :
    (t.run d.client journal).client =
      journal ++ (t.run d.client journal).exchanges.map fun x => x.query.record := by
  induction t generalizing journal with
  | finish a => exact (List.append_nil journal).symm
  | ask q next ih =>
    rw [Dialogue.run, List.map_cons]
    exact (ih _ _).trans (List.append_assoc journal [q.record] _)

theorem journal_prefix (d : InMemory) (t : Dialogue α) (journal : Journal) :
    journal <+: (t.run d.client journal).client :=
  ⟨_, (d.run_client t journal).symm⟩

theorem search_of_ne {d : InMemory} {journal : Journal} (q : Query)
    (h : d.failOn ≠ some (journal.length + 1)) :
    d.client.search q journal = (.ok (d.answer q), journal ++ [q.record]) := by
  rw [client]
  simp only [if_neg h]

theorem search_of_eq {d : InMemory} {journal : Journal} (q : Query)
    (h : d.failOn = some (journal.length + 1)) :
    d.client.search q journal =
      (.error (injectedFailure (journal.length + 1)), journal ++ [q.record]) := by
  rw [client]
  simp only [if_pos h]

theorem failOn_ne {d : InMemory} (hd : d.failOn = none) (n : Nat) : d.failOn ≠ some n := by
  intro h
  rw [hd] at h
  cases h

theorem run_ask_of_ne {d : InMemory} {q : Query} {next : Answer → Dialogue α}
    {journal : Journal} (h : d.failOn ≠ some (journal.length + 1)) :
    (Dialogue.ask q next).run d.client journal =
      let rest := (next (.ok (d.answer q))).run d.client (journal ++ [q.record])
      ⟨rest.result, rest.client, ⟨q, .ok (d.answer q)⟩ :: rest.exchanges⟩ := by
  rw [Dialogue.run, search_of_ne q h]

theorem run_ask_of_eq {d : InMemory} {q : Query} {next : Answer → Dialogue α}
    {journal : Journal} (h : d.failOn = some (journal.length + 1)) :
    (Dialogue.ask q next).run d.client journal =
      let rest := (next (.error (injectedFailure (journal.length + 1)))).run d.client
        (journal ++ [q.record])
      ⟨rest.result, rest.client,
        ⟨q, .error (injectedFailure (journal.length + 1))⟩ :: rest.exchanges⟩ := by
  rw [Dialogue.run, search_of_eq q h]

theorem run_failing {d d' : InMemory} {n : Nat} (hd : d.failOn = none) (hd' : d'.failOn = some n)
    (hanswer : ∀ q, d'.answer q = d.answer q)
    {t : Dialogue (Except DirectoryError α × Findings)} (ht : t.Abrupt) (journal : Journal)
    (hn : journal.length < n) :
    ((t.run d.client journal).client.length < n →
        t.run d'.client journal = t.run d.client journal) ∧
      (n ≤ (t.run d.client journal).client.length →
        (t.run d'.client journal).result.1 = .error (injectedFailure n).asTransport ∧
          (t.run d'.client journal).client = (t.run d.client journal).client.take n) := by
  induction ht generalizing journal with
  | finish a f => exact ⟨fun _ => rfl, fun h => absurd hn (Nat.not_lt.2 h)⟩
  | @ask q next hfail hnext ih =>
    rw [run_ask_of_ne (failOn_ne hd _)]
    have hprefix := d.journal_prefix (next (.ok (d.answer q))) (journal ++ [q.record])
    by_cases hlast : journal.length + 1 = n
    · subst hlast
      obtain ⟨f, he⟩ := hfail (injectedFailure (journal.length + 1))
      have hlength := hprefix.length_le
      simp only [List.length_append, List.length_singleton] at hlength
      rw [run_ask_of_eq hd', he]
      refine ⟨fun h => absurd h (Nat.not_lt.2 hlength), fun _ => ⟨rfl, ?_⟩⟩
      have htake := List.prefix_iff_eq_take.1 hprefix
      rwa [List.length_append, List.length_singleton] at htake
    · have hne : d'.failOn ≠ some (journal.length + 1) := by
        rw [hd']
        intro h
        exact hlast (Option.some.inj h).symm
      have hlt : (journal ++ [q.record]).length < n := by
        rw [List.length_append, List.length_singleton]
        omega
      obtain ⟨hsame, hfailed⟩ := ih (d.answer q) _ hlt
      rw [run_ask_of_ne hne, hanswer]
      refine ⟨fun h => ?_, hfailed⟩
      rw [hsame h]

theorem run_of_past {d : InMemory} (t : Dialogue α) (journal : Journal)
    (hpast : ∀ n, d.failOn = some n → n ≤ journal.length) :
    t.run d.client journal = t.run { d with failOn := none }.client journal := by
  induction t generalizing journal with
  | finish a => rfl
  | ask q next ih =>
    have hne : d.failOn ≠ some (journal.length + 1) :=
      fun h => Nat.not_succ_le_self _ (hpast _ h)
    rw [run_ask_of_ne hne, run_ask_of_ne (failOn_ne rfl _), ih]
    · rfl
    · intro n hn
      rw [List.length_append]
      exact Nat.le_add_right_of_le (hpast n hn)

end InMemory

theorem DirectoryError.asTransport_eq_ite (e : DirectoryError) :
    e.asTransport = if e.isTransport then e else .transport e := by
  cases e <;> rfl

namespace Resolver

variable {σ : Type}

theorem resolve_cases (r : Resolver σ) (dn label : String) (state : σ) :
    (∃ found, (r.resolve dn label state).result = .ok found ∧
        ∀ x ∈ r.exchanges dn label state, ¬ x.Failed) ∨
      ∃ before q e, (r.resolve dn label state).result = .error e.asTransport ∧
        r.exchanges dn label state = before ++ [⟨q, .error e⟩] ∧ ∀ x ∈ before, ¬ x.Failed := by
  cases hbase : r.settings.base with
  | none =>
    rw [exchanges_of_disabled hbase, resolve_of_disabled hbase]
    exact .inl ⟨{}, rfl, List.forall_mem_nil _⟩
  | some base =>
    rw [exchanges_eq_run hbase, resolve_eq_ofRun hbase, Outcome.ofRun_result, Search.hold]
    rcases (r.settings.abrupt_search base r.settings.maxDepth dn label {}).run_cases r.client state
      with ⟨_, hresult, hall⟩ | ⟨before, q, e, hresult, hex, hall⟩
    · rw [hresult]
      exact .inl ⟨_, rfl, hall⟩
    · rw [hresult]
      exact .inr ⟨before, q, e, rfl, hex, hall⟩

theorem result_eq_error_iff (r : Resolver σ) (dn label : String) (state : σ) (e : DirectoryError) :
    (r.resolve dn label state).result = .error e ↔
      ∃ before q cause, r.exchanges dn label state = before ++ [⟨q, .error cause⟩] ∧
        (∀ x ∈ before, ¬ x.Failed) ∧ e = cause.asTransport := by
  rcases r.resolve_cases dn label state with
    ⟨found, hresult, hall⟩ | ⟨before, q, cause, hresult, hex, hall⟩
  · rw [hresult]
    constructor
    · intro h
      cases h
    · rintro ⟨before, q, cause, hex, -, -⟩
      refine (hall ⟨q, .error cause⟩ ?_ ⟨cause, rfl⟩).elim
      rw [hex]
      exact List.mem_concat_self
  · rw [hresult, hex]
    constructor
    · rintro ⟨⟩
      exact ⟨before, q, cause, rfl, hall, rfl⟩
    · rintro ⟨before', q', cause', heq, -, rfl⟩
      obtain ⟨-, hlast⟩ := List.append_inj' heq rfl
      cases hlast
      rfl

theorem exists_error_iff (r : Resolver σ) (dn label : String) (state : σ) :
    (∃ e, (r.resolve dn label state).result = .error e) ↔
      ∃ x ∈ r.exchanges dn label state, x.Failed := by
  constructor
  · rintro ⟨e, he⟩
    obtain ⟨before, q, cause, hex, -, -⟩ := (r.result_eq_error_iff dn label state e).1 he
    rw [hex]
    exact ⟨⟨q, .error cause⟩, List.mem_concat_self, cause, rfl⟩
  · rintro ⟨x, hx, hfailed⟩
    rcases r.resolve_cases dn label state with ⟨found, -, hall⟩ | ⟨before, q, cause, hresult, -, -⟩
    · exact (hall x hx hfailed).elim
    · exact ⟨_, hresult⟩

theorem granted_of_error {r : Resolver σ} {dn label : String} {state : σ} {e : DirectoryError}
    (h : (r.resolve dn label state).result = .error e) :
    (r.granted dn label state).result = .error e := by
  rw [granted, h]
  rfl

theorem granted_client (r : Resolver σ) (dn label : String) (state : σ) :
    (r.granted dn label state).client = (r.resolve dn label state).client := rfl

theorem resolve_of_past {d : InMemory} (g : GroupSearch) (dn label : String)
    {journal : InMemory.Journal} (hpast : ∀ n, d.failOn = some n → n ≤ journal.length) :
    (mk d.client g).resolve dn label journal =
      (mk { d with failOn := none }.client g).resolve dn label journal := by
  cases hbase : g.base with
  | none => rw [resolve_of_disabled hbase, resolve_of_disabled hbase]
  | some base =>
    rw [resolve_eq_ofRun hbase, resolve_eq_ofRun hbase, Search.hold,
      InMemory.run_of_past _ journal hpast]
    rfl

theorem resolve_failing_after {d d' : InMemory} {n : Nat} (hd : d.failOn = none)
    (hd' : d'.failOn = some n) (hanswer : ∀ q, d'.answer q = d.answer q) (g : GroupSearch)
    (dn label : String) {journal : InMemory.Journal} (hn : journal.length < n) :
    let healthy := (Resolver.mk d.client g).resolve dn label journal
    let failing := (Resolver.mk d'.client g).resolve dn label journal
    (healthy.client.length < n → failing = healthy) ∧
      (n ≤ healthy.client.length →
        failing.result = .error (.transport (InMemory.injectedFailure n)) ∧
          failing.client = healthy.client.take n) := by
  cases hbase : g.base with
  | none =>
    rw [resolve_of_disabled hbase, resolve_of_disabled hbase]
    exact ⟨fun _ => rfl, fun h => absurd hn (Nat.not_lt.2 h)⟩
  | some base =>
    rw [resolve_eq_ofRun hbase, resolve_eq_ofRun hbase]
    simp only [Outcome.ofRun_client, Outcome.ofRun_result]
    obtain ⟨hsame, hfailed⟩ := InMemory.run_failing hd hd' hanswer
      (g.abrupt_search base g.maxDepth dn label {}) journal hn
    refine ⟨fun h => ?_, fun h => ?_⟩
    · rw [Search.hold, hsame h]
      rfl
    · obtain ⟨hresult, hclient⟩ := hfailed h
      refine ⟨?_, hclient⟩
      rw [Search.hold, hresult]
      rfl

theorem resolve_failing {d d' : InMemory} {n : Nat} (hd : d.failOn = none)
    (hd' : d'.failOn = some n) (hanswer : ∀ q, d'.answer q = d.answer q) (hn : 1 ≤ n)
    (g : GroupSearch) (dn label : String) :
    let healthy := (Resolver.mk d.client g).resolve dn label []
    let failing := (Resolver.mk d'.client g).resolve dn label []
    (healthy.client.length < n → failing = healthy) ∧
      (n ≤ healthy.client.length →
        failing.result = .error (.transport (InMemory.injectedFailure n)) ∧
          failing.client = healthy.client.take n) :=
  resolve_failing_after hd hd' hanswer g dn label hn

/-- An injected failure comes true if the healthy resolution reaches its number, and has no effect
otherwise. -/
theorem resolve_injected (d : InMemory) (g : GroupSearch) (dn label : String)
    (journal : InMemory.Journal) :
    let healthy := (Resolver.mk { d with failOn := none }.client g).resolve dn label journal
    let outcome := (Resolver.mk d.client g).resolve dn label journal
    let Reached n := d.failOn = some n ∧ journal.length < n ∧ n ≤ healthy.client.length
    (∀ n, ¬ Reached n) ∧ outcome = healthy ∨
      ∃ n, Reached n ∧ outcome.result = .error (.transport (InMemory.injectedFailure n)) ∧
        outcome.client = healthy.client.take n := by
  intro healthy outcome Reached
  by_cases hpast : ∀ n, d.failOn = some n → n ≤ journal.length
  · exact .inl ⟨fun n h => Nat.not_lt.2 (hpast n h.1) h.2.1, resolve_of_past g dn label hpast⟩
  · simp only [not_forall, Nat.not_le] at hpast
    obtain ⟨n, hn, hlt⟩ := hpast
    have hnone : ({ d with failOn := none } : InMemory).failOn = none := rfl
    obtain ⟨hsame, hfailed⟩ := resolve_failing_after hnone hn (fun _ => rfl) g dn label hlt
    rcases Nat.lt_or_ge healthy.client.length n with hshort | hlong
    · refine .inl ⟨fun m h => ?_, hsame hshort⟩
      cases Option.some.inj (hn.symm.trans h.1)
      exact Nat.not_lt.2 h.2.2 hshort
    · exact .inr ⟨n, ⟨hn, hlt, hlong⟩, hfailed hlong⟩

end Resolver

theorem Report.ofUser_of_error {σ : Type} {r : Resolver σ} {dn : String} {username : Option String}
    {state : σ} {e : DirectoryError} (hdn : Text.isAllBlank dn = false)
    (h : (r.resolve dn (usernameOf dn username) state).result = .error e) (wantStats : Bool) :
    let report := ofUser r dn username wantStats state
    report.result = .error (.directory e) ∧
      report.client = (r.resolve dn (usernameOf dn username) state).client := by
  rw [ofUser, hdn]
  simp only [Bool.false_eq_true, if_false, h, and_self]

namespace Resolver

variable {σ : Type}

/-- Failure is all or nothing. A resolution gives out nothing once a query has failed, and a failure
that is injected into a directory cuts the healthy run off at that query and changes nothing
before. -/
theorem fails_with_its_queries (r : Resolver σ) (state : σ) (d : InMemory) (g : GroupSearch)
    (dn label : String) {n : Nat} (hn : 1 ≤ n) :
    (let outcome := r.resolve dn label state
      let recorded := r.recorded.resolve dn label (state, [])
      recorded.result = outcome.result ∧ recorded.client.1 = outcome.client ∧
        ((∃ e, outcome.result = .error e) ↔ ∃ x ∈ recorded.client.2, x.Failed) ∧
        ∀ e, outcome.result = .error e →
          ∃ before q cause, recorded.client.2 = before ++ [⟨q, .error cause⟩] ∧
            (∀ x ∈ before, ¬ x.Failed) ∧
            e = if cause.isTransport then cause else .transport cause) ∧
      let healthy : Resolver InMemory.Journal := ⟨{ d with failOn := none }.client, g⟩
      let failing : Resolver InMemory.Journal := ⟨{ d with failOn := some n }.client, g⟩
      let log := (healthy.resolve dn label []).client
      let failure : DirectoryError :=
        .transport (.connection ("injected failure on query " ++ toString n))
      (log.length < n → failing.resolve dn label [] = healthy.resolve dn label []) ∧
        (n ≤ log.length →
          (failing.resolve dn label []).result = .error failure ∧
            (failing.resolve dn label []).client = log.take n ∧
            (failing.granted dn label []).result = .error failure ∧
            (failing.granted dn label []).client = log.take n ∧
            ∀ username wantStats, Text.isAllBlank dn = false →
              Report.usernameOf dn username = label →
              (Report.ofUser failing dn username wantStats []).result =
                  .error (.directory failure) ∧
                (Report.ofUser failing dn username wantStats []).client = log.take n) := by
  refine ⟨?_, ?_⟩
  · intro outcome recorded
    have hrecorded : recorded =
        ⟨outcome.result, (outcome.client, r.exchanges dn label state), outcome.events⟩ :=
      r.recorded_resolve dn label state
    rw [hrecorded]
    refine ⟨rfl, rfl, r.exists_error_iff dn label state, fun e he => ?_⟩
    obtain ⟨before, q, cause, hex, hall, rfl⟩ := (r.result_eq_error_iff dn label state e).1 he
    exact ⟨before, q, cause, hex, hall, cause.asTransport_eq_ite⟩
  · intro healthy failing log failure
    have hnone : ({ d with failOn := none } : InMemory).failOn = none := rfl
    have hsome : ({ d with failOn := some n } : InMemory).failOn = some n := rfl
    obtain ⟨hsame, hfailed⟩ := resolve_failing hnone hsome (fun _ => rfl) hn g dn label
    refine ⟨hsame, fun h => ?_⟩
    obtain ⟨hresult, hclient⟩ := hfailed h
    refine ⟨hresult, hclient, granted_of_error hresult, hclient, ?_⟩
    rintro username wantStats hdn rfl
    obtain ⟨hreport, hjournal⟩ := Report.ofUser_of_error hdn hresult wantStats
    exact ⟨hreport, hjournal.trans hclient⟩

theorem fails_with_second_query :
    let d : InMemory :=
      ⟨[.ofList "cn=a" [("member", ["u"])], .ofList "cn=b" [("member", ["cn=a"])]], "member", none⟩
    let g : GroupSearch :=
      { GroupSearch.default with base := some "", defaultRole := some "user" }
    let failing : Resolver InMemory.Journal := ⟨{ d with failOn := some 2 }.client, g⟩
    let failure : DirectoryError :=
      .transport (.connection ("injected failure on query " ++ toString 2))
    (failing.granted "u" "u" []).result = .error failure ∧
      (Report.ofUser failing "u" none true []).result = .error (.directory failure) := by
  intro d g failing failure
  have hbase : g.base = some "" := rfl
  have hlog : 2 ≤ ((Resolver.mk d.client g).resolve "u" "u" []).client.length := by
    rw [resolve_eq_ofRun hbase, Outcome.ofRun_client]
    decide +kernel
  obtain ⟨-, -, hfailed⟩ := failing.fails_with_its_queries [] d g "u" "u" (by decide : 1 ≤ 2)
  obtain ⟨-, -, hgranted, -, hreport⟩ := hfailed hlog
  exact ⟨hgranted, (hreport none true (by decide +kernel) (by decide +kernel)).1⟩

end Resolver

end NestedGroups
