import NestedGroups.Proofs.Search

namespace NestedGroups

namespace Resolver

variable {σ : Type}

theorem progress_ask (c : Client σ) (q : Query) (depth : Nat) (f : Findings) (s : σ) :
    (f.progress s).ask c q depth = ((c.search q s).1, (f.ask q depth).progress (c.search q s).2) :=
  rfl

theorem descend_of_error {r : Resolver σ} {base root label : String} {depth : Nat}
    {stack : List Frame} {f : Findings} {s s' : σ} {e : DirectoryError}
    (h : r.client.search (r.settings.query base root label) s = (.error e, s')) :
    r.descend base root label (depth + 1) stack (f.progress s) =
      .failed e.asTransport
        ((f.ask (r.settings.query base root label) (depth + 1)).progress s') := by
  change r.client.search (r.query base root label) s = _ at h
  rw [descend, progress_ask, h]
  rfl

theorem descend_of_ok {r : Resolver σ} {base root label : String} {depth : Nat}
    {stack : List Frame} {f : Findings} {s s' : σ} {found : List Entry}
    (h : r.client.search (r.settings.query base root label) s = (.ok found, s')) :
    r.descend base root label (depth + 1) stack (f.progress s) =
      .running (⟨found, depth + 1⟩ :: stack)
        ((f.ask (r.settings.query base root label) (depth + 1)).progress s') := by
  change r.client.search (r.query base root label) s = _ at h
  rw [descend, progress_ask, h]
  rfl

theorem visit_of_again {r : Resolver σ} {base : String} {e : Entry} {depth : Nat}
    {stack : List Frame} {f : Findings} {all : AuthoritySet} (s : σ)
    (h : f.authorities.register (r.settings.authorities e) = (all, true)) :
    r.visit base e depth stack (f.progress s) =
      .running stack (({ f with authorities := all }.cut e.dn).progress s) := by
  change (f.progress s).authorities.register _ = _ at h
  rw [visit, h]
  rfl

theorem visit_of_new {r : Resolver σ} {base : String} {e : Entry} {depth : Nat}
    {stack : List Frame} {f : Findings} {all : AuthoritySet} (s : σ)
    (h : f.authorities.register (r.settings.authorities e) = (all, false)) :
    r.visit base e depth stack (f.progress s) =
      r.descend base e.dn (r.settings.parentLabel e) (depth - 1) stack
        ({ f with authorities := all }.progress s) := by
  change (f.progress s).authorities.register _ = _ at h
  rw [visit, h]
  rfl

def proceed (r : Resolver σ) (base : String) (p : Progress σ) : Step σ → Outcome σ
  | .finished => p.complete.succeed
  | .failed e p => p.fail e
  | .running next p => r.loop base next p

def resume (r : Resolver σ) (base : String) (rest : List Frame)
    (run : Dialogue.Run σ (Except DirectoryError Unit × Findings)) : Outcome σ :=
  match run.result with
  | (.error e, f) => (f.progress run.client).fail e
  | (.ok (), f) => r.loop base rest (f.progress run.client)

theorem loop_eq_proceed (r : Resolver σ) (base : String) (stack : List Frame) (p : Progress σ) :
    r.loop base stack p = r.proceed base p (r.step base stack p) := by
  rw [loop, proceed.eq_def]
  split <;> simp only [*]

theorem loop_empty (r : Resolver σ) (base : String) (p : Progress σ) :
    r.loop base [] p = p.complete.succeed := by
  rw [loop_eq_proceed]
  rfl

/-- The loop handles the top frame as the recursion handles its entries. -/
def Handles (r : Resolver σ) (base : String) (depth : Nat) : Prop :=
  ∀ (es : List Entry) (rest : List Frame) (f : Findings) (s : σ),
    r.loop base (⟨es, depth + 1⟩ :: rest) (f.progress s) =
      r.resume base rest ((forM es (r.settings.handle base depth)).hold f r.client s)

theorem proceed_descend {r : Resolver σ} {base : String} {depth : Nat}
    (h : ∀ inner, depth = inner + 1 → r.Handles base inner) (root label : String)
    (rest : List Frame) (f : Findings) (s : σ) (p : Progress σ) :
    r.proceed base p (r.descend base root label depth rest (f.progress s)) =
      r.resume base rest ((r.settings.search base depth root label).hold f r.client s) := by
  cases depth with
  | zero => rfl
  | succ inner =>
    rcases hreply : r.client.search (r.settings.query base root label) s with ⟨e | found, s'⟩
    · rw [descend_of_error hreply, GroupSearch.hold_search_of_error hreply]
      rfl
    · rw [descend_of_ok hreply, GroupSearch.hold_search_of_ok hreply]
      exact h inner rfl found rest _ s'

/-- What holds with one depth less is all that a search of this depth uses. -/
theorem Handles.of_less {r : Resolver σ} {base : String} {depth : Nat}
    (h : ∀ inner, depth = inner + 1 → r.Handles base inner) : r.Handles base depth := by
  intro es
  induction es with
  | nil =>
    intro rest f s
    rw [loop_eq_proceed]
    rfl
  | cons e es ih =>
    intro rest f s
    rw [loop_eq_proceed, step, List.forM_cons, Search.hold_bind]
    rcases hreg : f.authorities.register (r.settings.authorities e) with ⟨all, again⟩
    cases again with
    | true =>
      rw [visit_of_again s hreg, GroupSearch.hold_handle_of_again _ _ hreg]
      exact ih rest _ s
    | false =>
      rw [visit_of_new s hreg, GroupSearch.hold_handle_of_new _ _ hreg, Nat.add_sub_cancel,
        proceed_descend h]
      rcases (r.settings.search base depth e.dn (r.settings.parentLabel e)).hold _ r.client s
        with ⟨⟨e | _, f⟩, s, record⟩
      · rfl
      · exact ih rest f s

theorem handles (r : Resolver σ) (base : String) (depth : Nat) : r.Handles base depth := by
  induction depth with
  | zero =>
    apply Handles.of_less
    intro inner h
    cases h
  | succ depth ih =>
    apply Handles.of_less
    intro inner h
    cases h
    exact ih

theorem descend_ne_finished (r : Resolver σ) (base root label : String) (depth : Nat)
    (stack : List Frame) (p : Progress σ) :
    r.descend base root label depth stack p ≠ .finished := by
  intro h
  cases depth with
  | zero => cases h
  | succ depth =>
    rw [descend] at h
    split at h <;> cases h

theorem resolve_eq_resume {r : Resolver σ} {base : String} {depth : Nat}
    (hbase : r.settings.base = some base) (hdepth : r.settings.maxDepth = depth + 1)
    (dn label : String) (state : σ) :
    r.resolve dn label state =
      r.resume base []
        ((r.settings.search base (depth + 1) dn label).hold {} r.client state) := by
  rw [← proceed_descend (fun inner _ => r.handles base inner) _ _ _ _ _ { client := state },
    resolve, hbase, hdepth]
  change (match r.descend base dn label (depth + 1) [] { client := state } with
    | .finished => _
    | .failed e p => p.fail e
    | .running stack p => r.loop base stack p) =
    r.proceed base _ (r.descend base dn label (depth + 1) [] { client := state })
  cases h : r.descend base dn label (depth + 1) [] { client := state } with
  | finished => exact (r.descend_ne_finished _ _ _ _ _ _ h).elim
  | failed e p => rfl
  | running stack p => rfl

end Resolver

def Outcome.ofRun {σ : Type} (depth : Nat)
    (run : Dialogue.Run σ (Except DirectoryError Unit × Findings)) : Outcome σ :=
  match run.result with
  | (.error e, f) => (f.progress run.client).fail e
  | (.ok (), f) => ((if depth = 0 then f else f.complete).progress run.client).succeed

namespace Outcome

variable {σ : Type}

theorem ofRun_result (depth : Nat)
    (run : Dialogue.Run σ (Except DirectoryError Unit × Findings)) :
    (ofRun depth run).result =
      run.result.1.map fun _ => ⟨run.result.2.authorities, run.result.2.stats⟩ := by
  rcases run with ⟨⟨e | _, f⟩, s, record⟩
  · rfl
  · cases depth <;> rfl

theorem ofRun_client (depth : Nat)
    (run : Dialogue.Run σ (Except DirectoryError Unit × Findings)) :
    (ofRun depth run).client = run.client := by
  rcases run with ⟨⟨e | _, f⟩, s, record⟩ <;> rfl

theorem ofRun_events (depth : Nat)
    (run : Dialogue.Run σ (Except DirectoryError Unit × Findings)) :
    (ofRun depth run).events = run.result.2.events ∨ ∃ authorities stats,
      (ofRun depth run).events = run.result.2.events ++ [.complete authorities stats] := by
  rcases run with ⟨⟨e | _, f⟩, s, record⟩
  · exact .inl rfl
  · cases depth with
    | zero => exact .inl rfl
    | succ depth => exact .inr ⟨_, _, rfl⟩

theorem exhausted_mem_ofRun {depth : Nat} {root : String}
    {run : Dialogue.Run σ (Except DirectoryError Unit × Findings)} :
    .exhausted root ∈ (ofRun depth run).events ↔ .exhausted root ∈ run.result.2.events := by
  rcases ofRun_events depth run with h | ⟨authorities, stats, h⟩
  · rw [h]
  · rw [h]
    simp only [List.mem_append, List.mem_singleton, reduceCtorEq, or_false]

end Outcome

namespace Resolver

variable {σ : Type}

theorem resolve_of_disabled {r : Resolver σ} (hbase : r.settings.base = none) (dn label : String)
    (state : σ) : r.resolve dn label state = ⟨.ok {}, state, []⟩ := by
  rw [resolve, hbase]
  rfl

theorem resolve_eq_ofRun {r : Resolver σ} {base : String} (hbase : r.settings.base = some base)
    (dn label : String) (state : σ) :
    r.resolve dn label state =
      .ofRun r.settings.maxDepth
        ((r.settings.search base r.settings.maxDepth dn label).hold {} r.client state) := by
  cases hdepth : r.settings.maxDepth with
  | zero =>
    rw [resolve, hbase, hdepth]
    rfl
  | succ depth =>
    rw [resolve_eq_resume hbase hdepth, resume]
    rcases (r.settings.search base (depth + 1) dn label).hold {} r.client state
      with ⟨⟨e | _, f⟩, s, record⟩
    · rfl
    · exact r.loop_empty base (f.progress s)

def exchanges (r : Resolver σ) (dn label : String) (state : σ) : List Exchange :=
  (r.recorded.resolve dn label (state, [])).client.2

theorem recorded_resolve_eq_run {r : Resolver σ} {base : String}
    (hbase : r.settings.base = some base) (dn label : String) (state : σ) :
    let run := (r.settings.search base r.settings.maxDepth dn label).hold {} r.client state
    let outcome := r.resolve dn label state
    r.recorded.resolve dn label (state, []) =
      ⟨outcome.result, (outcome.client, run.exchanges), outcome.events⟩ := by
  intro run outcome
  have hrecorded : r.recorded.resolve dn label (state, []) =
      .ofRun r.settings.maxDepth ⟨run.result, (run.client, run.exchanges), run.exchanges⟩ :=
    (resolve_eq_ofRun (r := r.recorded) hbase dn label (state, [])).trans
      (congrArg (Outcome.ofRun _) (Search.hold_recorded _ _ _ _ _))
  have houtcome : outcome = .ofRun r.settings.maxDepth run := resolve_eq_ofRun hbase dn label state
  rw [hrecorded, houtcome]
  rcases run with ⟨⟨e | _, f⟩, s, record⟩ <;> rfl

theorem exchanges_eq_run {r : Resolver σ} {base : String} (hbase : r.settings.base = some base)
    (dn label : String) (state : σ) :
    r.exchanges dn label state =
      ((r.settings.search base r.settings.maxDepth dn label).hold {} r.client state).exchanges := by
  rw [exchanges, recorded_resolve_eq_run hbase]

theorem exchanges_of_disabled {r : Resolver σ} (hbase : r.settings.base = none)
    (dn label : String) (state : σ) : r.exchanges dn label state = [] := by
  rw [exchanges, resolve_of_disabled (r := r.recorded) hbase]

theorem recorded_resolve (r : Resolver σ) (dn label : String) (state : σ) :
    let outcome := r.resolve dn label state
    r.recorded.resolve dn label (state, []) =
      ⟨outcome.result, (outcome.client, r.exchanges dn label state), outcome.events⟩ := by
  cases hbase : r.settings.base with
  | none =>
    rw [exchanges_of_disabled hbase, resolve_of_disabled hbase,
      resolve_of_disabled (r := r.recorded) hbase]
  | some base => rw [exchanges_eq_run hbase, recorded_resolve_eq_run hbase]

/-- Whatever a client answers, and however its answers depend on the queries before, the stack of
frames and the recursion come to the same result with the same exchanges. -/
theorem resolve_eq_search {r : Resolver σ} {base : String} (hbase : r.settings.base = some base)
    (dn label : String) (state : σ) :
    let run := (r.settings.search base r.settings.maxDepth dn label).hold {} r.client state
    let outcome := r.resolve dn label state
    let recorded := r.recorded.resolve dn label (state, [])
    outcome.result =
        run.result.1.map (fun _ => ⟨run.result.2.authorities, run.result.2.stats⟩) ∧
      outcome.client = run.client ∧
      recorded.result = outcome.result ∧
      recorded.client = (run.client, run.exchanges) := by
  intro run outcome recorded
  have houtcome : outcome = .ofRun r.settings.maxDepth run := resolve_eq_ofRun hbase dn label state
  have hclient : outcome.client = run.client := by
    rw [houtcome, Outcome.ofRun_client]
  have hrecorded : recorded = ⟨outcome.result, (outcome.client, run.exchanges), outcome.events⟩ :=
    recorded_resolve_eq_run hbase dn label state
  refine ⟨?_, hclient, ?_, ?_⟩
  · rw [houtcome, Outcome.ofRun_result]
  · rw [hrecorded]
  · rw [hrecorded, hclient]

theorem resolve_eq_search_of_timeout :
    let r : Resolver (List Query.Record) :=
      ⟨(Scripted.mk [.ok [.ofList "cn=a" [("cn", ["a"])]], .error .timeout]).client,
        { GroupSearch.default with base := some "" }⟩
    let recorded := r.recorded.resolve "u" "u" ([], [])
    (r.resolve "u" "u" []).result = .error (.transport .timeout) ∧
      recorded.client.2.map (fun x => (x.query.identity, x.query.label)) =
        [("u", "u"), ("cn=a", "a")] := by
  intro r recorded
  have hbase : r.settings.base = some "" := rfl
  obtain ⟨hresult, -, -, hrecord⟩ := resolve_eq_search hbase "u" "u" []
  rw [hresult, hrecord]
  decide +kernel

end Resolver

end NestedGroups
