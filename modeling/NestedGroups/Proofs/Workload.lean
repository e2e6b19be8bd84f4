import NestedGroups.Directory
import NestedGroups.Proofs.Provenance
import NestedGroups.Proofs.Tally

namespace NestedGroups

/-- The name whose parents are asked for, or would be if there were depth left. -/
def Event.root? : Event → Option String
  | .searching _ _ root _ _ => some root
  | .exhausted root => some root
  | _ => none

theorem countP_le_countP_flatMap {α β : Type} {P : α → Bool} {Q : β → Bool} {f : α → List β}
    {xs : List α} (h : ∀ x ∈ xs, P x = true → ∃ y ∈ f x, Q y = true) :
    xs.countP P ≤ (xs.flatMap f).countP Q := by
  induction xs with
  | nil => exact Nat.le_refl 0
  | cons x xs ih =>
    rw [List.forall_mem_cons] at h
    obtain ⟨hx, hxs⟩ := h
    have hrest := ih hxs
    rw [List.flatMap_cons, List.countP_append]
    by_cases hP : P x = true
    · have hpos : 0 < (f x).countP Q := List.countP_pos_iff.2 (hx hP)
      rw [List.countP_cons_of_pos hP]
      omega
    · rw [List.countP_cons_of_neg hP]
      omega

theorem Explores.roots_eq {g : GroupSearch} {base : String} {depth : Nat} {es : List Entry}
    {f f' : Findings} {visits : List Visit} (h : Explores g base depth es f visits f') :
    f'.events.filterMap Event.root? =
      f.events.filterMap Event.root? ++ (arrivals visits).map (·.dn) := by
  induction h with
  | done => exact (List.append_nil _).symm
  | turn _ _ ih =>
    rw [ih, Findings.cut, List.filterMap_append, arrivals_turn]
    rw [List.filterMap_cons_none rfl, List.filterMap_nil, List.append_nil]
  | stop _ _ ih =>
    rw [ih, Findings.exhaust, List.filterMap_append, List.append_assoc, arrivals_stop]
    rfl
  | search _ _ _ ihInner ih =>
    rw [ih, ihInner, Findings.ask, List.filterMap_append, arrivals_search, arrivals_append,
      List.map_cons, List.map_append, List.append_assoc, List.append_assoc]
    rfl

namespace Tour

variable {g : GroupSearch} {base dn label : String} {limit : Nat} {visits : List Visit}
  {xs : List Exchange} {f : Findings}

/-- The parents of the principal are asked for, and then those of the entries that are not turned
away. -/
theorem roots_eq (h : Tour g base dn label limit visits xs f) :
    f.events.filterMap Event.root? = dn :: (arrivals visits).map (·.dn) := by
  cases h with
  | stop => rfl
  | search hexplored => exact hexplored.roots_eq

theorem keys_sublist (h : Tour g base dn label limit visits xs f) :
    ((arrivals visits).flatMap g.keys).Sublist f.authorities.keys := by
  cases h with
  | stop => exact .slnil
  | search hexplored => exact hexplored.keys_sublist

theorem queries_add_exhausted (h : Tour g base dn label limit visits xs f) :
    f.stats.queries + f.stats.exhausted = 1 + (arrivals visits).length := by
  cases h with
  | stop => rfl
  | search hexplored =>
    rw [hexplored.stats_eq, length_arrivals]
    simp only [Findings.ask]
    omega

theorem exists_answer (h : Tour g base dn label limit visits xs f) {e : Entry}
    (he : e ∈ arrivals visits) : ∃ x ∈ xs, e ∈ x.entries := by
  cases h with
  | stop => cases he
  | search hexplored =>
    have hperm := (hexplored.depthFirst g.mem_keys_empty_iff).perm
    have hentry := hperm.mem_iff.1 (mem_arrivals.1 he).mem_entries
    rw [List.exists_mem_cons_iff]
    exact (List.mem_append.1 hentry).imp_right List.mem_flatMap.1

theorem countP_arrivals_le (h : Tour g base dn label limit visits xs f) {P : Entry → Bool}
    {Q : String × String → Bool}
    (hPQ : ∀ e ∈ arrivals visits, P e = true → ∃ key ∈ g.keys e, Q key = true) :
    (arrivals visits).countP P ≤ f.authorities.keys.countP Q :=
  Nat.le_trans (countP_le_countP_flatMap hPQ) (h.keys_sublist.countP_le)

end Tour

namespace GroupSearch

variable {g : GroupSearch} {e : Entry}

theorem exists_key (h : e.values g.roleAttribute ≠ []) : ∃ key ∈ g.keys e, key.2 = e.dn := by
  obtain ⟨key, hkey⟩ := List.exists_mem_of_ne_nil _ (mt keys_eq_nil_iff.1 h)
  exact ⟨key, hkey, snd_of_mem_keys hkey⟩

end GroupSearch

namespace Resolver

variable {σ : Type}

/-- What is asked is bounded by what is found. The names that the events ask for are the principal's
and those of the entries that are not turned away. Of these entries, those that hold a role are for
every name no more than its authorities. -/
theorem resolve_asks_no_more_than_it_finds {r : Resolver σ} {base : String}
    (hbase : r.settings.base = some base) {dn label : String} {state : σ} {found : Resolution}
    (h : (r.resolve dn label state).result = .ok found) :
    let g := r.settings
    let asked := r.exchanges dn label state
    ∃ visits f, Tour g base dn label g.maxDepth visits asked f ∧
      (∀ visits' f', Tour g base dn label g.maxDepth visits' asked f' → visits' = visits) ∧
      found = ⟨f.authorities, f.stats⟩ ∧
      (r.resolve dn label state).events.filterMap Event.root? =
        dn :: (arrivals visits).map (·.dn) ∧
      found.stats.queries + found.stats.exhausted = 1 + (arrivals visits).length ∧
      (∀ e ∈ arrivals visits, ∃ x ∈ asked, e ∈ x.entries) ∧
      (∀ source,
        (arrivals visits).countP (fun e => e.dn = source ∧ e.values g.roleAttribute ≠ []) ≤
          found.authorities.toList.countP (·.dn = source)) ∧
      ((∀ x ∈ asked, ∀ e ∈ x.entries, e.values g.roleAttribute ≠ []) →
        found.stats.queries + found.stats.exhausted ≤ 1 + found.authorities.size) := by
  intro g asked
  obtain ⟨visits, f, htour, rfl, hevents⟩ := exists_tour hbase h
  refine ⟨visits, f, htour, fun _ _ h => (h.unique htour).1, rfl, ?_, htour.queries_add_exhausted,
    fun e => htour.exists_answer, ?_, ?_⟩
  · rw [hevents, ← htour.roots_eq]
    split
    · rfl
    · rw [Findings.complete, List.filterMap_append]
      exact List.append_nil _
  · intro source
    have hcount := htour.countP_arrivals_le
      (P := fun e => e.dn = source ∧ e.values g.roleAttribute ≠ [])
      (Q := fun key => key.2 = source) ?_
    · rwa [AuthoritySet.keys, List.countP_map] at hcount
    · intro e _ he
      obtain ⟨hdn, hvalues⟩ := of_decide_eq_true he
      obtain ⟨key, hkey, hsource⟩ := GroupSearch.exists_key hvalues
      exact ⟨key, hkey, decide_eq_true (hsource.trans hdn)⟩
  · intro hroles
    have hcount := htour.countP_arrivals_le (P := fun _ => true) (Q := fun _ => true) ?_
    · rw [List.countP_true, List.countP_true, AuthoritySet.keys, List.length_map] at hcount
      rw [htour.queries_add_exhausted]
      exact Nat.add_le_add_left hcount 1
    · intro e he _
      obtain ⟨x, hx, hmem⟩ := htour.exists_answer he
      obtain ⟨key, hkey, -⟩ := GroupSearch.exists_key (hroles x hx e hmem)
      exact ⟨key, hkey, rfl⟩

/-- Two entries under one name, the second of which is left for want of depth. -/
theorem resolve_asks_no_more_than_it_finds_of_one_name :
    let a := Entry.ofList "cn=a" [("cn", ["a"])]
    let a' := Entry.ofList "cn=a" [("cn", ["z", "y"])]
    let r : Resolver (List Query.Record) :=
      ⟨(Scripted.mk [.ok [a], .ok [a']]).client,
        { GroupSearch.default with base := some "", maxDepth := 2 }⟩
    let outcome := r.resolve "u" "u" []
    ∃ found, outcome.result = .ok found ∧ found.stats = { queries := 2, exhausted := 1 } ∧
      found.authorities.toList.countP (·.dn = "cn=a") = 3 ∧
      outcome.events.filterMap Event.root? = ["u", "cn=a", "cn=a"] ∧
      ∃ visits, (arrivals visits).map (·.dn) = ["cn=a", "cn=a"] ∧
        (arrivals visits).countP (fun e => e.dn = "cn=a" ∧ e.values "cn" ≠ []) ≤ 3 := by
  intro a a' r outcome
  have hbase : r.settings.base = some "" := rfl
  have houtcome : outcome = _ := resolve_eq_ofRun hbase "u" "u" []
  have hresult : outcome.result.toOption.map (fun found =>
      (found.stats, found.authorities.toList.countP (·.dn = "cn=a"))) =
        some ({ queries := 2, exhausted := 1 }, 3) := by
    rw [houtcome]
    decide +kernel
  have hroots : outcome.events.filterMap Event.root? = ["u", "cn=a", "cn=a"] := by
    rw [houtcome]
    decide +kernel
  rcases hfound : outcome.result with e | found
  · rw [hfound] at hresult
    cases hresult
  rw [hfound] at hresult
  obtain ⟨hstats, hcount⟩ := Prod.mk.inj (Option.some.inj hresult)
  obtain ⟨visits, f, -, -, -, hevents, -, -, hle, -⟩ :=
    resolve_asks_no_more_than_it_finds hbase hfound
  refine ⟨found, rfl, hstats, hcount, hroots, visits, ?_, ?_⟩
  · exact (List.cons.inj (hevents.symm.trans hroots)).2
  · have hname := hle "cn=a"
    rw [hcount] at hname
    exact hname

end Resolver

end NestedGroups
