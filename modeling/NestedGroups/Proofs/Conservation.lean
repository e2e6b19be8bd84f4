import Mathlib.Algebra.GroupWithZero.Nat
import NestedGroups.Proofs.Provenance
import NestedGroups.Proofs.Turns

namespace NestedGroups

namespace Event

def isSearching : Event → Bool
  | .searching .. => true
  | _ => false

def isExhausted : Event → Bool
  | .exhausted _ => true
  | _ => false

def isCycle : Event → Bool
  | .cycle _ => true
  | _ => false

def isComplete : Event → Bool
  | .complete .. => true
  | _ => false

end Event

def Stats.count (s : Stats) : Event → Stats
  | .searching .. => { s with queries := s.queries + 1 }
  | .exhausted _ => { s with exhausted := s.exhausted + 1 }
  | .cycle _ => { s with cycles := s.cycles + 1 }
  | _ => s

/-- Every count has its event, and nothing is complete yet. -/
structure Tallied (events : List Event) (stats : Stats) : Prop where
  queries : events.countP Event.isSearching = stats.queries
  exhausted : events.countP Event.isExhausted = stats.exhausted
  cycles : events.countP Event.isCycle = stats.cycles
  unfinished : ∀ e ∈ events, e.isComplete = false

theorem Tallied.nil : Tallied [] {} :=
  ⟨rfl, rfl, rfl, List.forall_mem_nil _⟩

theorem Tallied.concat {events : List Event} {stats : Stats} (h : Tallied events stats) {e : Event}
    (he : e.isComplete = false) : Tallied (events ++ [e]) (stats.count e) := by
  obtain ⟨hqueries, hexhausted, hcycles, hunfinished⟩ := h
  constructor
  · rw [List.countP_append, hqueries]
    cases e <;> rfl
  · rw [List.countP_append, hexhausted]
    cases e <;> rfl
  · rw [List.countP_append, hcycles]
    cases e <;> rfl
  · rw [List.forall_mem_append, List.forall_mem_singleton]
    exact ⟨hunfinished, he⟩

theorem Tallied.count_complete {events : List Event} {stats : Stats} (h : Tallied events stats)
    (authorities : Nat) :
    (events ++ [Event.complete authorities stats]).countP Event.isSearching = stats.queries ∧
      (events ++ [Event.complete authorities stats]).countP Event.isExhausted = stats.exhausted ∧
      (events ++ [Event.complete authorities stats]).countP Event.isCycle = stats.cycles := by
  rw [List.countP_append, List.countP_append, List.countP_append]
  exact ⟨h.queries, h.exhausted, h.cycles⟩

def unread (stack : List Frame) : Nat :=
  (stack.map (·.entries.length)).sum

theorem unread_cons (frame : Frame) (rest : List Frame) :
    unread (frame :: rest) = frame.entries.length + unread rest := by
  rw [unread, List.map_cons, List.sum_cons]
  rfl

def received (xs : List Exchange) : Nat :=
  (xs.map (·.entries.length)).sum

theorem received_concat (xs : List Exchange) (x : Exchange) :
    received (xs ++ [x]) = received xs + x.entries.length := by
  rw [received, List.map_append, List.sum_append]
  rfl

/-- Every query is on record, and every entry on record is unread or counted; the one that is over
is the principal, who is in no answer. -/
structure Balanced {σ : Type} (stack : List Frame) (p : Progress (σ × List Exchange)) : Prop where
  queries : p.stats.queries = p.client.2.length
  branches : p.stats.queries + p.stats.exhausted + p.stats.cycles + unread stack =
    1 + received p.client.2

theorem Progress.of_recorded_ask {σ : Type} {p q : Progress (σ × List Exchange)} {c : Client σ}
    {x : Query} {depth : Nat} {answer : Answer} (h : p.ask c.recorded x depth = (answer, q)) :
    q.client.2 = p.client.2 ++ [⟨x, answer⟩] ∧
      q.stats = { p.stats with queries := p.stats.queries + 1 } := by
  obtain ⟨rfl, rfl⟩ := Prod.mk.inj h
  exact ⟨rfl, rfl⟩

namespace Resolver

variable {σ : Type} {r : Resolver σ} {base dn label : String} {state : σ}

theorem Turn.tallied {stack next : List Frame} {p q : Progress σ}
    (h : r.Turn base stack p (.running next q)) (hp : Tallied p.events p.stats) :
    Tallied q.events q.stats := by
  cases h with
  | close => exact hp
  | cut => exact hp.concat rfl
  | exhaust => exact hp.concat rfl
  | ask _ hask =>
    obtain ⟨-, rfl⟩ := Prod.mk.inj hask
    exact hp.concat rfl

theorem Reaches.tallied {n : Nat} {stack : List Frame} {p : Progress σ}
    (h : r.Reaches base dn label state n stack p) : Tallied p.events p.stats := by
  apply h.invariant (P := fun _ p => Tallied p.events p.stats)
  · intro depth found q _ hask
    obtain ⟨-, rfl⟩ := Prod.mk.inj hask
    exact Tallied.nil.concat rfl
  · intro stack next p q hturn hp
    exact hturn.tallied hp

theorem Turn.balanced {stack next : List Frame} {p q : Progress (σ × List Exchange)}
    (h : r.recorded.Turn base stack p (.running next q)) (hp : Balanced stack p) :
    Balanced next q := by
  obtain ⟨hqueries, hbranches⟩ := hp
  cases h with
  | close =>
    simp only [unread_cons, List.length_nil, Nat.zero_add] at hbranches
    exact ⟨hqueries, hbranches⟩
  | @cut e es =>
    simp only [unread_cons, List.length_cons] at hbranches
    refine ⟨hqueries, ?_⟩
    simp only [Progress.cut, unread_cons]
    omega
  | @exhaust e es =>
    simp only [unread_cons, List.length_cons] at hbranches
    refine ⟨hqueries, ?_⟩
    simp only [Progress.exhaust, unread_cons]
    omega
  | ask _ hask =>
    obtain ⟨hrecord, hstats⟩ := Progress.of_recorded_ask hask
    simp only [unread_cons, List.length_cons] at hbranches
    constructor
    · rw [hrecord, hstats, List.length_append, hqueries]
      rfl
    · rw [hrecord, hstats, received_concat, Exchange.entries_ok]
      simp only [unread_cons]
      omega

theorem Reaches.balanced {n : Nat} {stack : List Frame} {p : Progress (σ × List Exchange)}
    (h : r.recorded.Reaches base dn label (state, []) n stack p) : Balanced stack p := by
  apply h.invariant (P := Balanced)
  · intro depth found q _ hask
    obtain ⟨hrecord, hstats⟩ := Progress.of_recorded_ask hask
    constructor
    · rw [hrecord, hstats]
      rfl
    · rw [hrecord, hstats, received_concat, Exchange.entries_ok]
      exact Nat.add_left_cancel_iff.2 (Nat.add_comm _ _)
  · intro stack next p q hturn hp
    exact hturn.balanced hp

theorem Turn.tallied_of_failed {stack : List Frame} {p q : Progress σ} {e : DirectoryError}
    (h : r.Turn base stack p (.failed e q)) (hp : Tallied p.events p.stats) :
    Tallied q.events q.stats := by
  cases h with
  | fail _ hask =>
    obtain ⟨-, rfl⟩ := Prod.mk.inj hask
    exact hp.concat rfl

theorem Turn.eq_nil {stack : List Frame} {p : Progress σ} (h : r.Turn base stack p .finished) :
    stack = [] := by
  cases h
  rfl

namespace Ends

variable {n : Nat}

theorem tallied {outcome : Outcome σ} (h : r.Ends base dn label state n outcome) :
    (∃ found before, outcome.result = .ok found ∧ 0 < r.settings.maxDepth ∧
        outcome.events = before ++ [.complete found.authorities.size found.stats] ∧
        Tallied before found.stats) ∨
      (∃ found, outcome.result = .ok found ∧ r.settings.maxDepth = 0 ∧
        Tallied outcome.events found.stats) ∨
      ∃ e, outcome.result = .error e ∧ ∀ e ∈ outcome.events, e.isComplete = false := by
  cases h with
  | shallow hdepth => exact .inr (.inl ⟨_, rfl, hdepth, Tallied.nil.concat rfl⟩)
  | refused _ hask =>
    obtain ⟨-, rfl⟩ := Prod.mk.inj hask
    exact .inr (.inr ⟨_, rfl, (Tallied.nil.concat rfl).unfinished⟩)
  | finished h => exact .inl ⟨_, _, rfl, h.pos, rfl, h.tallied⟩
  | @failed _ stack p q e h hstep =>
    have hturn := r.turn_step base stack p
    rw [hstep] at hturn
    exact .inr (.inr ⟨e, rfl, (hturn.tallied_of_failed h.tallied).unfinished⟩)

theorem balanced {outcome : Outcome (σ × List Exchange)}
    (h : r.recorded.Ends base dn label (state, []) n outcome) {found : Resolution}
    (hfound : outcome.result = .ok found) :
    found.stats.queries = outcome.client.2.length ∧
      found.stats.queries + found.stats.exhausted + found.stats.cycles =
        1 + received outcome.client.2 := by
  cases h with
  | shallow =>
    cases hfound
    exact ⟨rfl, rfl⟩
  | refused => cases hfound
  | @finished _ stack p h hstep =>
    cases hfound
    have hturn := r.recorded.turn_step base stack p
    rw [hstep] at hturn
    have hempty := hturn.eq_nil
    subst hempty
    exact ⟨h.balanced.queries, h.balanced.branches⟩
  | failed => cases hfound

end Ends

/-- What a resolution that succeeds has counted: its queries are those of its client, each count has
its event, and every entry that the client gave has been counted once, as has the principal. -/
structure Balances (r : Resolver σ) (dn label : String) (state : σ) (stats : Stats) : Prop where
  queries : stats.queries = (r.exchanges dn label state).length
  searching : (r.resolve dn label state).events.countP Event.isSearching = stats.queries
  exhausted : (r.resolve dn label state).events.countP Event.isExhausted = stats.exhausted
  cycles : (r.resolve dn label state).events.countP Event.isCycle = stats.cycles
  branches : r.settings.isEnabled →
    stats.queries + stats.exhausted + stats.cycles = 1 + received (r.exchanges dn label state)

theorem count_events {found : Resolution} (hfound : (r.resolve dn label state).result = .ok found) :
    (r.resolve dn label state).events.countP Event.isSearching = found.stats.queries ∧
      (r.resolve dn label state).events.countP Event.isExhausted = found.stats.exhausted ∧
      (r.resolve dn label state).events.countP Event.isCycle = found.stats.cycles := by
  cases hbase : r.settings.base with
  | none =>
    rw [resolve_of_disabled hbase] at hfound ⊢
    cases hfound
    exact ⟨rfl, rfl, rfl⟩
  | some base =>
    obtain ⟨n, hends, -⟩ := exists_ends hbase dn label state
    rcases hends.tallied with ⟨found', before, hresult, -, hevents, htallied⟩ |
      ⟨found', hresult, -, htallied⟩ | ⟨e, hresult, -⟩
    · cases hfound.symm.trans hresult
      rw [hevents]
      exact htallied.count_complete _
    · cases hfound.symm.trans hresult
      exact ⟨htallied.queries, htallied.exhausted, htallied.cycles⟩
    · cases hfound.symm.trans hresult

theorem balances {found : Resolution} (hfound : (r.resolve dn label state).result = .ok found) :
    r.Balances dn label state found.stats := by
  obtain ⟨hsearching, hexhausted, hcycles⟩ := count_events hfound
  cases hbase : r.settings.base with
  | none =>
    have hqueries : found.stats.queries = (r.exchanges dn label state).length := by
      rw [resolve_of_disabled hbase] at hfound
      cases hfound
      rw [exchanges_of_disabled hbase]
      rfl
    refine ⟨hqueries, hsearching, hexhausted, hcycles, fun henabled => ?_⟩
    rw [GroupSearch.isEnabled, hbase] at henabled
    cases henabled
  | some base =>
    obtain ⟨n, hends, -⟩ := exists_ends (r := r.recorded) hbase dn label (state, [])
    have hrecorded := congrArg Outcome.result (r.recorded_resolve dn label state)
    obtain ⟨hqueries, hbranches⟩ := hends.balanced (hrecorded.trans hfound)
    exact ⟨hqueries, hsearching, hexhausted, hcycles, fun _ => hbranches⟩

theorem complete_events (r : Resolver σ) (dn label : String) (state : σ) :
    (∀ found, (r.resolve dn label state).result = .ok found → r.settings.isEnabled →
      0 < r.settings.maxDepth →
        ∃ before, (∀ e ∈ before, e.isComplete = false) ∧ (r.resolve dn label state).events =
          before ++ [.complete found.authorities.size found.stats]) ∧
    ((∀ found, (r.resolve dn label state).result = .ok found → r.settings.isEnabled →
      r.settings.maxDepth = 0) → ∀ e ∈ (r.resolve dn label state).events, e.isComplete = false) := by
  cases hbase : r.settings.base with
  | none =>
    rw [resolve_of_disabled hbase]
    refine ⟨fun _ _ henabled => ?_, fun _ => List.forall_mem_nil _⟩
    rw [GroupSearch.isEnabled, hbase] at henabled
    cases henabled
  | some base =>
    have henabled : r.settings.isEnabled := by
      rw [GroupSearch.isEnabled, hbase]
      rfl
    obtain ⟨n, hends, -⟩ := exists_ends hbase dn label state
    rcases hends.tallied with ⟨found, before, hresult, hdepth, hevents, htallied⟩ |
      ⟨found, hresult, hdepth, htallied⟩ | ⟨e, hresult, hunfinished⟩
    · constructor
      · intro found' hfound' _ _
        cases hfound'.symm.trans hresult
        exact ⟨before, htallied.unfinished, hevents⟩
      · intro hshallow
        have hzero := hshallow found hresult henabled
        omega
    · constructor
      · intro _ _ _ hpos
        omega
      · intro _
        exact htallied.unfinished
    · constructor
      · intro found hfound
        cases hfound.symm.trans hresult
      · intro _
        exact hunfinished

end Resolver

end NestedGroups
