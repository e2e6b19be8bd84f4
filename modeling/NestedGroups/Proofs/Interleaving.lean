import Mathlib.Algebra.BigOperators.Group.Finset.Basic
import Mathlib.Algebra.BigOperators.Group.Finset.Piecewise
import Mathlib.Logic.Function.Iterate
import NestedGroups.Proofs.FailStop

namespace NestedGroups

namespace InMemory

variable {α : Type} {d : InMemory}

theorem run_healthy (hd : d.failOn = none) (t : Dialogue α) (journal : Journal) :
    t.run d.client journal =
      let first := t.run d.client []
      ⟨first.result, journal ++ first.client, first.exchanges⟩ := by
  induction t generalizing journal with
  | finish a =>
    rw [Dialogue.run, Dialogue.run]
    simp only [List.append_nil]
  | ask q next ih =>
    rw [run_ask_of_ne (failOn_ne hd _), run_ask_of_ne (failOn_ne hd _),
      ih (.ok (d.answer q)) (journal ++ [q.record]), ih (.ok (d.answer q)) ([] ++ [q.record])]
    simp only [List.nil_append, List.append_assoc]

end InMemory

namespace Dialogue

variable {α : Type} {d : InMemory} {q : Query} {next : Answer → Dialogue α}

def result? : Dialogue α → Option α
  | .finish a => some a
  | .ask _ _ => none

def advance (d : InMemory) : Dialogue α → Dialogue α
  | .finish a => .finish a
  | .ask q next => next (.ok (d.answer q))

def alone (d : InMemory) (t : Dialogue α) : Run InMemory.Journal α :=
  t.run { d with failOn := none }.client []

theorem alone_ask (d : InMemory) (q : Query) (next : Answer → Dialogue α) :
    (ask q next).alone d =
      let rest := (next (.ok (d.answer q))).alone d
      ⟨rest.result, q.record :: rest.client, ⟨q, .ok (d.answer q)⟩ :: rest.exchanges⟩ := by
  have hnone : ({ d with failOn := none } : InMemory).failOn = none := rfl
  rw [alone, InMemory.run_ask_of_ne (InMemory.failOn_ne hnone _), InMemory.run_healthy hnone]
  rfl

theorem alone_advance (t : Dialogue α) :
    ((t.advance d).alone d).result = (t.alone d).result ∧
      ((t.advance d).alone d).client = (t.alone d).client.tail := by
  cases t with
  | finish a => exact ⟨rfl, rfl⟩
  | ask q next =>
    rw [alone_ask]
    exact ⟨rfl, rfl⟩

theorem alone_iterate (t : Dialogue α) (n : Nat) :
    (((advance d)^[n] t).alone d).result = (t.alone d).result ∧
      (((advance d)^[n] t).alone d).client = (t.alone d).client.drop n := by
  induction n with
  | zero => exact ⟨rfl, rfl⟩
  | succ n ih =>
    obtain ⟨hresult, hclient⟩ := alone_advance (d := d) ((advance d)^[n] t)
    rw [Function.iterate_succ_apply', hresult, hclient, ih.1, ih.2, List.tail_drop]
    exact ⟨rfl, rfl⟩

/-- After some turns a dialogue is finished if it asks no more queries than these, and its result is
the one that it has alone. -/
theorem result?_iterate (t : Dialogue α) (n : Nat) :
    ((advance d)^[n] t).result? =
      if (t.alone d).client.length ≤ n then some (t.alone d).result else none := by
  obtain ⟨hresult, hclient⟩ := alone_iterate (d := d) t n
  have hlength : (((advance d)^[n] t).alone d).client.length = (t.alone d).client.length - n := by
    rw [hclient, List.length_drop]
  generalize (advance d)^[n] t = rest at hresult hlength ⊢
  cases rest with
  | finish a =>
    rw [if_pos (Nat.sub_eq_zero_iff_le.1 hlength.symm), ← hresult]
    rfl
  | ask q next =>
    rw [alone_ask, List.length_cons] at hlength
    rw [if_neg (by omega)]
    rfl

theorem take_of_iterate_finish {t : Dialogue α} {n : Nat} {a : α}
    (h : (advance d)^[n] t = .finish a) :
    (t.alone d).client.take (n + 1) = (t.alone d).client.take n := by
  have hdrop := (alone_iterate (d := d) t n).2
  rw [h] at hdrop
  have hle : (t.alone d).client.length ≤ n := List.drop_eq_nil_iff.1 hdrop.symm
  rw [List.take_of_length_le hle, List.take_of_length_le (Nat.le_succ_of_le hle)]

theorem take_of_iterate_ask {t : Dialogue α} {n : Nat} (h : (advance d)^[n] t = .ask q next) :
    (t.alone d).client.take (n + 1) = (t.alone d).client.take n ++ [q.record] := by
  have hdrop := (alone_iterate (d := d) t n).2
  rw [h, alone_ask] at hdrop
  have hget : (t.alone d).client[n]? = some q.record := by
    rw [← List.head?_drop, ← hdrop]
    rfl
  rw [List.take_add_one, hget]
  rfl

variable {t : Dialogue (Except DirectoryError α × Findings)}

theorem Abrupt.advance (h : t.Abrupt) : (t.advance d).Abrupt := by
  cases h with
  | finish a f => exact .finish a f
  | ask q hfail hnext => exact hnext _

theorem Abrupt.iterate (h : t.Abrupt) (n : Nat) : ((Dialogue.advance d)^[n] t).Abrupt := by
  induction n with
  | zero => exact h
  | succ n ih =>
    rw [Function.iterate_succ_apply']
    exact ih.advance

theorem Abrupt.alone_ok (h : t.Abrupt) : ∃ a, (t.alone d).result.1 = .ok a := by
  induction h with
  | finish a f => exact ⟨a, rfl⟩
  | ask q hfail hnext ih =>
    rw [alone_ask]
    exact ih _

end Dialogue

/-- Dialogues that are led side by side. -/
structure Pool (ι α σ : Type) where
  tasks : ι → Dialogue α
  client : σ
  log : List (ι × Query.Record)

namespace Pool

variable {ι α σ : Type} [DecidableEq ι] {c : Client σ} {p : Pool ι α σ} {i j : ι}

def turn (c : Client σ) (p : Pool ι α σ) (i : ι) : Pool ι α σ :=
  match p.tasks i with
  | .finish _ => p
  | .ask q next =>
    let reply := c.search q p.client
    ⟨Function.update p.tasks i (next reply.1), reply.2, p.log ++ [(i, q.record)]⟩

def play (c : Client σ) (p : Pool ι α σ) (schedule : List ι) : Pool ι α σ :=
  schedule.foldl (turn c) p

theorem play_concat (c : Client σ) (p : Pool ι α σ) (schedule : List ι) (i : ι) :
    p.play c (schedule ++ [i]) = (p.play c schedule).turn c i := by
  rw [play, play, List.foldl_append]
  rfl

theorem turn_of_finish {a : α} (h : p.tasks i = .finish a) : p.turn c i = p := by
  rw [turn, h]

theorem turn_of_ask {q : Query} {next : Answer → Dialogue α} (h : p.tasks i = .ask q next) :
    p.turn c i =
      let reply := c.search q p.client
      ⟨Function.update p.tasks i (next reply.1), reply.2, p.log ++ [(i, q.record)]⟩ := by
  rw [turn, h]

end Pool

def own {ι : Type} [DecidableEq ι] (log : List (ι × Query.Record)) (i : ι) :
    List Query.Record :=
  (log.filter (·.1 = i)).map Prod.snd

/-- The query that fails is a query of this participant. -/
def Struck {ι : Type} (d : InMemory) (log : List (ι × Query.Record)) (i : ι) : Prop :=
  ∃ n, d.failOn = some (n + 1) ∧ (log.map Prod.fst)[n]? = some i

section Trace

variable {ι : Type} {d : InMemory} {log : List (ι × Query.Record)} {i j : ι} {q : Query.Record}

theorem struck_concat :
    Struck d (log ++ [(j, q)]) i ↔
      Struck d log i ∨ d.failOn = some (log.length + 1) ∧ j = i := by
  simp only [Struck, List.map_append, List.map_singleton, List.getElem?_append, List.length_map]
  constructor
  · rintro ⟨n, hn, hget⟩
    split at hget
    · exact .inl ⟨n, hn, hget⟩
    · obtain ⟨hlt, hget⟩ := List.getElem?_eq_some_iff.1 hget
      rw [List.length_singleton] at hlt
      obtain rfl : n = log.length := by omega
      rw [List.getElem_singleton] at hget
      exact .inr ⟨hn, hget⟩
  · rintro (⟨n, hn, hget⟩ | ⟨hn, rfl⟩)
    · obtain ⟨hlt, -⟩ := List.getElem?_eq_some_iff.1 hget
      rw [List.length_map] at hlt
      exact ⟨n, hn, by rwa [if_pos hlt]⟩
    · refine ⟨log.length, hn, ?_⟩
      rw [if_neg (Nat.lt_irrefl _), Nat.sub_self]
      rfl

variable [DecidableEq ι]

theorem own_concat :
    own (log ++ [(j, q)]) i = own log i ++ if j = i then [q] else [] := by
  rw [own, List.filter_append, List.map_append, own]
  by_cases h : j = i <;> simp [h]

theorem length_eq_sum_own [Fintype ι] (log : List (ι × Query.Record)) :
    log.length = ∑ i, (own log i).length := by
  induction log using List.reverseRecOn with
  | nil => exact (Finset.sum_const_zero).symm
  | append_singleton log x ih =>
    obtain ⟨j, q⟩ := x
    simp only [own_concat, List.length_append, Finset.sum_add_distrib, ← ih, apply_ite List.length]
    simp

end Trace

/-- How a participant stands after some turns of its own. -/
inductive Standing {ι α : Type} [DecidableEq ι] (d : InMemory)
    (p : Pool ι (Except DirectoryError α × Findings) InMemory.Journal) (i : ι)
    (start : Dialogue (Except DirectoryError α × Findings)) (turns : Nat) : Prop
  | clear (h : ¬ Struck d p.log i) (htask : p.tasks i = (Dialogue.advance d)^[turns] start)
      (hown : own p.log i = (start.alone d).client.take turns)
  | struck {n : Nat} {f : Findings} (h : Struck d p.log i) (hn : d.failOn = some n)
      (htask : p.tasks i = .finish (.error (InMemory.injectedFailure n).asTransport, f))
      (hown : own p.log i <+: (start.alone d).client)

namespace Standing

variable {ι α : Type} [DecidableEq ι] {d : InMemory}
  {p : Pool ι (Except DirectoryError α × Findings) InMemory.Journal} {i j : ι}
  {start : Dialogue (Except DirectoryError α × Findings)} {turns : Nat}

theorem turn_finish {r : Except DirectoryError α × Findings}
    (h : Standing d p i start turns) (hfinish : p.tasks i = .finish r) :
    Standing d p i start (turns + 1) := by
  cases h with
  | struck h hn htask hown => exact .struck h hn htask hown
  | clear h htask hown =>
    rw [hfinish] at htask
    refine .clear h ?_ ?_
    · rw [Function.iterate_succ_apply', ← htask, hfinish]
      rfl
    · rw [hown, Dialogue.take_of_iterate_finish htask.symm]

theorem turn_of_ne (h : Standing d p i start turns) (hne : j ≠ i) :
    Standing d (p.turn d.client j) i start turns := by
  cases hj : p.tasks j with
  | finish a =>
    rw [Pool.turn_of_finish hj]
    exact h
  | ask q next =>
    have hlog : own (p.log ++ [(j, q.record)]) i = own p.log i := by
      rw [own_concat, if_neg hne, List.append_nil]
    have hstruck : Struck d (p.log ++ [(j, q.record)]) i ↔ Struck d p.log i := by
      rw [struck_concat]
      exact or_iff_left fun h => hne h.2
    rw [Pool.turn_of_ask hj]
    cases h with
    | clear h htask hown =>
      refine .clear (mt hstruck.1 h) ?_ (hlog.trans hown)
      exact (Function.update_of_ne hne.symm _ _).trans htask
    | struck h hn htask hown =>
      have hsame := Function.update_of_ne hne.symm (next (d.client.search q p.client).1) p.tasks
      exact .struck (hstruck.2 h) hn (hsame.trans htask) (hlog ▸ hown)

theorem turn_self (h : Standing d p i start turns) (hstart : start.Abrupt)
    (hclient : p.client = p.log.map Prod.snd) :
    Standing d (p.turn d.client i) i start (turns + 1) := by
  have hlength : p.client.length = p.log.length := by rw [hclient, List.length_map]
  cases hi : p.tasks i with
  | finish a =>
    rw [Pool.turn_of_finish hi]
    exact h.turn_finish hi
  | ask q next =>
    cases h with
    | struck h hn htask hown => cases hi.symm.trans htask
    | clear h htask hown =>
      have hiterate := htask.symm.trans hi
      have hlog : own (p.log ++ [(i, q.record)]) i = (start.alone d).client.take (turns + 1) := by
        rw [own_concat, if_pos rfl, hown, Dialogue.take_of_iterate_ask hiterate]
      rw [Pool.turn_of_ask hi]
      by_cases hn : d.failOn = some (p.client.length + 1)
      · have hrest := hstart.iterate (d := d) turns
        rw [hiterate] at hrest
        cases hrest with
        | ask q hfail hnext =>
          obtain ⟨f, hf⟩ := hfail (InMemory.injectedFailure (p.client.length + 1))
          refine .struck (f := f) (struck_concat.2 (.inr ⟨hlength ▸ hn, rfl⟩)) hn ?_ ?_
          · simp only [Function.update_self, InMemory.search_of_eq q hn, hf]
          · exact hlog ▸ List.take_prefix _ _
      · refine .clear ?_ ?_ hlog
        · rw [struck_concat, ← hlength]
          exact not_or.2 ⟨h, fun h => hn h.1⟩
        · simp only [Function.update_self, InMemory.search_of_ne q hn,
            Function.iterate_succ_apply', hiterate, Dialogue.advance]

theorem of_not_struck (h : Standing d p i start turns) (hclear : ¬ Struck d p.log i) :
    own p.log i = (start.alone d).client.take turns ∧
      (p.tasks i).result? =
        if (start.alone d).client.length ≤ turns then some (start.alone d).result else none := by
  cases h with
  | clear h htask hown => exact ⟨hown, htask ▸ Dialogue.result?_iterate start turns⟩
  | struck h hn htask hown => exact (hclear h).elim

theorem of_struck (h : Standing d p i start turns) (hstruck : Struck d p.log i) :
    own p.log i <+: (start.alone d).client ∧
      ∃ n f, d.failOn = some n ∧
        (p.tasks i).result? = some (.error (InMemory.injectedFailure n).asTransport, f) := by
  cases h with
  | clear h htask hown => exact (h hstruck).elim
  | struck h hn htask hown => exact ⟨hown, _, _, hn, by rw [htask, Dialogue.result?]⟩

end Standing

namespace Pool

variable {ι α : Type} [DecidableEq ι] {d : InMemory}

def fresh (tasks : ι → Dialogue α) : Pool ι α InMemory.Journal :=
  ⟨tasks, [], []⟩

theorem turn_client {p : Pool ι α InMemory.Journal} (h : p.client = p.log.map Prod.snd) (i : ι) :
    (p.turn d.client i).client = (p.turn d.client i).log.map Prod.snd := by
  cases hi : p.tasks i with
  | finish a =>
    rw [turn_of_finish hi]
    exact h
  | ask q next =>
    rw [turn_of_ask hi, List.map_append, ← h]
    rfl

theorem play_client (tasks : ι → Dialogue α) (schedule : List ι) :
    let after := (fresh tasks).play d.client schedule
    after.client = after.log.map Prod.snd := by
  induction schedule using List.reverseRecOn with
  | nil => rfl
  | append_singleton schedule i ih =>
    rw [play_concat]
    exact turn_client ih i

theorem standing_play {tasks : ι → Dialogue (Except DirectoryError α × Findings)}
    (htasks : ∀ i, (tasks i).Abrupt) (schedule : List ι) (i : ι) :
    Standing d ((fresh tasks).play d.client schedule) i (tasks i) (schedule.count i) := by
  induction schedule using List.reverseRecOn with
  | nil =>
    refine .clear ?_ rfl rfl
    rintro ⟨n, -, hget⟩
    cases hget
  | append_singleton schedule j ih =>
    rw [play_concat, List.count_append, List.count_singleton]
    by_cases hj : j = i
    · subst hj
      rw [beq_self_eq_true, if_pos rfl]
      exact ih.turn_self (htasks j) (play_client tasks schedule)
    · rw [beq_eq_false_iff_ne.2 hj]
      exact ih.turn_of_ne hj

end Pool

structure Job where
  settings : GroupSearch
  dn : String
  label : String

namespace Job

variable {σ : Type}

def resolve (j : Job) (c : Client σ) (state : σ) : Outcome σ :=
  (Resolver.mk c j.settings).resolve j.dn j.label state

def dialogue (j : Job) : Dialogue (Except DirectoryError Unit × Findings) :=
  match j.settings.base with
  | none => .finish (.ok (), {})
  | some base => (j.settings.search base j.settings.maxDepth j.dn j.label).run.run {}

end Job

def Findings.conclude : Except DirectoryError Unit × Findings → Except DirectoryError Resolution
  | (result, f) => result.map fun _ => ⟨f.authorities, f.stats⟩

namespace Job

variable {σ : Type}

theorem run_dialogue (j : Job) (c : Client σ) (state : σ) :
    let run := j.dialogue.run c state
    Findings.conclude run.result = (j.resolve c state).result ∧
      run.client = (j.resolve c state).client := by
  rw [dialogue, resolve]
  cases hbase : j.settings.base with
  | none =>
    rw [Resolver.resolve_of_disabled hbase]
    exact ⟨rfl, rfl⟩
  | some base =>
    rw [Resolver.resolve_eq_ofRun hbase, Outcome.ofRun_result, Outcome.ofRun_client]
    exact ⟨rfl, rfl⟩

theorem abrupt_dialogue (j : Job) : j.dialogue.Abrupt := by
  rw [dialogue]
  cases j.settings.base with
  | none => exact .finish () {}
  | some base => exact j.settings.abrupt_search base j.settings.maxDepth j.dn j.label {}

end Job

namespace Pool

variable {ι : Type} [DecidableEq ι] [Fintype ι]

/-- Resolutions that share a directory do not notice each other, whatever the order of their
queries. An injected failure strikes the one whose query has its number, and no other. -/
theorem resolve_interleaved (d : InMemory) (jobs : ι → Job) (schedule : List ι) :
    let after := (fresh fun i => (jobs i).dialogue).play d.client schedule
    let result i := (after.tasks i).result?.map Findings.conclude
    let solo i := (jobs i).resolve { d with failOn := none }.client []
    (∀ i (σ : Type) (c : Client σ) (state : σ),
        let run := (jobs i).dialogue.run c state
        Findings.conclude run.result = ((jobs i).resolve c state).result ∧
          run.client = ((jobs i).resolve c state).client) ∧
      after.client = after.log.map Prod.snd ∧
      after.client.length = ∑ i, (own after.log i).length ∧
      (∀ i, ¬ Struck d after.log i →
        own after.log i = (solo i).client.take (schedule.count i) ∧
          result i =
            if (solo i).client.length ≤ schedule.count i then some (solo i).result else none) ∧
      (∀ i, Struck d after.log i →
        own after.log i <+: (solo i).client ∧
          ∃ n, d.failOn = some n ∧
            result i = some (.error (.transport (InMemory.injectedFailure n)))) ∧
      (∀ i, (∃ e, result i = some (.error e)) ↔ Struck d after.log i) ∧
      (d.failOn = none → (∀ i, (result i).isSome) →
        (∀ i, result i = some (solo i).result ∧ own after.log i = (solo i).client) ∧
          after.client.length = ∑ i, (solo i).client.length) := by
  intro after result solo
  have hclient : after.client = after.log.map Prod.snd := play_client _ schedule
  have htotal : after.client.length = ∑ i, (own after.log i).length := by
    rw [hclient, List.length_map, length_eq_sum_own]
  have hstanding (i : ι) :
      Standing d after i (jobs i).dialogue (schedule.count i) :=
    standing_play (fun i => (jobs i).abrupt_dialogue) schedule i
  have halone (i : ι) : Findings.conclude ((jobs i).dialogue.alone d).result = (solo i).result ∧
      ((jobs i).dialogue.alone d).client = (solo i).client :=
    (jobs i).run_dialogue ({ d with failOn := none } : InMemory).client []
  have hclear (i : ι) (h : ¬ Struck d after.log i) :
      own after.log i = (solo i).client.take (schedule.count i) ∧
        result i =
          if (solo i).client.length ≤ schedule.count i then some (solo i).result else none := by
    obtain ⟨hown, htask⟩ := (hstanding i).of_not_struck h
    rw [(halone i).2] at hown htask
    refine ⟨hown, ?_⟩
    rw [show result i = _ from congrArg (Option.map _) htask, ← (halone i).1]
    split <;> rfl
  have hstruck (i : ι) (h : Struck d after.log i) :
      own after.log i <+: (solo i).client ∧
        ∃ n, d.failOn = some n ∧
          result i = some (.error (.transport (InMemory.injectedFailure n))) := by
    obtain ⟨hown, n, f, hn, htask⟩ := (hstanding i).of_struck h
    exact ⟨(halone i).2 ▸ hown, n, hn, congrArg (Option.map _) htask⟩
  refine ⟨fun i σ c state => (jobs i).run_dialogue c state, hclient, htotal, hclear, hstruck,
    fun i => ⟨?_, ?_⟩, fun hd hall => ?_⟩
  · rintro ⟨e, he⟩
    by_contra h
    obtain ⟨a, ha⟩ := (jobs i).abrupt_dialogue.alone_ok (d := d)
    have hresult := (halone i).1
    rw [(hclear i h).2, ← hresult] at he
    split at he
    · rw [Findings.conclude, ha] at he
      cases he
    · cases he
  · intro h
    obtain ⟨-, n, -, hresult⟩ := hstruck i h
    exact ⟨_, hresult⟩
  · have hsolo (i : ι) : result i = some (solo i).result ∧ own after.log i = (solo i).client := by
      have h : ¬ Struck d after.log i := by
        rintro ⟨n, hn, -⟩
        cases hd.symm.trans hn
      obtain ⟨hown, hresult⟩ := hclear i h
      by_cases hle : (solo i).client.length ≤ schedule.count i
      · rw [hresult, hown, if_pos hle, List.take_of_length_le hle]
        exact ⟨rfl, rfl⟩
      · have hsome := hall i
        rw [hresult, if_neg hle] at hsome
        cases hsome
    refine ⟨hsolo, htotal.trans (Finset.sum_congr rfl fun i _ => ?_)⟩
    rw [(hsolo i).2]

/-- The third query fails, which is the second one of the user `v`. -/
theorem resolve_interleaved_of_three :
    let a := Entry.ofList "cn=a" [("cn", ["a"]), ("member", ["u"])]
    let b := Entry.ofList "cn=b" [("cn", ["b"]), ("member", ["cn=a", "v"])]
    let d : InMemory := ⟨[a, b], "member", some 3⟩
    let g : GroupSearch := { GroupSearch.default with base := some "" }
    let jobs : Bool → Job := fun i => if i then ⟨g, "u", "u"⟩ else ⟨g, "v", "v"⟩
    let after := (fresh fun i => (jobs i).dialogue).play d.client [true, false, false, true, true]
    let result i := (after.tasks i).result?.map Findings.conclude
    let solo i := (jobs i).resolve { d with failOn := none }.client []
    result true = some (solo true).result ∧
      result false = some (.error (.transport (InMemory.injectedFailure 3))) := by
  intro a b d g jobs after result solo
  obtain ⟨hrun, -, -, hclear, hstruck, -, -⟩ :=
    resolve_interleaved d jobs [true, false, false, true, true]
  have horder : after.log.map Prod.fst = [true, false, false, true, true] := by
    decide +kernel
  have hsolo : (solo true).client.length ≤ 3 := by
    rw [← (hrun true _ _ _).2]
    decide +kernel
  have htrue : ¬ Struck d after.log true := by
    rintro ⟨n, hn, hget⟩
    cases hn
    rw [horder] at hget
    cases hget
  have hfalse : Struck d after.log false := by
    refine ⟨2, rfl, ?_⟩
    rw [horder]
    rfl
  obtain ⟨-, n, hn, hresult⟩ := hstruck false hfalse
  cases hn
  exact ⟨(hclear true htrue).2.trans (if_pos hsolo), hresult⟩

end Pool

end NestedGroups
