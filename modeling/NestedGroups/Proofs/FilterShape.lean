import Mathlib.Data.List.Infix
import NestedGroups.Directory
import NestedGroups.Proofs.Recursion
import NestedGroups.Proofs.Segmentation

namespace NestedGroups

def Step.Leaves {σ : Type} (P : σ → Prop) : Step σ → Prop
  | .finished => True
  | .failed _ p => P p.client
  | .running _ p => P p.client

namespace Resolver

variable {σ : Type} {r : Resolver σ} {base : String} {P : σ → Prop}

/-- A property of the client's state that no query of the resolver destroys. -/
def Keeps (r : Resolver σ) (base : String) (P : σ → Prop) : Prop :=
  ∀ root label s, P s → P (r.client.search (r.query base root label) s).2

theorem Keeps.descend (h : r.Keeps base P) {root label : String} {depth : Nat}
    {stack : List Frame} {p : Progress σ} (hp : P p.client) :
    (r.descend base root label depth stack p).Leaves P := by
  cases depth with
  | zero => exact hp
  | succ depth =>
    have hquery := h root label p.client hp
    rw [Resolver.descend, Progress.ask]
    generalize r.client.search (r.query base root label) p.client = reply at hquery
    rcases reply with ⟨e | found, s⟩
    · exact hquery
    · exact hquery

theorem Keeps.step (h : r.Keeps base P) {stack : List Frame} {p : Progress σ}
    (hp : P p.client) : (r.step base stack p).Leaves P := by
  match stack with
  | [] => trivial
  | ⟨[], _⟩ :: rest => exact hp
  | ⟨e :: es, depth⟩ :: rest =>
    rw [Resolver.step, visit]
    rcases p.authorities.register (r.settings.authorities e) with ⟨found, again⟩
    cases again with
    | true => exact hp
    | false => exact h.descend hp

theorem Keeps.loop (h : r.Keeps base P) {stack : List Frame} {p : Progress σ}
    (hp : P p.client) : P (r.loop base stack p).client := by
  induction stack using Frame.follows_wf.induction generalizing p with
  | _ stack ih =>
    have hstep : (r.step base stack p).Leaves P := h.step hp
    rw [loop_eq_proceed]
    cases hnext : r.step base stack p with
    | finished => exact hp
    | failed e q =>
      rw [hnext] at hstep
      exact hstep
    | running next q =>
      rw [hnext] at hstep
      exact ih next (step_follows hnext) hstep

theorem Keeps.resolve (h : ∀ base, r.settings.base = some base → r.Keeps base P)
    {dn label : String} {state : σ} (hstate : P state) : P (r.resolve dn label state).client := by
  rw [Resolver.resolve]
  split
  · exact hstate
  · exact hstate
  · rename_i base depth hbase _
    have hfirst : (r.descend base dn label (depth + 1) [] { client := state }).Leaves P :=
      (h base hbase).descend hstate
    split
    · exact hstate
    · rename_i hnext
      rw [hnext] at hfirst
      exact hfirst
    · rename_i hnext
      rw [hnext] at hfirst
      exact (h base hbase).loop hfirst

end Resolver

namespace Filter

def isStructural (c : Char) : Bool :=
  c == '(' || c == ')' || c == '*' || c == '\x00'

def shape (cs : List Char) : List Char :=
  cs.filter isStructural

/-- No part at the beginning closes more parentheses than it opens, and all are closed. -/
structure Balanced (cs : List Char) : Prop where
  closed_le : ∀ start, start <+: cs → start.count ')' ≤ start.count '('
  closed_eq : cs.count ')' = cs.count '('

theorem forall_isPrefix_cons {P : List Char → Prop} {c : Char} {cs : List Char} :
    (∀ start, start <+: c :: cs → P start) ↔ P [] ∧ ∀ start, start <+: cs → P (c :: start) := by
  constructor
  · intro h
    refine ⟨h [] List.nil_prefix, fun start hstart => h _ ?_⟩
    exact List.cons_prefix_cons.2 ⟨rfl, hstart⟩
  · rintro ⟨hnil, hcons⟩ start hstart
    rcases List.prefix_cons_iff.1 hstart with rfl | ⟨rest, rfl, hrest⟩
    · exact hnil
    · exact hcons rest hrest

theorem parenFault?_cons (depth : Nat) (c : Char) (cs : List Char) :
    parenFault? depth (c :: cs) =
      if c = '(' then parenFault? (depth + 1) cs
      else if c = ')' then
        match depth with
        | 0 => some .strayClose
        | depth + 1 => parenFault? depth cs
      else parenFault? depth cs := by
  cases depth <;> rfl

theorem parenFault?_eq_none_iff {depth : Nat} {cs : List Char} :
    parenFault? depth cs = none ↔
      (∀ start, start <+: cs → start.count ')' ≤ depth + start.count '(') ∧
        cs.count ')' = depth + cs.count '(' := by
  induction cs generalizing depth with
  | nil => cases depth <;> simp [parenFault?]
  | cons c cs ih =>
    rw [parenFault?_cons, forall_isPrefix_cons]
    by_cases hopen : c = '('
    · subst hopen
      rw [if_pos rfl, ih]
      simp [Nat.add_right_comm, Nat.add_assoc]
    · rw [if_neg hopen]
      by_cases hclose : c = ')'
      · subst hclose
        rw [if_pos rfl]
        cases depth with
        | zero =>
          refine iff_of_false (fun h => by cases h) ?_
          rintro ⟨⟨-, hle⟩, -⟩
          exact absurd (hle [] List.nil_prefix) (by decide)
        | succ depth =>
          rw [ih]
          simp [Nat.add_right_comm]
      · rw [if_neg hclose, ih]
        simp [List.count_cons_of_ne, hopen, hclose]

theorem count_shape {c : Char} (hc : isStructural c = true) (cs : List Char) :
    (shape cs).count c = cs.count c :=
  List.count_filter hc

theorem balanced_shape_iff {cs : List Char} : Balanced (shape cs) ↔ Balanced cs := by
  have hopen := count_shape (c := '(') (by decide)
  have hclose := count_shape (c := ')') (by decide)
  constructor
  · rintro ⟨hle, heq⟩
    refine ⟨fun start hstart => ?_, ?_⟩
    · have h := hle (shape start) (hstart.filter isStructural)
      rwa [hopen, hclose] at h
    · rwa [hopen, hclose] at heq
  · rintro ⟨hle, heq⟩
    refine ⟨fun start hstart => ?_, ?_⟩
    · obtain ⟨start', hstart', rfl⟩ := List.prefix_filter_iff.1 hstart
      have h := hle start' hstart'
      rwa [← hopen, ← hclose] at h
    · rwa [hopen, hclose]

theorem shape_escapeChar (c : Char) : shape (escapeChar c) = [] := by
  rw [escapeChar.eq_def]
  split
  all_goals try rfl
  rename_i hstar hopen hclose hzero
  have hplain : isStructural c = false := by
    rw [isStructural, beq_false_of_ne hopen, beq_false_of_ne hclose, beq_false_of_ne hstar,
      beq_false_of_ne hzero]
    rfl
  rw [shape, List.filter_cons, hplain]
  rfl

theorem shape_escape (cs : List Char) : shape (escape cs) = [] := by
  rw [shape, escape, List.filter_flatMap, List.flatMap_eq_nil_iff]
  exact fun c _ => shape_escapeChar c

theorem shape_of_isNumeral {digits : List Char} (h : Text.isNumeral digits = true) :
    shape digits = [] := by
  rw [shape, List.filter_eq_nil_iff]
  intro c hc hstructural
  simp only [isStructural, Bool.or_eq_true, beq_iff_eq] at hstructural
  refine Text.not_mem_of_isNumeral h ?_ hc
  rcases hstructural with ((rfl | rfl) | rfl) | rfl <;> decide

/-- A value takes the place of a placeholder without leaving a trace in the shape. -/
theorem Segment.shape_render (s : Segment) (identity label : List Char) :
    shape (s.render identity label) = shape s.source := by
  cases s with
  | literal text => rfl
  | braced token =>
    rw [render]
    cases hslot : slot? token with
    | none => rfl
    | some slot =>
      have hnum : Text.isNumeral token = true := by
        by_contra hnum
        rw [slot?, Text.numeral?, if_neg hnum] at hslot
        cases hslot
      have hsource : shape (source (.braced token)) = [] := by
        rw [shape, source, List.filter_append, List.filter_cons, ← shape,
          shape_of_isNumeral hnum]
        rfl
      rw [hsource]
      cases slot with
      | identity => exact shape_escape identity
      | label => exact shape_escape label

namespace Template

theorem shape_render (t : Template) (identity label : String) :
    shape (t.render identity label).toList = shape t.text.toList := by
  have hsource := flatMap_source_segments t.text.toList
  rw [render, String.toList_ofList, shape, List.filter_flatMap]
  rw [← hsource, shape, List.filter_flatMap, hsource]
  exact List.flatMap_congr fun s _ => s.shape_render _ _

theorem balanced (t : Template) : Balanced t.text.toList := by
  have h := t.faultless
  rw [Filter.fault?] at h
  split at h
  · cases h
  · obtain ⟨hparen, -⟩ := Option.or_eq_none_iff.1 h
    obtain ⟨hle, heq⟩ := parenFault?_eq_none_iff.1 hparen
    simp only [Nat.zero_add] at hle heq
    exact ⟨hle, heq⟩

theorem balanced_render (t : Template) (identity label : String) :
    Balanced (t.render identity label).toList := by
  rw [← balanced_shape_iff, shape_render, balanced_shape_iff]
  exact t.balanced

end Template

end Filter

theorem InMemory.exists_recorded (d : InMemory) (g : GroupSearch) (dn label : String)
    (journal : Journal) :
    ∃ new, ((Resolver.mk d.client g).resolve dn label journal).client = journal ++ new ∧
      ∀ q ∈ new, q.filter = g.filter.render q.identity q.label := by
  have hkeeps (base : String) : (Resolver.mk d.client g).Keeps base fun state =>
      ∃ new, state = journal ++ new ∧ ∀ q ∈ new, q.filter = g.filter.render q.identity q.label := by
    rintro root label _ ⟨new, rfl, hnew⟩
    refine ⟨new ++ [(g.query base root label).record], ?_, ?_⟩
    · rw [← List.append_assoc]
      rfl
    · rw [List.forall_mem_append, List.forall_mem_singleton]
      exact ⟨hnew, rfl⟩
  exact Resolver.Keeps.resolve (fun base _ => hkeeps base)
    ⟨[], (List.append_nil journal).symm, List.forall_mem_nil _⟩

namespace Filter.Template

/-- Values never change the shape of a filter, and neither do the names and labels that a directory
answers with, from which the later filters of a resolution are made. -/
theorem shape_eq_of_parse {text : String} {t : Template} (h : parse text = .ok t) :
    (∀ identity label : String, shape (t.render identity label).toList = shape text.toList ∧
      Balanced (t.render identity label).toList) ∧
    ∀ (d : InMemory) (g : GroupSearch) (dn label : String) (journal : InMemory.Journal),
      g.filter = t →
        ∃ new, ((Resolver.mk d.client g).resolve dn label journal).client = journal ++ new ∧
          ∀ q ∈ new, q.filter = t.render q.identity q.label ∧
            shape q.filter.toList = shape text.toList ∧ Balanced q.filter.toList := by
  obtain rfl := parse_eq_ok_iff.1 h
  refine ⟨fun identity label => ⟨t.shape_render _ _, t.balanced_render _ _⟩, ?_⟩
  rintro d g dn label journal rfl
  obtain ⟨new, hclient, hnew⟩ := d.exists_recorded g dn label journal
  refine ⟨new, hclient, fun q hq => ⟨hnew q hq, ?_⟩⟩
  rw [hnew q hq]
  exact ⟨g.filter.shape_render _ _, g.filter.balanced_render _ _⟩

theorem shape_eq_of_hostile_names :
    let text := "(&(member=\x7b0\x7d)(cn=*))"
    let e := Entry.ofList "cn=*)(o=*" [("cn", ["x)(|"]), ("member", ["u"])]
    let d : InMemory := ⟨[e], "member", none⟩
    ∃ t g, parse text = .ok t ∧ g.filter = t ∧
      ∃ new, ((Resolver.mk d.client g).resolve "u" "u" []).client = [] ++ new ∧
        new.map (·.filter) =
          ["(&(member=u)(cn=*))", "(&(member=cn=\\2a\\29\\28o=\\2a)(cn=*))"] ∧
        ∀ q ∈ new, shape q.filter.toList = ['(', '(', ')', '(', '*', ')', ')'] := by
  intro text e d
  let t : Template := ⟨text, by decide +kernel⟩
  let g : GroupSearch := { GroupSearch.default with base := some "", filter := t }
  have ht : parse text = .ok t := parse_text t
  obtain ⟨-, hrun⟩ := shape_eq_of_parse ht
  obtain ⟨new, hclient, hnew⟩ := hrun d g "u" "u" [] rfl
  refine ⟨t, g, ht, rfl, new, hclient, ?_, fun q hq => ?_⟩
  · rw [List.nil_append] at hclient
    rw [← hclient, Resolver.resolve_eq_ofRun rfl, Outcome.ofRun_client]
    decide +kernel
  · have hshape := (hnew q hq).2.1
    rw [hshape]
    decide +kernel

end Filter.Template

end NestedGroups
