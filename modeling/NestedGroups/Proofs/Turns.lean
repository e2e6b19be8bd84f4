import NestedGroups.Proofs.Recursion

namespace NestedGroups

namespace Resolver

variable {σ : Type}

/-- All that one turn of the loop can do. -/
inductive Turn (r : Resolver σ) (base : String) : List Frame → Progress σ → Step σ → Prop
  | finish (p : Progress σ) : Turn r base [] p .finished
  | close (depth : Nat) (rest : List Frame) (p : Progress σ) :
      Turn r base (⟨[], depth⟩ :: rest) p (.running rest p)
  | cut {e : Entry} {es : List Entry} {depth : Nat} {rest : List Frame} {p : Progress σ}
      {all : AuthoritySet} (hreg : p.authorities.register (r.settings.authorities e) = (all, true)) :
      Turn r base (⟨e :: es, depth⟩ :: rest) p
        (.running (⟨es, depth⟩ :: rest) ({ p with authorities := all }.cut e.dn))
  | exhaust {e : Entry} {es : List Entry} {depth : Nat} {rest : List Frame} {p : Progress σ}
      {all : AuthoritySet} (hreg : p.authorities.register (r.settings.authorities e) = (all, false))
      (hdepth : depth ≤ 1) :
      Turn r base (⟨e :: es, depth⟩ :: rest) p
        (.running (⟨es, depth⟩ :: rest) ({ p with authorities := all }.exhaust e.dn))
  | ask {e : Entry} {es found : List Entry} {depth : Nat} {rest : List Frame} {p q : Progress σ}
      {all : AuthoritySet} (hreg : p.authorities.register (r.settings.authorities e) = (all, false))
      (hask : { p with authorities := all }.ask r.client
        (r.query base e.dn (r.settings.parentLabel e)) (depth + 1) = (.ok found, q)) :
      Turn r base (⟨e :: es, depth + 2⟩ :: rest) p
        (.running (⟨found, depth + 1⟩ :: ⟨es, depth + 2⟩ :: rest) q)
  | fail {e : Entry} {es : List Entry} {depth : Nat} {rest : List Frame} {p q : Progress σ}
      {all : AuthoritySet} {err : DirectoryError}
      (hreg : p.authorities.register (r.settings.authorities e) = (all, false))
      (hask : { p with authorities := all }.ask r.client
        (r.query base e.dn (r.settings.parentLabel e)) (depth + 1) = (.error err, q)) :
      Turn r base (⟨e :: es, depth + 2⟩ :: rest) p (.failed err.asTransport q)

theorem turn_step (r : Resolver σ) (base : String) (stack : List Frame) (p : Progress σ) :
    r.Turn base stack p (r.step base stack p) := by
  rcases stack with _ | ⟨⟨_ | ⟨e, es⟩, depth⟩, rest⟩
  · exact .finish p
  · exact .close depth rest p
  · rw [step, visit]
    rcases hreg : p.authorities.register (r.settings.authorities e) with ⟨all, again⟩
    cases again with
    | true => exact .cut hreg
    | false =>
      rcases depth with _ | _ | depth
      · exact .exhaust hreg (Nat.zero_le 1)
      · exact .exhaust hreg (Nat.le_refl 1)
      · simp only [Bool.false_eq_true, if_false, Nat.add_succ_sub_one, descend]
        split
        · rename_i hask
          exact .fail hreg hask
        · rename_i hask
          exact .ask hreg hask

/-- The loop is in this state when it has made that many turns. -/
inductive Reaches (r : Resolver σ) (base dn label : String) (state : σ) :
    Nat → List Frame → Progress σ → Prop
  | start {depth : Nat} {found : List Entry} {p : Progress σ}
      (hdepth : r.settings.maxDepth = depth + 1)
      (hask : ({ client := state } : Progress σ).ask r.client (r.query base dn label) (depth + 1) =
        (.ok found, p)) :
      Reaches r base dn label state 0 [⟨found, depth + 1⟩] p
  | turn {n : Nat} {stack next : List Frame} {p q : Progress σ}
      (h : Reaches r base dn label state n stack p)
      (hstep : r.step base stack p = .running next q) :
      Reaches r base dn label state (n + 1) next q

inductive Ends (r : Resolver σ) (base dn label : String) (state : σ) : Nat → Outcome σ → Prop
  | shallow (hdepth : r.settings.maxDepth = 0) :
      Ends r base dn label state 0 (({ client := state } : Progress σ).exhaust dn).succeed
  | refused {depth : Nat} {e : DirectoryError} {p : Progress σ}
      (hdepth : r.settings.maxDepth = depth + 1)
      (hask : ({ client := state } : Progress σ).ask r.client (r.query base dn label) (depth + 1) =
        (.error e, p)) :
      Ends r base dn label state 0 (p.fail e.asTransport)
  | finished {n : Nat} {stack : List Frame} {p : Progress σ}
      (h : r.Reaches base dn label state n stack p) (hstep : r.step base stack p = .finished) :
      Ends r base dn label state n p.complete.succeed
  | failed {n : Nat} {stack : List Frame} {p q : Progress σ} {e : DirectoryError}
      (h : r.Reaches base dn label state n stack p) (hstep : r.step base stack p = .failed e q) :
      Ends r base dn label state n (q.fail e)

namespace Reaches

variable {r : Resolver σ} {base dn label : String} {state : σ} {n : Nat} {stack : List Frame}
  {p : Progress σ}

theorem unique {stack' : List Frame} {p' : Progress σ} (h : r.Reaches base dn label state n stack p)
    (h' : r.Reaches base dn label state n stack' p') : stack = stack' ∧ p = p' := by
  induction h generalizing stack' p' with
  | start hdepth hask =>
    cases h' with
    | start hdepth' hask' =>
      cases hdepth.symm.trans hdepth'
      cases hask.symm.trans hask'
      exact ⟨rfl, rfl⟩
  | turn _ hstep ih =>
    cases h' with
    | turn h' hstep' =>
      obtain ⟨rfl, rfl⟩ := ih h'
      cases hstep.symm.trans hstep'
      exact ⟨rfl, rfl⟩

theorem le_of_stops (h : r.Reaches base dn label state n stack p)
    (hstops : ∀ next q, r.step base stack p ≠ .running next q) {m : Nat} {stack' : List Frame}
    {p' : Progress σ} (h' : r.Reaches base dn label state m stack' p') : m ≤ n := by
  induction h' with
  | start => exact Nat.zero_le n
  | @turn m _ _ _ _ h' hstep ih =>
    apply Nat.lt_of_le_of_ne ih
    intro heq
    subst heq
    obtain ⟨rfl, rfl⟩ := h'.unique h
    exact hstops _ _ hstep

/-- What holds at the start of the loop and through each of its turns holds whenever it is
reached. -/
theorem invariant {P : List Frame → Progress σ → Prop}
    (hstart : ∀ {depth found q}, r.settings.maxDepth = depth + 1 →
      ({ client := state } : Progress σ).ask r.client (r.query base dn label) (depth + 1) =
        (.ok found, q) → P [⟨found, depth + 1⟩] q)
    (hturn : ∀ {stack next p q}, r.Turn base stack p (.running next q) → P stack p → P next q)
    (h : r.Reaches base dn label state n stack p) : P stack p := by
  induction h with
  | start hdepth hask => exact hstart hdepth hask
  | @turn _ stack _ p _ _ hstep ih =>
    have hthis := r.turn_step base stack p
    rw [hstep] at hthis
    exact hturn hthis ih

theorem exists_ends (h : r.Reaches base dn label state n stack p) :
    ∃ m, r.Ends base dn label state m (r.loop base stack p) ∧
      ∀ k stack' p', r.Reaches base dn label state k stack' p' → k ≤ m := by
  induction stack using Frame.follows_wf.induction generalizing n p with
  | _ stack ih =>
    rw [loop_eq_proceed]
    cases hstep : r.step base stack p with
    | finished =>
      refine ⟨n, .finished h hstep, fun k stack' p' h' => h.le_of_stops ?_ h'⟩
      simp only [hstep, ne_eq, reduceCtorEq, not_false_eq_true, implies_true]
    | failed e q =>
      refine ⟨n, .failed h hstep, fun k stack' p' h' => h.le_of_stops ?_ h'⟩
      simp only [hstep, ne_eq, reduceCtorEq, not_false_eq_true, implies_true]
    | running next q => exact ih next (step_follows hstep) (h.turn hstep)

end Reaches

theorem Reaches.exists_answer {r : Resolver σ} {base dn label : String} {state : σ} {n : Nat}
    {stack : List Frame} {p : Progress σ} (h : r.Reaches base dn label state n stack p) :
    ∃ depth found q, r.settings.maxDepth = depth + 1 ∧
      ({ client := state } : Progress σ).ask r.client (r.query base dn label) (depth + 1) =
        (.ok found, q) := by
  induction h with
  | start hdepth hask => exact ⟨_, _, _, hdepth, hask⟩
  | turn _ _ ih => exact ih

theorem Reaches.pos {r : Resolver σ} {base dn label : String} {state : σ} {n : Nat}
    {stack : List Frame} {p : Progress σ} (h : r.Reaches base dn label state n stack p) :
    0 < r.settings.maxDepth := by
  obtain ⟨depth, _, _, hdepth, _⟩ := h.exists_answer
  rw [hdepth]
  exact Nat.succ_pos depth

theorem exists_ends {r : Resolver σ} {base : String} (hbase : r.settings.base = some base)
    (dn label : String) (state : σ) :
    ∃ n, r.Ends base dn label state n (r.resolve dn label state) ∧
      ∀ m stack p, r.Reaches base dn label state m stack p → m ≤ n := by
  rw [resolve, hbase]
  cases hdepth : r.settings.maxDepth with
  | zero =>
    refine ⟨0, .shallow hdepth, fun m stack p h => ?_⟩
    obtain ⟨depth, _, _, hdepth', _⟩ := h.exists_answer
    cases hdepth.symm.trans hdepth'
  | succ depth =>
    rcases hask : ({ client := state } : Progress σ).ask r.client (r.query base dn label)
      (depth + 1) with ⟨e | found, p⟩
    · simp only [descend, hask]
      refine ⟨0, .refused hdepth hask, fun m stack p h => ?_⟩
      obtain ⟨depth', _, _, hdepth', hask'⟩ := h.exists_answer
      cases hdepth.symm.trans hdepth'
      cases hask.symm.trans hask'
    · simp only [descend, hask]
      exact (Reaches.start hdepth hask).exists_ends

end Resolver

namespace Frame

/-- The frames of a stack, the top one first: each has the depth that the limit leaves at its
height, and never none. -/
inductive Layered (limit : Nat) : List Frame → Prop
  | nil : Layered limit []
  | cons {frame : Frame} {rest : List Frame} (hdepth : frame.depth + rest.length = limit)
      (hpos : 0 < frame.depth) (hrest : Layered limit rest) : Layered limit (frame :: rest)

namespace Layered

variable {limit : Nat} {stack : List Frame}

theorem length_le (h : Layered limit stack) : stack.length ≤ limit := by
  cases h with
  | nil => exact Nat.zero_le limit
  | cons hdepth hpos _ =>
    rw [List.length_cons]
    omega

theorem depth_eq (h : Layered limit stack) {i : Nat} (hi : i < stack.reverse.length) :
    stack.reverse[i].depth = limit - i ∧ 1 ≤ stack.reverse[i].depth := by
  induction h with
  | nil => cases hi
  | @cons frame rest hdepth hpos _ ih =>
    simp only [List.reverse_cons]
    rw [List.length_reverse, List.length_cons] at hi
    by_cases hlast : i < rest.reverse.length
    · rw [List.getElem_append_left hlast]
      exact ih hlast
    · rw [List.length_reverse] at hlast
      have heq : i = rest.length := by omega
      subst heq
      rw [List.getElem_concat_length (List.length_reverse).symm]
      omega

end Layered

end Frame

namespace Resolver

variable {σ : Type} {r : Resolver σ} {base dn label : String} {state : σ}

theorem Turn.layered {limit : Nat} {stack next : List Frame} {p q : Progress σ}
    (h : r.Turn base stack p (.running next q)) (hstack : Frame.Layered limit stack) :
    Frame.Layered limit next := by
  cases h with
  | close _ rest _ =>
    cases hstack with
    | cons _ _ hrest => exact hrest
  | cut | exhaust =>
    cases hstack with
    | cons hdepth hpos hrest => exact .cons hdepth hpos hrest
  | @ask _ _ _ depth rest =>
    cases hstack with
    | cons hdepth hpos hrest =>
      refine .cons ?_ (Nat.succ_pos depth) (.cons hdepth hpos hrest)
      change depth + 2 + rest.length = limit at hdepth
      change depth + 1 + (rest.length + 1) = limit
      omega

theorem Reaches.layered {n : Nat} {stack : List Frame} {p : Progress σ}
    (h : r.Reaches base dn label state n stack p) : Frame.Layered r.settings.maxDepth stack := by
  apply h.invariant (P := fun stack _ => Frame.Layered r.settings.maxDepth stack)
  · intro depth found q hdepth _
    exact .cons hdepth.symm (Nat.succ_pos depth) .nil
  · intro stack next p q hturn hstack
    exact hturn.layered hstack

/-- Whatever the client answers, the loop ends after some number of turns. Until then no stack is
higher than the limit of depth, and the frame at a height has the depth that is left there, so that
one can always be taken from it. -/
theorem resolve_ends_in_layers (r : Resolver σ) (dn label : String) (state : σ) :
    (r.settings.base = none → r.resolve dn label state = ⟨.ok {}, state, []⟩) ∧
      ∀ base, r.settings.base = some base →
        (∃ n, r.Ends base dn label state n (r.resolve dn label state) ∧
          ∀ m stack p, r.Reaches base dn label state m stack p → m ≤ n) ∧
        ∀ n stack p, r.Reaches base dn label state n stack p →
          stack.length ≤ r.settings.maxDepth ∧
            (∀ i (hi : i < stack.reverse.length),
              stack.reverse[i].depth = r.settings.maxDepth - i ∧ 1 ≤ stack.reverse[i].depth) ∧
            ∀ frame rest, stack = frame :: rest → frame.depth - 1 + 1 = frame.depth := by
  constructor
  · intro hbase
    exact resolve_of_disabled hbase dn label state
  · intro base hbase
    refine ⟨exists_ends hbase dn label state, fun n stack p h => ?_⟩
    refine ⟨h.layered.length_le, fun i hi => h.layered.depth_eq hi, ?_⟩
    intro frame rest hstack
    subst hstack
    cases h.layered with
    | cons _ hpos _ => exact Nat.sub_add_cancel hpos

/-- A client that never gives the same two groups again. -/
theorem resolve_ends_in_layers_of_new_groups :
    let group n := Entry.ofList ("cn=" ++ toString n) [("cn", [toString n])]
    let c : Client Nat := ⟨fun _ n => (.ok [group (2 * n), group (2 * n + 1)], n + 1)⟩
    let r : Resolver Nat := ⟨c, { GroupSearch.default with base := some "", maxDepth := 2 }⟩
    (∃ n, r.Ends "" "u" "u" 0 n (r.resolve "u" "u" 0)) ∧
      ∃ stack p, r.Reaches "" "u" "u" 0 1 stack p ∧
        stack.length = 2 ∧ stack.length ≤ r.settings.maxDepth ∧
        ∀ i (hi : i < stack.reverse.length), stack.reverse[i].depth = 2 - i := by
  intro group c r
  have hreach : r.Reaches "" "u" "u" 0 1
      [⟨[group 2, group 3], 1⟩, ⟨[group 1], 2⟩] _ := .turn (.start rfl rfl) rfl
  obtain ⟨-, hall⟩ := r.resolve_ends_in_layers "u" "u" 0
  obtain ⟨⟨n, hends, -⟩, hstates⟩ := hall "" rfl
  obtain ⟨hlength, hdepth, -⟩ := hstates _ _ _ hreach
  exact ⟨⟨n, hends⟩, _, _, hreach, rfl, hlength, fun i hi => (hdepth i hi).1⟩

end Resolver

end NestedGroups
