import Mathlib.Data.List.Forall2
import NestedGroups.Proofs.Recursion

namespace NestedGroups

variable {σ σ' : Type}

structure Frame.Coupled (R : Entry → Entry → Prop) (frame frame' : Frame) : Prop where
  depth : frame'.depth = frame.depth
  entries : List.Forall₂ R frame.entries frame'.entries

inductive Answer.Coupled (I : Progress σ → Progress σ' → Prop) (R : Entry → Entry → Prop) :
    Answer × Progress σ → Answer × Progress σ' → Prop
  | failed (e : DirectoryError) {p : Progress σ} {p' : Progress σ'} (hp : I p p') :
      Coupled I R (.error e, p) (.error e, p')
  | found {found found' : List Entry} {p : Progress σ} {p' : Progress σ'}
      (hfound : List.Forall₂ R found found') (hp : I p p') :
      Coupled I R (.ok found, p) (.ok found', p')

/-- Steps that lead to the same end, or to related frames. -/
inductive Step.Coupled (I : Progress σ → Progress σ' → Prop) (R : Entry → Entry → Prop) :
    Step σ → Step σ' → Prop
  | finished : Coupled I R .finished .finished
  | failed (e : DirectoryError) {p : Progress σ} {p' : Progress σ'} (hp : I p p') :
      Coupled I R (.failed e p) (.failed e p')
  | running {stack stack' : List Frame} {p : Progress σ} {p' : Progress σ'}
      (hstack : List.Forall₂ (Frame.Coupled R) stack stack') (hp : I p p') :
      Coupled I R (.running stack p) (.running stack' p')

inductive Outcome.Coupled (I : Progress σ → Progress σ' → Prop) : Outcome σ → Outcome σ' → Prop
  | exhausted (dn dn' : String) {p : Progress σ} {p' : Progress σ'} (hp : I p p') :
      Coupled I (p.exhaust dn).succeed (p'.exhaust dn').succeed
  | complete {p : Progress σ} {p' : Progress σ'} (hp : I p p') :
      Coupled I p.complete.succeed p'.complete.succeed
  | failed (e : DirectoryError) {p : Progress σ} {p' : Progress σ'} (hp : I p p') :
      Coupled I (p.fail e) (p'.fail e)

namespace Resolver

/-- Every move of the one resolver has a counterpart of the other, and the two keep a relation. -/
structure Coupled (r : Resolver σ) (r' : Resolver σ') (base : String)
    (I : Progress σ → Progress σ' → Prop) (R : Entry → Entry → Prop) : Prop where
  dn : ∀ e e', R e e' → e'.dn = e.dn
  label : ∀ e e', R e e' → r'.settings.parentLabel e' = r.settings.parentLabel e
  exhaust : ∀ root p p', I p p' → I (p.exhaust root) (p'.exhaust root)
  cut : ∀ dn p p', I p p' → I (p.cut dn) (p'.cut dn)
  enter : ∀ e e' p p', R e e' → I p p' → ∃ again all all',
    p.authorities.register (r.settings.authorities e) = (all, again) ∧
      p'.authorities.register (r'.settings.authorities e') = (all', again) ∧
      I { p with authorities := all } { p' with authorities := all' }
  ask : ∀ root label depth p p', I p p' →
    Answer.Coupled I R (p.ask r.client (r.query base root label) depth)
      (p'.ask r'.client (r'.query base root label) depth)

variable {r : Resolver σ} {r' : Resolver σ'} {base : String}
  {I : Progress σ → Progress σ' → Prop} {R : Entry → Entry → Prop} {stack stack' : List Frame}
  {p : Progress σ} {p' : Progress σ'}

theorem descend_coupled {root root' label label' : String} {depth : Nat}
    (hstack : List.Forall₂ (Frame.Coupled R) stack stack')
    (hask : Answer.Coupled I R (p.ask r.client (r.query base root label) (depth + 1))
      (p'.ask r'.client (r'.query base root' label') (depth + 1))) :
    Step.Coupled I R (r.descend base root label (depth + 1) stack p)
      (r'.descend base root' label' (depth + 1) stack' p') := by
  rw [descend, descend]
  generalize p.ask r.client (r.query base root label) (depth + 1) = asked at hask
  generalize p'.ask r'.client (r'.query base root' label') (depth + 1) = asked' at hask
  cases hask with
  | failed e hp => exact .failed e.asTransport hp
  | found hfound hp => exact .running (.cons ⟨rfl, hfound⟩ hstack) hp

namespace Coupled

theorem descend (h : r.Coupled r' base I R) (root label : String) (depth : Nat)
    (hstack : List.Forall₂ (Frame.Coupled R) stack stack') (hp : I p p') :
    Step.Coupled I R (r.descend base root label depth stack p)
      (r'.descend base root label depth stack' p') := by
  cases depth with
  | zero => exact .running hstack (h.exhaust root p p' hp)
  | succ depth => exact descend_coupled hstack (h.ask root label (depth + 1) p p' hp)

theorem visit (h : r.Coupled r' base I R) {e e' : Entry} (he : R e e') (depth : Nat)
    (hstack : List.Forall₂ (Frame.Coupled R) stack stack') (hp : I p p') :
    Step.Coupled I R (r.visit base e depth stack p) (r'.visit base e' depth stack' p') := by
  obtain ⟨again, all, all', hall, hall', hnext⟩ := h.enter e e' p p' he hp
  rw [Resolver.visit, Resolver.visit, h.dn e e' he, h.label e e' he, hall, hall']
  cases again with
  | true => exact .running hstack (h.cut e.dn _ _ hnext)
  | false => exact h.descend _ _ _ hstack hnext

theorem step (h : r.Coupled r' base I R)
    (hstack : List.Forall₂ (Frame.Coupled R) stack stack') (hp : I p p') :
    Step.Coupled I R (r.step base stack p) (r'.step base stack' p') := by
  cases hstack with
  | nil => exact .finished
  | @cons frame frame' rest rest' hframe hrest =>
    obtain ⟨entries, depth⟩ := frame
    obtain ⟨entries', depth'⟩ := frame'
    obtain ⟨hdepth, hentries⟩ := hframe
    cases hdepth
    cases hentries with
    | nil => exact .running hrest hp
    | cons he hes => exact h.visit he depth (.cons ⟨rfl, hes⟩ hrest) hp

theorem loop (h : r.Coupled r' base I R)
    (hstack : List.Forall₂ (Frame.Coupled R) stack stack') (hp : I p p') :
    Outcome.Coupled I (r.loop base stack p) (r'.loop base stack' p') := by
  induction stack using Frame.follows_wf.induction generalizing stack' p p' with
  | _ stack ih =>
    have hstep : Step.Coupled I R (r.step base stack p) (r'.step base stack' p') :=
      h.step hstack hp
    rw [loop_eq_proceed, loop_eq_proceed]
    generalize hnext : r.step base stack p = next at hstep
    generalize r'.step base stack' p' = next' at hstep
    cases hstep with
    | finished => exact .complete hp
    | failed e hq => exact .failed e hq
    | running hstack' hq => exact ih _ (step_follows hnext) hstack' hq

/-- The principals of the two resolutions need not be the same, if their own queries are coupled. -/
theorem resolve (h : r.Coupled r' base I R) (hbase : r.settings.base = some base)
    (hbase' : r'.settings.base = some base)
    (hdepth : r'.settings.maxDepth = r.settings.maxDepth) {dn dn' label label' : String}
    {state : σ} {state' : σ'} (hstart : I { client := state } { client := state' })
    (hask : ∀ depth, Answer.Coupled I R
      (({ client := state } : Progress σ).ask r.client (r.query base dn label) depth)
      (({ client := state' } : Progress σ').ask r'.client (r'.query base dn' label') depth)) :
    Outcome.Coupled I (r.resolve dn label state) (r'.resolve dn' label' state') := by
  rw [Resolver.resolve, Resolver.resolve, hbase, hbase', hdepth]
  cases r.settings.maxDepth with
  | zero => exact .exhausted dn dn' hstart
  | succ depth =>
    have hfirst : Step.Coupled I R
        (r.descend base dn label (depth + 1) [] { client := state })
        (r'.descend base dn' label' (depth + 1) [] { client := state' }) :=
      descend_coupled .nil (hask (depth + 1))
    dsimp only
    generalize hnext : r.descend base dn label (depth + 1) [] { client := state } = first
      at hfirst
    generalize r'.descend base dn' label' (depth + 1) [] { client := state' } = first' at hfirst
    cases hfirst with
    | finished => exact (r.descend_ne_finished base dn label (depth + 1) [] _ hnext).elim
    | failed e hp => exact .failed e hp
    | running hstack hp => exact h.loop hstack hp

end Coupled

end Resolver

end NestedGroups
