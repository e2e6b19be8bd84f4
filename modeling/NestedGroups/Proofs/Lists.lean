import Mathlib.Data.List.Basic
import Mathlib.Data.List.TakeWhile

namespace NestedGroups

variable {α : Type} {x : α} {xs l r before after : List α}

theorem append_eq_append_cons (h : l ++ r = before ++ x :: after) :
    (∃ more, l = before ++ x :: more ∧ after = more ++ r) ∨
      ∃ more, before = l ++ more ∧ r = more ++ x :: after := by
  rcases List.append_eq_append_iff.1 h with ⟨more, hbefore, hr⟩ | ⟨more, hl, hafter⟩
  · exact .inr ⟨more, hbefore, hr⟩
  · cases more with
    | nil =>
      rw [List.append_nil] at hl
      exact .inr ⟨[], by rw [hl, List.append_nil], hafter.symm⟩
    | cons y more =>
      obtain ⟨rfl, hrest⟩ := List.cons.inj hafter
      exact .inl ⟨more, hl, hrest⟩

theorem exists_append_of_not_mem (hx : x ∉ l) (h : l ++ r = before ++ x :: after) :
    ∃ more, before = l ++ more ∧ r = more ++ x :: after := by
  rcases append_eq_append_cons h with ⟨more, rfl, -⟩ | hbehind
  · exact (hx (List.mem_append_right _ List.mem_cons_self)).elim
  · exact hbehind

theorem append_cons_inj (hl : x ∉ l) (hbefore : x ∉ before)
    (h : l ++ x :: r = before ++ x :: after) : l = before ∧ r = after := by
  obtain ⟨more, rfl, hmore⟩ := exists_append_of_not_mem hl h
  cases more with
  | nil => exact ⟨(List.append_nil l).symm, (List.cons.inj hmore).2⟩
  | cons y more =>
    obtain ⟨rfl, -⟩ := List.cons.inj hmore
    exact (hbefore (List.mem_append_right _ List.mem_cons_self)).elim

theorem mem_of_lookup {β : Type} [BEq α] [LawfulBEq α] {pairs : List (α × β)} {key : α} {value : β}
    (h : pairs.lookup key = some value) : (key, value) ∈ pairs := by
  obtain ⟨before, after, rfl, -⟩ := List.lookup_eq_some_iff.1 h
  exact List.mem_append_right before List.mem_cons_self

variable [DecidableEq α]

theorem not_mem_takeWhile_ne : x ∉ xs.takeWhile (· ≠ x) := by
  intro h
  have hne := List.mem_takeWhile_imp h
  exact of_decide_eq_true hne rfl

theorem takeWhile_append_tail (h : x ∈ xs) :
    xs.takeWhile (· ≠ x) ++ x :: (xs.dropWhile (· ≠ x)).tail = xs := by
  obtain ⟨before, after, rfl, hx⟩ := List.eq_append_cons_of_mem h
  have hbefore : ∀ y ∈ before, decide (y ≠ x) = true := by
    intro y hy
    apply decide_eq_true
    rintro rfl
    exact hx hy
  rw [List.takeWhile_append_of_pos hbefore, List.dropWhile_append_of_pos hbefore]
  simp

variable {α β γ δ : Type}

/-- The last value that a list of assignments gives to a field; `value?` tells what a single one
gives to it. -/
def lastGiven (value? : α → Option β) (assignments : List α) : Option β :=
  (assignments.filterMap value?).getLast?

variable {value? : α → Option β} {assign : δ → α → δ}

theorem lastGiven_cons (a : α) (as : List α) :
    lastGiven value? (a :: as) = (lastGiven value? as).or (value? a) := by
  rw [lastGiven, lastGiven, List.filterMap_cons]
  cases value? a with
  | none => rw [Option.or_none]
  | some b => rw [List.getLast?_cons, ← Option.or_some]

theorem foldl_assign_elim (get : δ → γ) {put : β → γ}
    (h : ∀ d a, get (assign d a) = (value? a).elim (get d) put) (as : List α) (d : δ) :
    get (as.foldl assign d) = (lastGiven value? as).elim (get d) put := by
  induction as generalizing d with
  | nil => rfl
  | cons a as ih =>
    rw [List.foldl_cons, ih, h, lastGiven_cons]
    cases lastGiven value? as <;> rfl

theorem foldl_assign_getD (get : δ → β)
    (h : ∀ d a, get (assign d a) = (value? a).getD (get d)) (as : List α) (d : δ) :
    get (as.foldl assign d) = (lastGiven value? as).getD (get d) := by
  have helim (o : Option β) (rest : β) : o.getD rest = o.elim rest id := by cases o <;> rfl
  simp only [helim] at h ⊢
  exact foldl_assign_elim get h as d

theorem foldl_assign_or (get : δ → Option β)
    (h : ∀ d a, get (assign d a) = (value? a).or (get d)) (as : List α) (d : δ) :
    get (as.foldl assign d) = (lastGiven value? as).or (get d) := by
  have helim (o rest : Option β) : o.or rest = o.elim rest some := by cases o <;> rfl
  simp only [helim] at h ⊢
  exact foldl_assign_elim get h as d

end NestedGroups
