import NestedGroups.Proofs.Exploration

namespace NestedGroups

namespace AuthoritySet

variable {found : AuthoritySet} {as : List Authority}

theorem keys_sublist_register : found.keys.Sublist (found.register as).1.keys := by
  induction as generalizing found with
  | nil => exact .refl _
  | cons a as ih =>
    rw [register]
    refine .trans ?_ ih
    rw [keys_insert]
    split
    · exact .refl _
    · exact List.sublist_append_left _ _

theorem keys_register_of_new (h : (found.register as).2 = false) :
    (found.register as).1.keys = found.keys ++ as.map Authority.key := by
  induction as generalizing found with
  | nil => exact (List.append_nil _).symm
  | cons a as ih =>
    rw [register] at h ⊢
    obtain ⟨hnew, hrest⟩ := Bool.or_eq_false_iff.1 h
    rw [ih hrest, keys_insert, if_neg (of_decide_eq_false hnew), List.map_cons,
      List.append_assoc, List.singleton_append]

end AuthoritySet

namespace GroupSearch

variable {g : GroupSearch} {e : Entry} {found all : AuthoritySet} {again : Bool}

theorem keys_sublist_of_register (h : found.register (g.authorities e) = (all, again)) :
    found.keys.Sublist all.keys := by
  have hall : all = (found.register (g.authorities e)).1 := by rw [h]
  rw [hall]
  exact AuthoritySet.keys_sublist_register

theorem keys_eq_nil_iff : g.keys e = [] ↔ e.values g.roleAttribute = [] := by
  simp only [List.eq_nil_iff_forall_not_mem, Prod.forall, mem_keys, not_and, not_exists]
  constructor
  · exact fun h v hv => h _ _ rfl v hv rfl
  · exact fun h _ _ _ v hv => (h v hv).elim

theorem keys_eq_of_register (h : found.register (g.authorities e) = (all, false)) :
    all.keys = found.keys ++ g.keys e := by
  have hall : all = (found.register (g.authorities e)).1 := by rw [h]
  rw [hall, AuthoritySet.keys_register_of_new (by rw [h]), keys]

end GroupSearch

theorem Entered.mem_entries {visits : List Visit} {e : Entry} (h : Entered visits e) :
    e ∈ visits.map Visit.entry := by
  rcases h with h | ⟨found, h⟩
  · exact List.mem_map_of_mem h
  · exact List.mem_map_of_mem h

def Visit.arrival? : Visit → Option Entry
  | .turn _ => none
  | .stop e => some e
  | .search e _ => some e

/-- The entries that are not turned away, as often as they are entered. -/
def arrivals (visits : List Visit) : List Entry :=
  visits.filterMap Visit.arrival?

@[simp] theorem arrivals_turn (e : Entry) (visits : List Visit) :
    arrivals (.turn e :: visits) = arrivals visits := rfl

@[simp] theorem arrivals_stop (e : Entry) (visits : List Visit) :
    arrivals (.stop e :: visits) = e :: arrivals visits := rfl

@[simp] theorem arrivals_search (e : Entry) (found : List Entry) (visits : List Visit) :
    arrivals (.search e found :: visits) = e :: arrivals visits := rfl

theorem arrivals_append (visits visits' : List Visit) :
    arrivals (visits ++ visits') = arrivals visits ++ arrivals visits' :=
  List.filterMap_append

theorem mem_arrivals {visits : List Visit} {e : Entry} : e ∈ arrivals visits ↔ Entered visits e := by
  rw [arrivals, List.mem_filterMap, Entered]
  constructor
  · rintro ⟨_ | e' | ⟨e', found⟩, hv, he⟩
    · cases he
    · cases he
      exact .inl hv
    · cases he
      exact .inr ⟨found, hv⟩
  · rintro (hv | ⟨found, hv⟩)
    · exact ⟨_, hv, rfl⟩
    · exact ⟨_, hv, rfl⟩

theorem length_arrivals (visits : List Visit) :
    (arrivals visits).length = visits.countP Visit.isSearch + visits.countP Visit.isStop := by
  induction visits with
  | nil => rfl
  | cons v visits ih =>
    cases v <;> simp [List.countP_cons, Visit.isSearch, Visit.isStop, ih] <;> omega

theorem length_eq_turns_add (visits : List Visit) :
    visits.length = visits.countP Visit.isTurn + (arrivals visits).length := by
  induction visits with
  | nil => rfl
  | cons v visits ih =>
    cases v <;> simp [List.countP_cons, Visit.isTurn, ih] <;> omega

namespace Explores

variable {g : GroupSearch} {base : String} {depth : Nat} {es : List Entry} {f f' : Findings}
  {visits : List Visit}

/-- A branch ends for want of depth behind as many entries as there was depth. -/
theorem lt_length_arrivals (h : Explores g base depth es f visits f') {e : Entry}
    (he : .stop e ∈ visits) : depth < (arrivals visits).length := by
  induction h with
  | done => cases he
  | turn _ _ ih => exact ih ((List.mem_cons.1 he).resolve_left Visit.noConfusion)
  | stop => exact Nat.succ_pos _
  | search _ _ _ ihInner ih =>
    rw [arrivals_search, arrivals_append, List.length_cons, List.length_append]
    rcases List.mem_append.1 ((List.mem_cons.1 he).resolve_left Visit.noConfusion) with he | he
    · have hinner := ihInner he
      omega
    · have hrest := ih he
      omega

theorem sublist (h : Explores g base depth es f visits f') :
    es.Sublist (visits.map Visit.entry) := by
  induction h with
  | done => exact .slnil
  | turn _ _ ih | stop _ _ ih => exact ih.cons_cons _
  | search _ _ _ _ ih =>
    rw [List.map_cons, List.map_append]
    exact (ih.trans (List.sublist_append_right _ _)).cons_cons _

theorem keys_ne_nil_of_turn (h : Explores g base depth es f visits f') {e : Entry}
    (he : .turn e ∈ visits) : g.keys e ≠ [] := by
  induction h with
  | done => cases he
  | @turn _ x _ _ _ _ _ hreg _ ih =>
    rcases List.mem_cons.1 he with heq | he
    · cases heq
      intro hnil
      rw [GroupSearch.keys, List.map_eq_nil_iff] at hnil
      rw [hnil] at hreg
      cases hreg
    · exact ih he
  | stop _ _ ih => exact ih ((List.mem_cons.1 he).resolve_left Visit.noConfusion)
  | search _ _ _ ihInner ih =>
    have he := (List.mem_cons.1 he).resolve_left Visit.noConfusion
    exact (List.mem_append.1 he).elim ihInner ih

theorem keys_sublist (h : Explores g base depth es f visits f') :
    (f.authorities.keys ++ (arrivals visits).flatMap g.keys).Sublist f'.authorities.keys := by
  induction h with
  | done => rw [arrivals, List.filterMap_nil, List.flatMap_nil, List.append_nil]
  | turn hreg _ ih =>
    exact ((GroupSearch.keys_sublist_of_register hreg).append_right _).trans ih
  | stop hreg _ ih =>
    rw [arrivals_stop, List.flatMap_cons, ← List.append_assoc, ← GroupSearch.keys_eq_of_register hreg]
    exact ih
  | search hreg _ _ ihInner ih =>
    rw [arrivals_search, arrivals_append, List.flatMap_cons, List.flatMap_append,
      ← List.append_assoc, ← List.append_assoc, ← GroupSearch.keys_eq_of_register hreg]
    exact (ihInner.append_right _).trans ih

theorem nodup_arrivals (h : Explores g base depth es f visits f') :
    ((arrivals visits).filter (g.keys · ≠ [])).Nodup := by
  have hkeys : ((arrivals visits).flatMap g.keys).Nodup :=
    ((f'.authorities.nodup).sublist h.keys_sublist).of_append_right
  have hapart := (List.nodup_flatMap.1 hkeys).2
  refine (List.pairwise_filter.2 (hapart.imp fun {x y} hxy hx _ => ?_))
  rintro rfl
  obtain ⟨key, hkey⟩ := List.exists_mem_of_ne_nil _ (of_decide_eq_true hx)
  exact hxy hkey hkey

end Explores

end NestedGroups
