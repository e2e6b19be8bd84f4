namespace NestedGroups

structure NameMap (α : Type) where
  toList : List (String × α)
  sorted : toList.Pairwise (·.1 < ·.1)
  deriving DecidableEq

namespace NameMap

variable {α : Type}

def empty : NameMap α :=
  ⟨[], .nil⟩

instance : Inhabited (NameMap α) := ⟨empty⟩

def get? (m : NameMap α) (name : String) : Option α :=
  m.toList.lookup name

/-- The pair of the first name that satisfies the test, in the order of names. -/
def find? (m : NameMap α) (p : String → Bool) : Option (String × α) :=
  m.toList.find? (p ·.1)

def updateList (name : String) (f : Option α → α) :
    List (String × α) → List (String × α)
  | [] => [(name, f none)]
  | (other, a) :: rest =>
    if name < other then (name, f none) :: (other, a) :: rest
    else if other < name then (other, a) :: updateList name f rest
    else (other, f (some a)) :: rest

theorem mem_updateList {name : String} {f : Option α → α} {l : List (String × α)}
    {p : String × α} (h : p ∈ updateList name f l) : p.1 = name ∨ p ∈ l := by
  induction l with
  | nil => simp_all [updateList]
  | cons q rest ih =>
    obtain ⟨other, a⟩ := q
    rw [updateList] at h
    split at h
    · rcases List.mem_cons.1 h with rfl | h
      · exact .inl rfl
      · exact .inr h
    · split at h
      · rcases List.mem_cons.1 h with rfl | h
        · exact .inr List.mem_cons_self
        · exact (ih h).imp_right (List.mem_cons_of_mem _)
      · rename_i h₁ h₂
        rcases List.mem_cons.1 h with rfl | h
        · exact .inl (Std.Trichotomous.trichotomous (r := (· < ·)) other name h₂ h₁)
        · exact .inr (List.mem_cons_of_mem _ h)

theorem sorted_updateList (name : String) (f : Option α → α) {l : List (String × α)}
    (h : l.Pairwise (·.1 < ·.1)) : (updateList name f l).Pairwise (·.1 < ·.1) := by
  induction l with
  | nil => simp [updateList]
  | cons q rest ih =>
    obtain ⟨other, a⟩ := q
    obtain ⟨hq, hrest⟩ := List.pairwise_cons.1 h
    rw [updateList]
    split
    · rename_i hlt
      refine List.pairwise_cons.2 ⟨fun p hp => ?_, h⟩
      rcases List.mem_cons.1 hp with rfl | hp
      · exact hlt
      · exact String.lt_trans hlt (hq p hp)
    · split
      · rename_i hlt
        refine List.pairwise_cons.2 ⟨fun p hp => ?_, ih hrest⟩
        rcases mem_updateList hp with h | hp
        · exact h ▸ hlt
        · exact hq p hp
      · exact List.pairwise_cons.2 ⟨hq, hrest⟩

def update (m : NameMap α) (name : String) (f : Option α → α) : NameMap α :=
  ⟨updateList name f m.toList, sorted_updateList name f m.sorted⟩

theorem lookup_cons_ite (name key : String) (a : α) (rest : List (String × α)) :
    ((key, a) :: rest).lookup name = if name = key then some a else rest.lookup name := by
  rw [List.lookup_cons]
  by_cases h : name = key
  · simp [h]
  · simp [beq_eq_false_iff_ne.2 h, h]

theorem lookup_eq_none_of_lt {name : String} {l : List (String × α)}
    (h : ∀ p ∈ l, name < p.1) : l.lookup name = none := by
  rw [List.lookup_eq_none_iff]
  intro p hp
  have hne : name ≠ p.1 := fun he => String.lt_irrefl p.1 (he ▸ h p hp)
  simpa using hne

theorem lookup_updateList (name other : String) (f : Option α → α) {l : List (String × α)}
    (h : l.Pairwise (·.1 < ·.1)) :
    (updateList name f l).lookup other =
      if other = name then some (f (l.lookup name)) else l.lookup other := by
  induction l with
  | nil => rw [updateList, lookup_cons_ite]; rfl
  | cons q rest ih =>
    obtain ⟨key, a⟩ := q
    obtain ⟨hq, hrest⟩ := List.pairwise_cons.1 h
    rw [updateList]
    split
    · rename_i hlt
      have hnone : ((key, a) :: rest).lookup name = none := by
        refine lookup_eq_none_of_lt fun p hp => ?_
        rcases List.mem_cons.1 hp with rfl | hp
        · exact hlt
        · exact String.lt_trans hlt (hq p hp)
      rw [lookup_cons_ite, hnone]
    · split
      · rename_i hlt
        have hne : name ≠ key := fun he => String.lt_irrefl key (he ▸ hlt)
        simp only [lookup_cons_ite, ih hrest]
        grind
      · rename_i h₁ h₂
        have he : key = name := Std.Trichotomous.trichotomous (r := (· < ·)) key name h₂ h₁
        simp only [lookup_cons_ite, he]
        grind

theorem get?_update (m : NameMap α) (name other : String) (f : Option α → α) :
    (m.update name f).get? other =
      if other = name then some (f (m.get? name)) else m.get? other :=
  lookup_updateList name other f m.sorted

end NameMap

structure NameSet where
  toList : List String
  sorted : toList.Pairwise (· < ·)
  deriving DecidableEq

namespace NameSet

def empty : NameSet :=
  ⟨[], .nil⟩

instance : Inhabited NameSet := ⟨empty⟩

instance : Membership String NameSet := ⟨fun s name => name ∈ s.toList⟩

def insertList (name : String) : List String → List String
  | [] => [name]
  | other :: rest =>
    if name < other then name :: other :: rest
    else if other < name then other :: insertList name rest
    else other :: rest

theorem mem_insertList {name other : String} {l : List String} :
    other ∈ insertList name l ↔ other = name ∨ other ∈ l := by
  induction l with
  | nil => simp [insertList]
  | cons key rest ih =>
    rw [insertList]
    split
    · simp
    · split
      · simp only [List.mem_cons, ih]
        grind
      · rename_i h₁ h₂
        have he : key = name := Std.Trichotomous.trichotomous (r := (· < ·)) key name h₂ h₁
        simp [he]

theorem sorted_insertList (name : String) {l : List String} (h : l.Pairwise (· < ·)) :
    (insertList name l).Pairwise (· < ·) := by
  induction l with
  | nil => simp [insertList]
  | cons key rest ih =>
    obtain ⟨hkey, hrest⟩ := List.pairwise_cons.1 h
    rw [insertList]
    split
    · rename_i hlt
      refine List.pairwise_cons.2 ⟨fun other hother => ?_, h⟩
      rcases List.mem_cons.1 hother with rfl | hother
      · exact hlt
      · exact String.lt_trans hlt (hkey other hother)
    · split
      · rename_i hlt
        refine List.pairwise_cons.2 ⟨fun other hother => ?_, ih hrest⟩
        rcases mem_insertList.1 hother with rfl | hother
        · exact hlt
        · exact hkey other hother
      · exact h

def insert (s : NameSet) (name : String) : NameSet :=
  ⟨insertList name s.toList, sorted_insertList name s.sorted⟩

def insertAll (s : NameSet) (names : List String) : NameSet :=
  names.foldl insert s

def ofList (names : List String) : NameSet :=
  empty.insertAll names

theorem mem_insert {s : NameSet} {name other : String} :
    other ∈ s.insert name ↔ other = name ∨ other ∈ s :=
  mem_insertList

theorem mem_insertAll {s : NameSet} {names : List String} {other : String} :
    other ∈ s.insertAll names ↔ other ∈ names ∨ other ∈ s := by
  induction names generalizing s with
  | nil => simp [insertAll]
  | cons name names ih =>
    rw [insertAll, List.foldl_cons, ← insertAll, ih, mem_insert]
    simp only [List.mem_cons]
    grind

end NameSet

end NestedGroups
