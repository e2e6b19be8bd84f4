namespace NestedGroups.Text

def inRanges (ranges : List (Nat × Nat)) (n : Nat) : Bool :=
  ranges.any fun (first, last) => first ≤ n && n ≤ last

/-- The characters with the Unicode property White_Space. -/
def isBlank (c : Char) : Bool :=
  let n := c.toNat
  (0x09 ≤ n && n ≤ 0x0D) || n == 0x20 || n == 0x85 || n == 0xA0 || n == 0x1680 ||
    (0x2000 ≤ n && n ≤ 0x200A) || n == 0x2028 || n == 0x2029 || n == 0x202F ||
    n == 0x205F || n == 0x3000

def trimChars (cs : List Char) : List Char :=
  ((cs.dropWhile isBlank).reverse.dropWhile isBlank).reverse

def trim (s : String) : String :=
  .ofList (trimChars s.toList)

def isAllBlank (s : String) : Bool :=
  s.toList.all isBlank

theorem dropWhile_isBlank_eq_nil_iff {cs : List Char} :
    cs.dropWhile isBlank = [] ↔ cs.all isBlank = true := by
  induction cs with
  | nil => simp
  | cons c cs ih => by_cases h : isBlank c = true <;> simp_all

theorem all_dropWhile_isBlank {cs : List Char} :
    (cs.dropWhile isBlank).all isBlank = cs.all isBlank := by
  induction cs with
  | nil => rfl
  | cons c cs ih => by_cases h : isBlank c = true <;> simp_all

theorem trimChars_eq_nil_iff {cs : List Char} : trimChars cs = [] ↔ cs.all isBlank = true := by
  rw [trimChars, List.reverse_eq_nil_iff, dropWhile_isBlank_eq_nil_iff, List.all_reverse,
    all_dropWhile_isBlank]

def isNumeral (ds : List Char) : Bool :=
  !ds.isEmpty && ds.all Char.isDigit

def digitValue (d : Char) : Nat :=
  d.toNat - '0'.toNat

def numeralValue (ds : List Char) : Nat :=
  ds.foldl (fun n d => 10 * n + digitValue d) 0

def numeral? (ds : List Char) : Option Nat :=
  if isNumeral ds then some (numeralValue ds) else none

theorem not_mem_of_isNumeral {c : Char} {ds : List Char} (h : isNumeral ds = true)
    (hc : c.isDigit = false) : c ∉ ds := by
  intro hmem
  rw [isNumeral, Bool.and_eq_true, List.all_eq_true] at h
  have hdigit := h.2 c hmem
  rw [hc] at hdigit
  cases hdigit

def hexDigitValue? (d : Char) : Option Nat :=
  if d.isDigit then some (digitValue d)
  else if 'a' ≤ d ∧ d ≤ 'f' then some (d.toNat - 'a'.toNat + 10)
  else if 'A' ≤ d ∧ d ≤ 'F' then some (d.toNat - 'A'.toNat + 10)
  else none

def hexDigit (n : Nat) : Char :=
  (Nat.toDigits 16 n).headD '0'

/-- The parts of a text; separators at its ends and next to each other leave empty ones. -/
def parts (separator : Char) : List Char → List (List Char)
  | [] => [[]]
  | c :: rest =>
    if c = separator then [] :: parts separator rest
    else
      match parts separator rest with
      | [] => [[c]]
      | part :: more => (c :: part) :: more

theorem parts_ne_nil (separator : Char) (cs : List Char) : parts separator cs ≠ [] := by
  cases cs with
  | nil => simp [parts]
  | cons c rest =>
    rw [parts]
    split
    · simp
    · split <;> simp

theorem separator_not_mem_parts {separator : Char} {cs part : List Char}
    (h : part ∈ parts separator cs) : separator ∉ part := by
  induction cs generalizing part with
  | nil => simp_all [parts]
  | cons c rest ih =>
    rw [parts] at h
    split at h
    · rcases List.mem_cons.1 h with rfl | h
      · exact List.not_mem_nil
      · exact ih h
    · rename_i hc
      split at h
      · rename_i hnil
        exact absurd hnil (parts_ne_nil separator rest)
      · rename_i first more hparts
        rw [hparts] at ih
        rcases List.mem_cons.1 h with rfl | h
        · have hfirst := ih List.mem_cons_self
          exact fun hmem => (List.mem_cons.1 hmem).elim (fun he => hc he.symm) hfirst
        · exact ih (List.mem_cons_of_mem _ h)

theorem parts_of_not_mem {separator : Char} {part : List Char} (h : separator ∉ part) :
    parts separator part = [part] := by
  induction part with
  | nil => rfl
  | cons c rest ih =>
    rw [List.mem_cons, not_or] at h
    rw [parts, if_neg (Ne.symm h.1), ih h.2]

theorem parts_append_cons (separator : Char) (xs ys : List Char) :
    parts separator (xs ++ separator :: ys) = parts separator xs ++ parts separator ys := by
  induction xs with
  | nil =>
    change parts separator (separator :: ys) = [] :: parts separator ys
    rw [parts, if_pos rfl]
  | cons c xs ih =>
    rw [List.cons_append, parts, parts, ih]
    split
    · rfl
    · obtain ⟨first, more, hparts⟩ := List.exists_cons_of_ne_nil (parts_ne_nil separator xs)
      rw [hparts]
      rfl

theorem parts_append {separator : Char} {part : List Char} (rest : List Char)
    (h : separator ∉ part) :
    parts separator (part ++ separator :: rest) = part :: parts separator rest := by
  rw [parts_append_cons, parts_of_not_mem h]
  rfl

theorem intercalate_parts (separator : Char) (cs : List Char) :
    List.intercalate [separator] (parts separator cs) = cs := by
  induction cs with
  | nil => rfl
  | cons c rest ih =>
    rw [parts]
    split
    · rename_i he
      obtain ⟨first, more, hparts⟩ := List.exists_cons_of_ne_nil (parts_ne_nil separator rest)
      rw [hparts, List.intercalate_cons_cons, ← hparts, ih, he]
      rfl
    · split
      · rename_i hnil
        exact absurd hnil (parts_ne_nil separator rest)
      · rename_i first more hparts
        rw [hparts] at ih
        cases more with
        | nil => simp_all
        | cons second more =>
          rw [List.intercalate_cons_cons] at ih ⊢
          simp [← ih]

theorem parts_intercalate {separator : Char} {ps : List (List Char)} (hne : ps ≠ [])
    (h : ∀ part ∈ ps, separator ∉ part) :
    parts separator (List.intercalate [separator] ps) = ps := by
  induction ps with
  | nil => exact absurd rfl hne
  | cons part more ih =>
    have hpart := h part List.mem_cons_self
    cases more with
    | nil => rw [List.intercalate_singleton, parts_of_not_mem hpart]
    | cons second more =>
      rw [List.intercalate_cons_cons, List.append_assoc, List.singleton_append,
        parts_append _ hpart, ih (by simp) fun p hp => h p (List.mem_cons_of_mem _ hp)]

theorem parts_inj {separator : Char} {xs ys : List Char} :
    parts separator xs = parts separator ys ↔ xs = ys := by
  constructor
  · intro h
    rw [← intercalate_parts separator xs, h, intercalate_parts]
  · rintro rfl
    rfl

theorem parts_map {separator : Char} {f : Char → Char}
    (hf : ∀ c, f c = separator ↔ c = separator) (cs : List Char) :
    parts separator (cs.map f) = (parts separator cs).map (List.map f) := by
  induction cs with
  | nil => rfl
  | cons c cs ih =>
    rw [List.map_cons, parts, parts, ih]
    simp only [hf]
    split
    · rfl
    · obtain ⟨first, more, hparts⟩ := List.exists_cons_of_ne_nil (parts_ne_nil separator cs)
      rw [hparts]
      rfl

theorem parts_suffix_iff {separator : Char} {xs ys : List Char} :
    parts separator ys <:+ parts separator xs ↔ xs = ys ∨ separator :: ys <:+ xs := by
  constructor
  · rintro ⟨front, hfront⟩
    cases front with
    | nil => exact .inl (parts_inj.1 hfront.symm)
    | cons part more =>
      have hmem : ∀ p ∈ part :: more, separator ∉ p := by
        intro p hp
        have hpart : p ∈ parts separator xs := by
          rw [← hfront]
          exact List.mem_append_left _ hp
        exact separator_not_mem_parts hpart
      rw [← parts_intercalate (List.cons_ne_nil _ _) hmem, ← parts_append_cons, parts_inj] at hfront
      exact .inr ⟨_, hfront⟩
  · rintro (rfl | ⟨front, rfl⟩)
    · exact List.suffix_refl _
    · rw [parts_append_cons]
      exact List.suffix_append _ _

end NestedGroups.Text
