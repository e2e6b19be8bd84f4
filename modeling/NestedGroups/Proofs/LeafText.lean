import NestedGroups.Proofs.Quoting
import NestedGroups.Toml.Reading

namespace NestedGroups.Toml

open NestedGroups.Text

theorem head_toDigits_ne_zero {n : Nat} (hn : n ≠ 0) (ds : List Char) :
    Nat.toDigits 10 n ≠ '0' :: ds := by
  induction n using Nat.strongRecOn generalizing ds with
  | ind n ih =>
    by_cases hlow : n < 10
    · rw [Nat.toDigits_of_lt_base hlow]
      have hdigit : ∀ k < 10, k ≠ 0 → k.digitChar ≠ '0' := by decide
      intro h
      exact hdigit n hlow hn (List.cons.inj h).1
    · have hless : n / 10 < n := by omega
      have hrest : n / 10 ≠ 0 := by omega
      rw [Nat.toDigits_of_base_le (by decide) (by omega)]
      obtain ⟨d, more, hdigits⟩ := List.exists_cons_of_ne_nil (Nat.toDigits_ne_nil (n := n / 10) (b := 10))
      rw [hdigits, List.cons_append]
      intro h
      exact ih (n / 10) hless hrest more (by rw [hdigits, (List.cons.inj h).1])

theorem isDigit_toDigits (n : Nat) : ∀ d ∈ Nat.toDigits 10 n, d.isDigit = true :=
  fun _ => Nat.isDigit_of_mem_toDigits (by decide) (by decide)

theorem numeralValue_toDigits (n : Nat) : numeralValue (Nat.toDigits 10 n) = n :=
  Nat.ofDigitChars_toDigits (by decide) (by decide)

theorem readDigits_append {d : Char} {ds : List Char} (h : ∀ x ∈ d :: ds, x.isDigit = true)
    (rest : List Char) :
    readDigits Char.isDigit (d :: ds ++ '\n' :: rest) = some (d :: ds, '\n' :: rest) := by
  induction ds generalizing d with
  | nil =>
    have hd := h d List.mem_cons_self
    rw [List.cons_append, List.nil_append, readDigits]
    · simp [hd]
    · simp
  | cons e ds ih =>
    rw [List.forall_mem_cons] at h
    have he := h.2 e List.mem_cons_self
    have hunderscore : e ≠ '_' := by
      rintro rfl
      cases he
    rw [List.cons_append, readDigits, List.cons_append]
    · simp only [h.1, Bool.not_true, Bool.false_eq_true, if_false, List.head?_cons, Option.any_some,
        he, if_true]
      rw [← List.cons_append, ih h.2]
      rfl
    · simp [hunderscore]

theorem readWhole_toDigits (n : Nat) (rest : List Char) :
    readWhole (Nat.toDigits 10 n ++ '\n' :: rest) = some (Nat.toDigits 10 n, '\n' :: rest) := by
  by_cases hn : n = 0
  · subst hn
    rfl
  · obtain ⟨d, ds, hdigits⟩ := List.exists_cons_of_ne_nil (Nat.toDigits_ne_nil (n := n) (b := 10))
    have hzero : d ≠ '0' := by
      rintro rfl
      exact head_toDigits_ne_zero hn ds hdigits
    have hall := isDigit_toDigits n
    rw [hdigits] at hall ⊢
    rw [readWhole, readDigits_append hall]
    simp [hzero]

theorem ne_of_isDigit {c d : Char} (h : c.isDigit = true) (hd : d.isDigit = false) : c ≠ d := by
  intro hc
  rw [hc, hd] at h
  cases h

theorem inRange?_natCast {n : Nat} (h : n ≤ Leaf.maxNumber) :
    inRange? (n : Int) = some (.ofNat n) := by
  have hhigh : (n : Int) ≤ maxInteger := Int.ofNat_le.2 h
  have hlow : minInteger ≤ (n : Int) := Int.le_trans (by decide) (Int.natCast_nonneg n)
  rw [inRange?, if_pos ⟨hlow, hhigh⟩]
  rfl

theorem readNumber_toDigits {n : Nat} (h : n ≤ Leaf.maxNumber) (rest : List Char) :
    readNumber (Nat.toDigits 10 n ++ '\n' :: rest) = some (.ofNat n, '\n' :: rest) := by
  have hwhole := readWhole_toDigits n rest
  have hall := isDigit_toDigits n
  have hvalue := numeralValue_toDigits n
  have hzero : ∀ ds, Nat.toDigits 10 n = '0' :: ds → ds = [] := by
    intro ds hds
    by_cases hn : n = 0
    · subst hn
      exact (List.cons.inj hds).2.symm
    · exact (head_toDigits_ne_zero hn ds hds).elim
  obtain ⟨d, ds, hdigits⟩ := List.exists_cons_of_ne_nil (Nat.toDigits_ne_nil (n := n) (b := 10))
  rw [hdigits] at hwhole hall hvalue hzero ⊢
  have hd := hall d List.mem_cons_self
  have hsign : readSign (d :: ds ++ '\n' :: rest) = (false, d :: ds ++ '\n' :: rest) := by
    rw [List.cons_append, readSign]
    · simp [ne_of_isDigit hd (d := '+') rfl]
    · simp [ne_of_isDigit hd (d := '-') rfl]
  have hprefix : ∀ c more, d :: ds ++ '\n' :: rest = '0' :: c :: more → c = '\n' := by
    intro c more heq
    obtain ⟨rfl, htail⟩ := List.cons.inj heq
    rw [hzero ds rfl] at htail
    exact (List.cons.inj htail).1.symm
  rw [readNumber]
  · simp only [hsign, hwhole, hvalue, inRange?_natCast h, Bool.false_eq_true, if_false]
    rfl
  · exact fun more heq => nomatch hprefix _ _ heq
  · exact fun more heq => nomatch hprefix _ _ heq
  · exact fun more heq => nomatch hprefix _ _ heq

theorem dropWhile_isDigit_of_startsDate {cs : List Char} (h : startsDate cs = true) :
    ∃ c rest, cs.dropWhile Char.isDigit = c :: rest ∧ (c = ':' ∨ c = '-') := by
  unfold startsDate at h
  split at h
  · rename_i a b rest
    rw [Bool.and_eq_true] at h
    exact ⟨':', rest, by simp [h], .inl rfl⟩
  · rename_i a b c d rest _
    simp only [Bool.and_eq_true] at h
    exact ⟨'-', rest, by simp [h], .inr rfl⟩
  · cases h

theorem startsDate_append {ds : List Char} (h : ∀ d ∈ ds, d.isDigit = true) (rest : List Char) :
    startsDate (ds ++ '\n' :: rest) = false := by
  rw [Bool.eq_false_iff]
  intro hdate
  obtain ⟨c, more, hdrop, hc⟩ := dropWhile_isDigit_of_startsDate hdate
  rw [List.dropWhile_append_of_pos h] at hdrop
  obtain ⟨rfl, -⟩ := List.cons.inj hdrop
  rcases hc with hc | hc <;> cases hc

theorem readScalar_toDigits {n : Nat} (h : n ≤ Leaf.maxNumber) (rest : List Char) :
    readScalar (Nat.toDigits 10 n ++ '\n' :: rest) = some (.ofNat n, '\n' :: rest) := by
  have hnumber := readNumber_toDigits h rest
  have hdate := startsDate_append (isDigit_toDigits n) rest
  have hall := isDigit_toDigits n
  obtain ⟨d, ds, hdigits⟩ := List.exists_cons_of_ne_nil (Nat.toDigits_ne_nil (n := n) (b := 10))
  rw [hdigits] at hnumber hdate hall ⊢
  have hd := hall d List.mem_cons_self
  rw [List.cons_append] at hnumber hdate ⊢
  rw [readScalar]
  · simp [ne_of_isDigit hd (d := '"') rfl, ne_of_isDigit hd (d := '\'') rfl,
      ne_of_isDigit hd (d := 'i') rfl, ne_of_isDigit hd (d := 'n') rfl, hd, hdate, hnumber]
  · simp [ne_of_isDigit hd (d := 't') rfl]
  · simp [ne_of_isDigit hd (d := 'f') rfl]

theorem exists_cons_quote (cs : List Char) :
    ∃ c more, quote cs = c :: more ∧ (c = '"' ∨ c = '\'') := by
  rw [quote]
  cases Quoting.of cs with
  | basic | multilineBasic => exact ⟨'"', _, rfl, .inl rfl⟩
  | literal | multilineLiteral => exact ⟨'\'', _, rfl, .inr rfl⟩

theorem readScalar_quote (cs : List Char) {rest : List Char} (hdouble : ∀ more, rest ≠ '"' :: more)
    (hsingle : ∀ more, rest ≠ '\'' :: more) :
    readScalar (quote cs ++ rest) = some (.text (.ofList cs), rest) := by
  have htext := readText_quote cs hdouble hsingle
  obtain ⟨c, more, hquote, hc⟩ := exists_cons_quote cs
  rw [hquote, List.cons_append] at htext ⊢
  rcases hc with rfl | rfl <;> rw [readScalar, htext] <;> simp

theorem readNode_quote (depth : Nat) (cs rest : List Char)
    (hdouble : ∀ more, rest ≠ '"' :: more) (hsingle : ∀ more, rest ≠ '\'' :: more) :
    readNode depth (quote cs ++ rest) = some (.leaf (.text (.ofList cs)), rest) := by
  have hscalar := readScalar_quote cs hdouble hsingle
  obtain ⟨c, more, hquote, hc⟩ := exists_cons_quote cs
  rw [hquote, List.cons_append] at hscalar ⊢
  rcases hc with rfl | rfl <;> rw [readNode, hscalar] <;> simp

/-- A character that starts neither a blank nor a comment. -/
structure IsSolid (c : Char) : Prop where
  space : isSpace c = false
  hash : c ≠ '#'
  feed : c ≠ '\n'
  carriage : c ≠ '\r'

theorem IsSolid.of_quote {c : Char} (h : c = '"' ∨ c = '\'') : IsSolid c := by
  rcases h with rfl | rfl
  · exact ⟨by decide, by decide, by decide, by decide⟩
  · exact ⟨by decide, by decide, by decide, by decide⟩

theorem skipSpaces_cons {c : Char} (h : isSpace c = false) (rest : List Char) :
    skipSpaces (c :: rest) = c :: rest := by
  rw [skipSpaces, List.dropWhile_cons_of_neg]
  rw [h]
  exact Bool.false_ne_true

namespace IsSolid

variable {c : Char} (h : IsSolid c) (rest : List Char)

include h

theorem afterLine?_cons : afterLine? (c :: rest) = none := by
  rw [afterLine?, skipSpaces_cons h.space]
  split
  · rename_i heq
    split at heq
    · rename_i hcomment
      cases hcomment
      exact (h.hash rfl).elim
    · cases heq
  · split
    · rename_i hcomment
      cases hcomment
      exact (h.hash rfl).elim
    · exact afterNewline?_cons h.feed h.carriage rest

theorem skipLines_cons (fuel : Nat) : skipLines fuel (c :: rest) = c :: rest := by
  cases fuel with
  | zero => rfl
  | succ fuel =>
    rw [skipLines, skipSpaces_cons h.space]
    split
    · rename_i hcomment
      cases hcomment
      exact (h.hash rfl).elim
    · rw [afterNewline?_cons h.feed h.carriage]

theorem skipBlank_cons : skipBlank (c :: rest) = c :: rest :=
  h.skipLines_cons rest _

theorem skipBlank_indented :
    skipBlank ('\n' :: ' ' :: ' ' :: ' ' :: ' ' :: c :: rest) = c :: rest := by
  have hspaces : skipSpaces (' ' :: ' ' :: ' ' :: ' ' :: c :: rest) = c :: rest :=
    skipSpaces_cons h.space rest
  change skipLines ((c :: rest).length + 4) (' ' :: ' ' :: ' ' :: ' ' :: c :: rest) = _
  rw [skipLines, hspaces]
  split
  · rename_i hcomment
    cases hcomment
    exact (h.hash rfl).elim
  · rw [afterNewline?_cons h.feed h.carriage]

end IsSolid

def itemLines (items : List String) : List Char :=
  items.flatMap fun item => ' ' :: ' ' :: ' ' :: ' ' :: (quote item.toList ++ [',', '\n'])

def textNode (item : String) : Node :=
  .leaf (.text item)

theorem readItems_itemLines (depth : Nat) (items : List String) {fuel : Nat}
    (hfuel : items.length < fuel) (rest : List Char) :
    readItems (readNode depth) fuel ('\n' :: (itemLines items ++ ']' :: rest)) =
      some (items.map textNode, rest) := by
  obtain ⟨fuel, rfl⟩ := Nat.exists_eq_succ_of_ne_zero (Nat.ne_zero_of_lt hfuel)
  induction items generalizing fuel with
  | nil =>
    have hblank : skipBlank ('\n' :: ']' :: rest) = ']' :: rest := rfl
    rw [itemLines, List.flatMap_nil, List.nil_append, readItems, hblank]
    rfl
  | cons item items ih =>
    have hless := Nat.lt_of_succ_lt_succ hfuel
    obtain ⟨fuel, rfl⟩ := Nat.exists_eq_succ_of_ne_zero (Nat.ne_zero_of_lt hless)
    have hmore := ih fuel hless
    have hread := readNode_quote depth item.toList
      (',' :: '\n' :: (itemLines items ++ ']' :: rest)) nofun nofun
    obtain ⟨c, more, hquote, hc⟩ := exists_cons_quote item.toList
    have hsolid := IsSolid.of_quote hc
    have hcomma : IsSolid ',' := ⟨by decide, by decide, by decide, by decide⟩
    rw [hquote, List.cons_append] at hread
    have hlines : itemLines (item :: items) ++ ']' :: rest =
        ' ' :: ' ' :: ' ' :: ' ' :: c :: (more ++ ',' :: '\n' :: (itemLines items ++ ']' :: rest)) := by
      rw [itemLines, List.flatMap_cons, ← itemLines, hquote]
      simp only [List.cons_append, List.append_assoc, List.nil_append]
    rw [hlines, readItems, hsolid.skipBlank_indented]
    split
    · rename_i hclose
      cases hclose
      rcases hc with hc | hc <;> cases hc
    · simp only [hread, hcomma.skipBlank_cons, hmore, Option.bind_eq_bind, Option.bind_some,
        Option.pure_def, String.ofList_toList, List.map_cons, textNode]

theorem length_le_itemLines (items : List String) : items.length ≤ (itemLines items).length := by
  induction items with
  | nil => exact Nat.zero_le 0
  | cons item items ih =>
    rw [itemLines, List.flatMap_cons, ← itemLines, List.length_append, List.length_cons,
      List.length_cons]
    omega

theorem readItems_quote (depth fuel : Nat) (item : String) (rest : List Char) :
    readItems (readNode depth) (fuel + 1) (quote item.toList ++ ']' :: rest) =
      some ([textNode item], rest) := by
  have hread := readNode_quote depth item.toList (']' :: rest) nofun nofun
  obtain ⟨c, more, hquote, hc⟩ := exists_cons_quote item.toList
  have hsolid := IsSolid.of_quote hc
  have hclose : IsSolid ']' := ⟨by decide, by decide, by decide, by decide⟩
  rw [hquote, List.cons_append] at hread ⊢
  rw [readItems, hsolid.skipBlank_cons]
  split
  · rename_i heq
    cases heq
    rcases hc with hc | hc <;> cases hc
  · simp only [hread, hclose.skipBlank_cons, Option.bind_eq_bind, Option.bind_some, Option.pure_def,
      String.ofList_toList, textNode]

namespace Leaf

def node : Leaf → Node
  | .flag b => .leaf (.bool b)
  | .number n => .leaf (.ofNat n)
  | .text s => textNode s
  | .texts items => .list (items.map textNode)

theorem node_value (leaf : Leaf) : leaf.node.value = leaf.value := by
  cases leaf with
  | flag | number | text => rfl
  | texts items =>
    have hitems : Node.values (items.map textNode) = items.map Value.text := by
      induction items with
      | nil => rfl
      | cons item items ih => rw [List.map_cons, List.map_cons, Node.values, ih, textNode, Node.value]
    rw [node, value, Node.value, hitems]
    rfl

theorem render_texts_singleton (item : String) :
    (texts [item]).render.toList = '[' :: (quote item.toList ++ [']']) := by
  simp only [render, String.toList_append, String.toList_ofList]
  rfl

theorem render_texts_lines (first second : String) (items : List String) :
    (texts (first :: second :: items)).render.toList =
      '[' :: '\n' :: (itemLines (first :: second :: items) ++ [']']) := by
  simp only [render, String.toList_append, String.toList_join, List.flatMap_map,
    String.toList_ofList]
  rfl

theorem readNode_texts (depth : Nat) (items : List String) (rest : List Char) :
    readNode (depth + 1) ((texts items).render.toList ++ '\n' :: rest) =
      some ((texts items).node, '\n' :: rest) := by
  match items with
  | [] => rfl
  | [item] =>
    rw [render_texts_singleton, List.cons_append, List.append_assoc, List.singleton_append,
      readNode, readItems_quote]
    rfl
  | first :: second :: items =>
    have hlength := length_le_itemLines (first :: second :: items)
    rw [render_texts_lines, List.cons_append, List.cons_append, List.append_assoc, readNode,
      List.singleton_append, readItems_itemLines]
    · rfl
    · simp only [List.length_cons, List.length_append] at hlength ⊢
      omega

theorem readNode_render {leaf : Leaf} (hfits : leaf.fits = true) (rest : List Char) :
    readNode maxNesting (leaf.render.toList ++ '\n' :: rest) = some (leaf.node, '\n' :: rest) := by
  cases leaf with
  | flag b => cases b <;> rfl
  | number n =>
    have hread := readScalar_toDigits (of_decide_eq_true hfits) rest
    have hall := isDigit_toDigits n
    rw [render, Nat.toString_eq_ofList_toDigits, String.toList_ofList]
    obtain ⟨d, ds, hdigits⟩ := List.exists_cons_of_ne_nil (Nat.toDigits_ne_nil (n := n) (b := 10))
    rw [hdigits] at hread hall ⊢
    have hd := hall d List.mem_cons_self
    rw [List.cons_append] at hread ⊢
    rw [readNode, hread]
    · rfl
    · simp [ne_of_isDigit hd (d := '[') rfl]
    · simp [ne_of_isDigit hd (d := '\x7b') rfl]
  | text s =>
    rw [render, String.toList_ofList, readNode_quote _ _ ('\n' :: rest) nofun nofun,
      String.ofList_toList]
    rfl
  | texts items => exact readNode_texts _ items rest

end Leaf

end NestedGroups.Toml
