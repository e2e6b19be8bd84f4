import NestedGroups.Directory
import NestedGroups.Proofs.SmallLetters
import NestedGroups.Text.Basic

namespace NestedGroups

open NestedGroups.Text

theorem Text.toLower_eq_comma_iff (c : Char) : c.toLower = ',' ↔ c = ',' := by
  rcases Nat.lt_or_ge c.toNat 0x80 with hascii | hlarge
  · have hall : ∀ n : Fin 0x80, (Char.ofNat n).toLower = ',' ↔ Char.ofNat n = ',' := by
      decide +kernel
    have hc := hall ⟨c.toNat, hascii⟩
    rwa [Char.ofNat_toNat] at hc
  · rw [toLower_of_not_ascii hlarge]

namespace DistinguishedName

def components (dn : String) : List String :=
  (parts ',' dn.toList).map .ofList

variable {a b c dn base : String}

theorem map_fold_components (dn : String) :
    (components dn).map fold = (parts ',' (fold dn).toList).map .ofList := by
  rw [toList_fold, parts_map toLower_eq_comma_iff, components, List.map_map, List.map_map]
  apply List.map_congr_left
  intro part _
  rw [Function.comp_apply, Function.comp_apply, ← String.toList_inj, toList_fold,
    String.toList_ofList, String.toList_ofList]

theorem map_fold_components_inj :
    (components a).map fold = (components b).map fold ↔ fold a = fold b := by
  have hinj (xs ys : List Char) (h : String.ofList xs = String.ofList ys) : xs = ys :=
    String.ofList_injective h
  rw [map_fold_components, map_fold_components, List.map_inj_right hinj, parts_inj,
    String.toList_inj]

theorem suffix_components_iff :
    (components base).map fold <:+ (components dn).map fold ↔
      fold dn = fold base ∨ ',' :: (fold base).toList <:+ (fold dn).toList := by
  rw [map_fold_components, map_fold_components, ← String.toList_inj, ← parts_suffix_iff]
  constructor
  · intro h
    have hlists := h.map String.toList
    simpa only [List.map_map, Function.comp_def, String.toList_ofList, List.map_id'] using hlists
  · intro h
    exact h.map _

theorem isUnder_iff (hbase : base ≠ "") :
    isUnder dn base = true ↔ (components base).map fold <:+ (components dn).map fold := by
  have hempty : base.isEmpty = false := by
    rw [Bool.eq_false_iff, ne_eq, String.isEmpty_iff]
    exact hbase
  rw [suffix_components_iff, isUnder, hempty, Bool.false_or, Bool.or_eq_true, sameFold_iff,
    List.isSuffixOf_iff_suffix]

theorem isUnder_of_sameFold (h : sameFold a b = true) : isUnder a b = true := by
  rw [isUnder, h, Bool.or_true, Bool.true_or]

theorem eq_empty_of_isUnder_empty (h : isUnder "" base = true) : base = "" := by
  by_cases hbase : base = ""
  · exact hbase
  · rw [isUnder_iff hbase, suffix_components_iff] at h
    have hnil : (fold "").toList = [] := toList_fold ""
    rcases h with h | h
    · rw [← String.toList_inj, hnil, toList_fold] at h
      exact String.toList_eq_nil_iff.1 (List.map_eq_nil_iff.1 h.symm)
    · rw [hnil, List.suffix_nil] at h
      cases h

theorem isUnder_trans (hab : isUnder a b = true) (hbc : isUnder b c = true) :
    isUnder a c = true := by
  by_cases hc : c = ""
  · rw [hc]
    exact isUnder_empty a
  · have hb : b ≠ "" := by
      rintro rfl
      exact hc (eq_empty_of_isUnder_empty hbc)
    rw [isUnder_iff hb] at hab
    rw [isUnder_iff hc] at hbc ⊢
    exact hbc.trans hab

theorem sameFold_of_isUnder (hab : isUnder a b = true) (hba : isUnder b a = true) :
    sameFold a b = true := by
  by_cases ha : a = ""
  · subst ha
    rw [eq_empty_of_isUnder_empty hab]
    exact sameFold_refl ""
  · have hb : b ≠ "" := by
      rintro rfl
      exact ha (eq_empty_of_isUnder_empty hba)
    rw [isUnder_iff hb] at hab
    rw [isUnder_iff ha] at hba
    have heq := hab.eq_of_length_le hba.length_le
    exact sameFold_iff.2 (map_fold_components_inj.1 heq).symm

end DistinguishedName

namespace InMemory

open DistinguishedName

theorem answer_of_isUnder (d : InMemory) {q : Query} {base : String}
    (h : isUnder base q.base = true) :
    d.answer { q with base := base } = (d.answer q).filter fun e => isUnder e.dn base := by
  have hdn (e : Entry) : isUnder (e.project q.attributes).dn base = isUnder e.dn base := by
    rw [Entry.project_dn]
  have hboth (e : Entry) :
      (isUnder e.dn base && (isUnder e.dn q.base && d.lists e q.identity)) =
        (isUnder e.dn base && d.lists e q.identity) := by
    cases hunder : isUnder e.dn base with
    | false => rfl
    | true => rw [isUnder_trans hunder h, Bool.true_and]
  rw [answer, answer, parents, parents, List.filter_map, List.filter_filter]
  simp only [Function.comp_def, hdn, hboth]

theorem search_of_isUnder (d : InMemory) {q : Query} {base : String}
    (h : isUnder base q.base = true) (journal : Journal) :
    (d.client.search { q with base := base } journal).1 =
      (d.client.search q journal).1.map (List.filter fun e => isUnder e.dn base) := by
  simp only [client]
  split
  · rfl
  · rw [d.answer_of_isUnder h]
    rfl

end InMemory

namespace DistinguishedName

/-- A name lies under a base if its last relative names are those of the base, letter case apart;
the empty base holds every name. So names that lie under each other are the same but for letter
case, and what a search finds under a narrower base is a part of what it finds under a wider one. -/
theorem isUnder_iff_ends (a b c : String) (d : InMemory) (q : Query) (journal : InMemory.Journal) :
    (b ≠ "" → (isUnder a b = true ↔ (components b).map fold <:+ (components a).map fold)) ∧
      isUnder a "" = true ∧
      isUnder a a = true ∧
      (isUnder a b = true → isUnder b c = true → isUnder a c = true) ∧
      (isUnder a b = true ∧ isUnder b a = true ↔ sameFold a b = true) ∧
      (isUnder b q.base = true →
        let wide := (d.client.search q journal).1
        let narrow := (d.client.search { q with base := b } journal).1
        narrow = wide.map (List.filter fun e => isUnder e.dn b) ∧
          ∀ found, wide = .ok found → ∃ part, narrow = .ok part ∧ part.Sublist found) := by
  refine ⟨isUnder_iff, isUnder_empty a, isUnder_refl a, isUnder_trans, ?_, ?_⟩
  · constructor
    · rintro ⟨hab, hba⟩
      exact sameFold_of_isUnder hab hba
    · intro h
      exact ⟨isUnder_of_sameFold h, isUnder_of_sameFold (sameFold_comm b a ▸ h)⟩
  · intro h wide narrow
    have hnarrow : narrow = wide.map (List.filter fun e => isUnder e.dn b) :=
      d.search_of_isUnder h journal
    refine ⟨hnarrow, fun found hfound => ?_⟩
    rw [hfound] at hnarrow
    exact ⟨_, hnarrow, List.filter_sublist⟩

/-- What merely ends in the letters of the base does not lie under it. -/
theorem isUnder_iff_ends_of_capitals :
    let a := Entry.ofList "cn=a,OU=Groups,o" [("member", ["u"])]
    let b := Entry.ofList "cn=b,ou=xgroups,o" [("member", ["u"])]
    let d : InMemory := ⟨[a, b], "member", none⟩
    let q : Query := ⟨"o", .default, "u", "u", .empty⟩
    components a.dn = ["cn=a", "OU=Groups", "o"] ∧
      (components "ou=groups,O").map fold <:+ (components a.dn).map fold ∧
      isUnder b.dn "ou=groups,O" = false ∧ isUnder a.dn "o" = true ∧ d.answer q = [a, b] ∧
      (d.client.search { q with base := "ou=groups,O" } []).1 = .ok [a] ∧ [a].Sublist [a, b] := by
  intro a b d q
  have hanswer : d.answer q = [a, b] := by decide +kernel
  have hwide : (d.client.search q []).1 = .ok [a, b] := congrArg Except.ok hanswer
  have hbase : isUnder "ou=groups,O" q.base = true := by decide +kernel
  have ha : isUnder a.dn "ou=groups,O" = true := by decide +kernel
  obtain ⟨hiff, -, -, htrans, -, hsearch⟩ := isUnder_iff_ends a.dn "ou=groups,O" "o" d q []
  obtain ⟨hfilter, hpart⟩ := hsearch hbase
  obtain ⟨part, hnarrow, hsublist⟩ := hpart [a, b] hwide
  have hkept : [a, b].filter (fun e => isUnder e.dn "ou=groups,O") = [a] := by decide +kernel
  rw [hwide, Except.map, hkept] at hfilter
  obtain rfl := Except.ok.inj (hnarrow.symm.trans hfilter)
  exact ⟨by decide +kernel, (hiff (by decide)).1 ha, by decide +kernel, htrans ha hbase, hanswer,
    hfilter, hsublist⟩

end DistinguishedName

end NestedGroups
