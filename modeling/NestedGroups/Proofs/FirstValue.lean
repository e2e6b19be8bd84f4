import NestedGroups.Directory
import NestedGroups.Proofs.Lists
import NestedGroups.Proofs.Recursion
import NestedGroups.Report

namespace NestedGroups

namespace Text

variable {c : Char} {cs : List Char}

theorem mem_dropWhile_isBlank (hc : isBlank c = false) (h : c ∈ cs) :
    c ∈ cs.dropWhile isBlank := by
  rw [← List.takeWhile_append_dropWhile (p := isBlank) (l := cs), List.mem_append] at h
  rcases h with hblank | h
  · cases hc.symm.trans (List.mem_takeWhile_imp hblank)
  · exact h

theorem mem_of_mem_trimChars (h : c ∈ trimChars cs) : c ∈ cs := by
  rw [trimChars, List.mem_reverse] at h
  have hdrop := (List.dropWhile_sublist isBlank).mem h
  exact (List.dropWhile_sublist isBlank).mem (List.mem_reverse.1 hdrop)

theorem mem_trimChars (hc : isBlank c = false) (h : c ∈ cs) : c ∈ trimChars cs := by
  rw [trimChars, List.mem_reverse]
  apply mem_dropWhile_isBlank hc
  rw [List.mem_reverse]
  exact mem_dropWhile_isBlank hc h

end Text

namespace DistinguishedName

open Text

/-- A value as it is written in a name: a backslash takes the character behind it, and there is no
comma without one. -/
inductive Escaped : List Char → Prop
  | nil : Escaped []
  | plain {c : Char} {rest : List Char} (hbackslash : c ≠ '\\') (hcomma : c ≠ ',')
      (h : Escaped rest) : Escaped (c :: rest)
  | pair (c : Char) {rest : List Char} (h : Escaped rest) : Escaped ('\\' :: c :: rest)

def beforeComma (value : List Char) : List Char :=
  value.takeWhile (· ≠ ',')

variable {value rest : List Char}

theorem beforeComma_cons {c : Char} (hc : c ≠ ',') (value : List Char) :
    beforeComma (c :: value) = c :: beforeComma value :=
  List.takeWhile_cons_of_pos (decide_eq_true hc)

theorem beforeComma_append (value rest : List Char) :
    beforeComma (value ++ ',' :: rest) = beforeComma value := by
  induction value with
  | nil => rfl
  | cons c value ih =>
    by_cases hc : c = ','
    · rw [hc]
      rfl
    · rw [List.cons_append, beforeComma_cons hc, beforeComma_cons hc, ih]

theorem beforeComma_eq_self (h : ',' ∉ value) : beforeComma value = value := by
  rw [beforeComma, List.takeWhile_eq_self_iff]
  intro c hc
  apply decide_eq_true
  rintro rfl
  exact h hc

theorem comma_not_mem_beforeComma (value : List Char) : ',' ∉ beforeComma value :=
  not_mem_takeWhile_ne

theorem Escaped.beforeComma_not_blank (h : Escaped value) (hvalue : value.all isBlank = false) :
    (beforeComma value).all isBlank = false := by
  induction h with
  | nil => cases hvalue
  | @plain c rest _ hcomma _ ih =>
    rw [beforeComma_cons hcomma]
    rw [List.all_cons] at hvalue ⊢
    cases hblank : isBlank c with
    | false => rfl
    | true =>
      rw [hblank, Bool.true_and] at hvalue
      exact ih hvalue
  | pair =>
    rw [beforeComma_cons (by decide)]
    rfl

theorem trimChars_beforeComma_eq_iff :
    trimChars (beforeComma value) = trimChars value ↔ ',' ∉ value := by
  constructor
  · intro h hmem
    have hcomma := mem_trimChars (by decide) hmem
    rw [← h] at hcomma
    exact comma_not_mem_beforeComma value (mem_of_mem_trimChars hcomma)
  · intro h
    rw [beforeComma_eq_self h]

theorem firstValue_eq {type : List Char} {dn : String} (hequals : '=' ∉ type) (hcomma : ',' ∉ type)
    (hvalue : (beforeComma value).all isBlank = false) (hdn : dn.toList = type ++ '=' :: value) :
    firstValue dn = .ofList (trimChars (beforeComma value)) := by
  have htype {x : Char} (hx : x ∉ type) : ∀ c ∈ type, decide (c ≠ x) = true := by
    intro c hc
    apply decide_eq_true
    rintro rfl
    exact hx hc
  have hrelative : dn.toList.takeWhile (· ≠ ',') = type ++ '=' :: beforeComma value := by
    rw [hdn, List.takeWhile_append_of_pos (htype hcomma)]
    rfl
  have hbehind : ((type ++ '=' :: beforeComma value).dropWhile (· ≠ '=')).tail =
      beforeComma value := by
    rw [List.dropWhile_append_of_pos (htype hequals)]
    rfl
  have hne : trimChars (beforeComma value) ≠ [] := by
    intro hnil
    rw [trimChars_eq_nil_iff] at hnil
    cases hvalue.symm.trans hnil
  rw [firstValue, hrelative, hbehind]
  split
  · contradiction
  · rfl

end DistinguishedName

namespace Resolver

variable {σ : Type}

theorem exists_exchanges_eq {r : Resolver σ} {base : String} (hbase : r.settings.base = some base)
    (hdepth : 0 < r.settings.maxDepth) (dn label : String) (state : σ) :
    ∃ answer rest,
      r.exchanges dn label state = ⟨r.settings.query base dn label, answer⟩ :: rest := by
  obtain ⟨depth, hdepth⟩ := Nat.exists_eq_add_of_lt hdepth
  rw [exchanges_eq_run hbase, hdepth, Nat.zero_add]
  rcases hreply : r.client.search (r.settings.query base dn label) state with ⟨e | found, s⟩
  · rw [GroupSearch.hold_search_of_error hreply]
    exact ⟨_, _, rfl⟩
  · rw [GroupSearch.hold_search_of_ok hreply]
    exact ⟨_, _, rfl⟩

end Resolver

namespace DistinguishedName

open Text

variable {σ : Type} {type value dn : String}

/-- The value of the first relative name is read up to its first comma. That is the whole value just
if there is no comma in it; and it is the name of a user for whom none is given, in the report and
in the first query. -/
theorem firstValue_eq_beforeComma (hequals : '=' ∉ type.toList) (hcomma : ',' ∉ type.toList)
    (hescaped : Escaped value.toList) (hvalue : isAllBlank value = false)
    (hdn : dn = type ++ "=" ++ value ∨ ∃ rest, dn = type ++ "=" ++ value ++ "," ++ rest)
    (r : Resolver σ) (wantStats : Bool) (state : σ) :
    let read := trim (.ofList (beforeComma value.toList))
    firstValue dn = read ∧
      (firstValue dn = trim value ↔ ',' ∉ value.toList) ∧
      Report.ofUser r dn none wantStats state = Report.ofUser r dn (some read) wantStats state ∧
      ∀ base, r.settings.base = some base → 0 < r.settings.maxDepth →
        ∃ answer rest, r.exchanges dn (Report.usernameOf dn none) state =
          ⟨r.settings.query base dn read, answer⟩ :: rest := by
  intro read
  have hread : firstValue dn = read := by
    have hblank := hescaped.beforeComma_not_blank hvalue
    have htrim : read = .ofList (trimChars (beforeComma value.toList)) := by
      simp only [read, trim, String.toList_ofList]
    rw [htrim]
    rcases hdn with rfl | ⟨rest, rfl⟩
    · apply firstValue_eq hequals hcomma hblank
      simp only [String.toList_append, List.append_assoc]
      rfl
    · rw [← beforeComma_append value.toList rest.toList] at hblank ⊢
      apply firstValue_eq hequals hcomma hblank
      simp only [String.toList_append, List.append_assoc]
      rfl
  have hname : Report.usernameOf dn none = read := hread
  refine ⟨hread, ?_, ?_, ?_⟩
  · rw [hread, ← trimChars_beforeComma_eq_iff]
    simp only [read, trim, String.toList_ofList, String.ofList_inj]
  · rw [Report.ofUser, Report.ofUser, hname]
    rfl
  · intro base hbase hdepth
    rw [hname]
    exact Resolver.exists_exchanges_eq hbase hdepth dn read state

theorem firstValue_eq_beforeComma_of_backslash :
    let value := " a=\\\\ "
    let dn := "cn= a=\\\\ ,o"
    let d : InMemory := ⟨[], "member", none⟩
    let r : Resolver InMemory.Journal := ⟨d.client, { GroupSearch.default with base := some "o" }⟩
    firstValue dn = trim value ∧ trim value = "a=\\\\" ∧
      Report.ofUser r dn none true [] = Report.ofUser r dn (some "a=\\\\") true [] ∧
      ∃ answer rest, r.exchanges dn (Report.usernameOf dn none) [] =
        ⟨r.settings.query "o" dn "a=\\\\", answer⟩ :: rest := by
  intro value dn d r
  have hescaped : Escaped " a=\\\\ ".toList :=
    .plain (by decide) (by decide) <| .plain (by decide) (by decide) <|
      .plain (by decide) (by decide) <| .pair '\\' <| .plain (by decide) (by decide) .nil
  have hdn : dn = "cn" ++ "=" ++ value ++ "," ++ "o" := by decide +kernel
  have hread : trim (.ofList (beforeComma value.toList)) = "a=\\\\" := by decide +kernel
  obtain ⟨-, hwhole, hreport, hquery⟩ := firstValue_eq_beforeComma (by decide) (by decide) hescaped
    (by decide +kernel) (.inr ⟨"o", hdn⟩) r true []
  rw [hread] at hreport hquery
  exact ⟨hwhole.2 (by decide), by decide +kernel, hreport, hquery "o" rfl (by decide)⟩

/-- A comma inside a value ends it, although there is a backslash in front. -/
theorem firstValue_ne_of_escaped_comma :
    ¬ ∀ type value rest : String, '=' ∉ type.toList → ',' ∉ type.toList → '\\' ∉ type.toList →
      Escaped value.toList → isAllBlank value = false →
      firstValue (type ++ "=" ++ value ++ "," ++ rest) = trim value ∧
        firstValue (type ++ "=" ++ value) = trim value := by
  intro h
  have hescaped : Escaped "a\\,b".toList :=
    .plain (by decide) (by decide) (.pair ',' (.plain (by decide) (by decide) .nil))
  obtain ⟨hfirst, -⟩ := h "cn" "a\\,b" "o" (by decide) (by decide) (by decide) hescaped
    (by decide +kernel)
  have hread : firstValue ("cn" ++ "=" ++ "a\\,b" ++ "," ++ "o") = "a\\" := by decide +kernel
  have hwhole : trim "a\\,b" = "a\\,b" := by decide +kernel
  rw [hread, hwhole] at hfirst
  exact absurd hfirst (by decide)

end DistinguishedName

end NestedGroups
