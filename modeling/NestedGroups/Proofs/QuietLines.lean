import NestedGroups.Proofs.Provenance
import NestedGroups.Proofs.Reporting
import NestedGroups.Text.Basic

namespace NestedGroups

namespace Text

/-- The lines of a text. Each of them ends in a line feed, which the last one may lack. -/
def lines (s : String) : List String :=
  let ps := parts '\n' s.toList
  (if ps.getLast? = some [] then ps.dropLast else ps).map .ofList

theorem parts_flatMap_append (separator : Char) (texts : List (List Char)) :
    parts separator (texts.flatMap (· ++ [separator])) =
      texts.flatMap (parts separator) ++ [[]] := by
  induction texts with
  | nil => rfl
  | cons text texts ih =>
    rw [List.flatMap_cons, List.flatMap_cons, List.append_assoc, List.singleton_append,
      parts_append_cons, ih, List.append_assoc]

theorem lines_join (texts : List String) :
    lines (String.join (texts.map (· ++ "\n"))) =
      texts.flatMap fun text => (parts '\n' text.toList).map .ofList := by
  have htext : (String.join (texts.map (· ++ "\n"))).toList =
      (texts.map String.toList).flatMap (· ++ ['\n']) := by
    rw [String.toList_join, List.flatMap_map, List.flatMap_map]
    apply List.flatMap_congr
    intro text _
    exact String.toList_append
  rw [lines, htext, parts_flatMap_append, List.getLast?_concat, List.dropLast_concat]
  rw [if_pos rfl, List.flatMap_map, List.map_flatMap]

theorem feed_not_mem_of_mem_lines_join {texts : List String} {line : String}
    (h : line ∈ lines (String.join (texts.map (· ++ "\n")))) : '\n' ∉ line.toList := by
  rw [lines_join] at h
  obtain ⟨text, -, hline⟩ := List.mem_flatMap.1 h
  obtain ⟨part, hpart, rfl⟩ := List.mem_map.1 hline
  rw [String.toList_ofList]
  exact separator_not_mem_parts hpart

theorem lines_join_eq_iff {texts : List String} :
    lines (String.join (texts.map (· ++ "\n"))) = texts ↔ ∀ text ∈ texts, '\n' ∉ text.toList := by
  constructor
  · intro h text hmem
    rw [← h] at hmem
    exact feed_not_mem_of_mem_lines_join hmem
  · intro h
    rw [lines_join]
    induction texts with
    | nil => rfl
    | cons text texts ih =>
      obtain ⟨htext, htexts⟩ := List.forall_mem_cons.1 h
      rw [List.flatMap_cons, parts_of_not_mem htext, ih htexts, List.map_singleton,
        String.ofList_toList, List.singleton_append]

theorem ofNat_ne_of_lt {x : Char} {n : Nat} (hx : 0 < x.toNat) (hn : x.toNat < n) :
    Char.ofNat n ≠ x := by
  rintro rfl
  rcases toNat_ofNat_cases n with h | hzero
  · omega
  · omega

theorem CaseMap.mem_apply_iff {m : CaseMap} {x : Char} (hx : 0 < x.toNat)
    (hruns : ∀ run ∈ m.runs, x.toNat < run.first ∧ x.toNat < run.target)
    (hexpansions : ∀ e ∈ m.expansions, x.toNat < e.1 ∧ ∀ n ∈ e.2, x.toNat < n) (c : Char) :
    x ∈ m.apply c ↔ x = c := by
  rw [apply]
  split
  · rename_i n hn
    obtain ⟨run, hrun, himage⟩ := List.exists_of_findSome?_eq_some hn
    obtain ⟨hfirst, htarget⟩ := hruns run hrun
    rw [CaseRun.image?] at himage
    split at himage
    · rename_i hin
      cases himage
      apply iff_of_false
      · intro hmem
        exact ofNat_ne_of_lt hx (by omega) (List.mem_singleton.1 hmem).symm
      · rintro rfl
        omega
    · cases himage
  · split
    · rename_i ns hns
      obtain ⟨hkey, himages⟩ := hexpansions _ (mem_of_lookup hns)
      apply iff_of_false
      · intro hmem
        obtain ⟨n, hn, heq⟩ := List.mem_map.1 hmem
        exact ofNat_ne_of_lt hx (himages n hn) heq
      · rintro rfl
        exact Nat.lt_irrefl _ hkey
    · exact List.mem_singleton

theorem feed_mem_upperCase_iff (s : String) : '\n' ∈ (upperCase s).toList ↔ '\n' ∈ s.toList := by
  have hruns : ∀ run ∈ upperMap.runs,
      '\n'.toNat < run.first ∧ '\n'.toNat < run.target := by
    decide +kernel
  have hexpansions : ∀ e ∈ upperMap.expansions,
      '\n'.toNat < e.1 ∧ ∀ n ∈ e.2, '\n'.toNat < n := by
    decide +kernel
  rw [upperCase, CaseMap.applyText, String.toList_ofList, List.mem_flatMap]
  simp only [CaseMap.mem_apply_iff (by decide) hruns hexpansions, exists_eq_right']

end Text

theorem RoleStyle.feed_mem_roleOf_iff (style : RoleStyle) (label : String) :
    '\n' ∈ (style.roleOf label).toList ↔ '\n' ∈ style.lead.toList ∨ '\n' ∈ label.toList := by
  rw [roleOf, String.toList_append, List.mem_append]
  apply or_congr_right
  split
  · exact Text.feed_mem_upperCase_iff label
  · rfl

namespace Resolver

variable {σ : Type}

/-- The label is the reason why a role is granted: an entry in some answer holds it, or it names the
role of every principal. -/
def Grants (r : Resolver σ) (dn name : String) (state : σ) (label : String) : Prop :=
  (∃ x ∈ r.exchanges dn name state, ∃ e ∈ x.entries, label ∈ e.values r.settings.roleAttribute) ∨
    r.settings.defaultRole = some label

theorem mem_keys_resolve_iff {r : Resolver σ} {dn name : String} {state : σ} {found : Resolution}
    (h : (r.resolve dn name state).result = .ok found) {role source : String} :
    (role, source) ∈ found.authorities.keys ↔
      ∃ x ∈ r.exchanges dn name state, ∃ e ∈ x.entries, r.settings.Derives e role source := by
  cases hbase : r.settings.base with
  | none =>
    rw [resolve_of_disabled hbase] at h
    cases h
    rw [exchanges_of_disabled hbase]
    apply iff_of_false
    · exact AuthoritySet.not_mem_keys_empty _
    · rintro ⟨x, hx, -⟩
      cases hx
  | some base =>
    obtain ⟨order, hhistory, hfound⟩ := exists_history hbase h
    rw [hfound]
    exact GroupSearch.mem_keys_gather_of_perm hhistory.perm

end Resolver

namespace Report

variable {σ : Type} {r : Resolver σ} {dn : String} {username : Option String} {wantStats : Bool}
  {state : σ} {page : Report}

def roles (r : Report) : List String :=
  r.rows.map (·.role)

theorem print_quiet (r : Report) : r.print .quiet = String.join (r.roles.map (· ++ "\n")) := by
  rw [print, roles, List.map_map]
  rfl

theorem exists_of_ofUser_ok (h : (ofUser r dn username wantStats state).result = .ok page) :
    ∃ found, (r.resolve dn (usernameOf dn username) state).result = .ok found ∧
      page = ofResolution dn (usernameOf dn username) wantStats
        { found with authorities := r.settings.grantDefault dn found.authorities } := by
  cases hdn : Text.isAllBlank dn with
  | true =>
    rw [ofUser_of_blank hdn] at h
    cases h
  | false =>
    cases hresolved : (r.resolve dn (usernameOf dn username) state).result with
    | error e =>
      obtain ⟨hfailed, -⟩ := ofUser_of_error hdn hresolved wantStats
      cases hfailed.symm.trans h
    | ok found =>
      rw [ofUser_of_ok hdn hresolved] at h
      exact ⟨found, rfl, (Except.ok.inj h).symm⟩

theorem mem_roles_ofResolution {name role : String} {found : Resolution} :
    role ∈ (ofResolution dn name wantStats found).roles ↔
      ∃ source, (role, source) ∈ found.authorities.keys := by
  simp only [← mem_rowsOf]
  rw [roles, ofResolution, List.mem_map]
  constructor
  · rintro ⟨row, hrow, rfl⟩
    exact ⟨row.source, hrow⟩
  · rintro ⟨source, hrow⟩
    exact ⟨_, hrow, rfl⟩

theorem mem_roles_iff (h : (ofUser r dn username wantStats state).result = .ok page)
    {role : String} :
    role ∈ page.roles ↔
      ∃ label, r.Grants dn (usernameOf dn username) state label ∧
        r.settings.style.roleOf label = role := by
  obtain ⟨found, hresolved, rfl⟩ := exists_of_ofUser_ok h
  rw [mem_roles_ofResolution]
  simp only [GroupSearch.mem_keys_grantDefault, Resolver.mem_keys_resolve_iff hresolved]
  constructor
  · rintro ⟨source, ⟨x, hx, e, he, -, label, hlabel, hrole⟩ | ⟨label, hlabel, hrole, -⟩⟩
    · exact ⟨label, .inl ⟨x, hx, e, he, hlabel⟩, hrole⟩
    · exact ⟨label, .inr hlabel, hrole.symm⟩
  · rintro ⟨label, ⟨x, hx, e, he, hlabel⟩ | hlabel, hrole⟩
    · exact ⟨e.dn, .inl ⟨x, hx, e, he, rfl, label, hlabel, hrole⟩⟩
    · exact ⟨dn, .inr ⟨label, hlabel, hrole.symm, rfl⟩⟩

/-- The lines of a report in quiet print are the parts of its roles between line feeds. They are the
roles just if there is no line feed in a label that grants something, nor in the lead before it, and
then the print shows them from any others without a line feed. -/
theorem lines_print_quiet (h : (ofUser r dn username wantStats state).result = .ok page) :
    let lines := Text.lines (page.print .quiet)
    lines = page.roles.flatMap (fun role => (Text.parts '\n' role.toList).map .ofList) ∧
      (lines = page.roles ↔ ∀ label, r.Grants dn (usernameOf dn username) state label →
        '\n' ∉ r.settings.style.lead.toList ∧ '\n' ∉ label.toList) ∧
      (lines = page.roles → ∀ other : Report, (∀ role ∈ other.roles, '\n' ∉ role.toList) →
        (other.print .quiet = page.print .quiet ↔ other.roles = page.roles)) := by
  intro lines
  have hlines : lines = page.roles ↔ ∀ role ∈ page.roles, '\n' ∉ role.toList := by
    simp only [lines, print_quiet, Text.lines_join_eq_iff]
  refine ⟨?_, ?_, ?_⟩
  · simp only [lines, print_quiet, Text.lines_join]
  · rw [hlines]
    simp only [mem_roles_iff h, ← not_or, ← RoleStyle.feed_mem_roleOf_iff]
    constructor
    · intro hroles label hlabel
      exact hroles _ ⟨label, hlabel, rfl⟩
    · rintro hlabels _ ⟨label, hlabel, rfl⟩
      exact hlabels label hlabel
  · intro hpage other hother
    constructor
    · intro hprint
      rw [← hpage, ← Text.lines_join_eq_iff.2 hother, ← print_quiet, hprint]
    · intro hroles
      rw [print_quiet, print_quiet, hroles]

theorem roles_ofResolution_of_sorted {name : String} {found : Resolution}
    (hsorted : (found.authorities.keys.map fun key => Row.mk key.1 key.2).Pairwise
      fun a b => a.le b = true) :
    (ofResolution dn name wantStats found).roles = found.authorities.keys.map Prod.fst := by
  rw [AuthoritySet.keys, List.map_map] at hsorted ⊢
  rw [roles, ofResolution]
  -- A merge sort does not compute by itself, but it leaves alone what is in order.
  have hrows : rowsOf found.authorities = _ := List.mergeSort_of_pairwise hsorted
  rw [hrows, List.map_map]
  rfl

theorem exists_page_of_keys {name : String} {keys : List (String × String)}
    (hdn : Text.isAllBlank dn = false) (hdefault : r.settings.defaultRole = none)
    (hkeys : (r.resolve dn name state).result.map (·.authorities.keys) = .ok keys)
    (hsorted : (keys.map fun key => Row.mk key.1 key.2).Pairwise fun a b => a.le b = true) :
    ∃ page, (ofUser r dn (some name) false state).result = .ok page ∧
      page.roles = keys.map Prod.fst := by
  cases hresolved : (r.resolve dn name state).result with
  | error e =>
    rw [hresolved] at hkeys
    cases hkeys
  | ok found =>
    rw [hresolved] at hkeys
    obtain rfl : found.authorities.keys = keys := Except.ok.inj hkeys
    refine ⟨_, ofUser_of_ok hdn hresolved, ?_⟩
    rw [GroupSearch.grantDefault, hdefault]
    exact roles_ofResolution_of_sorted hsorted

theorem lines_print_quiet_of_two_groups :
    let a := Entry.ofList "cn=a" [("cn", ["a"]), ("member", ["u"])]
    let b := Entry.ofList "cn=b" [("cn", ["b"]), ("member", ["u"])]
    let d : InMemory := ⟨[a, b], "member", none⟩
    let r : Resolver InMemory.Journal := ⟨d.client, { GroupSearch.default with base := some "" }⟩
    ∃ page, (ofUser r "u" (some "u") false []).result = .ok page ∧
      page.roles = ["ROLE_A", "ROLE_B"] ∧
      Text.lines (page.print .quiet) = page.roles ∧
      (∀ label, r.Grants "u" "u" [] label → '\n' ∉ label.toList) ∧
      ∀ other : Report, other.roles = ["ROLE_A"] → other.print .quiet ≠ page.print .quiet := by
  intro a b d r
  have hbase : r.settings.base = some "" := rfl
  have hkeys : (r.resolve "u" "u" []).result.map (·.authorities.keys) =
      .ok [("ROLE_A", "cn=a"), ("ROLE_B", "cn=b")] := by
    rw [Resolver.resolve_eq_ofRun hbase]
    decide +kernel
  obtain ⟨page, hpage, hroles⟩ := exists_page_of_keys (by decide) rfl hkeys (by decide)
  obtain ⟨hparts, hfree, hother⟩ := lines_print_quiet hpage
  have hlines : Text.lines (page.print .quiet) = page.roles := by
    rw [hparts, hroles]
    decide
  refine ⟨page, hpage, hroles, hlines, fun label hlabel => (hfree.1 hlines label hlabel).2, ?_⟩
  intro other hone hprint
  have hline : ∀ role ∈ other.roles, '\n' ∉ role.toList := by
    rw [hone]
    decide
  have hsame := (hother hlines other hline).1 hprint
  rw [hone, hroles] at hsame
  cases hsame

/-- A line feed in the label of a group makes the print that of two roles. -/
theorem print_quiet_eq_of_line_feed :
    let g : GroupSearch := { GroupSearch.default with base := some "" }
    let a := Entry.ofList "cn=a" [("cn", ["a"]), ("member", ["u"])]
    let b := Entry.ofList "cn=b" [("cn", ["b"]), ("member", ["u"])]
    let both : Entry := .ofList "cn=a" [("cn", ["a\nrole_b"]), ("member", ["u"])]
    let r : Resolver InMemory.Journal := ⟨(InMemory.mk [a, b] "member" none).client, g⟩
    let r' : Resolver InMemory.Journal := ⟨(InMemory.mk [both] "member" none).client, g⟩
    ∃ page page', (ofUser r "u" (some "u") false []).result = .ok page ∧
      (ofUser r' "u" (some "u") false []).result = .ok page' ∧
      page.roles = ["ROLE_A", "ROLE_B"] ∧ page'.roles = ["ROLE_A\nROLE_B"] ∧
      page'.print .quiet = page.print .quiet ∧
      Text.lines (page'.print .quiet) = ["ROLE_A", "ROLE_B"] := by
  intro g a b both r r'
  have hkeys : (r.resolve "u" "u" []).result.map (·.authorities.keys) =
      .ok [("ROLE_A", "cn=a"), ("ROLE_B", "cn=b")] := by
    rw [Resolver.resolve_eq_ofRun rfl]
    decide +kernel
  have hkeys' : (r'.resolve "u" "u" []).result.map (·.authorities.keys) =
      .ok [("ROLE_A\nROLE_B", "cn=a")] := by
    rw [Resolver.resolve_eq_ofRun rfl]
    decide +kernel
  obtain ⟨page, hpage, hroles⟩ := exists_page_of_keys (by decide) rfl hkeys (by decide)
  obtain ⟨page', hpage', hroles'⟩ := exists_page_of_keys (by decide) rfl hkeys' (by decide)
  have hprint : page'.print .quiet = page.print .quiet := by
    rw [print_quiet, print_quiet, hroles, hroles']
    decide
  refine ⟨page, page', hpage, hpage', hroles, hroles', hprint, ?_⟩
  rw [print_quiet, hroles', Text.lines_join]
  decide

end Report

end NestedGroups
