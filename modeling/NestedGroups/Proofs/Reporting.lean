import Mathlib.Data.List.Nodup
import Mathlib.Data.Prod.Lex
import Mathlib.Data.String.Basic
import NestedGroups.Proofs.FailStop

namespace NestedGroups

theorem GroupSearch.mem_keys_grantDefault {g : GroupSearch} {dn role source : String}
    {found : AuthoritySet} :
    (role, source) ∈ (g.grantDefault dn found).keys ↔
      (role, source) ∈ found.keys ∨
        ∃ label, g.defaultRole = some label ∧ role = g.style.roleOf label ∧ source = dn := by
  rw [grantDefault]
  cases g.defaultRole with
  | none => simp only [reduceCtorEq, false_and, exists_false, or_false]
  | some label =>
    simp only [AuthoritySet.mem_keys_insert, Authority.key, Prod.mk.injEq, Option.some.injEq,
      exists_eq_left']
    exact or_comm

namespace Report

variable {found : AuthoritySet} {a b : Row}

def Row.key (row : Row) : String ×ₗ String :=
  toLex (row.role, row.source)

theorem Row.le_iff : a.le b = true ↔ a.key ≤ b.key := by
  rw [Row.le, Row.key, Row.key, Prod.Lex.toLex_le_toLex]
  simp only [Bool.or_eq_true, Bool.and_eq_true, decide_eq_true_eq, beq_iff_eq]

theorem Row.key_lt_iff :
    a.key < b.key ↔ a.role < b.role ∨ a.role = b.role ∧ a.source < b.source :=
  Prod.Lex.toLex_lt_toLex

theorem Row.key_injective : Function.Injective Row.key := by
  rintro ⟨role, source⟩ ⟨role', source'⟩ h
  cases h
  rfl

theorem rowsOf_perm (found : AuthoritySet) :
    (rowsOf found).Perm (found.toList.map fun a => ⟨a.role, a.dn⟩) :=
  List.mergeSort_perm _ _

theorem mem_rowsOf {role source : String} :
    ⟨role, source⟩ ∈ rowsOf found ↔ (role, source) ∈ found.keys := by
  rw [(rowsOf_perm found).mem_iff, AuthoritySet.keys]
  simp only [List.mem_map, Row.mk.injEq, Authority.key, Prod.mk.injEq]

theorem nodup_rowsOf (found : AuthoritySet) : (rowsOf found).Nodup := by
  have hkeys : (found.toList.map fun a => (⟨a.role, a.dn⟩ : Row)).Nodup := by
    refine List.Nodup.of_map (fun row : Row => (row.role, row.source)) ?_
    rw [List.map_map]
    exact found.nodup
  exact (rowsOf_perm found).nodup_iff.2 hkeys

theorem pairwise_rowsOf (found : AuthoritySet) :
    (rowsOf found).Pairwise fun a b => a.role < b.role ∨ a.role = b.role ∧ a.source < b.source := by
  have hle : (rowsOf found).Pairwise fun a b => a.le b = true := by
    refine List.pairwise_mergeSort (fun a b c hab hbc => ?_) (fun a b => ?_) _
    · exact Row.le_iff.2 ((Row.le_iff.1 hab).trans (Row.le_iff.1 hbc))
    · rw [Bool.or_eq_true, Row.le_iff, Row.le_iff]
      exact le_total a.key b.key
  refine (hle.and (nodup_rowsOf found)).imp fun h => ?_
  rw [← Row.key_lt_iff]
  exact lt_of_le_of_ne (Row.le_iff.1 h.1) (Row.key_injective.ne h.2)

variable {σ : Type} {r : Resolver σ} {dn : String} {username : Option String} {wantStats : Bool}
  {state : σ}

theorem ofUser_of_blank (hdn : Text.isAllBlank dn = true) :
    ofUser r dn username wantStats state =
      ⟨.error (.invalidArgument "user DN cannot be empty"), state, []⟩ :=
  if_pos hdn

theorem ofUser_client (hdn : Text.isAllBlank dn = false) :
    (ofUser r dn username wantStats state).client =
      (r.granted dn (usernameOf dn username) state).client := by
  rw [ofUser, hdn]
  rfl

theorem ofUser_of_ok {found : Resolution} (hdn : Text.isAllBlank dn = false)
    (h : (r.resolve dn (usernameOf dn username) state).result = .ok found) :
    (ofUser r dn username wantStats state).result =
      .ok (ofResolution dn (usernameOf dn username) wantStats
        { found with authorities := r.settings.grantDefault dn found.authorities }) := by
  rw [ofUser, hdn]
  simp only [Bool.false_eq_true, if_false, h]

/-- A report asks what the resolver asks that grants the authorities, fails as it does, and otherwise
lists what is granted: all that is resolved and the role of every principal. -/
theorem ofUser_eq_granted (r : Resolver σ) (dn : String) (username : Option String)
    (wantStats : Bool) (state : σ) :
    let report := ofUser r dn username wantStats state
    let recorded := ofUser r.recorded dn username wantStats (state, [])
    let name := username.getD (DistinguishedName.firstValue dn)
    let granted := r.granted dn name state
    let resolved := r.resolve dn name state
    (Text.isAllBlank dn = true →
        report.result = .error (.invalidArgument "user DN cannot be empty") ∧
          report.client = state ∧ recorded.client = (state, [])) ∧
      (Text.isAllBlank dn = false →
        report.client = granted.client ∧
          recorded.client = (r.recorded.granted dn name (state, [])).client ∧
          recorded.client.1 = report.client ∧
          ((∃ e, report.result = .error (.directory e) ∧ granted.result = .error e) ∨
            ∃ page all found, report.result = .ok page ∧ granted.result = .ok all ∧
              resolved.result = .ok found ∧
              (page.rows.Pairwise fun a b =>
                a.role < b.role ∨ a.role = b.role ∧ a.source < b.source) ∧
              (∀ role source,
                ⟨role, source⟩ ∈ page.rows ↔ (role, source) ∈ all.authorities.keys) ∧
              ∀ role source, (role, source) ∈ all.authorities.keys ↔
                (role, source) ∈ found.authorities.keys ∨
                  ∃ label, r.settings.defaultRole = some label ∧
                    role = r.settings.style.roleOf label ∧ source = dn)) := by
  intro report recorded name granted resolved
  refine ⟨fun hdn => ?_, fun hdn => ?_⟩
  · have hreport : report = _ := ofUser_of_blank hdn
    have hrecorded : recorded = _ := ofUser_of_blank hdn
    rw [hreport, hrecorded]
    exact ⟨rfl, rfl, rfl⟩
  · have hclient : report.client = granted.client := ofUser_client hdn
    have hrecorded : recorded.client = (r.recorded.granted dn name (state, [])).client :=
      ofUser_client hdn
    refine ⟨hclient, hrecorded, ?_, ?_⟩
    · rw [hclient, hrecorded, Resolver.granted_client, r.recorded_resolve]
      rfl
    · cases hresolved : resolved.result with
      | error e =>
        exact .inl ⟨e, (ofUser_of_error hdn hresolved wantStats).1,
          Resolver.granted_of_error hresolved⟩
      | ok found =>
        have hgranted : granted.result =
            .ok { found with authorities := r.settings.grantDefault dn found.authorities } :=
          congrArg (Except.map _) hresolved
        exact .inr ⟨_, _, found, ofUser_of_ok hdn hresolved, hgranted, rfl, pairwise_rowsOf _,
          fun role source => mem_rowsOf, fun role source => GroupSearch.mem_keys_grantDefault⟩

/-- The role of every principal was found before, in a group under the name of the user. -/
theorem ofUser_eq_granted_of_known_role :
    let d : InMemory := ⟨[.ofList "u" [("cn", ["user"]), ("member", ["u"])]], "member", none⟩
    let g : GroupSearch :=
      { GroupSearch.default with base := some "", defaultRole := some "User" }
    let r : Resolver InMemory.Journal := ⟨d.client, g⟩
    ∃ page, (ofUser r "u" none true []).result = .ok page ∧
      ⟨"ROLE_USER", "u"⟩ ∈ page.rows ∧
      page.rows.Pairwise fun a b => a.role < b.role ∨ a.role = b.role ∧ a.source < b.source := by
  intro d g r
  have hbase : r.settings.base = some "" := rfl
  have hname : (none : Option String).getD (DistinguishedName.firstValue "u") = "u" := by
    decide +kernel
  have hok : (r.resolve "u" "u" []).result.isOk = true := by
    rw [Resolver.resolve_eq_ofRun hbase, Outcome.ofRun_result]
    decide +kernel
  have hdefault : g.style.roleOf "User" = "ROLE_USER" := by decide +kernel
  obtain ⟨-, hreport⟩ := ofUser_eq_granted r "u" none true []
  obtain ⟨-, -, -, hcases⟩ := hreport (by decide +kernel)
  rw [hname] at hcases
  rcases hcases with ⟨e, -, hfailed⟩ | ⟨page, all, found, hpage, -, -, hrows, hmem, hall⟩
  · cases hresult : (r.resolve "u" "u" []).result with
    | error e =>
      rw [hresult] at hok
      cases hok
    | ok found =>
      rw [Resolver.granted, hresult] at hfailed
      cases hfailed
  · refine ⟨page, hpage, ?_, hrows⟩
    rw [hmem, hall]
    exact .inr ⟨"User", rfl, hdefault.symm, rfl⟩

end Report

end NestedGroups
