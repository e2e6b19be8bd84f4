import NestedGroups.Directory.Ldaps
import NestedGroups.Proofs.Lists
import NestedGroups.Proofs.SmallLetters
import NestedGroups.Settings

namespace NestedGroups

namespace Connection

namespace Assignment

def url? : Assignment → Option String
  | .url text => some text
  | _ => none

def bindDn? : Assignment → Option String
  | .bindDn dn => some dn
  | _ => none

def credential? : Assignment → Option String
  | .credential text => some text
  | _ => none

def validateCertificates? : Assignment → Option Bool
  | .validateCertificates on => some on
  | _ => none

def scope? : Assignment → Option SearchScope
  | .scope width => some width
  | _ => none

def poolSize? : Assignment → Option Nat
  | .poolSize size => some size
  | _ => none

def connectTimeout? : Assignment → Option Duration
  | .connectTimeout span => some span
  | _ => none

def readTimeout? : Assignment → Option Duration
  | .readTimeout span => some span
  | _ => none

end Assignment

open Assignment

/-- The bytes of the URL begin with those of the scheme, in letters of either case. -/
def HasScheme (url : String) : Prop :=
  Text.bytes scheme <+: (Text.bytes url).map Text.lowerByte

instance (url : String) : Decidable (HasScheme url) :=
  inferInstanceAs (Decidable (_ <+: _))

structure Secure (c : Connection) : Prop where
  scheme : HasScheme c.url
  host : 8 < (Text.bytes c.url).length
  bindDn : c.bindDn ≠ ""
  pool : 1 ≤ c.poolSize

/-- The connection holds what was assigned last, or the default where there is one. -/
structure Meets (c : Connection) (as : List Assignment) : Prop where
  url : lastGiven url? as = some c.url
  bindDn : lastGiven bindDn? as = some c.bindDn
  credential : lastGiven credential? as = some c.credential
  validateCertificates : c.validateCertificates = (lastGiven validateCertificates? as).getD true
  scope : c.scope = (lastGiven scope? as).getD .oneLevel
  poolSize : c.poolSize = (lastGiven poolSize? as).getD 10
  connectTimeout : c.connectTimeout = (lastGiven connectTimeout? as).getD ⟨5, 0⟩
  readTimeout : c.readTimeout = (lastGiven readTimeout? as).getD ⟨30, 0⟩

structure Describes (c : Connection) (d : DirectorySettings) : Prop where
  url : c.url = d.url
  bindDn : c.bindDn = d.bindDn
  credential : d.credential = some c.credential
  validateCertificates : c.validateCertificates = d.validateCertificates
  scope : c.scope = d.scope
  poolSize : c.poolSize = d.poolSize
  connectTimeout : c.connectTimeout = ⟨d.connectSeconds, 0⟩
  readTimeout : c.readTimeout = ⟨d.readSeconds, 0⟩

/-- To make all letters small before the scheme is looked for lets no other URL in than to overlook
the case of A to Z: no character but those of the scheme and its capitals becomes one of them. -/
theorem isPrefixOf_lowerCase_iff (url : String) :
    scheme.toList.isPrefixOf (Text.lowerCase url).toList = true ↔ HasScheme url := by
  have hsteady : scheme.toList.all Text.isSteady = true := by decide +kernel
  have hascii : scheme.toList.all (·.toNat < 0x80) = true := by decide +kernel
  simp only [List.all_eq_true, decide_eq_true_eq] at hsteady hascii
  rw [List.isPrefixOf_iff_prefix, Text.lowerCase, String.toList_ofList,
    Text.isPrefix_lowerChars_iff hsteady, HasScheme, Text.bytes_eq_flatMap, Text.bytes_eq_flatMap,
    Text.isPrefix_bytes_iff hascii]

-- A long s has `S` for its capital, but it is small itself and stays as it is.
example : ¬ HasScheme "ldap\u017f://host" := by decide +kernel

theorem urlFault?_eq (url : String) :
    urlFault? url =
      if HasScheme url then
        if 8 < (Text.bytes url).length then none else some .noHost
      else some .insecure := by
  have hlength : scheme.utf8ByteSize = 8 := by decide +kernel
  rw [urlFault?, hlength, ← Text.length_bytes]
  by_cases hscheme : HasScheme url
  · rw [(isPrefixOf_lowerCase_iff url).2 hscheme, if_pos hscheme]
    by_cases hhost : 8 < (Text.bytes url).length
    · rw [if_pos hhost]
      exact if_neg (Nat.not_le.2 hhost)
    · rw [if_neg hhost]
      exact if_pos (Nat.not_lt.1 hhost)
  · have hlower := mt (isPrefixOf_lowerCase_iff url).1 hscheme
    rw [Bool.not_eq_true] at hlower
    rw [hlower, if_neg hscheme]
    rfl

theorem urlFault?_eq_none_iff {url : String} :
    urlFault? url = none ↔ HasScheme url ∧ 8 < (Text.bytes url).length := by
  rw [urlFault?_eq, ite_eq_iff, ite_eq_left_iff]
  simp only [reduceCtorEq, and_false, or_false, imp_false, not_not]

theorem urlFault?_eq_insecure_iff {url : String} :
    urlFault? url = some .insecure ↔ ¬ HasScheme url := by
  rw [urlFault?_eq, ite_eq_iff, ite_eq_iff]
  simp only [reduceCtorEq, Option.some.injEq, and_false, or_false, false_or, and_true]

theorem fault?_eq_none_iff {c : Connection} : c.fault? = none ↔ c.Secure := by
  rw [fault?, Option.or_eq_none_iff, urlFault?_eq_none_iff]
  constructor
  · rintro ⟨⟨hscheme, hhost⟩, hrest⟩
    split at hrest
    · cases hrest
    · rename_i hbindDn
      split at hrest
      · cases hrest
      · rename_i hpool
        rw [String.isEmpty_iff] at hbindDn
        exact ⟨hscheme, hhost, hbindDn, Nat.one_le_iff_ne_zero.2 hpool⟩
  · rintro ⟨hscheme, hhost, hbindDn, hpool⟩
    rw [if_neg (by rwa [String.isEmpty_iff]), if_neg (Nat.one_le_iff_ne_zero.1 hpool)]
    exact ⟨⟨hscheme, hhost⟩, rfl⟩

theorem fault?_eq_insecure_iff {c : Connection} :
    c.fault? = some .insecure ↔ ¬ HasScheme c.url := by
  rw [fault?, Option.or_eq_some_iff, urlFault?_eq_insecure_iff, or_iff_left]
  rintro ⟨-, hrest⟩
  split at hrest
  · cases hrest
  · split at hrest <;> cases hrest

theorem check_eq_error_iff {c : Connection} {e : DirectoryError} :
    c.check = .error e ↔ ∃ fault, c.fault? = some fault ∧ fault.toError = e := by
  rw [check]
  cases c.fault? with
  | none => simp only [reduceCtorEq, false_and, exists_false]
  | some fault => simp only [Option.some.injEq, exists_eq_left', Except.error.injEq]

theorem check_eq_insecure_iff {c : Connection} :
    c.check = .error .insecureProtocol ↔ ¬ HasScheme c.url := by
  have hfault {fault : Fault} : fault.toError = .insecureProtocol ↔ fault = .insecure := by
    cases fault <;> simp only [Fault.toError, reduceCtorEq]
  simp only [check_eq_error_iff, hfault, exists_eq_right, fault?_eq_insecure_iff]

/-- There is room for a pool of this size. -/
structure Holds (m : Memory) (size : Nat) : Prop where
  permits : size ≤ Ldaps.Pool.maxPermits
  bytes : size * m.handleSize ≤ Ldaps.Pool.maxBytes
  granted : m.grants (size * m.handleSize) = true

theorem pool_new_eq_ok_iff {m : Memory} {size : Nat} {pool : Ldaps.Pool} :
    Ldaps.Pool.new m size = .ok pool ↔ Holds m size ∧ pool = ⟨size, 0⟩ := by
  rw [Ldaps.Pool.new]
  constructor
  · intro h
    split at h
    · cases h
    · rename_i hpermits
      split at h
      · cases h
      · rename_i hbytes
        split at h
        · rename_i hgranted
          cases h
          exact ⟨⟨Nat.not_lt.1 hpermits, Nat.not_lt.1 hbytes, hgranted⟩, rfl⟩
        · cases h
  · rintro ⟨⟨hpermits, hbytes, hgranted⟩, rfl⟩
    rw [if_neg (Nat.not_lt.2 hpermits), if_neg (Nat.not_lt.2 hbytes), if_pos hgranted]

variable {m : Memory}

theorem new_of_fault {c : Connection} {fault : Fault} (h : c.fault? = some fault) :
    Ldaps.new m c = .ok (.error fault.toError) := by
  rw [Ldaps.new]
  split
  · rename_i hfault
    cases h.symm.trans hfault
    rfl
  · rename_i hnone
    cases h.symm.trans hnone

theorem new_of_secure {c : Connection} (h : c.Secure) :
    Ldaps.new m c =
      (Ldaps.Pool.new m c.poolSize).map fun pool => .ok ⟨c, fault?_eq_none_iff.2 h, pool⟩ := by
  rw [Ldaps.new]
  split
  · rename_i hfault
    cases (fault?_eq_none_iff.2 h).symm.trans hfault
  · rfl

theorem new_eq_refused_iff {c : Connection} {e : DirectoryError} :
    Ldaps.new m c = .ok (.error e) ↔ c.check = .error e := by
  rw [check_eq_error_iff]
  cases hfault : c.fault? with
  | some fault =>
    rw [new_of_fault hfault]
    simp only [Option.some.injEq, exists_eq_left', Except.ok.injEq, Except.error.injEq]
  | none =>
    rw [new_of_secure (fault?_eq_none_iff.1 hfault)]
    cases Ldaps.Pool.new m c.poolSize <;>
      simp only [Except.map, reduceCtorEq, Except.ok.injEq, false_and, exists_false]

theorem exists_new_iff {c : Connection} :
    (∃ d, Ldaps.new m c = .ok (.ok d) ∧ d.connection = c ∧ d.pool = ⟨c.poolSize, 0⟩) ↔
      c.Secure ∧ Holds m c.poolSize := by
  constructor
  · rintro ⟨d, hnew, rfl, -⟩
    have hsecure := fault?_eq_none_iff.1 d.checked
    refine ⟨hsecure, ?_⟩
    rw [new_of_secure hsecure] at hnew
    cases hpool : Ldaps.Pool.new m d.connection.poolSize with
    | error crash =>
      rw [hpool] at hnew
      cases hnew
    | ok pool => exact (pool_new_eq_ok_iff.1 hpool).1
  · rintro ⟨hsecure, hholds⟩
    rw [new_of_secure hsecure, pool_new_eq_ok_iff.2 ⟨hholds, rfl⟩]
    exact ⟨_, rfl, rfl, rfl⟩

theorem exists_crash_iff {c : Connection} :
    (∃ crash, Ldaps.new m c = .error crash) ↔ c.Secure ∧ ¬ Holds m c.poolSize := by
  cases hfault : c.fault? with
  | some fault =>
    rw [new_of_fault hfault]
    apply iff_of_false
    · rintro ⟨crash, h⟩
      cases h
    · rintro ⟨hsecure, -⟩
      cases (fault?_eq_none_iff.2 hsecure).symm.trans hfault
  | none =>
    have hsecure := fault?_eq_none_iff.1 hfault
    rw [new_of_secure hsecure]
    cases hpool : Ldaps.Pool.new m c.poolSize with
    | error crash =>
      refine iff_of_true ⟨crash, rfl⟩ ⟨hsecure, fun hholds => ?_⟩
      cases hpool.symm.trans (pool_new_eq_ok_iff.2 ⟨hholds, rfl⟩)
    | ok pool =>
      apply iff_of_false
      · rintro ⟨crash, h⟩
        cases h
      · rintro ⟨-, hholds⟩
        exact hholds (pool_new_eq_ok_iff.1 hpool).1

def Draft.ofAssignments (as : List Assignment) : Draft where
  url := lastGiven url? as
  bindDn := lastGiven bindDn? as
  credential := lastGiven credential? as
  validateCertificates := (lastGiven validateCertificates? as).getD true
  scope := (lastGiven scope? as).getD .oneLevel
  poolSize := (lastGiven poolSize? as).getD 10
  connectTimeout := (lastGiven connectTimeout? as).getD ⟨5, 0⟩
  readTimeout := (lastGiven readTimeout? as).getD ⟨30, 0⟩

theorem Draft.foldl_assign (as : List Assignment) : as.foldl assign {} = ofAssignments as := by
  have hurl : (as.foldl assign {}).url = (lastGiven url? as).or none :=
    foldl_assign_or Draft.url (fun d a => by cases a <;> rfl) as {}
  have hbindDn : (as.foldl assign {}).bindDn = (lastGiven bindDn? as).or none :=
    foldl_assign_or Draft.bindDn (fun d a => by cases a <;> rfl) as {}
  have hcredential : (as.foldl assign {}).credential = (lastGiven credential? as).or none :=
    foldl_assign_or Draft.credential (fun d a => by cases a <;> rfl) as {}
  have hvalidate : (as.foldl assign {}).validateCertificates =
      (lastGiven validateCertificates? as).getD true :=
    foldl_assign_getD Draft.validateCertificates (fun d a => by cases a <;> rfl) as {}
  have hscope : (as.foldl assign {}).scope = (lastGiven scope? as).getD .oneLevel :=
    foldl_assign_getD Draft.scope (fun d a => by cases a <;> rfl) as {}
  have hpoolSize : (as.foldl assign {}).poolSize = (lastGiven poolSize? as).getD 10 :=
    foldl_assign_getD Draft.poolSize (fun d a => by cases a <;> rfl) as {}
  have hconnect : (as.foldl assign {}).connectTimeout =
      (lastGiven connectTimeout? as).getD ⟨5, 0⟩ :=
    foldl_assign_getD Draft.connectTimeout (fun d a => by cases a <;> rfl) as {}
  have hread : (as.foldl assign {}).readTimeout = (lastGiven readTimeout? as).getD ⟨30, 0⟩ :=
    foldl_assign_getD Draft.readTimeout (fun d a => by cases a <;> rfl) as {}
  rw [Option.or_none] at hurl hbindDn hcredential
  generalize as.foldl assign {} = d at *
  cases d
  subst hurl hbindDn hcredential hvalidate hscope hpoolSize hconnect hread
  rfl

theorem settings?_ofAssignments_eq_ok_iff {as : List Assignment} {c : Connection} :
    (Draft.ofAssignments as).settings? = .ok c ↔ c.Meets as := by
  rw [Draft.settings?]
  constructor
  · intro h
    split at h
    · cases h
    · cases h
    · cases h
    · rename_i url bindDn credential hurl hbindDn hcredential
      cases h
      exact ⟨hurl, hbindDn, hcredential, rfl, rfl, rfl, rfl, rfl⟩
  · intro h
    have hurl : (Draft.ofAssignments as).url = some c.url := h.url
    have hbindDn : (Draft.ofAssignments as).bindDn = some c.bindDn := h.bindDn
    have hcredential : (Draft.ofAssignments as).credential = some c.credential := h.credential
    rw [hurl, hbindDn, hcredential]
    obtain ⟨url, bindDn, credential, validate, scope, poolSize, connect, read⟩ := c
    obtain ⟨-, -, -, rfl, rfl, rfl, rfl, rfl⟩ := h
    rfl

theorem build_eq_ok_iff {d : Draft} {c : Connection} :
    d.build = .ok c ↔ c.Secure ∧ d.settings? = .ok c := by
  rw [Draft.build]
  cases d.settings? with
  | error fault => simp only [reduceCtorEq, and_false]
  | ok built =>
    rw [Except.ok.injEq, ← fault?_eq_none_iff]
    cases hfault : built.fault? with
    | none =>
      simp only [check, hfault, Except.ok.injEq]
      exact ⟨fun h => ⟨h ▸ hfault, h⟩, fun h => h.2⟩
    | some fault =>
      simp only [check, hfault, reduceCtorEq, false_iff, not_and]
      rintro hnone rfl
      cases hnone.symm.trans hfault

theorem ofAssignments_eq_ok_iff {as : List Assignment} {c : Connection} :
    ofAssignments as = .ok c ↔ c.Secure ∧ c.Meets as := by
  rw [ofAssignments, Draft.foldl_assign, build_eq_ok_iff, settings?_ofAssignments_eq_ok_iff]

theorem Secure.url_ne_empty {c : Connection} (h : c.Secure) : c.url ≠ "" := by
  intro hurl
  have hhost := h.host
  rw [hurl] at hhost
  exact absurd hhost (by decide +kernel)

theorem meets_fields_iff {c : Connection} {d : DirectorySettings} {credential : String}
    (h : d.credential = some credential) :
    c.Meets [.url d.url, .bindDn d.bindDn, .credential credential,
      .validateCertificates d.validateCertificates, .scope d.scope, .poolSize d.poolSize,
      .connectTimeout ⟨d.connectSeconds, 0⟩, .readTimeout ⟨d.readSeconds, 0⟩] ↔
      c.Describes d := by
  constructor
  · rintro ⟨hurl, hbindDn, hcredential, hvalidate, hscope, hpoolSize, hconnect, hread⟩
    exact ⟨(Option.some.inj hurl).symm, (Option.some.inj hbindDn).symm, h.trans hcredential,
      hvalidate, hscope, hpoolSize, hconnect, hread⟩
  · rintro ⟨hurl, hbindDn, hcredential, hvalidate, hscope, hpoolSize, hconnect, hread⟩
    rw [← hurl, ← hbindDn, Option.some.inj (h.symm.trans hcredential)]
    exact ⟨rfl, rfl, rfl, hvalidate, hscope, hpoolSize, hconnect, hread⟩

theorem connection_eq_ok_iff {s : Settings} {c : Connection} :
    s.connection = .ok c ↔ c.Secure ∧ c.Describes s.directory := by
  rw [Settings.connection]
  split
  · rename_i hempty
    rw [String.isEmpty_iff] at hempty
    refine iff_of_false nofun ?_
    rintro ⟨hsecure, hdescribes⟩
    exact hsecure.url_ne_empty (hdescribes.url.trans hempty)
  · cases hcredential : s.directory.credential with
    | none =>
      refine iff_of_false nofun ?_
      rintro ⟨-, hdescribes⟩
      cases hcredential.symm.trans hdescribes.credential
    | some credential =>
      dsimp only
      rw [← meets_fields_iff hcredential, ← ofAssignments_eq_ok_iff]
      cases ofAssignments _ with
      | error e => simp only [Except.mapError, reduceCtorEq]
      | ok built => simp only [Except.mapError, Except.ok.injEq]

/-- Whatever way a connection comes about, it is accepted just if it is secure; built from
assignments or read from a file, it is secure from the start. A client of a secure connection is
made if there is room for its pool, and otherwise the program crashes. -/
theorem secure_on_every_route (c : Connection) (as : List Assignment) (s : Settings) (m : Memory) :
    (ofAssignments as = .ok c ↔ c.Secure ∧ c.Meets as) ∧
      (s.connection = .ok c ↔ c.Secure ∧ c.Describes s.directory) ∧
      ((∃ d, Ldaps.new m c = .ok (.ok d) ∧ d.connection = c ∧ d.pool = ⟨c.poolSize, 0⟩) ↔
        c.Secure ∧ Holds m c.poolSize) ∧
      (∀ e, Ldaps.new m c = .ok (.error e) ↔ c.check = .error e) ∧
      (Ldaps.new m c = .ok (.error .insecureProtocol) ↔ ¬ HasScheme c.url) ∧
      ((∃ crash, Ldaps.new m c = .error crash) ↔ c.Secure ∧ ¬ Holds m c.poolSize) ∧
      (scheme.toList.isPrefixOf (Text.lowerCase c.url).toList = true ↔ HasScheme c.url) :=
  ⟨ofAssignments_eq_ok_iff, connection_eq_ok_iff, exists_new_iff, fun _ => new_eq_refused_iff,
    new_eq_refused_iff.trans check_eq_insecure_iff, exists_crash_iff,
    isPrefixOf_lowerCase_iff c.url⟩

/-- A pool may be asked for that no semaphore can count. The check lets it through. -/
theorem crashes_of_huge_pool :
    let size := 9223372036854775807
    let c : Connection := ⟨"ldaps://h", "cn=a", "x", true, .oneLevel, size, ⟨5, 0⟩, ⟨30, 0⟩⟩
    ofAssignments [.url "ldaps://h", .bindDn "cn=a", .credential "x", .poolSize size] = .ok c ∧
      c.Secure ∧ c.check = .ok () ∧ ∀ m, Ldaps.new m c = .error .tooManyPermits := by
  intro size c
  have hfault : c.fault? = none := by decide +kernel
  have hsecure := fault?_eq_none_iff.1 hfault
  refine ⟨by decide +kernel, hsecure, by decide +kernel, fun m => ?_⟩
  have hpool : Ldaps.Pool.new m size = .error .tooManyPermits := by
    rw [Ldaps.Pool.new]
    exact if_pos (by decide)
  rw [new_of_secure hsecure, hpool]
  rfl

end Connection

end NestedGroups
