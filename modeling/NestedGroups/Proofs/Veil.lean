import NestedGroups.Program
import NestedGroups.Proofs.CredentialReading

namespace NestedGroups

/-- A credential, of which only that it is not empty can be seen. -/
def veil (credential : String) : String :=
  if credential.isEmpty then "" else "*"

def cover (_ : String) : String := ""

def Connection.veil (c : Connection) : Connection :=
  { c with credential := NestedGroups.veil c.credential }

def Settings.veil (s : Settings) : Settings :=
  let credential := s.directory.credential.map NestedGroups.veil
  { s with directory := { s.directory with credential } }

theorem isEmpty_veil (credential : String) : (veil credential).isEmpty = credential.isEmpty := by
  rw [veil]
  split
  · rename_i h
    rw [h]
    rfl
  · rename_i h
    rw [Bool.eq_false_iff.2 h]
    rfl

namespace Settings

variable {s s' : Settings}

theorem veil_withCredential (s : Settings) (credential : Option String) :
    (s.withCredential credential).veil =
      s.veil.withCredential (credential.map NestedGroups.veil) := by
  cases credential <;> rfl

theorem display_veil (s : Settings) (path : String) : s.veil.display path = s.display path := by
  have hmask : credentialMask (s.directory.credential.map NestedGroups.veil) =
      credentialMask s.directory.credential := by
    cases s.directory.credential with
    | none => rfl
    | some credential => rw [Option.map_some, credentialMask, isEmpty_veil, credentialMask]
  rw [display, display, directoryLines, directoryLines, veil, hmask]

end Settings

namespace Connection

variable {c c' : Connection}

theorem fault?_veil (c : Connection) : c.veil.fault? = c.fault? := rfl

theorem check_veil (c : Connection) : c.veil.check = c.check := rfl

theorem url_of_veil (h : c.veil = c'.veil) : c.url = c'.url :=
  (Connection.mk.inj h).1

theorem poolSize_of_veil (h : c.veil = c'.veil) : c.poolSize = c'.poolSize :=
  congrArg (·.poolSize) h

theorem ofAssignments_self (c : Connection) :
    ofAssignments [.url c.url, .bindDn c.bindDn, .credential c.credential,
      .validateCertificates c.validateCertificates, .scope c.scope, .poolSize c.poolSize,
      .connectTimeout c.connectTimeout, .readTimeout c.readTimeout] = c.check.map fun _ => c := by
  simp only [ofAssignments, List.foldl, Draft.assign, Draft.build, Draft.settings?]
  cases c.check <;> rfl

end Connection

namespace Settings

variable {s s' : Settings}

def connectionWith (s : Settings) (credential : String) : Connection where
  url := s.directory.url
  bindDn := s.directory.bindDn
  credential := credential
  validateCertificates := s.directory.validateCertificates
  scope := s.directory.scope
  poolSize := s.directory.poolSize
  connectTimeout := ⟨s.directory.connectSeconds, 0⟩
  readTimeout := ⟨s.directory.readSeconds, 0⟩

theorem connection_of_credential {credential : String} (hurl : s.directory.url.isEmpty = false)
    (h : s.directory.credential = some credential) :
    s.connection = ((s.connectionWith credential).check.map
      fun _ => s.connectionWith credential).mapError .directory := by
  rw [connection]
  rw [hurl, h, ← Connection.ofAssignments_self]
  rfl

theorem groupSearch_veil (s : Settings) (depth : Option Nat) :
    s.veil.groupSearch depth = s.groupSearch depth := rfl

theorem groupSearch_withCredential (s : Settings) (credential : Option String)
    (depth : Option Nat) :
    (s.withCredential credential).groupSearch depth = s.groupSearch depth := by
  cases credential <;> rfl

theorem connection_veil (s : Settings) : s.veil.connection = s.connection.map Connection.veil := by
  cases hurl : s.directory.url.isEmpty with
  | true => rw [connection, connection, veil, hurl, if_pos rfl, if_pos rfl, Except.map]
  | false =>
    cases hcredential : s.directory.credential with
    | none => simp [connection, veil, hurl, hcredential, Except.map]
    | some credential =>
      rw [connection_of_credential hurl hcredential,
        connection_of_credential (s := s.veil) hurl (congrArg (Option.map _) hcredential)]
      change ((s.connectionWith credential).veil.check.map _).mapError _ = _
      rw [Connection.check_veil]
      cases (s.connectionWith credential).check <;> rfl

theorem agree_connection (h : s.veil = s'.veil) :
    Agree Connection.veil s.connection s'.connection := by
  apply agree_of_map_eq
  rw [← connection_veil, h, connection_veil]

end Settings

namespace Ldaps

variable {network network' : Network} {c c' : Connection} {d d' : Ldaps}

theorem new_veil (m : Memory) (h : c.veil = c'.veil) :
    Agree (Except.map fun d : Ldaps => d.connection.veil) (new m c) (new m c') := by
  have hfault : c.fault? = c'.fault? := by rw [← Connection.fault?_veil, h, Connection.fault?_veil]
  have hpool : c.poolSize = c'.poolSize := Connection.poolSize_of_veil h
  rw [new, new, ← hpool]
  split
  · rename_i fault hc
    split
    · rename_i fault' hc'
      cases hc.symm.trans (hfault.trans hc')
      exact .ok rfl
    · rename_i hc'
      cases hc.symm.trans (hfault.trans hc')
  · rename_i hc
    split
    · rename_i fault' hc'
      cases hc.symm.trans (hfault.trans hc')
    · cases Pool.new m c.poolSize with
      | error crash => exact .error crash
      | ok pool => exact .ok (congrArg Except.ok h)

theorem connection_of_new {m : Memory} (h : new m c = .ok (.ok d)) : d.connection = c := by
  rw [new] at h
  split at h
  · cases h
  · cases hpool : Pool.new m c.poolSize with
    | error crash =>
      rw [hpool] at h
      cases h
    | ok pool =>
      rw [hpool] at h
      cases h
      rfl

theorem urlError?_veil (h : d.connection.veil = d'.connection.veil) :
    d.urlError? = d'.urlError? := by
  rw [urlError?, urlError?, Connection.url_of_veil h]

theorem fault?_of_urlError? (h : d.urlError? = none) : Url.fault? d.connection.url = none :=
  Option.map_eq_none_iff.1 h

theorem client_veil (h : d.connection.veil = d'.connection.veil)
    (hnetwork : Url.fault? d.connection.url = none →
      network.search d.connection = network'.search d'.connection) :
    d.client network = d'.client network' := by
  rw [client, client, ← urlError?_veil h]
  cases hurl : d.urlError? with
  | some e => rfl
  | none => rw [hnetwork (fault?_of_urlError? hurl)]

theorem test_veil (h : d.connection.veil = d'.connection.veil)
    (hnetwork : Url.fault? d.connection.url = none →
      network.probe d.connection = network'.probe d'.connection) :
    d.test network = d'.test network' := by
  rw [test, test, ← urlError?_veil h]
  cases hurl : d.urlError? with
  | some e => rfl
  | none => exact hnetwork (fault?_of_urlError? hurl)

end Ldaps

def CommandLine.Command.writes : Command → Bool
  | .settings (.init _) => true
  | _ => false

namespace Program

open CommandLine

variable {network network' : Network} {c c' : Connection} {s s' : Settings}

theorem connect_veil (m : Memory) (h : c.veil = c'.veil) :
    Agree (fun d : Ldaps => d.connection.veil) (connect m c) (connect m c') := by
  rw [connect, connect]
  rcases (Ldaps.new_veil m h).cases_strict with ⟨crash, hc, hc'⟩ | ⟨made, made', hc, hc', hview⟩
  · rw [hc, hc']
    exact .error _
  · rw [hc, hc']
    rcases (agree_of_map_eq hview).cases_strict with ⟨e, rfl, rfl⟩ | ⟨d, d', rfl, rfl, hview⟩
    · exact .error _
    · exact .ok (Except.ok.inj hview)

theorem connection_of_connect {m : Memory} {d : Ldaps} (h : connect m c = .ok d) :
    d.connection = c := by
  rw [connect] at h
  rcases hnew : Ldaps.new m c with crash | e | d'
  · rw [hnew] at h
    cases h
  · rw [hnew] at h
    cases h
  · rw [hnew] at h
    cases h
    exact Ldaps.connection_of_new hnew

structure Searches (g : GroupSearch) (userDn : String) : Prop where
  named : Text.isAllBlank userDn = false
  enabled : g.isEnabled = true
  deep : g.maxDepth ≠ 0

theorem ofUser_of_not_searches {σ : Type} {g : GroupSearch} {userDn : String}
    (h : ¬ Searches g userDn) (client client' : Client σ) (username : Option String)
    (stats : Bool) (state : σ) :
    Report.ofUser ⟨client, g⟩ userDn username stats state =
      Report.ofUser ⟨client', g⟩ userDn username stats state := by
  rw [Report.ofUser, Report.ofUser]
  split
  · rfl
  · rename_i hnamed
    have hresolve (label : String) : (⟨client, g⟩ : Resolver σ).resolve userDn label state =
        (⟨client', g⟩ : Resolver σ).resolve userDn label state := by
      rw [Resolver.resolve, Resolver.resolve]
      dsimp only
      split
      · rfl
      · rfl
      · rename_i base depth hbase hdepth
        have hsearches : Searches g userDn :=
          ⟨Bool.eq_false_iff.2 hnamed, by rw [GroupSearch.isEnabled, hbase]; rfl, by simp [hdepth]⟩
        exact (h hsearches).elim
    dsimp only
    rw [hresolve]

/-- As far as a command reaches the networks, they answer the connections alike. Nothing is sent to
a URL that cannot be read, nor for a user for whom no groups are searched. -/
def AnsweredAlike (command : Command) (s : Settings) (network : Network) (c : Connection)
    (network' : Network) (c' : Connection) : Prop :=
  Url.fault? c.url = none →
    match command with
    | .resolve request => ∀ g, s.groupSearch request.maxDepth = .ok g →
        Searches g request.userDn → network.search c = network'.search c'
    | .status => network.probe c = network'.probe c'
    | .settings _ => True

def tellReport (log : Log) (verbose : Bool) (format : OutputFormat) (request : ResolveRequest)
    (resolver : Resolver Unit) : Task Unit := do
  tellEvents log verbose resolver.announcements
  if !resolver.settings.isEnabled && format = .table then
    .tell .errors
      (Message.warning "groups.search_base is not set; only the default role can be granted")
  let outcome := Report.ofUser resolver request.userDn request.username request.stats ()
  tellEvents log verbose outcome.events
  .tell .output ((← outcome.result).print format)

theorem resolve_eq_tellReport (network : Network) (host : Host) (verbose : Bool) (s : Settings)
    (format : OutputFormat) (request : ResolveRequest) :
    resolve network host verbose s format request =
      (liftM s.connection : Task Connection) >>= fun c =>
        (liftM (connect host.memory c) : Task Ldaps) >>= fun d =>
          (liftM (s.groupSearch request.maxDepth) : Task GroupSearch) >>= fun g =>
            tellReport host.log verbose format request ⟨d.client network, g⟩ := rfl

theorem tellReport_congr {g : GroupSearch} {client client' : Client Unit} {request : ResolveRequest}
    (h : Report.ofUser ⟨client, g⟩ request.userDn request.username request.stats () =
      Report.ofUser ⟨client', g⟩ request.userDn request.username request.stats ())
    (log : Log) (verbose : Bool) (format : OutputFormat) :
    tellReport log verbose format request ⟨client, g⟩ =
      tellReport log verbose format request ⟨client', g⟩ := by
  rw [tellReport, tellReport, h]
  rfl

theorem resolve_veil {request : ResolveRequest} (h : s.veil = s'.veil)
    (hnetwork : ∀ c c', s.connection = .ok c → s'.connection = .ok c' →
      AnsweredAlike (.resolve request) s network c network' c')
    (host : Host) (verbose : Bool) (format : OutputFormat) :
    resolve network host verbose s format request =
      resolve network' host verbose s' format request := by
  have hgroups : s.groupSearch request.maxDepth = s'.groupSearch request.maxDepth := by
    rw [← s.groupSearch_veil, h, s'.groupSearch_veil]
  have hself : Agree id (s.groupSearch request.maxDepth) (s.groupSearch request.maxDepth) :=
    agree_of_map_eq rfl
  rw [resolve_eq_tellReport, resolve_eq_tellReport, ← hgroups]
  apply (Settings.agree_connection h).bind_eq
  intro c c' hc hc' hview
  apply (connect_veil host.memory hview).bind_eq
  intro d d' hd hd' hview'
  apply hself.bind_eq
  intro g g' hg _ hgg'
  rw [show g' = g from hgg'.symm]
  apply tellReport_congr
  by_cases hsearches : Searches g request.userDn
  · have hclient : d.client network = d'.client network' := by
      apply Ldaps.client_veil hview'
      rw [connection_of_connect hd, connection_of_connect hd']
      intro hurl
      exact hnetwork c c' hc hc' hurl g hg hsearches
    rw [hclient]
  · exact ofUser_of_not_searches hsearches _ _ _ _ _

theorem statusText_veil (s : Settings) (c : Connection) :
    statusText s.veil c.veil = statusText s c := rfl

theorem status_veil (h : s.veil = s'.veil)
    (hnetwork : ∀ c c', s.connection = .ok c → s'.connection = .ok c' →
      AnsweredAlike .status s network c network' c') (host : Host) :
    status network host s = status network' host s' := by
  apply (Settings.agree_connection h).bind_eq
  intro c c' hc hc' hview
  have htext : statusText s c = statusText s' c' := by
    rw [← statusText_veil, h, hview, statusText_veil]
  rw [Connection.url_of_veil hview, htext]
  apply bind_congr
  intro _
  apply (connect_veil host.memory hview).bind_eq
  intro d d' hd hd' hview'
  have htest : d.test network = d'.test network' := by
    apply Ldaps.test_veil hview'
    rw [connection_of_connect hd, connection_of_connect hd']
    exact hnetwork c c' hc hc'
  rw [probe, probe, htest]

theorem execute_veil {i i' : Invocation} (hi : i.Like false veil i')
    (hs : s.veil = s'.veil) (hcommand : i.command.writes = false)
    (hnetwork : ∀ c c', (s.withCredential i.credential).connection = .ok c →
      (s'.withCredential i'.credential).connection = .ok c' →
      AnsweredAlike i.command s network c network' c')
    (host : Host) (path : String) :
    execute network host i path s = execute network' host i' path s' := by
  have hgiven : (s.withCredential i.credential).veil = (s'.withCredential i'.credential).veil := by
    rw [Settings.veil_withCredential, Settings.veil_withCredential, hs,
      hi.credential.resolve_right Bool.false_ne_true]
  have hdefault : s.format = s'.format := (Settings.mk.inj hs).1
  rw [execute, execute, ← hi.command]
  cases hkind : i.command with
  | resolve request =>
    rw [hkind] at hnetwork
    dsimp only
    rw [← hi.verbose, ← hi.format, ← hdefault]
    apply resolve_veil hgiven
    intro c c' hc hc' hurl g hg hsearches
    rw [Settings.groupSearch_withCredential] at hg
    exact hnetwork c c' hc hc' hurl g hg hsearches
  | status =>
    rw [hkind] at hnetwork
    exact status_veil hgiven hnetwork host
  | settings command =>
    cases command with
    | display =>
      change Task.tell .output (s.display path) = .tell .output (s'.display path)
      rw [← s.display_veil, hs, s'.display_veil]
    | init force =>
      rw [hkind] at hcommand
      cases hcommand
    | path => rfl

end Program

end NestedGroups
