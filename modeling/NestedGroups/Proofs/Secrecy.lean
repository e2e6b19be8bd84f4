import NestedGroups.Proofs.Encoding
import NestedGroups.Proofs.TaskRuns
import NestedGroups.Proofs.Veil

namespace NestedGroups

open CommandLine

inductive Script.OnlyPrints {α : Type} : Script α → Prop
  | finish (a : α) : OnlyPrints (.finish a)
  | print (channel : Channel) (text : String) {next : Unit → Script α}
      (h : OnlyPrints (next ())) : OnlyPrints (.act (.print channel text) next)

theorem Script.OnlyPrints.bind {α β : Type} {s : Script α} (hs : s.OnlyPrints)
    {f : α → Script β} (hf : ∀ a, (f a).OnlyPrints) : (s.bind f).OnlyPrints := by
  induction hs with
  | finish a => exact hf a
  | print channel text _ ih => exact .print channel text ih

def Desk.withFiles (d : Desk) (files : FileTree) : Desk :=
  { d with files }

theorem Desk.print_withFiles (d : Desk) (files : FileTree) (channel : Channel) (text : String) :
    (d.withFiles files).print channel text = (d.print channel text).withFiles files := by
  cases channel <;> rfl

theorem Desk.play_withFiles {α : Type} {s : Script α} (hs : s.OnlyPrints) (d : Desk)
    (files : FileTree) :
    (d.withFiles files).play s = ((d.play s).1, (d.play s).2.withFiles files) := by
  induction hs generalizing d with
  | finish a => rfl
  | print channel text _ ih =>
    change ((d.withFiles files).print channel text).play _ = _
    rw [Desk.print_withFiles]
    exact ih (d.print channel text)

namespace Task

variable {α β : Type}

def OnlyPrints (t : Task α) : Prop :=
  t.run.OnlyPrints

theorem OnlyPrints.lift (e : Except Failure α) : OnlyPrints (liftM e) :=
  .finish e

theorem OnlyPrints.tell (channel : Channel) (text : String) : OnlyPrints (.tell channel text) :=
  .print channel text (.finish _)

theorem OnlyPrints.bind {t : Task α} (ht : t.OnlyPrints) {f : α → Task β}
    (hf : ∀ a, (f a).OnlyPrints) : OnlyPrints (t >>= f) := by
  apply Script.OnlyPrints.bind ht
  intro result
  cases result with
  | error failure => exact .finish _
  | ok a => exact hf a

theorem OnlyPrints.forM {items : List α} {f : α → Task Unit} (hf : ∀ a, (f a).OnlyPrints) :
    OnlyPrints (items.forM f) := by
  induction items with
  | nil => exact .finish _
  | cons item items ih => exact (hf item).bind fun _ => ih

end Task

structure Duration.Fits (d : Duration) : Prop where
  seconds : d.seconds ≤ Value.maxWord64
  nanos : d.nanos < Duration.nanosPerSecond

structure Connection.Fits (c : Connection) : Prop where
  poolSize : c.poolSize ≤ Value.maxWord64
  connectTimeout : c.connectTimeout.Fits
  readTimeout : c.readTimeout.Fits

theorem Duration.ofValue?_toValue {d : Duration} (h : d.Fits) (source : Source) :
    ofValue? source d.toValue = some d := by
  have hword : nanosPerSecond ≤ Value.maxWord32 := by decide
  have hnanos : d.nanos ≤ Value.maxWord32 := Nat.le_trans (Nat.le_of_lt h.nanos) hword
  have hcarry : carry? d.seconds d.nanos = some d := by
    simp only [carry?, Nat.div_eq_of_lt h.nanos, Nat.mod_eq_of_lt h.nanos, Nat.add_zero,
      if_pos h.seconds]
  simp [ofValue?, toValue, Value.asRecord?, Value.field?, fieldNames, List.lookup_cons,
    Settings.asNat?_ofNat, h.seconds, hnanos, hcarry]

theorem Connection.ofValue?_toValue {c : Connection} (h : c.Fits) (source : Source) :
    ofValue? source c.toValue = some { c with credential := "" } := by
  simp [ofValue?, toValue, Value.asRecord?, Value.field?, List.lookup_cons, Value.asText?,
    Value.asBool?, Settings.scopeOf_word, Settings.asNat?_ofNat, h.poolSize,
    Duration.ofValue?_toValue h.connectTimeout, Duration.ofValue?_toValue h.readTimeout]

namespace Program

variable {network network' : Network} {host : Host} {i i' : Invocation} {d : Desk}

theorem onlyPrints_tellReport (log : Log) (verbose : Bool) (format : OutputFormat)
    (request : ResolveRequest) (resolver : Resolver Unit) :
    Task.OnlyPrints (tellReport log verbose format request resolver) := by
  have hevents (events : List Event) : Task.OnlyPrints (tellEvents log verbose events) :=
    .forM fun event => .tell .errors (log.line event)
  have houtcome : Task.OnlyPrints (do
      let outcome := Report.ofUser resolver request.userDn request.username request.stats ()
      tellEvents log verbose outcome.events
      .tell .output ((← outcome.result).print format)) :=
    (hevents _).bind fun _ => (Task.OnlyPrints.lift _).bind fun report => .tell .output _
  apply (hevents resolver.announcements).bind
  intro _
  dsimp only
  split
  · exact (Task.OnlyPrints.tell _ _).bind fun _ => houtcome
  · exact houtcome

theorem onlyPrints_resolve (network : Network) (host : Host) (verbose : Bool) (s : Settings)
    (format : OutputFormat) (request : ResolveRequest) :
    Task.OnlyPrints (resolve network host verbose s format request) := by
  rw [resolve_eq_tellReport]
  apply (Task.OnlyPrints.lift _).bind
  intro c
  apply (Task.OnlyPrints.lift _).bind
  intro d
  apply (Task.OnlyPrints.lift _).bind
  intro g
  exact onlyPrints_tellReport host.log verbose format request _

theorem onlyPrints_reject (rejection : Rejection) : (reject rejection).OnlyPrints := by
  rw [reject]
  split
  · exact .print .output rejection.message (.finish succeeded)
  · exact .print .errors rejection.message (.finish misused)

theorem onlyPrints_status (network : Network) (host : Host) (s : Settings) :
    Task.OnlyPrints (status network host s) := by
  apply (Task.OnlyPrints.lift _).bind
  intro connection
  apply (Task.OnlyPrints.tell _ _).bind
  intro _
  apply (Task.OnlyPrints.lift _).bind
  intro directory
  apply (Task.OnlyPrints.lift _).bind
  intro _
  exact .tell _ _

theorem onlyPrints_execute (hcommand : i.command.writes = false) (network : Network) (host : Host)
    (path : String) (s : Settings) : Task.OnlyPrints (execute network host i path s) := by
  rw [execute]
  cases hkind : i.command with
  | resolve request => exact onlyPrints_resolve network host i.verbose _ _ request
  | status => exact onlyPrints_status network host _
  | settings command =>
    cases command with
    | display => exact .tell _ _
    | init force =>
      rw [hkind] at hcommand
      cases hcommand
    | path => exact .tell _ _

theorem report_withFiles (host : Host) (context : String) (result : Except Failure Unit) (d : Desk)
    (files : FileTree) :
    Desk.report host context (result, d.withFiles files) =
      ((Desk.report host context (result, d)).1,
        (Desk.report host context (result, d)).2.withFiles files) := by
  cases result <;> rfl

def loaded (host : Host) (i : Invocation) (d : Desk) : Except Failure Settings := do
  let path ← Settings.pathOf host.home i.settingsPath
  (d.run (Settings.load path)).1

theorem play_run_withFiles {files : FileTree} (hi : i.Like false veil i')
    (hcommand : i.command.writes = false)
    (hload : Agree Settings.veil (loaded host i d) (loaded host i (d.withFiles files)))
    (hnetwork : ∀ s s' c c', loaded host i d = .ok s → loaded host i (d.withFiles files) = .ok s' →
      (s.withCredential i.credential).connection = .ok c →
      (s'.withCredential i'.credential).connection = .ok c' →
      AnsweredAlike i.command s network c network' c') :
    (d.withFiles files).play (run network' host i') =
      ((d.play (run network host i)).1, (d.play (run network host i)).2.withFiles files) := by
  rw [Desk.play_run, Desk.play_run, ← hi.settingsPath]
  cases hpath : Settings.pathOf host.home i.settingsPath with
  | error failure => exact report_withFiles host _ (.error failure) d files
  | ok path =>
    have hloaded (d : Desk) : loaded host i d = (d.run (Settings.load path)).1 := by
      rw [loaded, hpath]
      rfl
    dsimp only
    rw [← hloaded, ← hloaded]
    rcases hload.cases_strict with ⟨failure, hs, hs'⟩ | ⟨s, s', hs, hs', hveil⟩
    · rw [hs, hs']
      exact report_withFiles host _ (.error failure) d files
    · rw [hs, hs']
      dsimp only
      rw [← execute_veil hi hveil hcommand (hnetwork s s' · · hs hs'), Desk.run, Desk.run,
        Desk.play_withFiles (onlyPrints_execute hcommand network host path s)]
      exact report_withFiles host "" _ _ files

theorem run_of_settings {command : SettingsCommand} (hcommand : i.command = .settings command)
    (hcommand' : i'.command = .settings command) (hpath : i.settingsPath = i'.settingsPath) :
    run network host i = run network' host i' := by
  have hexecute (path : String) (s : Settings) :
      execute network host i path s = execute network' host i' path s := by
    rw [execute, execute, hcommand, hcommand']
  rw [run, run, hpath]
  simp only [hexecute]

/-- Everything that a run of the program depends on. -/
structure Call where
  network : Network
  host : Host
  environment : Environment
  arguments : List String
  desk : Desk

namespace Call

variable {a b : Call}

def invocation (a : Call) : Except Rejection Invocation :=
  Invocation.read a.environment a.arguments

def loaded (a : Call) (i : Invocation) : Except Failure Settings :=
  Program.loaded (a.host.within a.environment) i a.desk

def run (a : Call) : Nat × Desk :=
  a.desk.play (script a.network a.host a.environment a.arguments)

theorem run_of_invocation (h : a.invocation = .ok i) :
    a.run = a.desk.play (Program.run a.network (a.host.within a.environment) i) := by
  rw [invocation] at h
  rw [run, script, h]

theorem run_of_rejection {rejection : Rejection} (h : a.invocation = .error rejection) :
    a.run = a.desk.play (reject rejection) := by
  rw [invocation] at h
  rw [run, script, h]

/-- What is wrong with a file that holds no settings is told as it is worded, and nothing else
happens. -/
theorem run_of_malformed {text : String} (h : a.invocation = .ok i)
    (hload : a.loaded i = .error (.malformedSettings text)) :
    a.run = (failed, a.desk.print .errors (Message.error
      ("Failed to load configuration: failed to parse config: " ++
        a.host.wording.malformed text))) := by
  rw [run_of_invocation h, Desk.play_run]
  rw [loaded, Program.loaded] at hload
  cases hpath : Settings.pathOf (a.host.within a.environment).home i.settingsPath with
  | error failure =>
    rw [hpath] at hload
    cases hload
    rfl
  | ok path =>
    rw [hpath] at hload
    have hfailed : (a.desk.run (Settings.load path)).1 = .error (.malformedSettings text) := hload
    dsimp only
    rw [hfailed]
    rfl

theorem within_eq {lenient : Bool} {mask : String → String} (hhost : b.host = a.host)
    (h : SameEnvironment lenient mask a.environment b.environment) :
    a.host.within a.environment = b.host.within b.environment := by
  rw [Host.within, Host.within, h.others "HOME" (by decide), h.others "RUST_LOG" (by decide), hhost]

/-- Calls that differ in nothing but credentials that are not empty: on the command line, in the
environment, and in the settings that are loaded. As far as a network is reached, it answers both
alike. -/
structure Alike (a b : Call) : Prop where
  host : b.host = a.host
  arguments : SameArguments false veil a.arguments b.arguments
  environment : SameEnvironment false veil a.environment b.environment
  desk : b.desk = a.desk.withFiles b.desk.files
  files : b.desk.files = a.desk.files ∨ ∀ i i', a.invocation = .ok i → b.invocation = .ok i' →
    ∃ s s', a.loaded i = .ok s ∧ b.loaded i' = .ok s' ∧ s.veil = s'.veil
  network : ∀ i i' s s' c c', a.invocation = .ok i → b.invocation = .ok i' →
    a.loaded i = .ok s → b.loaded i' = .ok s' →
    (s.withCredential i.credential).connection = .ok c →
    (s'.withCredential i'.credential).connection = .ok c' →
    AnsweredAlike i.command s a.network c b.network c'

theorem Alike.run_eq (h : a.Alike b)
    (hcommand : ∀ i, a.invocation = .ok i → i.command.writes = false) :
    b.run = (a.run.1, a.run.2.withFiles b.desk.files) := by
  rcases (Invocation.read_alike h.environment h.arguments).cases_strict with
    ⟨rejection, ha, hb⟩ | ⟨i, i', ha, hb, hi⟩
  · rw [run_of_rejection ha, run_of_rejection hb, h.desk,
      Desk.play_withFiles (onlyPrints_reject rejection)]
    rfl
  · have hhost := within_eq h.host h.environment
    have hloaded : b.loaded i' = Program.loaded (a.host.within a.environment) i
        (a.desk.withFiles b.desk.files) := by
      rw [loaded, Program.loaded, Program.loaded, ← hi.settingsPath, ← hhost, ← h.desk]
    rw [run_of_invocation ha, run_of_invocation hb, ← hhost, h.desk]
    apply play_run_withFiles hi (hcommand i ha)
    · rcases h.files with hsame | hveil
      · rw [show a.desk.withFiles b.desk.files = a.desk from congrArg a.desk.withFiles hsame]
        exact agree_of_map_eq rfl
      · obtain ⟨s, s', hs, hs', hview⟩ := hveil i i' ha hb
        rw [hloaded] at hs'
        change Agree Settings.veil (a.loaded i) _
        rw [hs, hs']
        exact .ok hview
    · intro s s' c c' hs hs' hc hc'
      exact h.network i i' s s' c c' ha hb hs (hloaded.trans hs') hc hc'

end Call

/-- Calls that differ in credentials alone print the same and end with the same status, unless they
write the settings. A command about the settings does the same under any credential from the command
line or the environment, and under none, down to the file that it writes. A connection is written as
a value without its credential, and read back with an empty one. -/
theorem credential_stays_hidden :
    (∀ a b : Call, a.Alike b → (∀ i, a.invocation = .ok i → i.command.writes = false) →
      b.run.1 = a.run.1 ∧ b.run.2.output = a.run.2.output ∧ b.run.2.errors = a.run.2.errors) ∧
    (∀ a b : Call, SameArguments true cover b.arguments a.arguments →
      SameEnvironment true cover b.environment a.environment → b.host = a.host →
      b.desk = a.desk → ∀ i command, a.invocation = .ok i → i.command = .settings command →
        b.run = a.run) ∧
    (∀ (c : Connection) (credential : String), { c with credential }.toValue = c.toValue) ∧
    ∀ c : Connection, c.Fits → ∀ source,
      Connection.ofValue? source c.toValue = some { c with credential := "" } := by
  refine ⟨fun a b h hcommand => ?_,
    fun a b harguments henvironment hhost hdesk i command ha hkind => ?_,
    fun c credential => rfl, fun c h source => Connection.ofValue?_toValue h source⟩
  · rw [h.run_eq hcommand]
    exact ⟨rfl, rfl, rfl⟩
  · have htracks := Invocation.read_alike henvironment harguments
    change Tracks true _ b.invocation a.invocation at htracks
    rw [ha] at htracks
    obtain ⟨i', hb, hi⟩ := htracks.exists_of_ok
    rw [Call.run_of_invocation ha, Call.run_of_invocation hb, hdesk,
      Call.within_eq hhost.symm henvironment,
      run_of_settings hkind (hi.command.trans hkind) hi.settingsPath.symm]

theorem credential_stays_hidden_of_two_passwords :
    let files (stored : String) : FileTree := ⟨[(["f"], .file (.text
      ("[directory]\nconnection_url = 'ldaps://h'\nbind_dn = 'n'\nbind_credential = '" ++ stored ++
        "'\n")))]⟩
    let call (stored : String) (switches command : List String) : Call :=
      ⟨.offline, .plain, .empty, "--config=f" :: (switches ++ command), { files := files stored }⟩
    let a := call "first" ["--bind-credential=second"] ["status"]
    let b := call "third" ["--bind-credential=fourth"] ["status"]
    let c : Connection := ⟨"ldaps://h", "n", "fifth", true, .oneLevel, 1, ⟨5, 0⟩, ⟨30, 0⟩⟩
    (b.run.1 = a.run.1 ∧ b.run.2.output = a.run.2.output ∧ b.run.2.errors = a.run.2.errors) ∧
      (call "first" [] ["config", "init"]).run =
        (call "first" ["--bind-credential=second"] ["config", "init"]).run ∧
      { c with credential := "sixth" }.toValue = c.toValue ∧
      Connection.ofValue? .json c.toValue = some { c with credential := "" } := by
  intro files call a b c
  obtain ⟨halike, hsettings, hvalue, hread⟩ := credential_stays_hidden
  have hbefore : OnlySwitches ["--config=f"] := by
    constructor
    · decide
    · intro reading h
      cases h
      rfl
  have hjoined : ∀ {credential}, Spelling.joined.Allows credential := trivial
  have ha : a.invocation = .ok ⟨some "f", some "second", none, false, .status⟩ := by
    decide +kernel
  have hb : b.invocation = .ok ⟨some "f", some "fourth", none, false, .status⟩ := by
    decide +kernel
  let s (stored : String) : Settings :=
    { directory := { url := "ldaps://h", bindDn := "n", credential := some stored } }
  have hab : a.Alike b := by
    constructor
    · rfl
    · have hveil : veil "second" = veil "fourth" := rfl
      exact .credential ["status"] hbefore hjoined hjoined hveil
    · exact ⟨fun _ _ => rfl, .inl rfl⟩
    · rfl
    · apply Or.inr
      intro i i' hi hi'
      cases ha.symm.trans hi
      cases hb.symm.trans hi'
      exact ⟨s "first", s "third", by decide +kernel, by decide +kernel, by decide⟩
    · intro i i' _ _ _ _ hi
      cases ha.symm.trans hi
      intro _ _ _ _ _ _
      rfl
  have hcommand : ∀ i, a.invocation = .ok i → i.command.writes = false := by
    intro i hi
    cases ha.symm.trans hi
    rfl
  refine ⟨halike a b hab hcommand, ?_, hvalue c "sixth", hread c ?_ .json⟩
  · have hinit : (call "first" ["--bind-credential=second"] ["config", "init"]).invocation =
        .ok ⟨some "f", some "second", none, false, .settings (.init false)⟩ := by decide +kernel
    have hwithout : SameArguments true cover ["--config=f", "config", "init"]
        ["--config=f", "--bind-credential=second", "config", "init"] :=
      .without rfl ["config", "init"] hbefore (@hjoined "second")
    exact hsettings _ (call "first" [] ["config", "init"]) hwithout ⟨fun _ _ => rfl, .inr rfl⟩ rfl rfl
      _ (.init false) hinit rfl
  · constructor
    · decide
    · constructor <;> decide
    · constructor <;> decide

end Program

end NestedGroups
